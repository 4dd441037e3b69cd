import Triage.Binary64.Reading
import Triage.Json.Basic
import Triage.Text.Integer
import Triage.Yaml.Cursor

/-!
# Values of scalars

A plain scalar is null, a truth value, an integer, a number or a text; every other scalar is a text
unless its tag says otherwise. Integers may be hexadecimal, octal or binary. Digits after a needless
zero are a text, and so is what reads as a number out of range; JSON has no infinities, so these
read as null.
-/

namespace Triage.Yaml.Scalar

def isNull (text : List Char) : Bool := ["null", "Null", "NULL", "~"].contains (.ofList text)

def bool? (text : List Char) : Option Bool :=
  if ["true", "True", "TRUE"].contains (.ofList text) then some true
  else if ["false", "False", "FALSE"].contains (.ofList text) then some false
  else none

def isSign (c : Char) : Bool := c == '+' || c == '-'

def startsWithSign (text : List Char) : Bool := text.head?.any isSign

/-- Whether a text is a run of digits with a needless zero in front, perhaps after a sign. -/
def hasNeedlessZero (text : List Char) : Bool :=
  match if startsWithSign text then text.drop 1 else text with
  | '0' :: d :: digits => (d :: digits).all Char.isDigit
  | _ => false

/-- A run of at least one digit in a base. -/
def digits? (base : Nat) (text : List Char) : Option Nat :=
  if text.isEmpty then none
  else
    text.foldl (fun n? c => do
      let d ← hexValue? c
      if d < base then return base * (← n?) + d else none) (some 0)

/-- The base that two characters in front of a number stand for, and the number. -/
def based? : List Char → Option (Nat × List Char)
  | '0' :: 'x' :: digits => some (16, digits)
  | '0' :: 'o' :: digits => some (8, digits)
  | '0' :: 'b' :: digits => some (2, digits)
  | _ => none

/-- An integer without a minus. -/
def natural? (text : List Char) : Option Nat :=
  let unsigned := match text with
    | '+' :: rest => rest
    | text => text
  let inBase := (based? unsigned).bind fun (base, digits) => digits? base digits
  inBase <|>
    if startsWithSign unsigned || hasNeedlessZero text then none else digits? 10 unsigned

/-- An integer with a minus. -/
def negative? : List Char → Option Nat
  | '-' :: digits =>
    let inBase := (based? digits).bind fun (base, digits) => digits? base digits
    inBase <|> if hasNeedlessZero digits then none else digits? 10 digits
  | _ => none

/-- An integer: refused if it does not fit into 64 bits, and none at all if not even into 128. -/
def integer? (text : List Char) : Option (Option Json) :=
  match natural? text, negative? text with
  | some n, _ =>
    if n < Text.powerOfTwo 64 then some (some (.ofNat n))
    else if n < Text.powerOfTwo 128 then some none
    else none
  | none, some n =>
    if n ≤ Text.powerOfTwo 63 then some (some (.ofInt (-n)))
    else if n ≤ Text.powerOfTwo 127 then some none
    else none
  | none, none => none

def isInfinite (text : List Char) : Bool :=
  let unsigned := match text with
    | '+' :: rest => if startsWithSign rest then [] else rest
    | '-' :: rest => rest
    | text => text
  [".inf", ".Inf", ".INF"].contains (.ofList unsigned)

def isNotANumber (text : List Char) : Bool := [".nan", ".NaN", ".NAN"].contains (.ofList text)

/-- A number with a point or an exponent; what is no finite number is null. -/
def float? (text : List Char) : Option Json :=
  if isInfinite text || isNotANumber text then some .null
  else
    match text with
    | '+' :: rest => if startsWithSign rest then none else number rest
    | text => number text
where
  number (text : List Char) : Option Json := (Binary64.read? text).map fun x => .number (.float x)

/-- The value of a plain scalar. -/
def ofPlain? (text : List Char) : Option Json :=
  if text.isEmpty || isNull text then some .null
  else
    match bool? text, integer? text with
    | some b, _ => some (.bool b)
    | none, some value? => value?
    | none, none =>
      match if hasNeedlessZero text then none else float? text with
      | some value => some value
      | none => some (.string (.ofList text))

/-- The value of a scalar; a tag of the user's is refused, as is a tag that the text does not
suit. -/
def value? (tag : Option (List Char)) (text : List Char) (plain : Bool) : Option Json :=
  match tag.map String.ofList with
  | none => if plain then ofPlain? text else some (.string (.ofList text))
  | some "tag:yaml.org,2002:bool" => (bool? text).map .bool
  | some "tag:yaml.org,2002:int" => (integer? text).join
  | some "tag:yaml.org,2002:float" => float? text
  | some "tag:yaml.org,2002:null" => if isNull text then some .null else none
  | some tag => if tag.startsWith "!" then none else some (.string (.ofList text))

end Triage.Yaml.Scalar
