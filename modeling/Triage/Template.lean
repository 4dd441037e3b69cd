import Triage.Error
import Triage.Json.Compact
import Triage.Unicode.LowerCase

/-!
# Templates

A template is text with actions in double braces. The only action inserts a field of a context:
`.` is the context itself, `.a.b` a field inside it. A dash next to the braces removes the blanks
on that side. `parts` cuts a template up and `render` fills it in, from left to right, so the first
fault is the one that is reported.
-/

namespace Triage.Template

/-- What a field that the context lacks stands for. -/
inductive Missing where
  | error
  | empty
  deriving DecidableEq, Repr

inductive Part where
  | text (s : List Char)
  | action (body : List Char)
  /-- Braces that are never closed; nothing after them counts. -/
  | unclosed
  deriving DecidableEq, Repr

/-- A text between actions, newest character first, with the blanks removed on the sides where
that is asked for. -/
def textPart (trimStart trimEnd : Bool) (newest : List Char) : Part :=
  let s := newest.reverse
  let s := if trimStart then Text.trimStart s else s
  .text (if trimEnd then Text.trimEnd s else s)

/-- What the characters between the braces say: whether blanks are removed before and after the
action, and the action itself. -/
def readBody (body : List Char) : Bool × List Char × Bool :=
  let (before, body) := match Text.dropFront? ['-'] body with
    | some rest => (true, rest)
    | none => (false, body)
  let (after, body) := match Text.dropBack? ['-'] body with
    | some rest => (true, rest)
    | none => (false, body)
  (before, Text.trim body, after)

mutual
/-- The parts of a template, where `newest` holds the text read since the last action. -/
def textParts (trimStart : Bool) (newest : List Char) : List Char → List Part
  | '\x7b' :: '\x7b' :: s => bodyParts trimStart newest [] s
  | c :: s => textParts trimStart (c :: newest) s
  | [] => [textPart trimStart false newest]

/-- The parts of a template from inside an action, where `body` holds what was read of it. -/
def bodyParts (trimStart : Bool) (newest body : List Char) : List Char → List Part
  | '\x7d' :: '\x7d' :: s =>
    let (before, action, after) := readBody body.reverse
    textPart trimStart before newest :: .action action :: textParts after [] s
  | c :: s => bodyParts trimStart newest (c :: body) s
  | [] => [.unclosed]
end

def parts (template : List Char) : List Part := textParts false [] template

/-- The text that a value is inserted as. -/
def display : Json → List Char
  | .null => []
  | .string s => s.toList
  | value => value.text

/-- The field of an object by its name, or else by its name with a small first letter. -/
def field? (context : Json) (name : List Char) : Option Json :=
  match context.member? (.ofList name), name with
  | some value, _ => some value
  | none, [] => none
  | none, c :: rest => context.member? (.ofList (Unicode.lowerCase c ++ rest))

/-- Follows names into a context; the error is the first name that leads nowhere. -/
def follow : List (List Char) → Json → Except (List Char) Json
  | [], context => .ok context
  | name :: names, context =>
    match field? context name with
    | some value => follow names value
    | none => .error name

/-- The names of the fields that an action goes through. -/
def path? (action : List Char) : Option (List (List Char)) :=
  match action with
  | ['.'] => some []
  | '.' :: path => if path.any Text.isBlank then none else some (Text.splitAt '.' path)
  | _ => none

/-- What an action inserts. -/
def insert (missing : Missing) (context : Json) (action : List Char) :
    Except TemplateError (List Char) :=
  match path? action with
  | none => .error (.unsupported (.ofList action))
  | some path =>
    match follow path context, missing with
    | .ok value, _ => .ok (display value)
    | .error _, .empty => .ok []
    | .error name, .error => .error (.unknownField (.ofList name) (.ofList action))

/-- Fills in the parts of `template`. -/
def renderParts (missing : Missing) (template : String) (context : Json) :
    List Part → Except TemplateError (List Char)
  | [] => .ok []
  | .text s :: rest => do return s ++ (← renderParts missing template context rest)
  | .action body :: rest => do
    let inserted ← insert missing context body
    return inserted ++ (← renderParts missing template context rest)
  | .unclosed :: _ => .error (.unclosed template)

def renderWith (missing : Missing) (template : String) (context : Json) :
    Except TemplateError String := do
  return .ofList (← renderParts missing template context (parts template.toList))

/-- Fills in a template; a field that the context lacks is an error. -/
def render (template : String) (context : Json) : Except TemplateError String :=
  renderWith .error template context

end Triage.Template
