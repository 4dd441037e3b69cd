import Triage.Proofs.Clauses
import Triage.Template

/-!
# Filling in a template is substitution

A template is texts with slots between them (`Layout`). Filling it in puts the values of the slots
in their places, and a dash next to a slot removes the blanks of the text on that side. Nothing
else changes: what a value brings along is not read again (`renderWith_written`).
-/

namespace Triage.Template

open Text (Blank Solid)

/-- A text that opens no action. -/
def Plain (text : List Char) : Prop := ¬ ['\x7b', '\x7b'] <:+: text

instance : DecidablePred Plain := fun text =>
  inferInstanceAs (Decidable (¬ ['\x7b', '\x7b'] <:+: text))

/-- An action as it is written: a path of fields with blanks around it, and a dash on the sides
where the blanks of the text next to it are removed. -/
structure Slot where
  trimBefore : Bool
  front : List Char
  path : List Char
  back : List Char
  trimAfter : Bool
  front_ne_nil : front ≠ []
  blank_front : Blank front
  solid_path : Solid path
  not_mem_path : '\x7d' ∉ path
  back_ne_nil : back ≠ []
  blank_back : Blank back

/-- Texts with slots between them. -/
inductive Layout where
  | last (text : List Char) (hplain : Plain text)
  | next (text : List Char) (hplain : Plain text) (hend : text.getLast? ≠ some '\x7b') (slot : Slot)
    (rest : Layout)

namespace Slot

variable (slot : Slot) (context : Json)

def dash (marked : Bool) : List Char := if marked then ['-'] else []

def action : List Char := '.' :: slot.path

/-- What stands between the braces. -/
def body : List Char :=
  dash slot.trimBefore ++ (slot.front ++ slot.action ++ slot.back) ++ dash slot.trimAfter

def written : List Char := '\x7b' :: '\x7b' :: (slot.body ++ ['\x7d', '\x7d'])

/-- The names that lead to the value; without any it is the context itself. -/
def names : List (List Char) := if slot.path = [] then [] else Text.splitAt '.' slot.path

/-- The text that the value is shown as; nothing for a field that the context lacks. -/
def value : List Char :=
  match follow slot.names context with
  | .ok value => display value
  | .error _ => []

/-- What is said of a field that the context lacks, where that is an error. -/
def fault? (missing : Missing) : Option TemplateError :=
  match missing, follow slot.names context with
  | .error, .error name => some (.unknownField (.ofList name) (.ofList slot.action))
  | _, _ => none

end Slot

namespace Layout

def slots : Layout → List Slot
  | last _ _ => []
  | next _ _ _ slot rest => slot :: rest.slots

def written : Layout → List Char
  | last text _ => text
  | next text _ _ slot rest => text ++ slot.written ++ rest.written

/-- A text without its blanks on the sides where a dash is. -/
def kept (dashBefore dashAfter : Bool) (text : List Char) : List Char :=
  let text := if dashBefore then Text.trimStart text else text
  if dashAfter then Text.trimEnd text else text

/-- The texts and the values in order; `dashBefore` tells whether a dash stands before the first
text. -/
def filled (context : Json) (dashBefore : Bool) : Layout → List Char
  | last text _ => kept dashBefore false text
  | next text _ _ slot rest =>
    kept dashBefore slot.trimBefore text ++ slot.value context ++ rest.filled context slot.trimAfter

def fault? (missing : Missing) (context : Json) (layout : Layout) : Option TemplateError :=
  layout.slots.findSome? (·.fault? context missing)

def parts (dashBefore : Bool) : Layout → List Part
  | last text _ => [.text (kept dashBefore false text)]
  | next text _ _ slot rest =>
    .text (kept dashBefore slot.trimBefore text) :: .action slot.action ::
      rest.parts slot.trimAfter

end Layout

section Scan

variable {text body : List Char}

theorem Plain.of_cons {c : Char} (h : Plain (c :: text)) : Plain text := fun hmem =>
  h (hmem.trans (List.suffix_cons c text).isInfix)

theorem textPart_reverse (trimStart trimEnd : Bool) (text : List Char) :
    textPart trimStart trimEnd text.reverse = .text (Layout.kept trimStart trimEnd text) := by
  simp only [textPart, Layout.kept, List.reverse_reverse]

theorem textParts_cons {c : Char} {s : List Char} (h : ¬ ∃ t, c :: s = '\x7b' :: '\x7b' :: t)
    (trimStart : Bool) (newest : List Char) :
    textParts trimStart newest (c :: s) = textParts trimStart (c :: newest) s := by
  rw [textParts]
  rintro t rfl rfl
  exact h ⟨t, rfl⟩

theorem textParts_plain (h : Plain text) (trimStart : Bool) (newest : List Char) :
    textParts trimStart newest text = [textPart trimStart false (text.reverse ++ newest)] := by
  induction text generalizing newest with
  | nil => rfl
  | cons c text ih =>
    have hopen : ¬ ∃ t, c :: text = '\x7b' :: '\x7b' :: t := by
      rintro ⟨t, ht⟩
      exact h ⟨[], t, ht.symm⟩
    rw [textParts_cons hopen, ih h.of_cons, List.reverse_cons, List.append_assoc,
      List.singleton_append]

/-- A text before an action is read up to the braces of the action. -/
theorem textParts_append (h : Plain text) (hend : text.getLast? ≠ some '\x7b') (trimStart : Bool)
    (newest s : List Char) : textParts trimStart newest (text ++ '\x7b' :: '\x7b' :: s) =
      bodyParts trimStart (text.reverse ++ newest) [] s := by
  induction text generalizing newest with
  | nil => rw [List.nil_append, textParts, List.reverse_nil, List.nil_append]
  | cons c text ih =>
    -- Braces that open an action here would lie in the text, or begin with its last character.
    have hopen : ¬ ∃ t, c :: (text ++ '\x7b' :: '\x7b' :: s) = '\x7b' :: '\x7b' :: t := by
      rintro ⟨t, ht⟩
      rcases text with _ | ⟨d, text⟩
      · cases ht
        exact hend rfl
      · cases ht
        exact h ⟨[], text, rfl⟩
    have hend' : text.getLast? ≠ some '\x7b' := fun hlast => hend (by
      rw [List.getLast?_cons, hlast]
      rfl)
    rw [List.cons_append, textParts_cons hopen, ih h.of_cons hend', List.reverse_cons,
      List.append_assoc, List.singleton_append]

theorem bodyParts_cons {c : Char} (h : '\x7d' ≠ c) (trimStart : Bool) (newest read s : List Char) :
    bodyParts trimStart newest read (c :: s) = bodyParts trimStart newest (c :: read) s := by
  rw [bodyParts]
  rintro t rfl
  exact absurd rfl h

/-- What stands between the braces is read up to the first that closes. -/
theorem bodyParts_append (h : '\x7d' ∉ body) (trimStart : Bool) (newest read s : List Char) :
    bodyParts trimStart newest read (body ++ '\x7d' :: '\x7d' :: s) =
      bodyParts trimStart newest (body.reverse ++ read) ('\x7d' :: '\x7d' :: s) := by
  induction body generalizing read with
  | nil => rfl
  | cons c body ih =>
    rw [List.mem_cons, not_or] at h
    rw [List.cons_append, bodyParts_cons h.1, ih h.2, List.reverse_cons, List.append_assoc,
      List.singleton_append]

theorem dropFront?_dash {front : List Char} (hne : front ≠ []) (hfront : Blank front)
    (marked : Bool) (s : List Char) : Text.dropFront? ['-'] (Slot.dash marked ++ (front ++ s)) =
      if marked then some (front ++ s) else none := by
  obtain ⟨c, front, rfl⟩ := List.exists_cons_of_ne_nil hne
  -- A blank is no dash, so without a mark there is nothing to take off.
  have hc : c ≠ '-' := by
    rintro rfl
    cases hfront '-' List.mem_cons_self
  cases marked <;> simp [Text.dropFront?, Slot.dash, List.isPrefixOf?, hc.symm]

theorem dropBack?_dash {back : List Char} (hne : back ≠ []) (hback : Blank back)
    (marked : Bool) (s : List Char) : Text.dropBack? ['-'] (s ++ back ++ Slot.dash marked) =
      if marked then some (s ++ back) else none := by
  have hback' : Blank back.reverse := fun c hc => hback c (List.mem_reverse.1 hc)
  have hdash : (Slot.dash marked).reverse = Slot.dash marked := by cases marked <;> rfl
  have hfront := dropFront?_dash (by simpa using hne) hback' marked s.reverse
  unfold Text.dropFront? at hfront
  rw [Text.dropBack?, List.isSuffixOf?, List.reverse_append, List.reverse_append, hdash,
    List.reverse_singleton, hfront]
  cases marked <;> simp

theorem readBody_dashes {front action back : List Char} (hfront : front ≠ []) (hfront' : Blank front)
    (haction : Solid action) (hback : back ≠ []) (hback' : Blank back) (before after : Bool) :
    readBody (Slot.dash before ++ (front ++ action ++ back) ++ Slot.dash after) =
      (before, action, after) := by
  have hdrop := dropFront?_dash hfront hfront' before (action ++ back ++ Slot.dash after)
  have hdrop' := dropBack?_dash hback hback' after (front ++ action)
  have htrim := Text.trim_around hfront' haction hback'
  simp only [List.append_assoc] at hdrop hdrop' htrim
  simp only [readBody, List.append_assoc, hdrop]
  cases before
  all_goals
    simp only [Bool.false_eq_true, ↓reduceIte, Slot.dash, List.nil_append] at hdrop' ⊢
    rw [hdrop']
    cases after
    all_goals simp [htrim]

theorem readBody_body (slot : Slot) :
    readBody slot.body = (slot.trimBefore, slot.action, slot.trimAfter) :=
  readBody_dashes slot.front_ne_nil slot.blank_front (List.forall_mem_cons.2 ⟨rfl, slot.solid_path⟩)
    slot.back_ne_nil slot.blank_back slot.trimBefore slot.trimAfter

theorem Slot.not_mem_body (slot : Slot) : '\x7d' ∉ slot.body := by
  have hdash (marked : Bool) : '\x7d' ∉ dash marked := by cases marked <;> decide
  have hblank {s : List Char} (h : Blank s) : '\x7d' ∉ s := fun hmem => by cases h _ hmem
  simp only [body, action, List.mem_append, List.mem_cons, not_or]
  exact ⟨⟨hdash _, ⟨hblank slot.blank_front, by decide, slot.not_mem_path⟩,
    hblank slot.blank_back⟩, hdash _⟩

theorem parts_written (layout : Layout) (dashBefore : Bool) :
    textParts dashBefore [] layout.written = layout.parts dashBefore := by
  induction layout generalizing dashBefore with
  | last text hplain =>
    rw [Layout.written, textParts_plain hplain, List.append_nil, textPart_reverse]
    rfl
  | next text hplain hend slot rest ih =>
    have hwritten : (Layout.next text hplain hend slot rest).written =
        text ++ '\x7b' :: '\x7b' :: (slot.body ++ '\x7d' :: '\x7d' :: rest.written) := by
      simp [Layout.written, Slot.written]
    rw [hwritten, textParts_append hplain hend, bodyParts_append slot.not_mem_body, bodyParts]
    simp only [List.append_nil, List.reverse_reverse, readBody_body, textPart_reverse, ih]
    rfl

end Scan

section Values

theorem path?_action (slot : Slot) : path? slot.action = some slot.names := by
  have hsolid : slot.path.any Text.isBlank = false := by
    simpa [Solid] using slot.solid_path
  unfold Slot.action Slot.names
  cases hpath : slot.path with
  | nil => rfl
  | cons c path =>
    rw [hpath] at hsolid
    simp [path?, hsolid]

theorem insert_action (missing : Missing) (context : Json) (slot : Slot) :
    insert missing context slot.action =
      match slot.fault? context missing with
      | some fault => .error fault
      | none => .ok (slot.value context) := by
  simp only [insert, path?_action, Slot.fault?, Slot.value]
  rcases follow slot.names context with name | value <;> cases missing <;> rfl

theorem renderParts_parts (missing : Missing) (template : String) (context : Json) (layout : Layout)
    (dashBefore : Bool) : renderParts missing template context (layout.parts dashBefore) =
      match layout.fault? missing context with
      | some fault => .error fault
      | none => .ok (layout.filled context dashBefore) := by
  induction layout generalizing dashBefore with
  | last text hplain =>
    have htext : renderParts missing template context [.text (Layout.kept dashBefore false text)] =
        .ok (Layout.kept dashBefore false text ++ []) := rfl
    rw [List.append_nil] at htext
    exact htext
  | next text hplain hend slot rest ih =>
    -- Parts are filled in from the left, so a fault of this slot comes before those of the rest.
    have hfault : (Layout.next text hplain hend slot rest).fault? missing context =
        (slot.fault? context missing).or (rest.fault? missing context) := by
      rw [Layout.fault?, Layout.slots, List.findSome?_cons]
      cases slot.fault? context missing <;> rfl
    simp only [Layout.parts, renderParts, insert_action, ih, hfault, Layout.filled]
    rcases slot.fault? context missing with _ | fault
    · rcases rest.fault? missing context with _ | fault
      · simp only [Option.or_none, List.append_assoc]
        rfl
      · rfl
    · rfl

theorem fault?_eq_none {missing : Missing} {context : Json} {layout : Layout} :
    layout.fault? missing context = none ↔
      missing = .empty ∨ ∀ slot ∈ layout.slots, ∃ value, follow slot.names context = .ok value := by
  have hslot (slot : Slot) : slot.fault? context missing = none ↔
      missing = .empty ∨ ∃ value, follow slot.names context = .ok value := by
    unfold Slot.fault?
    rcases follow slot.names context with name | value <;> cases missing <;> simp
  rw [Layout.fault?, List.findSome?_eq_none_iff]
  simp only [hslot]
  cases missing <;> simp

/-- A template is filled in with the values in the places of its slots, unless a field that is
missing is an error; then the first of them is reported. -/
theorem renderWith_written (missing : Missing) (context : Json) (layout : Layout) :
    (∀ text, renderWith missing (.ofList layout.written) context = .ok text ↔
      text = .ofList (layout.filled context false) ∧
        (missing = .empty ∨ ∀ slot ∈ layout.slots, ∃ value, follow slot.names context = .ok value))
    ∧ ∀ fault, renderWith missing (.ofList layout.written) context = .error fault ↔
      layout.fault? missing context = some fault := by
  have hrender : renderWith missing (.ofList layout.written) context =
      match layout.fault? missing context with
      | some fault => .error fault
      | none => .ok (.ofList (layout.filled context false)) := by
    rw [renderWith, parts, String.toList_ofList, parts_written, renderParts_parts]
    cases layout.fault? missing context <;> rfl
  simp only [hrender, ← fault?_eq_none]
  rcases layout.fault? missing context with _ | fault
  · simp [eq_comm]
  · simp

/-- A template of two slots, the first with a dash on either side. -/
def greeting : Layout :=
  .next "a   ".toList (by decide +kernel) (by decide +kernel)
    ⟨true, [' '], "A".toList, [' '], true, by decide, by decide +kernel, by decide +kernel,
      by decide +kernel, by decide, by decide +kernel⟩ <|
  .next "  b ".toList (by decide +kernel) (by decide +kernel)
    ⟨false, [' '], "pod.Name".toList, [' '], false, by decide, by decide +kernel, by decide +kernel,
      by decide +kernel, by decide, by decide +kernel⟩ <|
  .last "!".toList (by decide +kernel)

/-- Braces and blanks of a value stand as they are, also next to a dash. -/
theorem renderWith_written_of_braces :
    renderWith .error "a   \x7b\x7b- .A -\x7d\x7d  b \x7b\x7b .pod.Name \x7d\x7d!"
      (.object [("A", .string " \x7d\x7d\x7b\x7b .B "),
        ("pod", .object [("name", .string "dns")])]) = .ok "a \x7d\x7d\x7b\x7b .B b dns!"
    ∧ renderWith .error "a   \x7b\x7b- .A -\x7d\x7d  b \x7b\x7b .pod.Name \x7d\x7d!"
      (.object [("A", .string "x"), ("pod", .object [])]) =
        .error (.unknownField "Name" ".pod.Name") := by
  have hwritten : "a   \x7b\x7b- .A -\x7d\x7d  b \x7b\x7b .pod.Name \x7d\x7d!" =
      String.ofList greeting.written := by decide +kernel
  rw [hwritten]
  refine ⟨((renderWith_written .error _ greeting).1 _).2 ⟨by decide +kernel, .inr ?_⟩,
    ((renderWith_written .error _ greeting).2 _).2 (by decide +kernel)⟩
  simp only [greeting, Layout.slots, List.forall_mem_cons]
  exact ⟨⟨_, rfl⟩, ⟨_, rfl⟩, List.forall_mem_nil _⟩

end Values

end Triage.Template
