import Triage.Proofs.Success
import Triage.Template

/-!
# What a missing field changes

A part of a template may be at fault in itself (`Part.flaw?`), or it may name a field that the
context lacks (`Part.gap?`). Flaws count under either policy and gaps under the strict one alone, and
a template is filled in exactly where no part is at fault (`renderParts_eq`). So what the strict
policy renders the lenient one renders too, and what the lenient one refuses is refused for every
context (`lenient_differs_on_missing_fields`).
-/

namespace Triage.Template

/-- The text of the value that a path leads to; nothing where a field is missing. -/
def valueAt (context : Json) (path : List (List Char)) : List Char :=
  match follow path context with
  | .ok value => display value
  | .error _ => []

/-- Every field that the action goes through is there. -/
def Finds (context : Json) (action : List Char) : Prop :=
  ∀ path, path? action = some path → ∃ value, follow path context = .ok value

namespace Part

/-- What is put in the place of a part that is not at fault. -/
def shown (context : Json) : Part → List Char
  | text s => s
  | action body => ((path? body).map (valueAt context)).getD []
  | unclosed => []

/-- What is wrong with a part whatever the context is. -/
def flaw? (template : String) : Part → Option TemplateError
  | text _ => none
  | action body => if path? body = none then some (.unsupported (.ofList body)) else none
  | unclosed => some (.unclosed template)

/-- The first field of a part that is missing. -/
def gap? (context : Json) : Part → Option TemplateError
  | action body => (path? body).bind fun path =>
    match follow path context with
    | .ok _ => none
    | .error name => some (.unknownField (.ofList name) (.ofList body))
  | _ => none

def fault? (missing : Missing) (template : String) (context : Json) (part : Part) :
    Option TemplateError :=
  (part.flaw? template).or (if missing = .error then part.gap? context else none)

end Part

def flaw? (template : String) : Option TemplateError :=
  (parts template.toList).findSome? (·.flaw? template)

section Parts

variable {missing : Missing} {template : String} {context : Json} {part : Part} {e : TemplateError}

theorem insert_eq (missing : Missing) (template : String) (context : Json) (body : List Char) :
    insert missing context body =
      match (Part.action body).fault? missing template context with
      | some e => .error e
      | none => .ok ((Part.action body).shown context) := by
  cases hpath : path? body with
  | none => simp [insert, Part.fault?, Part.flaw?, hpath]
  | some path =>
    simp only [insert, Part.fault?, Part.flaw?, Part.gap?, Part.shown, valueAt, hpath,
      Option.bind_some, Option.map_some, Option.getD_some]
    rcases follow path context with name | value <;> cases missing <;> rfl

/-- Parts are filled in from the left, so the first that is at fault is reported. -/
theorem renderParts_eq (missing : Missing) (template : String) (context : Json) :
    ∀ ps : List Part, renderParts missing template context ps =
      match ps.findSome? (·.fault? missing template context) with
      | some e => .error e
      | none => .ok (ps.flatMap (·.shown context))
  | [] => rfl
  | .text s :: ps => by
    have htext : (Part.text s).fault? missing template context = none := by cases missing <;> rfl
    rw [renderParts, renderParts_eq missing template context ps, List.findSome?_cons, htext]
    dsimp only
    cases ps.findSome? (·.fault? missing template context) <;> rfl
  | .action body :: ps => by
    rw [renderParts, insert_eq missing template, renderParts_eq missing template context ps,
      List.findSome?_cons]
    cases (Part.action body).fault? missing template context with
    | some e => rfl
    | none => cases ps.findSome? (·.fault? missing template context) <;> rfl
  | .unclosed :: ps => by
    have hunclosed : Part.unclosed.fault? missing template context = some (.unclosed template) := rfl
    rw [renderParts, List.findSome?_cons, hunclosed]

theorem renderWith_eq_ok_iff {text : String} : renderWith missing template context = .ok text ↔
    (∀ part ∈ parts template.toList, part.fault? missing template context = none)
      ∧ text = .ofList ((parts template.toList).flatMap (·.shown context)) := by
  rw [renderWith, renderParts_eq, ← List.findSome?_eq_none_iff]
  cases (parts template.toList).findSome? (·.fault? missing template context) with
  | some e => exact ⟨nofun, fun h => nomatch h.1⟩
  | none =>
    rw [ok_bind, pure_eq_ok, Except.ok.injEq]
    exact ⟨fun h => ⟨rfl, h.symm⟩, fun h => h.2.symm⟩

theorem renderWith_eq_error_iff : renderWith missing template context = .error e ↔
    (parts template.toList).findSome? (·.fault? missing template context) = some e := by
  rw [renderWith, renderParts_eq]
  cases (parts template.toList).findSome? (·.fault? missing template context) with
  | some e' =>
    show (.error e' : Except TemplateError String) = .error e ↔ _
    rw [Except.error.injEq, Option.some.injEq]
  | none => exact ⟨nofun, nofun⟩

@[simp]
theorem Part.fault?_empty (template : String) (context : Json) (part : Part) :
    part.fault? .empty template context = part.flaw? template :=
  Option.or_none

theorem Part.fault?_error (template : String) (context : Json) (part : Part) :
    part.fault? .error template context = (part.flaw? template).or (part.gap? context) := rfl

theorem Part.gap?_eq_none_iff :
    part.gap? context = none ↔ ∀ body, part = .action body → Finds context body := by
  cases part with
  | text s => exact ⟨fun _ => nofun, fun _ => rfl⟩
  | unclosed => exact ⟨fun _ => nofun, fun _ => rfl⟩
  | action body =>
    simp only [gap?, Finds, Part.action.injEq, forall_eq']
    cases path? body with
    | none => simp
    | some path =>
      simp only [Option.bind_some, Option.some.injEq, forall_eq']
      cases follow path context <;> simp

theorem Part.gap?_eq_some (h : part.gap? context = some e) : ∃ name body, part = .action body
    ∧ ¬ Finds context body ∧ e = .unknownField name (.ofList body) := by
  have hmissing : ¬ ∀ body, part = .action body → Finds context body := by
    rw [← gap?_eq_none_iff, h]
    exact Option.some_ne_none e
  push Not at hmissing
  obtain ⟨body, rfl, hfinds⟩ := hmissing
  obtain ⟨path, -, hpath⟩ := Option.bind_eq_some_iff.1 h
  split at hpath
  · cases hpath
  · rename_i name _
    cases hpath
    exact ⟨.ofList name, body, rfl, hfinds, rfl⟩

/-- The first fault under the strict policy is the first flaw, unless a gap comes before it. -/
theorem findSome?_fault?_error {ps : List Part}
    (h : ps.findSome? (·.fault? .error template context) = some e) :
    ps.findSome? (·.flaw? template) = some e ∨ ∃ part ∈ ps, part.gap? context = some e := by
  obtain ⟨before, part, after, rfl, hpart, hbefore⟩ := List.findSome?_eq_some_iff.1 h
  rw [Part.fault?_error, Option.or_eq_some_iff] at hpart
  rcases hpart with hflaw | ⟨-, hgap⟩
  · refine .inl (List.findSome?_eq_some_iff.2 ⟨before, part, after, rfl, hflaw, fun x hx => ?_⟩)
    have hx := hbefore x hx
    rw [Part.fault?_error, Option.or_eq_none_iff] at hx
    exact hx.1
  · exact .inr ⟨part, by simp, hgap⟩

/-- The policies differ on missing fields alone. The strict one renders what the lenient one does
where every field is there, and nothing elsewhere. Where the lenient one fails the strict one fails
too, with the same error or on a field that is missing before; and the lenient one fails by the
first flaw of the template, whatever the context is. -/
theorem lenient_differs_on_missing_fields (template : String) :
    (∀ context text, render template context = .ok text ↔
      renderWith .empty template context = .ok text
      ∧ ∀ action, .action action ∈ parts template.toList → Finds context action)
    ∧ (∀ context e, renderWith .empty template context = .error e →
      render template context = .error e
      ∨ ∃ name action, .action action ∈ parts template.toList ∧ ¬ Finds context action
        ∧ render template context = .error (.unknownField name (.ofList action)))
    ∧ ∀ context e, renderWith .empty template context = .error e ↔ flaw? template = some e := by
  have hlenient (context : Json) (e : TemplateError) :
      renderWith .empty template context = .error e ↔ flaw? template = some e := by
    simp only [renderWith_eq_error_iff, Part.fault?_empty, flaw?]
  refine ⟨fun context text => ?_, fun context e he => ?_, hlenient⟩
  · have hgaps : (∀ part ∈ parts template.toList, part.gap? context = none) ↔
        ∀ action, .action action ∈ parts template.toList → Finds context action := by
      simp only [Part.gap?_eq_none_iff]
      exact ⟨fun h action hmem => h _ hmem action rfl, fun h part hmem body heq =>
        h body (heq ▸ hmem)⟩
    rw [render, renderWith_eq_ok_iff, renderWith_eq_ok_iff, ← hgaps]
    simp only [Part.fault?_empty, Part.fault?_error, Option.or_eq_none_iff, forall_and]
    tauto
  · have hflaw := (hlenient context e).1 he
    -- the strict policy reports something, since the flaw is a fault under it too
    have hsome : ((parts template.toList).findSome?
        (·.fault? .error template context)).isSome = true := by
      obtain ⟨part, hmem, hpart⟩ := List.exists_of_findSome?_eq_some hflaw
      rw [List.findSome?_isSome_iff]
      exact ⟨part, hmem, by rw [Part.fault?_error, hpart]; rfl⟩
    obtain ⟨e', he'⟩ := Option.isSome_iff_exists.1 hsome
    have hstrict : render template context = .error e' := renderWith_eq_error_iff.2 he'
    rcases findSome?_fault?_error he' with h | ⟨part, hmem, hgap⟩
    · rw [flaw?, h, Option.some.injEq] at hflaw
      exact .inl (hflaw ▸ hstrict)
    · obtain ⟨name, action, rfl, hfinds, rfl⟩ := Part.gap?_eq_some hgap
      exact .inr ⟨name, action, hmem, hfinds, hstrict⟩

/-- A field that is missing hides what is wrong with a later action. -/
example :
    let template := "\x7b\x7b .Node \x7d\x7d\x7b\x7b if \x7d\x7d"
    renderWith .empty template (.object []) = .error (.unsupported "if")
      ∧ render template (.object []) = .error (.unknownField "Node" ".Node") := by
  decide +kernel

end Parts

end Triage.Template
