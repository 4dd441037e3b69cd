import Mathlib.Data.List.Basic
import Triage.Evidence.Directory
import Triage.Proofs.Success

/-!
# Paths and the names on them

A path of names without slashes is read back as the same names (`steps_pathOf`, `steps_absolute`),
so the path of a file says which names lead to it (`pathOf_inj`). What a request stands for are its
steps without the empty ones and the dots (`requested_eq_ok`).
-/

namespace Triage

namespace Text

theorem splitAt_eq_splitOn (c : Char) : ∀ s : List Char, splitAt c s = s.splitOn c
  | [] => rfl
  | d :: s => by
    rw [splitAt, List.splitOn_cons_eq_if_modifyHead, splitAt_eq_splitOn c s]
    by_cases hd : d = c
    · simp [hd]
    · rw [if_neg hd, if_neg (by simpa using hd)]
      cases h : s.splitOn c with
      | nil => exact absurd h (List.splitOn_ne_nil c s)
      | cons piece pieces => rfl

theorem not_mem_of_mem_splitAt {c : Char} :
    ∀ {s piece : List Char}, piece ∈ splitAt c s → c ∉ piece
  | [], piece, h => by
    simp only [splitAt, List.mem_singleton] at h
    simp [h]
  | d :: s, piece, h => by
    rw [splitAt] at h
    split at h
    · rcases List.mem_cons.1 h with rfl | h
      · simp
      · exact not_mem_of_mem_splitAt h
    · rename_i hd
      have hdc : c ≠ d := fun e => hd e.symm
      split at h
      · rw [List.mem_singleton.1 h]
        simpa using hdc
      · rename_i first rest hs
        rcases List.mem_cons.1 h with rfl | h
        · have := not_mem_of_mem_splitAt (s := s) (c := c) (hs ▸ List.mem_cons_self)
          simp [hdc, this]
        · exact not_mem_of_mem_splitAt (s := s) (hs ▸ List.mem_cons_of_mem _ h)

theorem splitAt_ne_nil (c : Char) (s : List Char) : splitAt c s ≠ [] := by
  rw [splitAt_eq_splitOn]
  exact List.splitOn_ne_nil c s

theorem splitAt_append {c : Char} {front s piece : List Char} {pieces : List (List Char)}
    (h : c ∉ front) (hs : splitAt c s = piece :: pieces) :
    splitAt c (front ++ s) = (front ++ piece) :: pieces := by
  induction front with
  | nil => exact hs
  | cons d front ih =>
    rw [List.mem_cons, not_or] at h
    rw [List.cons_append, splitAt, if_neg (Ne.symm h.1), ih h.2]
    rfl

theorem splitAt_of_not_mem {c : Char} {s : List Char} (h : c ∉ s) : splitAt c s = [s] := by
  have hs : splitAt c (s ++ []) = [s ++ []] := splitAt_append h rfl
  simpa using hs

theorem afterLast_append {c : Char} {name : List Char} (front : List Char) (h : c ∉ name) :
    afterLast c (front ++ c :: name) = name := by
  rw [afterLast, splitAt_eq_splitOn, List.splitOn_append_cons_self, ← splitAt_eq_splitOn c name,
    splitAt_of_not_mem h]
  simp

/-- The first piece ends at the first of the marks or with the text. -/
theorem splitAt_eq_cons {c : Char} {s piece : List Char} {pieces : List (List Char)}
    (hs : splitAt c s = piece :: pieces) : s = piece ∧ pieces = []
      ∨ ∃ t, s = piece ++ c :: t ∧ pieces = splitAt c t := by
  induction s generalizing piece with
  | nil =>
    cases hs
    exact .inl ⟨rfl, rfl⟩
  | cons d s ih =>
    unfold splitAt at hs
    split at hs
    · rename_i hd
      cases hs
      exact .inr ⟨s, by rw [hd]; rfl, rfl⟩
    · obtain ⟨first, rest, hfirst⟩ := List.exists_cons_of_ne_nil (splitAt_ne_nil c s)
      rw [hfirst] at hs
      cases hs
      rcases ih hfirst with ⟨rfl, rfl⟩ | ⟨t, rfl, rfl⟩
      · exact .inl ⟨rfl, rfl⟩
      · exact .inr ⟨t, rfl, rfl⟩

theorem splitAt_cons_self (c : Char) (s : List Char) : splitAt c (c :: s) = [] :: splitAt c s := by
  rw [splitAt, if_pos rfl]

theorem infix_of_mem_splitAt {c : Char} {s piece : List Char} (h : piece ∈ splitAt c s) :
    piece <:+: s := by
  generalize hpieces : splitAt c s = pieces at h
  induction pieces generalizing s with
  | nil => exact absurd hpieces (splitAt_ne_nil c s)
  | cons first pieces ih =>
    rcases splitAt_eq_cons hpieces with ⟨rfl, rfl⟩ | ⟨t, rfl, rfl⟩
    · obtain rfl := List.mem_singleton.1 h
      exact List.infix_rfl
    · rcases List.mem_cons.1 h with rfl | h
      · exact (List.prefix_append piece _).isInfix
      · exact (ih rfl h).trans ⟨first ++ [c], [], by simp⟩

/-- What has no mark in it lies in one of the pieces. -/
theorem exists_mem_splitAt {c : Char} {s run : List Char} (h : run <:+: s) (hrun : c ∉ run) :
    ∃ piece ∈ splitAt c s, run <:+: piece := by
  obtain ⟨front, back, rfl⟩ := h
  induction front with
  | nil =>
    obtain ⟨piece, pieces, hpieces⟩ := List.exists_cons_of_ne_nil (splitAt_ne_nil c back)
    rw [List.nil_append, splitAt_append hrun hpieces]
    exact ⟨run ++ piece, List.mem_cons_self, (List.prefix_append run piece).isInfix⟩
  | cons d front ih =>
    obtain ⟨piece, hmem, hpiece⟩ := ih
    rw [List.cons_append, List.cons_append, splitAt]
    split
    · exact ⟨piece, List.mem_cons_of_mem _ hmem, hpiece⟩
    · obtain ⟨first, rest, hfirst⟩ :=
        List.exists_cons_of_ne_nil (splitAt_ne_nil c (front ++ run ++ back))
      rw [hfirst] at hmem ⊢
      rcases List.mem_cons.1 hmem with rfl | hmem
      · exact ⟨d :: piece, List.mem_cons_self, hpiece.trans (List.suffix_cons d piece).isInfix⟩
      · exact ⟨piece, List.mem_cons_of_mem _ hmem, hpiece⟩

end Text

/-- Pieces that are joined by a mark which none of them has are the pieces at that mark. -/
theorem splitString_intercalate {c : Char} {mark : String} {pieces : List String}
    (hmark : mark.toList = [c]) (hne : pieces ≠ []) (h : ∀ piece ∈ pieces, c ∉ piece.toList) :
    splitString c (mark.intercalate pieces) = pieces := by
  have hpieces : ∀ piece ∈ pieces.map String.toList, c ∉ piece := by
    simpa using h
  rw [splitString, Text.splitAt_eq_splitOn, String.toList_intercalate, hmark,
    List.splitOn_intercalate c hpieces (by simpa using hne)]
  simp [Function.comp_def]

/-- A name that an entry of a directory can have. -/
structure IsEntryName (name : String) : Prop where
  ne_empty : name ≠ ""
  ne_dot : name ≠ "."
  ne_dots : name ≠ ".."
  no_slash : '/' ∉ name.toList
  no_zero : '\x00' ∉ name.toList

instance : DecidablePred IsEntryName := fun name =>
  decidable_of_iff (name ≠ "" ∧ name ≠ "." ∧ name ≠ ".." ∧ '/' ∉ name.toList ∧ '\x00' ∉ name.toList)
    ⟨fun ⟨h1, h2, h3, h4, h5⟩ => ⟨h1, h2, h3, h4, h5⟩, fun ⟨h1, h2, h3, h4, h5⟩ =>
      ⟨h1, h2, h3, h4, h5⟩⟩

namespace FileSystem

theorem steps_eq (path : String) : steps path = (path.toList.splitOn '/').map String.ofList := by
  rw [steps, splitString, Text.splitAt_eq_splitOn]

theorem steps_ne_nil (path : String) : steps path ≠ [] := by
  simp [steps_eq]

theorem no_slash_of_mem_steps {path step : String} (h : step ∈ steps path) :
    '/' ∉ step.toList := by
  obtain ⟨piece, hpiece, rfl⟩ := List.mem_map.1 h
  rw [String.toList_ofList]
  exact Text.not_mem_of_mem_splitAt hpiece

theorem steps_append_slash (front back : String) :
    steps (front ++ "/" ++ back) = steps front ++ steps back := by
  have h : (front ++ "/" ++ back).toList = front.toList ++ '/' :: back.toList := by simp
  rw [steps_eq, h, List.splitOn_append_cons_self, List.map_append, ← steps_eq, ← steps_eq]

end FileSystem

namespace Directory

theorem steps_pathOf {names : List String} (hne : names ≠ [])
    (h : ∀ name ∈ names, '/' ∉ name.toList) : FileSystem.steps (pathOf names) = names :=
  splitString_intercalate rfl hne h

theorem pathOf_eq_empty {names : List String} (h : ∀ name ∈ names, IsEntryName name)
    (hp : pathOf names = "") : names = [] := by
  by_contra hne
  have hsteps := steps_pathOf hne fun name hname => (h name hname).no_slash
  rw [hp, show FileSystem.steps "" = [""] from by decide] at hsteps
  exact (h "" (by simp [← hsteps])).ne_empty rfl

/-- The path of a file says which names lead to it. -/
theorem pathOf_inj {names others : List String} (h : ∀ name ∈ names, IsEntryName name)
    (h' : ∀ name ∈ others, IsEntryName name) (hp : pathOf names = pathOf others) :
    names = others := by
  rcases eq_or_ne names [] with rfl | hne
  · exact (pathOf_eq_empty h' (by rw [← hp]; rfl)).symm
  rcases eq_or_ne others [] with rfl | hne'
  · exact pathOf_eq_empty h (by rw [hp]; rfl)
  rw [← steps_pathOf hne fun name hname => (h name hname).no_slash, hp,
    steps_pathOf hne' fun name hname => (h' name hname).no_slash]

end Directory

namespace FileSystem

theorem absolute_eq (names : List String) : absolute names = "/" ++ Directory.pathOf names := by
  rw [absolute]
  split
  · simp_all [Directory.pathOf]
  · rename_i hne
    induction names with
    | nil => simp at hne
    | cons name names ih =>
      cases names with
      | nil => simp [Directory.pathOf]
      | cons next names =>
        rw [List.map_cons, String.join_cons, ih (by simp)]
        simp [Directory.pathOf, String.append_assoc]

/-- An absolute path takes an empty step and then its names; `"/"` takes two empty steps. -/
theorem steps_absolute {names : List String} (h : ∀ name ∈ names, '/' ∉ name.toList) :
    steps (absolute names) = "" :: if names = [] then [""] else names := by
  have hempty : steps "" = [""] := by decide
  rw [absolute_eq, show "/" ++ Directory.pathOf names = "" ++ "/" ++ Directory.pathOf names by simp,
    steps_append_slash, hempty]
  split
  · rename_i hnil
    simp [hnil, Directory.pathOf, hempty]
  · rename_i hne
    rw [Directory.steps_pathOf hne h]
    rfl

theorem isAbsolute_absolute (names : List String) : isAbsolute (absolute names) = true := by
  simp [absolute_eq, isAbsolute]

theorem absolute_ne_empty (names : List String) : (absolute names).isEmpty = false := by
  simp [absolute_eq]

theorem no_zero_absolute {names : List String} (h : ∀ name ∈ names, '\x00' ∉ name.toList) :
    (absolute names).toList.contains '\x00' = false := by
  rw [← Bool.not_eq_true, List.contains_iff_mem, absolute]
  split
  · decide
  · rw [String.toList_join, List.mem_flatMap]
    rintro ⟨part, hpart, hzero⟩
    obtain ⟨name, hname, rfl⟩ := List.mem_map.1 hpart
    exact h name hname (by simpa using hzero)

/-- The steps of a path that are names: neither empty nor a dot. -/
def namedSteps (path : String) : List String :=
  (steps path).filter fun step => step ≠ "" ∧ step ≠ "."

end FileSystem

namespace Directory

theorem namesOf_eq_ok {path : String} : ∀ {steps names : List String},
    namesOf path steps = .ok names ↔
      (∀ step ∈ steps, step ≠ ".." ∧ byteLength step ≤ DirectoryConfig.componentLimit)
      ∧ names = steps.filter fun step => step ≠ "" ∧ step ≠ "."
  | [], names => by simp [namesOf, eq_comm]
  | step :: rest, names => by
    rw [namesOf]
    split_ifs with hskip hup hlong
    · rw [namesOf_eq_ok, List.forall_mem_cons, List.filter_cons_of_neg (by simpa using by tauto)]
      have hstep : step ≠ ".." ∧ byteLength step ≤ DirectoryConfig.componentLimit := by
        rcases hskip with rfl | rfl <;> decide
      simp [hstep]
    · simp [hup]
    · have : ¬ byteLength step ≤ DirectoryConfig.componentLimit := by omega
      simp [this]
    · rw [map_eq_ok, List.forall_mem_cons, List.filter_cons_of_pos (by simpa using hskip)]
      have hstep : step ≠ ".." ∧ byteLength step ≤ DirectoryConfig.componentLimit :=
        ⟨hup, by omega⟩
      simp only [hstep, true_and, ne_eq, not_false_eq_true, and_self]
      constructor
      · rintro ⟨tail, htail, rfl⟩
        obtain ⟨hrest, rfl⟩ := namesOf_eq_ok.1 htail
        exact ⟨hrest, rfl⟩
      · rintro ⟨hrest, rfl⟩
        exact ⟨_, namesOf_eq_ok.2 ⟨hrest, rfl⟩, rfl⟩

/-- A request stands for its named steps, when no step goes up and nothing is too long. -/
theorem requested_eq_ok {path : String} {names : List String} :
    requested path = .ok names ↔
      path ≠ "" ∧ byteLength path ≤ DirectoryConfig.pathLimit
      ∧ FileSystem.isAbsolute path = false
      ∧ (∀ step ∈ FileSystem.steps path,
        step ≠ ".." ∧ byteLength step ≤ DirectoryConfig.componentLimit)
      ∧ names = FileSystem.namedSteps path := by
  rw [requested]
  split_ifs with hempty hlong habsolute
  · simp_all
  · have : ¬ byteLength path ≤ DirectoryConfig.pathLimit := by omega
    simp [this]
  · simp [habsolute]
  · have hle : byteLength path ≤ DirectoryConfig.pathLimit := by omega
    rw [namesOf_eq_ok]
    simp_all [FileSystem.namedSteps]

end Directory

end Triage
