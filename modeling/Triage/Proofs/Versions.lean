import Mathlib.Data.Prod.Lex
import Triage.Clause.Basic
import Triage.Proofs.Clauses
import Triage.Proofs.NumberText
import Triage.Proofs.PathNames

/-!
# Versions are read off the front of a text

At most three runs of digits count, with single points between them (`Leads`), and what follows the
last of them is ignored. So a version is read back from its own text, whatever is written behind it,
and versions are compared in the order of their numbers, the first that differs deciding
(`versions_ordered`).
-/

namespace Triage

namespace Text

theorem isBlank_of_isDigit {c : Char} (h : c.isDigit = true) : isBlank c = false := by
  simp only [Char.isDigit, ge_iff_le, Bool.and_eq_true, decide_eq_true_eq] at h
  have hlow : 48 ≤ c.toNat := h.1
  have hhigh : c.toNat ≤ 57 := h.2
  simp [isBlank]
  omega

end Text

namespace Version

open Text (digitsValue)

/-- A text begins with a digit. -/
def StartsWithDigit (s : List Char) : Prop := ∃ c ∈ s.head?, c.isDigit = true

/-- The runs of digits that a text begins with, single points between them: as many as there are,
but at most `limit`. -/
inductive Leads : ℕ → List Char → List (List Char) → Prop
  | last {limit : ℕ} {run rest : List Char} (hne : run ≠ [])
    (hrun : ∀ c ∈ run, c.isDigit = true) (hrest : ¬ StartsWithDigit rest)
    (hstop : limit = 0 ∨ ∀ s, rest = '.' :: s → ¬ StartsWithDigit s) :
    Leads (limit + 1) (run ++ rest) [run]
  | next {limit : ℕ} {run rest : List Char} {runs : List (List Char)} (hne : run ≠ [])
    (hrun : ∀ c ∈ run, c.isDigit = true) (h : Leads limit rest runs) :
    Leads (limit + 1) (run ++ '.' :: rest) (run :: runs)

section Leads

variable {limit : ℕ} {s run rest : List Char} {runs runs' : List (List Char)}

theorem startsWithDigit_append (hne : run ≠ []) (hrun : ∀ c ∈ run, c.isDigit = true)
    (rest : List Char) : StartsWithDigit (run ++ rest) := by
  obtain ⟨c, run, rfl⟩ := List.exists_cons_of_ne_nil hne
  exact ⟨c, rfl, hrun c List.mem_cons_self⟩

theorem not_startsWithDigit_iff : ¬ StartsWithDigit s ↔ ∀ c ∈ s.head?, c.isDigit = false := by
  simp [StartsWithDigit]

theorem StartsWithDigit.append (h : StartsWithDigit s) (rest : List Char) :
    StartsWithDigit (s ++ rest) := by
  obtain ⟨c, hc, hdigit⟩ := h
  obtain ⟨t, rfl⟩ := List.head?_eq_some_iff.1 hc
  exact ⟨c, rfl, hdigit⟩

theorem not_startsWithDigit_point (s : List Char) : ¬ StartsWithDigit ('.' :: s) := by
  simp [StartsWithDigit]

theorem exists_run (h : StartsWithDigit s) : ∃ run rest, s = run ++ rest ∧ run ≠ []
    ∧ (∀ c ∈ run, c.isDigit = true) ∧ ¬ StartsWithDigit rest := by
  refine ⟨s.takeWhile Char.isDigit, s.dropWhile Char.isDigit,
    List.takeWhile_append_dropWhile.symm, ?_, fun c hc => ?_, ?_⟩
  · obtain ⟨c, hc, hdigit⟩ := h
    obtain ⟨t, rfl⟩ := List.head?_eq_some_iff.1 hc
    simp [hdigit]
  · exact List.all_eq_true.1 List.all_takeWhile c hc
  · rw [not_startsWithDigit_iff]
    intro c hc
    have := List.head?_dropWhile_not Char.isDigit s
    rw [hc] at this
    exact this

theorem Leads.startsWithDigit (h : Leads limit s runs) : StartsWithDigit s := by
  cases h with
  | last hne hrun => exact startsWithDigit_append hne hrun _
  | next hne hrun => exact startsWithDigit_append hne hrun _

theorem Leads.ne_nil (h : Leads limit s runs) : runs ≠ [] := by
  cases h <;> simp

theorem exists_leads (limit : ℕ) (h : StartsWithDigit s) : ∃ runs, Leads (limit + 1) s runs := by
  induction limit generalizing s with
  | zero =>
    obtain ⟨run, rest, rfl, hne, hrun, hrest⟩ := exists_run h
    exact ⟨[run], .last hne hrun hrest (.inl rfl)⟩
  | succ limit ih =>
    obtain ⟨run, rest, rfl, hne, hrun, hrest⟩ := exists_run h
    by_cases hnext : ∃ t, rest = '.' :: t ∧ StartsWithDigit t
    · obtain ⟨t, rfl, ht⟩ := hnext
      obtain ⟨runs, hruns⟩ := ih ht
      exact ⟨run :: runs, .next hne hrun hruns⟩
    · exact ⟨[run], .last hne hrun hrest (.inr fun t ht hdigit => hnext ⟨t, ht, hdigit⟩)⟩

theorem run_unique {run' rest' : List Char} (hrun : ∀ c ∈ run, c.isDigit = true)
    (hrest : ¬ StartsWithDigit rest) (hrun' : ∀ c ∈ run', c.isDigit = true)
    (hrest' : ¬ StartsWithDigit rest') (h : run ++ rest = run' ++ rest') :
    run = run' ∧ rest = rest' := by
  obtain ⟨htake, hdrop⟩ := Text.span_append hrun (not_startsWithDigit_iff.1 hrest)
  obtain ⟨htake', hdrop'⟩ := Text.span_append hrun' (not_startsWithDigit_iff.1 hrest')
  rw [h] at htake hdrop
  exact ⟨htake.symm.trans htake', hdrop.symm.trans hdrop'⟩

theorem Leads.unique (h : Leads limit s runs) (h' : Leads limit s runs') : runs = runs' := by
  induction h generalizing runs' with
  | @last limit run rest _ hrun hrest hstop =>
    generalize hs : run ++ rest = s at h'
    cases h' with
    | last _ hrun' hrest' => rw [(run_unique hrun hrest hrun' hrest' hs).1]
    | next _ hrun' hnext =>
      -- No run follows the last one, so the text cannot go on after its point.
      obtain ⟨-, rfl⟩ := run_unique hrun hrest hrun' (not_startsWithDigit_point _) hs
      rcases hstop with rfl | hstop
      · cases hnext
      · exact absurd hnext.startsWithDigit (hstop _ rfl)
  | @next limit run rest runs _ hrun hnext ih =>
    generalize hs : run ++ '.' :: rest = s at h'
    cases h' with
    | last _ hrun' hrest' hstop' =>
      obtain ⟨-, rfl⟩ := run_unique hrun (not_startsWithDigit_point _) hrun' hrest' hs
      rcases hstop' with rfl | hstop'
      · cases hnext
      · exact absurd hnext.startsWithDigit (hstop' _ rfl)
    | next _ hrun' hnext' =>
      obtain ⟨rfl, hrest⟩ := run_unique hrun (not_startsWithDigit_point _) hrun'
        (not_startsWithDigit_point _) hs
      cases hrest
      rw [ih hnext']

end Leads

section Numbers

variable {limit : ℕ} {s run rest : List Char} {runs : List (List Char)}

theorem numbers?_cons (hne : run ≠ []) (hrun : ∀ c ∈ run, c.isDigit = true)
    (hrest : ¬ StartsWithDigit rest) (pieces : List (List Char)) :
    numbers? ((run ++ rest) :: pieces) =
      if 2 ^ 64 ≤ digitsValue run then none
      else if rest = [] then (numbers? pieces).map (digitsValue run :: ·)
      else some [digitsValue run] := by
  have htake := (Text.span_append hrun (not_startsWithDigit_iff.1 hrest)).1
  have hlength : run.length < (run ++ rest).length ↔ ¬ rest = [] := by
    simp [List.length_pos_iff]
  rw [numbers?, htake, if_neg (by simpa using hne)]
  simp only [hlength, ite_not, Text.powerOfTwo]

theorem not_startsWithDigit_of_splitAt {piece : List Char} {pieces : List (List Char)}
    (h : ¬ StartsWithDigit s) (hs : Text.splitAt '.' s = piece :: pieces) :
    ¬ StartsWithDigit piece := by
  intro hpiece
  rcases Text.splitAt_eq_cons hs with ⟨rfl, -⟩ | ⟨t, rfl, -⟩
  · exact h hpiece
  · exact h (hpiece.append _)

theorem numbers?_of_no_digit (h : ¬ StartsWithDigit s) (limit : ℕ) :
    numbers? ((Text.splitAt '.' s).take limit) = some [] := by
  rcases limit with _ | limit
  · rfl
  · obtain ⟨piece, pieces, hs⟩ := List.exists_cons_of_ne_nil (Text.splitAt_ne_nil '.' s)
    have hdigits := not_startsWithDigit_iff.1 (not_startsWithDigit_of_splitAt h hs)
    have htake : piece.takeWhile Char.isDigit = [] := by
      cases piece with
      | nil => rfl
      | cons c piece => simp [hdigits c rfl]
    simp [hs, numbers?, htake]

theorem numbers?_splitAt (h : Leads limit s runs) : numbers? ((Text.splitAt '.' s).take limit) =
    if ∀ run ∈ runs, digitsValue run < 2 ^ 64 then some (runs.map digitsValue) else none := by
  have hpoint {run : List Char} (hrun : ∀ c ∈ run, c.isDigit = true) : '.' ∉ run := fun hmem => by
    simpa using hrun '.' hmem
  induction h with
  | @last limit run rest hne hrun hrest hstop =>
    obtain ⟨piece, pieces, hs⟩ := List.exists_cons_of_ne_nil (Text.splitAt_ne_nil '.' rest)
    have hpiece := not_startsWithDigit_of_splitAt hrest hs
    -- When a point follows the run, then no digit follows the point, or nothing more is read.
    have hend : piece = [] → numbers? (pieces.take limit) = some [] := by
      rintro rfl
      rcases Text.splitAt_eq_cons hs with ⟨-, rfl⟩ | ⟨t, rfl, rfl⟩
      · simp [numbers?]
      · rcases hstop with rfl | hstop
        · rfl
        · exact numbers?_of_no_digit (hstop t rfl) limit
    rw [Text.splitAt_append (hpoint hrun) hs, List.take_succ_cons, numbers?_cons hne hrun hpiece]
    by_cases hlong : 2 ^ 64 ≤ digitsValue run
    · have hfits : ¬ ∀ r ∈ [run], digitsValue r < 2 ^ 64 := by simpa using hlong
      rw [if_pos hlong, if_neg hfits]
    · have hfits : ∀ r ∈ [run], digitsValue r < 2 ^ 64 := by simpa using hlong
      rw [if_neg hlong, if_pos hfits]
      split
      · rename_i hnil
        rw [hend hnil]
        rfl
      · rfl
  | @next limit run rest runs hne hrun _ ih =>
    have hsplit := Text.splitAt_append (hpoint hrun) (Text.splitAt_cons_self '.' rest)
    rw [hsplit, List.take_succ_cons, numbers?_cons hne hrun (by simp [StartsWithDigit]), if_pos rfl,
      ih]
    by_cases hlong : 2 ^ 64 ≤ digitsValue run
    · have hfits : ¬ ∀ r ∈ run :: runs, digitsValue r < 2 ^ 64 := fun h => by
        have := h run List.mem_cons_self
        omega
      rw [if_pos hlong, if_neg hfits]
    · by_cases hruns : ∀ run ∈ runs, digitsValue run < 2 ^ 64
      · rw [if_neg hlong, if_pos hruns, if_pos (List.forall_mem_cons.2 ⟨by omega, hruns⟩)]
        rfl
      · rw [if_neg hlong, if_neg hruns, if_neg fun h => hruns (List.forall_mem_cons.1 h).2]
        rfl

end Numbers

section Parse

variable {text : String} {v w : Version} {runs : List (List Char)}

/-- What is read of a text: all but the blanks around it and a `v` in front. -/
def counted (text : String) : List Char :=
  match Text.trim text.toList with
  | 'v' :: s => s
  | s => s

/-- The version with these numbers; missing ones are zero. -/
def ofRuns (runs : List (List Char)) : Version :=
  ⟨digitsValue (runs.getD 0 []), digitsValue (runs.getD 1 []), digitsValue (runs.getD 2 [])⟩

theorem dropFront?_eq_counted (text : String) :
    (Text.dropFront? ['v'] (Text.trim text.toList)).getD (Text.trim text.toList) = counted text := by
  unfold counted Text.dropFront?
  rcases Text.trim text.toList with _ | ⟨c, s⟩
  · rfl
  · by_cases hc : c = 'v'
    · subst hc
      rfl
    · simp [List.isPrefixOf?, hc, Ne.symm hc]

theorem ofNumbers?_map (hne : runs ≠ []) : ofNumbers? (runs.map digitsValue) = some (ofRuns runs) := by
  rcases runs with _ | ⟨major, _ | ⟨minor, _ | ⟨patch, runs⟩⟩⟩
  · exact absurd rfl hne
  all_goals rfl

/-- A text that begins with runs of digits is read as their version, or one of them is too large. -/
theorem parse_of_leads (h : Leads 3 (counted text) runs) : parse text =
    if ∀ run ∈ runs, digitsValue run < 2 ^ 64 then .ok (ofRuns runs)
    else .error (.versionOutOfRange text) := by
  simp only [parse, dropFront?_eq_counted, numbers?_splitAt h]
  by_cases hfits : ∀ run ∈ runs, digitsValue run < 2 ^ 64
  · simp only [if_pos hfits, ofNumbers?_map h.ne_nil]
  · simp only [if_neg hfits]

theorem parse_of_no_digit (h : ¬ StartsWithDigit (counted text)) :
    parse text = .error (.notVersion text) := by
  simp only [parse, dropFront?_eq_counted, numbers?_of_no_digit h]
  rfl

theorem parse_eq_ok : parse text = .ok v ↔ ∃ runs, Leads 3 (counted text) runs
    ∧ (∀ run ∈ runs, digitsValue run < 2 ^ 64) ∧ v = ofRuns runs := by
  by_cases hdigit : StartsWithDigit (counted text)
  · obtain ⟨runs, hruns⟩ := exists_leads 2 hdigit
    rw [parse_of_leads hruns]
    constructor
    · intro h
      split at h
      · rename_i hfits
        cases h
        exact ⟨runs, hruns, hfits, rfl⟩
      · cases h
    · rintro ⟨runs', hruns', hfits, rfl⟩
      rw [hruns.unique hruns', if_pos hfits]
  · rw [parse_of_no_digit hdigit]
    constructor
    · nofun
    · rintro ⟨runs, hruns, -⟩
      exact absurd hruns.startsWithDigit hdigit

theorem toList_text (v : Version) : v.text.toList =
    Json.natText v.major ++ '.' :: (Json.natText v.minor ++ '.' :: Json.natText v.patch) := by
  unfold text
  simp [toString, Nat.repr, Json.natText]

/-- A version is read back from its text, whatever follows that is not a digit. -/
theorem parse_text_append {suffix : String} (hmajor : v.major < 2 ^ 64) (hminor : v.minor < 2 ^ 64)
    (hpatch : v.patch < 2 ^ 64) (hsuffix : ¬ StartsWithDigit suffix.toList) :
    parse (v.text ++ suffix) = .ok v := by
  have hdigits := Json.natText_isDigit
  have hsolid : Text.Solid v.text.toList := by
    rw [toList_text]
    intro c hc
    simp only [List.mem_append, List.mem_cons] at hc
    rcases hc with hc | rfl | hc | rfl | hc
    · exact Text.isBlank_of_isDigit (hdigits _ c hc)
    · rfl
    · exact Text.isBlank_of_isDigit (hdigits _ c hc)
    · rfl
    · exact Text.isBlank_of_isDigit (hdigits _ c hc)
  have hne : v.text.toList ≠ [] := by
    rw [toList_text]
    simp
  have hrest : ¬ StartsWithDigit (Text.trimEnd suffix.toList) := by
    obtain ⟨t, ht⟩ := Text.trimEnd_prefix suffix.toList
    intro h
    exact hsuffix (ht ▸ h.append t)
  have hcounted : counted (v.text ++ suffix) = v.text.toList ++ Text.trimEnd suffix.toList := by
    unfold counted
    rw [String.toList_append, Text.trim_append_of_solid hne hsolid]
    split
    · rename_i s hs
      rw [toList_text, List.append_assoc] at hs
      obtain ⟨c, hc, hdigit⟩ := startsWithDigit_append (Json.natText_ne_nil v.major) (hdigits _) _
      rw [hs] at hc
      cases hc
      cases hdigit
    · rfl
  refine parse_eq_ok.2 ⟨[Json.natText v.major, Json.natText v.minor, Json.natText v.patch], ?_, ?_, ?_⟩
  · rw [hcounted, toList_text, List.append_assoc, List.cons_append, List.append_assoc,
      List.cons_append]
    have hlast := Leads.last (Json.natText_ne_nil v.patch) (hdigits _) hrest (.inl rfl)
    exact .next (Json.natText_ne_nil _) (hdigits _) (.next (Json.natText_ne_nil _) (hdigits _) hlast)
  · simpa [Json.digitsValue_natText] using ⟨hmajor, hminor, hpatch⟩
  · simp [ofRuns, Json.digitsValue_natText]

end Parse

section Order

variable {v w : Version} {actual expected clause : String}

/-- The numbers of a version, the first that differs decides. -/
def key (v : Version) : ℕ ×ₗ ℕ ×ₗ ℕ := toLex (v.major, toLex (v.minor, v.patch))

theorem compare_eq (v w : Version) : Ord.compare v w = Ord.compare v.key w.key := by
  simp only [key, Prod.Lex.compare_def]
  rfl

theorem compare_eq_iff_relates {op : Comparison} {answer : Bool} :
    op.compare v w = answer ↔ (answer = true ↔ op.Relates v.key w.key) := by
  have hcompare : op.compare v w = op.compare v.key w.key := by
    rw [Comparison.compare, compare_eq]
    rfl
  rw [hcompare, ← Comparison.compare_iff, Bool.eq_iff_iff]
  exact iff_comm

theorem versions_eq_ok {op : Comparison} {answer : Bool} :
    Clause.versions op actual expected = .ok answer ↔ ∃ v w, parse actual = .ok v
      ∧ parse expected = .ok w ∧ (answer = true ↔ op.Relates v.key w.key) := by
  unfold Clause.versions
  simp only [bind_eq_ok, pure_eq_ok, Except.ok.injEq, compare_eq_iff_relates]
  constructor
  · rintro ⟨v, hv, w, hw, h⟩
    exact ⟨v, w, hv, hw, h⟩
  · rintro ⟨v, w, hv, hw, h⟩
    exact ⟨v, hv, w, hw, h⟩

theorem version_eq_ok {answer : Bool} : Clause.version clause actual = .ok answer ↔
    ∃ op operand v w, Condition.Puts clause op operand ∧ parse actual = .ok v
      ∧ parse operand = .ok w ∧ (answer = true ↔ op.Relates v.key w.key) := by
  unfold Clause.version
  simp only [bind_eq_ok, Prod.exists, Condition.parseUnselected_eq_ok_iff, versions_eq_ok,
    exists_and_left]

/-- One version is below, at or above another, and only one of this is answered with yes. -/
theorem existsUnique_versions_eq (hv : parse actual = .ok v) (hw : parse expected = .ok w) :
    ∃! op, op ∈ [Comparison.less, .equal, .greater]
      ∧ Clause.versions op actual expected = .ok true := by
  have hanswer (op : Comparison) : Clause.versions op actual expected = .ok true ↔
      op.Relates v.key w.key := by
    simp [versions_eq_ok, hv, hw]
  simp only [hanswer, ExistsUnique, List.mem_cons, List.not_mem_nil, or_false]
  rcases lt_trichotomy v.key w.key with h | h | h
  · refine ⟨.less, ⟨.inl rfl, h⟩, ?_⟩
    rintro op ⟨rfl | rfl | rfl, hop⟩
    · rfl
    · exact absurd hop h.ne
    · exact absurd hop h.not_gt
  · refine ⟨.equal, ⟨.inr (.inl rfl), h⟩, ?_⟩
    rintro op ⟨rfl | rfl | rfl, hop⟩
    · exact absurd h hop.ne
    · rfl
    · exact absurd h hop.ne'
  · refine ⟨.greater, ⟨.inr (.inr rfl), h⟩, ?_⟩
    rintro op ⟨rfl | rfl | rfl, hop⟩
    · exact absurd hop h.not_gt
    · exact absurd hop h.ne'
    · rfl

/-- A version is the runs of digits that a text begins with, missing ones zero. It is read when there
is such a run and none of them is too large, so it is read back from its own text, whatever follows
that is not a digit. Two versions are compared number by number, and of below, at and above one is
answered with yes. -/
theorem versions_ordered :
    (∀ (text : String) (v : Version), parse text = .ok v ↔ ∃ runs, Leads 3 (counted text) runs
      ∧ (∀ run ∈ runs, digitsValue run < 2 ^ 64) ∧ v = ofRuns runs)
    ∧ (∀ s, (∃! runs, Leads 3 s runs) ↔ StartsWithDigit s)
    ∧ (∀ (v : Version) (suffix : String), v.major < 2 ^ 64 → v.minor < 2 ^ 64 → v.patch < 2 ^ 64 →
      ¬ StartsWithDigit suffix.toList → parse (v.text ++ suffix) = .ok v)
    ∧ (∀ (op : Comparison) (actual expected : String) (answer : Bool),
      Clause.versions op actual expected = .ok answer ↔ ∃ v w, parse actual = .ok v
        ∧ parse expected = .ok w ∧ (answer = true ↔ op.Relates v.key w.key))
    ∧ (∀ (clause actual : String) (answer : Bool), Clause.version clause actual = .ok answer ↔
      ∃ op operand v w, Condition.Puts clause op operand ∧ parse actual = .ok v
        ∧ parse operand = .ok w ∧ (answer = true ↔ op.Relates v.key w.key))
    ∧ ∀ (actual expected : String) (v w : Version), parse actual = .ok v → parse expected = .ok w →
      ∃! op, op ∈ [Comparison.less, .equal, .greater]
        ∧ Clause.versions op actual expected = .ok true := by
  refine ⟨fun text v => parse_eq_ok, fun s => ⟨?_, fun h => ?_⟩, fun v suffix => parse_text_append,
    fun op actual expected answer => versions_eq_ok, fun clause actual answer => version_eq_ok,
    fun actual expected v w => existsUnique_versions_eq⟩
  · rintro ⟨runs, hruns, -⟩
    exact hruns.startsWithDigit
  · obtain ⟨runs, hruns⟩ := exists_leads 2 h
    exact ⟨runs, hruns, fun runs' hruns' => hruns'.unique hruns⟩

theorem versions_ordered_of_kernels : parse ((⟨5, 4, 0⟩ : Version).text ++ "-1034-gcp") = .ok ⟨5, 4, 0⟩
    ∧ (∃! op, op ∈ [Comparison.less, .equal, .greater]
      ∧ Clause.versions op "v4.9" "5.4.0-1034-gcp" = .ok true)
    ∧ Clause.versions .less "v4.9" "5.4.0-1034-gcp" = .ok true := by
  obtain ⟨-, -, hread, hversions, -, hunique⟩ := versions_ordered
  have hactual : parse "v4.9" = .ok ⟨4, 9, 0⟩ := by decide +kernel
  have hexpected : parse "5.4.0-1034-gcp" = .ok ⟨5, 4, 0⟩ := by decide +kernel
  have hless : Comparison.less.Relates (⟨4, 9, 0⟩ : Version).key (⟨5, 4, 0⟩ : Version).key := by
    simp [Comparison.Relates, key, Prod.Lex.toLex_lt_toLex]
  have hsuffix : ¬ StartsWithDigit "-1034-gcp".toList := by
    rw [not_startsWithDigit_iff]
    rintro c ⟨⟩
    rfl
  exact ⟨hread ⟨5, 4, 0⟩ _ (by decide) (by decide) (by decide) hsuffix,
    hunique _ _ _ _ hactual hexpected,
    (hversions _ _ _ _).2 ⟨_, _, hactual, hexpected, iff_of_true rfl hless⟩⟩

end Order

end Version

end Triage
