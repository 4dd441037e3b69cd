import Triage.Proofs.NamedFiles
import Triage.Proofs.SearchRefinement

/-!
# Where a search may start

A search starts from the literal directory of its glob. All paths that the glob accepts lie in it,
and not all of them in a directory below it (`literalDir_deepest`): the first wildcard stands for
texts that part at once (`Token.forks_of_isOpen`), so the accepted paths have no more in common than
what the pattern spells out (`prefix_literalPart`).
-/

namespace Triage

/-- The path goes on with a slash after the directory. -/
def LiesIn (path dir : String) : Prop := ∃ rest, path = dir ++ "/" ++ rest

theorem liesIn_iff {path dir : String} :
    LiesIn path dir ↔ (dir ++ "/").toList <+: path.toList := by
  have happend (rest : String) :
      (dir ++ "/" ++ rest).toList = (dir ++ "/").toList ++ rest.toList := String.toList_append
  constructor
  · rintro ⟨rest, rfl⟩
    rw [happend]
    exact List.prefix_append _ _
  · rintro ⟨rest, hrest⟩
    exact ⟨.ofList rest, String.toList_inj.1 (by rw [happend, String.toList_ofList, hrest])⟩

namespace Glob

section Forks

variable {c d : Char} {xs front s t : List Char}

/-- What two texts have in common ends where they part. -/
theorem prefix_of_fork (hne : c ≠ d) (hs : xs <+: front ++ c :: s) (ht : xs <+: front ++ d :: t) :
    xs <+: front := by
  rcases List.prefix_or_prefix_of_prefix hs (List.prefix_append front _) with h | ⟨more, rfl⟩
  · exact h
  · rw [List.prefix_append_right_inj] at hs ht
    rcases more with _ | ⟨x, more⟩
    · simp
    · obtain ⟨rfl, -⟩ := List.cons_prefix_cons.1 hs
      obtain ⟨rfl, -⟩ := List.cons_prefix_cons.1 ht
      exact absurd rfl hne

/-- A token that stands for texts which part at their first characters. -/
def Token.Forks (token : Token) : Prop :=
  ∃ c d s t, c ≠ d ∧ token.Spells (c :: s) ∧ token.Spells (d :: t)

theorem Token.forks_of_isOpen {token : Token} (h : token.IsOpen) : token.Forks := by
  cases token with
  | literal c =>
    obtain ⟨s, t, hne, hs, ht⟩ := h
    exact absurd (hs.trans ht.symm) hne
  | one => exact ⟨'a', 'b', [], [], by decide, ⟨'a', by decide, rfl⟩, ⟨'b', by decide, rfl⟩⟩
  | name =>
    exact ⟨'a', 'b', [], [], by decide, show '/' ∉ ['a'] by decide, show '/' ∉ ['b'] by decide⟩
  | any =>
    exact ⟨'a', 'b', [], [], by decide, show '\n' ∉ ['a'] by decide, show '\n' ∉ ['b'] by decide⟩
  | dirs =>
    exact ⟨'a', 'b', ['/'], ['/'], by decide, .inr ⟨['a'], by decide, rfl⟩,
      .inr ⟨['b'], by decide, rfl⟩⟩

end Forks

variable {glob : Glob} {dir : String}

/-- The accepted paths have no more in common than what the pattern spells out. -/
theorem prefix_literalPart {xs : List Char}
    (h : ∀ path, glob.accepts path = true → xs <+: path.toList) : xs <+: glob.literalPart := by
  obtain ⟨rest, hpattern, hrest⟩ := pattern_eq_literalPart_append glob
  have hcommon {s : List Char} (hs : Spelled (tokens rest) s) : xs <+: glob.literalPart ++ s := by
    simpa using h _ (accepts_literalPart_append hpattern hs)
  rcases rest with _ | ⟨c, rest⟩
  · simpa using hcommon rfl
  · obtain ⟨token, more, htokens, hopen⟩ := exists_tokens_of_wildcard (hrest c rfl) rest
    obtain ⟨c, d, s, t, hne, hs, ht⟩ := Token.forks_of_isOpen hopen
    obtain ⟨tail, htail⟩ := exists_spelled (tokens more)
    rw [htokens] at hcommon
    exact prefix_of_fork hne (hcommon ⟨c :: s, tail, rfl, hs, htail⟩)
      (hcommon ⟨d :: t, tail, rfl, ht, htail⟩)

theorem toList_literalDir (glob : Glob) :
    glob.literalDir.toList = beforeLastSlash glob.literalPart :=
  String.toList_ofList

theorem isPlain_literalDir (glob : Glob) : IsPlain glob.literalDir := by
  intro c hc
  rw [toList_literalDir] at hc
  by_cases hslash : '/' ∈ glob.literalPart
  · obtain ⟨name, -, hname⟩ := exists_name_of_slash hslash
    have hmem : c ∈ glob.literalPart := by
      rw [hname]
      exact List.mem_append_left _ hc
    exact not_isWildcard_of_mem_literalPart hmem
  · rw [beforeLastSlash_of_not_mem hslash] at hc
    cases hc

/-- Of two slashes, the last one comes later or is the same. -/
theorem eq_or_goes_on {xs ys more name : List Char} (hname : '/' ∉ name)
    (h : xs ++ '/' :: more = ys ++ '/' :: name) : ys = xs ∨ ∃ rest, ys = xs ++ '/' :: rest := by
  rcases List.append_eq_append_iff.1 h with ⟨zs, rfl, hmore⟩ | ⟨zs, rfl, hmore⟩
  · rcases zs with _ | ⟨c, zs⟩
    · exact .inl (List.append_nil xs)
    · obtain ⟨rfl, -⟩ := List.cons.inj hmore
      exact .inr ⟨zs, rfl⟩
  · rcases zs with _ | ⟨c, zs⟩
    · exact .inl (List.append_nil ys).symm
    · obtain ⟨-, rfl⟩ := List.cons.inj hmore
      exact absurd (List.mem_append_right zs List.mem_cons_self) hname

theorem literalDir_eq_or_liesIn (h : (dir ++ "/").toList <+: glob.literalPart) :
    glob.literalDir = dir ∨ LiesIn glob.literalDir dir := by
  obtain ⟨more, hmore⟩ := h
  have hslash : '/' ∈ glob.literalPart := by
    rw [← hmore]
    simp
  obtain ⟨name, hname, hcut⟩ := exists_name_of_slash hslash
  rw [← toList_literalDir] at hcut
  have hboth : dir.toList ++ '/' :: more = glob.literalDir.toList ++ '/' :: name := by
    rw [← hcut, ← hmore]
    simp
  rcases eq_or_goes_on hname hboth with heq | ⟨rest, hrest⟩
  · exact .inl (String.toList_inj.1 heq)
  · refine .inr ⟨.ofList rest, String.toList_inj.1 ?_⟩
    rw [hrest]
    simp

/-- The pattern spells a directory out when its part before the first wildcard does. -/
theorem prefix_literalPart_iff : (dir ++ "/").toList <+: glob.literalPart ↔
    IsPlain dir ∧ LiesIn glob.pattern dir := by
  have hslash : IsPlain "/" := by decide
  constructor
  · intro h
    have hplain : IsPlain (dir ++ "/") :=
      fun c hc => not_isWildcard_of_mem_literalPart (h.subset hc)
    exact ⟨(isPlain_append.1 hplain).1,
      liesIn_iff.2 (h.trans (List.takeWhile_prefix _))⟩
  · rintro ⟨hdir, hpattern⟩
    have hplain : IsPlain (dir ++ "/") := isPlain_append.2 ⟨hdir, hslash⟩
    obtain ⟨rest, hrest⟩ := liesIn_iff.1 hpattern
    rw [literalPart, ← hrest, List.takeWhile_append_of_pos fun c hc => by simpa using hplain c hc]
    exact List.prefix_append _ _

/-- The directories that all accepted paths lie in are those that the pattern spells out. -/
theorem all_liesIn_iff : (∀ path, glob.accepts path = true → LiesIn path dir) ↔
    IsPlain dir ∧ LiesIn glob.pattern dir := by
  rw [← prefix_literalPart_iff]
  simp only [liesIn_iff]
  refine ⟨prefix_literalPart, fun h path haccepts => ?_⟩
  have hpart : glob.literalPart <+: path.toList := literalPart_prefix haccepts
  exact h.trans hpart

/-- All paths that a glob accepts lie in its literal directory, unless this is empty, and so below
the place where a search starts; and there is no wildcard in it. The directories that all accepted
paths lie in are those that the pattern spells out, and the literal directory is the deepest. -/
theorem literalDir_deepest {pattern : String} {glob : Glob} (hglob : ofPattern pattern = .ok glob) :
    (glob.literalDir ≠ "" → ∀ path, glob.accepts path = true → LiesIn path glob.literalDir)
    ∧ ('*' ∉ glob.literalDir.toList ∧ '?' ∉ glob.literalDir.toList)
    ∧ (∀ start names, Directory.startOf glob = .ok start → names ≠ [] →
      (∀ name ∈ names, IsEntryName name) → glob.accepts (Directory.pathOf names) = true →
      ∃ rest, rest ≠ [] ∧ names = start ++ rest)
    ∧ ∀ dir, ((∀ path, glob.accepts path = true → LiesIn path dir) ↔
        IsPlain dir ∧ LiesIn pattern dir)
      ∧ (IsPlain dir → LiesIn pattern dir →
        glob.literalDir = dir ∨ LiesIn glob.literalDir dir) := by
  obtain rfl := ofPattern_eq_ok_iff.1 hglob
  have hplain := isPlain_literalDir glob
  refine ⟨fun hne path haccepts => literalDir_prefix haccepts hne,
    ⟨fun hstar => ?_, fun hmark => ?_⟩, fun start names hstart hne hnames haccepts => ?_,
    fun dir => ⟨all_liesIn_iff, fun hdir hpattern => ?_⟩⟩
  · cases hplain _ hstar
  · cases hplain _ hmark
  · exact Directory.start_of_accepts hne hstart hnames haccepts
  · exact literalDir_eq_or_liesIn (prefix_literalPart_iff.2 ⟨hdir, hpattern⟩)

/-- A wildcard in the middle of a name, with double stars and a mark after it. -/
def rotatedLogs : Glob := ⟨"logs/old/app*/**/x?.log", by decide, by decide⟩

/-- The matches lie in the directory where the pattern is plain, and not all of them below it. -/
theorem literalDir_deepest_of_rotatedLogs :
    ofPattern "logs/old/app*/**/x?.log" = .ok rotatedLogs ∧ rotatedLogs.literalDir = "logs/old"
    ∧ Directory.startOf rotatedLogs = .ok ["logs", "old"]
    ∧ rotatedLogs.accepts "logs/old/app.d/x1.log" = true
    ∧ LiesIn "logs/old/app.d/x1.log" "logs/old"
    ∧ (∃ rest, rest ≠ [] ∧ ["logs", "old", "app.d", "x1.log"] = ["logs", "old"] ++ rest)
    ∧ (IsPlain "logs" ∧ LiesIn "logs/old/app*/**/x?.log" "logs") ∧ LiesIn "logs/old" "logs" := by
  have hglob : ofPattern "logs/old/app*/**/x?.log" = .ok rotatedLogs := ofPattern_eq_ok_iff.2 rfl
  have hdir : rotatedLogs.literalDir = "logs/old" := by decide
  have hstart : Directory.startOf rotatedLogs = .ok ["logs", "old"] := by decide +kernel
  have haccepts : rotatedLogs.accepts "logs/old/app.d/x1.log" = true := by decide +kernel
  have hnames : ∀ name ∈ ["logs", "old", "app.d", "x1.log"], IsEntryName name := by decide
  have hspelled : IsPlain "logs" ∧ LiesIn "logs/old/app*/**/x?.log" "logs" :=
    ⟨by decide, "old/app*/**/x?.log", rfl⟩
  obtain ⟨hliesIn, -, hbelow, hdeepest⟩ := literalDir_deepest hglob
  rw [hdir] at hliesIn hdeepest
  refine ⟨hglob, hdir, hstart, haccepts, hliesIn (by decide) _ haccepts,
    hbelow _ ["logs", "old", "app.d", "x1.log"] hstart (by decide) hnames haccepts, hspelled, ?_⟩
  exact ((hdeepest "logs").2 hspelled.1 hspelled.2).resolve_left (by decide)

end Glob

end Triage
