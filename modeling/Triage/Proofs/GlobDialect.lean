import Triage.Proofs.GlobPrefix

/-!
# The dialect of globs

A pattern is read from left to right, and every part of it stands for some texts (`Denotes`). As
the dialect is documented, a double star stands for any characters (`Documented`). What a glob
accepts is the same language but for line feeds, which a double star does not take in although a
single star does (`accepts_iff_denotes_lines`). So a glob never accepts more than the dialect says,
and it accepts less only where a double star would have to take in a line feed.
-/

namespace Triage

namespace Glob

/-- The paths that a pattern stands for when a double star takes in the characters of `wide`. -/
inductive Denotes (wide : Char → Prop) : List Char → List Char → Prop
  | done : Denotes wide [] []
  | noDirs {pattern path : List Char} (rest : Denotes wide pattern path) :
    Denotes wide ('*' :: '*' :: '/' :: pattern) path
  | dirs {pattern front path : List Char} (hwide : ∀ c ∈ front, wide c)
    (rest : Denotes wide pattern path) :
    Denotes wide ('*' :: '*' :: '/' :: pattern) (front ++ '/' :: path)
  | any {pattern front path : List Char} (hnext : pattern.head? ≠ some '/')
    (hwide : ∀ c ∈ front, wide c) (rest : Denotes wide pattern path) :
    Denotes wide ('*' :: '*' :: pattern) (front ++ path)
  | name {pattern front path : List Char} (hnext : pattern.head? ≠ some '*')
    (hname : '/' ∉ front) (rest : Denotes wide pattern path) :
    Denotes wide ('*' :: pattern) (front ++ path)
  | one {c : Char} {pattern path : List Char} (hc : c ≠ '/') (rest : Denotes wide pattern path) :
    Denotes wide ('?' :: pattern) (c :: path)
  | char {c : Char} {pattern path : List Char} (hstar : c ≠ '*') (hmark : c ≠ '?')
    (rest : Denotes wide pattern path) : Denotes wide (c :: pattern) (c :: path)

/-- The paths that a pattern stands for by the documented dialect. -/
abbrev Documented : List Char → List Char → Prop := Denotes fun _ => True

namespace Denotes

variable {wide other : Char → Prop} {pattern path : List Char}

/-- Only the characters of the path count for what a double star may take in. -/
theorem imp (h : Denotes wide pattern path) :
    (∀ c ∈ path, wide c → other c) → Denotes other pattern path := by
  induction h with
  | done => exact fun _ => .done
  | noDirs _ ih => exact fun himp => .noDirs (ih himp)
  | dirs hwide _ ih =>
    intro himp
    rw [List.forall_mem_append, List.forall_mem_cons] at himp
    exact .dirs (fun c hc => himp.1 c hc (hwide c hc)) (ih himp.2.2)
  | any hnext hwide _ ih =>
    intro himp
    rw [List.forall_mem_append] at himp
    exact .any hnext (fun c hc => himp.1 c hc (hwide c hc)) (ih himp.2)
  | name hnext hname _ ih =>
    intro himp
    rw [List.forall_mem_append] at himp
    exact .name hnext hname (ih himp.2)
  | one hc _ ih =>
    intro himp
    exact .one hc (ih (List.forall_mem_cons.1 himp).2)
  | char hstar hmark _ ih =>
    intro himp
    exact .char hstar hmark (ih (List.forall_mem_cons.1 himp).2)

/-- Without a double star, it does not matter what a double star may take in. -/
theorem of_no_doubleStar (h : Denotes wide pattern path) :
    ¬ ['*', '*'] <:+: pattern → Denotes other pattern path := by
  have hdouble (rest : List Char) : ['*', '*'] <:+: '*' :: '*' :: rest :=
    (List.prefix_append ['*', '*'] rest).isInfix
  induction h with
  | done => exact fun _ => .done
  | noDirs _ _ => exact fun hno => absurd (hdouble _) hno
  | dirs _ _ _ => exact fun hno => absurd (hdouble _) hno
  | any _ _ _ _ => exact fun hno => absurd (hdouble _) hno
  | name hnext hname _ ih =>
    exact fun hno => .name hnext hname (ih fun hin => hno (List.infix_cons hin))
  | one hc _ ih => exact fun hno => .one hc (ih fun hin => hno (List.infix_cons hin))
  | char hstar hmark _ ih =>
    exact fun hno => .char hstar hmark (ih fun hin => hno (List.infix_cons hin))

end Denotes

section Tokens

variable {pattern path : List Char}

theorem tokens_any (h : pattern.head? ≠ some '/') :
    tokens ('*' :: '*' :: pattern) = .any :: tokens pattern := by
  rw [tokens]
  rintro s rfl
  exact h rfl

theorem tokens_name (h : pattern.head? ≠ some '*') :
    tokens ('*' :: pattern) = .name :: tokens pattern := by
  rw [tokens]
  · rintro s rfl
    exact h rfl
  · rintro s rfl
    exact h rfl

theorem spelled_of_denotes (h : Denotes (· ≠ '\n') pattern path) :
    Spelled (tokens pattern) path := by
  induction h with
  | done => rfl
  | noDirs _ ih => exact ⟨[], _, rfl, .inl rfl, ih⟩
  | dirs hwide _ ih =>
    exact ⟨_ ++ ['/'], _, by simp, .inr ⟨_, fun hmem => hwide _ hmem rfl, rfl⟩, ih⟩
  | any hnext hwide _ ih =>
    rw [tokens_any hnext]
    exact ⟨_, _, rfl, fun hmem => hwide _ hmem rfl, ih⟩
  | name hnext hname _ ih =>
    rw [tokens_name hnext]
    exact ⟨_, _, rfl, hname, ih⟩
  | one hc _ ih => exact ⟨[_], _, rfl, ⟨_, hc, rfl⟩, ih⟩
  | char hstar hmark _ ih =>
    rw [tokens_cons_of_not_wildcard (by simp [isWildcard, hstar, hmark])]
    exact ⟨[_], _, rfl, rfl, ih⟩

theorem denotes_of_spelled (pattern : List Char) : ∀ {path : List Char},
    Spelled (tokens pattern) path → Denotes (· ≠ '\n') pattern path := by
  have hwide {front : List Char} (h : '\n' ∉ front) : ∀ c ∈ front, c ≠ '\n' :=
    fun c hc heq => h (heq ▸ hc)
  induction pattern using tokens.induct with
  | case1 pattern ih =>
    rintro path ⟨_, back, rfl, rfl | ⟨front, hfront, rfl⟩, hrest⟩
    · exact .noDirs (ih hrest)
    · rw [List.append_assoc, List.singleton_append]
      exact .dirs (hwide hfront) (ih hrest)
  | case2 pattern hnext ih =>
    have hhead : pattern.head? ≠ some '/' := by
      intro h
      obtain ⟨s, rfl⟩ := List.head?_eq_some_iff.1 h
      exact hnext s rfl
    intro path h
    rw [tokens_any hhead] at h
    obtain ⟨front, back, rfl, hfront, hrest⟩ := h
    exact .any hhead (hwide hfront) (ih hrest)
  | case3 pattern _ hnext ih =>
    have hhead : pattern.head? ≠ some '*' := by
      intro h
      obtain ⟨s, rfl⟩ := List.head?_eq_some_iff.1 h
      exact hnext s rfl
    intro path h
    rw [tokens_name hhead] at h
    obtain ⟨front, back, rfl, hfront, hrest⟩ := h
    exact .name hhead hfront (ih hrest)
  | case4 pattern ih =>
    rintro path ⟨_, back, rfl, ⟨c, hc, rfl⟩, hrest⟩
    exact .one hc (ih hrest)
  | case5 c pattern _ _ hstar hmark ih =>
    intro path h
    rw [tokens_cons_of_not_wildcard (by simpa [isWildcard] using ⟨hstar, hmark⟩)] at h
    obtain ⟨_, back, rfl, rfl, hrest⟩ := h
    exact .char hstar hmark (ih hrest)
  | case6 =>
    rintro path rfl
    exact .done

end Tokens

theorem accepts_iff_denotes (glob : Glob) (path : String) :
    glob.accepts path = true ↔ Denotes (· ≠ '\n') glob.pattern.toList path.toList := by
  rw [accepts_iff]
  exact ⟨denotes_of_spelled _, spelled_of_denotes⟩

theorem ofPattern_eq_ok_iff {pattern : String} {glob : Glob} :
    ofPattern pattern = .ok glob ↔ glob.pattern = pattern := by
  constructor
  · intro h
    rw [ofPattern] at h
    split_ifs at h
    rw [← Except.ok.inj h]
  · rintro rfl
    rw [ofPattern, dif_pos glob.notBlank, dif_pos glob.affordable]

theorem exists_ofPattern_iff {pattern : String} : (∃ glob, ofPattern pattern = .ok glob) ↔
    isBlankText pattern = false ∧ isAffordable pattern = true := by
  simp only [ofPattern_eq_ok_iff]
  exact ⟨fun ⟨glob, h⟩ => h ▸ ⟨glob.notBlank, glob.affordable⟩, fun ⟨hblank, hsize⟩ =>
    ⟨⟨pattern, hblank, hsize⟩, rfl⟩⟩

/-- A pattern that compiles accepts the paths that it denotes when a double star stays within lines.
All of these are in the documented language, which is accepted as a whole when the path has no line
feed or the pattern no double star. -/
theorem accepts_iff_denotes_lines {pattern : String} {glob : Glob}
    (hglob : ofPattern pattern = .ok glob) (path : String) :
    (glob.accepts path = true ↔ Denotes (· ≠ '\n') pattern.toList path.toList)
    ∧ (glob.accepts path = true → Documented pattern.toList path.toList)
    ∧ ('\n' ∉ path.toList ∨ ¬ ['*', '*'] <:+: pattern.toList →
      (glob.accepts path = true ↔ Documented pattern.toList path.toList)) := by
  have hlines := accepts_iff_denotes glob path
  rw [ofPattern_eq_ok_iff.1 hglob] at hlines
  have hsound (h : glob.accepts path = true) : Documented pattern.toList path.toList :=
    (hlines.1 h).imp fun _ _ _ => trivial
  refine ⟨hlines, hsound, ?_⟩
  rintro (hbreak | hstars)
  · exact ⟨hsound, fun h => hlines.2 (h.imp fun c hc _ heq => hbreak (heq ▸ hc))⟩
  · exact ⟨hsound, fun h => hlines.2 (h.of_no_doubleStar hstars)⟩

/-- The log files below a directory. -/
def logFiles : Glob := ⟨"logs/**/*.log", by decide, by decide⟩

/-- In a path without line feeds, the directories between are taken in by the double star. -/
theorem logFiles_accepts_iff_documented :
    ofPattern "logs/**/*.log" = .ok logFiles
    ∧ ('\n' ∉ "logs/a/b/c.log".toList ∨ ¬ ['*', '*'] <:+: "logs/**/*.log".toList)
    ∧ logFiles.accepts "logs/a/b/c.log" = true
    ∧ Documented "logs/**/*.log".toList "logs/a/b/c.log".toList := by
  have hglob : ofPattern "logs/**/*.log" = .ok logFiles := ofPattern_eq_ok_iff.2 rfl
  have hbreak : '\n' ∉ "logs/a/b/c.log".toList ∨ ¬ ['*', '*'] <:+: "logs/**/*.log".toList :=
    .inl (by decide)
  have haccepts : logFiles.accepts "logs/a/b/c.log" = true := by decide
  exact ⟨hglob, hbreak, haccepts,
    ((accepts_iff_denotes_lines hglob "logs/a/b/c.log").2.2 hbreak).1 haccepts⟩

/-- All paths. -/
def everything : Glob := ⟨"**", by decide, by decide⟩

/-- A double star should take in a line feed, as a single one does, and refuses it. -/
theorem everything_refuses_line_feed :
    ofPattern "**" = .ok everything ∧ everything.accepts "a\nb" = false
    ∧ Documented "**".toList "a\nb".toList ∧ Denotes (· ≠ '\n') "*".toList "a\nb".toList := by
  have hstars : Documented ['*', '*'] (['a', '\n', 'b'] ++ []) :=
    .any (by decide) (fun _ _ => trivial) .done
  have hstar : Denotes (· ≠ '\n') ['*'] (['a', '\n', 'b'] ++ []) :=
    .name (by decide) (by decide) .done
  exact ⟨ofPattern_eq_ok_iff.2 rfl, by decide, hstars, hstar⟩

end Glob

end Triage
