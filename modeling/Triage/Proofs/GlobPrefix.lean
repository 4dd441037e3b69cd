import Mathlib.Data.List.TakeWhile
import Triage.Proofs.GlobMeaning

/-!
# The part of a glob before its first wildcard

A glob spells its literal part out (`literalPart_prefix`), so every path that it accepts lies in its
literal directory (`literalDir_prefix`).
-/

namespace Triage

namespace Glob

/-- What stands before the first wildcard. -/
def literalPart (glob : Glob) : List Char := glob.pattern.toList.takeWhile fun c => !isWildcard c

theorem not_isWildcard_of_mem_literalPart {glob : Glob} {c : Char} (h : c ∈ glob.literalPart) :
    isWildcard c = false := by
  simpa using List.mem_takeWhile_imp h

/-- A pattern goes on with a wildcard, if at all, after its literal part. -/
theorem pattern_eq_literalPart_append (glob : Glob) : ∃ rest,
    glob.pattern.toList = glob.literalPart ++ rest ∧ ∀ c ∈ rest.head?, isWildcard c = true := by
  refine ⟨_, (List.takeWhile_append_dropWhile (p := fun c => !isWildcard c)
    (l := glob.pattern.toList)).symm, fun c hc => ?_⟩
  have h := List.head?_dropWhile_not (fun c => !isWildcard c) glob.pattern.toList
  rw [Option.mem_def.1 hc] at h
  simpa using h

theorem tokens_cons_of_not_wildcard {c : Char} (h : isWildcard c = false) (s : List Char) :
    tokens (c :: s) = .literal c :: tokens s := by
  simp only [isWildcard, Bool.or_eq_false_iff, beq_eq_false_iff_ne] at h
  rw [tokens]
  · exact fun _ hc => absurd hc h.1
  · exact fun _ hc => absurd hc h.1
  · exact h.1
  · exact h.2

theorem tokens_literal_append {rest : List Char} : ∀ {literal : List Char},
    (∀ c ∈ literal, isWildcard c = false) →
    tokens (literal ++ rest) = literal.map Token.literal ++ tokens rest
  | [], _ => rfl
  | c :: literal, h => by
    rw [List.cons_append, tokens_cons_of_not_wildcard (h c List.mem_cons_self),
      tokens_literal_append fun c hc => h c (List.mem_cons_of_mem _ hc)]
    rfl

theorem prefix_of_spelled_literal {tokens : List Token} : ∀ {literal s : List Char},
    Spelled (literal.map Token.literal ++ tokens) s → literal <+: s
  | [], s, _ => List.nil_prefix
  | c :: literal, s, h => by
    obtain ⟨front, back, rfl, rfl, hrest⟩ := h
    exact List.cons_prefix_cons.2 ⟨rfl, prefix_of_spelled_literal hrest⟩

theorem tokens_pattern {glob : Glob} {rest : List Char}
    (hrest : glob.pattern.toList = glob.literalPart ++ rest) :
    tokens glob.pattern.toList = glob.literalPart.map Token.literal ++ tokens rest := by
  rw [hrest, tokens_literal_append fun c hc => not_isWildcard_of_mem_literalPart hc]

/-- An accepted path begins with the literal part. -/
theorem literalPart_prefix {glob : Glob} {path : String} (h : glob.accepts path = true) :
    glob.literalPart <+: path.toList := by
  obtain ⟨rest, hrest, -⟩ := pattern_eq_literalPart_append glob
  rw [accepts_iff, tokens_pattern hrest] at h
  exact prefix_of_spelled_literal h

theorem beforeLastSlash_of_not_mem {s : List Char} (h : '/' ∉ s) : beforeLastSlash s = [] := by
  have hd : s.reverse.dropWhile (· != '/') = [] := by
    rw [List.dropWhile_eq_nil_iff]
    intro c hc
    have hne : c ≠ '/' := by
      rintro rfl
      exact h (List.mem_reverse.1 hc)
    simpa using hne
  rw [beforeLastSlash, hd]
  rfl

/-- A text with a slash is what stands before the last one, this slash, and a name. -/
theorem exists_name_of_slash {s : List Char} (h : '/' ∈ s) :
    ∃ name, '/' ∉ name ∧ s = beforeLastSlash s ++ '/' :: name := by
  have hcut := List.takeWhile_append_dropWhile (p := (· != '/')) (l := s.reverse)
  cases hd : s.reverse.dropWhile (· != '/') with
  | nil =>
    rw [List.dropWhile_eq_nil_iff] at hd
    simpa using hd '/' (List.mem_reverse.2 h)
  | cons c front =>
    have hc : c = '/' := by
      have := List.head_dropWhile_not (· != '/') (l := s.reverse) (by simp [hd])
      simpa [hd] using this
    refine ⟨(s.reverse.takeWhile (· != '/')).reverse, fun hmem => ?_, ?_⟩
    · simpa using List.mem_takeWhile_imp (List.mem_reverse.1 hmem)
    · rw [beforeLastSlash, hd]
      rw [hd, hc] at hcut
      have := congrArg List.reverse hcut
      simpa using this.symm

/-- An accepted path goes on with a slash after the literal directory. -/
theorem literalDir_prefix {glob : Glob} {path : String} (h : glob.accepts path = true)
    (hne : glob.literalDir ≠ "") : ∃ rest, path = glob.literalDir ++ "/" ++ rest := by
  have hslash : '/' ∈ glob.literalPart := by
    by_contra hnone
    exact hne (by rw [literalDir, ← literalPart, beforeLastSlash_of_not_mem hnone])
  obtain ⟨name, -, hname⟩ := exists_name_of_slash hslash
  obtain ⟨rest, hrest⟩ := literalPart_prefix h
  refine ⟨.ofList (name ++ rest), String.toList_inj.1 ?_⟩
  rw [← hrest, hname]
  simp [literalDir, literalPart]

end Glob

end Triage
