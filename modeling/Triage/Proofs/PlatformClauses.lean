import Triage.Clause.Host
import Triage.Proofs.Versions

/-!
# Clauses about platforms

The selector of a clause means one version of a host, or none that this host has (`Means`). What it
means is looked up once the clause is read, so a clause at fault is so on every host, and one that
means nothing is answered with no whatever the versions of the host look like (`platform_decides`).
-/

namespace Triage.Clause

open Host
open Condition (Selects)

/-- What the kernel of a host is called. -/
def kernelNames (host : OperatingSystem) : List String :=
  ["kernelVersion", s!"{host.platform}-kernel", s!"{host.platform}-{host.platformVersion}-kernel"]

/-- The version of a host that a selector means. -/
inductive Means (host : OperatingSystem) (selector : String) : String → Prop
  | kernel (h : selector ∈ kernelNames host) : Means host selector host.kernelVersion
  | platform (h : selector = host.platform) (hkernel : selector ≠ "kernelVersion")
    (hsuffix : ¬ "-kernel".toList <:+ selector.toList) : Means host selector host.platformVersion

/-- `selector op version`, with an operator there is and a version that can be read. -/
def AsksVersion (clause selector : String) (op : Comparison) (expected : Version) : Prop :=
  ∃ operand, Selects clause selector op operand ∧ Version.parse operand = .ok expected

section Selectors

variable {host : OperatingSystem} {selector version piece : String}

theorem dropBack?_toList_eq_some_iff {rest : List Char} :
    Text.dropBack? piece.toList selector.toList = some rest ↔ selector = .ofList rest ++ piece := by
  rw [Text.dropBack?, List.isSuffixOf?_eq_some_iff_append_eq, ← String.toList_inj,
    String.toList_append, String.toList_ofList, eq_comm]

theorem dropBack?_toList_eq_none_iff :
    Text.dropBack? piece.toList selector.toList = none ↔ ¬ piece.toList <:+ selector.toList := by
  have hsuffix : piece.toList <:+ selector.toList ↔
      ∃ rest, Text.dropBack? piece.toList selector.toList = some rest := by
    simp only [Text.dropBack?, List.isSuffixOf?_eq_some_iff_append_eq, List.IsSuffix]
  rw [hsuffix, ← Option.isSome_iff_exists, Option.not_isSome_iff_eq_none]

theorem kernelNames_eq (host : OperatingSystem) : kernelNames host =
    ["kernelVersion", host.platform ++ "-kernel",
      s!"{host.platform}-{host.platformVersion}" ++ "-kernel"] := rfl

/-- What stands in front of the suffix is the platform, perhaps with its version. -/
theorem mem_kernelNames_iff_of_suffix {scope : String} (h : selector = scope ++ "-kernel")
    (hkernel : selector ≠ "kernelVersion") : selector ∈ kernelNames host ↔
      scope = s!"{host.platform}-{host.platformVersion}" ∨ scope = host.platform := by
  rw [kernelNames_eq, List.mem_cons, or_iff_right hkernel, List.mem_pair, h]
  simp only [String.append_left_inj]
  exact or_comm

theorem not_mem_kernelNames (h : ¬ "-kernel".toList <:+ selector.toList)
    (hkernel : selector ≠ "kernelVersion") : selector ∉ kernelNames host := by
  rw [kernelNames_eq, List.mem_cons, or_iff_right hkernel, List.mem_pair]
  rintro (rfl | rfl) <;> exact h (by rw [String.toList_append]; exact List.suffix_append _ _)

theorem selectedVersion?_eq_some_iff :
    selectedVersion? selector host = some version ↔ Means host selector version := by
  unfold selectedVersion?
  by_cases hkernel : selector = "kernelVersion"
  · rw [if_pos (by simpa using hkernel)]
    constructor
    · rintro ⟨⟩
      exact .kernel (by rw [hkernel]; exact List.mem_cons_self)
    · rintro (h | ⟨-, hother, -⟩)
      · rfl
      · exact absurd hkernel hother
  · rw [if_neg (by simpa using hkernel)]
    cases hscope : Text.dropBack? "-kernel".toList selector.toList with
    | some scope =>
      have hselector := dropBack?_toList_eq_some_iff.1 hscope
      have hmem : selector ∈ kernelNames host ↔ _ := mem_kernelNames_iff_of_suffix hselector hkernel
      have hsuffix : "-kernel".toList <:+ selector.toList := by
        by_contra hnone
        rw [dropBack?_toList_eq_none_iff.2 hnone] at hscope
        cases hscope
      simp only [Bool.or_eq_true, beq_iff_eq, ← hmem]
      constructor
      · intro h
        split_ifs at h with hname
        cases h
        exact .kernel hname
      · rintro (h | ⟨-, -, hother⟩)
        · rw [if_pos h]
        · exact absurd hsuffix hother
    | none =>
      have hsuffix := dropBack?_toList_eq_none_iff.1 hscope
      simp only [beq_iff_eq]
      constructor
      · intro h
        split_ifs at h with hname
        cases h
        exact .platform hname hkernel hsuffix
      · rintro (h | ⟨hname, -, -⟩)
        · exact absurd h (not_mem_kernelNames hsuffix hkernel)
        · rw [if_pos hname]

theorem selectedVersion?_eq_none_iff :
    selectedVersion? selector host = none ↔ ∀ version, ¬ Means host selector version := by
  simp only [Option.eq_none_iff_forall_ne_some, Ne, selectedVersion?_eq_some_iff]

theorem Means.unique {other : String} (h : Means host selector version)
    (h' : Means host selector other) : version = other := by
  rw [← selectedVersion?_eq_some_iff] at h h'
  exact Option.some.inj (h.symm.trans h')

end Selectors

section Asking

variable {clause selector : String} {op : Comparison} {expected : Version}

theorem platform_of_asksVersion (h : AsksVersion clause selector op expected)
    (host : OperatingSystem) : platform clause host =
      match selectedVersion? selector host with
      | some version => (Version.parse version).map fun actual => op.compare actual expected
      | none => .ok false := by
  obtain ⟨operand, hselects, hoperand⟩ := h
  rw [platform, Condition.parseSelected_eq_ok_iff.2 hselects, ok_bind]
  dsimp only
  rw [hoperand, ok_bind]
  cases selectedVersion? selector host with
  | none => rfl
  | some version => cases Version.parse version <;> rfl

/-- What is wrong with a clause is said before the host is looked at. -/
theorem platform_of_not_asksVersion
    (h : ∀ selector op expected, ¬ AsksVersion clause selector op expected) :
    ∃ fault, ∀ host, platform clause host = .error fault := by
  cases hread : Condition.parseSelected clause with
  | error fault => exact ⟨fault, fun host => by rw [platform, hread]; rfl⟩
  | ok c =>
    obtain ⟨selector, op, operand⟩ := c
    cases hoperand : Version.parse operand with
    | error fault =>
      refine ⟨fault, fun host => ?_⟩
      rw [platform, hread, ok_bind]
      dsimp only
      rw [hoperand]
      rfl
    | ok expected =>
      exact absurd ⟨operand, Condition.parseSelected_eq_ok_iff.1 hread, hoperand⟩
        (h selector op expected)

theorem platform_of_means (h : AsksVersion clause selector op expected) {host : OperatingSystem}
    {version : String} (hmeans : Means host selector version) : platform clause host =
      (Version.parse version).map fun actual => op.compare actual expected := by
  rw [platform_of_asksVersion h, selectedVersion?_eq_some_iff.2 hmeans]

theorem platform_of_means_nothing (h : AsksVersion clause selector op expected)
    {host : OperatingSystem} (hnone : ∀ version, ¬ Means host selector version) :
    platform clause host = .ok false := by
  rw [platform_of_asksVersion h, selectedVersion?_eq_none_iff.2 hnone]

theorem platform_eq_error_iff (host : OperatingSystem) :
    (∃ fault, platform clause host = .error fault) ↔
      (∀ selector op expected, ¬ AsksVersion clause selector op expected)
      ∨ ∃ selector op expected version, AsksVersion clause selector op expected
        ∧ Means host selector version ∧ ∃ fault, Version.parse version = .error fault := by
  by_cases hclause : ∃ selector op expected, AsksVersion clause selector op expected
  · obtain ⟨selector, op, expected, hasks⟩ := hclause
    have hread : ¬ ∀ selector op expected, ¬ AsksVersion clause selector op expected :=
      fun hnone => hnone _ _ _ hasks
    rw [or_iff_right hread]
    constructor
    · rintro ⟨fault, hfault⟩
      by_cases hmeans : ∃ version, Means host selector version
      · obtain ⟨version, hmeans⟩ := hmeans
        refine ⟨selector, op, expected, version, hasks, hmeans, ?_⟩
        rw [platform_of_means hasks hmeans] at hfault
        cases hversion : Version.parse version with
        | error fault => exact ⟨fault, rfl⟩
        | ok actual =>
          rw [hversion] at hfault
          cases hfault
      · rw [platform_of_means_nothing hasks (not_exists.1 hmeans)] at hfault
        cases hfault
    · rintro ⟨selector, op, expected, version, hasks, hmeans, fault, hfault⟩
      exact ⟨fault, by rw [platform_of_means hasks hmeans, hfault]; rfl⟩
  · push Not at hclause
    obtain ⟨fault, hfault⟩ := platform_of_not_asksVersion hclause
    exact iff_of_true ⟨fault, hfault host⟩ (.inl hclause)

end Asking

/-- A clause about platforms fails exactly when it is at fault itself, in the same way on every host,
or when the one version that its selector means on this host cannot be read. Otherwise it is
answered: with no where the selector means nothing, and else by comparing the version it means with
the operand, number by number. -/
theorem platform_decides (clause : String) :
    (∀ host, (∃ fault, platform clause host = .error fault) ↔
      (∀ selector op expected, ¬ AsksVersion clause selector op expected)
      ∨ ∃ selector op expected version, AsksVersion clause selector op expected
        ∧ Means host selector version ∧ ∃ fault, Version.parse version = .error fault)
    ∧ ((∀ selector op expected, ¬ AsksVersion clause selector op expected) →
      ∃ fault, ∀ host, platform clause host = .error fault)
    ∧ (∀ selector op expected, AsksVersion clause selector op expected → ∀ host,
      (∀ version, Means host selector version → ∀ answer, platform clause host = .ok answer ↔
        ∃ actual, Version.parse version = .ok actual
          ∧ (answer = true ↔ op.Relates actual.key expected.key))
      ∧ ((∀ version, ¬ Means host selector version) → platform clause host = .ok false))
    ∧ ∀ host selector version other, Means host selector version → Means host selector other →
      version = other := by
  refine ⟨platform_eq_error_iff, platform_of_not_asksVersion,
    fun selector op expected hasks host => ⟨fun version hmeans answer => ?_,
      platform_of_means_nothing hasks⟩, fun host selector version other => Means.unique⟩
  rw [platform_of_means hasks hmeans, map_eq_ok]
  simp only [Version.compare_eq_iff_relates]

section Sample

/-- A host whose platform looks like a kernel, and whose own version cannot be read. -/
def dashedHost : OperatingSystem where
  kernelVersion := "5.4.0-1034-gcp"
  platform := "real-kernel"
  platformVersion := "rolling"

/-- The kernel answers for a platform with its suffix, whose own version is never read; another
platform is answered with no; and an operand that is no version is at fault. -/
theorem platform_decides_of_dashedHost :
    platform "real-kernel-kernel >= 5.4" dashedHost = .ok true
    ∧ platform "real-kernel >= 5.4" dashedHost = .ok false
    ∧ ∃ fault, ∀ host, platform "real >= soon" host = .error fault := by
  have hselects {clause selector operand : String} {op : Comparison}
      (hread : Condition.parseSelected clause = .ok (selector, op, operand)) :
      Selects clause selector op operand := Condition.parseSelected_eq_ok_iff.1 hread
  have hoperand : Version.parse "5.4" = .ok ⟨5, 4, 0⟩ := by decide +kernel
  have hkernel : AsksVersion "real-kernel-kernel >= 5.4" "real-kernel-kernel" .greaterOrEqual
    ⟨5, 4, 0⟩ := ⟨"5.4", hselects (by decide +kernel), hoperand⟩
  have hplatform : AsksVersion "real-kernel >= 5.4" "real-kernel" .greaterOrEqual
    ⟨5, 4, 0⟩ := ⟨"5.4", hselects (by decide +kernel), hoperand⟩
  obtain ⟨-, -, hanswer, -⟩ := platform_decides "real-kernel-kernel >= 5.4"
  obtain ⟨-, -, hanswer', -⟩ := platform_decides "real-kernel >= 5.4"
  obtain ⟨-, hfault, -, -⟩ := platform_decides "real >= soon"
  refine ⟨?_, ?_, hfault fun selector op expected => ?_⟩
  · refine ((hanswer _ _ _ hkernel dashedHost).1 _ (.kernel (by decide)) true).2 ?_
    exact ⟨⟨5, 4, 0⟩, by decide +kernel, iff_of_true rfl (le_refl _)⟩
  · exact (hanswer' _ _ _ hplatform dashedHost).2 (selectedVersion?_eq_none_iff.1 (by decide +kernel))
  · rintro ⟨operand, hasks, hversion⟩
    have hreal : Selects "real >= soon" "real" .greaterOrEqual "soon" :=
      hselects (by decide +kernel)
    obtain ⟨-, -, rfl⟩ := hasks.unique hreal
    have hsoon : ¬ (Version.parse "soon").isOk := by decide +kernel
    exact hsoon (by rw [hversion]; rfl)

end Sample

end Triage.Clause
