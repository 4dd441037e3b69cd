import Triage.Proofs.ManifestCodec
import Triage.Proofs.RunComposition

/-!
# Leaving repeats out

An analyzer is taken for a repeat when it is written like one that was looked at, which is to say
when it is the same (`isRepeat_iff`). Going on from the analyzers seen so far, a run that leaves
repeats out does what a run does that is given the others, each where it first stands
(`after_seen`). So nothing but true repeats is left out, and what each other analyzer has to
contribute is recorded (`ofManifest_eraseDups`).
-/

namespace Triage

namespace Run

/-- The texts of the analyzers that were looked at. -/
def textsOf (analyzers : List Analyzer) : List String := analyzers.map fun a => a.toJson.compact

theorem isRepeat_iff {seen : List Analyzer} {a : Analyzer} :
    isRepeat (some (textsOf seen)) a = true ↔ a ∈ seen := by
  simp only [isRepeat, textsOf, Option.any_some, List.contains_iff_mem, List.mem_map,
    Analyzer.text_inj, exists_eq_right]

theorem removeAll_cons_eq_filter (a : Analyzer) (xs seen : List Analyzer) :
    xs.removeAll (a :: seen) = (xs.removeAll seen).filter fun x => !x == a := by
  rw [List.removeAll_cons, List.removeAll, List.removeAll, List.filter_filter, List.filter_filter]
  exact List.filter_congr fun x _ => Bool.and_comm _ _

/-- Once some analyzers were seen, a run looks at the others, each where it first stands. -/
theorem after_seen (storeAt : List LogEntry → EvidenceStore) :
    ∀ (xs seen : List Analyzer) (log : List LogEntry),
      after storeAt (some (textsOf seen)) log xs =
        after storeAt none log (xs.removeAll seen).eraseDups
  | [], seen, log => rfl
  | x :: xs, seen, log => by
    rw [after, List.cons_removeAll]
    by_cases hx : x ∈ seen
    · rw [if_pos (isRepeat_iff.2 hx), if_neg (by simpa using hx)]
      exact after_seen storeAt xs seen log
    · rw [if_neg (mt isRepeat_iff.1 hx), if_pos (by simpa using hx), List.eraseDups_cons,
        after_none_cons, ← removeAll_cons_eq_filter]
      exact congrArg (append _) (after_seen storeAt xs (x :: seen) _)

theorem ofManifestWith_eraseDups (storeAt : List LogEntry → EvidenceStore) (xs : List Analyzer) :
    ofManifestWith storeAt true xs = ofManifestWith storeAt false xs.eraseDups := by
  have h := after_seen storeAt xs [] []
  rw [List.removeAll_nil] at h
  exact h

section Position

variable {a : Analyzer} {earlier later : List Analyzer}

theorem eraseDups_of_mem (ha : a ∈ earlier) :
    (earlier ++ a :: later).eraseDups = (earlier ++ later).eraseDups := by
  rw [List.eraseDups_append, List.eraseDups_append, List.cons_removeAll,
    if_neg (by simpa using ha)]

theorem eraseDups_of_not_mem (ha : a ∉ earlier) : (earlier ++ a :: later).eraseDups =
    earlier.eraseDups ++ a :: (later.removeAll (a :: earlier)).eraseDups := by
  rw [List.eraseDups_append, List.cons_removeAll, if_pos (by simpa using ha),
    List.eraseDups_cons, removeAll_cons_eq_filter]

theorem eraseDups_append_self (xs : List Analyzer) : (xs ++ xs).eraseDups = xs.eraseDups := by
  have hnone : xs.removeAll xs = [] := by simp [List.removeAll]
  rw [List.eraseDups_append, hnone, List.eraseDups_nil, List.append_nil]

end Position

section Kept

variable (store : EvidenceStore)

theorem ofManifest_true (xs : List Analyzer) :
    ofManifest store true xs = ofManifest store false xs.eraseDups :=
  ofManifestWith_eraseDups _ xs

/-- What is not left out is run on its own. -/
theorem ofManifest_gathers_eraseDups (xs : List Analyzer) :
    (ofManifest store true xs).Gathers (xs.eraseDups.map (ofAnalyzer store)) := by
  have h := ofManifest_gathers store xs.eraseDups
  simp only [ofManifest_singleton] at h
  rwa [ofManifest_true]

variable {a : Analyzer} {earlier : List Analyzer} (later : List Analyzer)

theorem ofManifest_of_mem (ha : a ∈ earlier) :
    ofManifest store true (earlier ++ a :: later) = ofManifest store true (earlier ++ later) := by
  rw [ofManifest_true, ofManifest_true, eraseDups_of_mem ha]

theorem ofManifest_gathers_of_not_mem (ha : a ∉ earlier) :
    (ofManifest store true (earlier ++ a :: later)).Gathers
      [ofManifest store true earlier, ofAnalyzer store a,
        ofManifest store true (later.removeAll (a :: earlier))] := by
  rw [ofManifest_true, ofManifest_true, ofManifest_true, eraseDups_of_not_mem ha,
    ofManifest_append, ← List.singleton_append, ofManifest_append, ofManifest_singleton]
  exact ((gathers_singleton _).cons _).cons _

end Kept

/-- A run that leaves repeats out records what a run records that is given each analyzer only where
it first stands, which is what these analyzers contribute, each on its own. So a second round over
the same analyzers adds nothing. An analyzer that stands behind others is left out when it is one of
them; and else it is run in its place, and the contribution that is due to it is recorded. -/
theorem ofManifest_eraseDups (store : EvidenceStore) :
    (∀ xs, ofManifest store true xs = ofManifest store false xs.eraseDups)
    ∧ (∀ xs, (ofManifest store true xs).Gathers (xs.eraseDups.map (ofAnalyzer store)))
    ∧ (∀ xs, ofManifest store true (xs ++ xs) = ofManifest store true xs)
    ∧ ∀ earlier a later,
      (a ∈ earlier →
        ofManifest store true (earlier ++ a :: later) = ofManifest store true (earlier ++ later))
      ∧ (a ∉ earlier → (ofManifest store true (earlier ++ a :: later)).Gathers
          [ofManifest store true earlier, ofAnalyzer store a,
            ofManifest store true (later.removeAll (a :: earlier))]
        ∧ ∃ c, Contribution.Due store a c ∧ c.Recorded a.title (ofAnalyzer store a)) := by
  refine ⟨ofManifest_true store, ofManifest_gathers_eraseDups store, fun xs => ?_, ?_⟩
  · rw [ofManifest_true, ofManifest_true, eraseDups_append_self]
  · intro earlier a later
    obtain ⟨c, hdue⟩ := Contribution.exists_due store a
    refine ⟨ofManifest_of_mem store later, fun ha => ⟨?_, c, hdue, hdue.recorded⟩⟩
    exact ofManifest_gathers_of_not_mem store later ha

section Sample

/-- A host with a kibibyte of memory. -/
def smallHost : EvidenceStore :=
  (MemoryStore.ofList [("host-collectors/system/memory.json",
    Utf8.encode "\x7b\"total\": 1024\x7d".toList)]).toStore

/-- An analyzer that has something to say about a small host. -/
def memoryAnalyzer (message : String) (exclude : Option Flag) : Analyzer :=
  .host .memory
    { shared := { exclude }
      outcomes := [{ fail := some { when := "< 8Gi", message } }] }

/-- One analyzer comes again; one differs from it in a letter and one in its flag, and both have
their part in the run. -/
theorem ofManifest_eraseDups_of_nearRepeats :
    let low := memoryAnalyzer "low" none
    let loud := memoryAnalyzer "Low" none
    let excluded := memoryAnalyzer "low" (some (.text " True "))
    let run := ofManifest smallHost true [low, loud, low, excluded]
    low ∈ [low, loud] ∧ run = ofManifest smallHost true [low, loud, excluded]
    ∧ excluded ∉ [low, loud, low]
    ∧ Contribution.exclusion.Recorded "Amount of Memory" (ofAnalyzer smallHost excluded)
    ∧ run.report.results = [.ofMessage "Amount of Memory" .fail "low",
      .ofMessage "Amount of Memory" .fail "Low"]
    ∧ run.log = [⟨.excluded, "Amount of Memory", "analyzer excluded"⟩] := by
  intro low loud excluded run
  obtain ⟨-, hgathers, -, hplace⟩ := ofManifest_eraseDups smallHost
  have hkept : [low, loud, low, excluded].eraseDups = [low, loud, excluded] := by decide +kernel
  have hrun := hgathers [low, loud, low, excluded]
  rw [hkept] at hrun
  have hsame : low ∈ [low, loud] := List.mem_cons_self
  have hother : excluded ∉ [low, loud, low] := by decide +kernel
  obtain ⟨c, hdue, hrecorded⟩ := ((hplace [low, loud, low] excluded []).2 hother).2
  have hflag : (Flag.text " True ").Says true := .word (by decide +kernel)
  obtain rfl : c = .exclusion := hdue.eq (Contribution.due_exclusion_iff.2 hflag)
  refine ⟨hsame, (hplace [low, loud] low [excluded]).1 hsame, hother, hrecorded, ?_, ?_⟩
  · rw [hrun.results]
    decide +kernel
  · rw [hrun.log]
    decide +kernel

end Sample

end Run

end Triage
