import Triage.Proofs.FirstMatch
import Triage.Proofs.FoundFiles
import Triage.Proofs.KeptEvents

/-!
# Pods are reported one by one

What a check says about a pod follows from the check, the pod and the event files of the pod's
namespace (`PodCheck.OwnReport`). A check of a whole bundle says just this about every pod that it
covers, file by file and pod by pod (`analyze_reports_each_pod`): neither the other pods nor the
events that were kept on the way have a part in it.
-/

namespace Triage

open Cluster

/-- The rule that a well-formed outcome stands for. -/
structure Outcome.States (o : Outcome) (rule : PodRule) : Prop where
  taken : o.Takes rule.verdict rule.candidate
  test : Clause.PodTest.parse rule.candidate.when = .ok rule.test

namespace PodRule

/-- The rule is that of the first well-formed outcome whose rule holds of a pod. -/
def IsFirst (outcomes : List Outcome) (pod : Pod) (rule : PodRule) : Prop :=
  ∃ before outcome after, outcomes = before ++ outcome :: after ∧ outcome.States rule
    ∧ rule.test.holds pod = true
    ∧ ∀ o ∈ before, ∀ r, o.States r → r.test.holds pod = false

/-- No well-formed outcome has a rule that holds of a pod. -/
def NoneHolds (outcomes : List Outcome) (pod : Pod) : Prop :=
  ∀ o ∈ outcomes, ∀ r, o.States r → r.test.holds pod = false

variable {outcomes : List Outcome} {outcome : Outcome} {rule : PodRule} {pod : Pod}

theorem ofOutcome_eq_ok (index : Nat) :
    ofOutcome index outcome = .ok rule ↔ outcome.States rule := by
  unfold ofOutcome
  constructor
  · intro h
    split at h
    · simp at h
    · rename_i verdict candidate hchosen
      split at h
      · rename_i test htest
        obtain rfl := Except.ok.inj h
        exact ⟨Outcome.chosen?_eq_some_iff.1 hchosen, htest⟩
      · simp at h
  · rintro ⟨htaken, htest⟩
    rw [Outcome.chosen?_eq_some_iff.2 htaken]
    simp only [htest]

/-- The rule of an outcome, wherever the outcome stands. -/
def ofOutcome? (outcome : Outcome) : Option PodRule := (ofOutcome 0 outcome).toOption

theorem toOption_ofOutcome_eq_some (index : Nat) :
    (ofOutcome index outcome).toOption = some rule ↔ outcome.States rule := by
  rw [← ofOutcome_eq_ok index]
  cases ofOutcome index outcome <;> simp [Except.toOption]

theorem ofOutcome?_eq_some : ofOutcome? outcome = some rule ↔ outcome.States rule :=
  toOption_ofOutcome_eq_some 0

theorem toOption_ofOutcome (index : Nat) (outcome : Outcome) :
    (ofOutcome index outcome).toOption = ofOutcome? outcome :=
  Option.ext fun rule => by rw [toOption_ofOutcome_eq_some, ofOutcome?_eq_some]

theorem ofOutcomes_fst (outcomes : List Outcome) :
    (ofOutcomes outcomes).1 = outcomes.filterMap ofOutcome? := by
  unfold ofOutcomes
  generalize 0 = index
  induction outcomes generalizing index with
  | nil => rfl
  | cons outcome outcomes ih =>
    rw [List.filterMap_cons, ← toOption_ofOutcome index outcome, ← ih (index + 1),
      List.zipIdx_cons, List.map_cons, List.foldr_cons]
    cases h : ofOutcome index outcome <;> simp only [h, Except.toOption]

theorem find?_eq_some_iff :
    ((ofOutcomes outcomes).1.find? fun rule => rule.test.holds pod) = some rule ↔
      IsFirst outcomes pod rule := by
  rw [ofOutcomes_fst, List.find?_filterMap, Option.bind_eq_some_iff]
  constructor
  · rintro ⟨outcome, hfind, hrule⟩
    obtain ⟨hholds, before, after, heq, hbefore⟩ := List.find?_eq_some_iff_append.1 hfind
    rw [hrule, Option.any_some] at hholds
    refine ⟨before, outcome, after, heq, ofOutcome?_eq_some.1 hrule, hholds, fun o ho r hr => ?_⟩
    simpa [ofOutcome?_eq_some.2 hr] using hbefore o ho
  · rintro ⟨before, outcome, after, heq, hstates, hholds, hbefore⟩
    have hrule := ofOutcome?_eq_some.2 hstates
    refine ⟨outcome, List.find?_eq_some_iff_append.2 ⟨by rwa [hrule, Option.any_some], before,
      after, heq, fun o ho => ?_⟩, hrule⟩
    cases hr : ofOutcome? o with
    | none => rfl
    | some r => simp [hbefore o ho r (ofOutcome?_eq_some.1 hr)]

theorem find?_eq_none_iff :
    ((ofOutcomes outcomes).1.find? fun rule => rule.test.holds pod) = none ↔
      NoneHolds outcomes pod := by
  simp only [ofOutcomes_fst, List.find?_eq_none, List.mem_filterMap, forall_exists_index, and_imp,
    ofOutcome?_eq_some, Bool.not_eq_true, NoneHolds]
  exact ⟨fun h o ho r hr => h r o ho hr, fun h r o ho hr => h o ho r hr⟩

theorem IsFirst.unique {other : PodRule} (h : IsFirst outcomes pod rule)
    (ho : IsFirst outcomes pod other) : rule = other :=
  Option.some.inj ((find?_eq_some_iff.2 h).symm.trans (find?_eq_some_iff.2 ho))

theorem IsFirst.not_noneHolds (h : IsFirst outcomes pod rule) : ¬ NoneHolds outcomes pod := by
  obtain ⟨before, outcome, after, rfl, hstates, hholds, -⟩ := h
  intro hnone
  simp [hnone outcome (by simp) rule hstates] at hholds

end PodRule

/-- The files that hold the events of a namespace. -/
def EvidenceStore.eventFiles (store : EvidenceStore) (nspace : String) :
    Except StoreError (List FoundFile) :=
  store.find (Layout.clusterResourcePath "events" nspace) []

namespace Cluster.Pod

/-- The pod with the warnings about it as its message. -/
def warned (pod : Pod) (events : List Event) : Pod :=
  { pod with status := { pod.status with message := pod.warningText events } }

/-- The pod with a reason, and with a message of its own or from the warnings about it. -/
def completed (found : Except StoreError (List FoundFile)) (pod : Pod) :
    Except AnalysisError Pod :=
  if !pod.explained.status.message.isEmpty then return pod.explained
  else do
    let files ← found
    let events ← eventsIn files
    return pod.explained.warned events

theorem explained_metadata (pod : Pod) : pod.explained.metadata = pod.metadata := by
  unfold explained
  split <;> rfl

theorem metadata_of_completed {found : Except StoreError (List FoundFile)} {pod full : Pod}
    (h : pod.completed found = .ok full) : full.metadata = pod.metadata := by
  unfold completed at h
  split at h
  · obtain rfl := Except.ok.inj h
    exact explained_metadata pod
  · obtain ⟨files, -, h⟩ := bind_eq_ok.1 h
    obtain ⟨events, -, h⟩ := bind_eq_ok.1 h
    obtain rfl := Except.ok.inj h
    exact explained_metadata pod

end Cluster.Pod

namespace PodCheck

variable {check : PodCheck} {store : EvidenceStore} {found : Except StoreError (List FoundFile)}
  {pod : Pod} {report : Option Result} {strict : Bool}

/-- The result with its strictness. -/
def stamped (strict : Bool) (result : Result) : Result := { result with strict }

/-- What a check says about a pod, given the files that hold the events of its namespace. -/
inductive OwnReport (check : PodCheck) (found : Except StoreError (List FoundFile)) (pod : Pod) :
    Option Result → Prop
  | silent {full : Pod} : pod.completed found = .ok full →
    PodRule.NoneHolds check.outcomes full → OwnReport check found pod none
  | reported {full : Pod} {rule : PodRule} {result : Result} {strict : Bool} :
    pod.completed found = .ok full → PodRule.IsFirst check.outcomes full rule →
    check.result rule full = .ok result → check.shared.isStrict = .ok strict →
    OwnReport check found pod (some (stamped strict result))

section Alone

/-- The report about a pod whose events are read anew, before its strictness is known. -/
def reportAlone (check : PodCheck) (found : Except StoreError (List FoundFile)) (pod : Pod) :
    Except AnalysisError (Option Result) := do
  let full ← pod.completed found
  check.resolve (PodRule.ofOutcomes check.outcomes).1 full

theorem resolve_eq_ok {full : Pod} :
    check.resolve (PodRule.ofOutcomes check.outcomes).1 full = .ok report ↔
      PodRule.NoneHolds check.outcomes full ∧ report = none
      ∨ ∃ rule result, PodRule.IsFirst check.outcomes full rule
        ∧ check.result rule full = .ok result ∧ report = some result := by
  rw [resolve, ← PodRule.find?_eq_none_iff]
  simp only [← PodRule.find?_eq_some_iff]
  split
  · rename_i hfind
    simp [hfind, eq_comm]
  · rename_i rule hfind
    simp only [hfind, bind_eq_ok, pure_eq_ok, Except.ok.injEq, Option.some.injEq, reduceCtorEq,
      false_and, false_or]
    constructor
    · rintro ⟨result, hresult, rfl⟩
      exact ⟨rule, result, rfl, hresult, rfl⟩
    · rintro ⟨_, result, rfl, hresult, rfl⟩
      exact ⟨result, hresult, rfl⟩

theorem reportAlone_eq_ok : check.reportAlone found pod = .ok report ↔
    ∃ full, pod.completed found = .ok full
      ∧ check.resolve (PodRule.ofOutcomes check.outcomes).1 full = .ok report := by
  rw [reportAlone, bind_eq_ok]
  exact exists_congr fun full => and_congr_right fun _ => mapError_eq_ok

theorem ownReport_iff (hstrict : check.shared.isStrict = .ok strict) :
    OwnReport check found pod report ↔ ∃ plain, check.reportAlone found pod = .ok plain
      ∧ plain.map (stamped strict) = report := by
  simp only [reportAlone_eq_ok, resolve_eq_ok]
  constructor
  · rintro (⟨hfull, hnone⟩ | ⟨hfull, hfirst, hresult, hstrict'⟩)
    · exact ⟨none, ⟨_, hfull, .inl ⟨hnone, rfl⟩⟩, rfl⟩
    · obtain rfl := Except.ok.inj (hstrict.symm.trans hstrict')
      exact ⟨_, ⟨_, hfull, .inr ⟨_, _, hfirst, hresult, rfl⟩⟩, rfl⟩
  · rintro ⟨_, ⟨full, hfull, ⟨hnone, rfl⟩ | ⟨rule, result, hfirst, hresult, rfl⟩⟩, rfl⟩
    · exact .silent hfull hnone
    · exact .reported hfull hfirst hresult hstrict

end Alone

theorem OwnReport.unique {other : Option Result} (h : OwnReport check found pod report)
    (ho : OwnReport check found pod other) : report = other := by
  cases h with
  | silent hfull hnone =>
    cases ho with
    | silent => rfl
    | reported hfull' hfirst =>
      obtain rfl := Except.ok.inj (hfull.symm.trans hfull')
      exact absurd hnone hfirst.not_noneHolds
  | reported hfull hfirst hresult hstrict =>
    cases ho with
    | silent hfull' hnone =>
      obtain rfl := Except.ok.inj (hfull.symm.trans hfull')
      exact absurd hnone hfirst.not_noneHolds
    | reported hfull' hfirst' hresult' hstrict' =>
      obtain rfl := Except.ok.inj (hfull.symm.trans hfull')
      obtain rfl := hfirst.unique hfirst'
      obtain rfl := Except.ok.inj (hresult.symm.trans hresult')
      obtain rfl := Except.ok.inj (hstrict.symm.trans hstrict')
      rfl

/-- A result about a pod refers to this pod. -/
theorem OwnReport.involvedObject_eq {result : Result}
    (h : OwnReport check found pod (some result)) : result.involvedObject = some pod.reference := by
  cases h with
  | reported hfull _ hresult _ =>
    unfold PodCheck.result at hresult
    obtain ⟨title, -, hresult⟩ := bind_eq_ok.1 hresult
    obtain ⟨message, -, hresult⟩ := bind_eq_ok.1 hresult
    obtain rfl := Except.ok.inj hresult
    simp only [stamped, Pod.reference, Pod.metadata_of_completed hfull]

section Agreement

open WithEvents

theorem agrees_withMessage (pod : Pod) : Agrees (EventCache.Sound store)
    (withMessage store pod.explained)
    (pod.completed (store.eventFiles pod.metadata.nspace)) := by
  have hnspace : pod.explained.metadata.nspace = pod.metadata.nspace := by
    rw [Pod.explained_metadata]
  unfold withMessage Pod.completed
  split
  · exact .pure _
  · -- finding the files and reading the events in them is one step for the cache
    rw [hnspace, ← bind_assoc]
    exact (agrees_eventsOf _).bind fun events => .pure _

/-- What a file adds to the results when no events are kept. -/
def reportFileAlone (check : PodCheck) (store : EvidenceStore) (file : FoundFile) :
    Except AnalysisError (List Result) := do
  let pods ← podsIn file
  let reports ← pods.mapM fun pod =>
    check.reportAlone (store.eventFiles pod.metadata.nspace) pod
  return reports.filterMap id

theorem agrees_reportPod (pod : Pod) : Agrees (EventCache.Sound store)
    (check.reportPod store (PodRule.ofOutcomes check.outcomes).1 pod)
    (check.reportAlone (store.eventFiles pod.metadata.nspace) pod) :=
  (agrees_withMessage pod).bind fun _ => .lift _

theorem agrees_reportFile (file : FoundFile) : Agrees (EventCache.Sound store)
    (check.reportFile store (PodRule.ofOutcomes check.outcomes).1 file)
    (check.reportFileAlone store file) :=
  (Agrees.lift _).bind fun pods => (Agrees.mapM agrees_reportPod pods).bind fun _ => .pure _

/-- The warnings about outcomes that are not well formed. -/
def complaints (check : PodCheck) : List Warning :=
  (PodRule.ofOutcomes check.outcomes).2.map fun reason =>
    ⟨check.shared.title "Cluster Pod Status", reason⟩

theorem analyze_eq (check : PodCheck) (store : EvidenceStore) : check.analyze store = (do
    let strict ← check.shared.isStrict
    let files ← store.find (Layout.clusterResourceGlob "pods") []
    let results ← (files.filter fun file => check.covers file.1).mapM (check.reportFileAlone store)
    return (Output.mk results.flatten check.complaints).stamp strict) := by
  have hkept : ∀ (files : List FoundFile) (next : List (List Result) → Except AnalysisError Output),
      ((files.mapM (check.reportFile store (PodRule.ofOutcomes check.outcomes).1)).run [] >>=
        fun p => next p.1) = files.mapM (check.reportFileAlone store) >>= next :=
    fun files => (Agrees.mapM agrees_reportFile files).run_bind EventCache.sound_nil
  simp only [← hkept]
  rfl

end Agreement

/-- The pods that the files of covered namespaces list, and what is said about each of them. -/
structure Reports (check : PodCheck) (store : EvidenceStore) (files : List FoundFile)
    (pods : List (List Pod)) (reports : List (List (Option Result))) : Prop where
  found : store.find (Layout.clusterResourceGlob "pods") [] = .ok files
  listed : List.Forall₂ (fun file listed => podsIn file = .ok listed)
    (files.filter fun file => check.namespaces = [] ∨
      Layout.namespaceOf file.1 ∈ check.namespaces) pods
  own : List.Forall₂ (List.Forall₂ fun pod report =>
    check.OwnReport (store.eventFiles pod.metadata.nspace) pod report) pods reports

section Run

theorem covers_eq (check : PodCheck) : (fun file : FoundFile => check.covers file.1) =
    fun file : FoundFile => decide (check.namespaces = [] ∨
      Layout.namespaceOf file.1 ∈ check.namespaces) := by
  funext file
  cases h : check.namespaces <;> simp [covers, h]

theorem forall₂_ownReport (hstrict : check.shared.isStrict = .ok strict) {pods : List Pod}
    {reports : List (Option Result)} :
    List.Forall₂ (fun pod report =>
      check.OwnReport (store.eventFiles pod.metadata.nspace) pod report) pods reports ↔
    ∃ plain, (pods.mapM fun pod =>
        check.reportAlone (store.eventFiles pod.metadata.nspace) pod) = .ok plain
      ∧ plain.map (Option.map (stamped strict)) = reports := by
  simp only [ownReport_iff hstrict, mapM_eq_ok, ← forall₂_eq_map, forall₂_comp]

theorem reportFileAlone_eq_ok (hstrict : check.shared.isStrict = .ok strict) {file : FoundFile}
    {marked : List Result} :
    (∃ results, check.reportFileAlone store file = .ok results
      ∧ results.map (stamped strict) = marked) ↔
    ∃ pods, podsIn file = .ok pods ∧ ∃ reports, List.Forall₂ (fun pod report =>
        check.OwnReport (store.eventFiles pod.metadata.nspace) pod report) pods reports
      ∧ reports.filterMap id = marked := by
  have hstamp : ∀ plain : List (Option Result),
      (plain.map (Option.map (stamped strict))).filterMap id =
        (plain.filterMap id).map (stamped strict) := by
    intro plain
    rw [List.filterMap_map, List.map_filterMap]
    rfl
  simp only [forall₂_ownReport hstrict]
  constructor
  · rintro ⟨results, hresults, rfl⟩
    obtain ⟨pods, hpods, h⟩ := bind_eq_ok.1 hresults
    obtain ⟨plain, hplain, h⟩ := bind_eq_ok.1 h
    obtain rfl := Except.ok.inj h
    exact ⟨pods, mapError_eq_ok.1 hpods, _, ⟨plain, hplain, rfl⟩, hstamp plain⟩
  · rintro ⟨pods, hpods, _, ⟨plain, hplain, rfl⟩, rfl⟩
    exact ⟨plain.filterMap id, bind_eq_ok.2 ⟨pods, mapError_eq_ok.2 hpods,
      bind_eq_ok.2 ⟨plain, hplain, rfl⟩⟩, (hstamp plain).symm⟩

theorem reportFiles_eq_ok (hstrict : check.shared.isStrict = .ok strict) {files : List FoundFile}
    {marked : List (List Result)} :
    (∃ results, files.mapM (check.reportFileAlone store) = .ok results
      ∧ results.map (List.map (stamped strict)) = marked) ↔
    ∃ pods, List.Forall₂ (fun file listed => podsIn file = .ok listed) files pods
      ∧ ∃ reports, List.Forall₂ (List.Forall₂ fun pod report =>
        check.OwnReport (store.eventFiles pod.metadata.nspace) pod report) pods reports
      ∧ reports.map (List.filterMap id) = marked := by
  calc _ ↔ List.Forall₂ (fun file results' => ∃ results,
            check.reportFileAlone store file = .ok results
            ∧ results.map (stamped strict) = results') files marked := by
        simp only [← forall₂_comp, mapM_eq_ok, forall₂_eq_map]
    _ ↔ _ := by
        simp only [reportFileAlone_eq_ok hstrict]
        simp only [← forall₂_comp, forall₂_eq_map]

theorem stamp_flatten (results : List (List Result)) (warnings : List Warning) :
    (Output.mk results.flatten warnings).stamp strict =
      ⟨(results.map (List.map (stamped strict))).flatten, warnings⟩ := by
  rw [← List.map_flatten]
  rfl

theorem analyze_eq_ok {output : Output} : check.analyze store = .ok output ↔
    ∃ strict files results, check.shared.isStrict = .ok strict
      ∧ store.find (Layout.clusterResourceGlob "pods") [] = .ok files
      ∧ (files.filter fun file => check.covers file.1).mapM (check.reportFileAlone store) =
        .ok results
      ∧ (Output.mk results.flatten check.complaints).stamp strict = output := by
  rw [analyze_eq]
  constructor
  · intro h
    obtain ⟨strict, hstrict, h⟩ := bind_eq_ok.1 h
    obtain ⟨files, hfiles, h⟩ := bind_eq_ok.1 h
    obtain ⟨results, hresults, h⟩ := bind_eq_ok.1 h
    exact ⟨strict, files, results, mapError_eq_ok.1 hstrict, mapError_eq_ok.1 hfiles, hresults,
      Except.ok.inj h⟩
  · rintro ⟨strict, files, results, hstrict, hfiles, hresults, rfl⟩
    exact bind_eq_ok.2 ⟨strict, mapError_eq_ok.2 hstrict, bind_eq_ok.2 ⟨files,
      mapError_eq_ok.2 hfiles, bind_eq_ok.2 ⟨results, hresults, rfl⟩⟩⟩

end Run

/-- A check says about the pods of a bundle what it says about each of them alone: the files of
covered namespaces come in the byte order of their paths, and in each file pod by pod. What is said
about a pod follows from the check, the pod and the event files of the pod's namespace, and it is at
most one result, which refers to this pod. -/
theorem analyze_reports_each_pod (check : PodCheck) {store : EvidenceStore}
    (horder : store.Orderly) :
    (∀ output, check.analyze store = .ok output ↔ (∃ strict, check.shared.isStrict = .ok strict)
      ∧ ∃ files pods reports, check.Reports store files pods reports
        ∧ (files.Pairwise fun x y => bytesOf x.1 < bytesOf y.1)
        ∧ output = ⟨reports.flatten.filterMap id, check.complaints⟩)
    ∧ ∀ found pod report, check.OwnReport found pod report →
      (∀ other, check.OwnReport found pod other → other = report)
      ∧ ∀ result, report = some result → result.involvedObject =
        some ⟨"v1", "Pod", pod.metadata.nspace, pod.metadata.name⟩ := by
  refine ⟨fun output => ?_, fun found pod report h => ⟨fun other ho => ho.unique h, ?_⟩⟩
  · rw [analyze_eq_ok, covers_eq]
    constructor
    · rintro ⟨strict, files, results, hstrict, hfiles, hresults, rfl⟩
      obtain ⟨pods, hlisted, reports, hown, hmarked⟩ :=
        (reportFiles_eq_ok hstrict).1 ⟨results, hresults, rfl⟩
      refine ⟨⟨strict, hstrict⟩, files, pods, reports, ⟨hfiles, hlisted, hown⟩,
        (horder _ _ _ hfiles).bytes, ?_⟩
      rw [stamp_flatten, ← hmarked, List.filterMap_flatten]
    · rintro ⟨⟨strict, hstrict⟩, files, pods, reports, ⟨hfiles, hlisted, hown⟩, -, rfl⟩
      obtain ⟨results, hresults, hmarked⟩ :=
        (reportFiles_eq_ok hstrict).2 ⟨pods, hlisted, reports, hown, rfl⟩
      refine ⟨strict, files, results, hstrict, hfiles, hresults, ?_⟩
      rw [stamp_flatten, hmarked, List.filterMap_flatten]
  · rintro result rfl
    exact h.involvedObject_eq

section Sample

def listFile (objects : List Json) : Bytes := Utf8.encode (Json.array objects).text

/-- A pod as it may be written, where nothing else is known of it. -/
def pendingPod (nspace name : String) : Json :=
  .object [("metadata", .object [("name", .string name), ("namespace", .string nspace)]),
    ("status", .object [("phase", .string "Pending")])]

/-- Two pods of one namespace with a warning about the first, and a pod of another namespace. -/
def pendingPods : EvidenceStore :=
  (MemoryStore.ofList
    [("cluster-resources/pods/jobs.json", listFile [pendingPod "jobs" "web"]),
     ("cluster-resources/pods/apps.json",
      listFile [pendingPod "apps" "web", pendingPod "apps" "api"]),
     ("cluster-resources/events/apps.json", listFile [.object
      [("involvedObject", .object [("kind", .string "Pod"), ("namespace", .string "apps"),
          ("name", .string "web")]),
        ("type", .string "Warning"), ("message", .string "no node fits")]])]).toStore

/-- A check of one namespace whose first outcome is not well formed. -/
def pendingCheck : PodCheck where
  shared := { checkName := "pending pods" }
  namespaces := ["apps"]
  outcomes := [{ pass := some { when := "is fine" } },
    { fail := some { when := "== Pending", message := "\x7b\x7b .Status.Message \x7d\x7d" } }]

def pendingResult (name message : String) : Result :=
  { Result.ofMessage "pending pods" .fail message with
    involvedObject := some ⟨"v1", "Pod", "apps", name⟩ }

theorem analyze_reports_pendingPods : pendingPods.Orderly
    ∧ ∃ files pods reports, pendingCheck.Reports pendingPods files pods reports
      ∧ (files.Pairwise fun x y => bytesOf x.1 < bytesOf y.1)
      ∧ reports.flatten.filterMap id =
        [pendingResult "web" "no node fits",
         pendingResult "api" ""] := by
  have horder : pendingPods.Orderly := MemoryStore.orderly_ofList _
  have hanalyze : pendingCheck.analyze pendingPods =
      .ok ⟨[pendingResult "web" "no node fits",
         pendingResult "api" ""],
        [⟨"pending pods",
          "outcome 0 skipped: condition parse error: unknown operator 'is'"⟩]⟩ := by
    decide +kernel
  obtain ⟨-, files, pods, reports, hreports, hbytes, houtput⟩ :=
    ((analyze_reports_each_pod pendingCheck horder).1 _).1 hanalyze
  exact ⟨horder, files, pods, reports, hreports, hbytes, (congrArg Output.results houtput).symm⟩

end Sample

end PodCheck

end Triage
