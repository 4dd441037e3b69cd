import Triage.Analysis.Basic
import Triage.Proofs.CompactText
import Triage.Proofs.PodReports

/-!
# The envelope of a list does not matter

A collected file holds its objects as an array or as the items of a list object. What is decoded
follows from the items alone, one by one (`Lists.decodeList_eq_ok`, `Lists.decodeList_eq_error`).
The checks of the cluster read files in no other way, so they say the same about two stores that
give the same files apart from such envelopes (`envelopes_interchange`).
-/

namespace Triage

/-- Both fail with the same error, or both succeed with answers that are related. -/
inductive Alike {ε α β : Type} (related : α → β → Prop) : Except ε α → Except ε β → Prop
  | error (e : ε) : Alike related (.error e) (.error e)
  | ok {a : α} {b : β} : related a b → Alike related (.ok a) (.ok b)

section Alike

variable {ε ε' α β γ : Type} {related : α → β → Prop} {x : Except ε α} {y : Except ε β}

theorem Alike.mapError (h : Alike related x y) (f : ε → ε') :
    Alike related (x.mapError f) (y.mapError f) := by
  cases h with
  | error e => exact .error (f e)
  | ok hab => exact .ok hab

/-- The same follows from both if it follows from related answers. -/
theorem Alike.bind_eq (h : Alike related x y) {f : α → Except ε γ} {g : β → Except ε γ}
    (hfg : ∀ a b, related a b → f a = g b) : x >>= f = y >>= g := by
  cases h with
  | error e => rfl
  | ok hab => exact hfg _ _ hab

theorem mapM_congr {f : α → Except ε γ} {g : β → Except ε γ} {xs : List α} {ys : List β}
    (h : List.Forall₂ related xs ys) (hfg : ∀ a b, related a b → f a = g b) :
    xs.mapM f = ys.mapM g := by
  induction h with
  | nil => rfl
  | cons hhead _ ih => rw [mapM_cons_eq, mapM_cons_eq, hfg _ _ hhead, ih]

end Alike

namespace Cluster

/-- The file holds an array of these items, or an object that has the array as its items, among any
other members. -/
inductive Lists (listed : List Json) (bytes : Bytes) : Prop
  | bare : Json.ofBytes? bytes = some (.array listed) → Lists listed bytes
  | wrapped {members : Json.Members} : Json.ofBytes? bytes = some (.object members) →
    members.lookup "items" = some (.array listed) → Lists listed bytes

section Decoding

variable {α : Type} {decode : Json.Decoder α} {what : String} {listed : List Json}
  {bytes other : Bytes}

theorem Lists.decodeList_eq (h : Lists listed bytes) : decodeList decode what bytes =
    match listed.mapM (Json.decodeValue decode) with
    | none => .error (.malformed what)
    | some objects => .ok objects := by
  unfold decodeList
  cases h with
  | bare hbytes =>
    rw [hbytes]
    rfl
  | wrapped hbytes hitems =>
    rw [hbytes]
    simp only [items, hitems]
    rfl

/-- The objects are those of the items, in their order. -/
theorem Lists.decodeList_eq_ok (h : Lists listed bytes) {objects : List α} :
    decodeList decode what bytes = .ok objects ↔
      List.Forall₂ (fun item object => Json.decodeValue decode item = some object)
        listed objects := by
  rw [h.decodeList_eq, ← mapM_eq_some]
  cases listed.mapM (Json.decodeValue decode) <;> simp

/-- Nothing is decoded if one of the items is no such object. -/
theorem Lists.decodeList_eq_error (h : Lists listed bytes) {e : DecodeError} :
    decodeList decode what bytes = .error e ↔
      e = .malformed what ∧ ∃ item ∈ listed, Json.decodeValue decode item = none := by
  rw [h.decodeList_eq, ← mapM_eq_none]
  cases listed.mapM (Json.decodeValue decode) <;> simp [eq_comm]

/-- The items of a file: those that it lists, or none where it is an object without items. -/
inductive Items (bytes : Bytes) : List Json → Prop
  | listed {items : List Json} : Lists items bytes → Items bytes items
  | missing {members : Json.Members} : Json.ofBytes? bytes = some (.object members) →
    members.lookup "items" = none ∨ members.lookup "items" = some .null → Items bytes []

theorem exists_items_of_decodeList {objects : List α}
    (h : decodeList decode what bytes = .ok objects) : ∃ items, Items bytes items := by
  unfold decodeList at h
  split at h
  · cases h
  · rename_i document hbytes
    obtain ⟨found, hfound, -⟩ := bind_eq_ok.1 h
    unfold items at hfound
    split at hfound
    · exact ⟨_, .listed (.bare hbytes)⟩
    · split at hfound
      · rename_i hitems
        exact ⟨_, .listed (.wrapped hbytes hitems)⟩
      · rename_i hitems
        exact ⟨_, .missing hbytes (.inr hitems)⟩
      · rename_i hitems
        exact ⟨_, .missing hbytes (.inl hitems)⟩
      · cases hfound
    · cases hfound

theorem Items.decodeList_eq_ok {items : List Json} (h : Items bytes items) {objects : List α} :
    decodeList decode what bytes = .ok objects ↔
      List.Forall₂ (fun item object => Json.decodeValue decode item = some object)
        items objects := by
  cases h with
  | listed hlists => exact hlists.decodeList_eq_ok
  | missing hbytes hitems =>
    have hnone : decodeList decode what bytes = .ok [] := by
      unfold decodeList
      rw [hbytes]
      rcases hitems with hitems | hitems
      all_goals
        simp only [Cluster.items, hitems]
        rfl
    rw [hnone, List.forall₂_nil_left_iff, Except.ok.injEq, eq_comm]

/-- A file holds the objects of its items, in their order. -/
theorem decodeList_eq_ok_iff {objects : List α} : decodeList decode what bytes = .ok objects ↔
    ∃ items, Items bytes items ∧
      List.Forall₂ (fun item object => Json.decodeValue decode item = some object)
        items objects := by
  constructor
  · intro h
    obtain ⟨items, hitems⟩ := exists_items_of_decodeList h
    exact ⟨items, hitems, hitems.decodeList_eq_ok.1 h⟩
  · rintro ⟨items, hitems, h⟩
    exact hitems.decodeList_eq_ok.2 h

end Decoding

/-- The contents are the same, or they list the same items. -/
def SameList (bytes other : Bytes) : Prop :=
  bytes = other ∨ ∃ listed, Lists listed bytes ∧ Lists listed other

theorem decodeList_congr {α : Type} {decode : Json.Decoder α} {what : String} {bytes other : Bytes}
    (h : SameList bytes other) : decodeList decode what bytes = decodeList decode what other := by
  obtain rfl | ⟨listed, hbytes, hother⟩ := h
  · rfl
  · rw [hbytes.decodeList_eq, hother.decodeList_eq]

/-- A file of the same path, whose content is the same or lists the same items. -/
structure SameFile (f g : FoundFile) : Prop where
  path : f.1 = g.1
  content : SameList f.2 g.2

end Cluster

open Cluster

/-- The stores answer every request alike, apart from the envelopes of lists in the contents: each
gives what the other gives, in one envelope or the other, and refuses what the other refuses. -/
structure EvidenceStore.SameUpToEnvelopes (s t : EvidenceStore) : Prop where
  get : ∀ path, Alike SameList (s.get path) (t.get path)
  find : ∀ pattern exclude,
    Alike (List.Forall₂ SameFile) (s.find pattern exclude) (t.find pattern exclude)

theorem forall₂_filter_path {files others : List FoundFile}
    (h : List.Forall₂ SameFile files others) (p : String → Bool) :
    List.Forall₂ SameFile (files.filter fun f => p f.1) (others.filter fun f => p f.1) :=
  List.rel_filter (fun f g hfg => by
    show p f.1 = true ↔ p g.1 = true
    rw [hfg.path]) h

/-- Files in memory may change their envelopes one by one. -/
theorem MemoryStore.sameUpToEnvelopes {files others : List FoundFile}
    (h : List.Forall₂ SameFile files others) :
    (MemoryStore.mk files).toStore.SameUpToEnvelopes (MemoryStore.mk others).toStore := by
  constructor
  · intro path
    show Alike SameList ((MemoryStore.mk files).get path) ((MemoryStore.mk others).get path)
    unfold MemoryStore.get
    induction h with
    | nil => exact .error _
    | @cons f g _ _ hhead _ ih =>
      obtain ⟨p, content⟩ := f
      obtain ⟨q, other⟩ := g
      obtain ⟨rfl, hcontent⟩ := hhead
      rw [List.lookup_cons, List.lookup_cons]
      cases path == p with
      | true => exact .ok hcontent
      | false => exact ih
  · intro pattern exclude
    show Alike (List.Forall₂ SameFile) ((MemoryStore.mk files).find pattern exclude)
      ((MemoryStore.mk others).find pattern exclude)
    unfold MemoryStore.find
    cases Glob.Filter.ofPatterns pattern exclude with
    | error e => exact .error e
    | ok filter => exact .ok (forall₂_filter_path h filter.accepts)

section Checks

variable {s t : EvidenceStore} (h : s.SameUpToEnvelopes t)
include h

namespace PodCheck

omit h in
theorem podsIn_congr {f g : FoundFile} (hfg : SameFile f g) : podsIn f = podsIn g := by
  unfold podsIn
  rw [hfg.path, decodeList_congr hfg.content]

omit h in
theorem eventsIn_congr {files others : List FoundFile} (hfiles : List.Forall₂ SameFile files others) :
    eventsIn files = eventsIn others :=
  congrArg (· >>= _) (mapM_congr hfiles fun f g hfg => by
    dsimp only
    rw [decodeList_congr hfg.content])

omit h in
theorem reportAlone_congr (check : PodCheck) {found others : Except StoreError (List FoundFile)}
    (hfound : Alike (List.Forall₂ SameFile) found others) (pod : Pod) :
    check.reportAlone found pod = check.reportAlone others pod := by
  have hcompleted : pod.completed found = pod.completed others := by
    unfold Pod.completed
    split
    · rfl
    · exact (hfound.mapError _).bind_eq fun _ _ hfiles => by rw [eventsIn_congr hfiles]
  unfold reportAlone
  rw [hcompleted]

theorem reportFileAlone_congr (check : PodCheck) {f g : FoundFile} (hfg : SameFile f g) :
    check.reportFileAlone s f = check.reportFileAlone t g := by
  have hreport (pod : Pod) : check.reportAlone (s.eventFiles pod.metadata.nspace) pod =
      check.reportAlone (t.eventFiles pod.metadata.nspace) pod :=
    reportAlone_congr check (h.find _ _) pod
  unfold reportFileAlone
  simp only [podsIn_congr hfg, hreport]

theorem analyze_congr (check : PodCheck) : check.analyze s = check.analyze t := by
  rw [analyze_eq, analyze_eq]
  exact bind_congr fun strict => ((h.find _ _).mapError _).bind_eq fun files others hfiles =>
    congrArg (· >>= _) (mapM_congr (forall₂_filter_path hfiles check.covers)
      fun _ _ => check.reportFileAlone_congr h)

end PodCheck

theorem RuntimeCheck.analyze_congr (check : RuntimeCheck) : check.analyze s = check.analyze t :=
  bind_congr fun _ => ((h.get _).mapError _).bind_eq fun _ _ hcontent => by
    dsimp only
    rw [decodeList_congr hcontent]

theorem EventCheck.analyze_congr (check : EventCheck) : check.analyze s = check.analyze t := by
  unfold EventCheck.analyze
  split
  · rfl
  · exact bind_congr fun _ => ((h.get _).mapError _).bind_eq fun _ _ hcontent => by
      dsimp only
      rw [decodeList_congr hcontent]

namespace WorkloadCheck

variable {α : Type} (decode : Json.Decoder α) (what directory : String)

omit h in
theorem objectsOf_congr {f g : FoundFile} (hfg : SameFile f g) :
    objectsOf decode what f = objectsOf decode what g := by
  unfold objectsOf
  rw [decodeList_congr hfg.content]

theorem scan_congr (check : WorkloadCheck) (finding : α → Option Result) :
    check.scan s directory what decode finding = check.scan t directory what decode finding := by
  have hfiles : scanFiles s decode what finding = scanFiles t decode what finding :=
    funext fun pattern => ((h.find _ _).mapError _).bind_eq fun _ _ hfiles =>
      congrArg (· >>= _) (mapM_congr hfiles fun _ _ => objectsOf_congr decode what)
  unfold scan
  rw [hfiles]

theorem perFile_congr (check : WorkloadCheck) (report : List α → Except AnalysisError Output) :
    check.perFile s directory what decode report = check.perFile t directory what decode report :=
  ((h.find _ _).mapError _).bind_eq fun _ _ hfiles =>
    congrArg (· >>= _) (mapM_congr hfiles fun _ _ hfg => by rw [objectsOf_congr decode what hfg])

theorem analyze_congr (check : WorkloadCheck) (kind : WorkloadKind) :
    check.analyze s kind = check.analyze t kind := by
  unfold analyze
  simp only [scan_congr h, perFile_congr h]

theorem analyzeJob_congr (check : WorkloadCheck) : check.analyzeJob s = check.analyzeJob t := by
  unfold analyzeJob
  simp only [scan_congr h, perFile_congr h]

end WorkloadCheck

end Checks

namespace Analyzer

/-- The checks of what a cluster lists. -/
def IsOfCluster : Analyzer → Prop
  | pods _ | runtime _ | workload _ _ | job _ | event _ => True
  | host _ _ | yaml _ | json _ | text _ => False

theorem analyze_congr {s t : EvidenceStore} (h : s.SameUpToEnvelopes t) {a : Analyzer}
    (ha : a.IsOfCluster) : a.analyze s = a.analyze t := by
  cases a with
  | pods check => exact check.analyze_congr h
  | runtime check => exact check.analyze_congr h
  | workload kind check => exact check.analyze_congr h kind
  | job check => exact check.analyzeJob_congr h
  | event check => exact check.analyze_congr h
  | host | yaml | json | text => exact ha.elim

end Analyzer

/-- A list of items is decoded alike in any envelope: to one object for each item, in their order,
unless one of the items is no such object. So the checks of a cluster give the same answer, be it
results and warnings or an error, when files of a store change from one envelope to the other. -/
theorem envelopes_interchange :
    (∀ (α : Type) (decode : Json.Decoder α) (what : String) (listed : List Json)
      (bytes other : Bytes), Lists listed bytes → Lists listed other →
      decodeList decode what bytes = decodeList decode what other
      ∧ (∀ objects, decodeList decode what bytes = .ok objects ↔
        List.Forall₂ (fun item object => Json.decodeValue decode item = some object)
          listed objects)
      ∧ ((∃ e, decodeList decode what bytes = .error e) ↔
        ∃ item ∈ listed, Json.decodeValue decode item = none))
    ∧ ∀ s t : EvidenceStore, s.SameUpToEnvelopes t →
      ∀ a : Analyzer, a.IsOfCluster → a.analyze s = a.analyze t := by
  refine ⟨fun α decode what listed bytes other hbytes hother => ⟨?_, ?_, ?_⟩,
    fun s t h a ha => Analyzer.analyze_congr h ha⟩
  · exact decodeList_congr (.inr ⟨listed, hbytes, hother⟩)
  · exact fun objects => hbytes.decodeList_eq_ok
  · simp only [hbytes.decodeList_eq_error, exists_and_right, exists_eq, true_and]

section Sample

/-- A list object of pods. -/
def podList (items : List Json) : Json.Members :=
  [("kind", .string "PodList"), ("items", .array items), ("metadata", .object [])]

def podListFile (items : List Json) : Bytes := Utf8.encode (Json.object (podList items)).text

def waitingPods : List Json := [PodCheck.pendingPod "apps" "web", PodCheck.pendingPod "apps" "api"]

/-- What a file holds is known from its compact text. -/
theorem ofBytes?_eq_some_of_text {bytes : Bytes} {x : Json}
    (h : (Json.ofBytes? bytes).map Json.text = some x.text) : Json.ofBytes? bytes = some x :=
  Option.map_injective (fun _ _ htext => Json.compact_inj (congrArg String.ofList htext)) h

theorem lists_listFile : Lists waitingPods (PodCheck.listFile waitingPods) :=
  .bare (ofBytes?_eq_some_of_text (by decide +kernel))

theorem lists_podListFile : Lists waitingPods (podListFile waitingPods) :=
  .wrapped (ofBytes?_eq_some_of_text (x := .object (podList waitingPods)) (by decide +kernel)) rfl

/-- A store of one file about the pods of a namespace. -/
def podStore (content : Bytes) : EvidenceStore :=
  (MemoryStore.mk [("cluster-resources/pods/apps.json", content)]).toStore

theorem sameUpToEnvelopes_podStore :
    (podStore (PodCheck.listFile waitingPods)).SameUpToEnvelopes
      (podStore (podListFile waitingPods)) :=
  MemoryStore.sameUpToEnvelopes
    (.cons ⟨rfl, .inr ⟨waitingPods, lists_listFile, lists_podListFile⟩⟩ .nil)

theorem envelopes_interchange_of_waitingPods :
    (∃ pods, decodeList Pod.decode "pods" (podListFile waitingPods) = .ok pods
      ∧ pods.map (·.metadata.name) = ["web", "api"]
      ∧ decodeList Pod.decode "pods" (PodCheck.listFile waitingPods) = .ok pods)
    ∧ ∀ content ∈ [PodCheck.listFile waitingPods, podListFile waitingPods],
      (Analyzer.pods PodCheck.pendingCheck).analyze (podStore content) =
        .ok ⟨[PodCheck.pendingResult "web" "", PodCheck.pendingResult "api" ""],
          PodCheck.pendingCheck.complaints⟩ := by
  obtain ⟨hdecode, hanalyze⟩ := envelopes_interchange
  obtain ⟨hsame, -, -⟩ := hdecode Pod Pod.decode "pods" _ _ _ lists_listFile lists_podListFile
  have hnames : (decodeList Pod.decode "pods" (PodCheck.listFile waitingPods)).map
      (List.map (·.metadata.name)) = .ok ["web", "api"] := by decide +kernel
  obtain ⟨pods, hpods, hnames⟩ := map_eq_ok.1 hnames
  have hbare : (Analyzer.pods PodCheck.pendingCheck).analyze
      (podStore (PodCheck.listFile waitingPods)) =
      .ok ⟨[PodCheck.pendingResult "web" "", PodCheck.pendingResult "api" ""],
        PodCheck.pendingCheck.complaints⟩ := by decide +kernel
  refine ⟨⟨pods, hsame ▸ hpods, hnames, hpods⟩, ?_⟩
  simp only [List.forall_mem_cons, List.not_mem_nil, false_imp_iff, implies_true, and_true]
  exact ⟨hbare,
    (hanalyze _ _ sameUpToEnvelopes_podStore (.pods PodCheck.pendingCheck) trivial).symm.trans hbare⟩

end Sample

end Triage
