import Triage.Proofs.NamedFiles
import Triage.Proofs.SearchRefinement

/-!
# Scans of namespaces

A check without a name looks for the files of the namespaces that it mentions, for each where it is
first mentioned (`scanPatterns_eq`), and for the files of all namespaces when it mentions none. It
says one thing about each object that is not as it should be, in the order of the files and of the
objects in them (`unnamed_reports_each_once`).
-/

namespace Triage

section FirstMentions

variable {α β : Type} [BEq α] [LawfulBEq α] [BEq β] [LawfulBEq β]

theorem eraseDups_concat (xs : List α) (x : α) :
    (xs ++ [x]).eraseDups = if x ∈ xs then xs.eraseDups else xs.eraseDups ++ [x] := by
  rw [List.eraseDups_append, List.cons_removeAll]
  by_cases hx : x ∈ xs
  · rw [if_pos hx, if_neg (by simpa using hx)]
    exact List.append_nil _
  · rw [if_neg hx, if_pos (by simpa using hx)]
    rfl

theorem foldl_unless_contained (xs : List α) :
    xs.foldl (fun seen x => if seen.contains x then seen else seen ++ [x]) [] = xs.eraseDups := by
  -- the fold grows at the end, where the induction from the front would need any list to begin with
  induction xs using List.reverseRecOn with
  | nil => rfl
  | append_singleton xs x ih =>
    rw [List.foldl_concat, ih, eraseDups_concat]
    simp only [List.contains_iff_mem, List.mem_eraseDups]

theorem eraseDups_map {f : α → β} (hf : Function.Injective f) (xs : List α) :
    (xs.map f).eraseDups = xs.eraseDups.map f := by
  induction xs using List.reverseRecOn with
  | nil => rfl
  | append_singleton xs x ih =>
    rw [List.map_append, List.map_singleton, eraseDups_concat, eraseDups_concat, ih,
      apply_ite (List.map f), List.map_append, List.map_singleton]
    simp only [List.mem_map_of_injective hf]

theorem nodup_eraseDups (xs : List α) : xs.eraseDups.Nodup := by
  induction xs using List.reverseRecOn with
  | nil => exact .nil
  | append_singleton xs x ih =>
    rw [eraseDups_concat]
    split
    · exact ih
    · rename_i hx
      rw [← List.mem_eraseDups] at hx
      exact List.nodup_append.2 ⟨ih, List.nodup_singleton x, by grind⟩

end FirstMentions

namespace Glob

theorem spelled_literal_append_iff {tokens : List Token} : ∀ {literal s : List Char},
    Spelled (literal.map Token.literal ++ tokens) s ↔
      ∃ rest, s = literal ++ rest ∧ Spelled tokens rest
  | [], s => by simp
  | c :: literal, s => by
    constructor
    · rintro ⟨front, back, rfl, rfl, hback⟩
      obtain ⟨rest, rfl, hrest⟩ := spelled_literal_append_iff.1 hback
      exact ⟨rest, rfl, hrest⟩
    · rintro ⟨rest, rfl, hrest⟩
      exact ⟨[c], literal ++ rest, rfl, rfl, spelled_literal_append_iff.2 ⟨rest, rfl, hrest⟩⟩

theorem exists_glob_of_ofPatterns {pattern : String} {filter : Filter}
    (h : Filter.ofPatterns pattern [] = .ok filter) :
    ∃ glob : Glob, glob.pattern = pattern ∧ ∀ path, filter.accepts path = glob.accepts path := by
  obtain ⟨glob, hglob, hfilter⟩ := bind_eq_ok.1 h
  cases hfilter
  exact ⟨glob, ofPattern_eq_ok_iff.1 hglob, fun path => Bool.and_true _⟩

end Glob

namespace Layout

theorem clusterResourcePath_eq (directory nspace : String) : clusterResourcePath directory nspace =
    "cluster-resources" ++ "/" ++ directory ++ "/" ++ nspace ++ ".json" := rfl

theorem clusterResourceGlob_eq (directory : String) : clusterResourceGlob directory =
    "cluster-resources" ++ "/" ++ directory ++ "/" ++ "*.json" := by
  rw [String.append_assoc]
  rfl

theorem clusterResourcePath_injective (directory : String) :
    Function.Injective (clusterResourcePath directory) := by
  intro nspace other h
  rw [clusterResourcePath_eq, clusterResourcePath_eq] at h
  simpa using h

/-- One star stands between what the glob spells out. -/
theorem tokens_clusterResourceGlob {directory : String} (hdirectory : Glob.IsPlain directory) :
    Glob.tokens (clusterResourceGlob directory).toList =
      ("cluster-resources" ++ "/" ++ directory ++ "/").toList.map Glob.Token.literal
        ++ .name :: (".json".toList.map Glob.Token.literal ++ []) := by
  have hplain : Glob.IsPlain ("cluster-resources" ++ "/" ++ directory ++ "/") := by
    have hrest : Glob.IsPlain "cluster-resources" ∧ Glob.IsPlain "/" := by decide
    simp only [Glob.isPlain_append, hrest, hdirectory, and_self]
  have hstar : Glob.tokens "*.json".toList =
      .name :: (".json".toList.map Glob.Token.literal ++ []) := by decide
  rw [clusterResourceGlob_eq, String.toList_append, Glob.tokens_literal_append hplain, hstar]

/-- The glob accepts the files that are named after a namespace. -/
theorem accepts_clusterResourceGlob_iff {directory : String} {glob : Glob}
    (hdirectory : Glob.IsPlain directory) (hpattern : glob.pattern = clusterResourceGlob directory)
    (path : String) : glob.accepts path = true ↔
      ∃ nspace, '/' ∉ nspace.toList ∧ path = clusterResourcePath directory nspace := by
  rw [Glob.accepts_iff, hpattern, tokens_clusterResourceGlob hdirectory,
    Glob.spelled_literal_append_iff]
  constructor
  · rintro ⟨_, hpath, nspace, _, rfl, hnspace, hback⟩
    obtain ⟨_, rfl, rfl⟩ := Glob.spelled_literal_append_iff.1 hback
    refine ⟨.ofList nspace, by rwa [String.toList_ofList], String.toList_inj.1 ?_⟩
    rw [hpath, clusterResourcePath_eq]
    simp
  · rintro ⟨nspace, hnspace, rfl⟩
    refine ⟨nspace.toList ++ (".json".toList ++ []), ?_, nspace.toList, _, rfl, hnspace,
      Glob.spelled_literal_append_iff.2 ⟨[], rfl, rfl⟩⟩
    rw [clusterResourcePath_eq]
    simp

end Layout

open Cluster

namespace WorkloadCheck

/-- The namespaces that a check mentions, that of its own field first. -/
def mentioned (check : WorkloadCheck) : List String :=
  (if check.nspace.isEmpty then [] else [check.nspace]) ++ check.namespaces

theorem scanPatterns_eq (check : WorkloadCheck) (directory : String) :
    check.scanPatterns directory =
      if check.mentioned = [] then [Layout.clusterResourceGlob directory]
      else check.mentioned.eraseDups.map (Layout.clusterResourcePath directory) := by
  have honce := foldl_unless_contained (check.mentioned.map (Layout.clusterResourcePath directory))
  rw [eraseDups_map (Layout.clusterResourcePath_injective directory)] at honce
  have hempty : check.mentioned.eraseDups = [] ↔ check.mentioned = [] := by
    simp only [List.eq_nil_iff_forall_not_mem, List.mem_eraseDups]
  unfold scanPatterns
  rw [← mentioned]
  simp only [honce, List.isEmpty_iff, List.map_eq_nil_iff, hempty]

end WorkloadCheck

section Scan

variable {α : Type} {store : EvidenceStore} {decode : Json.Decoder α} {what : String}
  {finding : α → Option Result}

theorem scanFiles_eq_ok {pattern : String} {results : List Result} :
    WorkloadCheck.scanFiles store decode what finding pattern = .ok results ↔
      ∃ files objects, store.find pattern [] = .ok files
        ∧ files.mapM (WorkloadCheck.objectsOf decode what) = .ok objects
        ∧ objects.flatten.filterMap finding = results := by
  unfold WorkloadCheck.scanFiles
  rw [bind_eq_ok]
  constructor
  · rintro ⟨files, hfiles, h⟩
    obtain ⟨objects, hobjects, hresults⟩ := bind_eq_ok.1 h
    exact ⟨files, objects, mapError_eq_ok.1 hfiles, hobjects, Except.ok.inj hresults⟩
  · rintro ⟨files, objects, hfiles, hobjects, rfl⟩
    exact ⟨files, mapError_eq_ok.2 hfiles, bind_eq_ok.2 ⟨objects, hobjects, rfl⟩⟩

theorem mapM_scanFiles_eq_ok : ∀ {patterns : List String} {results : List Result},
    (∃ parts, patterns.mapM (WorkloadCheck.scanFiles store decode what finding) = .ok parts
      ∧ parts.flatten = results) ↔
    ∃ found objects, patterns.mapM (fun pattern => store.find pattern []) = .ok found
      ∧ found.flatten.mapM (WorkloadCheck.objectsOf decode what) = .ok objects
      ∧ objects.flatten.filterMap finding = results
  | [], results => by simp [eq_comm]
  | pattern :: patterns, results => by
    simp only [mapM_cons_eq, bind_eq_ok, map_eq_ok, scanFiles_eq_ok]
    constructor
    · rintro ⟨_, ⟨_, ⟨files, objects, hfiles, hobjects, rfl⟩, parts, hparts, rfl⟩, rfl⟩
      obtain ⟨found, later, hfound, hlater, hrest⟩ := mapM_scanFiles_eq_ok.1 ⟨parts, hparts, rfl⟩
      refine ⟨files :: found, objects ++ later, ⟨files, hfiles, found, hfound, rfl⟩, ?_, ?_⟩
      · rw [List.flatten_cons, List.mapM_append, hobjects, ok_bind, hlater]
        rfl
      · rw [List.flatten_append, List.filterMap_append, hrest, List.flatten_cons]
    · rintro ⟨_, objects, ⟨files, hfiles, found, hfound, rfl⟩, hobjects, rfl⟩
      -- the objects of all files are those of the first search and those of the later ones
      rw [List.flatten_cons, List.mapM_append] at hobjects
      obtain ⟨first, hfirst, hobjects⟩ := bind_eq_ok.1 hobjects
      obtain ⟨later, hlater, hobjects⟩ := bind_eq_ok.1 hobjects
      cases hobjects
      obtain ⟨parts, hparts, hrest⟩ := mapM_scanFiles_eq_ok.2 ⟨found, later, hfound, hlater, rfl⟩
      refine ⟨_, ⟨_, ⟨files, first, hfiles, hfirst, rfl⟩, parts, hparts, rfl⟩, ?_⟩
      rw [List.flatten_cons, hrest, List.flatten_append, List.filterMap_append]

end Scan

namespace EvidenceStore

/-- What a search gives is what is found among these files. -/
def Serves (store : EvidenceStore) (held : List FoundFile) : Prop :=
  ∀ pattern exclude found, store.find pattern exclude = .ok found →
    (MemoryStore.mk held).find pattern exclude = .ok found

variable {store : EvidenceStore} {held files : List FoundFile} {pattern : String}

theorem Lawful.exists_glob (h : store.Lawful) (hfind : store.find pattern [] = .ok files) :
    ∃ glob : Glob, glob.pattern = pattern ∧ ∀ file ∈ files, glob.accepts file.1 = true := by
  cases hfilter : Glob.Filter.ofPatterns pattern [] with
  | error e =>
    rw [h.refuses hfilter] at hfind
    cases hfind
  | ok filter =>
    obtain ⟨glob, hpattern, haccepts⟩ := Glob.exists_glob_of_ofPatterns hfilter
    refine ⟨glob, hpattern, fun file hfile => ?_⟩
    rw [← haccepts]
    exact h.accepted hfilter hfind file hfile

theorem Serves.exists_glob (h : store.Serves held) (hfind : store.find pattern [] = .ok files) :
    ∃ glob : Glob, glob.pattern = pattern
      ∧ files = held.filter fun file => glob.accepts file.1 := by
  obtain ⟨filter, hfilter, hfiles⟩ := bind_eq_ok.1 (h pattern [] files hfind)
  obtain ⟨glob, hpattern, haccepts⟩ := Glob.exists_glob_of_ofPatterns hfilter
  refine ⟨glob, hpattern, ?_⟩
  rw [← Except.ok.inj hfiles]
  exact List.filter_congr fun file _ => haccepts file.1

end EvidenceStore

theorem MemoryStore.serves (store : MemoryStore) : store.toStore.Serves store.files :=
  fun _ _ _ hfind => hfind

/-- A bundle without links serves its files, in whatever order its directories give them. -/
theorem Directory.serves {fs : FileSystem} {config : DirectoryConfig} {d : Directory}
    (wf : fs.root.WellFormed) (hopen : openIn fs config = .ok d) {bundle tree : Tree}
    (hbundle : fs.root.descend d.root = some bundle) (hlinks : bundle.LinkFree)
    (horder : tree.Reordered bundle) : (d.toStore fs).Serves tree.toMemory.files := by
  intro pattern exclude found hfind
  rw [toMemory_eq_of_reordered horder (wf.descend hbundle).1]
  exact toMemory_find_of_find wf hopen hbundle hlinks hfind

namespace ObjectKind

def Object : ObjectKind → Type
  | workload _ => Workload
  | job => Job

def decoder : (kind : ObjectKind) → Json.Decoder kind.Object
  | workload _ => Workload.decode
  | job => Job.decode

def listName : ObjectKind → String
  | workload kind => s!"{kind.noun} list"
  | job => "job list"

def finding : (kind : ObjectKind) → kind.Object → Option Result
  | workload kind => kind.shortage
  | job => Job.failure

/-- A workload lacks replicas; a job failed and is not done. -/
def Fails : (kind : ObjectKind) → kind.Object → Prop
  | workload _, (w : Workload) => w.status.readyReplicas < w.spec.replicas.getD 1
  | job, (j : Job) => j.isComplete = false ∧ j.status.failed ≠ 0

instance (kind : ObjectKind) : DecidablePred kind.Fails := by
  cases kind with
  | workload kind => exact fun w => inferInstanceAs (Decidable (_ < _))
  | job => exact fun j => inferInstanceAs (Decidable (_ ∧ _))

def complaint : (kind : ObjectKind) → kind.Object → Result
  | workload kind, (w : Workload) =>
    let object := s!"{w.metadata.nspace}/{w.metadata.name}"
    .ofMessage s!"{object} {kind.label} Status" .fail
      s!"The {kind.noun} {object} has {w.status.readyReplicas}/{w.spec.replicas.getD 1} replicas"
  | job, (j : Job) =>
    let object := s!"{j.metadata.nspace}/{j.metadata.name}"
    .ofMessage s!"{object} Job Status" .fail s!"The job {object} is not complete"

theorem finding_eq (kind : ObjectKind) (object : kind.Object) :
    kind.finding object = if kind.Fails object then some (kind.complaint object) else none := by
  cases kind with
  | workload kind =>
    show (if object.desiredReplicas ≤ object.status.readyReplicas then none else _) = _
    have hfails : (workload kind).Fails object ↔
        ¬ object.desiredReplicas ≤ object.status.readyReplicas := not_le.symm
    by_cases hready : object.desiredReplicas ≤ object.status.readyReplicas
    · rw [if_pos hready, if_neg (mt hfails.1 (not_not.2 hready))]
    · rw [if_neg hready, if_pos (hfails.2 hready)]
      rfl
  | job =>
    show (if object.isComplete || object.status.failed == 0 then none else _) = _
    have hfails : (job).Fails object ↔ ¬ (object.isComplete || object.status.failed == 0) = true := by
      simp [Fails]
    by_cases hdone : (object.isComplete || object.status.failed == 0) = true
    · rw [if_pos hdone, if_neg (mt hfails.1 (not_not.2 hdone))]
    · rw [if_neg hdone, if_pos (hfails.2 hdone)]
      rfl

theorem filterMap_finding (kind : ObjectKind) (objects : List kind.Object) :
    objects.filterMap kind.finding =
      (objects.filter fun object => kind.Fails object).map kind.complaint := by
  induction objects with
  | nil => rfl
  | cons object objects ih =>
    rw [List.filterMap_cons, List.filter_cons, finding_eq, ih]
    by_cases h : kind.Fails object <;> simp [h]

/-- The file holds these objects, in the order of its document. -/
def Holds (kind : ObjectKind) (file : FoundFile) (objects : List kind.Object) : Prop :=
  ∃ items, Cluster.Items file.2 items ∧
    List.Forall₂ (fun item object => Json.decodeValue kind.decoder item = some object) items objects

/-- One thing is said about each object that fails, and nothing else. -/
def complaints (kind : ObjectKind) (objects : List kind.Object) : Output where
  results := (objects.filter fun object => kind.Fails object).map kind.complaint

/-- The files that a check without a name scans: those of each namespace that it mentions, where it
is first mentioned, or those of all namespaces when it mentions none. -/
inductive Scans (kind : ObjectKind) (check : WorkloadCheck) (store : EvidenceStore) :
    List FoundFile → Prop
  | listed {found : List (List FoundFile)} : check.mentioned ≠ [] →
    List.Forall₂ (fun nspace files =>
        store.find (Layout.clusterResourcePath kind.directory nspace) [] = .ok files)
      check.mentioned.eraseDups found →
    Scans kind check store found.flatten
  | all {files : List FoundFile} : check.mentioned = [] →
    store.find (Layout.clusterResourceGlob kind.directory) [] = .ok files →
    Scans kind check store files

section Unnamed

variable {kind : ObjectKind} {check : WorkloadCheck} {store : EvidenceStore}
  {files held : List FoundFile}

theorem scans_iff : kind.Scans check store files ↔
    ∃ found, (check.scanPatterns kind.directory).mapM (fun pattern => store.find pattern []) =
      .ok found ∧ found.flatten = files := by
  simp only [mapM_eq_ok, check.scanPatterns_eq]
  constructor
  · intro h
    cases h with
    | listed hsome hfound =>
      rw [if_neg hsome]
      exact ⟨_, List.forall₂_map_left_iff.2 hfound, rfl⟩
    | @all files hnone hfound =>
      rw [if_pos hnone]
      exact ⟨[files], .cons hfound .nil, List.append_nil files⟩
  · rintro ⟨found, hfound, rfl⟩
    by_cases hnone : check.mentioned = []
    · rw [if_pos hnone] at hfound
      cases hfound with
      | @cons _ files _ _ hfiles hrest =>
        cases hrest
        rw [List.flatten_singleton]
        exact .all hnone hfiles
    · rw [if_neg hnone, List.forall₂_map_left_iff] at hfound
      exact .listed hnone hfound

theorem analyze_unnamed (kind : ObjectKind) (hname : check.name = "") (store : EvidenceStore) :
    (kind.analyzer check).analyze store = (do
      let strict ← check.shared.isStrict
      let parts ← (check.scanPatterns kind.directory).mapM
        (WorkloadCheck.scanFiles store kind.decoder kind.listName kind.finding)
      return Output.stamp strict { results := parts.flatten }) := by
  have hempty : check.name.isEmpty = true := String.isEmpty_iff.2 hname
  cases kind with
  | workload kind =>
    show check.analyze store kind = _
    simp only [WorkloadCheck.analyze, if_pos hempty, WorkloadCheck.scan, bind_assoc, pure_bind]
    rfl
  | job =>
    show check.analyzeJob store = _
    simp only [WorkloadCheck.analyzeJob, if_pos hempty, WorkloadCheck.scan, bind_assoc, pure_bind]
    rfl

theorem mapM_objectsOf_eq_ok {objects : List (List kind.Object)} :
    files.mapM (WorkloadCheck.objectsOf kind.decoder kind.listName) = .ok objects ↔
      List.Forall₂ kind.Holds files objects := by
  have hfile (file : FoundFile) (listed : List kind.Object) :
      WorkloadCheck.objectsOf kind.decoder kind.listName file = .ok listed ↔ kind.Holds file listed :=
    mapError_eq_ok.trans Cluster.decodeList_eq_ok_iff
  rw [mapM_eq_ok]
  exact ⟨fun h => h.imp fun _ _ => (hfile _ _).1, fun h => h.imp fun _ _ => (hfile _ _).2⟩

theorem analyze_unnamed_eq_ok (hname : check.name = "") {output : Output} :
    (kind.analyzer check).analyze store = .ok output ↔
      ∃ strict files objects, check.shared.isStrict = .ok strict ∧ kind.Scans check store files
        ∧ List.Forall₂ kind.Holds files objects
        ∧ output = (kind.complaints objects.flatten).stamp strict := by
  rw [kind.analyze_unnamed hname, bind_eq_ok]
  constructor
  · rintro ⟨strict, hstrict, h⟩
    obtain ⟨parts, hparts, h⟩ := bind_eq_ok.1 h
    obtain ⟨found, objects, hfound, hobjects, hresults⟩ := mapM_scanFiles_eq_ok.1 ⟨parts, hparts, rfl⟩
    refine ⟨strict, found.flatten, objects, mapError_eq_ok.1 hstrict,
      scans_iff.2 ⟨found, hfound, rfl⟩, mapM_objectsOf_eq_ok.1 hobjects, ?_⟩
    rw [← Except.ok.inj h, ← hresults, filterMap_finding]
    rfl
  · rintro ⟨strict, files, objects, hstrict, hscans, hobjects, rfl⟩
    obtain ⟨found, hfound, rfl⟩ := scans_iff.1 hscans
    obtain ⟨parts, hparts, hresults⟩ := mapM_scanFiles_eq_ok.2
      ⟨found, objects, hfound, mapM_objectsOf_eq_ok.2 hobjects, rfl⟩
    refine ⟨strict, mapError_eq_ok.2 hstrict, bind_eq_ok.2 ⟨parts, hparts, ?_⟩⟩
    rw [hresults, filterMap_finding]
    rfl

/-- A file to scan is that of a namespace that is mentioned, or of any when none is. -/
def Covers (kind : ObjectKind) (check : WorkloadCheck) (path : String) : Prop :=
  ∃ nspace, path = Layout.clusterResourcePath kind.directory nspace
    ∧ (nspace ∈ check.mentioned ∨ check.mentioned = [] ∧ '/' ∉ nspace.toList)

/-- The files lie where they should, no two at one path, and follow the order in which the
namespaces are first mentioned, or that of the paths. -/
structure ScannedInTurn (kind : ObjectKind) (check : WorkloadCheck) (files : List FoundFile) :
    Prop where
  covered : ∀ file ∈ files, kind.Covers check file.1
  once : (files.map Prod.fst).Nodup
  byMention : check.mentioned ≠ [] → (files.map Prod.fst).Sublist
    (check.mentioned.eraseDups.map (Layout.clusterResourcePath kind.directory))
  byPath : check.mentioned = [] → Ascending files

theorem isPlain_path (kind : ObjectKind) {nspace : String} (h : Glob.IsPlain nspace) :
    Glob.IsPlain (Layout.clusterResourcePath kind.directory nspace) := by
  have hrest : Glob.IsPlain "cluster-resources" ∧ Glob.IsPlain "/" ∧ Glob.IsPlain ".json" := by
    decide
  simp only [Layout.clusterResourcePath_eq, Glob.isPlain_append, hrest, kind.isPlain_directory, h,
    and_self]

theorem sublist_of_find (kind : ObjectKind) (hlawful : store.Lawful) {nspace : String}
    (hplain : Glob.IsPlain nspace)
    (hfind : store.find (Layout.clusterResourcePath kind.directory nspace) [] = .ok files) :
    (files.map Prod.fst).Sublist [Layout.clusterResourcePath kind.directory nspace] := by
  obtain ⟨glob, hpattern, haccepts⟩ := hlawful.exists_glob hfind
  have hglob : Glob.IsPlain glob.pattern := hpattern ▸ kind.isPlain_path hplain
  have hpath : ∀ file ∈ files, file.1 = Layout.clusterResourcePath kind.directory nspace := by
    intro file hfile
    rw [← hpattern]
    exact (Glob.accepts_iff_of_isPlain hglob _).1 (haccepts file hfile)
  rcases (hlawful.orderly _ _ _ hfind).eq_nil_or_singleton hpath with rfl | ⟨file, rfl⟩
  · exact List.nil_sublist _
  · rw [List.map_singleton, hpath file (List.mem_singleton_self file)]

theorem flatten_sublist {f : String → String} {nspaces : List String}
    {found : List (List FoundFile)}
    (h : List.Forall₂ (fun nspace files => (files.map Prod.fst).Sublist [f nspace]) nspaces found) :
    (found.flatten.map Prod.fst).Sublist (nspaces.map f) := by
  induction h with
  | nil => exact .slnil
  | cons hhead _ ih =>
    rw [List.flatten_cons, List.map_append, List.map_cons, ← List.singleton_append]
    exact hhead.append ih

theorem forall₂_plain {r : String → List FoundFile → Prop} {found : List (List FoundFile)}
    (hplain : ∀ nspace ∈ check.mentioned, Glob.IsPlain nspace)
    (h : List.Forall₂ r check.mentioned.eraseDups found) :
    List.Forall₂ (fun nspace files => Glob.IsPlain nspace ∧ r nspace files)
      check.mentioned.eraseDups found :=
  (List.forall₂_and_left _ _).2 ⟨fun _ h => hplain _ (List.mem_eraseDups.1 h), h⟩

theorem Scans.inTurn (hlawful : store.Lawful)
    (hplain : ∀ nspace ∈ check.mentioned, Glob.IsPlain nspace) (h : kind.Scans check store files) :
    kind.ScannedInTurn check files := by
  cases h with
  | @listed found hsome hfound =>
    have hsub : (found.flatten.map Prod.fst).Sublist
        (check.mentioned.eraseDups.map (Layout.clusterResourcePath kind.directory)) :=
      flatten_sublist ((forall₂_plain hplain hfound).imp fun _ _ hfiles =>
        kind.sublist_of_find hlawful hfiles.1 hfiles.2)
    refine ⟨fun file hfile => ?_, hsub.nodup ?_, fun _ => hsub, fun hnone => absurd hnone hsome⟩
    · obtain ⟨nspace, hnspace, hpath⟩ := List.mem_map.1 (hsub.subset (List.mem_map_of_mem hfile))
      exact ⟨nspace, hpath.symm, .inl (List.mem_eraseDups.1 hnspace)⟩
    · exact (nodup_eraseDups _).map (Layout.clusterResourcePath_injective kind.directory)
  | all hnone hfound =>
    obtain ⟨glob, hpattern, haccepts⟩ := hlawful.exists_glob hfound
    have hasc : Ascending files := hlawful.orderly _ _ _ hfound
    refine ⟨fun file hfile => ?_, (List.pairwise_map.2 hasc).imp ne_of_lt,
      fun hsome => absurd hnone hsome, fun _ => hasc⟩
    obtain ⟨nspace, hnspace, hpath⟩ := (Layout.accepts_clusterResourceGlob_iff
      kind.isPlain_directory hpattern file.1).1 (haccepts file hfile)
    exact ⟨nspace, hpath, .inr ⟨hnone, hnspace⟩⟩

theorem Scans.mem_iff (hserves : store.Serves held)
    (hplain : ∀ nspace ∈ check.mentioned, Glob.IsPlain nspace) (h : kind.Scans check store files)
    (file : FoundFile) : file ∈ files ↔ file ∈ held ∧ kind.Covers check file.1 := by
  cases h with
  | @listed found hsome hfound =>
    -- a plain path is searched for, so each search gives what is held at this path
    have hfiles : check.mentioned.eraseDups.map (fun nspace => held.filter fun file =>
        file.1 = Layout.clusterResourcePath kind.directory nspace) = found := by
      refine forall₂_eq_map.1 ((forall₂_plain hplain hfound).imp fun nspace files hfiles => ?_)
      obtain ⟨glob, hpattern, rfl⟩ := hserves.exists_glob hfiles.2
      have hglob : Glob.IsPlain glob.pattern := hpattern ▸ kind.isPlain_path hfiles.1
      refine List.filter_congr fun file _ => ?_
      rw [Bool.eq_iff_iff, Glob.accepts_iff_of_isPlain hglob, hpattern, decide_eq_true_iff]
    simp only [← hfiles, List.mem_flatten, List.mem_map, List.mem_eraseDups,
      exists_exists_and_eq_and, List.mem_filter, decide_eq_true_iff]
    constructor
    · rintro ⟨nspace, hnspace, hfile, hpath⟩
      exact ⟨hfile, nspace, hpath, .inl hnspace⟩
    · rintro ⟨hfile, nspace, hpath, hnspace | ⟨hnone, -⟩⟩
      · exact ⟨nspace, hnspace, hfile, hpath⟩
      · exact absurd hnone hsome
  | all hnone hfound =>
    obtain ⟨glob, hpattern, rfl⟩ := hserves.exists_glob hfound
    rw [List.mem_filter, Layout.accepts_clusterResourceGlob_iff kind.isPlain_directory hpattern]
    refine and_congr_right fun _ => ⟨?_, ?_⟩
    · rintro ⟨nspace, hnspace, hpath⟩
      exact ⟨nspace, hpath, .inr ⟨hnone, hnspace⟩⟩
    · rintro ⟨nspace, hpath, hnspace | ⟨-, hnspace⟩⟩
      · rw [hnone] at hnspace
        cases hnspace
      · exact ⟨nspace, hnspace, hpath⟩

/-- A check without a name says one thing about each object that fails in the files that it scans,
and nothing else, in the order of the files and of the objects in them. The files are those of the
namespaces that it mentions, each where it is first mentioned, or those of all namespaces in the
order of the paths; each is scanned once, and no other is. -/
theorem unnamed_reports_each_once (kind : ObjectKind) {check : WorkloadCheck}
    (hname : check.name = "") (hplain : ∀ nspace ∈ check.mentioned, Glob.IsPlain nspace)
    (store : EvidenceStore) :
    (∀ output, (kind.analyzer check).analyze store = .ok output ↔
      ∃ strict files objects, check.shared.isStrict = .ok strict ∧ kind.Scans check store files
        ∧ List.Forall₂ kind.Holds files objects
        ∧ output = (kind.complaints objects.flatten).stamp strict)
    ∧ ∀ files, kind.Scans check store files →
      (store.Lawful → kind.ScannedInTurn check files)
      ∧ ∀ held, store.Serves held → ∀ file, file ∈ files ↔ file ∈ held ∧ kind.Covers check file.1 :=
  ⟨fun _ => analyze_unnamed_eq_ok hname, fun _ hscans =>
    ⟨fun hlawful => hscans.inTurn hlawful hplain, fun _ hserves => hscans.mem_iff hserves hplain⟩⟩

end Unnamed

section Sample

/-- A deployment as it may be written, where nothing is said about how many replicas it wants. -/
def deployment (nspace name : String) (ready : Int) : Json :=
  .object [("metadata", .object [("name", .string name), ("namespace", .string nspace)]),
    ("status", .object [("readyReplicas", .ofInt ready)])]

/-- In each of three namespaces a deployment that is down, and one that is not. -/
def downNamespaces : MemoryStore :=
  .ofList (["a", "b", "c"].map fun nspace => (s!"cluster-resources/deployments/{nspace}.json",
    PodCheck.listFile [deployment nspace "down" 0, deployment nspace "up" 1]))

def repeatingCheck : WorkloadCheck where
  nspace := "b"
  namespaces := ["a", "b", "a"]

theorem unnamed_reports_each_once_of_repeatingCheck :
    repeatingCheck.name = "" ∧ (∀ nspace ∈ repeatingCheck.mentioned, Glob.IsPlain nspace)
    ∧ ((workload .deployment).analyzer repeatingCheck).analyze downNamespaces.toStore =
      .ok ⟨[.ofMessage "b/down Deployment Status" .fail "The deployment b/down has 0/1 replicas",
        .ofMessage "a/down Deployment Status" .fail "The deployment a/down has 0/1 replicas"], []⟩
    ∧ ∃ files objects, (workload .deployment).Scans repeatingCheck downNamespaces.toStore files
      ∧ (workload .deployment).ScannedInTurn repeatingCheck files
      ∧ (∀ file, file ∈ files ↔
        file ∈ downNamespaces.files ∧ (workload .deployment).Covers repeatingCheck file.1)
      ∧ List.Forall₂ (workload .deployment).Holds files objects := by
  have hname : repeatingCheck.name = "" := rfl
  have hplain : ∀ nspace ∈ repeatingCheck.mentioned, Glob.IsPlain nspace := by decide
  have hanalyze : ((workload .deployment).analyzer repeatingCheck).analyze downNamespaces.toStore =
      .ok ⟨[.ofMessage "b/down Deployment Status" .fail "The deployment b/down has 0/1 replicas",
        .ofMessage "a/down Deployment Status" .fail "The deployment a/down has 0/1 replicas"],
        []⟩ := by
    decide +kernel
  have hscan := unnamed_reports_each_once (workload .deployment) hname hplain downNamespaces.toStore
  obtain ⟨strict, files, objects, -, hscans, hobjects, -⟩ := (hscan.1 _).1 hanalyze
  obtain ⟨hturn, hserved⟩ := hscan.2 files hscans
  exact ⟨hname, hplain, hanalyze, files, objects, hscans,
    hturn (MemoryStore.lawful (MemoryStore.ascending_ofList _)),
    hserved _ downNamespaces.serves, hobjects⟩

end Sample

end ObjectKind

end Triage
