import Triage.Analysis.Basic
import Triage.Proofs.GlobDialect
import Triage.Proofs.ListEnvelopes
import Triage.Proofs.Search

/-!
# The file of a named object

A check that names an object makes one path of the namespace and searches for it as for a glob. A
namespace without a wildcard names one file, and the check then knows the store by this file alone.
With a wildcard the path accepts two paths at least (`exists_two_accepted`), so the check reports
about several files and none of them need be the one at the path
(`named_concerns_one_file_iff`).
-/

namespace Triage

namespace Glob

/-- A pattern without a wildcard. -/
def IsPlain (pattern : String) : Prop := ∀ c ∈ pattern.toList, isWildcard c = false

instance (pattern : String) : Decidable (IsPlain pattern) :=
  decidable_of_iff (pattern.toList.all fun c => !isWildcard c) (by simp [IsPlain])

theorem isPlain_append {s t : String} : IsPlain (s ++ t) ↔ IsPlain s ∧ IsPlain t := by
  simp only [IsPlain, String.toList_append, List.forall_mem_append]

theorem spelled_literal_iff : ∀ {literal s : List Char},
    Spelled (literal.map Token.literal) s ↔ s = literal
  | [], s => Iff.rfl
  | c :: literal, s => by
    constructor
    · rintro ⟨front, back, rfl, rfl, hback⟩
      rw [spelled_literal_iff.1 hback]
      rfl
    · rintro rfl
      exact ⟨[c], literal, rfl, rfl, spelled_literal_iff.2 rfl⟩

theorem Spelled.append : ∀ {xs ys : List Token} {s t : List Char},
    Spelled xs s → Spelled ys t → Spelled (xs ++ ys) (s ++ t)
  | [], ys, s, t, hs, ht => by
    obtain rfl : s = [] := hs
    exact ht
  | x :: xs, ys, s, t, hs, ht => by
    obtain ⟨front, back, rfl, hfront, hback⟩ := hs
    exact ⟨front, back ++ t, by simp, hfront, hback.append ht⟩

/-- A plain pattern accepts itself and nothing else. -/
theorem accepts_iff_of_isPlain {glob : Glob} (h : IsPlain glob.pattern) (path : String) :
    glob.accepts path = true ↔ path = glob.pattern := by
  have htokens := @tokens_literal_append [] _ h
  rw [List.append_nil, tokens, List.append_nil] at htokens
  rw [accepts_iff, htokens, spelled_literal_iff, String.toList_inj]

theorem Token.exists_spells (token : Token) : ∃ s, token.Spells s := by
  cases token with
  | literal c => exact ⟨[c], rfl⟩
  | one => exact ⟨['a'], 'a', by decide, rfl⟩
  | name => exact ⟨[], List.not_mem_nil⟩
  | any => exact ⟨[], List.not_mem_nil⟩
  | dirs => exact ⟨[], .inl rfl⟩

theorem exists_spelled : ∀ tokens : List Token, ∃ s, Spelled tokens s
  | [] => ⟨[], rfl⟩
  | token :: tokens => by
    obtain ⟨front, hfront⟩ := token.exists_spells
    obtain ⟨back, hback⟩ := exists_spelled tokens
    exact ⟨front ++ back, front, back, rfl, hfront, hback⟩

/-- What a wildcard stands for is not one text. -/
def Token.IsOpen (token : Token) : Prop := ∃ s t, s ≠ t ∧ token.Spells s ∧ token.Spells t

theorem Token.isOpen_one : one.IsOpen :=
  ⟨['a'], ['b'], by decide, ⟨'a', by decide, rfl⟩, ⟨'b', by decide, rfl⟩⟩

theorem Token.isOpen_name : name.IsOpen :=
  ⟨[], ['a'], by decide, List.not_mem_nil, show '/' ∉ ['a'] by decide⟩

theorem Token.isOpen_any : any.IsOpen :=
  ⟨[], ['a'], by decide, List.not_mem_nil, show '\n' ∉ ['a'] by decide⟩

theorem Token.isOpen_dirs : dirs.IsOpen :=
  ⟨[], ['/'], by decide, .inl rfl, .inr ⟨[], List.not_mem_nil, rfl⟩⟩

theorem exists_tokens_of_wildcard {c : Char} (h : isWildcard c = true) (s : List Char) :
    ∃ token rest, tokens (c :: s) = token :: tokens rest ∧ token.IsOpen := by
  rw [isWildcard, Bool.or_eq_true, beq_iff_eq, beq_iff_eq] at h
  rcases h with rfl | rfl
  · by_cases hstar : s.head? = some '*'
    · obtain ⟨s, rfl⟩ := List.head?_eq_some_iff.1 hstar
      by_cases hslash : s.head? = some '/'
      · obtain ⟨s, rfl⟩ := List.head?_eq_some_iff.1 hslash
        exact ⟨.dirs, s, by rw [tokens], Token.isOpen_dirs⟩
      · exact ⟨.any, s, tokens_any hslash, Token.isOpen_any⟩
    · exact ⟨.name, s, tokens_name hstar, Token.isOpen_name⟩
  · exact ⟨.one, s, by rw [tokens], Token.isOpen_one⟩

theorem accepts_literalPart_append {glob : Glob} {rest s : List Char}
    (hrest : glob.pattern.toList = glob.literalPart ++ rest) (hs : Spelled (tokens rest) s) :
    glob.accepts (.ofList (glob.literalPart ++ s)) = true := by
  rw [accepts_iff, tokens_pattern hrest, String.toList_ofList]
  exact (spelled_literal_iff.2 rfl).append hs

theorem exists_two_accepted {glob : Glob} (h : ¬ IsPlain glob.pattern) :
    ∃ p q, p < q ∧ glob.accepts p = true ∧ glob.accepts q = true := by
  obtain ⟨rest, hpattern, hrest⟩ := pattern_eq_literalPart_append glob
  rcases rest with _ | ⟨c, rest⟩
  · have hplain : IsPlain glob.pattern := by
      rw [IsPlain, hpattern, List.append_nil]
      exact fun c hc => not_isWildcard_of_mem_literalPart hc
    exact absurd hplain h
  obtain ⟨token, more, htokens, s, t, hne, hs, ht⟩ := exists_tokens_of_wildcard (hrest c rfl) rest
  obtain ⟨tail, htail⟩ := exists_spelled (tokens more)
  have hspelled {s : List Char} (hs : token.Spells s) :
      glob.accepts (.ofList (glob.literalPart ++ (s ++ tail))) = true := by
    refine accepts_literalPart_append hpattern ?_
    rw [htokens]
    exact ⟨s, tail, rfl, hs, htail⟩
  have hpaths : String.ofList (glob.literalPart ++ (s ++ tail)) ≠
      .ofList (glob.literalPart ++ (t ++ tail)) := by
    simpa [← String.toList_inj] using hne
  rcases lt_or_gt_of_ne hpaths with hlt | hlt
  · exact ⟨_, _, hlt, hspelled hs, hspelled ht⟩
  · exact ⟨_, _, hlt, hspelled ht, hspelled hs⟩

end Glob

/-- Files of one path are no more than one file. -/
theorem Ascending.eq_nil_or_singleton {path : String} : ∀ {files : List FoundFile},
    Ascending files → (∀ file ∈ files, file.1 = path) → files = [] ∨ ∃ file, files = [file]
  | [], _, _ => .inl rfl
  | [file], _, _ => .inr ⟨file, rfl⟩
  | x :: y :: files, h, hpath => by
    have hlt : x.1 < y.1 := (List.pairwise_cons.1 h).1 y List.mem_cons_self
    rw [hpath x (by simp), hpath y (by simp)] at hlt
    exact absurd hlt (lt_irrefl _)

namespace EvidenceStore

/-- What is found is what the patterns ask for, in the order of the paths; patterns that are refused
are refused by every store. -/
structure Lawful (store : EvidenceStore) : Prop where
  orderly : store.Orderly
  refuses : ∀ {pattern exclude e}, Glob.Filter.ofPatterns pattern exclude = .error e →
    store.find pattern exclude = .error e
  accepted : ∀ {pattern exclude filter files}, Glob.Filter.ofPatterns pattern exclude = .ok filter →
    store.find pattern exclude = .ok files → ∀ file ∈ files, filter.accepts file.1 = true

/-- The stores answer alike what concerns one path: a request for it, and a search that accepts no
other. -/
structure AgreesOn (s t : EvidenceStore) (path : String) : Prop where
  get : s.get path = t.get path
  find : ∀ pattern exclude, (∀ filter, Glob.Filter.ofPatterns pattern exclude = .ok filter →
      ∀ p, filter.accepts p = true → p = path) →
    s.find pattern exclude = t.find pattern exclude

end EvidenceStore

namespace MemoryStore

variable {store other : MemoryStore} {pattern path : String} {exclude : List String}

theorem find_of_ofPatterns {filter : Glob.Filter}
    (h : Glob.Filter.ofPatterns pattern exclude = .ok filter) :
    store.toStore.find pattern exclude =
      .ok (store.files.filter fun file => filter.accepts file.1) := by
  show MemoryStore.find store pattern exclude = _
  rw [MemoryStore.find, h]
  rfl

theorem find_of_refused {e : StoreError} (h : Glob.Filter.ofPatterns pattern exclude = .error e) :
    store.toStore.find pattern exclude = .error e := by
  show MemoryStore.find store pattern exclude = _
  rw [MemoryStore.find, h]
  rfl

theorem lawful (h : Ascending store.files) : store.toStore.Lawful where
  orderly := by
    intro pattern exclude files hfind
    cases hfilter : Glob.Filter.ofPatterns pattern exclude with
    | error e =>
      rw [find_of_refused hfilter] at hfind
      cases hfind
    | ok filter =>
      rw [find_of_ofPatterns hfilter] at hfind
      cases hfind
      exact h.filter _
  refuses := find_of_refused
  accepted := by
    intro pattern exclude filter files hfilter hfind file hfile
    rw [find_of_ofPatterns hfilter] at hfind
    cases hfind
    exact (List.mem_filter.1 hfile).2

theorem lookup_eq_some_iff (h : Ascending store.files) {content : Bytes} :
    store.files.lookup path = some content ↔ (path, content) ∈ store.files :=
  ⟨mem_of_lookup, lookup_of_mem ((List.pairwise_map.2 h).imp ne_of_lt)⟩

/-- Stores with the same file at a path, or none, agree on it. -/
theorem agreesOn (hstore : Ascending store.files) (hother : Ascending other.files)
    (h : store.files.lookup path = other.files.lookup path) :
    store.toStore.AgreesOn other.toStore path where
  get := by
    simp only [toStore, get, h]
  find := by
    intro pattern exclude honly
    cases hfilter : Glob.Filter.ofPatterns pattern exclude with
    | error e => rw [find_of_refused hfilter, find_of_refused hfilter]
    | ok filter =>
      rw [find_of_ofPatterns hfilter, find_of_ofPatterns hfilter]
      refine congrArg Except.ok ((hstore.filter _).eq_of_mem_iff (hother.filter _) fun file => ?_)
      simp only [List.mem_filter, and_congr_left_iff]
      intro haccepts
      obtain rfl := honly filter hfilter _ haccepts
      rw [← lookup_eq_some_iff hstore, ← lookup_eq_some_iff hother, h]

end MemoryStore

theorem Directory.lawful {fs : FileSystem} {config : DirectoryConfig} {d : Directory}
    (wf : fs.root.WellFormed) (hopen : openIn fs config = .ok d) : (d.toStore fs).Lawful where
  orderly := orderly wf hopen
  refuses := by
    intro pattern exclude e h
    show d.find fs pattern exclude = _
    rw [Directory.find, h]
    rfl
  accepted := by
    intro pattern exclude filter files hfilter hfind file hfile
    obtain ⟨filter', start, hfilter', -, ⟨-, rfl⟩ | ⟨entries, -, hsound⟩⟩ :=
      find_eq_ok wf hopen hfind
    · cases hfile
    · rw [hfilter, Except.ok.injEq] at hfilter'
      subst hfilter'
      obtain ⟨names, -, -, haccepts, -⟩ := hsound.found file hfile
      exact haccepts

/-- What a check may name. -/
inductive ObjectKind where
  | workload (kind : WorkloadKind)
  | job
  deriving DecidableEq, Repr

namespace ObjectKind

def directory : ObjectKind → String
  | workload kind => kind.directory
  | job => "jobs"

def analyzer (check : WorkloadCheck) : ObjectKind → Analyzer
  | workload kind => .workload kind check
  | job => .job check

/-- What is reported about one file. -/
def report (kind : ObjectKind) (check : WorkloadCheck) (file : FoundFile) :
    Except AnalysisError Output :=
  match kind with
  | workload kind => do
    check.reportWorkload kind
      (← WorkloadCheck.objectsOf Cluster.Workload.decode s!"{kind.noun} list" file)
  | job => do check.reportJob (← WorkloadCheck.objectsOf Cluster.Job.decode "job list" file)

end ObjectKind

section Named

variable {kind : ObjectKind} {check : WorkloadCheck} {store : EvidenceStore}

/-- A check that names an object searches for one path and reports file by file. -/
theorem ObjectKind.analyze_named (kind : ObjectKind) (hname : check.name ≠ "")
    (store : EvidenceStore) : (kind.analyzer check).analyze store = (do
      let strict ← check.shared.isStrict
      let files ← store.find (check.namedPath kind.directory) []
      let outputs ← files.mapM (kind.report check)
      return (Output.concat outputs).stamp strict) := by
  have hempty : ¬ check.name.isEmpty = true := by simpa using hname
  cases kind with
  | workload kind =>
    show check.analyze store kind = _
    simp only [WorkloadCheck.analyze, if_neg hempty, WorkloadCheck.perFile, bind_assoc, pure_bind]
    rfl
  | job =>
    show check.analyzeJob store = _
    simp only [WorkloadCheck.analyzeJob, if_neg hempty, WorkloadCheck.perFile, bind_assoc,
      pure_bind]
    rfl

/-- At most one thing is said about a file. -/
theorem ObjectKind.length_report {file : FoundFile} {output : Output}
    (h : kind.report check file = .ok output) : output.results.length ≤ 1 := by
  cases kind with
  | workload kind =>
    obtain ⟨workloads, -, h⟩ := bind_eq_ok.1 h
    unfold WorkloadCheck.reportWorkload at h
    split at h
    · cases h
      exact le_rfl
    · obtain ⟨p, -, h⟩ := bind_eq_ok.1 h
      cases h
      exact le_rfl
  | job =>
    obtain ⟨jobs, -, h⟩ := bind_eq_ok.1 h
    unfold WorkloadCheck.reportJob at h
    split at h
    · cases h
      exact le_rfl
    · split_ifs at h
      · cases h
        exact Option.length_toList_le
      · obtain ⟨p, -, h⟩ := bind_eq_ok.1 h
        cases h
        exact le_rfl

/-- A file that lists nothing. -/
def emptyListing : Bytes := Utf8.encode "[]".toList

theorem decodeList_emptyListing {α : Type} (decode : Json.Decoder α) (what : String) :
    Cluster.decodeList decode what emptyListing = .ok [] := by
  have hread : Json.ofBytes? emptyListing = some (.array []) :=
    ofBytes?_eq_some_of_text (by decide +kernel)
  rw [Cluster.decodeList, hread]
  rfl

/-- Where nothing is listed the named object is missing, and that is said. -/
theorem ObjectKind.report_emptyListing (kind : ObjectKind) (check : WorkloadCheck) :
    ∃ result, ∀ path, kind.report check (path, emptyListing) = .ok (.ofResult result) := by
  cases kind with
  | workload kind =>
    refine ⟨(check.resolveMissing kind).toResult, fun path => ?_⟩
    unfold report WorkloadCheck.objectsOf
    rw [decodeList_emptyListing]
    rfl
  | job =>
    refine ⟨.ofMessage s!"{check.name} Job Status" .fail
      s!"The job \"{check.name}\" was not found", fun path => ?_⟩
    unfold report WorkloadCheck.objectsOf
    rw [decodeList_emptyListing]
    rfl

theorem ObjectKind.isPlain_directory (kind : ObjectKind) : Glob.IsPlain kind.directory := by
  cases kind with
  | workload kind => cases kind <;> decide
  | job => decide

theorem WorkloadCheck.namedPath_eq (check : WorkloadCheck) (directory : String) :
    check.namedPath directory = "cluster-resources" ++ "/" ++ directory ++ "/"
      ++ (if check.nspace.isEmpty then "default" else check.nspace) ++ ".json" := rfl

/-- The path has the wildcards of the namespace. -/
theorem ObjectKind.isPlain_namedPath (kind : ObjectKind) (check : WorkloadCheck) :
    Glob.IsPlain (check.namedPath kind.directory) ↔ Glob.IsPlain check.nspace := by
  have hnspace : Glob.IsPlain (if check.nspace.isEmpty then "default" else check.nspace) ↔
      Glob.IsPlain check.nspace := by
    by_cases hempty : check.nspace.isEmpty = true
    · rw [if_pos hempty, String.isEmpty_iff.1 hempty]
      decide
    · rw [if_neg hempty]
  have hrest : Glob.IsPlain "cluster-resources" ∧ Glob.IsPlain "/" ∧ Glob.IsPlain ".json" := by
    decide
  simp only [WorkloadCheck.namedPath_eq, Glob.isPlain_append, hnspace, hrest,
    kind.isPlain_directory, true_and, and_true]

theorem WorkloadCheck.not_blank_namedPath (check : WorkloadCheck) (directory : String) :
    isBlankText (check.namedPath directory) = false := by
  have hc : Text.isBlank 'c' = false := by decide
  simp [isBlankText, namedPath_eq, String.toList_append, hc]

section Search

variable {filter : Glob.Filter}

/-- What a plain path is asked for is one file. -/
theorem ObjectKind.eq_namedPath_of_accepts
    (h : Glob.isAffordable (check.namedPath kind.directory) = true → Glob.IsPlain check.nspace)
    (hfilter : Glob.Filter.ofPatterns (check.namedPath kind.directory) [] = .ok filter)
    {p : String} (haccepts : filter.accepts p = true) : p = check.namedPath kind.directory := by
  have hpattern := Glob.ofPattern_eq_ok_iff.1 (Directory.ofPattern_of_ofPatterns hfilter)
  have hplain : Glob.IsPlain filter.wanted.pattern := by
    rw [hpattern, kind.isPlain_namedPath]
    exact h (hpattern ▸ filter.wanted.affordable)
  rw [Glob.Filter.accepts, Bool.and_eq_true] at haccepts
  rw [← hpattern]
  exact (Glob.accepts_iff_of_isPlain hplain p).1 haccepts.1

theorem ObjectKind.exists_two_accepted (kind : ObjectKind)
    (haffordable : Glob.isAffordable (check.namedPath kind.directory) = true)
    (hwild : ¬ Glob.IsPlain check.nspace) :
    ∃ filter, Glob.Filter.ofPatterns (check.namedPath kind.directory) [] = .ok filter
      ∧ ∃ p q, p < q ∧ filter.accepts p = true ∧ filter.accepts q = true := by
  let glob : Glob :=
    ⟨check.namedPath kind.directory, check.not_blank_namedPath kind.directory, haffordable⟩
  obtain ⟨p, q, hlt, hp, hq⟩ := @Glob.exists_two_accepted glob
    (mt (kind.isPlain_namedPath check).1 hwild)
  refine ⟨⟨glob, []⟩, ?_, p, q, hlt, by simpa [Glob.Filter.accepts] using hp,
    by simpa [Glob.Filter.accepts] using hq⟩
  exact bind_eq_ok.2 ⟨glob, Glob.ofPattern_eq_ok_iff.2 rfl, rfl⟩

/-- Empty listings at some paths. -/
def emptyListings (paths : List String) : MemoryStore :=
  ⟨paths.map fun path => (path, emptyListing)⟩

theorem ascending_emptyListings {paths : List String} (h : paths.Pairwise (· < ·)) :
    Ascending (emptyListings paths).files :=
  List.pairwise_map.2 h

/-- One thing is said about each empty listing that is found. -/
theorem ObjectKind.analyze_emptyListings (hname : check.name ≠ "") {strict : Bool}
    (hstrict : check.shared.isStrict = .ok strict)
    (hfilter : Glob.Filter.ofPatterns (check.namedPath kind.directory) [] = .ok filter)
    {paths : List String} (haccepts : ∀ path ∈ paths, filter.accepts path = true) :
    ∃ output, (kind.analyzer check).analyze (emptyListings paths).toStore = .ok output
      ∧ output.results.length = paths.length := by
  obtain ⟨result, hresult⟩ := kind.report_emptyListing check
  have hfind : (emptyListings paths).toStore.find (check.namedPath kind.directory) [] =
      .ok (emptyListings paths).files := by
    rw [MemoryStore.find_of_ofPatterns hfilter, List.filter_eq_self.2]
    intro file hfile
    obtain ⟨path, hpath, rfl⟩ := List.mem_map.1 hfile
    exact haccepts path hpath
  have hreports : (emptyListings paths).files.mapM (kind.report check) =
      .ok (paths.map fun _ => .ofResult result) := by
    rw [mapM_eq_ok, emptyListings, List.forall₂_map_left_iff, List.forall₂_map_right_iff,
      List.forall₂_same]
    exact fun path _ => hresult path
  refine ⟨(Output.concat (paths.map fun _ => .ofResult result)).stamp strict, ?_, ?_⟩
  · rw [kind.analyze_named hname, hstrict, hfind]
    show (emptyListings paths).files.mapM (kind.report check) >>= _ = _
    rw [hreports]
    rfl
  · simp [Output.stamp, Output.concat, Output.ofResult]

end Search

end Named

namespace ObjectKind

/-- The check says the same of stores that agree on the path of its object. -/
def ReadsOneFile (kind : ObjectKind) (check : WorkloadCheck) : Prop :=
  ∀ s t : EvidenceStore, s.Lawful → t.Lawful → s.AgreesOn t (check.namedPath kind.directory) →
    (kind.analyzer check).analyze s = (kind.analyzer check).analyze t

/-- The check has at most one result. -/
def ReportsOnce (kind : ObjectKind) (check : WorkloadCheck) : Prop :=
  ∀ s : EvidenceStore, s.Lawful → ∀ output, (kind.analyzer check).analyze s = .ok output →
    output.results.length ≤ 1

/-- The namespace has no wildcard, unless the strictness or the path is refused anyway. -/
def NamesOneFile (kind : ObjectKind) (check : WorkloadCheck) : Prop :=
  (∃ strict, check.shared.isStrict = .ok strict) →
    Glob.isAffordable (check.namedPath kind.directory) = true → Glob.IsPlain check.nspace

variable {kind : ObjectKind} {check : WorkloadCheck}

theorem ReadsOneFile.namesOneFile (hname : check.name ≠ "") (hone : kind.ReadsOneFile check) :
    kind.NamesOneFile check := by
  rintro ⟨strict, hstrict⟩ haffordable
  by_contra hwild
  obtain ⟨filter, hfilter, p, q, hlt, hp, hq⟩ := kind.exists_two_accepted haffordable hwild
  obtain ⟨r, hr, hne⟩ : ∃ r, filter.accepts r = true ∧ check.namedPath kind.directory ≠ r := by
    by_cases heq : check.namedPath kind.directory = p
    · exact ⟨q, hq, heq ▸ hlt.ne⟩
    · exact ⟨p, hp, heq⟩
  -- the stores differ at `r` only, and one of the two has nothing to report
  have hnone : Ascending (emptyListings []).files := ascending_emptyListings .nil
  have hsome : Ascending (emptyListings [r]).files :=
    ascending_emptyListings (List.pairwise_singleton _ _)
  have hlookup : (emptyListings []).files.lookup (check.namedPath kind.directory) =
      (emptyListings [r]).files.lookup (check.namedPath kind.directory) := by
    simp only [emptyListings, List.map_cons, List.map_nil, List.lookup_cons,
      beq_eq_false_iff_ne.2 hne]
  have hsame := hone _ _ (MemoryStore.lawful hnone) (MemoryStore.lawful hsome)
    (MemoryStore.agreesOn hnone hsome hlookup)
  obtain ⟨output, houtput, hlength⟩ :=
    analyze_emptyListings hname hstrict hfilter (List.forall_mem_nil _)
  obtain ⟨output', houtput', hlength'⟩ :=
    analyze_emptyListings hname hstrict hfilter (List.forall_mem_singleton.2 hr)
  rw [houtput, houtput', Except.ok.injEq] at hsame
  rw [hsame, hlength'] at hlength
  cases hlength

theorem NamesOneFile.readsOneFile (hname : check.name ≠ "") (h : kind.NamesOneFile check) :
    kind.ReadsOneFile check := by
  intro s t _ _ hagree
  rw [kind.analyze_named hname, kind.analyze_named hname]
  cases hstrict : check.shared.isStrict with
  | error e => rfl
  | ok strict =>
    rw [hagree.find _ _ fun filter hfilter p haccepts =>
      eq_namedPath_of_accepts (h ⟨strict, hstrict⟩) hfilter haccepts]

theorem ReportsOnce.namesOneFile (hname : check.name ≠ "") (hone : kind.ReportsOnce check) :
    kind.NamesOneFile check := by
  rintro ⟨strict, hstrict⟩ haffordable
  by_contra hwild
  obtain ⟨filter, hfilter, p, q, hlt, hp, hq⟩ := kind.exists_two_accepted haffordable hwild
  obtain ⟨output, houtput, hlength⟩ :=
    @analyze_emptyListings kind check filter hname strict hstrict hfilter [p, q] (by simp [hp, hq])
  have hle := hone _ (MemoryStore.lawful (ascending_emptyListings (List.pairwise_pair.2 hlt)))
    output houtput
  rw [hlength, List.length_cons, List.length_singleton] at hle
  omega

theorem NamesOneFile.reportsOnce (hname : check.name ≠ "") (h : kind.NamesOneFile check) :
    kind.ReportsOnce check := by
  intro s hs output ho
  rw [kind.analyze_named hname] at ho
  obtain ⟨strict, hstrict, ho⟩ := bind_eq_ok.1 ho
  obtain ⟨files, hfiles, ho⟩ := bind_eq_ok.1 ho
  obtain ⟨outputs, houtputs, ho⟩ := bind_eq_ok.1 ho
  cases ho
  replace hstrict := mapError_eq_ok.1 hstrict
  replace hfiles := mapError_eq_ok.1 hfiles
  have hpath : ∀ file ∈ files, file.1 = check.namedPath kind.directory := by
    intro file hfile
    cases hfilter : Glob.Filter.ofPatterns (check.namedPath kind.directory) [] with
    | error e =>
      rw [hs.refuses hfilter] at hfiles
      cases hfiles
    | ok filter =>
      have haccepts := hs.accepted hfilter hfiles file hfile
      exact eq_namedPath_of_accepts (h ⟨strict, hstrict⟩) hfilter haccepts
  -- files of one path are one file, and one thing is said about it
  have hreports := mapM_eq_ok.1 houtputs
  rcases (hs.orderly _ _ _ hfiles).eq_nil_or_singleton hpath with rfl | ⟨file, rfl⟩
  · cases hreports
    exact Nat.zero_le 1
  · cases hreports with
    | cons hreport hrest =>
      cases hrest
      simpa [Output.stamp, Output.concat] using length_report hreport

/-- A check that names an object concerns one file, in what it reads and in what it reports, exactly
when its namespace has no wildcard, unless its strictness or its path is refused anyway. -/
theorem named_concerns_one_file_iff (kind : ObjectKind) {check : WorkloadCheck}
    (hname : check.name ≠ "") :
    (kind.ReadsOneFile check ↔ kind.NamesOneFile check)
    ∧ (kind.ReportsOnce check ↔ kind.NamesOneFile check) :=
  ⟨⟨ReadsOneFile.namesOneFile hname, NamesOneFile.readsOneFile hname⟩,
    ⟨ReportsOnce.namesOneFile hname, NamesOneFile.reportsOnce hname⟩⟩

section Sample

/-- A check of the deployment `web`. -/
def webCheck (nspace : String) : WorkloadCheck where
  name := "web"
  nspace := nspace
  outcomes := [{ fail := some { when := "< 1", message := "down" } }]

theorem named_concerns_one_file_iff_of_webCheck :
    ((webCheck "apps").name ≠ "" ∧ (workload .deployment).ReadsOneFile (webCheck "apps")
      ∧ (workload .deployment).ReportsOnce (webCheck "apps"))
    ∧ (webCheck "*").name ≠ "" ∧ ¬ (workload .deployment).ReadsOneFile (webCheck "*")
      ∧ ¬ (workload .deployment).ReportsOnce (webCheck "*") := by
  have hplain := named_concerns_one_file_iff (workload .deployment)
    (show (webCheck "apps").name ≠ "" by decide)
  have hwild := named_concerns_one_file_iff (workload .deployment)
    (show (webCheck "*").name ≠ "" by decide)
  have happs : (workload .deployment).NamesOneFile (webCheck "apps") := fun _ _ => by decide
  have hstar : ¬ (workload .deployment).NamesOneFile (webCheck "*") := fun h =>
    absurd (h ⟨false, rfl⟩ (by decide +kernel)) (by decide)
  exact ⟨⟨by decide, hplain.1.2 happs, hplain.2.2 happs⟩, by decide, mt hwild.1.1 hstar,
    mt hwild.2.1 hstar⟩

/-- A deployment of the same name in each of two namespaces. -/
def webNamespaces : MemoryStore :=
  .ofList (["a", "b"].map fun nspace => (s!"cluster-resources/deployments/{nspace}.json",
    PodCheck.listFile [.object [("metadata", .object [("name", .string "web")])]]))

/-- The namespace `*` is searched for as a glob. -/
theorem star_reports_on_all_namespaces :
    ¬ (∀ (kind : ObjectKind) (check : WorkloadCheck), check.name ≠ "" →
      kind.ReadsOneFile check ∧ kind.ReportsOnce check)
    ∧ ((workload .deployment).analyzer (webCheck "*")).analyze webNamespaces.toStore =
      .ok ⟨[.ofMessage "web Status" .fail "down", .ofMessage "web Status" .fail "down"], []⟩
    ∧ ((workload .deployment).analyzer (webCheck "*")).analyze (MemoryStore.ofList []).toStore =
      .ok ⟨[], []⟩
    ∧ (MemoryStore.ofList []).toStore.AgreesOn webNamespaces.toStore
      "cluster-resources/deployments/*.json" := by
  have hanalyze : ((workload .deployment).analyzer (webCheck "*")).analyze webNamespaces.toStore =
      .ok ⟨[.ofMessage "web Status" .fail "down", .ofMessage "web Status" .fail "down"], []⟩ := by
    decide +kernel
  refine ⟨fun hone => ?_, hanalyze, by decide +kernel, MemoryStore.agreesOn
    (MemoryStore.ascending_ofList _) (MemoryStore.ascending_ofList _) (by decide +kernel)⟩
  have hle := (hone (workload .deployment) (webCheck "*") (by decide)).2 _
    (MemoryStore.lawful (MemoryStore.ascending_ofList _)) _ hanalyze
  exact absurd hle (by decide)

end Sample

end ObjectKind

end Triage
