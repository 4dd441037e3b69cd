import Triage.Analysis.HostFacts
import Triage.Proofs.Success

/-!
# Facts from many nodes

The file of the host itself is all that counts when it is there. Otherwise every node of the list
must have its file, and a check says about each of them what it would say about that file alone, in
the order of the list (`analyze_fansOut`). All files are fetched before the first of them is looked
at, so a file that is missing counts before one that is wrong.
-/

namespace Triage

/-- The title of what is reported about a node; one without a name is the host itself. -/
def nodeTitle (title node : String) : String :=
  if node.isEmpty then title else s!"{title} - Node {node}"

theorem Collected.title_ofNode (title node : String) (content : Bytes) :
    (Collected.ofNode node content).title title = nodeTitle title node := by
  rw [ofNode, nodeTitle]
  split <;> rfl

namespace Output

theorem stamp_concat (strict : Bool) (outputs : List Output) :
    (concat outputs).stamp strict = concat (outputs.map (stamp strict)) := by
  simp [concat, stamp, List.map_flatMap, List.flatMap_map]

theorem concat_singleton (o : Output) : concat [o] = o := by simp [concat]

end Output

namespace EvidenceStore

/-- The store says that it has no such file. -/
def Lacks (store : EvidenceStore) (path : String) : Prop :=
  ∃ p, store.get path = .error (.notFound p)

/-- There is no file of the host itself, and a list with these nodes. -/
structure ListsNodes (store : EvidenceStore) (file : String) (nodes : List String) : Prop where
  own : store.Lacks (Layout.hostFactPath file)
  list : ∃ manifest, store.get Layout.nodeListPath = .ok manifest
    ∧ Cluster.decodeRecord Host.NodeList.decode "node names manifest" manifest = .ok ⟨nodes⟩

/-- The file of a node. -/
def getFrom (store : EvidenceStore) (file node : String) : Except StoreError Bytes :=
  store.get (Layout.nodeFactPath Layout.systemDir node file)

variable {store : EvidenceStore} {path file node : String} {content manifest : Bytes}
  {e : StoreError}

theorem get?_of_lacks (h : store.Lacks path) : store.get? path = .ok none := by
  obtain ⟨p, hp⟩ := h
  rw [get?, hp]

theorem get?_of_ok (h : store.get path = .ok content) : store.get? path = .ok (some content) := by
  rw [get?, h]

theorem get?_of_error (h : store.get path = .error e) (he : ∀ p, e ≠ .notFound p) :
    store.get? path = .error e := by
  rw [get?, h]
  cases e with
  | notFound p => exact absurd rfl (he p)
  | _ => rfl

theorem ofStore_of_ne_notFound (he : ∀ p, e ≠ .notFound p) :
    AnalysisError.ofStore e = .store e := by
  cases e with
  | notFound p => exact absurd rfl (he p)
  | _ => rfl

section Collect

variable {paths : FactPaths}

theorem collect_of_own (h : store.get paths.own = .ok content) :
    store.collect paths = .ok [⟨none, content⟩] := by
  rw [collect, get?_of_ok h]
  rfl

theorem collect_of_own_error (h : store.get paths.own = .error e) (he : ∀ p, e ≠ .notFound p) :
    store.collect paths = .error (.store e) := by
  rw [collect, get?_of_error h he, ← ofStore_of_ne_notFound he]
  rfl

theorem collect_of_lacks (hown : store.Lacks paths.own) (hlist : store.Lacks Layout.nodeListPath) :
    store.collect paths = .ok [] := by
  rw [collect, get?_of_lacks hown, get?_of_lacks hlist]
  rfl

theorem collect_of_list_error (hown : store.Lacks paths.own)
    (hlist : store.get Layout.nodeListPath = .error e) (he : ∀ p, e ≠ .notFound p) :
    store.collect paths = .error (.store e) := by
  rw [collect, get?_of_lacks hown, get?_of_error hlist he, ← ofStore_of_ne_notFound he]
  rfl

theorem collect_of_list (hown : store.Lacks paths.own)
    (hlist : store.get Layout.nodeListPath = .ok manifest) : store.collect paths =
      ((Cluster.decodeRecord Host.NodeList.decode "node names manifest" manifest).mapError .decode
        >>= fun list => list.nodes.mapM (store.collectedFrom paths)) := by
  rw [collect, get?_of_lacks hown, get?_of_ok hlist]
  rfl

end Collect

theorem collectedFrom_eq_ok {c : Collected} :
    store.collectedFrom (.standard file) node = .ok c ↔
      ∃ content, store.getFrom file node = .ok content ∧ c = .ofNode node content := by
  simp only [collectedFrom, getFrom, FactPaths.standard]
  cases store.get (Layout.nodeFactPath Layout.systemDir node file) <;> simp [eq_comm]

theorem collectedFrom_eq_error {e : AnalysisError} :
    store.collectedFrom (.standard file) node = .error e ↔
      ∃ e', store.getFrom file node = .error e' ∧ e = .fanout node e' := by
  simp only [collectedFrom, getFrom, FactPaths.standard]
  cases store.get (Layout.nodeFactPath Layout.systemDir node file) <;> simp [eq_comm]

end EvidenceStore

namespace HostCheck

def titleOf (check : HostCheck) (fact : HostFact) : String :=
  check.shared.title (fact.defaultTitle check)

/-- What a check of a fact says about one file, under a title of its own. -/
def outputOf (check : HostCheck) (fact : HostFact) (strict : Bool) (title : String)
    (content : Bytes) : Except AnalysisError Output :=
  (check.reportFile fact.reading title ⟨none, content⟩).map (Output.stamp strict)

/-- The node has its file, and this is what a check says about it alone. -/
def ReportsOn (check : HostCheck) (store : EvidenceStore) (fact : HostFact) (file : String)
    (strict : Bool) (node : String) (o : Output) : Prop :=
  ∃ content, store.getFrom file node = .ok content
    ∧ check.outputOf fact strict (nodeTitle (check.titleOf fact) node) content = .ok o

variable {check : HostCheck} {fact : HostFact} {file node : String} {strict : Bool}
  {store : EvidenceStore} {content manifest : Bytes} {nodes : List String}

theorem report_eq (hstrict : check.shared.isStrict = .ok strict) (reading : HostFact.Reading)
    (title : String) (files : List Collected) : check.report reading title files =
      (files.mapM fun c => (check.reportFile reading title c).map (Output.stamp strict)).map
        Output.concat := by
  rw [report, hstrict, mapM_map]
  cases files.mapM (check.reportFile reading title) with
  | error e => rfl
  | ok outputs => exact congrArg Except.ok (Output.stamp_concat strict outputs)

theorem reportFile_ofNode (fact : HostFact) (strict : Bool) (node : String) (content : Bytes) :
    (check.reportFile fact.reading (check.titleOf fact) (.ofNode node content)).map
      (Output.stamp strict) =
        check.outputOf fact strict (nodeTitle (check.titleOf fact) node) content := by
  rw [outputOf, reportFile, reportFile, Collected.title_ofNode]
  rfl

theorem collectedFrom_bind_eq_ok {o : Output} :
    (∃ c, store.collectedFrom (.standard file) node = .ok c
      ∧ (check.reportFile fact.reading (check.titleOf fact) c).map (Output.stamp strict) = .ok o) ↔
    check.ReportsOn store fact file strict node o := by
  simp only [EvidenceStore.collectedFrom_eq_ok, ReportsOn]
  constructor
  · rintro ⟨_, ⟨content, hget, rfl⟩, hreport⟩
    exact ⟨content, hget, reportFile_ofNode fact strict node content ▸ hreport⟩
  · rintro ⟨content, hget, hreport⟩
    exact ⟨_, ⟨content, hget, rfl⟩, (reportFile_ofNode fact strict node content).trans hreport⟩

section Analyze

variable (hfile : fact.file? = some file) (hstrict : check.shared.isStrict = .ok strict)

include hfile hstrict

theorem analyze_eq (store : EvidenceStore) : check.analyze store fact =
    store.collect (.standard file) >>= fun files =>
      (files.mapM fun c => (check.reportFile fact.reading (check.titleOf fact) c).map
        (Output.stamp strict)).map Output.concat := by
  rw [analyze, files, hfile]
  simp only [report_eq hstrict]
  rfl

theorem analyze_of_own (hown : store.get (Layout.hostFactPath file) = .ok content) :
    check.analyze store fact = check.outputOf fact strict (check.titleOf fact) content := by
  rw [analyze_eq hfile hstrict, EvidenceStore.collect_of_own hown, outputOf]
  show Except.map Output.concat (([⟨none, content⟩] : List Collected).mapM _) = _
  rw [mapM_cons_eq]
  cases check.reportFile fact.reading (check.titleOf fact) ⟨none, content⟩ with
  | error e => rfl
  | ok o => exact congrArg Except.ok (Output.concat_singleton _)

section Nodes

variable (hnodes : store.ListsNodes file nodes)

include hnodes

theorem analyze_of_nodes : check.analyze store fact =
    (nodes.mapM (store.collectedFrom (.standard file)) >>= fun files => files.mapM fun c =>
      (check.reportFile fact.reading (check.titleOf fact) c).map (Output.stamp strict)).map
        Output.concat := by
  obtain ⟨hown, manifest, hlist, hdecode⟩ := hnodes
  rw [analyze_eq hfile hstrict, EvidenceStore.collect_of_list hown hlist, hdecode]
  show (nodes.mapM (store.collectedFrom (.standard file)) >>= fun files => _) = _
  cases nodes.mapM (store.collectedFrom (.standard file)) <;> rfl

theorem analyze_eq_ok_iff {o : Output} : check.analyze store fact = .ok o ↔
    ∃ outputs, List.Forall₂ (check.ReportsOn store fact file strict) nodes outputs
      ∧ o = .concat outputs := by
  rw [analyze_of_nodes hfile hstrict hnodes, map_eq_ok]
  simp only [bind_eq_ok, mapM_eq_ok, forall₂_comp, collectedFrom_bind_eq_ok]
  constructor
  · rintro ⟨outputs, houtputs, rfl⟩
    exact ⟨outputs, houtputs, rfl⟩
  · rintro ⟨outputs, houtputs, rfl⟩
    exact ⟨outputs, houtputs, rfl⟩

theorem analyze_of_unreadable {e : StoreError} (hnode : node ∈ nodes)
    (hget : store.getFrom file node = .error e) :
    ∃ before first after e', nodes = before ++ first :: after
      ∧ (∀ n ∈ before, ∃ content, store.getFrom file n = .ok content)
      ∧ store.getFrom file first = .error e'
      ∧ check.analyze store fact = .error (.fanout first e') := by
  cases hfetch : nodes.mapM (store.collectedFrom (.standard file)) with
  | ok files =>
    obtain ⟨c, hc⟩ := exists_of_mapM_eq_ok hfetch node hnode
    obtain ⟨content, hcontent, -⟩ := EvidenceStore.collectedFrom_eq_ok.1 hc
    rw [hget] at hcontent
    simp at hcontent
  | error e =>
    obtain ⟨before, first, after, heq, hbefore, hfirst⟩ := mapM_eq_error.1 hfetch
    obtain ⟨e', he', rfl⟩ := EvidenceStore.collectedFrom_eq_error.1 hfirst
    refine ⟨before, first, after, e', heq, fun n hn => ?_, he', ?_⟩
    · obtain ⟨c, hc⟩ := hbefore n hn
      obtain ⟨content, hcontent, -⟩ := EvidenceStore.collectedFrom_eq_ok.1 hc
      exact ⟨content, hcontent⟩
    · rw [analyze_of_nodes hfile hstrict hnodes, hfetch]
      rfl

theorem analyze_of_readable (hread : ∀ n ∈ nodes, ∃ content, store.getFrom file n = .ok content)
    {before after : List String} {e : AnalysisError} (heq : nodes = before ++ node :: after)
    (hbefore : ∀ n ∈ before, ∃ o, check.ReportsOn store fact file strict n o)
    (hget : store.getFrom file node = .ok content)
    (hfails : check.outputOf fact strict (nodeTitle (check.titleOf fact) node) content = .error e) :
    check.analyze store fact = .error e := by
  -- no file is missing, so fetching and looking at them may go on in one round
  have hfetch : ∀ n ∈ nodes, ∃ c, store.collectedFrom (.standard file) n = .ok c := by
    intro n hn
    obtain ⟨content, hcontent⟩ := hread n hn
    exact ⟨_, EvidenceStore.collectedFrom_eq_ok.2 ⟨content, hcontent, rfl⟩⟩
  rw [analyze_of_nodes hfile hstrict hnodes, mapM_bind_mapM _ hfetch]
  have hfirst : (nodes.mapM fun n => store.collectedFrom (.standard file) n >>= fun c =>
      (check.reportFile fact.reading (check.titleOf fact) c).map (Output.stamp strict)) =
        .error e := by
    refine mapM_eq_error.2 ⟨before, node, after, heq, fun n hn => ?_, ?_⟩
    · obtain ⟨o, ho⟩ := hbefore n hn
      exact ⟨o, bind_eq_ok.2 (collectedFrom_bind_eq_ok.2 ho)⟩
    · rw [EvidenceStore.collectedFrom_eq_ok.2 ⟨content, hget, rfl⟩]
      exact (reportFile_ofNode fact strict node content).trans hfails
  rw [hfirst]
  rfl

end Nodes

end Analyze

/-- How a check of a fact that may come from many nodes goes. -/
structure FansOut (check : HostCheck) (fact : HostFact) (file : String) (strict : Bool)
    (store : EvidenceStore) : Prop where
  /-- The host's own file is all that counts when it is there. -/
  own_file : ∀ content, store.get (Layout.hostFactPath file) = .ok content →
    check.analyze store fact = check.outputOf fact strict (check.titleOf fact) content
    ∧ ∀ other : EvidenceStore, other.get (Layout.hostFactPath file) = .ok content →
      check.analyze other fact = check.analyze store fact
  own_failure : ∀ e, store.get (Layout.hostFactPath file) = .error e → (∀ p, e ≠ .notFound p) →
    check.analyze store fact = .error (.store e)
  /-- Without a list of nodes there is nothing to say. -/
  no_list : store.Lacks (Layout.hostFactPath file) → store.Lacks Layout.nodeListPath →
    check.analyze store fact = .ok {}
  list_failure : ∀ e, store.Lacks (Layout.hostFactPath file) →
    store.get Layout.nodeListPath = .error e → (∀ p, e ≠ .notFound p) →
    check.analyze store fact = .error (.store e)
  list_malformed : ∀ manifest e, store.Lacks (Layout.hostFactPath file) →
    store.get Layout.nodeListPath = .ok manifest →
    Cluster.decodeRecord Host.NodeList.decode "node names manifest" manifest = .error e →
    check.analyze store fact = .error (.decode e)
  /-- The check succeeds just when it does on every file alone, and says all that one by one. -/
  all_nodes : ∀ nodes, store.ListsNodes file nodes → ∀ o, check.analyze store fact = .ok o ↔
    ∃ outputs, List.Forall₂ (check.ReportsOn store fact file strict) nodes outputs
      ∧ o = .concat outputs
  /-- A node whose file cannot be read fails the check, whatever the other files hold. -/
  unreadable_node : ∀ nodes, store.ListsNodes file nodes → ∀ node ∈ nodes, ∀ e,
    store.getFrom file node = .error e →
    ∃ before first after e', nodes = before ++ first :: after
      ∧ (∀ n ∈ before, ∃ content, store.getFrom file n = .ok content)
      ∧ store.getFrom file first = .error e'
      ∧ check.analyze store fact = .error (.fanout first e')
  /-- When all files can be read, the first one about which nothing can be said fails the check. -/
  failing_node : ∀ before node after content e, store.ListsNodes file (before ++ node :: after) →
    (∀ n ∈ before ++ node :: after, ∃ content, store.getFrom file n = .ok content) →
    (∀ n ∈ before, ∃ o, check.ReportsOn store fact file strict n o) →
    store.getFrom file node = .ok content →
    check.outputOf fact strict (nodeTitle (check.titleOf fact) node) content = .error e →
    check.analyze store fact = .error e

/-- Every check of a fact that has one file name on all hosts, with a flag for strictness that can
be read, fans out over the nodes. -/
theorem analyze_fansOut (hfile : fact.file? = some file)
    (hstrict : check.shared.isStrict = .ok strict) (store : EvidenceStore) :
    check.FansOut fact file strict store where
  own_file content hown := by
    refine ⟨analyze_of_own hfile hstrict hown, fun other hother => ?_⟩
    rw [analyze_of_own hfile hstrict hother, analyze_of_own hfile hstrict hown]
  own_failure e hown he := by
    rw [analyze_eq hfile hstrict, EvidenceStore.collect_of_own_error hown he]
    rfl
  no_list hown hlist := by
    rw [analyze_eq hfile hstrict, EvidenceStore.collect_of_lacks hown hlist]
    rfl
  list_failure e hown hlist he := by
    rw [analyze_eq hfile hstrict, EvidenceStore.collect_of_list_error hown hlist he]
    rfl
  list_malformed manifest e hown hlist hdecode := by
    rw [analyze_eq hfile hstrict, EvidenceStore.collect_of_list hown hlist, hdecode]
    rfl
  all_nodes nodes hnodes o := analyze_eq_ok_iff hfile hstrict hnodes
  unreadable_node nodes hnodes node hnode e hget :=
    analyze_of_unreadable hfile hstrict hnodes hnode hget
  failing_node before node after content e hnodes hread hbefore hget hfails :=
    analyze_of_readable hfile hstrict hnodes hread rfl hbefore hget hfails

/-- A check that 8 GiB of memory are there. -/
def memoryCheck : HostCheck where
  shared := { strict := some (.text "true") }
  outcomes := [{ fail := some { when := "< 8Gi", message := "low" } },
    { pass := some { message := "enough" } }]

def memoryFile (total : Nat) : Bytes := Utf8.encode (Host.Memory.toJson ⟨total⟩).text

/-- These files, and a list that names one of two nodes twice. -/
def listedStore (files : List FoundFile) : EvidenceStore :=
  (MemoryStore.ofList
    ((Layout.nodeListPath, Utf8.encode (Host.NodeList.toJson ⟨["b", "a", "b"]⟩).text) ::
      files)).toStore

/-- A store that cannot read some file. -/
def closedStore (closed : String → Bool) : EvidenceStore where
  get path := .error (if closed path then .io "closed" else .notFound path)
  find _ _ := .ok []

def memoryResult (title : String) (verdict : Verdict) (message : String) : Result :=
  { Result.ofMessage title verdict message with strict := true }

/-- Every way in which the check can go, on one store each. -/
theorem analyze_fansOut_on_stores :
    let a := "host-collectors/system/a/memory.json"
    let b := "host-collectors/system/b/memory.json"
    let own := "host-collectors/system/memory.json"
    memoryCheck.analyze (listedStore [(own, memoryFile 1024)]) .memory =
      .ok { results := [memoryResult "Amount of Memory" .fail "low"] }
    ∧ memoryCheck.analyze (closedStore fun _ => true) .memory = .error (.store (.io "closed"))
    ∧ memoryCheck.analyze (closedStore fun _ => false) .memory = .ok {}
    ∧ memoryCheck.analyze (closedStore (· == Layout.nodeListPath)) .memory =
      .error (.store (.io "closed"))
    ∧ memoryCheck.analyze (MemoryStore.ofList [(Layout.nodeListPath, [])]).toStore .memory =
      .error (.decode (.malformed "node names manifest"))
    ∧ memoryCheck.analyze
        (listedStore [(a, memoryFile 1024), (b, memoryFile 17179869184)]) .memory =
      .ok { results := [memoryResult "Amount of Memory - Node b" .pass "enough",
        memoryResult "Amount of Memory - Node a" .fail "low",
        memoryResult "Amount of Memory - Node b" .pass "enough"] }
    ∧ memoryCheck.analyze (listedStore [(b, [])]) .memory = .error (.fanout "a" (.notFound a))
    ∧ memoryCheck.analyze (listedStore [(a, []), (b, memoryFile 1024)]) .memory =
      .error (.decode (.malformed "memory info")) := by
  intro a b own
  have hfile : HostFact.memory.file? = some "memory.json" := rfl
  have hstrict : memoryCheck.shared.isStrict = .ok true := by decide +kernel
  have hfans : ∀ store, memoryCheck.FansOut .memory "memory.json" true store :=
    analyze_fansOut hfile hstrict
  have hlists (files : List FoundFile)
      (hown : (listedStore files).get own = .error (.notFound own))
      (hlist : (listedStore files).get Layout.nodeListPath =
        .ok (Utf8.encode (Host.NodeList.toJson ⟨["b", "a", "b"]⟩).text)) :
      (listedStore files).ListsNodes "memory.json" ["b", "a", "b"] :=
    ⟨⟨own, hown⟩, _, hlist, by decide +kernel⟩
  refine ⟨?_, ?_, ?_, ?_, ?_, ?_, ?_, ?_⟩
  · rw [((hfans _).own_file (memoryFile 1024) (by decide +kernel)).1]
    decide +kernel
  · exact (hfans _).own_failure (.io "closed") rfl nofun
  · exact (hfans _).no_list ⟨own, rfl⟩ ⟨Layout.nodeListPath, rfl⟩
  · exact (hfans _).list_failure (.io "closed") ⟨own, by decide +kernel⟩ (by decide +kernel) nofun
  · exact (hfans _).list_malformed [] (.malformed "node names manifest") ⟨own, by decide +kernel⟩
      (by decide +kernel) (by decide +kernel)
  · refine ((hfans _).all_nodes _ (hlists _ (by decide +kernel) (by decide +kernel)) _).2
      ⟨[{ results := [memoryResult "Amount of Memory - Node b" .pass "enough"] },
        { results := [memoryResult "Amount of Memory - Node a" .fail "low"] },
        { results := [memoryResult "Amount of Memory - Node b" .pass "enough"] }], ?_, rfl⟩
    have hb : memoryCheck.ReportsOn
        (listedStore [(a, memoryFile 1024), (b, memoryFile 17179869184)]) .memory
        "memory.json" true "b"
        { results := [memoryResult "Amount of Memory - Node b" .pass "enough"] } :=
      ⟨memoryFile 17179869184, by decide +kernel, by decide +kernel⟩
    have ha : memoryCheck.ReportsOn
        (listedStore [(a, memoryFile 1024), (b, memoryFile 17179869184)]) .memory
        "memory.json" true "a"
        { results := [memoryResult "Amount of Memory - Node a" .fail "low"] } :=
      ⟨memoryFile 1024, by decide +kernel, by decide +kernel⟩
    exact .cons hb (.cons ha (.cons hb .nil))
  · obtain ⟨before, first, after, e, heq, hbefore, hfirst, hanalyze⟩ :=
      (hfans (listedStore [(b, [])])).unreadable_node _
        (hlists _ (by decide +kernel) (by decide +kernel)) "a" (by simp) (.notFound a)
        (by decide +kernel)
    have hb : (listedStore [(b, [])]).getFrom "memory.json" "b" = .ok [] := by decide +kernel
    have ha : (listedStore [(b, [])]).getFrom "memory.json" "a" = .error (.notFound a) := by
      decide +kernel
    rcases before with _ | ⟨x, _ | ⟨y, before⟩⟩
    · obtain ⟨rfl, -⟩ := List.cons.inj heq
      simp [hb] at hfirst
    · obtain ⟨-, rfl, -⟩ : x = "b" ∧ first = "a" ∧ after = ["b"] := by simpa [eq_comm] using heq
      rw [ha] at hfirst
      rw [hanalyze, Except.error.inj hfirst]
    · obtain ⟨-, rfl, -⟩ : x = "b" ∧ y = "a" ∧ _ := by simpa [eq_comm] using heq
      obtain ⟨content, hcontent⟩ := hbefore "a" (by simp)
      simp [ha] at hcontent
  · have hb : memoryCheck.ReportsOn (listedStore [(a, []), (b, memoryFile 1024)]) .memory
        "memory.json" true "b"
        { results := [memoryResult "Amount of Memory - Node b" .fail "low"] } :=
      ⟨memoryFile 1024, by decide +kernel, by decide +kernel⟩
    refine (hfans (listedStore [(a, []), (b, memoryFile 1024)])).failing_node ["b"] "a" ["b"] [] _
      (hlists _ (by decide +kernel) (by decide +kernel)) (fun n hn => ?_) (fun n hn => ?_)
      (by decide +kernel) (by decide +kernel)
    · simp only [List.singleton_append, List.mem_cons, List.not_mem_nil, or_false] at hn
      rcases hn with rfl | rfl | rfl
      · exact ⟨memoryFile 1024, by decide +kernel⟩
      · exact ⟨[], by decide +kernel⟩
      · exact ⟨memoryFile 1024, by decide +kernel⟩
    · obtain rfl := List.mem_singleton.1 hn
      exact ⟨_, hb⟩

end HostCheck

end Triage
