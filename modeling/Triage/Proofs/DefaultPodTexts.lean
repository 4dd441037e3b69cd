import Triage.Proofs.PodReports

/-!
# The texts that pods have by default

The texts that a check of pods has by default mention nothing that a pod lacks, so they can be filled
in whatever is known of a pod (`render_defaultTitle`, `render_defaultMessage`). A check that words
nothing itself therefore fails only for its evidence, and tells of each pod in these sentences
(`analyze_tells_default_texts`).
-/

namespace Triage

open Cluster

/-- The error is no matter of templates. -/
def AnalysisError.NoTemplate (e : AnalysisError) : Prop := ∀ fault, e ≠ .template fault

theorem AnalysisError.noTemplate_ofStore (e : StoreError) : (ofStore e).NoTemplate := by
  cases e <;> exact nofun

namespace Template

variable {context value : Json} {c : Char} {rest : List Char}

/-- A name that no member has stands for the member with a small first letter. -/
theorem field?_of_lowered (name lowered : String) (hname : .ofList (c :: rest) = name)
    (hlowered : .ofList (Unicode.lowerCase c ++ rest) = lowered)
    (hnone : context.member? name = none) (hvalue : context.member? lowered = some value) :
    field? context (c :: rest) = some value := by
  unfold field?
  rw [hname, hnone]
  dsimp only
  rw [hlowered, hvalue]

theorem follow_of_field {name : List Char} {names : List (List Char)} {last : Json}
    (hvalue : field? context name = some value) (hlast : follow names value = .ok last) :
    follow (name :: names) context = .ok last := by
  rw [follow, hvalue]
  exact hlast

/-- An action inserts the text that its names lead to. -/
theorem insert_of_path {missing : Missing} {action : List Char} {names : List (List Char)}
    {text : String} (hpath : path? action = some names)
    (htext : follow names context = .ok (.string text)) :
    insert missing context action = .ok text.toList := by
  rw [insert, hpath]
  simp only [htext, display]

end Template

namespace Cluster.Pod

open Template

variable (pod : Pod)

theorem insert_namespace :
    insert .error pod.context ".Namespace".toList = .ok pod.metadata.nspace.toList := by
  have hpath : path? ".Namespace".toList = some ['N' :: "amespace".toList] := by decide +kernel
  refine insert_of_path hpath (follow_of_field ?_ rfl)
  exact field?_of_lowered "Namespace" "namespace" (by decide +kernel) (by decide +kernel) rfl rfl

theorem insert_name : insert .error pod.context ".Name".toList = .ok pod.metadata.name.toList := by
  have hpath : path? ".Name".toList = some ['N' :: "ame".toList] := by decide +kernel
  refine insert_of_path hpath (follow_of_field ?_ rfl)
  exact field?_of_lowered "Name" "name" (by decide +kernel) (by decide +kernel) rfl rfl

theorem field?_status : field? pod.context ('S' :: "tatus".toList) = some pod.status.toJson :=
  field?_of_lowered "Status" "status" (by decide +kernel) (by decide +kernel) rfl rfl

theorem insert_reason :
    insert .error pod.context ".Status.Reason".toList = .ok pod.status.reason.toList := by
  have hpath : path? ".Status.Reason".toList =
      some ['S' :: "tatus".toList, 'R' :: "eason".toList] := by decide +kernel
  refine insert_of_path hpath (follow_of_field pod.field?_status (follow_of_field ?_ rfl))
  exact field?_of_lowered "Reason" "reason" (by decide +kernel) (by decide +kernel) rfl rfl

theorem insert_message :
    insert .error pod.context ".Status.Message".toList = .ok pod.status.message.toList := by
  have hpath : path? ".Status.Message".toList =
      some ['S' :: "tatus".toList, 'M' :: "essage".toList] := by decide +kernel
  refine insert_of_path hpath (follow_of_field pod.field?_status (follow_of_field ?_ rfl))
  exact field?_of_lowered "Message" "message" (by decide +kernel) (by decide +kernel) rfl rfl

end Cluster.Pod

namespace PodCheck

open Template

variable (pod : Pod)

theorem parts_defaultTitle : parts defaultTitle.toList =
    [.text "Pod ".toList, .action ".Namespace".toList, .text "/".toList, .action ".Name".toList,
      .text " status".toList] := by
  decide +kernel

theorem parts_defaultMessage : parts defaultMessage.toList =
    [.text "Pod ".toList, .action ".Namespace".toList, .text "/".toList, .action ".Name".toList,
      .text " status is ".toList, .action ".Status.Reason".toList, .text ". ".toList,
      .action ".Status.Message".toList, .text []] := by
  decide +kernel

/-- What is said about a pod by default. -/
def sentence (nspace name reason message : String) : String :=
  s!"Pod {nspace}/{name} status is {reason}. {message}"

theorem render_defaultTitle : render defaultTitle pod.context =
    .ok s!"Pod {pod.metadata.nspace}/{pod.metadata.name} status" := by
  rw [render, renderWith, parts_defaultTitle]
  simp only [renderParts, pod.insert_namespace, pod.insert_name, ok_bind, pure_eq_ok,
    List.append_nil, String.ofList_append, String.ofList_toList, toString, String.append_assoc]

theorem render_defaultMessage : render defaultMessage pod.context =
    .ok (sentence pod.metadata.nspace pod.metadata.name pod.status.reason pod.status.message) := by
  rw [render, renderWith, parts_defaultMessage, sentence]
  simp only [renderParts, pod.insert_namespace, pod.insert_name, pod.insert_reason,
    pod.insert_message, ok_bind, pure_eq_ok, List.append_nil, String.ofList_append,
    String.ofList_toList, toString, String.append_assoc]

/-- A file of pods that the check reads. -/
structure Covers (check : PodCheck) (store : EvidenceStore) (file : FoundFile) : Prop where
  found : ∃ files, store.find (Layout.clusterResourceGlob "pods") [] = .ok files ∧ file ∈ files
  covered : check.namespaces = [] ∨ Layout.namespaceOf file.1 ∈ check.namespaces

/-- A pod that the check looks at, with its reason and its message. -/
def Inspects (check : PodCheck) (store : EvidenceStore) (full : Pod) : Prop :=
  ∃ file pods pod, check.Covers store file ∧ podsIn file = .ok pods ∧ pod ∈ pods
    ∧ pod.completed (store.eventFiles pod.metadata.nspace) = .ok full

/-- A check that words nothing itself: it has no name, and no candidate that it takes for a pod has a
message. -/
structure Wordless (check : PodCheck) (store : EvidenceStore) : Prop where
  unnamed : check.shared.checkName = ""
  unworded : ∀ full, check.Inspects store full → ∀ rule, PodRule.IsFirst check.outcomes full rule →
    rule.candidate.message = ""

theorem Wordless.of_outcomes {check : PodCheck} {store : EvidenceStore}
    (hname : check.shared.checkName = "")
    (houtcomes : ∀ o ∈ check.outcomes, ∀ v c, o.Takes v c → c.message = "") :
    check.Wordless store := by
  refine ⟨hname, fun full _ rule hfirst => ?_⟩
  obtain ⟨before, outcome, after, hmem, hstates, -⟩ := hfirst
  exact houtcomes outcome (hmem ▸ List.mem_append_cons_self) _ _ hstates.taken

/-- The result about a pod in the default texts. -/
def told (rule : PodRule) (pod : Pod) : Result where
  title := s!"Pod {pod.metadata.nspace}/{pod.metadata.name} status"
  message := trimmed
    (sentence pod.metadata.nspace pod.metadata.name pod.status.reason pod.status.message)
  uri := rule.candidate.uri
  verdict := some rule.verdict
  involvedObject := some ⟨"v1", "Pod", pod.metadata.nspace, pod.metadata.name⟩

/-- What is said about a pod in the default texts, or nothing. -/
inductive Tells (check : PodCheck) (found : Except StoreError (List FoundFile)) (strict : Bool)
    (pod : Pod) : Option Result → Prop
  | silent {full : Pod} (hfull : pod.completed found = .ok full)
    (hnone : PodRule.NoneHolds check.outcomes full) : Tells check found strict pod none
  | told {full : Pod} {rule : PodRule} (hfull : pod.completed found = .ok full)
    (hfirst : PodRule.IsFirst check.outcomes full rule) :
    Tells check found strict pod (some { told rule full with strict })

variable {check : PodCheck} {store : EvidenceStore} {found : Except StoreError (List FoundFile)}
  {strict : Bool} {full : Pod} {rule : PodRule} {report : Option Result}

theorem result_eq_told (hname : check.shared.checkName = "") (hmessage : rule.candidate.message = "")
    (pod : Pod) : check.result rule pod = .ok (told rule pod) := by
  have htitle : check.shared.title defaultTitle = defaultTitle := by
    rw [Meta.title, hname]
    rfl
  have htemplate : (if rule.candidate.message.isEmpty then defaultMessage
      else rule.candidate.message) = defaultMessage := by
    rw [hmessage]
    rfl
  rw [result, htitle, render_defaultTitle]
  dsimp only
  rw [htemplate, render_defaultMessage]
  rfl

section Alone

variable {pod : Pod}

theorem completed_noTemplate : Fails (pod.completed found) AnalysisError.NoTemplate := by
  unfold Pod.completed
  split
  · exact .pure
  · refine .bind (.mapError AnalysisError.noTemplate_ofStore) fun files _ => .bind ?_ fun _ _ => .pure
    exact .bind (.mapM fun file _ => .mapError fun _ => nofun) fun _ _ => .pure

variable (h : check.Wordless store)
  (hinspects : ∀ full, pod.completed found = .ok full → check.Inspects store full)
include h hinspects

/-- A pod is told of, whatever it is. -/
theorem Wordless.exists_resolve (hfull : pod.completed found = .ok full) :
    ∃ report, check.resolve (PodRule.ofOutcomes check.outcomes).1 full = .ok report := by
  unfold resolve
  split
  · exact ⟨_, rfl⟩
  · rename_i rule hfirst
    have hmessage := h.unworded full (hinspects full hfull) rule (PodRule.find?_eq_some_iff.1 hfirst)
    rw [result_eq_told h.unnamed hmessage]
    exact ⟨_, rfl⟩

theorem Wordless.reportAlone_noTemplate :
    Fails (check.reportAlone found pod) AnalysisError.NoTemplate := by
  refine .bind completed_noTemplate fun full hfull => ?_
  obtain ⟨report, hreport⟩ := h.exists_resolve hinspects hfull
  rw [hreport]
  exact .pure

theorem Wordless.exists_reportAlone_iff : (∃ report, check.reportAlone found pod = .ok report) ↔
    ∃ full, pod.completed found = .ok full := by
  simp only [reportAlone_eq_ok]
  constructor
  · rintro ⟨report, full, hfull, -⟩
    exact ⟨full, hfull⟩
  · rintro ⟨full, hfull⟩
    obtain ⟨report, hreport⟩ := h.exists_resolve hinspects hfull
    exact ⟨report, full, hfull, hreport⟩

theorem Wordless.ownReport_iff_tells (hstrict : check.shared.isStrict = .ok strict) :
    check.OwnReport found pod report ↔ check.Tells found strict pod report := by
  constructor
  · rintro (⟨hfull, hnone⟩ | ⟨hfull, hfirst, hresult, hstrict'⟩)
    · exact .silent hfull hnone
    · obtain rfl := Except.ok.inj (hstrict.symm.trans hstrict')
      rw [result_eq_told h.unnamed (h.unworded _ (hinspects _ hfull) _ hfirst)] at hresult
      cases hresult
      exact .told hfull hfirst
  · rintro (⟨hfull, hnone⟩ | ⟨hfull, hfirst⟩)
    · exact .silent hfull hnone
    · have hmessage := h.unworded _ (hinspects _ hfull) _ hfirst
      exact .reported hfull hfirst (result_eq_told h.unnamed hmessage _) hstrict

end Alone

section Files

variable {files : List FoundFile} {file : FoundFile} {pods : List Pod} {pod : Pod}

theorem Covers.of_mem (hfiles : store.find (Layout.clusterResourceGlob "pods") [] = .ok files)
    (hfile : file ∈ files.filter fun file => check.covers file.1) : check.Covers store file := by
  rw [covers_eq, List.mem_filter, decide_eq_true_iff] at hfile
  exact ⟨⟨files, hfiles, hfile.1⟩, hfile.2⟩

theorem Covers.inspects (hcovers : check.Covers store file) (hpods : podsIn file = .ok pods)
    (hpod : pod ∈ pods) (full : Pod)
    (hfull : pod.completed (store.eventFiles pod.metadata.nspace) = .ok full) :
    check.Inspects store full :=
  ⟨file, pods, pod, hcovers, hpods, hpod, hfull⟩

variable (h : check.Wordless store) (hcovers : check.Covers store file)
include h hcovers

theorem Wordless.reportFileAlone_noTemplate :
    Fails (check.reportFileAlone store file) AnalysisError.NoTemplate := by
  refine .bind (.mapError fun _ => nofun) fun pods hpods => .bind ?_ fun _ _ => .pure
  replace hpods := mapError_eq_ok.1 hpods
  exact .mapM fun pod hpod => h.reportAlone_noTemplate (hcovers.inspects hpods hpod)

theorem Wordless.exists_reportFileAlone_iff :
    (∃ results, check.reportFileAlone store file = .ok results) ↔
      ∃ pods, podsIn file = .ok pods ∧ ∀ pod ∈ pods, ∃ full,
        pod.completed (store.eventFiles pod.metadata.nspace) = .ok full := by
  have hreported {pods : List Pod} (hpods : podsIn file = .ok pods) :
      (∃ reports, (pods.mapM fun pod => check.reportAlone (store.eventFiles pod.metadata.nspace) pod)
        = .ok reports) ↔ ∀ pod ∈ pods, ∃ full,
          pod.completed (store.eventFiles pod.metadata.nspace) = .ok full :=
    exists_mapM_eq_ok_iff.trans
      (forall₂_congr fun pod hpod => h.exists_reportAlone_iff (hcovers.inspects hpods hpod))
  constructor
  · rintro ⟨results, hresults⟩
    obtain ⟨pods, hpods, hresults⟩ := bind_eq_ok.1 hresults
    obtain ⟨reports, hreports, -⟩ := bind_eq_ok.1 hresults
    exact ⟨pods, mapError_eq_ok.1 hpods, (hreported (mapError_eq_ok.1 hpods)).1 ⟨reports, hreports⟩⟩
  · rintro ⟨pods, hpods, hfull⟩
    obtain ⟨reports, hreports⟩ := (hreported hpods).2 hfull
    exact ⟨reports.filterMap id,
      bind_eq_ok.2 ⟨pods, mapError_eq_ok.2 hpods, bind_eq_ok.2 ⟨reports, hreports, rfl⟩⟩⟩

end Files

section Run

variable {files : List FoundFile} (h : check.Wordless store)
include h

theorem Wordless.forall₂_ownReport_iff (hstrict : check.shared.isStrict = .ok strict)
    {reports : List (List (Option Result))} (hcovers : ∀ file ∈ files, check.Covers store file) :
    (∃ pods, List.Forall₂ (fun file listed => podsIn file = .ok listed) files pods
      ∧ List.Forall₂ (List.Forall₂ fun pod report =>
        check.OwnReport (store.eventFiles pod.metadata.nspace) pod report) pods reports) ↔
    ∃ pods, List.Forall₂ (fun file listed => podsIn file = .ok listed) files pods
      ∧ List.Forall₂ (List.Forall₂ fun pod report =>
        check.Tells (store.eventFiles pod.metadata.nspace) strict pod report) pods reports := by
  rw [forall₂_comp, forall₂_comp]
  refine forall₂_congr_of_mem fun file hfile reports => exists_congr fun pods =>
    and_congr_right fun hpods => forall₂_congr_of_mem fun pod hpod report => ?_
  exact h.ownReport_iff_tells ((hcovers file hfile).inspects hpods hpod) hstrict

theorem Wordless.analyze_noTemplate :
    Fails (check.analyze store) AnalysisError.NoTemplate := by
  rw [analyze_eq]
  refine .bind (.mapError fun _ => nofun) fun strict _ =>
    .bind (.mapError AnalysisError.noTemplate_ofStore) fun files hfiles =>
      .bind (.mapM fun file hfile => ?_) fun _ _ => .pure
  exact h.reportFileAlone_noTemplate (.of_mem (mapError_eq_ok.1 hfiles) hfile)

theorem Wordless.exists_analyze_iff : (∃ output, check.analyze store = .ok output) ↔
    (∃ strict, check.shared.isStrict = .ok strict)
    ∧ (∃ files, store.find (Layout.clusterResourceGlob "pods") [] = .ok files)
    ∧ ∀ file, check.Covers store file → ∃ pods, podsIn file = .ok pods ∧ ∀ pod ∈ pods,
      ∃ full, pod.completed (store.eventFiles pod.metadata.nspace) = .ok full := by
  constructor
  · rintro ⟨output, houtput⟩
    obtain ⟨strict, files, results, hstrict, hfiles, hresults, -⟩ := analyze_eq_ok.1 houtput
    refine ⟨⟨strict, hstrict⟩, ⟨files, hfiles⟩, fun file hcovers => ?_⟩
    obtain ⟨⟨files', hfiles', hfile⟩, hcovered⟩ := id hcovers
    obtain rfl := Except.ok.inj (hfiles.symm.trans hfiles')
    refine (h.exists_reportFileAlone_iff hcovers).1 (exists_of_mapM_eq_ok hresults file ?_)
    rw [covers_eq, List.mem_filter, decide_eq_true_iff]
    exact ⟨hfile, hcovered⟩
  · rintro ⟨⟨strict, hstrict⟩, ⟨files, hfiles⟩, hread⟩
    have hreported : ∃ results, (files.filter fun file => check.covers file.1).mapM
        (check.reportFileAlone store) = .ok results := by
      refine exists_mapM_eq_ok_iff.2 fun file hfile => ?_
      have hcovers := Covers.of_mem hfiles hfile
      exact (h.exists_reportFileAlone_iff hcovers).2 (hread file hcovers)
    obtain ⟨results, hresults⟩ := hreported
    exact ⟨_, analyze_eq_ok.2 ⟨strict, files, results, hstrict, hfiles, hresults, rfl⟩⟩

theorem Wordless.analyze_eq_ok_iff {output : Output} : check.analyze store = .ok output ↔
    ∃ strict files pods reports, check.shared.isStrict = .ok strict
      ∧ store.find (Layout.clusterResourceGlob "pods") [] = .ok files
      ∧ List.Forall₂ (fun file listed => podsIn file = .ok listed)
        (files.filter fun file => check.namespaces = [] ∨
          Layout.namespaceOf file.1 ∈ check.namespaces) pods
      ∧ List.Forall₂ (List.Forall₂ fun pod report =>
        check.Tells (store.eventFiles pod.metadata.nspace) strict pod report) pods reports
      ∧ output = ⟨reports.flatten.filterMap id, check.complaints⟩ := by
  rw [analyze_eq_ok, ← covers_eq]
  constructor
  · rintro ⟨strict, files, results, hstrict, hfiles, hresults, rfl⟩
    obtain ⟨pods, hlisted, reports, hown, hmarked⟩ :=
      (reportFiles_eq_ok hstrict).1 ⟨results, hresults, rfl⟩
    obtain ⟨pods, hlisted, htells⟩ := (h.forall₂_ownReport_iff hstrict fun file =>
      Covers.of_mem hfiles).1 ⟨pods, hlisted, hown⟩
    refine ⟨strict, files, pods, reports, hstrict, hfiles, hlisted, htells, ?_⟩
    rw [stamp_flatten, ← hmarked, List.filterMap_flatten]
  · rintro ⟨strict, files, pods, reports, hstrict, hfiles, hlisted, htells, rfl⟩
    obtain ⟨pods, hlisted, hown⟩ := (h.forall₂_ownReport_iff hstrict fun file =>
      Covers.of_mem hfiles).2 ⟨pods, hlisted, htells⟩
    obtain ⟨results, hresults, hmarked⟩ :=
      (reportFiles_eq_ok hstrict).2 ⟨pods, hlisted, reports, hown, rfl⟩
    refine ⟨strict, files, results, hstrict, hfiles, hresults, ?_⟩
    rw [stamp_flatten, hmarked, List.filterMap_flatten]

end Run

/-- A check that words nothing itself fails only for its flag or its evidence: for a file of pods that
is not found or does not list pods, or for events that cannot be read. Otherwise it tells of each pod
that some outcome applies to in the default texts, whatever they are filled in with. -/
theorem analyze_tells_default_texts {check : PodCheck} {store : EvidenceStore}
    (h : check.Wordless store) :
    (∀ e, check.analyze store ≠ .error (.template e))
    ∧ ((∃ output, check.analyze store = .ok output) ↔ (∃ strict, check.shared.isStrict = .ok strict)
      ∧ (∃ files, store.find (Layout.clusterResourceGlob "pods") [] = .ok files)
      ∧ ∀ file, check.Covers store file → ∃ pods, podsIn file = .ok pods ∧ ∀ pod ∈ pods,
        ∃ full, pod.completed (store.eventFiles pod.metadata.nspace) = .ok full)
    ∧ ∀ output, check.analyze store = .ok output ↔ ∃ strict files pods reports,
      check.shared.isStrict = .ok strict
      ∧ store.find (Layout.clusterResourceGlob "pods") [] = .ok files
      ∧ List.Forall₂ (fun file listed => podsIn file = .ok listed)
        (files.filter fun file => check.namespaces = [] ∨
          Layout.namespaceOf file.1 ∈ check.namespaces) pods
      ∧ List.Forall₂ (List.Forall₂ fun pod report =>
        check.Tells (store.eventFiles pod.metadata.nspace) strict pod report) pods reports
      ∧ output = ⟨reports.flatten.filterMap id, check.complaints⟩ := by
  refine ⟨fun e hfault => ?_, h.exists_analyze_iff, fun output => h.analyze_eq_ok_iff⟩
  exact h.analyze_noTemplate _ hfault e rfl

section Sample

/-- A pod without a name, with templates for a reason and a message. -/
def bracedPods : EvidenceStore :=
  (MemoryStore.ofList [("cluster-resources/pods/apps.json", listFile [.object
    [("metadata", .object [("namespace", .string "apps")]),
      ("status", .object [("phase", .string "Pending"), ("reason", .string "\x7b\x7b .Oops \x7d\x7d"),
        ("message", .string "\x7b\x7b end ")])]])]).toStore

def wordlessCheck : PodCheck where
  outcomes := [{ fail := some { when := "== Pending" } }]

def bracedResult : Result where
  title := "Pod apps/ status"
  message := "Pod apps/ status is \x7b\x7b .Oops \x7d\x7d. \x7b\x7b end"
  verdict := some .fail
  involvedObject := some ⟨"v1", "Pod", "apps", ""⟩

theorem analyze_tells_default_texts_of_bracedPods : wordlessCheck.Wordless bracedPods
    ∧ (∀ e, wordlessCheck.analyze bracedPods ≠ .error (.template e))
    ∧ ∃ strict pods reports, List.Forall₂ (List.Forall₂ fun pod report => wordlessCheck.Tells
        (bracedPods.eventFiles pod.metadata.nspace) strict pod report) pods reports
      ∧ reports.flatten.filterMap id = [bracedResult] := by
  have hwordless : wordlessCheck.Wordless bracedPods := by
    refine .of_outcomes rfl fun o ho v c htakes => ?_
    obtain rfl := List.mem_singleton.1 ho
    have hchosen := Outcome.chosen?_eq_some_iff.2 htakes
    cases hchosen
    rfl
  have hanalyze : wordlessCheck.analyze bracedPods = .ok ⟨[bracedResult], []⟩ := by
    decide +kernel
  obtain ⟨htemplate, -, hanswer⟩ := analyze_tells_default_texts hwordless
  obtain ⟨strict, files, pods, reports, -, -, -, htells, houtput⟩ := (hanswer _).1 hanalyze
  exact ⟨hwordless, htemplate, strict, pods, reports, htells,
    (congrArg Output.results houtput).symm⟩

end Sample

end PodCheck

end Triage
