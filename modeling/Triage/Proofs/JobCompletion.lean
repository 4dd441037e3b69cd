import Triage.Proofs.NamespaceScans

/-!
# When a job is reported

A check without outcomes says one thing about each job that it examines and finds at fault (`Tells`).
Those are the jobs that failed and lack successes, and the ones that failed and are miscounted
(`failure_eq`): one success does not complete a job that says nothing about completions, and a job
with more successes than it asks for is not complete any more (`isComplete_succeedAgain_iff`).
-/

namespace Triage

open Cluster

namespace Cluster.Job

/-- How many successes a job requires; one when nothing is said, as of the replicas of a
workload. -/
def required (job : Job) : Int := job.spec.completions.getD 1

/-- The job failed, and it lacks successes. -/
def Unfinished (job : Job) : Prop :=
  job.status.failed ≠ 0 ∧ job.status.succeeded < job.required

/-- The job has the successes that it requires, but is not taken to be complete. -/
inductive Miscounted (job : Job) : Prop
  | single (hnone : job.spec.completions = none) (hone : job.status.succeeded = 1)
  | surplus {n : Int} (hsome : job.spec.completions = some n) (hmore : n < job.status.succeeded)

/-- The job failed, and it lacks successes or is miscounted. -/
def Reported (job : Job) : Prop :=
  job.status.failed ≠ 0 ∧ (job.status.succeeded < job.required ∨ job.Miscounted)

/-- What is said about a job that is reported. -/
def complaint (job : Job) : Result :=
  let object := s!"{job.metadata.nspace}/{job.metadata.name}"
  .ofMessage s!"{object} Job Status" .fail s!"The job {object} is not complete"

/-- The job after a further success. -/
def succeedAgain (job : Job) : Job :=
  { job with status := { job.status with succeeded := job.status.succeeded + 1 } }

variable {job : Job}

section Counts

variable {n : Int}

theorem isComplete_of_none (h : job.spec.completions = none) :
    job.isComplete = true ↔ 1 < job.status.succeeded := by
  rw [isComplete, h]
  exact decide_eq_true_iff

theorem isComplete_of_some (h : job.spec.completions = some n) :
    job.isComplete = true ↔ n = job.status.succeeded := by
  rw [isComplete, h]
  exact beq_iff_eq

theorem miscounted_of_none (h : job.spec.completions = none) :
    job.Miscounted ↔ job.status.succeeded = 1 := by
  refine ⟨fun hcount => ?_, .single h⟩
  cases hcount with
  | single _ hone => exact hone
  | surplus hsome => rw [h] at hsome; cases hsome

theorem miscounted_of_some (h : job.spec.completions = some n) :
    job.Miscounted ↔ n < job.status.succeeded := by
  refine ⟨fun hcount => ?_, .surplus h⟩
  cases hcount with
  | single hnone => rw [h] at hnone; cases hnone
  | surplus hsome hmore =>
    rw [h] at hsome
    cases hsome
    exact hmore

end Counts

theorem isComplete_iff :
    job.isComplete = true ↔ job.required ≤ job.status.succeeded ∧ ¬ job.Miscounted := by
  cases h : job.spec.completions with
  | none =>
    rw [isComplete_of_none h, miscounted_of_none h, required, h, Option.getD_none]
    omega
  | some n =>
    rw [isComplete_of_some h, miscounted_of_some h, required, h, Option.getD_some]
    omega

theorem Miscounted.required_le (h : job.Miscounted) : job.required ≤ job.status.succeeded := by
  unfold required
  cases h with
  | single hnone hone => simp [hnone, hone]
  | surplus hsome hmore => simp [hsome, hmore.le]

/-- A job that has its number of completions does not bear a further success. -/
theorem isComplete_succeedAgain_iff (h : job.isComplete = true) :
    job.succeedAgain.isComplete = true ↔ job.spec.completions = none := by
  cases hspec : job.spec.completions with
  | none =>
    have hagain : job.succeedAgain.spec.completions = none := hspec
    rw [isComplete_of_none hspec] at h
    rw [isComplete_of_none hagain]
    exact iff_of_true (h.trans (Int.lt_add_one_iff.2 le_rfl)) rfl
  | some n =>
    have hagain : job.succeedAgain.spec.completions = some n := hspec
    rw [isComplete_of_some hspec] at h
    rw [isComplete_of_some hagain, h]
    exact iff_of_false (Int.lt_succ _).ne (by simp)

theorem reported_iff_fails :
    job.Reported ↔ job.isComplete = false ∧ job.status.failed ≠ 0 := by
  rw [Reported, ← Bool.not_eq_true, isComplete_iff, not_and_or, not_le, not_not, and_comm]

instance : DecidablePred Reported := fun job =>
  decidable_of_iff' (job.isComplete = false ∧ job.status.failed ≠ 0) reported_iff_fails

theorem failure_eq (job : Job) :
    job.failure = if job.Reported then some job.complaint else none := by
  by_cases h : job.Reported
  · obtain ⟨hcomplete, hfailed⟩ := reported_iff_fails.1 h
    rw [if_pos h]
    exact if_neg (by simp [hcomplete, hfailed])
  · rw [if_neg h]
    refine if_pos ?_
    simpa [reported_iff_fails, or_iff_not_imp_left] using h

theorem complaints_eq (jobs : List Job) : ObjectKind.job.complaints jobs =
    ⟨(jobs.filter fun job => job.Reported).map complaint, []⟩ := by
  have hfilter : jobs.filter (fun job => job.Reported) =
      jobs.filter fun job => job.isComplete = false ∧ job.status.failed ≠ 0 :=
    List.filter_congr fun job _ => decide_eq_decide.2 reported_iff_fails
  rw [hfilter]
  rfl

/-- A job is reported as it should be unless it is a miscounted one that failed. -/
theorem reported_iff_unfinished_iff :
    (job.Reported ↔ job.Unfinished) ↔ (job.status.failed ≠ 0 → ¬ job.Miscounted) := by
  unfold Reported Unfinished
  constructor
  · intro h hfailed hcount
    exact (h.1 ⟨hfailed, .inr hcount⟩).2.not_ge hcount.required_le
  · intro h
    exact and_congr_right fun hfailed => or_iff_left (h hfailed)

end Cluster.Job

namespace WorkloadCheck

/-- What a check without outcomes says about the jobs of a file. It examines all of them, or the
first that has the name. -/
inductive Tells (check : WorkloadCheck) (jobs : List Job) : List Result → Prop
  | all (hname : check.name = "") :
    Tells check jobs ((jobs.filter fun job => job.Reported).map Job.complaint)
  | first {before after : List Job} {job : Job} (hname : check.name ≠ "")
    (hjobs : jobs = before ++ job :: after) (hbefore : ∀ j ∈ before, j.metadata.name ≠ check.name)
    (hjob : job.metadata.name = check.name) :
    Tells check jobs (if job.Reported then [job.complaint] else [])
  | missing (hname : check.name ≠ "") (hjobs : ∀ j ∈ jobs, j.metadata.name ≠ check.name) :
    Tells check jobs [.ofMessage s!"{check.name} Job Status" .fail
      s!"The job \"{check.name}\" was not found"]

/-- The file holds these jobs, in the order of its document. -/
def HoldsJobs (file : FoundFile) (jobs : List Job) : Prop :=
  ∃ items, Cluster.Items file.2 items
    ∧ List.Forall₂ (fun item job => Json.decodeValue Job.decode item = some job) items jobs

/-- The files that a check of jobs reads. -/
inductive ReadsJobs (check : WorkloadCheck) (store : EvidenceStore) (files : List FoundFile) : Prop
  | scanned (hname : check.name = "") (hscans : ObjectKind.job.Scans check store files)
  | named (hname : check.name ≠ "") (hfind : store.find (check.namedPath "jobs") [] = .ok files)

variable {check : WorkloadCheck} {store : EvidenceStore} {jobs : List Job} {output : Output}

theorem tells_unnamed_iff (hname : check.name = "") {results : List Result} :
    check.Tells jobs results ↔
      (jobs.filter fun job => job.Reported).map Job.complaint = results := by
  constructor
  · intro h
    cases h with
    | all => rfl
    | first hnamed => exact absurd hname hnamed
    | missing hnamed => exact absurd hname hnamed
  · rintro rfl
    exact .all hname

theorem reportJob_eq_ok (hname : check.name ≠ "") (houtcomes : check.outcomes = []) :
    check.reportJob jobs = .ok output ↔
      ∃ results, check.Tells jobs results ∧ ⟨results, []⟩ = output := by
  unfold reportJob
  cases hfind : jobs.find? fun job => job.metadata.name == check.name with
  | none =>
    have hmissing : ∀ j ∈ jobs, j.metadata.name ≠ check.name := by
      simpa using hfind
    constructor
    · intro h
      cases h
      exact ⟨_, .missing hname hmissing, rfl⟩
    · rintro ⟨results, htells, rfl⟩
      cases htells with
      | all hnone => exact absurd hnone hname
      | first _ hjobs _ hjob =>
        rw [hjobs] at hmissing
        exact absurd hjob (hmissing _ (by simp))
      | missing => rfl
  | some job =>
    obtain ⟨hjob, before, after, hjobs, hbefore⟩ := List.find?_eq_some_iff_append.1 hfind
    rw [beq_iff_eq] at hjob
    replace hbefore : ∀ j ∈ before, j.metadata.name ≠ check.name := by simpa using hbefore
    have hresults : job.failure.toList =
        if job.Reported then [job.complaint] else [] := by
      rw [Job.failure_eq]
      split <;> rfl
    simp only [houtcomes, List.isEmpty_nil, if_true, pure_eq_ok, Except.ok.injEq, hresults]
    constructor
    · rintro rfl
      exact ⟨_, .first hname hjobs hbefore hjob, rfl⟩
    · rintro ⟨results, htells, rfl⟩
      cases htells with
      | all hnone => exact absurd hnone hname
      | @first before' after' job' _ hjobs' hbefore' hjob' =>
        have hfind' : (jobs.find? fun job => job.metadata.name == check.name) = some job' :=
          List.find?_eq_some_iff_append.2
            ⟨by simpa using hjob', before', after', hjobs', by simpa using hbefore'⟩
        rw [hfind] at hfind'
        cases hfind'
        rfl
      | missing _ hmissing => exact absurd hjob (hmissing job (by simp [hjobs]))

theorem report_eq_ok (hname : check.name ≠ "") (houtcomes : check.outcomes = [])
    {file : FoundFile} : ObjectKind.job.report check file = .ok output ↔
      ∃ jobs, HoldsJobs file jobs ∧
        ∃ results, check.Tells jobs results ∧ ⟨results, []⟩ = output := by
  have hobjects (jobs : List Job) :
      objectsOf Job.decode "job list" file = .ok jobs ↔ HoldsJobs file jobs :=
    mapError_eq_ok.trans Cluster.decodeList_eq_ok_iff
  refine bind_eq_ok.trans (exists_congr fun jobs => ?_)
  rw [hobjects, reportJob_eq_ok hname houtcomes]

theorem complaints_flatten (hname : check.name = "") {listed : List (List Job)}
    {results : List (List Result)} (htells : List.Forall₂ check.Tells listed results) :
    ObjectKind.job.complaints listed.flatten = ⟨results.flatten, []⟩ := by
  rw [← forall₂_eq_map.1 (htells.imp fun _ _ => (tells_unnamed_iff hname).1), Job.complaints_eq,
    List.filter_flatten, List.map_flatten, List.map_map]
  rfl

theorem analyzeJob_unnamed_eq_ok (hname : check.name = "") :
    check.analyzeJob store = .ok output ↔ ∃ strict files listed results,
      check.shared.isStrict = .ok strict ∧ ObjectKind.job.Scans check store files
      ∧ List.Forall₂ HoldsJobs files listed ∧ List.Forall₂ check.Tells listed results
      ∧ output = Output.stamp strict ⟨results.flatten, []⟩ := by
  refine (ObjectKind.job.analyze_unnamed_eq_ok hname).trans ?_
  constructor
  · rintro ⟨strict, files, listed, hstrict, hscans, hlisted, rfl⟩
    have htells : List.Forall₂ check.Tells listed (listed.map fun jobs : List Job =>
        (jobs.filter fun job => job.Reported).map Job.complaint) :=
      List.forall₂_map_right_iff.2 (List.forall₂_same.2 fun _ _ => .all hname)
    exact ⟨strict, files, listed, _, hstrict, hscans, hlisted, htells,
      congrArg (Output.stamp strict) (complaints_flatten hname htells)⟩
  · rintro ⟨strict, files, listed, results, hstrict, hscans, hlisted, htells, rfl⟩
    exact ⟨strict, files, listed, hstrict, hscans, hlisted,
      congrArg (Output.stamp strict) (complaints_flatten hname htells).symm⟩

theorem concat_flatten (results : List (List Result)) :
    Output.concat (results.map fun told => ⟨told, []⟩) = ⟨results.flatten, []⟩ := by
  simp [Output.concat, List.flatMap_map, List.flatMap_id']

theorem analyzeJob_named_eq_ok (hname : check.name ≠ "") (houtcomes : check.outcomes = []) :
    check.analyzeJob store = .ok output ↔ ∃ strict files listed results,
      check.shared.isStrict = .ok strict ∧ store.find (check.namedPath "jobs") [] = .ok files
      ∧ List.Forall₂ HoldsJobs files listed ∧ List.Forall₂ check.Tells listed results
      ∧ output = Output.stamp strict ⟨results.flatten, []⟩ := by
  have hreports {files : List FoundFile} {outputs : List Output} :
      files.mapM (ObjectKind.job.report check) = .ok outputs ↔ ∃ listed results,
        List.Forall₂ HoldsJobs files listed ∧ List.Forall₂ check.Tells listed results
        ∧ (results.map fun told => ⟨told, []⟩) = outputs := by
    simp only [mapM_eq_ok, report_eq_ok hname houtcomes, ← forall₂_comp, forall₂_eq_map,
      exists_and_left]
  show (ObjectKind.job.analyzer check).analyze store = .ok output ↔ _
  rw [ObjectKind.job.analyze_named hname, bind_eq_ok]
  constructor
  · rintro ⟨strict, hstrict, h⟩
    obtain ⟨files, hfiles, h⟩ := bind_eq_ok.1 h
    obtain ⟨outputs, houtputs, h⟩ := bind_eq_ok.1 h
    obtain ⟨listed, results, hlisted, htells, rfl⟩ := hreports.1 houtputs
    refine ⟨strict, files, listed, results, mapError_eq_ok.1 hstrict, mapError_eq_ok.1 hfiles,
      hlisted, htells, ?_⟩
    rw [← Except.ok.inj h, concat_flatten]
  · rintro ⟨strict, files, listed, results, hstrict, hfiles, hlisted, htells, rfl⟩
    refine ⟨strict, mapError_eq_ok.2 hstrict, bind_eq_ok.2 ⟨files, mapError_eq_ok.2 hfiles,
      bind_eq_ok.2 ⟨_, hreports.2 ⟨listed, results, hlisted, htells, rfl⟩, ?_⟩⟩⟩
    rw [concat_flatten]
    rfl

/-- The output of a check without outcomes, where `results` holds what is said file by file. -/
theorem analyzeJob_eq_ok (hwithout : check.name = "" ∨ check.outcomes = []) :
    check.analyzeJob store = .ok output ↔ ∃ strict files listed results,
      check.shared.isStrict = .ok strict ∧ check.ReadsJobs store files
      ∧ List.Forall₂ HoldsJobs files listed ∧ List.Forall₂ check.Tells listed results
      ∧ output = Output.stamp strict ⟨results.flatten, []⟩ := by
  by_cases hname : check.name = ""
  · have hreads (files : List FoundFile) :
        check.ReadsJobs store files ↔ ObjectKind.job.Scans check store files :=
      ⟨fun h => h.casesOn (fun _ => id) (absurd hname), .scanned hname⟩
    simp only [hreads, analyzeJob_unnamed_eq_ok hname]
  · have hreads (files : List FoundFile) :
        check.ReadsJobs store files ↔ store.find (check.namedPath "jobs") [] = .ok files :=
      ⟨fun h => h.casesOn (fun hnone => absurd hnone hname) (fun _ => id), .named hname⟩
    simp only [hreads, analyzeJob_named_eq_ok hname (hwithout.resolve_left hname)]

/-- A check without outcomes reports those of the jobs it examines which failed and lack successes,
and those which failed and are miscounted; so it is right about a job unless this one failed and is
miscounted. A further success leaves a complete job complete only where nothing is said about
completions. -/
theorem reports_unfinished_or_miscounted_jobs {check : WorkloadCheck}
    (hwithout : check.name = "" ∨ check.outcomes = []) (store : EvidenceStore) :
    (∀ output, check.analyzeJob store = .ok output ↔ ∃ strict files listed results,
      check.shared.isStrict = .ok strict ∧ check.ReadsJobs store files
      ∧ List.Forall₂ HoldsJobs files listed ∧ List.Forall₂ check.Tells listed results
      ∧ output = Output.stamp strict ⟨results.flatten, []⟩)
    ∧ (∀ job : Job, (job.Reported ↔ job.Unfinished) ↔
      (job.status.failed ≠ 0 → ¬ job.Miscounted))
    ∧ ∀ job : Job, job.isComplete = true →
      (job.succeedAgain.isComplete = true ↔ job.spec.completions = none) :=
  ⟨fun _ => analyzeJob_eq_ok hwithout, fun _ => Job.reported_iff_unfinished_iff,
    fun _ => Job.isComplete_succeedAgain_iff⟩

section Sample

/-- A job that failed once. -/
def retriedJob (name : String) (completions : Option Int) (succeeded : Int) : Job where
  metadata := { name, nspace := "app" }
  spec := { completions }
  status := { succeeded, failed := 1 }

def jobStore (jobs : List Job) : MemoryStore :=
  .ofList [("cluster-resources/jobs/app.json", PodCheck.listFile (jobs.map Job.toJson))]

/-- A check of the job of a name. -/
def jobCheck (name : String) : WorkloadCheck where
  name := name
  nspace := "app"

/-- Two jobs that ask for two completions. -/
def pairedJobs : MemoryStore :=
  jobStore [retriedJob "half" (some 2) 1, retriedJob "done" (some 2) 2]

/-- The job that lacks a success is reported, and the one that has all of them is not, but would be
with a further one. -/
theorem reports_unfinished_or_miscounted_jobs_of_pairedJobs :
    ((jobCheck "half").name = "" ∨ (jobCheck "half").outcomes = [])
    ∧ (jobCheck "half").analyzeJob pairedJobs.toStore =
      .ok ⟨[(retriedJob "half" (some 2) 1).complaint], []⟩
    ∧ (jobCheck "done").analyzeJob pairedJobs.toStore = .ok ⟨[], []⟩
    ∧ (∃ files listed results, (jobCheck "half").ReadsJobs pairedJobs.toStore files
      ∧ List.Forall₂ HoldsJobs files listed ∧ List.Forall₂ (jobCheck "half").Tells listed results
      ∧ Output.stamp false ⟨results.flatten, []⟩ =
        ⟨[(retriedJob "half" (some 2) 1).complaint], []⟩)
    ∧ ¬ (retriedJob "done" (some 2) 2).succeedAgain.isComplete = true := by
  have hhalf : (jobCheck "half").analyzeJob pairedJobs.toStore =
      .ok ⟨[(retriedJob "half" (some 2) 1).complaint], []⟩ := by decide +kernel
  have hdone : (jobCheck "done").analyzeJob pairedJobs.toStore = .ok ⟨[], []⟩ := by
    decide +kernel
  obtain ⟨hanalyze, -, hagain⟩ :=
    @reports_unfinished_or_miscounted_jobs (jobCheck "half") (.inr rfl) pairedJobs.toStore
  obtain ⟨strict, files, listed, results, hstrict, hreads, hlisted, htells, houtput⟩ :=
    (hanalyze _).1 hhalf
  cases hstrict
  exact ⟨.inr rfl, hhalf, hdone, ⟨files, listed, results, hreads, hlisted, htells,
    houtput.symm⟩, mt (hagain _ rfl).1 (by decide)⟩

/-- Two jobs that have what they require are reported: one that succeeded once and says nothing about
completions, and one that asks for one completion and has two. -/
theorem reports_jobs_with_required_successes :
    ¬ (∀ job : Job, job.Reported ↔ job.Unfinished)
    ∧ (∀ job ∈ [retriedJob "once" none 1, retriedJob "twice" (some 1) 2], ¬ job.Unfinished)
    ∧ WorkloadCheck.analyzeJob
      (jobStore [retriedJob "once" none 1, retriedJob "twice" (some 1) 2]).toStore {} =
      .ok ⟨[(retriedJob "once" none 1).complaint, (retriedJob "twice" (some 1) 2).complaint], []⟩
    ∧ (retriedJob "twice" (some 1) 1).isComplete = true
    ∧ (retriedJob "twice" (some 1) 1).succeedAgain.isComplete = false := by
  refine ⟨fun h => ?_, ?_, by decide +kernel, by decide, by decide⟩
  · have honce : (retriedJob "once" none 1).Reported := ⟨by decide, .inr (.single rfl rfl)⟩
    exact absurd ((h _).1 honce).2 (by decide)
  · simp [Job.Unfinished, Job.required, retriedJob]

end Sample

end WorkloadCheck

end Triage
