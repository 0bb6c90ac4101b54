import ClusterAgent.StackResource.JobPass
import ClusterAgent.StackResource.Ready

/-!
# Cluster agent — Jobs over whole runs

A Job StackResource runs once for each revision. Its Job outlives the pass that
created it: later passes see it succeed or fail, keep it, or delete it to make
room for the next revision, while the hub edits the resource in between. The
summary is about the current spec and revision, so a success it reports should
be the success of a Job created for these.

* `JobState`, `jobStep` — runs of passes, edits and reports, with the spec the
  stored Job was created from and the successes so far as history;
* `RevisionRenewed`, `GenerationRenewed` — what keeps the history apart;
* `jobInv_jobStep`, `availableInv_jobStep` — the invariants every event keeps.

Main result: `job_success_is_current`.
-/

namespace ClusterAgent.StackResourceController

open Pass Effect
open Workload (jobSucceeded jobFinished jobOutdated)

/-! ## Runs -/

/-- A cluster with the history of one resource's Job: the spec the resource had when the
stored Job was created, and for every success reported so far the spec and the revision
of the Job that succeeded. -/
structure JobState where
  world : World
  origin : StackResourceSpec := {}
  succeeded : List (StackResourceSpec × String) := []

inductive JobEvent where
  | pass (env : Env)
  | edit (metadata : ObjectMeta) (spec : StackResourceSpec)
  | report (status : JobStatus) (finalizers : List String)
  | remove
  | elsewhere (cluster : Cluster) (verifier : Option PortCheck.Verifier)

def edited (metadata : ObjectMeta) (spec : StackResourceSpec) (r : StackResource) :
    StackResource :=
  { r with
    metadata := { metadata with name := r.metadata.name, ns := r.metadata.ns }
    spec := { spec with workloadType := .job } }

section

variable (ns name : String)

/-- The spec of the stored Job after a pass: new only if there was no Job. -/
def originAfter (s : JobState) : StackResourceSpec :=
  match jobsOf ns name s.world.cluster, lookupResource s.world.cluster ns name with
  | [], some r => r.spec
  | _, _ => s.origin

def reported (status : JobStatus) (finalizers : List String) (job : Job) : Job :=
  { job with status := status, metadata.finalizers := finalizers }

def jobStep (s : JobState) : JobEvent → JobState
  | .pass env =>
    { s with
      world := finalState (reconcile env ns name s.world)
      origin := originAfter ns name s }
  | .edit metadata spec =>
    { s with
      world.cluster.stackResources :=
        Keyed.write (isResource ns name) (edited metadata spec) s.world.cluster.stackResources }
  | .report status finalizers =>
    { s with
      world.cluster.jobs :=
        Keyed.write (hasKey ns name) (reported status finalizers) s.world.cluster.jobs
      succeeded :=
        if 1 ≤ status.succeeded then
          (jobsOf ns name s.world.cluster).map (fun job => (s.origin, jobRevision job)) ++
            s.succeeded
        else s.succeeded }
  | .remove =>
    { s with world.cluster.jobs := s.world.cluster.jobs.filter fun job => !hasKey ns name job }
  | .elsewhere cluster verifier =>
    let jobs := Keyed.keeping (hasKey ns name) cluster.jobs s.world.cluster.jobs
    let stackResources := Keyed.keeping (isResource ns name) cluster.stackResources
      s.world.cluster.stackResources
    { s with
      world.cluster := { cluster with jobs := jobs, stackResources := stackResources }
      world.verifier := verifier }

/-- A resource that comes new under the agent's control: no Job, no success. -/
structure NewJob (w : World) : Prop where
  noJob : jobsOf ns name w.cluster = []
  kind : ∀ r ∈ lookupResource w.cluster ns name, r.spec.workloadType = .job
  notAvailable : ∀ r ∈ lookupResource w.cluster ns name,
    domainConditionTrue r .workloadAvailable = false

/-- Success is told apart from the success of earlier specs and revisions: a Job that
succeeds under another revision is finished by the time a pass sees it, and an edit of
spec or revision takes a revision that no stored Job carries. -/
def RevisionRenewed (s : JobState) : JobEvent → Prop
  | .pass _ => ∀ r ∈ lookupResource s.world.cluster ns name,
    ∀ job ∈ jobsOf ns name s.world.cluster, jobSucceeded job = true →
      jobFinished job = true ∨ jobRevision job = r.revision
  | .edit metadata spec => ∀ r ∈ lookupResource s.world.cluster ns name,
    ((edited metadata spec r).spec = r.spec ∧ (edited metadata spec r).revision = r.revision) ∨
      ∀ job ∈ jobsOf ns name s.world.cluster,
        jobRevision job ≠ (edited metadata spec r).revision
  | _ => True

instance (s : JobState) : DecidablePred (RevisionRenewed ns name s)
  | .pass _ => inferInstanceAs (Decidable (∀ r ∈ lookupResource s.world.cluster ns name, _))
  | .edit _ _ => inferInstanceAs (Decidable (∀ r ∈ lookupResource s.world.cluster ns name, _))
  | .report _ _ => instDecidableTrue
  | .remove => instDecidableTrue
  | .elsewhere _ _ => instDecidableTrue

/-- And so is availability: an edit of spec or revision takes a generation at which
WorkloadAvailable is not True. -/
def GenerationRenewed (s : JobState) : JobEvent → Prop
  | .edit metadata spec => ∀ r ∈ lookupResource s.world.cluster ns name,
    ((edited metadata spec r).spec = r.spec ∧ (edited metadata spec r).revision = r.revision ∧
        (edited metadata spec r).generation = r.generation) ∨
      domainConditionTrue (edited metadata spec r) .workloadAvailable = false
  | _ => True

instance (s : JobState) : DecidablePred (GenerationRenewed ns name s)
  | .pass _ => instDecidableTrue
  | .edit _ _ => inferInstanceAs (Decidable (∀ r ∈ lookupResource s.world.cluster ns name, _))
  | .report _ _ => instDecidableTrue
  | .remove => instDecidableTrue
  | .elsewhere _ _ => instDecidableTrue

/-- A Job created from the resource's spec and carrying its revision has succeeded. -/
def JobState.HasSucceeded (s : JobState) (r : StackResource) : Prop :=
  (r.spec, r.revision) ∈ s.succeeded

instance (s : JobState) (r : StackResource) : Decidable (s.HasSucceeded r) :=
  inferInstanceAs (Decidable (_ ∈ _))

/-- What the history says of the stored Job. A Job that carries the current revision was created
from the current spec, so a success found under that revision is one of that spec; and every
success is on record, with the spec and the revision it was for. -/
structure JobInv (s : JobState) : Prop where
  kind : ∀ r, lookupResource s.world.cluster ns name = some r → r.spec.workloadType = .job
  origin : ∀ r, lookupResource s.world.cluster ns name = some r →
    ∀ job ∈ jobsOf ns name s.world.cluster, jobRevision job = r.revision → s.origin = r.spec
  recorded : ∀ job ∈ jobsOf ns name s.world.cluster, jobSucceeded job = true →
    (s.origin, jobRevision job) ∈ s.succeeded

/-- What the history says of WorkloadAvailable. -/
def AvailableInv (s : JobState) : Prop :=
  ∀ r, lookupResource s.world.cluster ns name = some r →
    domainConditionTrue r .workloadAvailable = true → s.HasSucceeded r

/-! ## What an event does to the key -/

variable {ns name} {s : JobState}

theorem originAfter_of_mem {job : Job} (h : job ∈ jobsOf ns name s.world.cluster) :
    originAfter ns name s = s.origin := by
  unfold originAfter
  cases hJobs : jobsOf ns name s.world.cluster with
  | nil =>
    rw [hJobs] at h
    cases h
  | cons _ _ => rfl

theorem originAfter_of_none {r : StackResource} (h : jobsOf ns name s.world.cluster = [])
    (hLookup : lookupResource s.world.cluster ns name = some r) :
    originAfter ns name s = r.spec := by
  unfold originAfter
  rw [h, hLookup]

theorem lookupResource_edit (metadata : ObjectMeta) (spec : StackResourceSpec) :
    lookupResource (jobStep ns name s (.edit metadata spec)).world.cluster ns name =
      (lookupResource s.world.cluster ns name).map (edited metadata spec) :=
  lookupResource_write (fun _ => rfl) rfl

theorem mem_jobsOf_report {status : JobStatus} {finalizers : List String} {job' : Job}
    (h : job' ∈ jobsOf ns name (jobStep ns name s (.report status finalizers)).world.cluster) :
    ∃ job ∈ jobsOf ns name s.world.cluster, job' = reported status finalizers job :=
  Keyed.mem_filter_write h

theorem jobsOf_remove : jobsOf ns name (jobStep ns name s .remove).world.cluster = [] :=
  Keyed.filter_without _

theorem jobsOf_elsewhere (cluster : Cluster) (verifier : Option PortCheck.Verifier) :
    jobsOf ns name (jobStep ns name s (.elsewhere cluster verifier)).world.cluster =
      jobsOf ns name s.world.cluster :=
  Keyed.filter_keeping _ _

theorem lookupResource_elsewhere (cluster : Cluster) (verifier : Option PortCheck.Verifier) :
    lookupResource (jobStep ns name s (.elsewhere cluster verifier)).world.cluster ns name =
      lookupResource s.world.cluster ns name :=
  Keyed.find?_keeping _ _

/-! ## The invariant -/

theorem jobInv_start {w : World} (h : NewJob ns name w) : JobInv ns name { world := w } where
  kind := h.kind
  origin r _ job hJob := by
    rw [h.noJob] at hJob
    cases hJob
  recorded job hJob := by
    rw [h.noJob] at hJob
    cases hJob

theorem availableInv_start {w : World} (h : NewJob ns name w) :
    AvailableInv ns name { world := w } := by
  intro r hr ha
  rw [h.notAvailable r hr] at ha
  cases ha

/-- A success that a pass finds is that of a Job of the current spec and revision. -/
theorem JobInv.found {env : Env} {r : StackResource} (hInv : JobInv ns name s)
    (hRenewed : RevisionRenewed ns name s (.pass env))
    (hLookup : lookupResource s.world.cluster ns name = some r)
    (hFound : SuccessFound ns name (started s.world r)) : s.HasSucceeded r := by
  obtain ⟨job, hJob, hSucceeded, hCurrent⟩ := hFound
  have hRevision : jobRevision job = r.revision := by
    rcases hRenewed r hLookup job hJob hSucceeded with hFinished | hRevision
    · unfold jobOutdated at hCurrent
      rw [hFinished, Bool.true_and, decide_eq_false_iff_not, Decidable.not_not] at hCurrent
      exact hCurrent
    · exact hRevision
  have hRecorded := hInv.recorded job hJob hSucceeded
  rw [hInv.origin r hLookup job hJob hRevision, hRevision] at hRecorded
  exact hRecorded

theorem jobInv_pass {env : Env} (hInv : JobInv ns name s) :
    JobInv ns name (jobStep ns name s (.pass env)) := by
  cases jobPassed_reconcile hInv.kind with
  | idle hSame =>
    refine ⟨fun r hr => hInv.kind r (hSame ▸ hr), ?_, ?_⟩
    · intro r hr job hJob hRevision
      have hJob' : job ∈ jobsOf ns name s.world.cluster := hSame ▸ hJob
      exact (originAfter_of_mem hJob').trans (hInv.origin r (hSame ▸ hr) job hJob' hRevision)
    · intro job hJob hSucceeded
      have hJob' : job ∈ jobsOf ns name s.world.cluster := hSame ▸ hJob
      show (originAfter ns name s, jobRevision job) ∈ s.succeeded
      rw [originAfter_of_mem hJob']
      exact hInv.recorded job hJob' hSucceeded
  | @ran r hLookup hJobs r' hStored hRevision hSpec hAvailable =>
    have hKind : r'.spec.workloadType = .job := by
      rw [hSpec]
      exact hInv.kind r hLookup
    refine ⟨fun x hx => ?_, fun x hx job' hJob' hx' => ?_, fun job' hJob' hSucceeded => ?_⟩
    · cases hStored.symm.trans hx
      exact hKind
    · cases hStored.symm.trans hx
      show originAfter ns name s = r'.spec
      cases hJobs with
      | kept hKept =>
        obtain ⟨job, hJob, hSame, -⟩ := hKept job' hJob'
        rw [originAfter_of_mem hJob, hSpec]
        exact hInv.origin r hLookup job hJob (by rw [← hSame, hx', hRevision])
      | created hNone _ => rw [originAfter_of_none hNone hLookup, hSpec]
    · show (originAfter ns name s, jobRevision job') ∈ s.succeeded
      cases hJobs with
      | kept hKept =>
        obtain ⟨job, hJob, hSame, hStatus⟩ := hKept job' hJob'
        rw [originAfter_of_mem hJob, hSame]
        unfold jobSucceeded at hSucceeded
        rw [hStatus] at hSucceeded
        exact hInv.recorded job hJob hSucceeded
      | created _ hNew =>
        -- a Job just created has not succeeded
        unfold jobSucceeded at hSucceeded
        rw [(hNew job' hJob').2] at hSucceeded
        cases hSucceeded

theorem jobInv_jobStep (event : JobEvent) (hRenewed : RevisionRenewed ns name s event)
    (hInv : JobInv ns name s) : JobInv ns name (jobStep ns name s event) := by
  cases event with
  | pass env => exact jobInv_pass hInv
  | edit metadata spec =>
    refine ⟨fun x hx => ?_, fun x hx job hJob hx' => ?_, hInv.recorded⟩
    · rw [lookupResource_edit] at hx
      obtain ⟨r, -, rfl⟩ := Option.map_eq_some_iff.mp hx
      rfl
    · rw [lookupResource_edit] at hx
      obtain ⟨r, hLookup, rfl⟩ := Option.map_eq_some_iff.mp hx
      -- an edit keeps the spec under its revision, or comes with one no Job has
      rcases hRenewed r hLookup with ⟨hSpec, hRevision⟩ | hNew
      · rw [hSpec]
        exact hInv.origin r hLookup job hJob (hx'.trans hRevision)
      · exact absurd hx' (hNew job hJob)
  | report status finalizers =>
    refine ⟨hInv.kind, fun r hr job' hJob' hRevision => ?_, fun job' hJob' hSucceeded => ?_⟩
    · obtain ⟨job, hJob, rfl⟩ := mem_jobsOf_report hJob'
      exact hInv.origin r hr job hJob hRevision
    · obtain ⟨job, hJob, rfl⟩ := mem_jobsOf_report hJob'
      -- a reported success goes on record, with what the Job was created from
      have hOne : 1 ≤ status.succeeded := of_decide_eq_true hSucceeded
      show (s.origin, jobRevision job) ∈ (if 1 ≤ status.succeeded then _ else _)
      rw [if_pos hOne]
      exact List.mem_append_left _ (List.mem_map.mpr ⟨job, hJob, rfl⟩)
  -- a removed Job leaves nothing to be said; the record stays
  | remove =>
    refine ⟨hInv.kind, fun r _ job hJob => ?_, fun job hJob => ?_⟩
    · rw [jobsOf_remove] at hJob
      cases hJob
    · rw [jobsOf_remove] at hJob
      cases hJob
  | elsewhere cluster verifier =>
    refine ⟨fun r hr => ?_, fun r hr job hJob => ?_, fun job hJob => ?_⟩
    · rw [lookupResource_elsewhere] at hr
      exact hInv.kind r hr
    · rw [lookupResource_elsewhere] at hr
      rw [jobsOf_elsewhere] at hJob
      exact hInv.origin r hr job hJob
    · rw [jobsOf_elsewhere] at hJob
      exact hInv.recorded job hJob

theorem availableInv_jobStep (event : JobEvent) (hRevision : RevisionRenewed ns name s event)
    (hGeneration : GenerationRenewed ns name s event) (hJob : JobInv ns name s)
    (hInv : AvailableInv ns name s) : AvailableInv ns name (jobStep ns name s event) := by
  cases event with
  | pass env =>
    cases jobPassed_reconcile hJob.kind with
    | idle hSame => exact fun r hr => hInv r (hSame ▸ hr)
    | @ran r hLookup hJobs r' hStored hSameRevision hSpec hAvailable =>
      intro x hx ha
      cases hStored.symm.trans hx
      show (r'.spec, r'.revision) ∈ s.succeeded
      rw [hSpec, hSameRevision]
      -- True was there before for this generation, or the pass has found the success
      rcases hAvailable ha with hBefore | hFound
      · exact hInv r hLookup hBefore
      · exact hJob.found hRevision hLookup hFound
  | edit metadata spec =>
    intro x hx ha
    rw [lookupResource_edit] at hx
    obtain ⟨r, hLookup, rfl⟩ := Option.map_eq_some_iff.mp hx
    -- an edit with a new generation makes the stored condition a stale one
    rcases hGeneration r hLookup with ⟨hSpec, hSame, hSameGeneration⟩ | hNot
    · show ((edited metadata spec r).spec, (edited metadata spec r).revision) ∈ s.succeeded
      rw [hSpec, hSame]
      refine hInv r hLookup ?_
      unfold domainConditionTrue domainCondition at ha ⊢
      rw [hSameGeneration] at ha
      exact ha
    · rw [hNot] at ha
      cases ha
  | report status finalizers =>
    intro r hr ha
    have hMem := hInv r hr ha
    show (r.spec, r.revision) ∈ (if 1 ≤ status.succeeded then _ else _)
    split
    · exact List.mem_append_right _ hMem
    · exact hMem
  | remove => exact hInv
  | elsewhere cluster verifier =>
    intro r hr
    rw [lookupResource_elsewhere] at hr
    exact hInv r hr

end

/-! ## What a pass reports -/

/-- Converged is reported for a success that was found, and Available for one that was
found or that WorkloadAvailable stands for. -/
theorem reports_success {env : Env} {ns name : String} {w w' : World} {chainEnd : ChainEnd}
    (hJob : ∀ r, lookupResource w.cluster ns name = some r → r.spec.workloadType = .job)
    (h : reconcile env ns name w = .ok (some chainEnd) w') :
    ∃ r, lookupResource w.cluster ns name = some r ∧
      w'.resource.spec = r.spec ∧ w'.resource.revision = r.revision ∧
      (ReportsStatus w'.resource .converged .conditionTrue →
        SuccessFound ns name (started w r)) ∧
      (ReportsStatus w'.resource .available .conditionTrue →
        domainConditionTrue r .workloadAvailable = true ∨ SuccessFound ns name (started w r)) := by
  obtain ⟨r, w1, hLookup, hRun, hResult⟩ := reconcile_inv env h
  have hChain : Triple (· = started w r) (runChain env subReconcilers none)
      (fun _ => JobJudged ns name (started w r)) (JobPass ns name (started w r)) :=
    chain_around_kind (jobFrame ns name) (jobJudged_kind hLookup (hJob r hLookup))
  have hJudged := hChain.of_ok rfl hRun
  have hTouches := touches_runChain env hRun
  obtain ⟨stored, -, hStoredAs, hMetadata, hSpec⟩ := hResult.stored env hLookup hTouches
  obtain ⟨build, hResource⟩ := hResult.resource
  refine ⟨r, hLookup, hStoredAs.spec.symm.trans hSpec, ?_, fun hConverged => ?_,
    fun hAvailable => ?_⟩
  · unfold StackResource.revision
    rw [← hStoredAs.metadata, hMetadata]
  · rw [hResource, reports_converged_iff] at hConverged
    exact hJudged.2 hConverged.1
  · rw [hResource, reports_available_iff] at hAvailable
    exact hJudged.1.available hAvailable.2

/-- Over any run from a new Job resource, with arbitrary passes, edits, reports and
changes elsewhere: if every edit of spec or revision renews the revision, and a success
under another revision is finished when a pass sees it, then Converged=True is reported
only after a Job of the current spec and revision has succeeded; and so is Available=True,
if these edits renew the generation as well. -/
theorem job_success_is_current {ns name : String} {w : World} (hNew : NewJob ns name w)
    {events : List JobEvent} {env : Env}
    (hRevision : Runs.Admitted (jobStep ns name) (RevisionRenewed ns name) { world := w }
      (events ++ [.pass env]))
    {chainEnd : ChainEnd} {w' : World}
    (hPass : reconcile env ns name (Runs.run (jobStep ns name) { world := w } events).world =
      .ok (some chainEnd) w') :
    (ReportsStatus w'.resource .converged .conditionTrue →
      (Runs.run (jobStep ns name) { world := w } events).HasSucceeded w'.resource) ∧
    (Runs.Admitted (jobStep ns name) (GenerationRenewed ns name) { world := w } events →
      ReportsStatus w'.resource .available .conditionTrue →
      (Runs.run (jobStep ns name) { world := w } events).HasSucceeded w'.resource) := by
  obtain ⟨hEvents, hLast, -⟩ := Runs.admitted_append hRevision
  set s := Runs.run (jobStep ns name) { world := w } events with hs
  have hInv : JobInv ns name s := Runs.run_admitted
    (fun s event hRenewed hInv => jobInv_jobStep event hRenewed hInv) hEvents (jobInv_start hNew)
  obtain ⟨r, hLookup, hSpec, hSame, hConverged, hAvailable⟩ := reports_success hInv.kind hPass
  have hCurrent : s.HasSucceeded r → s.HasSucceeded w'.resource := by
    unfold JobState.HasSucceeded
    rw [hSpec, hSame]
    exact id
  refine ⟨fun hReport => hCurrent (hInv.found hLast hLookup (hConverged hReport)), ?_⟩
  intro hGeneration hReport
  rcases hAvailable hReport with hBefore | hFound
  -- an older True counts for the current spec only if generations were renewed as well
  · have hBoth := Runs.run_admitted
      (I := fun s => JobInv ns name s ∧ AvailableInv ns name s)
      (fun s event hRenewed hInv => ⟨jobInv_jobStep event hRenewed.1 hInv.1,
        availableInv_jobStep event hRenewed.1 hRenewed.2 hInv.1 hInv.2⟩)
      (Runs.admitted_and hEvents hGeneration) ⟨jobInv_start hNew, availableInv_start hNew⟩
    exact hCurrent (hBoth.2 r hLookup hBefore)
  · exact hCurrent (hInv.found hLast hLookup hFound)

def migrateMeta : ObjectMeta :=
  { name := "migrate", ns := "shop", uid := "u1", generation := 1
    annotations := [(revisionAnnotationKey, "r1")] }

def migrateSpec (image : String) : StackResourceSpec :=
  { workloadType := .job, imageSpec := some { image := image } }

def migrateWorld : World where
  cluster :=
    { stackResources := [{ metadata := migrateMeta, spec := migrateSpec "migrate:1" }] }
  resource := { metadata := migrateMeta }

def migrateRun (events : List JobEvent) : JobState :=
  Runs.run (jobStep "shop" "migrate") { world := migrateWorld } events

def migratePass (events : List JobEvent) : EStateM.Result GoError World (Option ChainEnd) :=
  reconcile (plainEnv 9) "shop" "migrate" (migrateRun events).world

def migrateAfter (events : List JobEvent) : StackResource :=
  (finalState (migratePass events)).resource

def jobComplete : JobStatus :=
  { succeeded := 1, conditions := [{ type := .complete, status := .conditionTrue }] }

def jobUncounted : JobStatus := { succeeded := 1 }

def jobFailure : JobStatus := { conditions := [{ type := .failed, status := .conditionTrue }] }

def migrateRelease (generation : Int) (revision image : String) : JobEvent :=
  .edit { migrateMeta with
    generation := generation
    annotations := [(revisionAnnotationKey, revision)] } (migrateSpec image)

theorem newJob_migrate : NewJob "shop" "migrate" migrateWorld :=
  ⟨by decide, by decide, by decide⟩

/-- The first revision's Job succeeds; a release with a new revision, generation and image
has it deleted, and its own Job created and run. -/
def renewedRun : List JobEvent :=
  [.pass (plainEnv 1), .report jobComplete [], .pass (plainEnv 2),
    migrateRelease 2 "r2" "migrate:2", .pass (plainEnv 3), .pass (plainEnv 4),
    .report jobComplete []]

theorem job_success_renewed :
    ReportsStatus (migrateAfter renewedRun) .converged .conditionTrue ∧
      ReportsStatus (migrateAfter renewedRun) .available .conditionTrue ∧
      (migrateAfter renewedRun).revision = "r2" ∧
      (migrateRun renewedRun).HasSucceeded (migrateAfter renewedRun) := by
  have hValue : value (migratePass renewedRun) = some (some (.ranToEnd none)) := by
    decide +kernel
  have hAvailable : ReportsStatus (migrateAfter renewedRun) .available .conditionTrue := by
    decide +kernel
  have hRevision : Runs.Admitted (jobStep "shop" "migrate") (RevisionRenewed "shop" "migrate")
      { world := migrateWorld } (renewedRun ++ [.pass (plainEnv 9)]) := by
    decide +kernel
  have hGeneration : Runs.Admitted (jobStep "shop" "migrate") (GenerationRenewed "shop" "migrate")
      { world := migrateWorld } renewedRun := by
    decide +kernel
  have hCurrent := job_success_is_current newJob_migrate hRevision (eq_ok_of_value hValue)
  exact ⟨by decide +kernel, hAvailable, by decide +kernel, hCurrent.2 hGeneration hAvailable⟩

/-- A release that changes only the image. -/
def sameRevisionRun : List JobEvent :=
  [.pass (plainEnv 1), .report jobComplete [], migrateRelease 2 "r1" "migrate:2"]

/-- A release with a new revision while the Job's success is counted but not yet complete. -/
def uncountedRun : List JobEvent :=
  [.pass (plainEnv 1), .report jobUncounted [], migrateRelease 2 "r2" "migrate:2"]

/-- A release of the same spec with a new revision, whose Job fails. -/
def sameGenerationRun : List JobEvent :=
  [.pass (plainEnv 1), .report jobComplete [], .pass (plainEnv 2),
    migrateRelease 1 "r2" "migrate:1", .pass (plainEnv 3), .pass (plainEnv 4),
    .report jobFailure []]

/-- Without each of the conditions, a success is reported that is not the current one's: that of
an earlier image, of an unfinished Job of an earlier revision, and, for Available, an earlier one
at the same generation. -/
theorem job_success_of_another :
    (value (migratePass sameRevisionRun) = some (some (.ranToEnd none)) ∧
      ReportsStatus (migrateAfter sameRevisionRun) .converged .conditionTrue ∧
      ¬ (migrateRun sameRevisionRun).HasSucceeded (migrateAfter sameRevisionRun)) ∧
    (value (migratePass uncountedRun) = some (some (.ranToEnd none)) ∧
      ReportsStatus (migrateAfter uncountedRun) .converged .conditionTrue ∧
      ¬ (migrateRun uncountedRun).HasSucceeded (migrateAfter uncountedRun)) ∧
    (value (migratePass sameGenerationRun) = some (some (.endedBy .workload .stop)) ∧
      ReportsStatus (migrateAfter sameGenerationRun) .available .conditionTrue ∧
      ¬ (migrateRun sameGenerationRun).HasSucceeded (migrateAfter sameGenerationRun)) := by
  decide +kernel

end ClusterAgent.StackResourceController
