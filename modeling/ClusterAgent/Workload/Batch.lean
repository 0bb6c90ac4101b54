import ClusterAgent.Workload.Diagnosis
import ClusterAgent.Controller.ObjectPass

/-!
# Cluster agent — Jobs and CronJobs

The workload kinds that run to completion. A Job is created once and never
updated; a finished Job of another revision is deleted, and the next pass creates
its successor. A CronJob counts as available as soon as it is installed, and takes the outcome
of its latest completed child as that of its last run.

* `isLatest_laterCompleted`, `isLatest_latest` — what the loop over the children finds.
* `lastRunSucceeded_exact_iff` — when the recorded outcome is that of the last run.
-/

namespace ClusterAgent.Workload

open Pass Effect

/-! ## Jobs -/

def jobFinished (job : Job) : Bool :=
  job.status.conditions.any fun c =>
    (decide (c.type = .complete) || decide (c.type = .failed)) &&
      decide (c.status = .conditionTrue)

section

variable (env : Env)

/-- The Job of the resource's current spec and revision, before the pull secret is
resolved. -/
def desiredJob (resource : StackResource) (template : PodTemplateSpec) : Job where
  metadata :=
    { name := getWorkloadNameForResource resource
      ns := resource.metadata.ns
      labels := mergeLabels (getWorkloadLabelForResource resource) (identityLabels resource)
      annotations := [(revisionAnnotationKey, resource.revision)] }
  spec :=
    { completions := some 1, parallelism := some 1, backoffLimit := some 6, template := template }
  status := {}

def applyJob : Pass Job := do
  let resource ← Pass.resource
  let volumeMountInfo ← getVolumeMountInfoMap env resource resource.spec.volumeMounts
  let image ← getImageForResource env resource
  let template := buildPodTemplateSpec env
    { resource := resource, image := image, envVars := buildEnvVars resource
      volumeMountInfo := volumeMountInfo, restartPolicy := "OnFailure" }
  let template ← resolveAndSetImagePullSecret env resource template
  let job ← controlled (desiredJob resource template)
  create env .job job

def jobSucceeded (job : Job) : Bool := decide (1 ≤ job.status.succeeded)

def failedCondition (job : Job) : Option JobCondition :=
  job.status.conditions.find? fun c =>
    decide (c.type = .failed) && decide (c.status = .conditionTrue)

def recordRun (time : Option Timestamp) (succeeded : Bool) : Pass Unit :=
  modifyStatus fun s => { s with lastRunTime := time, lastRunSucceeded := some succeeded }

def evaluateJobStatus (job : Job) : Pass SubReconcilerResult := do
  if jobSucceeded job then
    recordRun job.status.completionTime true
    clearFailureDetails
    setCondition env .workloadConverged true "JobComplete" "job completed successfully"
    setCondition env .workloadAvailable true "JobComplete" "job completed successfully"
    return .nil
  else
    let resource ← Pass.resource
    match failedCondition job with
    | some c =>
      recordRun (some env.clock.now) false
      capturePodFailureDetailsOnce env resource.revision
      reportFailed "JobFailed" c.message
      return .stop
    | none =>
      capturePodFailureDetailsOnce env resource.revision
      reportNotReady "JobRunning" "job is still running"
      let resource ← Pass.resource
      if 0 < resource.status.lastFailureDetails.length then return .stop
      else return .requeueAfter (10 * second)

def jobOutdated (resource : StackResource) (job : Job) : Bool :=
  jobFinished job && decide (job.metadata.annotations.get revisionAnnotationKey ≠ resource.revision)

def reconcileJob : Pass SubReconcilerResult := do
  let resource ← Pass.resource
  match ← getObject env .job resource.metadata.ns (getWorkloadNameForResource resource) with
  | none =>
    let _ ← applyJob env
    reportNotReady "JobRunning" "job created, waiting for completion"
    return .requeueAfter (5 * second)
  | some job =>
    if jobOutdated resource job then
      delete env .job job
      reportNotReady "JobRunning" "waiting for the new revision's job to be created"
      return .requeueAfter (2 * second)
    else evaluateJobStatus env job

/-! ## CronJobs -/

def applyCronJobSpec (resource : StackResource) (template : PodTemplateSpec) (cj : CronJob) :
    CronJob :=
  { cj with
    metadata.labels := mergeLabels cj.metadata.labels (identityLabels resource)
    spec :=
      { schedule := resource.spec.schedule
        concurrencyPolicy := "Forbid"
        successfulJobsHistoryLimit := some 3
        failedJobsHistoryLimit := some 1
        jobTemplate :=
          { completions := some 1, parallelism := some 1, backoffLimit := some 6
            template := template } } }

def applyCronJob : Pass CronJob := do
  let resource ← Pass.resource
  let volumeMountInfo ← getVolumeMountInfoMap env resource resource.spec.volumeMounts
  let image ← getImageForResource env resource
  let template := buildPodTemplateSpec env
    { resource := resource, image := image, envVars := buildEnvVars resource
      volumeMountInfo := volumeMountInfo, restartPolicy := "OnFailure" }
  let blank : CronJob :=
    { metadata := { name := getWorkloadNameForResource resource, ns := resource.metadata.ns }
      spec := {}
      status := {} }
  createOrUpdate env .cronJob blank fun cj => do
    let template ← resolveAndSetImagePullSecret env resource template
    controlled (applyCronJobSpec resource template cj)

/-- The later of two completed Jobs; the earlier one in the list wins a tie. -/
def laterCompleted (latest : Option Job) (job : Job) : Option Job :=
  match job.status.completionTime, latest with
  | none, _ => latest
  | some _, none => some job
  | some t, some l =>
    match l.status.completionTime with
    | none => some job
    | some t' => if t'.wall < t.wall then some job else some l

/-- The CronJob's child Job that completed last; none when the lookup failed. -/
def latestCompletedChildJob (cj : CronJob) : Pass (Option Job) := do
  let resource ← Pass.resource
  match ← attempt (listObjects env .job resource.metadata.ns []) with
  | .error _ => return none
  | .ok jobs =>
    let children := jobs.filter fun job => isControlledBy job.metadata cj.metadata
    return children.foldl laterCompleted none

def recordLatestRun (latest : Job) : Pass Unit := do
  modifyStatus fun s => { s with lastRunSucceeded := some (jobSucceeded latest) }
  if jobSucceeded latest then clearFailureDetails
  else capturePodFailureDetailsOnce env latest.name

def evaluateCronJobStatus (cj : CronJob) : Pass SubReconcilerResult := do
  setCondition env .workloadConverged true "CronJobScheduled"
    "cronjob installed with valid schedule"
  setCondition env .workloadAvailable true "CronJobScheduled"
    "cronjob installed with valid schedule"
  modifyStatus fun s =>
    { s with lastRunTime := cj.status.lastScheduleTime.or s.lastRunTime }
  match ← latestCompletedChildJob env cj with
  | none => return .nil
  | some latest =>
    recordLatestRun env latest
    return .nil

def reconcileCronJob : Pass SubReconcilerResult := do
  let cj ← applyCronJob env
  evaluateCronJobStatus env cj

/-! ## Footprint -/

def jobFootprint : Footprint where
  conditions := [.workloadAvailable, .workloadConverged]
  failureDetails := true
  objects := [.job]
  reasons := ["JobRunning"]
  fails := true

def cronJobFootprint : Footprint where
  conditions := [.workloadAvailable, .workloadConverged]
  failureDetails := true
  objects := [.cronJob]

variable {fp : Footprint}

variable {env}

theorem has_applyJob (h : .job ∈ fp.objects) : Has fp (applyJob env) :=
  .bind has_resource fun _ =>
    .bind (Has.of_reads (reads_getVolumeMountInfoMap env)) fun _ =>
    .bind (Has.of_reads (reads_getImageForResource env)) fun _ =>
    .bind (Has.of_reads (reads_resolveAndSetImagePullSecret env _ _)) fun _ =>
    .bind has_controlled fun _ => has_create h

theorem has_recordRun {time : Option Timestamp} {succeeded : Bool} :
    Has fp (recordRun time succeeded) :=
  has_modifyStatus

theorem has_evaluateJobStatus {job : Job}
    (hs : jobSucceeded job = true →
      .workloadAvailable ∈ fp.conditions ∧ .workloadConverged ∈ fp.conditions)
    (hf : fp.failureDetails = true) (hr : "JobRunning" ∈ fp.reasons) (hv : fp.fails = true) :
    Has fp (evaluateJobStatus env job) := by
  unfold evaluateJobStatus
  split
  · next hSucceeded =>
    obtain ⟨ha, hc⟩ := hs hSucceeded
    exact .bind has_recordRun fun _ =>
      .bind (has_clearFailureDetails hf) fun _ =>
      .bind (has_setCondition hc) fun _ =>
      .bind (has_setCondition ha) fun _ => .pure
  · refine .bind has_resource fun resource => ?_
    split
    · exact .bind has_recordRun fun _ =>
        .bind (has_capturePodFailureDetailsOnce hf) fun _ =>
        .bind (has_reportFailed hv) fun _ => .pure
    · refine .bind (has_capturePodFailureDetailsOnce hf) fun _ =>
        .bind (has_reportNotReady hr) fun _ =>
        .bind has_resource fun resource => ?_
      split
      · exact .pure
      · exact .pure

theorem has_reconcileJob : Has jobFootprint (reconcileJob env) := by
  refine .bind has_resource fun resource =>
    .bind has_getObject fun existing => ?_
  split
  · exact .bind (has_applyJob (by decide)) fun _ =>
      .bind has_reportNotReady fun _ => .pure
  · split
    · exact .bind has_delete fun _ =>
        .bind has_reportNotReady fun _ => .pure
    · exact has_evaluateJobStatus (fun _ => by decide) rfl (by decide) rfl

theorem has_applyCronJob (h : .cronJob ∈ fp.objects) : Has fp (applyCronJob env) := by
  refine .bind has_resource fun resource =>
    .bind (Has.of_reads (reads_getVolumeMountInfoMap env)) fun volumeMountInfo =>
    .bind (Has.of_reads (reads_getImageForResource env)) fun image =>
    has_createOrUpdate h fun cj => ?_
  exact .bind (Has.of_reads (reads_resolveAndSetImagePullSecret env _ _)) fun _ =>
    has_controlled

theorem reads_latestCompletedChildJob {cj : CronJob} :
    ReadsOnly (latestCompletedChildJob env cj) := by
  refine .bind reads_resource fun resource =>
    .bind (reads_listObjects).attempt fun result => ?_
  split
  · exact .pure
  · exact .pure

theorem has_recordLatestRun (h : fp.failureDetails = true) {latest : Job} :
    Has fp (recordLatestRun env latest) := by
  refine .bind has_modifyStatus fun _ => ?_
  split
  · exact has_clearFailureDetails h
  · exact has_capturePodFailureDetailsOnce h

theorem has_evaluateCronJobStatus (cj : CronJob) :
    Has { cronJobFootprint with objects := [] } (evaluateCronJobStatus env cj) := by
  refine .bind has_setCondition fun _ =>
    .bind has_setCondition fun _ =>
    .bind has_modifyStatus fun _ => .bind (Has.of_reads reads_latestCompletedChildJob)
      fun latest => ?_
  split
  · exact .pure
  · exact .bind (has_recordLatestRun rfl) fun _ => .pure

theorem has_reconcileCronJob : Has cronJobFootprint (reconcileCronJob env) :=
  .bind (has_applyCronJob (by decide)) fun cj =>
    (has_evaluateCronJobStatus cj).widen

end

/-! ## The last run

A child Job that succeeded has a completion time. One that failed has none: when it
finished is the transition time of its Failed condition, which the code never reads. -/

section

variable (failedAt : Job → Int) {env : Env}

def finishedAt (job : Job) : Option Int :=
  match job.status.completionTime with
  | some t => some t.wall
  | none => (failedCondition job).map fun _ => failedAt job

def LastSucceeded (jobs : List Job) : Prop :=
  ∃ job ∈ jobs, ∃ t ∈ job.status.completionTime,
    ∀ other ∈ jobs, ∀ t' ∈ finishedAt failedAt other, t' ≤ t.wall

def FailedSince (jobs : List Job) : Prop :=
  ∃ failed ∈ jobs, failed.status.completionTime = none ∧ ∃ t' ∈ finishedAt failedAt failed,
    ∀ job ∈ jobs, ∀ t ∈ job.status.completionTime, t.wall < t'

def childJobs (w : World) (cj : CronJob) : List Job :=
  (w.cluster.jobs.filter fun job => decide (job.metadata.ns = w.resource.metadata.ns)).filter
    fun job => isControlledBy job.metadata cj.metadata

variable (env) in
/-- The run in which the pass looks for the last run and finds a success. -/
def SeesSuccess (w : World) (cj : CronJob) : Prop :=
  env.fault w.calls = none ∧ ∃ job ∈ childJobs w cj, job.status.completionTime ≠ none

/-- None of the Jobs completed, or the given one did and none of them later. -/
def IsLatest (jobs : List Job) : Option Job → Prop
  | none => ∀ job ∈ jobs, job.status.completionTime = none
  | some latest => latest ∈ jobs ∧ ∃ t, latest.status.completionTime = some t ∧
      ∀ job ∈ jobs, ∀ t' ∈ job.status.completionTime, t'.wall ≤ t.wall

theorem isLatest_laterCompleted {jobs : List Job} {latest : Option Job} {job : Job}
    (h : IsLatest jobs latest) : IsLatest (jobs ++ [job]) (laterCompleted latest job) := by
  cases hTime : job.status.completionTime with
  | none =>
    -- A Job without a completion time changes nothing.
    simp only [laterCompleted, hTime]
    cases latest with
    | none => exact List.forall_mem_append.mpr ⟨h, by simp [hTime]⟩
    | some latest =>
      obtain ⟨hMem, t, hAt, hMax⟩ := h
      exact ⟨by simp [hMem], t, hAt, List.forall_mem_append.mpr ⟨hMax, by simp [hTime]⟩⟩
  | some t1 =>
    cases latest with
    | none =>
      simp only [laterCompleted, hTime]
      refine ⟨by simp, t1, hTime,
        List.forall_mem_append.mpr ⟨fun other hOther => ?_, by simp [hTime]⟩⟩
      simp [h other hOther]
    | some latest =>
      obtain ⟨hMem, t, hAt, hMax⟩ := h
      simp only [laterCompleted, hTime, hAt]
      split
      · next hLater =>
        refine ⟨by simp, t1, hTime, List.forall_mem_append.mpr
          ⟨fun other hOther t' h => ?_, by simp [hTime]⟩⟩
        exact (hMax other hOther t' h).trans hLater.le
      · next hEarlier =>
        refine ⟨by simp [hMem], t, hAt, List.forall_mem_append.mpr ⟨hMax, ?_⟩⟩
        simpa [hTime] using hEarlier

theorem isLatest_foldl (jobs : List Job) : ∀ {done : List Job} {latest : Option Job},
    IsLatest done latest → IsLatest (done ++ jobs) (jobs.foldl laterCompleted latest) := by
  induction jobs with
  | nil => simp
  | cons job rest ih =>
    intro done latest h
    rw [List.append_cons]
    exact ih (isLatest_laterCompleted h)

theorem isLatest_latest (jobs : List Job) : IsLatest jobs (jobs.foldl laterCompleted none) :=
  @isLatest_foldl jobs [] none (by simp [IsLatest])

/-- With a success among the Jobs, the last one succeeded unless one failed since. -/
theorem lastSucceeded_iff {jobs : List Job} {latest : Job}
    (h : IsLatest jobs (some latest)) :
    LastSucceeded failedAt jobs ↔ ¬ FailedSince failedAt jobs := by
  constructor
  · rintro ⟨job, hJob, t, hAt, hLast⟩ ⟨failed, hFailed, _, t', hFinished, hSince⟩
    have hBefore := hLast failed hFailed t' hFinished
    have hAfter := hSince job hJob t hAt
    omega
  · intro hSince
    obtain ⟨hMem, t, hAt, hMax⟩ := h
    refine ⟨latest, hMem, t, hAt, fun other hOther t' hFinished => ?_⟩
    cases hTime : other.status.completionTime with
    | some t1 =>
      simp only [finishedAt, hTime, Option.mem_some_iff] at hFinished
      exact hFinished ▸ hMax other hOther t1 hTime
    | none =>
      by_contra hLater
      refine hSince ⟨other, hOther, hTime, t', hFinished, fun job hJob t1 hCompleted => ?_⟩
      have hLatest := hMax job hJob t1 hCompleted
      omega

theorem latestCompletedChildJob_spec (cj : CronJob) (w : World) :
    Achieves (· = w) (latestCompletedChildJob env cj) fun latest w' =>
      latest = (if env.fault w.calls = none then (childJobs w cj).foldl laterCompleted none
        else none) ∧ Reads w w' := by
  refine .after rfl ?_
  cases hFault : env.fault w.calls with
  | none =>
    refine .after (attempt_of_ok (bind_of_ok (call_eq_ok hFault))) (.ret ?_)
    exact ⟨by simp [childJobs]; rfl, _, rfl⟩
  | some e =>
    refine .after (attempt_of_error (bind_of_error (call_eq_error hFault))) (.ret ?_)
    exact ⟨rfl, _, rfl⟩

theorem evaluateCronJobStatus_records (env : Env) {cj : CronJob} {w : World}
    (hCompleted : ∀ job ∈ childJobs w cj,
      job.status.completionTime ≠ none → jobSucceeded job = true) :
    Ensures (· = w) (evaluateCronJobStatus env cj) fun w' =>
      (SeesSuccess env w cj ∧ w'.resource.status.lastRunSucceeded = some true) ∨
      (¬ SeesSuccess env w cj ∧
        w'.resource.status.lastRunSucceeded = w.resource.status.lastRunSucceeded) := by
  have hLatest := isLatest_latest (childJobs w cj)
  -- the three writes before the lookup do not touch the last run
  refine .after rfl (.after rfl (.after rfl (.bind
    ((latestCompletedChildJob_spec cj _).onError fun _ h => h.elim) fun latest => ?_)))
  rintro _ ⟨hFound, calls, rfl⟩
  change latest = if env.fault w.calls = none then (childJobs w cj).foldl laterCompleted none
    else none at hFound
  -- no completed Job, or the lookup has failed
  cases latest with
  | none =>
    refine .inr ⟨?_, rfl⟩
    rintro ⟨hFault, job, hJob, hCompletion⟩
    rw [if_pos hFault] at hFound
    rw [← hFound] at hLatest
    exact hCompletion (hLatest job hJob)
  | some latest =>
    by_cases hFault : env.fault w.calls = none
    · rw [if_pos hFault] at hFound
      rw [← hFound] at hLatest
      obtain ⟨hMem, t, hAt, _⟩ := hLatest
      have hCompletion : latest.status.completionTime ≠ none := by simp [hAt]
      have hSucceeded := hCompleted latest hMem hCompletion
      have hSees : SeesSuccess env w cj := ⟨hFault, latest, hMem, hCompletion⟩
      simp only [recordLatestRun, hSucceeded]
      exact .inl ⟨hSees, rfl⟩
    · rw [if_neg hFault] at hFound
      cases hFound

/-- The recorded outcome is that of the last run exactly if no child failed since the last success,
where the pass sees a success, and if the outcome recorded before is, where it sees none. -/
theorem lastRunSucceeded_exact_iff (env : Env) (cj : CronJob) (w : World)
    (hCompleted : ∀ job ∈ childJobs w cj,
      job.status.completionTime ≠ none → jobSucceeded job = true) :
    ((finalState (evaluateCronJobStatus env cj w)).resource.status.lastRunSucceeded = some true ↔
        LastSucceeded failedAt (childJobs w cj)) ↔
      (SeesSuccess env w cj → ¬ FailedSince failedAt (childJobs w cj)) ∧
      (¬ SeesSuccess env w cj → (w.resource.status.lastRunSucceeded = some true ↔
        LastSucceeded failedAt (childJobs w cj))) := by
  have hRun := (evaluateCronJobStatus_records env hCompleted).reached rfl
  generalize finalState (evaluateCronJobStatus env cj w) = w' at hRun ⊢
  rcases hRun with ⟨hSees, hRecorded⟩ | ⟨hUnseen, hKept⟩
  · have hLatest := isLatest_latest (childJobs w cj)
    cases hFold : (childJobs w cj).foldl laterCompleted none with
    | none =>
      rw [hFold] at hLatest
      obtain ⟨_, job, hJob, hCompletion⟩ := hSees
      exact absurd (hLatest job hJob) hCompletion
    | some latest =>
      rw [hFold] at hLatest
      simp [hRecorded, hSees, lastSucceeded_iff failedAt hLatest]
  · simp [hKept, hUnseen]

def nightly : CronJob where
  metadata := { name := "nightly", uid := "n" }
  spec := {}
  status := {}

def nightlyRun (status : JobStatus) : Job where
  metadata := { name := "nightly-run", ownerReferences := [{ uid := "n", controller := true }] }
  spec := {}
  status := status

def goodRun : Job := nightlyRun { succeeded := 1, completionTime := some ⟨10, none⟩ }

def badRun : Job := nightlyRun { conditions := [{ type := .failed, status := .conditionTrue }] }

theorem recovered_run_recorded :
    (finalState (evaluateCronJobStatus ObjectPass.quietEnv nightly
        (ObjectPass.worldOf { jobs := [badRun, goodRun] }))).resource.status.lastRunSucceeded =
      some true ↔
    LastSucceeded (fun _ => 5) [badRun, goodRun] := by
  refine (lastRunSucceeded_exact_iff (fun _ => 5) _ nightly
    (ObjectPass.worldOf { jobs := [badRun, goodRun] }) (by decide)).mpr
      ⟨fun _ => ?_, fun hUnseen => ?_⟩
  · unfold FailedSince
    decide
  · refine absurd ⟨rfl, ?_⟩ hUnseen
    decide

/-- A failure after a success is not: a failed Job has no completion time, so the run before it is
taken for the last one. -/
theorem failed_run_not_recorded :
    (finalState (evaluateCronJobStatus ObjectPass.quietEnv nightly
        (ObjectPass.worldOf { jobs := [goodRun, badRun] }))).resource.status.lastRunSucceeded =
      some true ∧
    ¬ LastSucceeded (fun _ => 20)
      (childJobs (ObjectPass.worldOf { jobs := [goodRun, badRun] }) nightly) := by
  refine ⟨rfl, ?_⟩
  unfold LastSucceeded
  decide

end

end ClusterAgent.Workload
