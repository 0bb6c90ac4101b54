import ClusterAgent.StackResource.AroundKind
import ClusterAgent.StackResource.WorkloadStep

/-!
# Cluster agent — a pass over a Job

A pass reads the Job stored under the resource's name, if there is one, and
creates, keeps or deletes it. Its availability condition is True afterwards if it
was before, or if the Job it found has succeeded; and only a success is found
without a verdict.

* `JobPass` — what the chain may have done by any point, also when it fails there;
* `reconcileJob_step` — the Job step keeps to it, and what it does to the Jobs;
* `jobPassed_reconcile` — a whole pass, whatever its outcome.
-/

namespace ClusterAgent.StackResourceController

open Pass Effect
open Workload (jobSucceeded jobFinished jobOutdated reconcileJob evaluateJobStatus applyJob
  desiredJob domainConditionTrue_of_touches)

/-! ## The Job of a resource -/

def jobRevision (job : Job) : String := job.metadata.annotations.get revisionAnnotationKey

def jobsOf (ns name : String) (c : Cluster) : List Job := c.jobs.filter (hasKey ns name)

/-- What happened to them between two clusters: each was there before with the same
revision and status, or there was none and each is new. -/
inductive JobsAfter (ns name revision : String) (c c' : Cluster) : Prop
  | kept (h : ∀ job' ∈ jobsOf ns name c', ∃ job ∈ jobsOf ns name c,
      jobRevision job' = jobRevision job ∧ job'.status = job.status)
  | created (hNone : jobsOf ns name c = [])
      (h : ∀ job' ∈ jobsOf ns name c', jobRevision job' = revision ∧ job'.status = {})

/-- The stored Job has succeeded, and the pass does not take it for a finished one of
another revision. -/
def SuccessFound (ns name : String) (w : World) : Prop :=
  ∃ job ∈ jobsOf ns name w.cluster,
    jobSucceeded job = true ∧ jobOutdated w.resource job = false

/-- What a pass that started its chain in `w₀` may have done by the time it is in `w`: to the Job,
and to WorkloadAvailable, which is only set over a success it has found. -/
structure JobPass (ns name : String) (w₀ w : World) : Prop where
  jobs : JobsAfter ns name w₀.resource.revision w₀.cluster w.cluster
  available : domainConditionTrue w.resource .workloadAvailable = true →
    domainConditionTrue w₀.resource .workloadAvailable = true ∨ SuccessFound ns name w₀

/-- A pass that, without a verdict, has found a success. -/
def JobJudged (ns name : String) (w₀ w : World) : Prop :=
  JobPass ns name w₀ w ∧ (w.verdicts.Empty → SuccessFound ns name w₀)

theorem jobsOf_eq_of_jobs {c c' : Cluster} (h : c'.jobs = c.jobs) (ns name : String) :
    jobsOf ns name c' = jobsOf ns name c := by
  unfold jobsOf
  rw [h]

theorem jobsAfter_of_jobs {c c' : Cluster} (h : c'.jobs = c.jobs) {ns name revision : String} :
    JobsAfter ns name revision c c' :=
  .kept fun job hJob => ⟨job, jobsOf_eq_of_jobs h ns name ▸ hJob, rfl, rfl⟩

theorem JobsAfter.of_jobs {ns name revision : String} {c c' c'' : Cluster}
    (h : JobsAfter ns name revision c c') (hJobs : c''.jobs = c'.jobs) :
    JobsAfter ns name revision c c'' := by
  have hSame := jobsOf_eq_of_jobs hJobs ns name
  cases h with
  | kept hKept => exact .kept fun job' hJob' => hKept job' (hSame ▸ hJob')
  | created hNone hNew => exact .created hNone fun job' hJob' => hNew job' (hSame ▸ hJob')

/-- Steps that touch neither the Job nor WorkloadAvailable. -/
structure BesideJob (fp : Footprint) : Prop where
  job : .job ∉ fp.objects
  available : .workloadAvailable ∉ fp.conditions

section

variable {ns name : String} {w₀ w w' : World} {fp : Footprint}

theorem JobPass.of_touches (hfp : BesideJob fp) (h : Touches fp w₀ w) :
    JobPass ns name w₀ w where
  jobs := jobsAfter_of_jobs (h.objects .job hfp.job)
  available ha := Or.inl ((domainConditionTrue_of_touches h hfp.available).symm.trans ha)

theorem JobJudged.touches (hfp : BesideJob fp) (hPass : JobJudged ns name w₀ w)
    (h : Touches fp w w') : JobJudged ns name w₀ w' := by
  refine ⟨⟨hPass.1.jobs.of_jobs (h.objects .job hfp.job), fun ha => ?_⟩, fun hEmpty => ?_⟩
  · rw [domainConditionTrue_of_touches h hfp.available] at ha
    exact hPass.1.available ha
  · exact hPass.2 (Classical.byContradiction fun hn => h.verdicts.not_empty hn hEmpty)

theorem SuccessFound.of_touches (hfp : BesideJob fp) (h : Touches fp w₀ w)
    (hFound : SuccessFound ns name w) : SuccessFound ns name w₀ := by
  obtain ⟨job, hJob, hSucceeded, hCurrent⟩ := hFound
  rw [jobsOf_eq_of_jobs (h.objects .job hfp.job)] at hJob
  refine ⟨job, hJob, hSucceeded, ?_⟩
  unfold jobOutdated StackResource.revision at hCurrent ⊢
  rw [h.metadata] at hCurrent
  exact hCurrent

theorem JobPass.after_touches (hfp : BesideJob fp) (h : Touches fp w₀ w)
    (hPass : JobPass ns name w w') : JobPass ns name w₀ w' where
  jobs := by
    have hSame := jobsOf_eq_of_jobs (h.objects .job hfp.job) ns name
    have hRevision : w.resource.revision = w₀.resource.revision := by
      unfold StackResource.revision
      rw [h.metadata]
    cases hPass.jobs with
    | kept hKept => exact .kept fun job' hJob' => hSame ▸ hKept job' hJob'
    | created hNone hNew =>
      exact .created (hSame ▸ hNone) fun job' hJob' => hRevision ▸ hNew job' hJob'
  available ha := by
    rw [← domainConditionTrue_of_touches h hfp.available]
    exact (hPass.available ha).imp_right (.of_touches hfp h)

theorem JobJudged.after_touches (hfp : BesideJob fp) (h : Touches fp w₀ w)
    (hPass : JobJudged ns name w w') : JobJudged ns name w₀ w' :=
  ⟨hPass.1.after_touches hfp h, fun hEmpty => (hPass.2 hEmpty).of_touches hfp h⟩

end

/-! ## The Job step -/

section

variable (env : Env) {ns name : String} {w : World}

theorem besideJob_empty : BesideJob {} := ⟨by decide, by decide⟩

theorem jobPass_of_reads {w' : World} (h : Reads w w') : JobPass ns name w w' :=
  .of_touches besideJob_empty h.touches

theorem jobsOf_of_lookup {resource : StackResource} {c : Cluster}
    (hKey : isResource ns name resource = true)
    (h : lookup .job c resource.metadata.ns (Workload.getWorkloadNameForResource resource) = none) :
    jobsOf ns name c = [] := by
  obtain ⟨rfl, rfl⟩ := isResource_iff.mp hKey
  refine List.filter_eq_nil_iff.mpr fun job hJob hHas => ?_
  exact List.find?_eq_none.mp h job hJob hHas

theorem mem_jobsOf_of_lookup {resource : StackResource} {c : Cluster} {job : Job}
    (hKey : isResource ns name resource = true)
    (h : lookup .job c resource.metadata.ns (Workload.getWorkloadNameForResource resource) =
      some job) : job ∈ jobsOf ns name c := by
  obtain ⟨rfl, rfl⟩ := isResource_iff.mp hKey
  exact List.mem_filter.mpr ⟨List.mem_of_find?_eq_some h, List.find?_some h⟩

/-- What the step does to the Jobs: those there are kept, perhaps marked for deletion, or
the resource's own was created where there was none. -/
inductive JobWrites (w : World) (c : Cluster) : Prop
  | kept (h : ∀ job' ∈ c.jobs, ∃ job ∈ w.cluster.jobs, SameContent job job' ∧
      job'.metadata.ownerReferences = job.metadata.ownerReferences)
  | created (job : Job)
      (hNone : lookup .job w.cluster w.resource.metadata.ns w.resource.metadata.name = none)
      (hJobs : c.jobs = w.cluster.jobs ++ [job])
      (hTag : ownerTag job.metadata = ownTag w.resource.metadata)
      (hTemplate : RunsImage env w job.spec.template)
      (hRevision : jobRevision job = w.resource.revision) (hStatus : job.status = {})

theorem JobWrites.of_jobs {c : Cluster} (h : c.jobs = w.cluster.jobs) : JobWrites env w c :=
  .kept fun job hJob => ⟨job, h ▸ hJob, .refl job, rfl⟩

theorem JobWrites.jobsAfter {env : Env} {c : Cluster} (hKey : isResource ns name w.resource = true)
    (h : JobWrites env w c) : JobsAfter ns name w.resource.revision w.cluster c := by
  cases h with
  | kept hKept =>
    refine .kept fun job' hJob' => ?_
    obtain ⟨hMem, hHas⟩ := List.mem_filter.mp hJob'
    obtain ⟨x, hx, hSame, -⟩ := hKept job' hMem
    refine ⟨x, List.mem_filter.mpr ⟨hx, hSame.hasKey ns name ▸ hHas⟩, ?_, hSame.status⟩
    unfold jobRevision
    rw [hSame.annotations]
  | created job hNone hJobs hTag _ hRevision hStatus =>
    have hBefore := jobsOf_of_lookup hKey hNone
    refine .created hBefore fun job' hJob' => ?_
    obtain ⟨hMem, hHas⟩ := List.mem_filter.mp hJob'
    rw [hJobs] at hMem
    rcases List.mem_append.mp hMem with hOld | hNew
    · have hOf : job' ∈ jobsOf ns name w.cluster := List.mem_filter.mpr ⟨hOld, hHas⟩
      rw [hBefore] at hOf
      cases hOf
    · rw [List.mem_singleton.mp hNew]
      exact ⟨hRevision, hStatus⟩

/-- What the Job step leaves: without the end of the chain, the Job it has judged. -/
def JobStep (ns name : String) (w : World) (r : SubReconcilerResult) (w' : World) : Prop :=
  JobWrites env w w'.cluster ∧ JobJudged ns name w w' ∧
    (¬ r.EndsChain → jobsOf ns name w'.cluster ≠ [])

def JobStepFailed (ns name : String) (w w' : World) : Prop :=
  JobWrites env w w'.cluster ∧ JobPass ns name w w'

/-- `applyJob` creates the Job of the current revision, where there was none. -/
theorem applyJob_writes :
    Triple (· = w) (applyJob env) (fun _ w' => JobWrites env w w'.cluster) (Reads w) := by
  refine bind_resource (.pre (P := Reads w) ?_ fun _ hw => hw ▸ refl_of Reads w)
  refine .bind ((Workload.reads_getVolumeMountInfoMap env).continues w) fun volumes =>
    .bind (Workload.getImageForResource_spec env _ w) fun image => .of_each ?_
  rintro w1 ⟨hImage, hw1⟩
  refine .bind ((resolveAndSetImagePullSecret_spec env _ _ w).start hw1)
    fun template => .of_each ?_
  rintro w2 ⟨⟨secret, rfl⟩, hw2⟩
  refine .bind (((controlled_spec _ w).and (controlled_ownerTag w)).mono (fun _ h => h ▸ hw2)
    (fun _ _ h => h) fun _ h => h.1) fun job => .of_each ?_
  rintro _ ⟨⟨hJob, calls, rfl⟩, hTag, -⟩
  refine (create_spec env .job job _).conseq ?_ fun w' h => trans_of Reads ⟨calls, rfl⟩ h
  rintro stored w' ⟨hNone, hJobs, hStored⟩
  have hContent := hJob.trans hStored.toSameContent
  rw [hContent.ns, hContent.name] at hNone
  refine .created stored hNone hJobs ?_ ⟨image, hImage, ?_⟩ ?_ hContent.status
  · exact (ownerTag_of_sameContent hStored.toSameContent hStored.ownerReferences).trans hTag
  · rw [hContent.spec]
    exact templateImages_buildPodTemplateSpec env
  · unfold jobRevision
    rw [hContent.annotations]
    rfl

theorem jobJudged_replace {α : Type} {m : Pass α} {r : SubReconcilerResult} {msg : String}
    (hKey : isResource ns name w.resource = true) (hEnds : r.EndsChain)
    (hHas : Has { objects := [.job] } m)
    (hJobs : Triple (· = w) m (fun _ w' => JobWrites env w w'.cluster) (Reads w)) :
    Triple (· = w) (m >>= fun _ => reportNotReady "JobRunning" msg >>= fun _ => pure r)
      (JobStep env ns name w) (JobStepFailed env ns name w) := by
  refine .bind (((hHas.leads (.refl _ w)).and hJobs).conseq (fun _ _ h => h) fun w' h =>
    ⟨.of_jobs env (congrArg Cluster.jobs (cluster_of_reads h.2)), jobPass_of_reads h.2⟩) fun _ => ?_
  rintro w1 ⟨hTouches, hWrites⟩
  exact ⟨hWrites, ⟨⟨hWrites.jobsAfter hKey, fun ha => Or.inl
      ((domainConditionTrue_of_touches hTouches (by decide)).symm.trans ha)⟩,
    fun hEmpty => absurd hEmpty VerdictCollector.reportNotReady_not_empty⟩,
    fun hNot => absurd hEnds hNot⟩

/-- Without success, judging the Job is beside it. -/
def judgingFootprint : Footprint where
  failureDetails := true
  reasons := ["JobRunning"]
  fails := true

theorem reconcileJob_step (hKey : isResource ns name w.resource = true) :
    Triple (· = w) (reconcileJob env) (JobStep env ns name w) (JobStepFailed env ns name w) := by
  have hRead : ∀ w', Reads w w' → JobStepFailed env ns name w w' := fun w' h =>
    ⟨.of_jobs env (congrArg Cluster.jobs (cluster_of_reads h)), jobPass_of_reads h⟩
  refine bind_resource (bind_getObject hRead fun w1 hReads => ?_)
  -- reading the Job changes nothing, so what follows may start from `w1`
  have hWrites : ∀ {c}, JobWrites env w1 c → JobWrites env w c := by
    obtain ⟨calls, rfl⟩ := hReads
    rintro c (hKept | ⟨job, hNone, hJobs, hTag, hTemplate, hRevision, hStatus⟩)
    · exact .kept hKept
    · exact .created job hNone hJobs hTag hTemplate hRevision hStatus
  have hFrom : ∀ {m : Pass SubReconcilerResult},
      Triple (· = w1) m (JobStep env ns name w1) (JobStepFailed env ns name w1) →
      Triple (· = w1) m (JobStep env ns name w) (JobStepFailed env ns name w) := fun h =>
    h.conseq (fun _ _ h => ⟨hWrites h.1, h.2.1.after_touches besideJob_empty hReads.touches, h.2.2⟩)
      fun _ h => ⟨hWrites h.1, h.2.after_touches besideJob_empty hReads.touches⟩
  have hKey1 : isResource ns name w1.resource = true := by
    obtain ⟨calls, rfl⟩ := hReads
    exact hKey
  cases hLookup : lookup .job w.cluster w.resource.metadata.ns
      (Workload.getWorkloadNameForResource w.resource) with
  | none =>
    exact hFrom (jobJudged_replace env hKey1 trivial (Workload.has_applyJob (by decide))
      (applyJob_writes env))
  | some job =>
    have hJob := mem_jobsOf_of_lookup hKey hLookup
    -- judging the Job leaves it where it is
    have hLeft : ∀ {fp w'}, Touches fp w w' → .job ∉ fp.objects →
        JobWrites env w w'.cluster ∧ jobsOf ns name w'.cluster ≠ [] := by
      intro fp w' h hNot
      have hJobs : w'.cluster.jobs = w.cluster.jobs := h.objects .job hNot
      exact ⟨.of_jobs env hJobs, jobsOf_eq_of_jobs hJobs ns name ▸ List.ne_nil_of_mem hJob⟩
    dsimp only
    split
    · exact hFrom (jobJudged_replace env hKey1 trivial has_delete
        ((delete_spec env .job job w1).post fun _ _ => .kept))
    · next hCurrent =>
      cases hSucceeded : jobSucceeded job with
      | false =>
        have hHas : Has judgingFootprint (evaluateJobStatus env job) :=
          Workload.has_evaluateJobStatus (fun h => by rw [hSucceeded] at h; cases h) rfl
            (by decide) rfl
        have hBeside : BesideJob judgingFootprint := ⟨by decide, by decide⟩
        refine ((hHas.leads hReads.touches).and ((Workload.verdict_evaluateJobStatus
          hSucceeded).pre fun _ _ => trivial)).conseq (fun _ w' ⟨h, hVerdict⟩ => ?_)
          fun w' ⟨h, _⟩ => ⟨(hLeft h nofun).1, .of_touches hBeside h⟩
        exact ⟨(hLeft h nofun).1, ⟨.of_touches hBeside h, fun hEmpty => absurd hEmpty hVerdict⟩,
          fun _ => (hLeft h nofun).2⟩
      | true =>
        have hFound : SuccessFound ns name w := ⟨job, hJob, hSucceeded, by simpa using hCurrent⟩
        have hHas : Has { Workload.jobFootprint with objects := [] } (evaluateJobStatus env job) :=
          Workload.has_evaluateJobStatus (fun _ => by decide) rfl (by decide) rfl
        have hPass : ∀ {w'}, Touches { Workload.jobFootprint with objects := [] } w w' →
            JobPass ns name w w' := fun h =>
          ⟨jobsAfter_of_jobs (h.objects .job nofun), fun _ => Or.inr hFound⟩
        exact (hHas.leads hReads.touches).conseq
          (fun _ w' h => ⟨(hLeft h nofun).1, ⟨hPass h, fun _ => hFound⟩,
            fun _ => (hLeft h nofun).2⟩)
          fun w' h => ⟨(hLeft h nofun).1, hPass h⟩

end

/-! ## The pass -/

theorem besideJob_outside : BesideJob outsideFootprint := ⟨by decide, by decide⟩

theorem jobFrame (ns name : String) : KindFrame (JobJudged ns name) (JobPass ns name) where
  fail h := h.1
  before h hJ := hJ.after_touches besideJob_outside h
  before_fail h hF := hF.after_touches besideJob_outside h
  after hJ h := hJ.touches besideJob_outside h
  stopped h hNotEmpty :=
    ⟨.of_touches besideJob_outside h, fun hEmpty => absurd hEmpty hNotEmpty⟩
  failed h := .of_touches besideJob_outside h

/-- Everything a pass does to a Job resource, whatever its outcome: nothing, or the steps
of a `JobPass`, with the derived status stored if it came to that. -/
inductive JobPassed (ns name : String) (w w' : World) : Prop
  | idle (hSame : w'.cluster = w.cluster)
  | ran {r : StackResource} (hLookup : lookupResource w.cluster ns name = some r)
      (hJobs : JobsAfter ns name r.revision w.cluster w'.cluster)
      {r' : StackResource} (hStored : lookupResource w'.cluster ns name = some r')
      (hRevision : r'.revision = r.revision) (hSpec : r'.spec = r.spec)
      (hAvailable : domainConditionTrue r' .workloadAvailable = true →
        domainConditionTrue r .workloadAvailable = true ∨ SuccessFound ns name (started w r))

theorem jobJudged_kind {env : Env} {ns name : String} {w : World} {r : StackResource}
    (hLookup : lookupResource w.cluster ns name = some r) (hJob : r.spec.workloadType = .job) :
    ∀ w', w'.resource.metadata = r.metadata → w'.resource.spec = r.spec →
      Triple (· = w') (Workload.reconcileKind env w'.resource.spec.workloadType)
        (fun _ => JobJudged ns name w') (JobPass ns name w') := by
  intro w' hMetadata hSpec
  rw [hSpec, hJob]
  exact (reconcileJob_step env (isResource_congr hMetadata (List.find?_some hLookup))).conseq
    (fun _ _ h => h.2.1) fun _ h => h.2

theorem jobPassed_reconcile {env : Env} {ns name : String} {w : World}
    (hJob : ∀ r, lookupResource w.cluster ns name = some r → r.spec.workloadType = .job) :
    JobPassed ns name w (finalState (reconcile env ns name w)) := by
  rcases reconcile_around_kind (jobFrame ns name)
    (fun r hLookup => jobJudged_kind hLookup (hJob r hLookup)) with
    hSame | ⟨r, w1, hLookup, hPass, hObjects, hStatus⟩
  · exact .idle hSame
  · have hJobs : JobsAfter ns name r.revision w.cluster
        (finalState (reconcile env ns name w)).cluster := hPass.jobs.of_jobs (hObjects .job)
    rcases hStatus with ⟨-, hStored⟩ | ⟨-, hResult, r', hLookup', hStoredAs, hMetadata, hSpec⟩
    · exact .ran hLookup hJobs hStored rfl rfl Or.inl
    · refine .ran hLookup hJobs hLookup' (by unfold StackResource.revision; rw [hMetadata]) hSpec ?_
      intro ha
      rw [hStoredAs.domainConditionTrue_eq, hResult.domainConditionTrue_eq] at ha
      exact hPass.available ha

end ClusterAgent.StackResourceController
