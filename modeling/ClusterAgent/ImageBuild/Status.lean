import ClusterAgent.ImageBuild.Follow

/-!
# Cluster agent — what a pass does to an ImageBuild's status

Each exit of the build either leaves the status open (it writes at most a
condition that is not terminal) or ends the build: one terminal condition, the
phase that goes with it and, for a success, the image reference.

* `StatusChange` — the exits of `reconcileImageBuild`, in one inductive type;
* `left_reconcileImageBuild` — every success of it is one of them;
* `BuildPassed` — everything a pass may do to the stored builds and the images.
-/

namespace ClusterAgent.ImageBuildController

open Pass Effect Conditions

/-! ## The change -/

inductive Ending where
  | success
  | failure
  | cancellation
  deriving DecidableEq, Repr

def Ending.condition : Ending → BuildStatusCondition
  | .success => .available
  | .failure => .failed
  | .cancellation => .cancelled

def Ending.phase : Ending → BuildPhase
  | .success => .success
  | .failure => .failed
  | .cancellation => .cancelled

theorem imageAt_ne_empty (host : String) (b : ImageBuild) : imageAt host b ≠ "" := by
  intro h
  have hLength := congrArg String.length h
  unfold imageAt ResolvedRepository.reference at hLength
  simp only [String.length_append] at hLength
  have hSlash : "/".length = 1 := rfl
  have hEmpty : "".length = 0 := rfl
  omega

/-- The hosts a build succeeds at, in a cluster; a cancelled build does not. -/
def PushesTo (env : Env) (c : Cluster) (b : ImageBuild) (host : String) : Prop :=
  b.spec.cancelled = false ∧ HostAt env c b.spec.repository host

/-- The reference the status has if the build ends so, with `H` the hosts it may succeed
at. -/
inductive EndsAt (H : String → Prop) (b : ImageBuild) : Ending → String → Prop
  | success (host : String) (hHost : H host) : EndsAt H b .success (imageAt host b)
  | failure : EndsAt H b .failure b.status.imageUrl
  | cancellation : EndsAt H b .cancellation b.status.imageUrl

inductive StatusChange (H : String → Prop) (b : ImageBuild) (s : ImageBuildStatus) : Prop
  | kept (hConds : s.conditions = b.status.conditions) (hPhase : s.phase = b.status.phase)
      (hUrl : s.imageUrl = b.status.imageUrl)
  | underWay (now : Int) (cond : Condition BuildStatusCondition)
      (hOpen : cond.type = .buildJobCreated ∨ cond.status ≠ .conditionTrue)
      (hConds : s.conditions = setStatusCondition now b.status.conditions cond)
      (hPhase : s.phase = b.status.phase) (hUrl : s.imageUrl = b.status.imageUrl)
  | ended (now : Int) (cond : Condition BuildStatusCondition) (ending : Ending)
      (hType : cond.type = ending.condition) (hTrue : cond.status = .conditionTrue)
      (hConds : s.conditions = setStatusCondition now b.status.conditions cond)
      (hPhase : s.phase = ending.phase) (hUrl : EndsAt H b ending s.imageUrl)

structure Changed (H : String → Prop) (b b' : ImageBuild) : Prop where
  metadata : b'.metadata = b.metadata
  spec : b'.spec = b.spec
  status : StatusChange H b b'.status

def Left (env : Env) (H : String → Prop) (b : ImageBuild) (s₀ s : Session BuildOwn) : Prop :=
  Follows env b s₀ s ∧ Changed H b s.own.build

theorem pure_left {env : Env} {H : String → Prop} {s₀ : Session BuildOwn} {b b' : ImageBuild}
    {α : Type} {a : α} (h : Changed H b b') :
    Triple (Holds env b s₀ b') (pure a : BuildPass α) (fun _ => Left env H b s₀)
      (Follows env b s₀) := by
  rintro s ⟨rfl, hs⟩
  exact ⟨hs, h⟩

/-! ## The exits -/

section

variable {env : Env} {s₀ : Session BuildOwn} {b : ImageBuild} {H : String → Prop}

theorem holds_resolveBuildArg (arg : BuildArg) :
    Triple (Holds env b s₀ b) (resolveBuildArg env arg) (fun _ => Holds env b s₀ b)
      (Follows env b s₀) := by
  unfold resolveBuildArg
  split
  · exact .skip
  · refine bind_getBuild (bind_reads (reads_getObject).attempt fun result => ?_)
    split
    · exact throw_holds
    · exact bind_modifyBuild throw_holds
    · split
      · exact bind_modifyBuild throw_holds
      · exact .skip

theorem holds_resolveBuildArgs (args : List BuildArg) :
    Triple (Holds env b s₀ b) (resolveBuildArgs env args) (fun _ => Holds env b s₀ b)
      (Follows env b s₀) := by
  induction args with
  | nil => exact .skip
  | cons arg rest ih =>
    exact .bind (holds_resolveBuildArg arg) fun _ =>
      .bind ih fun _ => .skip

theorem changed_report {b' : ImageBuild} {condition : BuildStatusCondition}
    {value : ConditionStatus} {reason : String} (hOpen : value ≠ .conditionTrue)
    (hMetadata : b'.metadata = b.metadata) (hSpec : b'.spec = b.spec)
    (hConds : b'.status.conditions = b.status.conditions)
    (hPhase : b'.status.phase = b.status.phase) (hUrl : b'.status.imageUrl = b.status.imageUrl) :
    Changed H b (reportImageBuildStatus env condition value reason b') := by
  have hSet : (reportImageBuildStatus env condition value reason b').status.conditions =
      setStatusCondition env.clock.wall b.status.conditions
        { type := condition, status := value, observedGeneration := b'.generation
          reason := reason, message := reason } := by
    rw [← hConds]
    rfl
  refine ⟨hMetadata, hSpec, .underWay _ _ ?_ hSet hPhase hUrl⟩
  exact Or.inr hOpen

theorem changed_failed {b' : ImageBuild} {reason : String}
    (hMetadata : b'.metadata = b.metadata) (hSpec : b'.spec = b.spec)
    (hConds : b'.status.conditions = b.status.conditions)
    (hUrl : b'.status.imageUrl = b.status.imageUrl) :
    Changed H b (setPhase .failed
      (reportImageBuildStatus env .failed .conditionTrue reason b')) := by
  have hSet : (setPhase .failed
      (reportImageBuildStatus env .failed .conditionTrue reason b')).status.conditions =
      setStatusCondition env.clock.wall b.status.conditions
        { type := .failed, status := .conditionTrue, observedGeneration := b'.generation
          reason := reason, message := reason } := by
    rw [← hConds]
    rfl
  refine ⟨hMetadata, hSpec, .ended _ _ .failure ?_ ?_ hSet rfl ?_⟩
  · rfl
  · rfl
  · show EndsAt H b .failure b'.status.imageUrl
    rw [hUrl]
    exact .failure

theorem left_reconcileBuildJob {desiredJob : Job} {params : BuildParams} {host : String}
    (hJob : BuildJob env s₀.world.cluster b desiredJob)
    (hUrl : params.imageUrl = imageAt host b) (hHost : H host) :
    Triple (Holds env b s₀ b) (reconcileBuildJob env desiredJob params)
      (fun _ => Left env H b s₀) (Follows env b s₀) := by
  refine bind_reads reads_getObject fun result => ?_
  -- no Job yet: create it and report Created, which no ending shows
  cases result with
  | none =>
    refine .bind (R := fun _ => Left env H b s₀) ?_ fun _ => .skip
    refine bind_jobStep (V := fun _ => True) (fun w hw => ?_) fun _ _ => ?_
    · have hJob' := hJob.congr (clusterRegistries_of_touches hw.touches)
      exact (jobStep_create hJob').post fun _ _ h => ⟨trivial, h⟩
    · rintro s ⟨rfl, hs⟩
      exact ⟨⟨hs.world, hs.images⟩, rfl, rfl, .underWay _ _ (Or.inl rfl) rfl rfl rfl⟩
  -- the Job's own status decides between success, failure and still running
  | some existingJob =>
    refine bind_getBuild ?_
    split
    · refine bind_modifyBuild (bind_modifyBuild (pure_left ?_))
      refine ⟨rfl, rfl, .ended _ _ .success rfl rfl rfl rfl ?_⟩
      show EndsAt H b .success params.imageUrl
      rw [hUrl]
      exact .success host hHost
    -- the failure detail is looked up without failing the pass
    · have hDetail := (reads_getBuildFailureDetail env b existingJob).attempt
      split
      · refine bind_reads hDetail fun detail => ?_
        split
        · exact bind_modifyBuild (bind_modifyBuild (bind_modifyBuild (
            pure_left (changed_failed rfl rfl rfl rfl))))
        · exact bind_modifyBuild (bind_modifyBuild (
            pure_left (changed_failed rfl rfl rfl rfl)))
      · split
        · refine bind_reads hDetail fun detail => ?_
          split
          · exact bind_modifyBuild (bind_modifyBuild (
              pure_left (changed_report (by decide) rfl rfl rfl rfl rfl)))
          · exact bind_modifyBuild (
              pure_left (changed_report (by decide) rfl rfl rfl rfl rfl))
        · exact bind_modifyBuild (
            pure_left (changed_report (by decide) rfl rfl rfl rfl rfl))

theorem jobStep_resolveDestination {w : World} (hw : JobStep env b s₀.world w) :
    Triple (· = w) (attempt (resolveDestination env b))
      (fun result w' => (∀ r, result = .ok r → r.reference = imageAt r.host b ∧
        HostAt env s₀.world.cluster b.spec.repository r.host) ∧ JobStep env b w w')
      (JobStep env b w) := by
  have hReads : Ensures (· = w) (attempt (resolveDestination env b)) (Reads w) := by
    exact (reads_resolveImageRepository env).attempt.leads w
  have hValue : Returns (· = w) (attempt (resolveDestination env b))
      (fun result _ => ∀ r, result = .ok r → r.reference = imageAt r.host b ∧
        HostAt env s₀.world.cluster b.spec.repository r.host) := by
    refine (resolveImageRepository_spec env _ _ w).attempt.post ?_
    rintro result w' hResult r rfl
    obtain ⟨hRepository, hTag, hHost⟩ := hResult
    refine ⟨?_, hHost.congr env (clusterRegistries_of_touches hw.touches).symm⟩
    unfold imageAt ResolvedRepository.reference
    rw [hRepository, hTag]
  exact (hValue.and hReads).conseq (fun _ _ h => ⟨h.1, jobStep_of_reads h.2⟩)
    fun _ h => jobStep_of_reads h.2

theorem buildJob_generate {c : Cluster} {params : BuildParams} {job : Job} {metadata : ObjectMeta}
    {host : String} (hGenerated : generateImageBuildJob env params = .ok job)
    (hRef : setControllerReference b.metadata "ImageBuild" (setBuildJobAnnotations b job).metadata =
      some metadata)
    (hNs : params.ns = b.metadata.ns) (hName : params.jobName = buildJobName env.jobInputsHash b)
    (hUrl : params.imageUrl = imageAt host b) (hHost : HostAt env c b.spec.repository host) :
    BuildJob env c b { setBuildJobAnnotations b job with metadata := metadata } := by
  obtain ⟨hMetadata, hDestination⟩ := generateImageBuildJob_spec hGenerated
  obtain ⟨refs, rfl⟩ := setControllerReference_eq hRef
  refine ⟨?_, ?_, host, hHost, hUrl ▸ hDestination⟩
  · show job.metadata.ns = b.metadata.ns
    rw [hMetadata, hNs]
  · show job.metadata.name = _
    rw [hMetadata, hName]

theorem left_buildFromSource {source : BuildSource}
    (hH : ∀ host, HostAt env s₀.world.cluster b.spec.repository host → H host) :
    Triple (Holds env b s₀ b) (buildFromSource env source) (fun _ => Left env H b s₀)
      (Follows env b s₀) := by
  refine bind_getBuild (bind_reads (reads_getRegistryAuthSecrets env b) fun secrets => ?_)
  refine .bind (holds_resolveBuildArgs b.spec.buildArgs) fun args => ?_
  refine bind_jobStep (fun w hw => jobStep_resolveDestination hw) fun result hResult => ?_
  -- a registry that is not ready is waited for; any other error fails the pass
  cases result with
  | error e =>
    dsimp only
    split
    · exact bind_modifyBuild (pure_left (changed_report (by decide) rfl rfl rfl rfl rfl))
    · exact bind_modifyBuild throw_holds
  | ok resolved =>
    obtain ⟨hUrl, hHost⟩ := hResult resolved rfl
    dsimp only
    split
    · exact throw_holds
    · next job hGenerated =>
      split
      · exact throw_holds
      · next metadata hRef =>
        have hJob := buildJob_generate hGenerated hRef rfl rfl hUrl hHost
        exact left_reconcileBuildJob hJob hUrl (hH _ hHost)

theorem left_reconcileCancellation :
    Triple (Holds env b s₀ b) (reconcileCancellation env) (fun _ => Left env H b s₀)
      (Follows env b s₀) := by
  refine bind_getBuild (bind_reads (reads_listObjects).attempt fun jobs => ?_)
  cases jobs with
  | error e => exact throw_holds
  | ok jobs =>
    refine bind_within (Within.forAll fun job => .bind (jobStep_delete job).attempt
      fun r => ?_).attempt
      fun deleted => bind_modifyBuild (bind_modifyBuild ?_)
    · cases r with
      | ok _ => exact .pure
      | error e => exact .throw
    · cases deleted with
      | error e => exact throw_holds
      | ok _ => exact pure_left ⟨rfl, rfl, .ended _ _ .cancellation rfl rfl rfl rfl .cancellation⟩

/-- **The exits of the build.** A terminal build is left alone, and every success on
another one is a `StatusChange`. -/
theorem left_reconcileImageBuild :
    Triple (Holds env b s₀ b) (reconcileImageBuild env)
      (fun _ s => Follows env b s₀ s ∧
        if imageBuildInTerminalState b then s.own.build = b
        else Changed (PushesTo env s₀.world.cluster b) b s.own.build)
      (Follows env b s₀) := by
  refine bind_getBuild ?_
  -- an ended build is left alone, before the cancellation is looked at
  split
  · exact .pure fun s hs => ⟨hs.2, hs.1⟩
  · split
    · exact left_reconcileCancellation
    · next hNot =>
      have hPushes : ∀ host, HostAt env s₀.world.cluster b.spec.repository host →
          PushesTo env s₀.world.cluster b host := fun host hHost => ⟨by simpa using hNot, hHost⟩
      split
      · exact throw_holds
      -- the sources: a Git repository with its revision, or a Volume that is available
      · split
        · refine bind_getBuild ?_
          split
          · exact left_buildFromSource hPushes
          · exact bind_modifyBuild (bind_modifyBuild (
              pure_left (changed_failed rfl rfl rfl rfl)))
        · refine bind_getBuild (bind_reads reads_mustGet fun volume => ?_)
          split
          · exact bind_modifyBuild (
              pure_left (changed_report (by decide) rfl rfl rfl rfl rfl))
          · split
            · exact bind_modifyBuild (
                pure_left (changed_report (by decide) rfl rfl rfl rfl rfl))
            · exact left_buildFromSource hPushes
        · exact throw_holds

end

end ClusterAgent.ImageBuildController
