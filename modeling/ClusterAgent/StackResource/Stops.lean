import ClusterAgent.StackResource.Ready

/-!
# Cluster agent — what a stopped pass says

A pass that ends early says why twice: by its not-ready verdict, and by the state
of the rolled-up summary. The classifier finds the state by precedence among
conditions on the status: a False BuildReady is Building, a False
DependenciesReady is Waiting, a recorded crash is Failed, and the rest is
Deploying. Only the gates of the workload step write these conditions, so a pass
that stops anywhere else is summarized by whatever an earlier pass of the same
generation left there.

`reconcile_stop_iff` says, for each kind of stop, from which stored statuses the
summary names it.
-/

namespace ClusterAgent.StackResourceController

open Pass Effect Conditions
open Workload (FalseNow Through)

/-! ## The classifier under a not-ready verdict -/

/-- A crash of an earlier rollout is on the status. -/
def CrashRecorded (r : StackResource) : Prop :=
  (failureDetail r failureTypeRuntimeCrash).isSome = true

instance (r : StackResource) : Decidable (CrashRecorded r) :=
  inferInstanceAs (Decidable (_ = true))

theorem classify_notReady (r : StackResource) (v : Verdict) :
    (classify r ⟨some v, none⟩).1 =
      if FalseNow r .buildReady then .building
      else if FalseNow r .dependenciesReady then .waiting
      else if CrashRecorded r then .failed
      else .deploying := by
  unfold classify
  dsimp only
  -- the order of the checks: the build, the dependencies, a crash, the rollout
  cases hb : domainCondition r .buildReady .conditionFalse with
  | some b =>
    have hBuild : FalseNow r .buildReady := congrArg Option.isSome hb
    rw [if_pos hBuild]
  | none =>
    have hBuild : ¬ FalseNow r .buildReady := by simp [FalseNow, hb]
    rw [if_neg hBuild]
    cases hd : domainCondition r .dependenciesReady .conditionFalse with
    | some d =>
      have hDeps : FalseNow r .dependenciesReady := congrArg Option.isSome hd
      rw [if_pos hDeps]
    | none =>
      have hDeps : ¬ FalseNow r .dependenciesReady := by simp [FalseNow, hd]
      rw [if_neg hDeps]
      cases hc : failureDetail r failureTypeRuntimeCrash with
      | some c =>
        have hCrash : CrashRecorded r := congrArg Option.isSome hc
        rw [if_pos hCrash]
      | none =>
        have hCrash : ¬ CrashRecorded r := by simp [CrashRecorded, hc]
        rw [if_neg hCrash]

section

variable {r : StackResource} {verdicts : VerdictCollector} {v : Verdict}
  (hn : verdicts.notReady = some v) (hf : verdicts.failed = none)

include hn hf

theorem classify_building_iff : (classify r verdicts).1 = .building ↔ FalseNow r .buildReady := by
  obtain ⟨n, f⟩ := verdicts
  cases hn
  cases hf
  rw [classify_notReady]
  split
  · next hb => simp [hb]
  · next hb =>
    split
    · simp [hb]
    · split <;> simp [hb]

theorem classify_waiting_iff :
    (classify r verdicts).1 = .waiting ↔
      ¬ FalseNow r .buildReady ∧ FalseNow r .dependenciesReady := by
  obtain ⟨n, f⟩ := verdicts
  cases hn
  cases hf
  rw [classify_notReady]
  split
  · next hb => simp [hb]
  · next hb =>
    split
    · next hd => simp [hb, hd]
    · next hd => split <;> simp [hd]

theorem classify_failed_iff :
    (classify r verdicts).1 = .failed ↔
      ¬ FalseNow r .buildReady ∧ ¬ FalseNow r .dependenciesReady ∧ CrashRecorded r := by
  obtain ⟨n, f⟩ := verdicts
  cases hn
  cases hf
  rw [classify_notReady]
  split
  · next hb => simp [hb]
  · next hb =>
    split
    · next hd => simp [hd]
    · next hd =>
      split
      · next hc => simp [hb, hd, hc]
      · next hc => simp [hc]

end

/-! ## Where a chain ends -/

/-- The steps before the workload, as long as no build has failed: no condition and no
failure detail is touched. -/
def earlyFootprint : Footprint where
  objects := [.secret, .imageBuild]
  reasons := RegistryAuth.footprint.reasons ++ ImageBuilds.unfailedFootprint.reasons

/-- What is known of the world a chain that started in `w₀` ended in. -/
def EndedAt (w₀ : World) : ChainEnd → World → Prop
  | .endedBy .registryAuth _, w => Touches earlyFootprint w₀ w
  | .endedBy .imageBuild r, w =>
    Touches earlyFootprint w₀ w ∨
      ∃ w₁, Touches RegistryAuth.footprint w₀ w₁ ∧ ImageBuilds.FailedBuild w₁ r w
  | .endedBy .workload _, w => ∃ w₁, Touches earlyFootprint w₀ w₁ ∧ Through w₁ w
  | .endedBy .service _, _ => True
  | .ranToEnd _, _ => True

section

variable {env : Env}

theorem imageBuild_cases (w₀ : World) :
    Returns (Touches RegistryAuth.footprint w₀) (ImageBuilds.reconcile env)
      (fun r w => Touches earlyFootprint w₀ w ∨
        ∃ w₁, Touches RegistryAuth.footprint w₀ w₁ ∧ ImageBuilds.FailedBuild w₁ r w) := by
  refine .of_each fun w₁ h1 => (ImageBuilds.reconcile_cases env w₁).post fun r w hw => ?_
  rcases hw with hQuiet | hFailed
  · have hAuth : Touches earlyFootprint w₀ w₁ := h1.widen
    exact Or.inl (hAuth.trans hQuiet.widen)
  · exact Or.inr ⟨w₁, h1, hFailed⟩

theorem endedAt_runChain {w₀ : World} :
    Returns (· = w₀) (runChain env subReconcilers none) (EndedAt w₀) := by
  have hStart : ∀ w, w = w₀ → Touches RegistryAuth.footprint w₀ w := by
    rintro w rfl
    exact Touches.refl _ w
  refine chain_cons env (((RegistryAuth.has_reconcile env).extends w₀).pre hStart)
    (fun r w _ hw => hw.widen) fun _ deferred _ => ?_
  refine chain_cons env (imageBuild_cases w₀) (fun r w _ hw => hw) fun r deferred hGoes => ?_
  -- a step that went on has not found the build failed
  refine .pre (P := Touches earlyFootprint w₀) ?_ fun w hw =>
    hw.resolve_right fun ⟨_, _, hFailed⟩ => hGoes hFailed.1
  refine chain_cons env (R := fun _ w => ∃ w₁, Touches earlyFootprint w₀ w₁ ∧ Through w₁ w)
    ?_ (fun r w _ hw => hw) fun _ deferred _ => ?_
  · exact .of_each fun w₁ h1 => (Workload.through_reconcile w₁).post
      fun _ w hw => ⟨w₁, h1, hw⟩
  · refine chain_cons env (R := fun _ _ => True) ?_ (fun _ _ _ _ => trivial) fun _ deferred _ =>
      .pure fun _ _ => trivial
    intro w _
    cases SubReconciler.reconcile env .service w <;> trivial

end

/-! ## Stops -/

def notReadyReason (w : World) : Option String := w.verdicts.notReady.map Verdict.reason

def StoppedInBuild (chainEnd : ChainEnd) (w : World) : Prop :=
  (∃ r, chainEnd = .endedBy .imageBuild r) ∧ notReadyReason w = some "ImageBuildInProgress"

def StoppedAtBuildGate (chainEnd : ChainEnd) (w : World) : Prop :=
  (∃ r, chainEnd = .endedBy .workload r) ∧ notReadyReason w = some "ApplicationBuildNotYetReady"

def StoppedAtGate (chainEnd : ChainEnd) (w : World) : Prop :=
  (∃ r, chainEnd = .endedBy .workload r) ∧
    (notReadyReason w = some "DependenciesNotReady" ∨
      notReadyReason w = some "VolumeMountsNotReady")

def SkippedWorkload (chainEnd : ChainEnd) : Prop :=
  ∃ r, chainEnd = .endedBy .registryAuth r ∨ chainEnd = .endedBy .imageBuild r

/-- The summary names the stop: an unfinished build is Building, a closed gate is Waiting,
and without a terminal verdict a pass that never reached the workload is not Failed. -/
def NamesStop (chainEnd : ChainEnd) (w : World) : Prop :=
  (StoppedInBuild chainEnd w ∨ StoppedAtBuildGate chainEnd w →
    summaryState w.resource = some .building) ∧
  (StoppedAtGate chainEnd w → summaryState w.resource = some .waiting) ∧
  (SkippedWorkload chainEnd → w.verdicts.failed = none → summaryState w.resource ≠ some .failed)

variable {w w' w₀ w₁ : World}

theorem falseNow_of_touches {fp : Footprint} (h : Touches fp w w')
    {c : StackResourceDomainCondition} (hc : c ∉ fp.conditions) :
    FalseNow w'.resource c ↔ FalseNow w.resource c := by
  unfold FalseNow
  rw [Workload.domainCondition_of_touches h hc]

theorem crashRecorded_of_touches {fp : Footprint} (h : Touches fp w w')
    (hf : fp.failureDetails = false) : CrashRecorded w'.resource ↔ CrashRecorded w.resource := by
  unfold CrashRecorded failureDetail
  rw [h.failureDetails hf]

theorem reason_mem {fp fp' : Footprint} (h0 : w₀.verdicts = {}) (h : Touches fp w₀ w)
    (h' : Touches fp' w w') {v : Verdict} (hv : w'.verdicts.notReady = some v) :
    v.reason ∈ fp.reasons ++ fp'.reasons := by
  rcases h'.reasons v hv with hw | hr
  · rcases h.reasons v hw with hw0 | hr
    · rw [h0] at hw0
      cases hw0
    · exact List.mem_append_left _ hr
  · exact List.mem_append_right _ hr

section

variable {env : Env}

theorem reconcile_endedAt {ns name : String} {chainEnd : ChainEnd} {stored : StackResource}
    (hStored : lookupResource w.cluster ns name = some stored)
    (h : reconcile env ns name w = .ok (some chainEnd) w') :
    ∃ w₁, w'.verdicts = w₁.verdicts ∧
      summaryState w'.resource = some (classify w₁.resource w₁.verdicts).1 ∧
      Promised chainEnd w₁ ∧ EndedAt (started w stored) chainEnd w₁ := by
  obtain ⟨stackResource, w₁, hLookup, hChain, hPass⟩ := reconcile_inv env h
  cases hStored.symm.trans hLookup
  obtain ⟨build, hResource⟩ := hPass.resource
  refine ⟨w₁, hPass.verdicts, ?_, promised_runChain.of_ok trivial hChain,
    endedAt_runChain.of_ok rfl hChain⟩
  rw [hResource, summaryState_deriveSummaryStatus]
  rfl

theorem stoppedInBuild_iff {r : SubReconcilerResult} (h0 : w₀.verdicts = {})
    (hEnd : EndedAt w₀ (.endedBy .imageBuild r) w₁)
    (hReason : notReadyReason w₁ = some "ImageBuildInProgress") :
    (classify w₁.resource w₁.verdicts).1 = .building ↔ FalseNow w₀.resource .buildReady := by
  obtain ⟨v, hv, hvr⟩ := Option.map_eq_some_iff.mp hReason
  rcases hEnd with hQuiet | ⟨w2, hAuth, -, -, hSame⟩
  · have hFailed : w₁.verdicts.failed = none := by rw [hQuiet.failed rfl, h0]
    rw [classify_building_iff hv hFailed, falseNow_of_touches hQuiet (by decide)]
  · -- a failed build reports no reason, and the registry step reports others
    rw [hSame] at hv
    have hMem := reason_mem h0 hAuth (Touches.refl {} w2) hv
    rw [hvr] at hMem
    exact absurd hMem (by decide)

theorem stoppedAtBuildGate_building {r : SubReconcilerResult} (h0 : w₀.verdicts = {})
    (hEnd : EndedAt w₀ (.endedBy .workload r) w₁)
    (hReason : notReadyReason w₁ = some "ApplicationBuildNotYetReady") :
    (classify w₁.resource w₁.verdicts).1 = .building := by
  obtain ⟨v, hv, hvr⟩ := Option.map_eq_some_iff.mp hReason
  obtain ⟨w2, hEarly, hThrough⟩ := hEnd
  cases hThrough with
  | gate hTouches hClosed =>
    have hMem := reason_mem h0 hEarly hTouches hv
    rw [hvr] at hMem
    exact absurd hMem (by decide)
  | buildGate hTouches hClosed =>
    have hFailed : w₁.verdicts.failed = none := by
      rw [hTouches.failed rfl, hEarly.failed rfl, h0]
    exact (classify_building_iff hv hFailed).mpr hClosed
  | kind hTouches =>
    have hMem := reason_mem h0 hEarly hTouches hv
    rw [hvr] at hMem
    exact absurd hMem (by decide)

theorem stoppedAtGate_iff {r : SubReconcilerResult} (h0 : w₀.verdicts = {})
    (hEnd : EndedAt w₀ (.endedBy .workload r) w₁)
    (hReason : notReadyReason w₁ = some "DependenciesNotReady" ∨
      notReadyReason w₁ = some "VolumeMountsNotReady") :
    (classify w₁.resource w₁.verdicts).1 = .waiting ↔ ¬ FalseNow w₀.resource .buildReady := by
  have hGate : ∃ v, w₁.verdicts.notReady = some v ∧
      v.reason ∈ Workload.gateFootprint.reasons := by
    rcases hReason with hReason | hReason
    · obtain ⟨v, hv, hvr⟩ := Option.map_eq_some_iff.mp hReason
      exact ⟨v, hv, by rw [hvr]; decide⟩
    · obtain ⟨v, hv, hvr⟩ := Option.map_eq_some_iff.mp hReason
      exact ⟨v, hv, by rw [hvr]; decide⟩
  obtain ⟨v, hv, hvr⟩ := hGate
  obtain ⟨w2, hEarly, hThrough⟩ := hEnd
  -- no other way through the step reports one of the gates' reasons
  have hOnly : ∀ fp : Footprint, Touches fp w2 w₁ →
      (∀ x ∈ Workload.gateFootprint.reasons, x ∉ earlyFootprint.reasons ++ fp.reasons) → False :=
    fun fp hTouches hDisjoint => hDisjoint _ hvr (reason_mem h0 hEarly hTouches hv)
  cases hThrough with
  | gate hTouches hClosed =>
    have hFailed : w₁.verdicts.failed = none := by
      rw [hTouches.failed rfl, hEarly.failed rfl, h0]
    rw [classify_waiting_iff hv hFailed, falseNow_of_touches hTouches (by decide),
      falseNow_of_touches hEarly (by decide)]
    exact ⟨fun h => h.1, fun h => ⟨h, hClosed⟩⟩
  | buildGate hTouches hClosed => exact (hOnly _ hTouches (by decide)).elim
  | kind hTouches => exact (hOnly _ hTouches (by decide)).elim

theorem skippedWorkload_iff {chainEnd : ChainEnd} (hSkipped : SkippedWorkload chainEnd)
    (hPromised : Promised chainEnd w₁) (hEnd : EndedAt w₀ chainEnd w₁)
    (hFailed : w₁.verdicts.failed = none) :
    (classify w₁.resource w₁.verdicts).1 ≠ .failed ↔
      FalseNow w₀.resource .buildReady ∨ FalseNow w₀.resource .dependenciesReady ∨
        ¬ CrashRecorded w₀.resource := by
  have hEarly : Touches earlyFootprint w₀ w₁ := by
    obtain ⟨r, rfl | rfl⟩ := hSkipped
    · exact hEnd
    · refine hEnd.resolve_right ?_
      rintro ⟨_, _, -, hSome, -⟩
      rw [hFailed] at hSome
      cases hSome
  have hNotEmpty : ¬ w₁.verdicts.Empty := by
    obtain ⟨r, rfl | rfl⟩ := hSkipped
    · exact hPromised.1 ⟨_, _, rfl⟩
    · exact hPromised.1 ⟨_, _, rfl⟩
  cases hv : w₁.verdicts.notReady with
  | none => exact absurd ⟨hv, hFailed⟩ hNotEmpty
  | some v =>
    rw [Ne, classify_failed_iff hv hFailed, falseNow_of_touches hEarly (by decide),
      falseNow_of_touches hEarly (by decide), crashRecorded_of_touches hEarly rfl]
    tauto

/-- **What a stopped pass says.** The workload's own build gate is always summarized as
Building. A stop in the image-build step is, exactly when the stored BuildReady is False
for the current generation; a closed dependency or volume gate is summarized as Waiting
exactly when it is not; and a pass that never reached the workload is spared a Failed
summary exactly when one of the two conditions is stored as False for the current
generation or no crash is recorded. -/
theorem reconcile_stop_iff {ns name : String} {w w' : World} {chainEnd : ChainEnd}
    {stored : StackResource} (hStored : lookupResource w.cluster ns name = some stored)
    (h : reconcile env ns name w = .ok (some chainEnd) w') :
    (StoppedInBuild chainEnd w' →
      (summaryState w'.resource = some .building ↔ FalseNow stored .buildReady)) ∧
    (StoppedAtBuildGate chainEnd w' → summaryState w'.resource = some .building) ∧
    (StoppedAtGate chainEnd w' →
      (summaryState w'.resource = some .waiting ↔ ¬ FalseNow stored .buildReady)) ∧
    (SkippedWorkload chainEnd → w'.verdicts.failed = none →
      (summaryState w'.resource ≠ some .failed ↔
        FalseNow stored .buildReady ∨ FalseNow stored .dependenciesReady ∨
          ¬ CrashRecorded stored)) := by
  obtain ⟨w₁, hVerdicts, hState, hPromised, hEnd⟩ := reconcile_endedAt hStored h
  unfold StoppedInBuild StoppedAtBuildGate StoppedAtGate notReadyReason
  rw [hState, hVerdicts]
  simp only [Option.some_inj, Ne]
  refine ⟨?_, ?_, ?_, ?_⟩
  · rintro ⟨⟨r, rfl⟩, hReason⟩
    exact stoppedInBuild_iff rfl hEnd hReason
  · rintro ⟨⟨r, rfl⟩, hReason⟩
    exact stoppedAtBuildGate_building rfl hEnd hReason
  · rintro ⟨⟨r, rfl⟩, hReason⟩
    exact stoppedAtGate_iff rfl hEnd hReason
  · intro hSkipped hFailed
    exact skippedWorkload_iff hSkipped hPromised hEnd hFailed

end

/-! ## Stops on concrete statuses -/

def buildNotReady : Condition ResourceCondition where
  type := .domain .buildReady
  status := .conditionFalse
  observedGeneration := 2
  reason := "BuildNotReady"
  message := "application build is not yet ready"

def web (conditions : List (Condition ResourceCondition)) (dependsOn : List String) :
    StackResource where
  metadata := { name := "web", ns := "shop", uid := "u2", generation := 2 }
  spec :=
    { buildSpec := some
        { sourceRevision := { gitRepo := some { commit := "c2" } }
          repository := { external := some { host := "registry" }, repository := "shop/web" } }
      dependsOn := dependsOn }
  status :=
    { conditions := conditions
      lastFailureDetails :=
        [{ type := failureTypeRuntimeCrash, containerName := "web",
           lastTerminationReason := "OOMKilled" }] }

def webBefore (resource : StackResource) (others : List StackResource)
    (imageBuilds : List ImageBuild) : World where
  cluster := { stackResources := resource :: others, imageBuilds := imageBuilds }
  resource := resource

def webAfter (resource : StackResource) (others : List StackResource)
    (imageBuilds : List ImageBuild) : World :=
  finalState (reconcile (plainEnv 7) "shop" "web" (webBefore resource others imageBuilds))

theorem reconcile_stop_building :
    StoppedInBuild (.endedBy .imageBuild .stop) (webAfter (web [buildNotReady] []) [] []) ∧
      summaryState (webAfter (web [buildNotReady] []) [] []).resource = some .building := by
  have hPass : reconcile (plainEnv 7) "shop" "web" (webBefore (web [buildNotReady] []) [] []) =
      .ok (some (.endedBy .imageBuild .stop)) (webAfter (web [buildNotReady] []) [] []) := rfl
  have hStop : StoppedInBuild (.endedBy .imageBuild .stop)
      (webAfter (web [buildNotReady] []) [] []) := ⟨⟨_, rfl⟩, by decide +kernel⟩
  have hStored : lookupResource (webBefore (web [buildNotReady] []) [] []).cluster "shop" "web" =
      some (web [buildNotReady] []) := rfl
  exact ⟨hStop, ((reconcile_stop_iff hStored hPass).1 hStop).mpr (by decide)⟩

def webBuild : ImageBuild where
  metadata := { name := "web-c2-hash", ns := "shop", ownerReferences := [{ uid := "u2" }] }
  spec :=
    { resourceName := "web"
      sourceRevision := { gitRepo := some { commit := "c2" } }
      buildContext := {}
      repository := { external := some { host := "registry" }, repository := "shop/web" } }
  status := { phase := .success }

def db : StackResource where
  metadata := { name := "db", ns := "shop", uid := "u3", generation := 1 }

/-- **The summary does not name the stop.** A service whose new build was just created is
summarized by the crash of its previous rollout, as Failed; and a service that waits for
its database is summarized as Building after a pass of the same generation has seen the
build unfinished. -/
theorem reconcile_stop_unnamed :
    (reconcile (plainEnv 7) "shop" "web" (webBefore (web [] []) [] []) =
        .ok (some (.endedBy .imageBuild .stop)) (webAfter (web [] []) [] []) ∧
      StoppedInBuild (.endedBy .imageBuild .stop) (webAfter (web [] []) [] []) ∧
      summaryState (webAfter (web [] []) [] []).resource = some .failed ∧
      ¬ NamesStop (.endedBy .imageBuild .stop) (webAfter (web [] []) [] [])) ∧
    (reconcile (plainEnv 7) "shop" "web"
        (webBefore (web [buildNotReady] ["db"]) [db] [webBuild]) =
        .ok (some (.endedBy .workload (.requeueAfter Workload.defaultRequeueTime)))
          (webAfter (web [buildNotReady] ["db"]) [db] [webBuild]) ∧
      StoppedAtGate (.endedBy .workload (.requeueAfter Workload.defaultRequeueTime))
        (webAfter (web [buildNotReady] ["db"]) [db] [webBuild]) ∧
      summaryState (webAfter (web [buildNotReady] ["db"]) [db] [webBuild]).resource =
        some .building ∧
      ¬ NamesStop (.endedBy .workload (.requeueAfter Workload.defaultRequeueTime))
        (webAfter (web [buildNotReady] ["db"]) [db] [webBuild])) := by
  have hBuild : StoppedInBuild (.endedBy .imageBuild .stop) (webAfter (web [] []) [] []) :=
    ⟨⟨_, rfl⟩, by decide +kernel⟩
  have hFailed : summaryState (webAfter (web [] []) [] []).resource = some .failed := by
    decide +kernel
  have hGate : StoppedAtGate (.endedBy .workload (.requeueAfter Workload.defaultRequeueTime))
      (webAfter (web [buildNotReady] ["db"]) [db] [webBuild]) :=
    ⟨⟨_, rfl⟩, by decide +kernel⟩
  have hBuilding : summaryState (webAfter (web [buildNotReady] ["db"]) [db] [webBuild]).resource =
      some .building := by decide +kernel
  refine ⟨⟨rfl, hBuild, hFailed, fun hNames => ?_⟩, ⟨rfl, hGate, hBuilding, fun hNames => ?_⟩⟩
  -- an old crash is reported as the state, and not the build
  · have hClaimed := hNames.1 (Or.inl hBuild)
    rw [hFailed] at hClaimed
    cases hClaimed
  -- a stored BuildReady=False is reported, and not the dependencies
  · have hClaimed := hNames.2.1 hGate
    rw [hBuilding] at hClaimed
    cases hClaimed

end ClusterAgent.StackResourceController
