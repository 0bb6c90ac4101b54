import ClusterAgent.StackResource.Derive
import ClusterAgent.Workload.Reconciler

/-!
# Cluster agent — how the workload step ends

The status derivation reads an empty collector as "the chain ran to the end and
the workload said it is available". `Judged` is what the workload step owes it:
ending the chain leaves a verdict, and leaving no verdict means that
WorkloadAvailable is True for the current generation.

* `judged_reconcile` — every exit of the step, of every workload kind, is judged.
-/

namespace ClusterAgent.Workload

open Pass Effect Conditions
open StackResourceController (domainCondition domainConditionTrue)

/-! ## Domain conditions along a footprint -/

theorem domainCondition_of_touches {fp : Footprint} {w w' : World} (h : Touches fp w w')
    {c : StackResourceDomainCondition} (hc : c ∉ fp.conditions) (status : ConditionStatus) :
    domainCondition w'.resource c status = domainCondition w.resource c status := by
  unfold domainCondition StackResource.generation
  rw [h.domainCond hc, h.metadata]

theorem domainConditionTrue_of_touches {fp : Footprint} {w w' : World} (h : Touches fp w w')
    {c : StackResourceDomainCondition} (hc : c ∉ fp.conditions) :
    domainConditionTrue w'.resource c = domainConditionTrue w.resource c := by
  unfold domainConditionTrue
  rw [domainCondition_of_touches h hc]

theorem domainCondition_setCondition {env : Env} (c : StackResourceDomainCondition) (ready : Bool)
    (reason msg : String) :
    Returns (fun _ => True) (setCondition env c ready reason msg)
      (fun _ w => ∃ d, domainCondition w.resource c (.ofBool ready) = some d ∧
        d.reason = reason ∧ d.message = msg) := by
  intro w _
  have hFind := find_set_same env.clock.wall w.resource.status.conditions
    { type := .domain c, status := .ofBool ready, observedGeneration := w.resource.generation,
      reason := reason, message := msg }
  obtain ⟨d, hd, hdd⟩ := Option.map_eq_some_iff.mp hFind
  have hStatus : d.status = .ofBool ready := congrArg Condition.status hdd
  have hGeneration : d.observedGeneration = w.resource.generation :=
    congrArg Condition.observedGeneration hdd
  refine ⟨d, ?_, congrArg Condition.reason hdd, congrArg Condition.message hdd⟩
  unfold domainCondition StackResource.domainCond
  dsimp only
  rw [hd]
  exact if_neg (by rintro (h | h) <;> exact h (by assumption))

/-! ## Judged exits -/

def Available (w : World) : Prop := domainConditionTrue w.resource .workloadAvailable = true

/-- Ending the chain leaves a verdict, and no verdict means available. -/
def Judged (m : Pass SubReconcilerResult) : Prop :=
  Triple (fun _ => True) m
    (fun r w => (r.EndsChain → ¬ w.verdicts.Empty) ∧ (w.verdicts.Empty → Available w))
    fun _ => True

namespace Judged

variable {α : Type}

theorem bind {m : Pass α} {f : α → Pass SubReconcilerResult} (h : ∀ a, Judged (f a)) :
    Judged (m >>= f) :=
  Triple.bind_any h

theorem throw {e : GoError} : Judged (MonadExcept.throw e) := Triple.throw fun _ _ => trivial

theorem of_verdict {r : SubReconcilerResult} :
    Returns (fun w : World => ¬ w.verdicts.Empty) (pure r : Pass SubReconcilerResult)
      (fun r w => (r.EndsChain → ¬ w.verdicts.Empty) ∧ (w.verdicts.Empty → Available w)) :=
  .pure fun _ h => ⟨fun _ => h, fun he => absurd he h⟩

theorem of_available {r : SubReconcilerResult} (hr : ¬ r.EndsChain) :
    Returns Available (pure r : Pass SubReconcilerResult)
      (fun r w => (r.EndsChain → ¬ w.verdicts.Empty) ∧ (w.verdicts.Empty → Available w)) :=
  .pure fun _ h => ⟨fun he => absurd he hr, fun _ => h⟩

end Judged

theorem verdict_reportNotReady {reason msg : String} :
    Returns (fun _ => True) (Pass.reportNotReady reason msg)
      (fun _ (w : World) => ¬ w.verdicts.Empty) :=
  .modify fun _ _ => VerdictCollector.reportNotReady_not_empty

theorem verdict_reportFailed {reason msg : String} :
    Returns (fun _ => True) (Pass.reportFailed reason msg)
      (fun _ (w : World) => ¬ w.verdicts.Empty) :=
  .modify fun _ _ => VerdictCollector.reportFailed_not_empty

theorem available_of_has (fp : Footprint) {α : Type} {m : Pass α} (h : Has fp m)
    (hc : .workloadAvailable ∉ fp.conditions) :
    Returns Available m (fun _ => Available) :=
  (h.triple fun _ _ ht ha => (domainConditionTrue_of_touches ht hc).trans ha).anyError

theorem verdict_of_has (fp : Footprint) {α : Type} {m : Pass α} (h : Has fp m) :
    Returns (fun w : World => ¬ w.verdicts.Empty) m (fun _ w => ¬ w.verdicts.Empty) :=
  (h.triple fun _ _ ht hv => ht.verdicts.not_empty hv).anyError

section

variable (env : Env)

theorem available_setCondition {reason msg : String} :
    Returns (fun _ => True) (setCondition env .workloadAvailable true reason msg)
      (fun _ => Available) :=
  (domainCondition_setCondition .workloadAvailable true reason msg).conseq
    (fun _ w h => by
      obtain ⟨d, hd, -⟩ := h
      exact congrArg Option.isSome hd) fun _ h => h

/-! ## Deployments and StatefulSets -/

/-- What follows the availability write of a serving workload: convergence and
failure details only. -/
def servingFootprint : Footprint where
  conditions := [.workloadConverged]
  failureDetails := true
  fails := true

variable {env}

theorem verdict_applyWorkload {S T : Type} [DecidableEq S] [DecidableEq T] {kind : Kind S T}
    {emptySpec : S} {emptyStatus : T} {restartPolicy : String}
    {applySpec : StackResource → PodTemplateSpec → Object S T → Object S T} :
    Returns (fun _ => True) (applyWorkload env kind emptySpec emptyStatus restartPolicy applySpec)
      (fun applied w => applied = none → ¬ w.verdicts.Empty) := by
  refine .bind_any fun resource => .bind_any fun volumes =>
    .bind_any fun image => ?_
  split
  · exact .bind verdict_reportFailed fun _ => .pure fun _ h _ => h
  · exact .bind_any fun workload => .pure fun _ _ h => nomatch h

theorem judged_finishRestart {reason msg : String} : Judged (finishRestart env reason msg) :=
  .bind fun _ => Triple.bind verdict_reportNotReady fun _ => Judged.of_verdict

theorem judged_reconcileWorkload {W : Type} {apply : Pass (Option (W × Bool))}
    {evaluate : W → Pass SubReconcilerResult}
    (ha : Returns (fun _ => True) apply (fun applied w => applied = none → ¬ w.verdicts.Empty))
    (he : ∀ x, Judged (evaluate x)) {reason msg : String} :
    Judged (reconcileWorkload env apply reason msg evaluate) := by
  refine Triple.bind ha fun applied => ?_
  split
  · exact Judged.of_verdict.pre fun _ h => h rfl
  · refine .pre (P := fun _ => True) ?_ fun _ _ => trivial
    split
    · exact judged_finishRestart
    · exact he _

theorem judged_evaluateServing {deployment : Deployment} {revision : String} :
    Judged (evaluateServing env deployment revision) := by
  refine Triple.bind (available_setCondition env) fun _ =>
    Triple.bind (available_of_has servingFootprint
      (has_refreshFailureDetails rfl) (by decide)) fun _ =>
    .bind (available_of_has servingFootprint
      (has_checkPorts (by decide) rfl rfl) (by decide)) fun requeueAfter =>
    .bind (available_of_has servingFootprint has_resource (by decide))
      fun resource => ?_
  split
  · exact Judged.of_available id
  · split
    · exact Judged.of_available id
    · exact Judged.of_available id

theorem judged_evaluateNotServing {deployment : Deployment} {revision : String} :
    Judged (evaluateNotServing env deployment revision) := by
  refine .bind fun _ => .bind fun _ => .bind fun portRequeueAfter =>
    Triple.bind verdict_reportNotReady fun _ => ?_
  split
  · exact Judged.of_verdict
  · split
    · exact Judged.of_verdict
    · exact Judged.of_verdict

theorem judged_reconcileDeployment : Judged (reconcileDeployment env) := by
  refine judged_reconcileWorkload verdict_applyWorkload (fun deployment => ?_)
  refine Judged.bind fun _ => .bind fun _ => ?_
  dsimp only
  split
  · exact judged_evaluateServing
  · exact judged_evaluateNotServing

theorem judged_evaluateConvergedStatefulSet {sts : StatefulSet} :
    Judged (evaluateConvergedStatefulSet env sts) := by
  refine Triple.bind (available_setCondition env) fun _ =>
    Triple.bind (available_of_has servingFootprint
      has_setCondition (by decide)) fun _ =>
    .bind (available_of_has servingFootprint
      has_stampLastConverged (by decide)) fun _ =>
    .bind (available_of_has servingFootprint
      (has_clearFailureDetails rfl) (by decide)) fun _ =>
    .bind (available_of_has servingFootprint
      (has_checkPorts (by decide) rfl rfl) (by decide)) fun requeueAfter => ?_
  split
  · exact Judged.of_available id
  · exact Judged.of_available id

theorem judged_evaluateStatefulSetRollout {sts : StatefulSet} :
    Judged (evaluateStatefulSetRollout env sts) := by
  refine .bind fun _ => .bind fun _ => .bind fun _ => .bind fun _ =>
    Triple.bind verdict_reportNotReady fun _ =>
    Triple.bind (verdict_of_has {} has_resource) fun resource => ?_
  split
  · exact Judged.of_verdict
  · split
    · exact Judged.of_verdict
    · exact Judged.of_verdict

theorem judged_reconcileStatefulSet : Judged (reconcileStatefulSet env) := by
  refine judged_reconcileWorkload verdict_applyWorkload (fun sts => ?_)
  refine Judged.bind fun _ => ?_
  split
  · exact judged_evaluateConvergedStatefulSet
  · exact judged_evaluateStatefulSetRollout

/-! ## Jobs and CronJobs -/

theorem judged_evaluateJobStatus {job : Job} : Judged (evaluateJobStatus env job) := by
  unfold evaluateJobStatus
  split
  · exact .bind fun _ => .bind fun _ => .bind fun _ =>
      Triple.bind (available_setCondition env) fun _ => Judged.of_available id
  · refine .bind fun resource => ?_
    split
    · exact .bind fun _ => .bind fun _ =>
        Triple.bind verdict_reportFailed fun _ => Judged.of_verdict
    · refine .bind fun _ => Triple.bind verdict_reportNotReady fun _ =>
        Triple.bind (verdict_of_has {} has_resource) fun resource => ?_
      split
      · exact Judged.of_verdict
      · exact Judged.of_verdict

theorem verdict_evaluateJobStatus {job : Job} (h : jobSucceeded job = false) :
    Returns (fun _ => True) (evaluateJobStatus env job) (fun _ w => ¬ w.verdicts.Empty) := by
  unfold evaluateJobStatus
  rw [h]
  refine .bind_any fun resource => ?_
  split
  · exact .bind_any fun _ => .bind_any fun _ =>
      .bind verdict_reportFailed fun _ => .skip
  · refine .bind_any fun _ => .bind verdict_reportNotReady fun _ =>
      .bind (verdict_of_has {} has_resource) fun resource => ?_
    split
    · exact .skip
    · exact .skip

theorem judged_reconcileJob : Judged (reconcileJob env) := by
  refine .bind fun resource => .bind fun existing => ?_
  split
  · exact .bind fun _ => Triple.bind verdict_reportNotReady fun _ => Judged.of_verdict
  · split
    · exact .bind fun _ => Triple.bind verdict_reportNotReady fun _ => Judged.of_verdict
    · exact judged_evaluateJobStatus

theorem judged_reconcileCronJob : Judged (reconcileCronJob env) := by
  refine .bind fun cj => .bind fun _ => Triple.bind (available_setCondition env) fun _ =>
    Triple.bind (available_of_has servingFootprint
      has_modifyStatus
      (by decide)) fun _ =>
    Triple.bind (available_of_has servingFootprint
      (Has.of_reads reads_latestCompletedChildJob) (by decide)) fun latest => ?_
  split
  · exact Judged.of_available id
  · exact Triple.bind (available_of_has servingFootprint
      (has_recordLatestRun rfl) (by decide)) fun _ => Judged.of_available id

/-! ## The step -/

theorem judged_reconcileKind {workloadType : WorkloadType} :
    Judged (reconcileKind env workloadType) := by
  cases workloadType with
  | unset => exact judged_reconcileDeployment
  | service => exact judged_reconcileDeployment
  | worker => exact judged_reconcileDeployment
  | statefulService => exact judged_reconcileStatefulSet
  | job => exact judged_reconcileJob
  | cronJob => exact judged_reconcileCronJob
  | unknown name => exact Judged.throw

theorem judged_closeGate {reason message : String} : Judged (closeGate env reason message) :=
  .bind fun _ => Triple.bind verdict_reportNotReady fun _ => Judged.of_verdict

theorem judged_buildGate {resource : StackResource} : Judged (buildGate env resource) := by
  unfold buildGate
  split
  · exact judged_reconcileKind
  · refine .bind fun build => ?_
    split
    · exact .bind fun _ => Triple.bind verdict_reportNotReady fun _ => Judged.of_verdict
    · exact .bind fun _ => judged_reconcileKind

theorem judged_reconcile : Judged (reconcile env) := by
  refine .bind fun resource => .bind fun answer => ?_
  split
  · refine .bind fun volumes => ?_
    split
    · exact .bind fun _ => judged_buildGate
    · exact judged_closeGate
    · exact judged_closeGate
  · exact judged_closeGate

/-! ## The ways through the step -/

variable (env)

def gateFootprint : Footprint where
  conditions := [.dependenciesReady]
  reasons := ["DependenciesNotReady", "VolumeMountsNotReady"]

def buildGateFootprint : Footprint where
  conditions := [.dependenciesReady, .buildReady]
  reasons := ["ApplicationBuildNotYetReady"]

def openFootprint : Footprint where
  conditions := footprint.conditions
  failureDetails := true
  restart := true
  objects := footprint.objects
  reasons := kindFootprint.reasons
  fails := true

def FalseNow (r : StackResource) (c : StackResourceDomainCondition) : Prop :=
  (domainCondition r c .conditionFalse).isSome = true

instance (r : StackResource) (c : StackResourceDomainCondition) : Decidable (FalseNow r c) :=
  inferInstanceAs (Decidable (_ = true))

/-- What the step did between `w₀` and `w`: a gate closed and its condition says so, or
the workload's kind ran. -/
inductive Through (w₀ w : World) : Prop
  | gate (touches : Touches gateFootprint w₀ w) (closed : FalseNow w.resource .dependenciesReady)
  | buildGate (touches : Touches buildGateFootprint w₀ w) (closed : FalseNow w.resource .buildReady)
  | kind (touches : Touches openFootprint w₀ w)

theorem falseNow_setCondition (c : StackResourceDomainCondition) (reason msg : String) :
    Returns (fun _ => True) (setCondition env c false reason msg)
      (fun _ w => FalseNow w.resource c) :=
  (domainCondition_setCondition c false reason msg).conseq
    (fun _ w h => by
      obtain ⟨d, hd, -⟩ := h
      exact congrArg Option.isSome hd) fun _ h => h

variable {env}

theorem falseNow_report (fp : Footprint) {c : StackResourceDomainCondition}
    (hc : c ∈ fp.conditions) {reason : String} (hr : reason ∈ fp.reasons)
    {reason' msg' msg : String} {r : SubReconcilerResult} (w0 : World) :
    Returns (Touches fp w0)
      (setCondition env c false reason' msg' >>= fun _ =>
        Pass.reportNotReady reason msg >>= fun _ => pure r)
      (fun _ w => Touches fp w0 w ∧ FalseNow w.resource c) := by
  intro w h
  have hSet := (has_setCondition hc : Has fp (setCondition env c false reason' msg')) w
  have hFalse := falseNow_setCondition env c reason' msg' w trivial
  have hReport := (has_reportNotReady hr : Has fp (Pass.reportNotReady reason msg))
    (finalState (setCondition env c false reason' msg' w))
  exact ⟨(h.trans hSet).trans hReport, hFalse⟩

theorem through_closeGate {reason : String} (hr : reason ∈ gateFootprint.reasons)
    {message : String} (w0 : World) :
    Returns (Touches gateFootprint w0) (closeGate env reason message) (fun _ => Through w0) :=
  (falseNow_report gateFootprint (by decide) hr w0).post fun _ _ h => .gate h.1 h.2

theorem through_reconcileKind {workloadType : WorkloadType} (w0 : World) :
    Returns (Touches openFootprint w0) (reconcileKind env workloadType) (fun _ => Through w0) :=
  (((has_reconcileKind workloadType).widen).extends w0).post fun _ _ h => .kind h

theorem through_buildGate {resource : StackResource} (w0 : World) :
    Returns (Touches { conditions := [.dependenciesReady] } w0) (buildGate env resource)
      (fun _ => Through w0) := by
  unfold buildGate
  split
  · exact (through_reconcileKind w0).pre fun _ h => h.widen
  · refine .bind (Has.extends (Has.of_reads reads_mustGet) w0) fun build => ?_
    split
    · exact (falseNow_report buildGateFootprint (by decide) (by decide)
        w0).mono (fun _ h => h.widen) (fun _ _ h => .buildGate h.1 h.2) fun _ h => h
    · have hReady : Has openFootprint (setCondition env .buildReady true "BuildReady"
          "application build complete") := has_setCondition
      exact .bind ((hReady.extends w0).pre fun _ h => h.widen) fun _ => through_reconcileKind w0

/-- **Three ways through.** Whatever the step returns, it left through a closed gate or
ran the workload's kind. -/
theorem through_reconcile (w0 : World) :
    Returns (· = w0) (reconcile env) (fun _ => Through w0) := by
  have hStart : ∀ w, w = w0 → Touches {} w0 w := by
    rintro w rfl
    exact Touches.refl _ w
  refine .pre (P := Touches {} w0) ?_ hStart
  refine .bind (has_resource.extends w0) fun resource =>
    .bind (Has.extends (Has.of_reads Dependencies.reads_dependenciesAvailable) w0)
      fun answer => ?_
  split
  · refine .bind (Has.extends (Has.of_reads
      Dependencies.reads_volumeMountsReadyForUse.attempt) w0) fun volumes => ?_
    split
    · have hReady : Has { conditions := [.dependenciesReady] } (setCondition env
          .dependenciesReady true "DependenciesReady" "dependencies and volume mounts ready") :=
        has_setCondition
      exact .bind ((hReady.extends w0).pre fun _ h => h.widen) fun _ => through_buildGate w0
    · exact (through_closeGate (by decide) w0).pre fun _ h => h.widen
    · exact (through_closeGate (by decide) w0).pre fun _ h => h.widen
  · exact (through_closeGate (by decide) w0).pre fun _ h => h.widen

end

end ClusterAgent.Workload
