import ClusterAgent.Workload.Diagnosis

/-!
# Cluster agent — Deployments and StatefulSets

The long-running workload kinds. Each pass applies the object from the spec, and
then reads its status back into domain conditions, verdicts and diagnoses. A pass
that applied a restart stamp ends the chain at once; the status is judged in the
next one.
-/

namespace ClusterAgent.Workload

open Pass

def workloadMinReadySeconds : Int := 10
def deploymentGracePeriodAfterNewReplicaSetAvailable : Int := 3 * minute

/-! ## Reading a Deployment -/

def deploymentAvailableTrue (deployment : Deployment) : Bool :=
  deployment.status.conditions.any fun c =>
    decide (c.type = .available) && decide (c.status = .conditionTrue)

def deploymentServing (deployment : Deployment) : Bool :=
  decide (deployment.generation = deployment.status.observedGeneration) &&
    deploymentAvailableTrue deployment

def desiredReplicas (deployment : Deployment) : Int := deployment.spec.replicas.getD 1

def deploymentConverged (deployment : Deployment) : Bool :=
  let desired := desiredReplicas deployment
  decide (deployment.generation = deployment.status.observedGeneration) &&
    decide (deployment.status.updatedReplicas = desired) &&
    decide (deployment.status.readyReplicas = desired) &&
    decide (deployment.status.availableReplicas = desired) &&
    decide (deployment.status.unavailableReplicas = 0) &&
    deploymentAvailableTrue deployment

def convergenceMessage (deployment : Deployment) : String :=
  let desired := toString (desiredReplicas deployment)
  let s := deployment.status
  let msg := "rollout not converged: " ++ toString s.updatedReplicas ++ "/" ++ desired ++
    " updated, " ++ toString s.readyReplicas ++ "/" ++ desired ++ " ready, " ++
    toString s.unavailableReplicas ++ " unavailable"
  match s.conditions.find? fun c =>
      decide (c.type = .progressing) && decide (c.status = .conditionFalse) with
  | some c => msg ++ "; " ++ c.reason
  | none => msg

def maxUnavailableForReplicas (replicas : Int) : Int :=
  if replicas ≤ 1 then 0 else max 1 (replicas / 4)

section

variable (env : Env)

/-- What one Deployment condition says about the rollout being over, if anything. -/
def settledVerdict (gracePeriod : Int) (c : DeploymentCondition) : Option Bool :=
  if c.type = .progressing then
    if c.status = .conditionFalse ∧ c.reason = "ProgressDeadlineExceeded" then some true
    else if c.status = .conditionTrue ∧ c.reason = "NewReplicaSetAvailable" then
      some (decide (gracePeriod ≤ env.clock.wall - c.lastTransitionTime))
    else none
  else none

/-- The rollout no longer makes progress and its pods had time to crash. -/
def deploymentRolloutSettled (deployment : Deployment) (gracePeriod : Int) : Bool :=
  (deployment.status.conditions.findSome? (settledVerdict env gracePeriod)).getD false

/-! ## Deployments -/

/-- Record the convergence time of the current revision, once for each revision. -/
def stampLastConverged : Pass Unit := do
  let resource ← Pass.resource
  match resource.metadata.annotations.get? revisionAnnotationKey with
  | none => return ()
  | some rev =>
    if (resource.status.lastConverged.map StackResourceConvergenceRecord.revision) = some rev then
      return ()
    else
      let record : StackResourceConvergenceRecord := { revision := rev, «at» := env.clock.now }
      modifyStatus fun s => { s with lastConverged := some record }

def applyDeploymentSpec (resource : StackResource) (template : PodTemplateSpec)
    (deployment : Deployment) : Deployment :=
  let replicas := resource.spec.replicas.getD 1
  { deployment with
    metadata.labels := mergeLabels deployment.metadata.labels (identityLabels resource)
    spec :=
      { selector := getWorkloadLabelForResource resource
        replicas := some replicas
        strategyType := "RollingUpdate"
        maxUnavailable := some (maxUnavailableForReplicas replicas)
        maxSurge := "25%"
        progressDeadlineSeconds := some 300
        minReadySeconds := workloadMinReadySeconds
        template := template } }

/-- `applyDeployment` and `applyStatefulSet` are the same but for the object: create or
update it with the template of the spec. `none` when the spec is invalid, which is
reported; the flag says whether a restart stamp was applied. -/
def applyWorkload {S T : Type} [DecidableEq S] [DecidableEq T] (kind : Kind S T) (emptySpec : S)
    (emptyStatus : T) (restartPolicy : String)
    (applySpec : StackResource → PodTemplateSpec → Object S T → Object S T) :
    Pass (Option (Object S T × Bool)) := do
  let resource ← Pass.resource
  let volumeMountInfo ← getVolumeMountInfoMap env resource resource.spec.volumeMounts
  let image ← getImageForResource env resource
  match buildProbes resource with
  | .error e =>
    reportFailed "InvalidSpec" e
    return none
  | .ok probes =>
    let needsRestart := requiresRestart resource
    let template := buildPodTemplateSpec env
      { resource := resource, image := image, envVars := buildEnvVars resource, probes := probes
        volumeMountInfo := volumeMountInfo, restartPolicy := restartPolicy
        needsRestart := needsRestart }
    let blank : Object S T :=
      { metadata := { name := getWorkloadNameForResource resource, ns := resource.metadata.ns }
        spec := emptySpec
        status := emptyStatus }
    let workload ← createOrUpdate env kind blank fun workload => do
      let template ← resolveAndSetImagePullSecret env resource template
      controlled (applySpec resource template workload)
    return some (workload, needsRestart)

def applyDeployment : Pass (Option (Deployment × Bool)) :=
  applyWorkload env .deployment {} {} "" applyDeploymentSpec

def syncReplicaCounts (replicas available updated : Int) : Pass Unit :=
  modifyStatus fun s =>
    { s with replicas := replicas, availableReplicas := available, updatedReplicas := updated }

/-- A converged rollout forgets its failures, any other looks for new ones. -/
def refreshFailureDetails (converged : Bool) (revision : String) : Pass Unit :=
  if converged then clearFailureDetails else captureFailureDetailsOnce env revision

/-- The serving branch: only secondary ports and a stuck rollout are still in doubt. -/
def evaluateServing (deployment : Deployment) (revision : String) : Pass SubReconcilerResult := do
  let converged := deploymentConverged deployment
  setCondition env .workloadAvailable true "DeploymentServing"
    "deployment serving at minimum availability"
  refreshFailureDetails env converged revision
  let requeueAfter ← checkPorts env revision true
  let resource ← Pass.resource
  if 0 < requeueAfter then return .deferredRequeue requeueAfter
  else if !converged && decide (resource.status.lastFailureDetails.length = 0) &&
      !deploymentRolloutSettled env deployment deploymentGracePeriodAfterNewReplicaSetAvailable then
    return .deferredRequeue (10 * second)
  else return .nil

def evaluateNotServing (deployment : Deployment) (revision : String) :
    Pass SubReconcilerResult := do
  setCondition env .workloadAvailable false "DeploymentNotAvailable"
    "deployment is not yet available"
  captureFailureDetailsOnce env revision
  let portRequeueAfter ← checkPorts env revision false
  reportNotReady "StackResourceDeploymentNotReady" "StackResourceDeploymentNotReady"
  if !deploymentRolloutSettled env deployment deploymentGracePeriodAfterNewReplicaSetAvailable then
    return .requeueAfter (10 * second)
  else if 0 < portRequeueAfter then return .requeueAfter portRequeueAfter
  else return .stop

def reportConvergence (deployment : Deployment) : Pass Unit :=
  if deploymentConverged deployment then do
    setCondition env .workloadConverged true "FullyConverged"
      "all replicas updated and available on the target revision"
    stampLastConverged env
  else setCondition env .workloadConverged false "NotConverged" (convergenceMessage deployment)

def evaluateDeploymentStatus (deployment : Deployment) : Pass SubReconcilerResult := do
  syncReplicaCounts deployment.status.replicas deployment.status.availableReplicas
    deployment.status.updatedReplicas
  reportConvergence env deployment
  let revision := deployment.metadata.annotations.get deploymentRevisionAnnotationKey
  if deploymentServing deployment then evaluateServing env deployment revision
  else evaluateNotServing env deployment revision

def finishRestart (reason msg : String) : Pass SubReconcilerResult := do
  let processed : Timestamp := { wall := env.clock.wall }
  modifyStatus fun s => { s with lastRestartRequestProcessedAt := some processed }
  reportNotReady reason msg
  return .stop

/-- Apply the workload, and judge its status unless a restart was applied. -/
def reconcileWorkload {W : Type} (apply : Pass (Option (W × Bool))) (reason msg : String)
    (evaluate : W → Pass SubReconcilerResult) : Pass SubReconcilerResult := do
  match ← apply with
  | none => return .stop
  | some (workload, restartApplied) =>
    if restartApplied then finishRestart env reason msg
    else evaluate workload

def reconcileDeployment : Pass SubReconcilerResult :=
  reconcileWorkload env (applyDeployment env) "StackResourceDeploymentNotReady"
    "StackResource deployment restart requested" (evaluateDeploymentStatus env)

/-! ## StatefulSets -/

def applyStatefulSetSpec (resource : StackResource) (template : PodTemplateSpec)
    (sts : StatefulSet) : StatefulSet :=
  { sts with
    metadata.labels := mergeLabels sts.metadata.labels (identityLabels resource)
    spec :=
      { replicas := some 1
        serviceName := getWorkloadNameForResource resource
        podManagementPolicy := "OrderedReady"
        updateStrategy := "RollingUpdate"
        minReadySeconds := workloadMinReadySeconds
        selector := getWorkloadLabelForResource resource
        template := template } }

def applyStatefulSet : Pass (Option (StatefulSet × Bool)) :=
  applyWorkload env .statefulSet {} {} "Always" applyStatefulSetSpec

def statefulSetConverged (sts : StatefulSet) : Bool :=
  decide (sts.status.observedGeneration = sts.generation) &&
    decide (sts.status.currentRevision = sts.status.updateRevision) &&
    decide (sts.status.readyReplicas = 1) && decide (sts.status.updatedReplicas = 1) &&
    decide (sts.status.availableReplicas = 1)

def evaluateConvergedStatefulSet (sts : StatefulSet) : Pass SubReconcilerResult := do
  setCondition env .workloadAvailable true "StatefulSetAvailable" "statefulset available"
  setCondition env .workloadConverged true "FullyConverged"
    "statefulset pod ready on the target revision"
  stampLastConverged env
  clearFailureDetails
  let requeueAfter ← checkPorts env sts.status.updateRevision true
  if 0 < requeueAfter then return .deferredRequeue requeueAfter else return .nil

def statefulSetNotConvergedMessage (sts : StatefulSet) : String :=
  "statefulset not converged: ready=" ++ toString sts.status.readyReplicas ++ " updated=" ++
    toString sts.status.updatedReplicas ++ " available=" ++ toString sts.status.availableReplicas

def evaluateStatefulSetRollout (sts : StatefulSet) : Pass SubReconcilerResult := do
  setCondition env .workloadConverged false "NotConverged" (statefulSetNotConvergedMessage sts)
  capturePodFailureDetailsOnce env sts.status.updateRevision
  let portRequeueAfter ← checkPorts env sts.status.updateRevision false
  setCondition env .workloadAvailable false "StatefulSetNotAvailable" "statefulset pod not ready"
  reportNotReady "StackResourceStatefulSetNotReady" "statefulset pod not yet ready"
  let resource ← Pass.resource
  if 0 < portRequeueAfter then return .requeueAfter portRequeueAfter
  else if 0 < resource.status.lastFailureDetails.length then return .stop
  else return .requeueAfter (10 * second)

def evaluateStatefulSetStatus (sts : StatefulSet) : Pass SubReconcilerResult := do
  syncReplicaCounts sts.status.replicas sts.status.availableReplicas sts.status.updatedReplicas
  if statefulSetConverged sts then evaluateConvergedStatefulSet env sts
  else evaluateStatefulSetRollout env sts

def reconcileStatefulSet : Pass SubReconcilerResult :=
  reconcileWorkload env (applyStatefulSet env) "StackResourceStatefulSetNotReady"
    "StackResource statefulset restart requested" (evaluateStatefulSetStatus env)

/-! ## Footprint -/

def deploymentFootprint : Footprint where
  conditions := [.workloadAvailable, .workloadConverged]
  failureDetails := true
  restart := true
  objects := [.deployment]
  reasons := ["StackResourceDeploymentNotReady"]
  fails := true

def statefulSetFootprint : Footprint where
  conditions := [.workloadAvailable, .workloadConverged]
  failureDetails := true
  restart := true
  objects := [.statefulSet]
  reasons := ["StackResourceStatefulSetNotReady"]
  fails := true

/-- Judging a workload touches neither the object nor the restart clock. -/
def judging (fp : Footprint) : Footprint := { fp with restart := false, objects := [] }

variable {fp : Footprint}

variable {env}

theorem has_stampLastConverged : Has fp (stampLastConverged env) := by
  refine .bind has_resource fun resource => ?_
  split
  · exact .pure
  · split
    · exact .pure
    · exact has_modifyStatus

theorem has_syncReplicaCounts {replicas available updated : Int} :
    Has fp (syncReplicaCounts replicas available updated) :=
  has_modifyStatus

theorem has_refreshFailureDetails (h : fp.failureDetails = true) {converged : Bool}
    {revision : String} : Has fp (refreshFailureDetails env converged revision) := by
  unfold refreshFailureDetails
  split
  · exact has_clearFailureDetails h
  · exact has_captureFailureDetailsOnce h

theorem has_reportConvergence (h : .workloadConverged ∈ fp.conditions) {deployment : Deployment} :
    Has fp (reportConvergence env deployment) := by
  unfold reportConvergence
  split
  · exact .bind (has_setCondition h) fun _ => has_stampLastConverged
  · exact has_setCondition h

theorem has_finishRestart (h : fp.restart = true) {reason : String} (hr : reason ∈ fp.reasons)
    {msg : String} : Has fp (finishRestart env reason msg) :=
  .bind (has_modifyStatus (r := .inl h)) fun _ => .bind (has_reportNotReady hr) fun _ => .pure

theorem has_applyWorkload {S T : Type} [DecidableEq S] [DecidableEq T] {kind : Kind S T}
    (h : kind.id ∈ fp.objects) (hv : fp.fails = true) {emptySpec : S} {emptyStatus : T}
    {restartPolicy : String}
    {applySpec : StackResource → PodTemplateSpec → Object S T → Object S T} :
    Has fp (applyWorkload env kind emptySpec emptyStatus restartPolicy applySpec) := by
  refine .bind has_resource fun resource =>
    .bind (Has.of_reads (reads_getVolumeMountInfoMap env)) fun volumeMountInfo =>
    .bind (Has.of_reads (reads_getImageForResource env)) fun image => ?_
  split
  · exact .bind (has_reportFailed hv) fun _ => .pure
  · refine .bind (has_createOrUpdate h fun workload => ?_) fun _ => .pure
    exact .bind (Has.of_reads (reads_resolveAndSetImagePullSecret env _ _)) fun _ =>
      has_controlled

theorem has_reconcileWorkload {W : Type} {apply : Pass (Option (W × Bool))} {reason : String}
    {evaluate : W → Pass SubReconcilerResult} (ha : Has fp apply) (hr : fp.restart = true)
    (hReason : reason ∈ fp.reasons) {msg : String} (he : ∀ x, Has fp (evaluate x)) :
    Has fp (reconcileWorkload env apply reason msg evaluate) := by
  refine .bind ha fun applied => ?_
  split
  · exact .pure
  · split
    · exact has_finishRestart hr hReason
    · exact he _

theorem has_evaluateServing {deployment : Deployment} {revision : String} :
    Has (judging deploymentFootprint) (evaluateServing env deployment revision) := by
  refine .bind has_setCondition fun _ =>
    .bind (has_refreshFailureDetails rfl) fun _ =>
    .bind (has_checkPorts (by decide) rfl rfl) fun _ =>
    .bind has_resource fun resource => ?_
  split
  · exact .pure
  · split
    · exact .pure
    · exact .pure

theorem has_evaluateNotServing {deployment : Deployment} {revision : String} :
    Has (judging deploymentFootprint) (evaluateNotServing env deployment revision) := by
  refine .bind has_setCondition fun _ =>
    .bind (has_captureFailureDetailsOnce rfl) fun _ =>
    .bind (has_checkPorts (by decide) rfl rfl) fun _ =>
    .bind has_reportNotReady fun _ => ?_
  split
  · exact .pure
  · split
    · exact .pure
    · exact .pure

theorem has_evaluateDeploymentStatus (deployment : Deployment) :
    Has (judging deploymentFootprint) (evaluateDeploymentStatus env deployment) := by
  refine .bind has_syncReplicaCounts fun _ =>
    .bind (has_reportConvergence (by decide)) fun _ => ?_
  dsimp only
  split
  · exact has_evaluateServing
  · exact has_evaluateNotServing

theorem has_reconcileDeployment : Has deploymentFootprint (reconcileDeployment env) :=
  has_reconcileWorkload (has_applyWorkload (by decide) rfl) rfl (by decide)
    fun deployment => (has_evaluateDeploymentStatus deployment).widen

theorem has_evaluateStatefulSetStatus (sts : StatefulSet) :
    Has (judging statefulSetFootprint) (evaluateStatefulSetStatus env sts) := by
  refine .bind has_syncReplicaCounts fun _ => ?_
  split
  · refine .bind has_setCondition fun _ =>
      .bind has_setCondition fun _ =>
      .bind has_stampLastConverged fun _ =>
      .bind (has_clearFailureDetails rfl) fun _ =>
      .bind (has_checkPorts (by decide) rfl rfl) fun _ => ?_
    split
    · exact .pure
    · exact .pure
  · refine .bind has_setCondition fun _ =>
      .bind (has_capturePodFailureDetailsOnce rfl) fun _ =>
      .bind (has_checkPorts (by decide) rfl rfl) fun _ =>
      .bind has_setCondition fun _ =>
      .bind has_reportNotReady fun _ =>
      .bind has_resource fun resource => ?_
    split
    · exact .pure
    · split
      · exact .pure
      · exact .pure

theorem has_reconcileStatefulSet : Has statefulSetFootprint (reconcileStatefulSet env) :=
  has_reconcileWorkload (has_applyWorkload (by decide) rfl) rfl (by decide)
    fun sts => (has_evaluateStatefulSetStatus sts).widen

end

end ClusterAgent.Workload
