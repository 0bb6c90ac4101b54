import ClusterAgent.StackResource.Dependencies
import ClusterAgent.Workload.Batch
import ClusterAgent.Workload.Rollout

/-!
# Cluster agent — the workload step

The third sub-reconciler of the chain: the gates on sibling resources, volumes
and the image build, and then the reconciler of the workload's kind.
-/

namespace ClusterAgent.Workload

open Pass Effect

def defaultRequeueTime : Int := 5 * second

section

variable (env : Env)

def reconcileKind (workloadType : WorkloadType) : Pass SubReconcilerResult :=
  match workloadType with
  | .service | .worker | .unset => reconcileDeployment env
  | .statefulService => reconcileStatefulSet env
  | .job => reconcileJob env
  | .cronJob => reconcileCronJob env
  | .unknown name => throw { message := "unknown workload type: " ++ name }

def buildGate (resource : StackResource) : Pass SubReconcilerResult := do
  match resource.spec.buildSpec with
  | none => reconcileKind env resource.spec.workloadType
  | some buildSpec =>
    let build ← getImageBuild env resource buildSpec
    if !imageBuildComplete build then
      setCondition env .buildReady false "BuildNotReady" "application build is not yet ready"
      reportNotReady "ApplicationBuildNotYetReady" "Application build is not yet ready"
      return .stop
    else
      setCondition env .buildReady true "BuildReady" "application build complete"
      reconcileKind env resource.spec.workloadType

def closeGate (reason message : String) : Pass SubReconcilerResult := do
  setCondition env .dependenciesReady false reason message
  reportNotReady reason message
  return .requeueAfter defaultRequeueTime

/-- The gate on mounted volumes. A failed lookup is logged and leaves the gate closed. -/
def volumeGate (resource : StackResource) : Pass SubReconcilerResult := do
  match ← attempt (Dependencies.volumeMountsReadyForUse env resource) with
  | .ok (true, _) =>
    setCondition env .dependenciesReady true "DependenciesReady"
      "dependencies and volume mounts ready"
    buildGate env resource
  | .ok (false, message) => closeGate env "VolumeMountsNotReady" message
  | .error _ => closeGate env "VolumeMountsNotReady" ""

def reconcile : Pass SubReconcilerResult := do
  let resource ← Pass.resource
  match ← Dependencies.dependenciesAvailable env resource with
  | (true, _) => volumeGate env resource
  | (false, message) => closeGate env "DependenciesNotReady" message

/-! ## Footprint -/

/-- What the kind reconcilers may touch, taken together. -/
def kindFootprint : Footprint where
  conditions := [.workloadAvailable, .workloadConverged]
  failureDetails := true
  restart := true
  objects := [.deployment, .statefulSet, .job, .cronJob]
  reasons := ["StackResourceDeploymentNotReady", "StackResourceStatefulSetNotReady", "JobRunning"]
  fails := true

def footprint : Footprint where
  conditions := [.dependenciesReady, .buildReady, .workloadAvailable, .workloadConverged]
  failureDetails := true
  restart := true
  objects := [.deployment, .statefulSet, .job, .cronJob]
  reasons := ["DependenciesNotReady", "VolumeMountsNotReady", "ApplicationBuildNotYetReady",
    "StackResourceDeploymentNotReady", "StackResourceStatefulSetNotReady", "JobRunning"]
  fails := true

variable {env}

theorem has_reconcileKind (workloadType : WorkloadType) :
    Has kindFootprint (reconcileKind env workloadType) := by
  cases workloadType with
  | unset => exact has_reconcileDeployment.widen
  | service => exact has_reconcileDeployment.widen
  | worker => exact has_reconcileDeployment.widen
  | statefulService => exact has_reconcileStatefulSet.widen
  | job => exact has_reconcileJob.widen
  | cronJob => exact has_reconcileCronJob.widen
  | unknown name => exact .throw

theorem has_closeGate {fp : Footprint} (hd : .dependenciesReady ∈ fp.conditions) {reason : String}
    (hr : reason ∈ fp.reasons) (message : String) : Has fp (closeGate env reason message) :=
  .bind (has_setCondition hd) fun _ =>
    .bind (has_reportNotReady hr) fun _ => .pure

theorem has_buildGate {resource : StackResource} : Has footprint (buildGate env resource) := by
  unfold buildGate
  split
  · exact (has_reconcileKind _).widen
  · refine .bind (Has.of_reads reads_mustGet) fun build => ?_
    split
    · exact .bind has_setCondition fun _ =>
        .bind has_reportNotReady fun _ => .pure
    · exact .bind has_setCondition fun _ =>
        (has_reconcileKind _).widen

theorem has_volumeGate {resource : StackResource} : Has footprint (volumeGate env resource) := by
  refine .bind (Has.of_reads
    Dependencies.reads_volumeMountsReadyForUse.attempt) fun answer => ?_
  split
  · exact .bind has_setCondition fun _ => has_buildGate
  · exact has_closeGate (by decide) (by decide) _
  · exact has_closeGate (by decide) (by decide) _

variable (env)

theorem has_reconcile : Has footprint (reconcile env) := by
  refine .bind has_resource fun resource =>
    .bind (Has.of_reads Dependencies.reads_dependenciesAvailable) fun answer => ?_
  split
  · exact has_volumeGate
  · exact has_closeGate (by decide) (by decide) _

end

end ClusterAgent.Workload
