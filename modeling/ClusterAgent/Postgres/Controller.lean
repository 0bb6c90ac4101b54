import ClusterAgent.Postgres.Databases

/-!
# Cluster agent — the PostgresCluster controller

A pass adds the finalizer first, then runs the five sub-reconcilers, and stores the
status if it changed. A pass that fails stores no status.
-/

namespace ClusterAgent.PostgresController

open Pass Conditions Session ObjectPass Addons

def cacheFinalizer : String := "addons-postgrescluster.stackdome.io/cache"

def storedStatus (s : PostgresClusterStatus) : PostgresClusterStatus :=
  { s with
    conditions := s.conditions.map fun c =>
      { c with lastTransitionTime := storedTime c.lastTransitionTime }
    lastImmeadiateBackupProcessedAt := s.lastImmeadiateBackupProcessedAt.map storedTime }

section

variable (env : Env)

def initializeStatusAndPhase (resource : PostgresCluster) : PostgresCluster :=
  let status := { resource.status with
    observedGeneration := resource.generation
    phase := pendingPhase }
  { resource with
    status :=
      match findStatusCondition status.conditions .clusterReady with
      | some _ => status
      | none =>
        { status with
          conditions := Conditions.setStatusCondition env.clock.wall status.conditions
            { type := .clusterReady
              status := .conditionUnknown
              observedGeneration := resource.generation
              reason := "PostgresClusterStatusUnknown"
              message := "PostgresCluster status is unknown" } } }

def subReconcilers : List (PostgresPass StepResult) :=
  [reconcileResourceValidation env, reconcilePgCluster env, reconcileClusterLifecycle env,
    reconcileDatabases env, reconcileBackups env]

def reconcileDelete : PostgresPass Unit := do
  setStatusCondition env .clusterReady .conditionFalse "Deleted" "PostgresCluster has been deleted"
  setPhase deletingPhase
  onCluster (storeStatus env .postgresCluster storedStatus (← getOwn))

def reconcile (ns name : String) : PostgresPass ReconcileResult := do
  match ← onCluster (getObject env .postgresCluster ns name) with
  | none => return {}
  | some postgresCluster =>
    modifyOwn fun _ => postgresCluster
    if postgresCluster.metadata.deletionTimestamp ≠ none then
      if cacheFinalizer ∈ postgresCluster.metadata.finalizers then
        reconcileDelete env
        let resource ← getOwn
        onCluster (updateOrRelease env .postgresCluster
          { resource with
            metadata.finalizers := resource.metadata.finalizers.filter fun f =>
              decide (f ≠ cacheFinalizer) })
        return {}
      else return {}
    else if cacheFinalizer ∉ postgresCluster.metadata.finalizers then
      let _ ← onCluster (update env .postgresCluster
        { postgresCluster with
          metadata.finalizers := postgresCluster.metadata.finalizers ++ [cacheFinalizer] })
      return {}
    else
      modifyOwn (initializeStatusAndPhase env)
      let result ← runChain (subReconcilers env)
      let resource ← getOwn
      if resource.status ≠ postgresCluster.status then
        onCluster (storeStatus env .postgresCluster storedStatus resource)
      return result

end

end ClusterAgent.PostgresController
