import ClusterAgent.Api.StackResource

/-!
# Cluster agent — the Stack API type

A `Stack` names the resources that belong together and reports the rollup of
their status. `ResourceNames` is a list used as a set (`listType=set`).
-/

namespace ClusterAgent

open Conditions

/-- `unset` is the empty string of an object no pass has written yet. -/
inductive StackPhase where
  | unset
  | ready
  | pending
  | failed
  | degraded
  | progressing
  deriving DecidableEq, Repr

/-- The type of a condition stored on a Stack. The agent writes the first six. -/
inductive StackCondition where
  | available
  | converged
  | resourcesReady
  | stalled
  | degraded
  | progressing
  | other (name : String)
  deriving DecidableEq, Repr

structure StackResourceSummary where
  name : String
  phase : StackResourcePhase := .unset
  observedRevision : String := ""
  convergedRevision : String := ""
  lastConverged : Option StackResourceConvergenceRecord := none
  availableReplicas : Int := 0
  updatedReplicas : Int := 0
  replicas : Int := 0
  missing : Bool := false
  message : String := ""
  deriving DecidableEq, Repr

structure ConvergenceRecord where
  revision : String
  releaseID : String := ""
  «at» : Timestamp
  deriving DecidableEq, Repr

structure StackStatus where
  observedGeneration : Int := 0
  targetRevision : String := ""
  lastConverged : Option ConvergenceRecord := none
  phase : StackPhase := .unset
  conditions : List (Condition StackCondition) := []
  resources : List StackResourceSummary := []
  orphanedResources : List String := []
  statusHash : String := ""
  deriving DecidableEq, Repr

structure Stack where
  metadata : ObjectMeta
  resourceNames : List String
  status : StackStatus := {}
  deriving DecidableEq, Repr

namespace Stack

def generation (s : Stack) : Int := s.metadata.generation

def revision (s : Stack) : String := s.metadata.annotations.get revisionAnnotationKey

def releaseID (s : Stack) : String := s.metadata.annotations.get releaseIDAnnotationKey

/-- The release hub stamped a revision on the Stack. -/
def managed (s : Stack) : Bool := decide (s.revision ≠ "")

end Stack

end ClusterAgent
