import ClusterAgent.Api.StackResource

/-!
# Cluster agent — User, namespaces and access control

A User is a service account with the same access rules in each of its namespaces.
-/

namespace ClusterAgent

open Conditions

/-! ## Access control -/

structure PolicyRule where
  verbs : List String := []
  apiGroups : List String := []
  resources : List String := []
  resourceNames : List String := []
  nonResourceURLs : List String := []
  deriving DecidableEq, Repr

structure ClusterRoleSpec where
  rules : List PolicyRule := []
  deriving DecidableEq, Repr

structure Subject where
  kind : String
  name : String
  ns : String := ""
  deriving DecidableEq, Repr

structure RoleRef where
  kind : String
  name : String
  apiGroup : String
  deriving DecidableEq, Repr

structure RoleBindingSpec where
  subjects : List Subject := []
  roleRef : RoleRef
  deriving DecidableEq, Repr

abbrev Namespace := Object Unit Unit
abbrev ServiceAccount := Object Unit Unit
abbrev ClusterRole := Object ClusterRoleSpec Unit
abbrev RoleBinding := Object RoleBindingSpec Unit

/-! ## User -/

inductive UserCondition where
  | available
  deriving DecidableEq, Repr

inductive UserPhase where
  | unset
  | pending
  | ready
  deriving DecidableEq, Repr

structure UserSpec where
  namespaces : List String
  username : String
  accessRules : List PolicyRule := []
  deriving DecidableEq, Repr

structure UserStatus where
  observedStackdomeServerObjectGeneration : Int := 0
  conditions : List (Condition UserCondition) := []
  namespaces : List String := []
  serviceAccountName : String := ""
  serviceAccountToken : String := ""
  phase : UserPhase := .unset
  statusHash : String := ""
  deriving DecidableEq, Repr

/-- Users are cluster-scoped. -/
abbrev User := Object UserSpec UserStatus

end ClusterAgent
