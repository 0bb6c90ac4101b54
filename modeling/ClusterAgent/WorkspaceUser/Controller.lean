import ClusterAgent.Controller.ObjectPass

/-!
# Cluster agent — the User controller

A User has a service account in a config namespace of its own, a ClusterRole with its
access rules, and for each namespace of its spec a RoleBinding of the two. A pass creates
what is missing and takes over what another owner has, one object at a time; then it
deletes the namespaces and the bindings that carry its label but are not listed.
-/

namespace ClusterAgent.WorkspaceUser

open Pass Effect Conditions Session ObjectPass

abbrev UserPass := ObjectPass UserSpec UserStatus

def workspaceUserLabel : String := "workspaceuser.stackdome.io/workspace-user"

/-! ## Names -/

def serviceAccountName (user : User) : String := user.spec.username ++ "-service-account"
def userRoleName (user : User) : String := user.name ++ "-role"
def userRoleBindingName (user : User) : String := userRoleName user ++ "-rolebinding"
def serviceAccountSecretName (user : User) : String := serviceAccountName user ++ "-secret"
def userConfigNamespace (user : User) : String := user.name ++ "-config"

/-! ## What a User has -/

def configNamespace (user : User) : Namespace where
  metadata := { name := userConfigNamespace user }
  spec := ()
  status := ()

def desiredNamespace (user : User) (ns : String) : Namespace where
  metadata := { name := ns, labels := [(workspaceUserLabel, user.name)] }
  spec := ()
  status := ()

def desiredServiceAccount (user : User) : ServiceAccount where
  metadata := { name := serviceAccountName user, ns := userConfigNamespace user }
  spec := ()
  status := ()

def desiredClusterRole (user : User) : ClusterRole where
  metadata := { name := userRoleName user }
  spec := { rules := user.spec.accessRules }
  status := ()

def rbacGroupName : String := "rbac.authorization.k8s.io"

def userSubject (user : User) : Subject :=
  { kind := "ServiceAccount", name := serviceAccountName user, ns := userConfigNamespace user }

def userRoleRef (user : User) : RoleRef :=
  { kind := "ClusterRole", name := userRoleName user, apiGroup := rbacGroupName }

def desiredRoleBinding (user : User) (ns : String) : RoleBinding where
  metadata :=
    { name := userRoleBindingName user
      ns := ns
      labels := [(workspaceUserLabel, user.name)] }
  spec := { subjects := [userSubject user], roleRef := userRoleRef user }
  status := ()

def secretTypeServiceAccountToken : String := "kubernetes.io/service-account-token"
def serviceAccountNameKey : String := "kubernetes.io/service-account.name"
def serviceAccountTokenKey : String := "token"

def desiredSASecret (user : User) : Secret where
  metadata :=
    { name := serviceAccountSecretName user
      ns := userConfigNamespace user
      annotations := [(serviceAccountNameKey, serviceAccountName user)] }
  spec := { type := secretTypeServiceAccountToken }
  status := ()

/-! ## One object -/

def hasSameController (objA objB : ObjectMeta) : Bool :=
  match getControllerOf objA, getControllerOf objB with
  | some controllerA, some controllerB => decide (controllerA.uid = controllerB.uid)
  | _, _ => false

section

variable (env : Env) {S T : Type}

def listEverywhere (kind : Kind S T) (labels : StringMap) : Pass (List (Object S T)) := do
  call env
  return (kind.get (← get).cluster).filter fun o =>
    labels.all fun e => decide (o.metadata.labels.get? e.1 = some e.2)

/-- Create the object if there is none; make the User its owner if it has another one. Nothing
else of an object that exists is looked at. -/
def ensureOwned [DecidableEq S] (kind : Kind S T) (wrap : GoError → GoError)
    (desired : Object S T) : Pass StepResult := do
  match ← attempt (getObject env kind desired.metadata.ns desired.metadata.name) with
  | .error e => throw (wrap e)
  | .ok none =>
    let _ ← create env kind desired
    return .requeue
  | .ok (some existing) =>
    if hasSameController existing.metadata desired.metadata then return .nil
    else
      let _ ← update env kind
        { existing with metadata.ownerReferences := desired.metadata.ownerReferences }
      return .requeue

/-- The objects in turn, up to the first that had to be written. -/
def ensureEach [DecidableEq S] (kind : Kind S T) (wrap : GoError → GoError) (user : User) :
    List (Object S T) → Pass StepResult
  | [] => return .nil
  | o :: rest => do
    let desired ← controlledBy user.metadata "User" o
    match ← ensureOwned env kind wrap desired with
    | .nil => ensureEach kind wrap user rest
    | result => return result

def removeUnwanted (kind : Kind S T) (user : User) (wanted : Object S T → Bool) : Pass Unit := do
  let objects ← listEverywhere env kind [(workspaceUserLabel, user.name)]
  (objects.filter fun o => !wanted o).forM (delete env kind)

/-! ## The steps -/

def reconcileConfigNamespace : UserPass StepResult := do
  let user ← getOwn
  onCluster (ensureEach env .kubeNamespace id user [configNamespace user])

def reconcileNamespaces : UserPass StepResult := do
  let user ← getOwn
  let result ← onCluster (ensureEach env .kubeNamespace id user
    (user.spec.namespaces.map (desiredNamespace user)))
  if result ≠ .nil then return result
  else
    onCluster (removeUnwanted env .kubeNamespace user fun ns =>
      decide (ns.name ∈ user.spec.namespaces))
    return .nil

def reconcileSA : UserPass StepResult := do
  let user ← getOwn
  onCluster (ensureEach env .serviceAccount
    (fun e => { message := "failed to get ServiceAccount: " ++ e.message }) user
    [desiredServiceAccount user])

/-- The one object of which more than the owner is checked. -/
def reconcileRole : UserPass StepResult := do
  let user ← getOwn
  let desired ← onCluster (controlledBy user.metadata "User" (desiredClusterRole user))
  match ← onCluster (getObject env .clusterRole desired.metadata.ns desired.metadata.name) with
  | none =>
    let _ ← onCluster (create env .clusterRole desired)
    return .requeue
  | some existing =>
    if hasSameController existing.metadata desired.metadata ∧
        desired.spec.rules = existing.spec.rules
    then return .nil
    else
      let _ ← onCluster (update env .clusterRole
        { existing with
          metadata.ownerReferences := desired.metadata.ownerReferences
          spec.rules := desired.spec.rules })
      return .requeue

def reconcileRoleBinding : UserPass StepResult := do
  let user ← getOwn
  let result ← onCluster (ensureEach env .roleBinding
    (fun e => { message := "failed to get RoleBinding: " ++ e.message }) user
    (user.spec.namespaces.map (desiredRoleBinding user)))
  if result ≠ .nil then return result
  else
    onCluster (removeUnwanted env .roleBinding user fun roleBinding =>
      decide (roleBinding.metadata.ns ∈ user.spec.namespaces))
    return .nil

def reconcileSASecret : UserPass StepResult := do
  let user ← getOwn
  onCluster (ensureEach env .secret id user [desiredSASecret user])

/-! ## Status, and the whole pass -/

def setUserAvailable (user : User) (available : Bool) (reason message : String)
    (conditions : List (Condition UserCondition)) : List (Condition UserCondition) :=
  Conditions.setStatusCondition env.clock.wall conditions
    { type := .available
      status := .ofBool available
      observedGeneration := user.generation
      reason := reason
      message := message }

def readyStatus (user : User) (token : String) (status : UserStatus) : UserStatus :=
  let status := { status with
    namespaces := user.spec.namespaces
    phase := .ready
    serviceAccountName := serviceAccountName user
    serviceAccountToken := token
    conditions := setUserAvailable env user true "WorkspaceUserReady" "WorkspaceUser ready"
      status.conditions }
  { status with statusHash := env.userStatusDigest { status with statusHash := "" } }

def statusReconciler : UserPass StepResult := do
  let user ← getOwn
  modifyStatus fun status =>
    match user.metadata.labels.get? stackdomeObjectGeneration with
    | some version => { status with observedStackdomeServerObjectGeneration := parseInt64 version }
    | none => status
  let existingSecret ← onCluster (mustGet env .secret (userConfigNamespace user)
    (serviceAccountSecretName user))
  match existingSecret.spec.data.get? serviceAccountTokenKey with
  | none =>
    modifyStatus fun status =>
      { status with
        conditions := setUserAvailable env user false "WorkspaceUserNotYetReady"
          "WorkspaceUser not yet ready. Missing service account token" status.conditions }
    return .requeue
  | some token =>
    modifyStatus (readyStatus env user token)
    return .nil

def subReconcilers : List (UserPass StepResult) :=
  [reconcileConfigNamespace env, reconcileNamespaces env, reconcileSA env, reconcileRole env,
    reconcileRoleBinding env, reconcileSASecret env, statusReconciler env]

def storedStatus (status : UserStatus) : UserStatus :=
  { status with
    conditions := status.conditions.map fun c =>
      { c with lastTransitionTime := storedTime c.lastTransitionTime } }

def reconcile (name : String) : UserPass ReconcileResult := do
  match ← onCluster (getObject env .user "" name) with
  | none => return {}
  | some user =>
    modifyOwn fun _ => user
    let result ← runChain (subReconcilers env)
    onCluster (storeStatus env .user storedStatus (← getOwn))
    return result

end

end ClusterAgent.WorkspaceUser
