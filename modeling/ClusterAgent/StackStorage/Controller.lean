import ClusterAgent.Controller.ObjectPass
import ClusterAgent.StackResource.Service
import ClusterAgent.Workload.Rollout

/-!
# Cluster agent — the Storage controller

A pass over a Storage creates or updates its Volumes, deletes those with its label that
the spec no longer lists, and runs an ssh server that mounts them: a Secret with the
user's public key, a Deployment and a Service.
-/

namespace ClusterAgent.StackStorage

open Pass Conditions Session ObjectPass

abbrev StoragePass := ObjectPass StorageSpec StorageStatus

/-! ## Status -/

def observeServerGeneration (storage : Storage) (status : StorageStatus) : StorageStatus :=
  match storage.metadata.labels.get? stackdomeObjectGeneration with
  | some version => { status with observedStackdomeServerObjectGeneration := parseInt64 version }
  | none => status

def storedStatus (status : StorageStatus) : StorageStatus :=
  { status with
    conditions := status.conditions.map fun c =>
      { c with lastTransitionTime := storedTime c.lastTransitionTime } }

def withStatusHash (env : Env) (status : StorageStatus) : StorageStatus :=
  { status with statusHash := env.storageStatusDigest { status with statusHash := "" } }

section

variable (env : Env)

def setAvailable (storage : Storage) (available : Bool) (reason message : String)
    (status : StorageStatus) : StorageStatus :=
  withStatusHash env
    { status with
      conditions := Conditions.setStatusCondition env.clock.wall status.conditions
        { type := .available
          status := .ofBool available
          observedGeneration := storage.generation
          reason := reason
          message := message } }

def reportStorageUnAvailable (reason message : String) : StoragePass Unit := do
  let storage ← getOwn
  modifyStatus fun status =>
    setAvailable env storage false reason message
      { observeServerGeneration storage status with phase := .pending }

def reportStorageAvailable (storageSvc : Service) : StoragePass Unit := do
  let storage ← getOwn
  modifyStatus fun status =>
    setAvailable env storage true "AllComponentsUp" "All components are up and running."
      { observeServerGeneration storage status with
        phase := .ready
        serviceName := storageSvc.name }

/-! ## Volumes -/

def volumeAvailable (existingVolume : Volume) : Bool :=
  match findStatusCondition existingVolume.status.conditions .available with
  | none => false
  | some c =>
    decide (c.status = .conditionTrue) &&
      decide (c.observedGeneration = existingVolume.generation)

/-- The spec a Volume gets: labels and annotations become the Volume's own. -/
def desiredVolumeSpec (volumeSpec : VolumeSpec) : VolumeSpec :=
  { size := volumeSpec.size
    storageClass := volumeSpec.storageClass
    needsSyncBeforeUse := volumeSpec.needsSyncBeforeUse
    source := volumeSpec.source
    accessMode := volumeSpec.accessMode }

def desiredVolume (ws : Storage) (volumeName : String) (volumeSpec : VolumeSpec) : Volume where
  metadata :=
    { name := volumeName
      ns := ws.metadata.ns
      labels := volumeSpec.labels.set storageNameLabel ws.name
      annotations := volumeSpec.annotations }
  spec := desiredVolumeSpec volumeSpec
  status := {}

/-- The Volume that exists under the name, if any, and whether the pass may go on. An update
replaces the metadata of what it finds, finalizers included. -/
def reconcileVolume (volumeName : String) (volumeSpec : VolumeSpec) :
    StoragePass (StepResult × Option Volume) := do
  let ws ← getOwn
  let desired ← onCluster (controlledBy ws.metadata "Storage"
    (desiredVolume ws volumeName volumeSpec))
  match ← onCluster (getObject env .volume desired.metadata.ns desired.metadata.name) with
  | none =>
    let _ ← onCluster (create env .volume desired)
    return (.requeue, none)
  | some existingVolume =>
    if existingVolume.spec ≠ desired.spec then
      onCluster (updateOrRelease env .volume desired)
    if volumeAvailable existingVolume then return (.nil, some existingVolume)
    else
      reportStorageUnAvailable env "VolumeNotReady" ("Volume '" ++ volumeName ++ "' not ready")
      return (.stop, some existingVolume)

def reconcileEachVolume : List String → List Volume → StoragePass (StepResult × List Volume)
  | [], existingVolumes => return (.nil, existingVolumes)
  | volumeName :: rest, existingVolumes => do
    match (← getOwn).spec.volumeSpecs.lookup volumeName with
    | none => reconcileEachVolume rest existingVolumes
    | some volumeSpec =>
      let (result, existingVolume) ← reconcileVolume env volumeName volumeSpec
      if result ≠ .nil then return (result, existingVolumes)
      else reconcileEachVolume rest (existingVolumes ++ existingVolume.toList)

/-- The Volumes with the label of the Storage that its spec does not list are deleted. -/
def removeExtraVolumes : StoragePass Unit := do
  let storage ← getOwn
  let existingVolumes ← onCluster (listObjects env .volume storage.metadata.ns
    [(storageNameLabel, storage.name)])
  onCluster ((existingVolumes.filter fun v => !containsVolume storage v.name).forM
    (delete env .volume))

def setVolumeStatus (existingVolumes : List Volume) : StoragePass Unit := do
  let storage ← getOwn
  modifyStatus fun status =>
    { status with
      volumeStatus := existingVolumes.map fun volume =>
        { volumeName := volume.name
          subpath := mountPathForVolume storage volume.name
          available := volumeAvailable volume } }

def reconcileVolumes : StoragePass StepResult := do
  let storage ← getOwn
  let names := env.nameOrder (storage.spec.volumeSpecs.map Prod.fst)
  let (result, existingVolumes) ← reconcileEachVolume env names []
  if result ≠ .nil then return result
  else
    removeExtraVolumes env
    setVolumeStatus existingVolumes
    return .nil

/-! ## The ssh server -/

def sshSecretKey : String := "authorized_keys"

def storageServerSSHSecretName (storage : Storage) : String := storage.name ++ "-public-ssh-secret"

def storageLabels (storage : Storage) : StringMap :=
  [("storage.stackdome.io/ProvisionedFor", storage.spec.provisionedFor),
   ("storage.stackdome.io/ssh-server-for", storage.name)]

def desiredSSHSecret (storage : Storage) : Secret where
  metadata :=
    { name := storageServerSSHSecretName storage
      ns := storage.metadata.ns
      labels := storageLabels storage }
  spec := { data := [(sshSecretKey, storage.spec.userPublicSSHKey)] }
  status := ()

def reconcileSSHKeySecret : StoragePass StepResult := do
  let storage ← getOwn
  let desired ← onCluster (controlledBy storage.metadata "Storage" (desiredSSHSecret storage))
  match ← onCluster (getObject env .secret desired.metadata.ns desired.metadata.name) with
  | none =>
    let _ ← onCluster (create env .secret desired)
    return .requeueAfter second
  | some existingSecret =>
    if existingSecret.spec.data.get? sshSecretKey ≠ some storage.spec.userPublicSSHKey then
      let _ ← onCluster (update env .secret
        { existingSecret with spec.data := desired.spec.data })
      return .requeueAfter second
    else return .nil

/-- The Volumes of the spec whose controller has the name of the Storage, by the index of the
manager's cache. -/
def getVolumesDefined : StoragePass (List Volume) := do
  let storage ← getOwn
  let volumes ← onCluster (listObjects env .volume storage.metadata.ns [])
  return volumes.filter fun v =>
    (match getControllerOf v.metadata with
      | some owner => decide (owner.name = storage.name)
      | none => false) && containsVolume storage v.name

def stackdomeSSHServerImage : String := "quay.io/stackdome/ssh-server:v.0.0.1"

def sshServerVolumes (storage : Storage) (definedVolumes : List Volume) : List PodVolume :=
  (definedVolumes.map fun volume => { name := volume.name, claimName := volume.status.pvcName }) ++
    [{ name := "user-ssh-public-key"
       secret := some
         { secretName := storageServerSSHSecretName storage, key := "", path := "" } }]

def sshServerMounts (storage : Storage) (definedVolumes : List Volume) :
    List ContainerVolumeMount :=
  (definedVolumes.map fun volume =>
    { name := volume.name, mountPath := mountPathForVolume storage volume.name }) ++
    [{ name := "user-ssh-public-key"
       mountPath := "/home/stackdomeuser/.ssh/authorized_keys"
       subPath := "authorized_keys" }]

def blankContainer : Container :=
  { name := "", image := "", imagePullPolicy := "", terminationMessagePolicy := "" }

/-- The first container, with what the pass sets; the rest of it is left. -/
def sshServerContainer (storage : Storage) (definedVolumes : List Volume) (c : Container) :
    Container :=
  { c with
    name := storage.name ++ "-storage-server"
    image := stackdomeSSHServerImage
    imagePullPolicy := "IfNotPresent"
    ports := [{ name := "", containerPort := 2222 }]
    volumeMounts := sshServerMounts storage definedVolumes
    resources := [("limits.memory", "1000Mi")] }

def mutateSSHServer (storage : Storage) (definedVolumes : List Volume) (deployment : Deployment) :
    Deployment :=
  let containers :=
    match deployment.spec.template.spec.containers with
    | [] => [sshServerContainer storage definedVolumes blankContainer]
    | c :: rest => sshServerContainer storage definedVolumes c :: rest
  { deployment with
    metadata.labels := storageLabels storage
    spec :=
      { deployment.spec with
        replicas := some 1
        selector := storageLabels storage
        template :=
          { deployment.spec.template with
            labels := storageLabels storage
            spec :=
              { deployment.spec.template.spec with
                volumes := sshServerVolumes storage definedVolumes
                containers := containers } } } }

def blankDeployment (storage : Storage) : Deployment where
  metadata := { name := storage.name, ns := storage.metadata.ns }
  spec := {}
  status := {}

def createOrUpdateSSHServer (storage : Storage) (definedVolumes : List Volume) :
    Pass (Deployment × Bool) := do
  let existed ← getObject env .deployment storage.metadata.ns storage.name
  let mutate (deployment : Deployment) : Pass Deployment :=
    controlledBy storage.metadata "Storage" (mutateSSHServer storage definedVolumes deployment)
  match existed with
  | none =>
    let deployment ← mutate (blankDeployment storage)
    return (← create env .deployment deployment, true)
  | some existing =>
    let deployment ← mutate existing
    if existing = deployment then return (deployment, false)
    else return (← update env .deployment deployment, false)

def reconcileSSHServer : StoragePass StepResult := do
  let storage ← getOwn
  let definedVolumes ← getVolumesDefined env
  let (deployment, created) ← onCluster (createOrUpdateSSHServer env storage definedVolumes)
  if created then
    reportStorageUnAvailable env "StorageServerNotReady" "Storage Server is being created"
    return .requeue
  else if Workload.deploymentServing deployment then return .nil
  else
    reportStorageUnAvailable env "StorageServerNotReady" "Storage Server unavailable"
    return .stop

/-! ## The Service, and the whole pass -/

def desiredStorageService (storage : Storage) : Service where
  metadata :=
    { name := storage.name ++ "-storage-svc"
      ns := storage.metadata.ns
      labels := storageLabels storage }
  spec :=
    { selector := storageLabels storage
      ports := [{ name := "ssh", port := 2222, targetPort := "2222" }] }
  status := ()

def reconcileService : StoragePass StepResult := do
  let storage ← getOwn
  let desired ← onCluster (controlledBy storage.metadata "Storage" (desiredStorageService storage))
  match ← onCluster (getObject env .service desired.metadata.ns desired.metadata.name) with
  | none =>
    let _ ← onCluster (create env .service desired)
    return .requeue
  | some existingSvc =>
    if ClusterAgent.Service.areServicesEqual desired existingSvc then
      reportStorageAvailable env existingSvc
      return .nil
    else
      let _ ← onCluster (update env .service { existingSvc with spec := desired.spec })
      return .nil

def subReconcilers : List (StoragePass StepResult) :=
  [reconcileVolumes env, reconcileSSHKeySecret env, reconcileSSHServer env, reconcileService env]

def reconcile (ns name : String) : StoragePass ReconcileResult := do
  match ← onCluster (getObject env .storage ns name) with
  | none => return {}
  | some storage =>
    modifyOwn fun _ => storage
    let result ← runChain (subReconcilers env)
    onCluster (storeStatus env .storage storedStatus (← getOwn))
    return result

end

end ClusterAgent.StackStorage
