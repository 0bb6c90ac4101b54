import Mathlib.Data.List.Dedup
import ClusterAgent.ImageBuild.Controller
import ClusterAgent.StackResource.Chain
import ClusterAgent.Volume.SyncJobs

/-!
# Cluster agent — the Volume controller

A pass over a Volume makes its claim and then fills it from the sources of the spec:
a directory the client copies, artifacts of builds, a git repository. The last two
are Jobs that the pass creates once and then looks up by name until they are complete.
-/

namespace ClusterAgent.VolumeController

open Pass Effect Conditions Session ObjectPass VolumeSync

abbrev VolumePass := ObjectPass VolumeSpec VolumeStatus

def storedStatus (status : VolumeStatus) : VolumeStatus :=
  { status with
    conditions := status.conditions.map fun c =>
      { c with lastTransitionTime := storedTime c.lastTransitionTime } }

def withStatusHash (env : Env) (status : VolumeStatus) : VolumeStatus :=
  { status with statusHash := env.volumeStatusDigest { status with statusHash := "" } }

section

variable (env : Env)

def setCondition (volume : Volume) (condType : VolumeCondition) (ready : Bool)
    (reason message : String) (status : VolumeStatus) : VolumeStatus :=
  { status with
    conditions := setStatusCondition env.clock.wall status.conditions
      { type := condType
        status := .ofBool ready
        observedGeneration := volume.generation
        reason := reason
        message := message } }

/-! ## The claim -/

def reportVolumeProvisioned : VolumePass Unit := do
  let volume ← getOwn
  modifyStatus fun status =>
    setCondition env volume .available true "VolumeProvisioned" "Volume is provisioned."
      { status with
        observedGeneration := volume.generation
        phase := .ready
        pvcName := volume.name }

def desiredPVC (volume : Volume) (resourceSize : Int) : PersistentVolumeClaim where
  metadata :=
    { name := volume.name
      ns := volume.metadata.ns
      labels := volume.metadata.labels }
  spec :=
    { accessModes := [volume.spec.accessMode]
      storage := resourceSize
      storageClassName :=
        if volume.spec.storageClass = "" then none else some volume.spec.storageClass }
  status := ()

def reconcilePVC : VolumePass Unit := do
  let volume ← getOwn
  match env.parseQuantity volume.spec.size with
  | .error e => throw { message := "failed to parse resource size in the resource: " ++ e }
  | .ok resourceSize =>
    match ← onCluster (attempt (controlledBy volume.metadata "Volume"
      (desiredPVC volume resourceSize))) with
    | .error e => throw (e.wrap "failed to set owner refs")
    | .ok desired =>
      match ← onCluster (getObject env .persistentVolumeClaim desired.metadata.ns
        desired.metadata.name) with
      | none =>
        let _ ← onCluster (create env .persistentVolumeClaim desired)
      | some _ => reportVolumeProvisioned env

/-! ## A directory of the client -/

/-- The client copies the directory before it writes the hash. -/
def reconcileLocalVolumeSource (source : VolumeSource) : VolumePass StepResult := do
  match source.remoteDir with
  | none => return .nil
  | some localDirSrc =>
    let volume ← getOwn
    if localDirSrc.currentDirectoryHash ≠ "" then
      modifyStatus fun status =>
        { setCondition env volume .syncedFromRemote true "RemoteDataSynced"
            ("Directory with hash '" ++ localDirSrc.currentDirectoryHash ++ "' synced") status with
          lastRemoteSyncHash := localDirSrc.currentDirectoryHash }
    return .nil

/-! ## Build artifacts -/

def getStackResource (ns name : String) : Pass (Option StackResource) := do
  call env
  return StackResourceController.lookupResource (← get).cluster ns name

/-- The build each artifact comes from, or none if a resource or its build is not there. -/
def getImageBuildsForResources : List BuildArtifactSource → List (String × ImageBuild) →
    VolumePass (Option (List (String × ImageBuild)))
  | [], res => return some res
  | artifact :: rest, res => do
    let volume ← getOwn
    match ← onCluster (attempt (getStackResource env volume.metadata.ns artifact.buildSource)) with
    | .error e =>
      throw (e.wrap ("failed to get the resource '" ++ artifact.buildSource ++ "' in volume '" ++
        volume.name ++ "'"))
    | .ok none => return none
    | .ok (some resource) =>
      match resource.spec.buildSpec with
      | none => throw nilDereference
      | some buildSpec =>
        let imageBuildName := generateImageBuildName env resource buildSpec
        match ← onCluster (attempt (getObject env .imageBuild volume.metadata.ns
          imageBuildName)) with
        | .error e =>
          throw (e.wrap ("failed to get the application build '" ++ imageBuildName ++
            "' for volume sync'" ++ volume.name ++ "'"))
        | .ok none => return none
        | .ok (some imageBuild) =>
          getImageBuildsForResources rest ((artifact.buildSource, imageBuild) :: res)

def buildAvailable (imageBuild : ImageBuild) : Bool :=
  ImageBuildController.conditionIsTrue imageBuild.status.conditions .available

def setBuildArtifactSyncStatus (resourceName buildID : String)
    (syncStatus : BuildArtifactSyncStatus)
    (status : VolumeStatus) : VolumeStatus :=
  { status with
    buildArtifactSyncs := (resourceName, { buildID := buildID, status := syncStatus }) ::
      status.buildArtifactSyncs.filter fun e => decide (e.1 ≠ resourceName) }

/-- What is recorded for a resource that has no completed sync Job for its build. -/
def reportBuildNotSynced (resourceName : String) (imageBuild : ImageBuild) : VolumePass Unit :=
  modifyStatus (setBuildArtifactSyncStatus resourceName (shortBuildSrcRevisionFromSpec imageBuild)
    (if ImageBuildController.conditionIsTrue imageBuild.status.conditions .failed then .failed
      else .pending))

def reconcileBuildArtifactsSrcsForResource (resourceName : String) (imageBuild : ImageBuild)
    (buildArtifacts : List BuildArtifactSource) : VolumePass Unit := do
  if buildAvailable imageBuild then
    let volume ← getOwn
    let desiredJob ← onCluster (controlledBy volume.metadata "Volume"
      (createBuildArtifactsVolumeSyncJob volume resourceName buildArtifacts imageBuild))
    match ← onCluster (attempt (getObject env .job desiredJob.metadata.ns
      desiredJob.metadata.name)) with
    | .error e => throw (e.wrap "failed to get existing build artifacts sync job")
    | .ok none =>
      let _ ← onCluster (create env .job desiredJob)
    | .ok (some existingJob) =>
      if jobCompleted existingJob then
        modifyStatus (setBuildArtifactSyncStatus resourceName
          (shortBuildSrcRevisionFromStatus imageBuild) .completed)
      else reportBuildNotSynced resourceName imageBuild
  else reportBuildNotSynced resourceName imageBuild

def reconcileEachResource (source : VolumeSource) (builds : List (String × ImageBuild)) :
    List String → VolumePass Unit
  | [] => return ()
  | resourceRef :: rest => do
    match builds.lookup resourceRef with
    | none =>
      throw { message := "application build not found for resource '" ++ resourceRef ++ "'" }
    | some applicationBuild =>
      reconcileBuildArtifactsSrcsForResource env resourceRef applicationBuild
        (artifactsOf source resourceRef)
      reconcileEachResource source builds rest

def reconcileBuildArtifactsSources (source : VolumeSource) : VolumePass StepResult := do
  match source.buildArtifacts with
  | none => return .nil
  | some artifacts =>
    match ← getImageBuildsForResources env artifacts [] with
    | none => return .stop
    | some builds =>
      reconcileEachResource env source builds
        (env.nameOrder (artifacts.map BuildArtifactSource.buildSource).dedup)
      return .nil

/-! ## Git, and the whole pass -/

def desiredGitSyncJob (volume : Volume) (gitSource : VolumeGitRepoSource) : Pass Job := do
  match buildGitSyncParams volume gitSource with
  | .error e => throw { message := "failed to build git sync job params: " ++ e.message }
  | .ok params =>
    match generateGitSyncJob env (gitSyncJobName env.gitRevisionHash volume.name
      gitSource.revision.getGitRevisionString) params with
    | .error e => throw { message := "failed to build git sync job: " ++ e.message }
    | .ok job => controlledBy volume.metadata "Volume" job

def reportGitSync (volume : Volume) (gitSource : VolumeGitRepoSource) (existingJob : Job)
    (status : VolumeStatus) : VolumeStatus :=
  if jobCompleted existingJob then
    { setCondition env volume .syncedFromGitSource true "GitSyncComplete"
        "Volume has been successfully synced from git source" status with
      gitRepoSyncedPathWithinVolume := destDirWithinVolume
      lastSyncedGitReference := gitSource.revision.getGitRevisionString }
  else
    setCondition env volume .syncedFromGitSource false "GitSyncNotCompleteComplete"
      "Volume sync from git source not complete" status

def reconcileGitSource (source : VolumeSource) : VolumePass StepResult := do
  match source.gitRepo with
  | none => return .nil
  | some gitSource =>
    let volume ← getOwn
    if volume.status.pvcName = "" then return .requeue
    else
      let desiredJob ← onCluster (desiredGitSyncJob env volume gitSource)
      match ← onCluster (attempt (getObject env .job desiredJob.metadata.ns
        desiredJob.metadata.name)) with
      | .error e => throw (e.wrap "failed to get existing git sync job")
      | .ok none =>
        let _ ← onCluster (create env .job desiredJob)
        return .nil
      | .ok (some existingJob) =>
        modifyStatus (reportGitSync env volume gitSource existingJob)
        onCluster (storeStatus env .volume storedStatus (← getOwn))
        -- the client reads the answer back into the object
        modifyStatus storedStatus
        return .nil

def subReconcilers (source : VolumeSource) : List (VolumePass StepResult) :=
  [reconcileLocalVolumeSource env source, reconcileBuildArtifactsSources env source,
    reconcileGitSource env source]

/-- Whether the sources are in is not waited for: the caller drops the result. -/
def reconcileVolumeSource : VolumePass Unit := do
  let volume ← getOwn
  match volume.spec.source with
  | none => return ()
  | some source =>
    let _ ← runChain (subReconcilers env source)

def reconcile (ns name : String) : VolumePass ReconcileResult := do
  match ← onCluster (getObject env .volume ns name) with
  | none => return {}
  | some volume =>
    modifyOwn fun _ => volume
    reconcilePVC env
    reconcileVolumeSource env
    modifyStatus (withStatusHash env)
    onCluster (storeStatus env .volume storedStatus (← getOwn))
    return {}

end

end ClusterAgent.VolumeController
