import ClusterAgent.Builds.Kaniko
import ClusterAgent.Controller.Session
import ClusterAgent.Workload.Diagnosis

/-!
# Cluster agent — the ImageBuild controller

An ImageBuild is one build of one image: the controller creates the build Job,
follows it, and records where the image was pushed. Success, failure and
cancellation are terminal. A finalizer keeps a deleted build until its image is
removed from the internal registry.

The pass works on its in-memory copy of the build and on the registries: `images`
holds the references that can be pulled. A pass that fails stores nothing of what
it wrote in memory.
-/

namespace ClusterAgent.ImageBuildController

open Pass Effect Conditions Session

/-! ## Reading a build -/

def imageBuildCleanupFinalizer : String := "builds.stackdome.io/registry-image-cleanup"

def registryNotReadyRequeueDelay : Int := 10 * second

def conditionIsTrue (conds : List (Condition BuildStatusCondition)) (t : BuildStatusCondition) :
    Bool :=
  match findStatusCondition conds t with
  | none => false
  | some c => decide (c.status = .conditionTrue)

def imageBuildInTerminalState (build : ImageBuild) : Bool :=
  conditionIsTrue build.status.conditions .available ||
    conditionIsTrue build.status.conditions .failed ||
    conditionIsTrue build.status.conditions .cancelled

def sourceRevision (build : ImageBuild) : String :=
  build.spec.sourceRevision.getSourceRevisionString

def isGoSpace (c : Char) : Bool :=
  let n := c.toNat
  (decide (0x09 ≤ n) && decide (n ≤ 0x0d)) || n == 0x20 || n == 0x85 || n == 0xa0 ||
    n == 0x1680 || (decide (0x2000 ≤ n) && decide (n ≤ 0x200a)) || n == 0x2028 || n == 0x2029 ||
    n == 0x202f || n == 0x205f || n == 0x3000

/-- A git build needs a concrete commit and a ref it can be fetched by. -/
def validateGitRevision (rev : Option GitRepoRevision) : Except GoError Unit :=
  match rev with
  | none => .error { message := "git source revision is required" }
  | some rev =>
    let commit := trimChars isGoSpace (rev.commit.toList.map goToLower)
    if commit = [] ∨ commit = "head".toList then
      .error
        { message :=
            "git source revision must include a concrete commit SHA, got " ++ quoted rev.commit }
    else if rev.branch = "" ∧ rev.tag = "" then
      .error { message := "git source revision must include a branch or tag as a fetchable ref" }
    else .ok ()

def findJobCondition (job : Job) (jobCondition : JobConditionType) : Option JobCondition :=
  job.status.conditions.find? fun c => decide (c.type = jobCondition)

def jobConditionTrue (job : Job) (jobCondition : JobConditionType) : Bool :=
  match findJobCondition job jobCondition with
  | none => false
  | some c => decide (c.status = .conditionTrue)

/-- The first condition of the type, unless it is False. -/
def volumeConditionHolds (volume : Volume) (t : VolumeCondition) :
    Option (Condition VolumeCondition) :=
  (findStatusCondition volume.status.conditions t).filter fun c =>
    decide (c.status ≠ .conditionFalse)

def volumeAvailable (volume : Volume) : Bool := (volumeConditionHolds volume .available).isSome

/-- The volume is synced, for its current generation and to the revision of the build. -/
def volumeReadyForBuild (volume : Volume) (build : ImageBuild) : Bool :=
  let synced (t : VolumeCondition) : Bool :=
    (volumeConditionHolds volume t).any fun c =>
      decide (c.observedGeneration = volume.generation)
  match volume.spec.source with
  | none => false
  | some source =>
    match source.remoteDir, source.gitRepo with
    | some dir, _ =>
      synced .syncedFromRemote && decide (dir.currentDirectoryHash = sourceRevision build)
    | none, some git =>
      synced .syncedFromGitSource &&
        decide (git.revision.getGitRevisionString = sourceRevision build)
    | none, none => false

/-! ## Writing its status -/

def storedStatus (s : ImageBuildStatus) : ImageBuildStatus :=
  { s with
    conditions := s.conditions.map fun c =>
      { c with lastTransitionTime := storedTime c.lastTransitionTime } }

section

variable (env : Env)

def hashed (s : ImageBuildStatus) : ImageBuildStatus :=
  { s with statusHash := env.buildStatusDigest { s with statusHash := "" } }

def reportImageBuildStatus (condition : BuildStatusCondition) (value : ConditionStatus)
    (reason : String) (build : ImageBuild) : ImageBuild :=
  { build with
    status := hashed env
      { build.status with
        observedGeneration := build.generation
        buildSourceRevision := sourceRevision build
        conditions := setStatusCondition env.clock.wall build.status.conditions
          { type := condition
            status := value
            observedGeneration := build.generation
            reason := reason
            message := reason } } }

def reportImageBuildComplete (build : ImageBuild) : ImageBuild :=
  { build with
    status := hashed env
      { build.status with
        phase := .success
        lastBuildFailureDetail := none
        buildSourceRevision := sourceRevision build
        conditions := setStatusCondition env.clock.wall build.status.conditions
          { type := .available
            status := .conditionTrue
            observedGeneration := build.generation
            reason := "BuildComplete"
            message := "Image build complete" } } }

/-! ## The pass -/

/-- The in-memory build and the references the registries hold. -/
structure BuildOwn where
  build : ImageBuild
  images : List String := []

abbrev BuildPass := PassOver BuildOwn

def getBuild : BuildPass ImageBuild := do return (← getOwn).build

def modifyBuild (f : ImageBuild → ImageBuild) : BuildPass Unit :=
  modifyOwn fun own => { own with build := f own.build }

def setPhase (phase : BuildPhase) (build : ImageBuild) : ImageBuild :=
  { build with status.phase := phase }

/-- What the newest pod of the Job says about a crash of the build container. -/
def getBuildFailureDetail (build : ImageBuild) (job : Job) : Pass (Option LastFailureDetail) := do
  let pods ← listObjects env .pod build.metadata.ns [("job-name", job.name)]
  let newestFirst := pods.insertionSort fun a b =>
    b.metadata.creationTimestamp ≤ a.metadata.creationTimestamp
  match newestFirst with
  | [] => return none
  | pod :: _ =>
    match pod.status.containerStatuses.find? fun cs => decide (cs.name = "kaniko") with
    | none => return none
    | some container =>
      if Workload.isCrashState container then
        return some (Workload.buildLastFailureDetail container)
      else return none

def handleBuildJobCreation (desiredJob : Job) : BuildPass Unit := do
  let _ ← onCluster (create env .job desiredJob)
  modifyBuild fun build =>
    { build with
      status := { build.status with
        buildSourceRevision := sourceRevision build
        conditions := setStatusCondition env.clock.wall build.status.conditions
          { type := .buildJobCreated
            status := .conditionTrue
            observedGeneration := 0
            reason := "BuildJobCreated"
            message := "BuildJobCreated" } } }

/-- Follow the Job: create it, or take over how it ended. -/
def reconcileBuildJob (desiredJob : Job) (params : BuildParams) : BuildPass ReconcileResult := do
  match ← onCluster (getObject env .job desiredJob.metadata.ns desiredJob.name) with
  | none =>
    handleBuildJobCreation env desiredJob
    return {}
  | some existingJob =>
    let build ← getBuild
    if jobConditionTrue existingJob .complete then
      modifyBuild fun build => { build with status.imageUrl := params.imageUrl }
      modifyBuild (reportImageBuildComplete env)
      return {}
    else if jobConditionTrue existingJob .failed then
      -- details captured earlier stay when the pods are already gone
      match ← onCluster (attempt (getBuildFailureDetail env build existingJob)) with
      | .ok (some detail) =>
        modifyBuild fun build =>
          { build with
            status.lastBuildFailureDetail := some { detail with
              releaseID := build.metadata.annotations.get releaseIDAnnotationKey } }
      | _ => pure ()
      modifyBuild (reportImageBuildStatus env .failed .conditionTrue "BuildJobFailed")
      modifyBuild (setPhase .failed)
      return {}
    else
      if build.status.lastBuildFailureDetail = none then
        match ← onCluster (attempt (getBuildFailureDetail env build existingJob)) with
        | .ok detail =>
          modifyBuild fun build => { build with status.lastBuildFailureDetail := detail }
        | .error _ => pure ()
      modifyBuild (reportImageBuildStatus env .available .conditionFalse "BuildJobNotYetComplete")
      return {}

def getRegistryAuthSecrets (build : ImageBuild) : Pass (Option Secret × String) := do
  match build.spec.repository.auth with
  | none => return (none, "")
  | some auth =>
    match auth.dockerConfig, auth.basic with
    | some dockerConfig, _ =>
      match dockerConfig.secretRef with
      | none => throw nilDereference
      | some ref =>
        match ← getObject env .secret ref.ns ref.name with
        | none => throw { message := "docker config secret not found" }
        | some secret => return (some secret, dockerConfig.secretKey)
    | none, some _ =>
      let secretName := build.spec.resourceName ++ "-dockercfg"
      match ← getObject env .secret build.metadata.ns secretName with
      | none =>
        throw { message := "synthesized docker config secret " ++ quoted secretName ++
          " not found" }
      | some secret => return (some secret, dockerConfigJsonKey)
    | none, none => return (none, "")

/-- One build argument. A missing secret or key marks the build as failed, in memory. -/
def resolveBuildArg (arg : BuildArg) : BuildPass ResolvedBuildArg := do
  match arg.valueFrom with
  | none => return ⟨arg.name, arg.value⟩
  | some ref =>
    let build ← getBuild
    match ← onCluster (attempt (getObject env .secret build.metadata.ns ref.name)) with
    | .error e => throw (e.wrap ("failed to get secret for build arg " ++ quoted arg.name))
    | .ok none =>
      modifyBuild (reportImageBuildStatus env .failed .conditionTrue "BuildArgSecretNotFound")
      throw { message := "secret " ++ quoted ref.name ++ " not found for build arg " ++
        quoted arg.name }
    | .ok (some secret) =>
      match secret.spec.data.get? ref.key with
      | none =>
        modifyBuild (reportImageBuildStatus env .failed .conditionTrue "BuildArgSecretKeyNotFound")
        throw { message := "key " ++ quoted ref.key ++ " not found in secret " ++
          quoted ref.name ++ " for build arg " ++ quoted arg.name }
      | some value => return ⟨arg.name, value⟩

def resolveBuildArgs : List BuildArg → BuildPass (List ResolvedBuildArg)
  | [] => return []
  | arg :: rest => do
    let resolved ← resolveBuildArg env arg
    let others ← resolveBuildArgs rest
    return resolved :: others

def resolveDestination (build : ImageBuild) : Pass ResolvedRepository :=
  resolveImageRepository env build.metadata.ns build.spec.repository (sourceRevision build)

def setBuildJobAnnotations (build : ImageBuild) (job : Job) : Job :=
  { job with
    metadata.annotations :=
      ((job.metadata.annotations.set "builds.stackdome.io/resource-name"
        build.spec.resourceName).set
        "builds.stackdome.io/source-revision" (sourceRevision build)).set
        "builds.stackdome.io/dockerfile-path" build.spec.buildContext.dockerfilePath }

/-- What the two kinds of source have in common: resolve the inputs and the destination,
and follow the Job for them. -/
def buildFromSource (source : BuildSource) : BuildPass ReconcileResult := do
  let build ← getBuild
  let (dockerSecret, dockerSecretKey) ← onCluster (getRegistryAuthSecrets env build)
  let resolvedBuildArgs ← resolveBuildArgs env build.spec.buildArgs
  match ← onCluster (attempt (resolveDestination env build)) with
  | .error e =>
    if e.kind = .registryNotReady then
      modifyBuild (reportImageBuildStatus env .available .conditionFalse "RegistryNotReady")
      return { requeueAfter := registryNotReadyRequeueDelay }
    else
      modifyBuild (reportImageBuildStatus env .available .conditionFalse "RepositoryResolveFailed")
      throw e
  | .ok resolved =>
    let params : BuildParams :=
      { jobName := buildJobName env.jobInputsHash build
        ns := build.metadata.ns
        destination := resolved.reference
        insecure := resolved.insecure
        dockerfilePath := build.spec.buildContext.dockerfilePath
        context := build.spec.buildContext.contextPath
        source := source
        dockerConfigSecret := dockerSecret.map Object.name
        dockerConfigSecretKey := dockerSecretKey
        buildArgs := resolvedBuildArgs }
    match generateImageBuildJob env params with
    | .error e => throw e
    | .ok job =>
      let job := setBuildJobAnnotations build job
      match setControllerReference build.metadata "ImageBuild" job.metadata with
      | none => throw { message := "Object is already owned by another controller" }
      | some metadata => reconcileBuildJob env { job with metadata := metadata } params

def reconcileImageBuildWithVolumeSource (volumeName : String) : BuildPass ReconcileResult := do
  let build ← getBuild
  let volume ← onCluster (mustGet env .volume build.metadata.ns volumeName)
  if volumeAvailable volume = false then
    modifyBuild (reportImageBuildStatus env .available .conditionFalse "VolumeNotReady")
    return { requeue := true }
  else if volumeReadyForBuild volume build = false then
    modifyBuild (reportImageBuildStatus env .available .conditionFalse "VolumeNotReadyForBuild")
    return { requeue := true }
  else
    buildFromSource env
      { volume := some ⟨volume.status.pvcName, volume.status.gitRepoSyncedPathWithinVolume⟩ }

def reconcileImageBuildWithGitSource (git : GitRepoSource) : BuildPass ReconcileResult := do
  let build ← getBuild
  match validateGitRevision build.spec.sourceRevision.gitRepo,
    build.spec.sourceRevision.gitRepo with
  | .ok _, some revision => buildFromSource env { gitRepo := some ⟨git, revision⟩ }
  | _, _ =>
    modifyBuild (reportImageBuildStatus env .failed .conditionTrue "SourceRevisionInvalid")
    modifyBuild (setPhase .failed)
    return {}

def reconcileCancellation : BuildPass ReconcileResult := do
  let build ← getBuild
  match ← onCluster (attempt (listObjects env .job build.metadata.ns [])) with
  | .error e => throw (e.wrap "failed to list Jobs for cancellation")
  | .ok jobs =>
    let own := jobs.filter fun job => isControlledBy job.metadata build.metadata
    let deleteJob (job : Job) : Pass Unit := do
      match ← attempt (delete env .job job) with
      | .ok _ => return ()
      | .error e => throw (e.wrap ("failed to delete build job " ++ job.name))
    let deleted ← onCluster (attempt (forAll deleteJob own))
    modifyBuild (setPhase .cancelled)
    modifyBuild (reportImageBuildStatus env .cancelled .conditionTrue "BuildCancelled")
    match deleted with
    | .ok _ => return {}
    | .error e => throw e

def reconcileImageBuild : BuildPass ReconcileResult := do
  let build ← getBuild
  if imageBuildInTerminalState build then return {}
  else if build.spec.cancelled then reconcileCancellation env
  else
    match build.spec.buildContext.contextSource with
    | none => throw nilDereference
    | some source =>
      match source.git, source.volume with
      | some git, _ => reconcileImageBuildWithGitSource env git
      | none, some volumeName => reconcileImageBuildWithVolumeSource env volumeName
      | none, none => throw { message := "no context source specified for image build" }

/-! ## Deletion -/

def deleteImage (imageRef : String) (insecure : Bool) (username password : String) :
    BuildPass Unit := do
  match env.tagParseError imageRef with
  | some e => throw { message := "parse reference " ++ quoted imageRef ++ ": " ++ e }
  | none =>
    match env.remoteDeleteError imageRef insecure username password with
    | some e => throw (e.wrap ("delete tag " ++ imageRef))
    | none =>
      modifyOwn fun own =>
        { own with images := own.images.filter fun ref => decide (ref ≠ imageRef) }

/-- The registry's own credentials, not those of the StackResource, which teardown may
have deleted. -/
def registryCredentials (reg : ClusterRegistry) : Pass (String × String) := do
  match reg.spec.credentialsRef with
  | none => return ("", "")
  | some credRef =>
    match ← getObject env .secret credRef.secretRef.ns credRef.secretRef.name with
    | none => return ("", "")
    | some sec =>
      return (sec.spec.data.get credRef.usernameKey, sec.spec.data.get credRef.passwordKey)

/-- Only images in the internal registry are removed; what is already gone never blocks. -/
def cleanupImage : BuildPass Unit := do
  let build ← getBuild
  match build.spec.repository.clusterRegistryRef with
  | none => return ()
  | some ref =>
    if build.status.imageUrl = "" then return ()
    else
      match ← onCluster (getObject env .clusterRegistry "" ref) with
      | none => return ()
      | some reg =>
        let (username, password) ← onCluster (registryCredentials env reg)
        deleteImage env build.status.imageUrl true username password

def finalize : BuildPass ReconcileResult := do
  let build ← getBuild
  if build.metadata.finalizers.contains imageBuildCleanupFinalizer then
    cleanupImage env
    onCluster (updateOrRelease env .imageBuild
      { build with
        metadata.finalizers := build.metadata.finalizers.filter fun f =>
          decide (f ≠ imageBuildCleanupFinalizer) })
    return {}
  else return {}

def reconcile (ns name : String) : BuildPass ReconcileResult := do
  match ← onCluster (getObject env .imageBuild ns name) with
  | none => return {}
  | some build =>
    modifyOwn fun own => { own with build := build }
    if build.metadata.deletionTimestamp.isSome then finalize env
    else if build.metadata.finalizers.contains imageBuildCleanupFinalizer then
      let res ← reconcileImageBuild env
      let build ← getBuild
      onCluster (storeStatus env .imageBuild storedStatus build)
      return res
    else
      -- the finalizer is there before anything is pushed
      let _ ← onCluster (update env .imageBuild
        { build with
          metadata.finalizers := build.metadata.finalizers ++ [imageBuildCleanupFinalizer] })
      return {}

end

/-! ## Steps that only read -/

section

variable (env : Env)

theorem reads_getBuildFailureDetail (build : ImageBuild) (job : Job) :
    ReadsOnly (getBuildFailureDetail env build job) := by
  refine .bind reads_listObjects fun pods => ?_
  dsimp only
  split
  · exact .pure
  · split
    · exact .pure
    · split
      · exact .pure
      · exact .pure

theorem reads_getRegistryAuthSecrets (build : ImageBuild) :
    ReadsOnly (getRegistryAuthSecrets env build) := by
  unfold getRegistryAuthSecrets
  split
  · exact .pure
  · split
    · split
      · exact .throw
      · refine .bind reads_getObject fun secret => ?_
        split
        · exact .throw
        · exact .pure
    · refine .bind reads_getObject fun secret => ?_
      split
      · exact .throw
      · exact .pure
    · exact .pure

theorem reads_registryCredentials (reg : ClusterRegistry) :
    ReadsOnly (registryCredentials env reg) := by
  unfold registryCredentials
  split
  · exact .pure
  · refine .bind reads_getObject fun sec => ?_
    split
    · exact .pure
    · exact .pure

end

end ClusterAgent.ImageBuildController
