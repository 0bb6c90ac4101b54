import ClusterAgent.Controller.Footprint

/-!
# Cluster agent — the dependency gates

Before a workload is applied its sibling resources must be available and its
volumes synced. Each check answers yes, or no with a message, or fails.
-/

namespace ClusterAgent.Dependencies

open Pass Effect Conditions

/-! ## Siblings -/

/-- Available, and reported so for the current generation. -/
def stackResourceAvailable (resource : StackResource) : Bool :=
  match resource.summaryCond .available with
  | none => false
  | some c =>
    decide (c.status = .conditionTrue) && decide (c.observedGeneration = resource.generation)

section

variable (env : Env)

def getDependencies (resource : StackResource) : Pass (List StackResource) := do
  if resource.spec.dependsOn.length = 0 then return []
  else
    call env
    let siblings := (← get).cluster.stackResources.filter fun sr =>
      decide (sr.metadata.ns = resource.metadata.ns)
    let res := siblings.filter fun sr =>
      decide (sr.name ≠ resource.name) && decide (sr.name ∈ resource.spec.dependsOn)
    if res.length ≠ resource.spec.dependsOn.length then
      throw { message := "missing workspace resource deps" }
    else return res

def dependenciesAvailable (resource : StackResource) : Pass (Bool × String) := do
  if resource.spec.dependsOn.length = 0 then return (true, "")
  else
    let dependencyList ← getDependencies env resource
    if dependencyList.length ≠ resource.spec.dependsOn.length then
      throw { message := "some dependency resource are not yet created" }
    else
      match dependencyList.find? fun dep => !stackResourceAvailable dep with
      | some dep => return (false, "Dependent resource '" ++ dep.name ++ "' not yet available")
      | none => return (true, "")

end

/-! ## Volumes -/

/-- The volume's condition is True and its status is for the current generation. -/
def volumeConditionTrue (volume : Volume) (condType : VolumeCondition) : Bool :=
  match findStatusCondition volume.status.conditions condType with
  | none => false
  | some c =>
    decide (c.status = .conditionTrue) &&
      decide (volume.status.observedGeneration = volume.generation)

def localDirSyncedToVolume (volume : Volume) (currentDirectoryHash : String) : Bool :=
  volumeConditionTrue volume .syncedFromRemote &&
    decide (volume.status.lastRemoteSyncHash = currentDirectoryHash)

def gitRepoSyncedToVolume (volume : Volume) (revision : GitRepoRevision) : Bool :=
  volumeConditionTrue volume .syncedFromGitSource &&
    decide (volume.status.lastSyncedGitReference = revision.getGitRevisionString)

def buildSyncCompletedAndUptoDate (info : BuildArtifactSyncInfo) (currentBuildID : String) :
    Bool :=
  info.completed && decide (info.buildID = currentBuildID)

def buildArtifactsSynced (volume : Volume) (resource : StackResource) : Bool × String :=
  match resource.status.currentBuild with
  | none => (false, "Current build not yet available")
  | some build =>
    if !build.available then (false, "Current build not yet available")
    else
      match volume.status.buildArtifactSyncs.lookup resource.name with
      | none => (false, "Volume sync from build not yet complete")
      | some info =>
        if buildSyncCompletedAndUptoDate info build.sourceRevision then (true, "")
        else (false, "Volume sync from build not yet complete")

def isVolumeReady (volume : Volume) (resource : StackResource) : Bool × String :=
  match volume.spec.source with
  | none => (true, "")
  | some source =>
    match source.remoteDir, source.gitRepo, source.buildArtifacts with
    | some dir, _, _ =>
      if localDirSyncedToVolume volume dir.currentDirectoryHash then (true, "")
      else (false, "Local directory not yet synced to volume")
    | none, some git, _ =>
      if gitRepoSyncedToVolume volume git.revision then (true, "")
      else (false, "Git repository not yet synced to volume")
    | none, none, some _ => buildArtifactsSynced volume resource
    | none, none, none => (true, "")

def uniqueByName : List Volume → List Volume
  | [] => []
  | v :: rest => v :: (uniqueByName rest).filter fun u => decide (u.name ≠ v.name)

section

variable (env : Env)

def getVolumes (resource : StackResource) : Pass (List Volume) := do
  let volumes ← listObjects env .volume resource.metadata.ns []
  let refs := resource.spec.volumeMounts.map VolumeMount.sourceVolume
  return uniqueByName (volumes.filter fun v => decide (v.name ∈ refs))

def volumeMountsReadyForUse (resource : StackResource) : Pass (Bool × String) := do
  if resource.spec.volumeMounts.length = 0 then return (true, "")
  else
    match ← attempt (getVolumes env resource) with
    | .error e => throw (e.wrap "failed to get workspace volumes")
    | .ok volumes =>
      match volumes.find? fun v => !(isVolumeReady v resource).1 with
      | some v => return (false, (isVolumeReady v resource).2)
      | none => return (true, "")

-- The gates only read.

variable {env}

theorem reads_getDependencies {resource : StackResource} :
    ReadsOnly (getDependencies env resource) := by
  unfold getDependencies
  split
  · exact .pure
  · refine .bind reads_call fun _ => .bind .get fun w => ?_
    dsimp only
    split
    · exact .throw
    · exact .pure

theorem reads_dependenciesAvailable {resource : StackResource} :
    ReadsOnly (dependenciesAvailable env resource) := by
  unfold dependenciesAvailable
  split
  · exact .pure
  · refine .bind reads_getDependencies fun dependencyList => ?_
    split
    · exact .throw
    · split
      · exact .pure
      · exact .pure

theorem reads_volumeMountsReadyForUse {resource : StackResource} :
    ReadsOnly (volumeMountsReadyForUse env resource) := by
  unfold volumeMountsReadyForUse
  split
  · exact .pure
  · have hVolumes : ReadsOnly (getVolumes env resource) :=
      .bind reads_listObjects fun _ => .pure
    refine .bind hVolumes.attempt fun result => ?_
    split
    · exact .throw
    · split
      · exact .pure
      · exact .pure

end

end ClusterAgent.Dependencies
