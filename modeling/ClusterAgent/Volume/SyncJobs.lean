import ClusterAgent.Builds.Kaniko

/-!
# Cluster agent — the Jobs that fill a volume

A volume is filled by a Job: one that checks out a commit, or one that copies
build artifacts out of an image. Either is found again by its name alone. The name
of a git sync Job holds the volume and a digest of the revision and is cut to 63
characters; the name of an artifact sync Job holds the volume and seven characters
of the revision that was built.
-/

namespace ClusterAgent.VolumeSync

/-! ## Git -/

def gitSyncImage : String := "registry.k8s.io/git-sync/git-sync:v4.7.0"

def destDirWithinVolume : String := "repo"

def maxJobNameLen : Nat := 63

/-- Names are ASCII, so characters stand for the bytes the source counts. -/
def gitSyncJobName (revisionHash : String → String) (volumeName revision : String) : String :=
  let name := "volume-" ++ volumeName ++ "-git-sync-" ++ revisionHash revision
  if maxJobNameLen < name.length then String.ofList (name.toList.take maxJobNameLen) else name

structure GitSyncParams where
  ns : String
  pvcName : String
  repoUrl : String
  commit : String
  auth : Option GitAuth
  destDir : String
  deriving DecidableEq, Repr

def buildGitSyncParams (volume : Volume) (gitSource : VolumeGitRepoSource) :
    Except GoError GitSyncParams :=
  if gitSource.revision.commit = "" then
    .error { message := "git repository source must specify a commit" }
  else
    .ok
      { ns := volume.metadata.ns
        pvcName := volume.status.pvcName
        repoUrl := gitSource.repoUrl
        commit := gitSource.revision.commit
        auth := gitSource.auth
        destDir := destDirWithinVolume }

def gitSyncEnv (auth : Option GitAuth) : List EnvVar :=
  match auth with
  | none => []
  | some auth =>
    match auth.usernamePasswordAuthRef, auth.personalAccessTokenRef with
    | some creds, _ =>
      [{ name := "GITSYNC_USERNAME"
         secretKeyRef := some ⟨creds.secretRef.name, creds.usernameKey⟩ },
       { name := "GITSYNC_PASSWORD"
         secretKeyRef := some ⟨creds.secretRef.name, creds.passwordKey⟩ }]
    | none, some token =>
      [{ name := "GITSYNC_USERNAME", value := "git" },
       { name := "GITSYNC_PASSWORD"
         secretKeyRef := some ⟨token.secretRef.name, token.passwordKey⟩ }]
    | none, none => []

def gitSyncArgs (params : GitSyncParams) : List String :=
  ["--repo=" ++ params.repoUrl, "--root=/data", "--link=" ++ params.destDir, "--one-time",
    "--ref=" ++ params.commit]

def gitSyncContainer (params : GitSyncParams) : Container where
  name := "git-sync"
  image := gitSyncImage
  imagePullPolicy := ""
  terminationMessagePolicy := ""
  args := gitSyncArgs params
  env := gitSyncEnv params.auth
  volumeMounts := [{ name := "target-volume", mountPath := "/data" }]
  resources :=
    [("limits.memory", "256Mi"), ("requests.cpu", "100m"), ("requests.memory", "128Mi")]

def gitSyncJobSpec (params : GitSyncParams) : JobSpec where
  -- cleaned up half an hour after it finished
  ttlSecondsAfterFinished := some (60 * 30)
  template.spec :=
    { containers := [gitSyncContainer params]
      restartPolicy := "OnFailure"
      volumes := [{ name := "target-volume", claimName := params.pvcName }] }

def generateGitSyncJob (env : Env) (jobName : String) (params : GitSyncParams) :
    Except GoError Job :=
  let job : Job :=
    { metadata := { name := jobName, ns := params.ns }
      spec := gitSyncJobSpec params
      status := {} }
  match env.jobYAMLError job with
  | some e => .error { message := "failed to decode Job YAML: " ++ e }
  | none => .ok job

/-! ## Build artifacts -/

def artifactsOf (source : VolumeSource) (resourceName : String) : List BuildArtifactSource :=
  (source.buildArtifacts.getD []).filter fun a => decide (a.buildSource = resourceName)

def stackdomeToolsImage : String := "quay.io/stackdome/tools:v0.0.1"
def toolsMountPath : String := "/tools"
def mountPathInContainer (volumeName : String) : String := "/" ++ volumeName

def truncateString (s : String) (maxLen : Nat) : String := String.ofList (s.toList.take maxLen)

def shortBuildSrcRevisionFromStatus (build : ImageBuild) : String :=
  truncateString build.status.buildSourceRevision 7

def shortBuildSrcRevisionFromSpec (build : ImageBuild) : String :=
  truncateString build.spec.sourceRevision.getSourceRevisionString 7

def generateRsyncCommand (src dst : String) : String :=
  let src := if src.toList.getLast? = some '/' then src else src ++ "/"
  toolsMountPath ++ "/rsync -az --mkpath --delete --progress --whole-file " ++ src ++ " " ++ dst

def generateCopyCommands (volumeName : String) (copySrcs : List BuildArtifactSource) :
    List String :=
  copySrcs.map fun spec =>
    generateRsyncCommand spec.sourcePath
      ("/" ++ joinSlash (pathElements (volumeName ++ "/" ++ spec.destinationPath)))

def artifactSyncJobName (volumeName shortRevision : String) : String :=
  volumeName ++ "-volume-sync-" ++ shortRevision

def copyContainer (volumeName : String) (copySrcs : List BuildArtifactSource) (imageUrl : String) :
    Container where
  name := "volume-initialization"
  image := imageUrl
  imagePullPolicy := ""
  terminationMessagePolicy := ""
  command := ["/tools/busybox", "sh", "-c"]
  args := ["PATH=$PATH:/tools " ++
    String.intercalate " && " (generateCopyCommands volumeName copySrcs)]
  volumeMounts :=
    [{ name := volumeName, mountPath := mountPathInContainer volumeName },
     { name := "tools-dir", mountPath := toolsMountPath }]

/-- First the tools are put next to the image, then they copy out of it. -/
def artifactSyncJobSpec (volume : Volume) (copySrcs : List BuildArtifactSource)
    (build : ImageBuild) : JobSpec where
  template.spec :=
    { initContainers :=
        [{ name := "sync-tools-setup"
           image := stackdomeToolsImage
           imagePullPolicy := ""
           terminationMessagePolicy := ""
           command := ["/bin/sh", "-c"]
           args := ["cp /usr/bin/rsync " ++ toolsMountPath ++ "/ && cp /bin/busybox " ++
             toolsMountPath ++ "/"]
           volumeMounts := [{ name := "tools-dir", mountPath := toolsMountPath }] }]
      containers := [copyContainer volume.name copySrcs build.status.imageUrl]
      volumes :=
        [{ name := volume.name, claimName := volume.status.pvcName }, { name := "tools-dir" }]
      restartPolicy := "OnFailure" }

def resourceNameLabel : String := "volumesync.stackdome.io/resourceName"

/-- `CreateBuildArtifactsVolumeSyncJob`, with the label its caller adds. -/
def createBuildArtifactsVolumeSyncJob (volume : Volume) (resourceName : String)
    (copySrcs : List BuildArtifactSource) (build : ImageBuild) : Job where
  metadata :=
    { name := artifactSyncJobName volume.name (shortBuildSrcRevisionFromStatus build)
      ns := build.metadata.ns
      labels := [(resourceNameLabel, resourceName)] }
  spec := artifactSyncJobSpec volume copySrcs build
  status := {}

def jobCompleted (job : Job) : Bool :=
  match job.status.conditions.find? fun c => decide (c.type = .complete) with
  | none => false
  | some c => decide (c.status = .conditionTrue)

end ClusterAgent.VolumeSync
