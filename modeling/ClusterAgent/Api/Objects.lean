import ClusterAgent.Api.StackResource

/-!
# Cluster agent — the other objects a StackResource pass touches

Services and Ingresses in front of the workload, the TLS objects behind an
Ingress, the Secrets with registry credentials, and the platform's own
ImageBuild, Volume and ClusterRegistry.
-/

namespace ClusterAgent

open Conditions

/-! ## Secrets -/

structure SecretSpec where
  type : String := ""
  data : StringMap := []
  deriving DecidableEq, Repr

abbrev Secret := Object SecretSpec Unit

def secretTypeDockerConfigJson : String := "kubernetes.io/dockerconfigjson"
def secretTypeTLS : String := "kubernetes.io/tls"
def dockerConfigJsonKey : String := ".dockerconfigjson"
def tlsCertKey : String := "tls.crt"
def tlsPrivateKeyKey : String := "tls.key"

/-! ## Services and Ingresses -/

structure ServicePort where
  name : String
  port : Int
  targetPort : String
  nodePort : Int := 0
  deriving DecidableEq, Repr

structure ServiceSpec where
  selector : StringMap := []
  ports : List ServicePort := []
  clusterIP : String := ""
  type : String := ""
  deriving DecidableEq, Repr

abbrev Service := Object ServiceSpec Unit

structure IngressTLS where
  hosts : List String
  secretName : String
  deriving DecidableEq, Repr

structure IngressRule where
  host : String
  path : String
  pathType : String
  serviceName : String
  servicePort : Int
  deriving DecidableEq, Repr

structure IngressSpec where
  tls : List IngressTLS := []
  rules : List IngressRule := []
  deriving DecidableEq, Repr

abbrev Ingress := Object IngressSpec Unit

structure MiddlewareSpec where
  scheme : String
  permanent : Bool
  deriving DecidableEq, Repr

abbrev Middleware := Object MiddlewareSpec Unit

/-! ## cert-manager -/

inductive CertificateConditionType where
  | ready
  | issuing
  | other (name : String)
  deriving DecidableEq, Repr

structure CertificateCondition where
  type : CertificateConditionType
  status : ConditionStatus
  message : String := ""
  deriving DecidableEq, Repr

structure CertificateStatus where
  conditions : List CertificateCondition := []
  failedIssuanceAttempts : Option Int := none
  deriving DecidableEq, Repr

abbrev Certificate := Object Unit CertificateStatus

abbrev ClusterIssuer := Object Unit Unit

/-! ## ClusterRegistry -/

inductive RegistryStatusConditionType where
  | ready
  | other (name : String)
  deriving DecidableEq, Repr

structure ClusterRegistrySpec where
  /-- `auth.htPasswordCredentials.credentialsRef`, when all of it is given. -/
  credentialsRef : Option CredentialSecretKeyPair := none
  port : Int := 0
  storageSize : String := ""
  storageClass : Option String := none
  deriving DecidableEq, Repr

inductive RegistryPhase where
  | unset
  | pending
  | running
  | failed
  deriving DecidableEq, Repr

structure ClusterRegistryStatus where
  observedGeneration : Int := 0
  conditions : List (Condition RegistryStatusConditionType) := []
  internalURL : String := ""
  serviceIP : String := ""
  phase : RegistryPhase := .unset
  deriving DecidableEq, Repr

abbrev ClusterRegistry := Object ClusterRegistrySpec ClusterRegistryStatus

/-! ## Volume -/

inductive VolumeCondition where
  | available
  | syncedFromRemote
  | syncedFromGitSource
  | other (name : String)
  deriving DecidableEq, Repr

structure RemoteDirSource where
  path : String := ""
  currentDirectoryHash : String := ""
  deriving DecidableEq, Repr

structure VolumeGitRepoSource where
  repoUrl : String := ""
  revision : GitRepoRevision := { commit := "" }
  destinationWithinVolume : String := ""
  auth : Option GitAuth := none
  deriving DecidableEq, Repr

structure BuildArtifactSource where
  buildSource : String
  sourcePath : String := ""
  destinationPath : String := ""
  deriving DecidableEq, Repr

structure VolumeSource where
  remoteDir : Option RemoteDirSource := none
  buildArtifacts : Option (List BuildArtifactSource) := none
  gitRepo : Option VolumeGitRepoSource := none
  deriving DecidableEq, Repr

structure VolumeSpec where
  annotations : StringMap := []
  labels : StringMap := []
  size : String := ""
  storageClass : String := ""
  source : Option VolumeSource := none
  needsSyncBeforeUse : Bool := false
  accessMode : String := ""
  deriving DecidableEq, Repr

inductive BuildArtifactSyncStatus where
  | pending
  | inProgress
  | completed
  | failed
  deriving DecidableEq, Repr

structure BuildArtifactSyncInfo where
  buildID : String
  status : BuildArtifactSyncStatus
  deriving DecidableEq, Repr

def BuildArtifactSyncInfo.completed (info : BuildArtifactSyncInfo) : Bool :=
  decide (info.status = .completed)

/-- `unset` is the empty string of a volume no pass has looked at yet. -/
inductive VolumePhase where
  | unset
  | pending
  | ready
  deriving DecidableEq, Repr

structure VolumeStatus where
  observedGeneration : Int := 0
  conditions : List (Condition VolumeCondition) := []
  phase : VolumePhase := .unset
  statusHash : String := ""
  pvcName : String := ""
  gitRepoSyncedPathWithinVolume : String := ""
  buildArtifactSyncs : List (String × BuildArtifactSyncInfo) := []
  lastSyncedGitReference : String := ""
  lastRemoteSyncHash : String := ""
  deriving DecidableEq, Repr

abbrev Volume := Object VolumeSpec VolumeStatus

structure PersistentVolumeClaimSpec where
  accessModes : List String := []
  /-- The requested storage, in billionths. -/
  storage : Int := 0
  storageClassName : Option String := none
  deriving DecidableEq, Repr

abbrev PersistentVolumeClaim := Object PersistentVolumeClaimSpec Unit

/-! ## ImageBuild -/

/-- `unset` is the empty string of a build no pass has looked at yet. -/
inductive BuildPhase where
  | unset
  | success
  | failed
  | pending
  | cancelled
  deriving DecidableEq, Repr

/-- The phase as text, for `status.currentBuild`. -/
def BuildPhase.text : BuildPhase → String
  | .unset => ""
  | .success => "Success"
  | .failed => "Failed"
  | .pending => "Pending"
  | .cancelled => "Cancelled"

inductive BuildStatusCondition where
  | available
  | failed
  | buildJobCreated
  | cancelled
  | other (name : String)
  deriving DecidableEq, Repr

structure BuildContextSpec where
  dockerfilePath : String := ""
  contextPath : String := ""
  contextSource : Option BuildContextSource := none
  deriving DecidableEq, Repr

structure ImageBuildSpec where
  resourceName : String
  sourceRevision : SourceRevisionSpec
  buildContext : BuildContextSpec
  repository : ImageRepositorySpec
  buildArgs : List BuildArg := []
  cancelled : Bool := false
  deriving DecidableEq, Repr

structure ImageBuildStatus where
  observedGeneration : Int := 0
  conditions : List (Condition BuildStatusCondition) := []
  phase : BuildPhase := .unset
  buildSourceRevision : String := ""
  imageUrl : String := ""
  statusHash : String := ""
  lastBuildFailureDetail : Option LastFailureDetail := none
  deriving DecidableEq, Repr

abbrev ImageBuild := Object ImageBuildSpec ImageBuildStatus

end ClusterAgent
