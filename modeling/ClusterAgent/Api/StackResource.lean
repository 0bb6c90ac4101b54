import ClusterAgent.Api.Meta

/-!
# Cluster agent — the StackResource API type

`StackResource` describes one workload of a stack: what to run (`spec`) and
what the agent observed (`status`). The fields follow the Go type, with `*T` as
`Option T`; `preDeployCommand` and a port's protocol, which the agent never
reads, are left out.

Condition types come in two kinds, as in the source: **domain** conditions are
firsthand facts a sub-reconciler writes, **summary** conditions are written by
the status derivation only. Stored objects may carry conditions of any other
type, which `other` stands for.
-/

namespace ClusterAgent

open Conditions

/-! ## Enumerations -/

/-- `unset` is the empty string of an object no pass has written yet. -/
inductive StackResourcePhase where
  | unset
  | pending
  | ready
  | degraded
  | failed
  deriving DecidableEq, Repr

/-- Conditions a sub-reconciler owns and writes directly. -/
inductive StackResourceDomainCondition where
  | tlsConfigured
  | dependenciesReady
  | buildReady
  | preDeployComplete
  | workloadAvailable
  | workloadConverged
  | ingressReady
  deriving DecidableEq, Repr

/-- Judgments across domains, written only by the status derivation. -/
inductive StackResourceStatusCondition where
  | available
  | stalled
  | converged
  deriving DecidableEq, Repr

inductive ResourceCondition where
  | domain (c : StackResourceDomainCondition)
  | summary (c : StackResourceStatusCondition)
  | other (name : String)
  deriving DecidableEq, Repr

/-- `unset` is the empty string, which the agent treats like `service`. -/
inductive WorkloadType where
  | unset
  | service
  | statefulService
  | worker
  | job
  | cronJob
  | unknown (name : String)
  deriving DecidableEq, Repr

inductive StackResourceSummaryState where
  | waiting
  | building
  | deploying
  | ready
  | failed
  deriving DecidableEq, Repr

/-! ## Spec -/

structure HTTPGetProbe where
  path : String
  portName : String
  deriving DecidableEq, Repr

structure Probe where
  httpGet : Option HTTPGetProbe := none
  tcpSocket : Option String := none
  command : List String := []
  initialDelaySeconds : Int := 0
  periodSeconds : Int := 10
  failureThreshold : Int := 3
  timeoutSeconds : Int := 1
  deriving DecidableEq, Repr

structure HealthChecks where
  readiness : Option Probe := none
  liveness : Option Probe := none
  startup : Option Probe := none
  deriving DecidableEq, Repr

structure SecretKeySelector where
  name : String
  key : String
  deriving DecidableEq, Repr

structure EnvironmentVariable where
  name : String
  value : String := ""
  valueFrom : Option SecretKeySelector := none
  deriving DecidableEq, Repr

structure VolumeMount where
  sourceVolume : String
  sourceSubPath : String := ""
  destination : String
  readOnly : Bool := false
  deriving DecidableEq, Repr

structure Port where
  name : String
  number : Int
  exposeToPublic : Bool := false
  fqdn : String := ""
  tls : Bool := false
  tlsSecretRef : String := ""
  deriving DecidableEq, Repr

structure GitRepoRevision where
  branch : String := ""
  tag : String := ""
  commit : String
  deriving DecidableEq, Repr

def GitRepoRevision.getGitRevisionString (s : GitRepoRevision) : String := s.commit

structure SourceRevisionSpec where
  volume : Option String := none
  gitRepo : Option GitRepoRevision := none
  deriving DecidableEq, Repr

def SourceRevisionSpec.getSourceRevisionString (s : SourceRevisionSpec) : String :=
  match s.volume, s.gitRepo with
  | some v, _ => v
  | none, some g => g.getGitRevisionString
  | none, none => ""

structure SecretReference where
  name : String
  ns : String := ""
  deriving DecidableEq, Repr

structure CredentialSecretKeyPair where
  secretRef : SecretReference
  usernameKey : String
  passwordKey : String
  deriving DecidableEq, Repr

structure GitAuth where
  usernamePasswordAuthRef : Option CredentialSecretKeyPair := none
  personalAccessTokenRef : Option CredentialSecretKeyPair := none
  deriving DecidableEq, Repr

structure GitRepoSource where
  repoUrl : String
  auth : Option GitAuth := none
  deriving DecidableEq, Repr

structure BuildContextSource where
  volume : Option String := none
  git : Option GitRepoSource := none
  deriving DecidableEq, Repr

inductive RegistryAuthType where
  | dockerHub
  | inClusterZotRegistry
  | unknown (name : String)
  deriving DecidableEq, Repr

structure DockerConfigAuth where
  secretKey : String := ""
  secretRef : Option SecretReference := none
  deriving DecidableEq, Repr

structure RegistryAuth where
  type : RegistryAuthType
  dockerConfigAuth : Option DockerConfigAuth := none
  deriving DecidableEq, Repr

structure ExternalRegistrySpec where
  host : String
  /-- `tls.insecure`, when a TLS block is given. -/
  tlsInsecure : Option Bool := none
  deriving DecidableEq, Repr

structure BasicAuthCredentials where
  secretRef : SecretReference
  usernameKey : String
  passwordKey : String
  deriving DecidableEq, Repr

structure RegistryCredentialsSpec where
  dockerConfig : Option DockerConfigAuth := none
  basic : Option BasicAuthCredentials := none
  deriving DecidableEq, Repr

/-- Where a built image is pushed: `clusterRegistryRef` names a ClusterRegistry. -/
structure ImageRepositorySpec where
  clusterRegistryRef : Option String := none
  external : Option ExternalRegistrySpec := none
  repository : String
  /-- `tagPolicy.fixed.tag`, when a tag policy with a fixed tag is given. -/
  fixedTag : Option String := none
  auth : Option RegistryCredentialsSpec := none
  deriving DecidableEq, Repr

structure BuildArg where
  name : String
  value : String := ""
  valueFrom : Option SecretKeySelector := none
  deriving DecidableEq, Repr

structure StackResourceBuildSpec where
  sourceContext : BuildContextSource := {}
  buildContext : String := ""
  dockerFilePath : String := ""
  sourceRevision : SourceRevisionSpec
  repository : ImageRepositorySpec
  buildArgs : List BuildArg := []
  deriving DecidableEq, Repr

structure ImageSpec where
  image : String
  imagePullPolicy : String := ""
  pullAuth : Option RegistryAuth := none
  deriving DecidableEq, Repr

structure InitSpec where
  command : List String := []
  args : List String := []
  imageSpec : Option ImageSpec := none
  deriving DecidableEq, Repr

structure StackResourceSpec where
  workloadType : WorkloadType := .service
  schedule : String := ""
  replicas : Option Int := none
  buildSpec : Option StackResourceBuildSpec := none
  imageSpec : Option ImageSpec := none
  init : Option InitSpec := none
  command : List String := []
  args : List String := []
  environmentVariables : List EnvironmentVariable := []
  volumeMounts : List VolumeMount := []
  dependsOn : List String := []
  ports : List Port := []
  resources : Option StringMap := none
  healthChecks : Option HealthChecks := none
  terminationGracePeriodSeconds : Option Int := none
  hardenedSecurityDefaults : Option Bool := none
  restartRequest : Option Int := none
  deriving DecidableEq, Repr

def StackResourceSpec.hasExposedPort (s : StackResourceSpec) : Bool :=
  s.ports.any Port.exposeToPublic

/-! ## Status -/

structure StackResourceConvergenceRecord where
  revision : String
  «at» : Timestamp
  deriving DecidableEq, Repr

structure ExternalAddress where
  targetPort : Int
  address : String
  deriving DecidableEq, Repr

structure BuildStatus where
  name : String := ""
  sourceRevision : String := ""
  available : Bool := false
  reason : String := ""
  message : String := ""
  phase : String := ""
  deriving DecidableEq, Repr

structure LastFailureDetail where
  type : String := ""
  releaseID : String := ""
  containerName : String := ""
  restartCount : Int := 0
  lastTerminationReason : String := ""
  lastTerminationMessage : String := ""
  lastTerminationExitCode : Option Int := none
  deriving DecidableEq, Repr

def failureTypeRuntimeCrash : String := "runtime_crash"
def failureTypeReadinessFailure : String := "readiness_failure"
def reasonBuildFailed : String := "BuildFailed"
def reasonPortNotListening : String := "PortNotListening"

inductive PortCheckStatusType where
  | success
  | failure
  deriving DecidableEq, Repr

structure PortCheckStatus where
  revision : String
  status : PortCheckStatusType
  failingPortNumbers : List Int := []
  failingSince : Option Timestamp := none
  deriving DecidableEq, Repr

structure ReferencedTLSSecretStatus where
  reference : String
  waitingSince : Option Timestamp := none
  deriving DecidableEq, Repr

structure CertManagerTLSStatus where
  waitingSince : Option Timestamp := none
  deriving DecidableEq, Repr

structure StackResourceStatusSummary where
  state : StackResourceSummaryState
  reason : String := ""
  message : String := ""
  observedGeneration : Int
  deriving DecidableEq, Repr

structure StackResourceStatus where
  observedGeneration : Int := 0
  observedRevision : String := ""
  lastConverged : Option StackResourceConvergenceRecord := none
  conditions : List (Condition ResourceCondition) := []
  phase : StackResourcePhase := .unset
  imageSourceRevision : String := ""
  externalAddress : List ExternalAddress := []
  internalAddress : Option String := none
  lastRestartRequestProcessedAt : Option Timestamp := none
  currentBuild : Option BuildStatus := none
  statusHash : String := ""
  lastFailureDetails : List LastFailureDetail := []
  lastFailureDeploymentRevision : String := ""
  replicas : Int := 0
  availableReplicas : Int := 0
  updatedReplicas : Int := 0
  lastRunTime : Option Timestamp := none
  lastRunSucceeded : Option Bool := none
  portCheck : Option PortCheckStatus := none
  referencedTLSSecret : Option ReferencedTLSSecretStatus := none
  certManagerTLS : Option CertManagerTLSStatus := none
  summary : Option StackResourceStatusSummary := none
  deriving DecidableEq, Repr

/-- The status with every time in it passed through `f`. -/
def StackResourceStatus.mapTimes (f : Timestamp → Timestamp) (s : StackResourceStatus) :
    StackResourceStatus :=
  { s with
    lastConverged := s.lastConverged.map fun c => { c with «at» := f c.at }
    conditions := s.conditions.map fun c =>
      { c with lastTransitionTime := (f { wall := c.lastTransitionTime }).wall }
    lastRestartRequestProcessedAt := s.lastRestartRequestProcessedAt.map f
    lastRunTime := s.lastRunTime.map f
    portCheck := s.portCheck.map fun p => { p with failingSince := p.failingSince.map f }
    referencedTLSSecret := s.referencedTLSSecret.map fun t =>
      { t with waitingSince := t.waitingSince.map f }
    certManagerTLS := s.certManagerTLS.map fun t =>
      { t with waitingSince := t.waitingSince.map f } }

/-- What a status written now reads back as. -/
def StackResourceStatus.stored (s : StackResourceStatus) : StackResourceStatus :=
  s.mapTimes Timestamp.stored

/-- The status as `equality.Semantic` compares it: without monotonic clock readings. -/
def StackResourceStatus.comparable (s : StackResourceStatus) : StackResourceStatus :=
  s.mapTimes fun t => { wall := t.wall }

structure StackResource where
  metadata : ObjectMeta
  spec : StackResourceSpec := {}
  status : StackResourceStatus := {}
  deriving DecidableEq, Repr

namespace StackResource

def name (r : StackResource) : String := r.metadata.name
def generation (r : StackResource) : Int := r.metadata.generation

def revision (r : StackResource) : String := r.metadata.annotations.get revisionAnnotationKey

def releaseID (r : StackResource) : String := r.metadata.annotations.get releaseIDAnnotationKey

def getPort (r : StackResource) (port : Int) : Option Port :=
  r.spec.ports.find? fun p => decide (p.number = port)

def needsPullSecret (r : StackResource) : Bool :=
  (match r.spec.imageSpec with | some i => i.pullAuth.isSome | none => false) ||
  (match r.spec.buildSpec with | some b => b.repository.auth.isSome | none => false)

def synthesizedDockerConfigSecretName (r : StackResource) : String := r.name ++ "-dockercfg"

def initContainerName (r : StackResource) : String := r.name ++ "-init"

def domainCond (r : StackResource) (c : StackResourceDomainCondition) :
    Option (Condition ResourceCondition) :=
  findStatusCondition r.status.conditions (.domain c)

def summaryCond (r : StackResource) (c : StackResourceStatusCondition) :
    Option (Condition ResourceCondition) :=
  findStatusCondition r.status.conditions (.summary c)

end StackResource

end ClusterAgent
