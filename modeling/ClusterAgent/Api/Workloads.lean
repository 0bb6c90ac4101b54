import ClusterAgent.Api.StackResource

/-!
# Cluster agent — Kubernetes workload objects

The Kubernetes objects behind a StackResource's workload: pod templates, the four
workload kinds, and the ReplicaSets and Pods the diagnosis reads. Each has the
fields the agent reads or writes. A Go slice is a list, so an unset and an empty
one are the same; a constant the source always sets keeps its text.
-/

namespace ClusterAgent

open Conditions

/-! ## Pod templates -/

structure ContainerPort where
  name : String
  containerPort : Int
  deriving DecidableEq, Repr

structure EnvVar where
  name : String
  value : String := ""
  secretKeyRef : Option SecretKeySelector := none
  deriving DecidableEq, Repr

inductive ProbeHandler where
  | unset
  | httpGet (path : String) (port : Int)
  | tcpSocket (port : Int)
  | exec (command : List String)
  deriving DecidableEq, Repr

structure ContainerProbe where
  handler : ProbeHandler := .unset
  initialDelaySeconds : Int := 0
  periodSeconds : Int := 0
  timeoutSeconds : Int := 0
  failureThreshold : Int := 0
  deriving DecidableEq, Repr

structure ContainerVolumeMount where
  name : String
  mountPath : String
  readOnly : Bool := false
  subPath : String := ""
  deriving DecidableEq, Repr

structure SecurityContext where
  allowPrivilegeEscalation : Bool
  dropCapabilities : List String
  addCapabilities : List String := []
  readOnlyRootFilesystem : Bool := false
  deriving DecidableEq, Repr

structure Container where
  name : String
  image : String
  imagePullPolicy : String
  terminationMessagePolicy : String
  command : List String := []
  args : List String := []
  ports : List ContainerPort := []
  env : List EnvVar := []
  volumeMounts : List ContainerVolumeMount := []
  readinessProbe : Option ContainerProbe := none
  livenessProbe : Option ContainerProbe := none
  startupProbe : Option ContainerProbe := none
  resources : StringMap := []
  securityContext : Option SecurityContext := none
  deriving DecidableEq, Repr

structure SecretVolumeSource where
  secretName : String
  key : String
  path : String
  deriving DecidableEq, Repr

/-- Keys of a ConfigMap, mounted as files; all of them if none is given. -/
structure ConfigMapVolumeSource where
  name : String
  items : List (String × String) := []
  deriving DecidableEq, Repr

structure HostPathVolumeSource where
  path : String
  type : String
  deriving DecidableEq, Repr

/-- A pod volume: backed by a claim, a Secret, a ConfigMap or a directory of the node; an
empty directory if by none of them. -/
structure PodVolume where
  name : String
  claimName : String := ""
  secret : Option SecretVolumeSource := none
  configMap : Option ConfigMapVolumeSource := none
  hostPath : Option HostPathVolumeSource := none
  deriving DecidableEq, Repr

structure PodSecurityContext where
  runAsNonRoot : Bool
  seccompProfile : String
  runAsUser : Option Int := none
  deriving DecidableEq, Repr

structure PodSpec where
  containers : List Container := []
  initContainers : List Container := []
  restartPolicy : String := ""
  volumes : List PodVolume := []
  terminationGracePeriodSeconds : Option Int := none
  imagePullSecrets : List String := []
  securityContext : Option PodSecurityContext := none
  hostPID : Bool := false
  deriving DecidableEq, Repr

structure PodTemplateSpec where
  labels : StringMap := []
  annotations : StringMap := []
  spec : PodSpec := {}
  deriving DecidableEq, Repr

/-! ## Deployments and StatefulSets -/

inductive DeploymentConditionType where
  | available
  | progressing
  | other (name : String)
  deriving DecidableEq, Repr

structure DeploymentCondition where
  type : DeploymentConditionType
  status : ConditionStatus
  reason : String := ""
  lastTransitionTime : Int := 0
  deriving DecidableEq, Repr

structure DeploymentSpec where
  selector : StringMap := []
  replicas : Option Int := none
  strategyType : String := ""
  maxUnavailable : Option Int := none
  maxSurge : String := ""
  progressDeadlineSeconds : Option Int := none
  minReadySeconds : Int := 0
  template : PodTemplateSpec := {}
  deriving DecidableEq, Repr

structure DeploymentStatus where
  observedGeneration : Int := 0
  replicas : Int := 0
  updatedReplicas : Int := 0
  readyReplicas : Int := 0
  availableReplicas : Int := 0
  unavailableReplicas : Int := 0
  conditions : List DeploymentCondition := []
  deriving DecidableEq, Repr

abbrev Deployment := Object DeploymentSpec DeploymentStatus

structure StatefulSetSpec where
  replicas : Option Int := none
  serviceName : String := ""
  podManagementPolicy : String := ""
  updateStrategy : String := ""
  minReadySeconds : Int := 0
  selector : StringMap := []
  template : PodTemplateSpec := {}
  deriving DecidableEq, Repr

structure StatefulSetStatus where
  observedGeneration : Int := 0
  replicas : Int := 0
  readyReplicas : Int := 0
  updatedReplicas : Int := 0
  availableReplicas : Int := 0
  currentRevision : String := ""
  updateRevision : String := ""
  deriving DecidableEq, Repr

abbrev StatefulSet := Object StatefulSetSpec StatefulSetStatus

/-! ## DaemonSets, and the objects around them -/

structure DaemonSetSpec where
  selector : StringMap := []
  template : PodTemplateSpec := {}
  deriving DecidableEq, Repr

structure DaemonSetStatus where
  observedGeneration : Int := 0
  desiredNumberScheduled : Int := 0
  updatedNumberScheduled : Int := 0
  numberAvailable : Int := 0
  numberReady : Int := 0
  deriving DecidableEq, Repr

abbrev DaemonSet := Object DaemonSetSpec DaemonSetStatus

structure ConfigMapSpec where
  data : StringMap := []
  deriving DecidableEq, Repr

abbrev ConfigMap := Object ConfigMapSpec Unit

structure NodeStatus where
  kubeletVersion : String := ""
  deriving DecidableEq, Repr

abbrev Node := Object Unit NodeStatus

/-! ## Jobs and CronJobs -/

inductive JobConditionType where
  | complete
  | failed
  | other (name : String)
  deriving DecidableEq, Repr

structure JobCondition where
  type : JobConditionType
  status : ConditionStatus
  message : String := ""
  deriving DecidableEq, Repr

structure JobSpec where
  completions : Option Int := none
  parallelism : Option Int := none
  backoffLimit : Option Int := none
  ttlSecondsAfterFinished : Option Int := none
  template : PodTemplateSpec := {}
  deriving DecidableEq, Repr

structure JobStatus where
  succeeded : Int := 0
  completionTime : Option Timestamp := none
  conditions : List JobCondition := []
  deriving DecidableEq, Repr

abbrev Job := Object JobSpec JobStatus

structure CronJobSpec where
  schedule : String := ""
  concurrencyPolicy : String := ""
  successfulJobsHistoryLimit : Option Int := none
  failedJobsHistoryLimit : Option Int := none
  jobTemplate : JobSpec := {}
  deriving DecidableEq, Repr

structure CronJobStatus where
  lastScheduleTime : Option Timestamp := none
  deriving DecidableEq, Repr

abbrev CronJob := Object CronJobSpec CronJobStatus

/-! ## ReplicaSets and Pods -/

structure ReplicaSetSpec where
  selector : StringMap := []
  deriving DecidableEq, Repr

abbrev ReplicaSet := Object ReplicaSetSpec Unit

structure ContainerStateWaiting where
  reason : String := ""
  message : String := ""
  deriving DecidableEq, Repr

structure ContainerStateTerminated where
  exitCode : Int := 0
  reason : String := ""
  message : String := ""
  deriving DecidableEq, Repr

structure ContainerStatus where
  name : String
  restartCount : Int := 0
  waiting : Option ContainerStateWaiting := none
  terminated : Option ContainerStateTerminated := none
  lastTerminated : Option ContainerStateTerminated := none
  deriving DecidableEq, Repr

structure PodStatus where
  running : Bool := false
  podIP : String := ""
  initContainerStatuses : List ContainerStatus := []
  containerStatuses : List ContainerStatus := []
  deriving DecidableEq, Repr

abbrev Pod := Object Unit PodStatus

end ClusterAgent
