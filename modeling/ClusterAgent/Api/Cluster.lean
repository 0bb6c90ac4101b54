import ClusterAgent.Api.Postgres
import ClusterAgent.Api.Storage
import ClusterAgent.Api.Users
import ClusterAgent.Api.Workloads
import ClusterAgent.Controller.PortCheck
import ClusterAgent.Controller.Verdict

/-!
# Cluster agent — the API server and one pass's world

A reconcile pass runs against the API server, its own in-memory copy of the
object, the verdict collector of the pass and the port verifier. `Pass` is that
step: it may fail at any API call, and what it changed in the cluster by then
stays, which is what `EStateM` gives.

The API server is modelled by what its clients can tell:

* objects of a kind are listed under namespace and name (`Kind` selects the list);
* `create` refuses a taken name and assigns the uid, generation 1 and the creation
  time; `update` keeps the status and counts the generation up when the spec
  changes; `delete` only marks an object that still has finalizers;
* any call may fail: `Env.fault` says which, by the position of the call in the
  pass.

Server-side defaulting is left out. Nothing else writes during a pass; between
passes the cluster may change in any way.
-/

namespace ClusterAgent

/-! ## Errors -/

/-- What `apierrors` and `errors.Is` can tell about an error. -/
inductive ErrorKind where
  | notFound
  | alreadyExists
  | registryNotReady
  | other
  deriving DecidableEq, Repr

structure GoError where
  kind : ErrorKind := .other
  message : String
  deriving DecidableEq, Repr

/-- `fmt.Errorf("<context>: %w", err)`: the kind is still visible through the wrapping. -/
def GoError.wrap (context : String) (e : GoError) : GoError :=
  { e with message := context ++ ": " ++ e.message }

/-- A nil dereference, which the controller's panic handler turns into a failed pass. -/
def nilDereference : GoError :=
  { message := "panic: invalid memory address or nil pointer dereference" }

/-! ## The cluster -/

structure Cluster where
  stackResources : List StackResource := []
  deployments : List Deployment := []
  statefulSets : List StatefulSet := []
  jobs : List Job := []
  cronJobs : List CronJob := []
  replicaSets : List ReplicaSet := []
  pods : List Pod := []
  secrets : List Secret := []
  services : List Service := []
  ingresses : List Ingress := []
  middlewares : List Middleware := []
  certificates : List Certificate := []
  clusterIssuers : List ClusterIssuer := []
  clusterRegistries : List ClusterRegistry := []
  volumes : List Volume := []
  imageBuilds : List ImageBuild := []
  postgresClusters : List PostgresCluster := []
  cnpgClusters : List CnpgCluster := []
  databases : List Database := []
  backups : List Backup := []
  scheduledBackups : List ScheduledBackup := []
  imageCatalogs : List ImageCatalog := []
  objectStores : List ObjectStore := []
  storageClasses : List StorageClass := []
  storages : List Storage := []
  users : List User := []
  namespaces : List Namespace := []
  serviceAccounts : List ServiceAccount := []
  clusterRoles : List ClusterRole := []
  roleBindings : List RoleBinding := []
  persistentVolumeClaims : List PersistentVolumeClaim := []
  configMaps : List ConfigMap := []
  daemonSets : List DaemonSet := []
  nodes : List Node := []
  /-- How many objects were ever created; uids are never reused. -/
  created : Nat := 0

inductive ObjectKind where
  | deployment
  | statefulSet
  | job
  | cronJob
  | replicaSet
  | pod
  | secret
  | service
  | ingress
  | middleware
  | certificate
  | clusterIssuer
  | clusterRegistry
  | volume
  | imageBuild
  | postgresCluster
  | cnpgCluster
  | database
  | backup
  | scheduledBackup
  | imageCatalog
  | objectStore
  | storageClass
  | storage
  | user
  | kubeNamespace
  | serviceAccount
  | clusterRole
  | roleBinding
  | persistentVolumeClaim
  | configMap
  | daemonSet
  | node
  deriving DecidableEq, Repr

def Cluster.Same (c c' : Cluster) : ObjectKind → Prop
  | .deployment => c'.deployments = c.deployments
  | .statefulSet => c'.statefulSets = c.statefulSets
  | .job => c'.jobs = c.jobs
  | .cronJob => c'.cronJobs = c.cronJobs
  | .replicaSet => c'.replicaSets = c.replicaSets
  | .pod => c'.pods = c.pods
  | .secret => c'.secrets = c.secrets
  | .service => c'.services = c.services
  | .ingress => c'.ingresses = c.ingresses
  | .middleware => c'.middlewares = c.middlewares
  | .certificate => c'.certificates = c.certificates
  | .clusterIssuer => c'.clusterIssuers = c.clusterIssuers
  | .clusterRegistry => c'.clusterRegistries = c.clusterRegistries
  | .volume => c'.volumes = c.volumes
  | .imageBuild => c'.imageBuilds = c.imageBuilds
  | .postgresCluster => c'.postgresClusters = c.postgresClusters
  | .cnpgCluster => c'.cnpgClusters = c.cnpgClusters
  | .database => c'.databases = c.databases
  | .backup => c'.backups = c.backups
  | .scheduledBackup => c'.scheduledBackups = c.scheduledBackups
  | .imageCatalog => c'.imageCatalogs = c.imageCatalogs
  | .objectStore => c'.objectStores = c.objectStores
  | .storageClass => c'.storageClasses = c.storageClasses
  | .storage => c'.storages = c.storages
  | .user => c'.users = c.users
  | .kubeNamespace => c'.namespaces = c.namespaces
  | .serviceAccount => c'.serviceAccounts = c.serviceAccounts
  | .clusterRole => c'.clusterRoles = c.clusterRoles
  | .roleBinding => c'.roleBindings = c.roleBindings
  | .persistentVolumeClaim => c'.persistentVolumeClaims = c.persistentVolumeClaims
  | .configMap => c'.configMaps = c.configMaps
  | .daemonSet => c'.daemonSets = c.daemonSets
  | .node => c'.nodes = c.nodes

/-- One kind of object: its name in messages and where the cluster keeps it. Writing the
objects of a kind leaves everything else alone. -/
structure Kind (S T : Type) where
  id : ObjectKind
  resource : String
  get : Cluster → List (Object S T)
  set : Cluster → List (Object S T) → Cluster
  get_set : ∀ c l, get (set c l) = l := by exact fun _ _ => rfl
  get_created : ∀ (c : Cluster) n, get { c with created := n } = get c := by exact fun _ _ => rfl
  get_same : ∀ c c' : Cluster, c.Same c' id → get c' = get c := by exact fun _ _ h => h
  set_other : ∀ (c : Cluster) l k, k ≠ id → c.Same (set c l) k := by
    intro c l k h
    cases k <;> first | rfl | exact absurd rfl h
  created_set : ∀ c l, (set c l).created = c.created := by exact fun _ _ => rfl
  stackResources_set : ∀ c l, (set c l).stackResources = c.stackResources := by
    exact fun _ _ => rfl

namespace Kind

def deployment : Kind DeploymentSpec DeploymentStatus where
  id := .deployment
  resource := "deployments.apps"
  get c := c.deployments
  set c l := { c with deployments := l }

def statefulSet : Kind StatefulSetSpec StatefulSetStatus where
  id := .statefulSet
  resource := "statefulsets.apps"
  get c := c.statefulSets
  set c l := { c with statefulSets := l }

def job : Kind JobSpec JobStatus where
  id := .job
  resource := "jobs.batch"
  get c := c.jobs
  set c l := { c with jobs := l }

def cronJob : Kind CronJobSpec CronJobStatus where
  id := .cronJob
  resource := "cronjobs.batch"
  get c := c.cronJobs
  set c l := { c with cronJobs := l }

def replicaSet : Kind ReplicaSetSpec Unit where
  id := .replicaSet
  resource := "replicasets.apps"
  get c := c.replicaSets
  set c l := { c with replicaSets := l }

def pod : Kind Unit PodStatus where
  id := .pod
  resource := "pods"
  get c := c.pods
  set c l := { c with pods := l }

def secret : Kind SecretSpec Unit where
  id := .secret
  resource := "secrets"
  get c := c.secrets
  set c l := { c with secrets := l }

def service : Kind ServiceSpec Unit where
  id := .service
  resource := "services"
  get c := c.services
  set c l := { c with services := l }

def ingress : Kind IngressSpec Unit where
  id := .ingress
  resource := "ingresses.networking.k8s.io"
  get c := c.ingresses
  set c l := { c with ingresses := l }

def middleware : Kind MiddlewareSpec Unit where
  id := .middleware
  resource := "middlewares.traefik.io"
  get c := c.middlewares
  set c l := { c with middlewares := l }

def certificate : Kind Unit CertificateStatus where
  id := .certificate
  resource := "certificates.cert-manager.io"
  get c := c.certificates
  set c l := { c with certificates := l }

def clusterIssuer : Kind Unit Unit where
  id := .clusterIssuer
  resource := "clusterissuers.cert-manager.io"
  get c := c.clusterIssuers
  set c l := { c with clusterIssuers := l }

def clusterRegistry : Kind ClusterRegistrySpec ClusterRegistryStatus where
  id := .clusterRegistry
  resource := "clusterregistries.registry.stackdome.io"
  get c := c.clusterRegistries
  set c l := { c with clusterRegistries := l }

def volume : Kind VolumeSpec VolumeStatus where
  id := .volume
  resource := "volumes.storage.stackdome.io"
  get c := c.volumes
  set c l := { c with volumes := l }

def imageBuild : Kind ImageBuildSpec ImageBuildStatus where
  id := .imageBuild
  resource := "imagebuilds.builds.stackdome.io"
  get c := c.imageBuilds
  set c l := { c with imageBuilds := l }

def postgresCluster : Kind Addons.PostgresClusterSpec Addons.PostgresClusterStatus where
  id := .postgresCluster
  resource := "postgresclusters.addons.stackdome.io"
  get c := c.postgresClusters
  set c l := { c with postgresClusters := l }

def cnpgCluster : Kind Cnpg.ClusterSpec Cnpg.ClusterStatus where
  id := .cnpgCluster
  resource := "clusters.postgresql.cnpg.io"
  get c := c.cnpgClusters
  set c l := { c with cnpgClusters := l }

def database : Kind Cnpg.DatabaseSpec Cnpg.DatabaseStatus where
  id := .database
  resource := "databases.postgresql.cnpg.io"
  get c := c.databases
  set c l := { c with databases := l }

def backup : Kind Cnpg.BackupSpec Cnpg.BackupStatus where
  id := .backup
  resource := "backups.postgresql.cnpg.io"
  get c := c.backups
  set c l := { c with backups := l }

def scheduledBackup : Kind Cnpg.ScheduledBackupSpec Unit where
  id := .scheduledBackup
  resource := "scheduledbackups.postgresql.cnpg.io"
  get c := c.scheduledBackups
  set c l := { c with scheduledBackups := l }

def imageCatalog : Kind Cnpg.ImageCatalogSpec Unit where
  id := .imageCatalog
  resource := "imagecatalogs.postgresql.cnpg.io"
  get c := c.imageCatalogs
  set c l := { c with imageCatalogs := l }

def objectStore : Kind Unit Cnpg.ObjectStoreStatus where
  id := .objectStore
  resource := "objectstores.barmancloud.cnpg.io"
  get c := c.objectStores
  set c l := { c with objectStores := l }

def storageClass : Kind Unit Unit where
  id := .storageClass
  resource := "storageclasses.storage.k8s.io"
  get c := c.storageClasses
  set c l := { c with storageClasses := l }

def storage : Kind StorageSpec StorageStatus where
  id := .storage
  resource := "storages.storage.stackdome.io"
  get c := c.storages
  set c l := { c with storages := l }

def user : Kind UserSpec UserStatus where
  id := .user
  resource := "users.users.stackdome.io"
  get c := c.users
  set c l := { c with users := l }

def kubeNamespace : Kind Unit Unit where
  id := .kubeNamespace
  resource := "namespaces"
  get c := c.namespaces
  set c l := { c with namespaces := l }

def serviceAccount : Kind Unit Unit where
  id := .serviceAccount
  resource := "serviceaccounts"
  get c := c.serviceAccounts
  set c l := { c with serviceAccounts := l }

def clusterRole : Kind ClusterRoleSpec Unit where
  id := .clusterRole
  resource := "clusterroles.rbac.authorization.k8s.io"
  get c := c.clusterRoles
  set c l := { c with clusterRoles := l }

def roleBinding : Kind RoleBindingSpec Unit where
  id := .roleBinding
  resource := "rolebindings.rbac.authorization.k8s.io"
  get c := c.roleBindings
  set c l := { c with roleBindings := l }

def persistentVolumeClaim : Kind PersistentVolumeClaimSpec Unit where
  id := .persistentVolumeClaim
  resource := "persistentvolumeclaims"
  get c := c.persistentVolumeClaims
  set c l := { c with persistentVolumeClaims := l }

end Kind

/-! ## A pass -/

/-- What a pass depends on besides the cluster: the clock, which API calls fail, the
configuration of the agent and library functions. The pass is short enough to read
the clock once. -/
structure Env where
  clock : Clock
  /-- The error of the `n`-th API call of the pass, if it fails. -/
  fault : Nat → Option GoError := fun _ => none
  timeString : Int → String := toString
  buildInputsHash : StackResourceBuildSpec → String
  jobInputsHash : ImageBuildSpec → String := fun _ => ""
  /-- The digest behind `StatusHash`. -/
  statusDigest : StackResourceStatus → String
  buildStatusDigest : ImageBuildStatus → String := fun _ => ""
  /-- The YAML decoder's error on a rendered build Job, if it has one. -/
  jobYAMLError : Job → Option String := fun _ => none
  /-- The host of a URL, or the parser's error text. -/
  urlHost : String → Except String String
  /-- The parser's error on an image reference, if it has one. -/
  tagParseError : String → Option String := fun _ => none
  /-- The error of a registry asked to delete a reference, with or without TLS and with a
  user and a password; not for a tag that is gone. -/
  remoteDeleteError : String → Bool → String → String → Option GoError := fun _ _ _ _ => none
  /-- The docker config file for one registry: URL, user and password. -/
  dockerConfigJSON : String → String → String → String
  /-- The order a Go map with these keys is iterated in. -/
  mapOrder : List Int → List Int := id
  mapOrder_perm : ∀ keys, (mapOrder keys).Perm keys := by exact fun _ => List.Perm.refl _
  /-- The same, of a map with text keys. -/
  nameOrder : List String → List String := id
  nameOrder_perm : ∀ keys, (nameOrder keys).Perm keys := by exact fun _ => List.Perm.refl _
  /-- The digests behind the `StatusHash` of a Storage and of a User. -/
  storageStatusDigest : StorageStatus → String := fun _ => ""
  userStatusDigest : UserStatus → String := fun _ => ""
  volumeStatusDigest : VolumeStatus → String := fun _ => ""
  /-- The first eight hexadecimal digits of the SHA-256 of a git revision. -/
  gitRevisionHash : String → String := fun _ => "00000000"
  /-- A resource quantity, in billionths, or the parser's error text. -/
  parseQuantity : String → Except String Int := fun _ => .ok 0
  /-- The cron parser's error on a schedule, if it has one. -/
  scheduleError : String → Option String := fun _ => none
  /-- The error of a database server asked for a connection, by connection string. -/
  pingError : String → Option String := fun _ => none
  historyLimit : Int := 0
  platformTLSNamespace : String := "stackdome-control-plane"
  portCheckGrace : Int := 0

/-- The state of a pass: the cluster, the number of API calls made, the port verifier
(absent when port checks are disabled), the in-memory object and the collector. -/
structure World where
  cluster : Cluster := {}
  calls : Nat := 0
  verifier : Option PortCheck.Verifier := none
  resource : StackResource
  verdicts : VerdictCollector := {}

abbrev Pass := EStateM GoError World

namespace Pass

variable (env : Env) {S T : Type}

/-- One API call: it fails if the environment says so. -/
def call : Pass Unit := fun w =>
  match env.fault w.calls with
  | some e => .error e { w with calls := w.calls + 1 }
  | none => .ok () { w with calls := w.calls + 1 }

def resource : Pass StackResource := do return (← get).resource

def modifyResource (f : StackResource → StackResource) : Pass Unit :=
  modify fun w => { w with resource := f w.resource }

def modifyStatus (f : StackResourceStatus → StackResourceStatus) : Pass Unit :=
  modifyResource fun r => { r with status := f r.status }

def reportNotReady (reason msg : String) : Pass Unit :=
  modify fun w => { w with verdicts := w.verdicts.reportNotReady reason msg }

def reportFailed (reason msg : String) : Pass Unit :=
  modify fun w => { w with verdicts := w.verdicts.reportFailed reason msg }

/-- `setResourceCondition`, also the reporter's `SetCondition`. -/
def setCondition (condType : StackResourceDomainCondition) (ready : Bool) (reason msg : String) :
    Pass Unit :=
  modifyResource fun r =>
    { r with
      status.conditions := Conditions.setStatusCondition env.clock.wall r.status.conditions
        { type := .domain condType
          status := .ofBool ready
          observedGeneration := r.generation
          reason := reason
          message := msg } }

/-! ## The API server -/

def hasKey (ns name : String) (o : Object S T) : Bool :=
  decide (o.metadata.ns = ns) && decide (o.metadata.name = name)

def lookup (kind : Kind S T) (cluster : Cluster) (ns name : String) : Option (Object S T) :=
  (kind.get cluster).find? (hasKey ns name)

def notFound (kind : Kind S T) (name : String) : GoError :=
  { kind := .notFound, message := kind.resource ++ " \"" ++ name ++ "\" not found" }

/-- `Get`, with an object that does not exist as `none`. -/
def getObject (kind : Kind S T) (ns name : String) : Pass (Option (Object S T)) := do
  call env
  return lookup kind (← get).cluster ns name

def mustGet (kind : Kind S T) (ns name : String) : Pass (Object S T) := do
  match ← getObject env kind ns name with
  | some o => return o
  | none => throw (notFound kind name)

def listObjects (kind : Kind S T) (ns : String) (labels : StringMap) :
    Pass (List (Object S T)) := do
  call env
  return (kind.get (← get).cluster).filter fun o =>
    decide (o.metadata.ns = ns) && labels.all
      fun e => decide (o.metadata.labels.get? e.1 = some e.2)

def create (kind : Kind S T) (o : Object S T) : Pass (Object S T) := do
  call env
  let w ← get
  match lookup kind w.cluster o.metadata.ns o.metadata.name with
  | some _ =>
    throw { kind := .alreadyExists
            message := kind.resource ++ " \"" ++ o.metadata.name ++ "\" already exists" }
  | none =>
    let stored := { o with
      metadata := { o.metadata with
        uid := "uid-" ++ toString w.cluster.created
        generation := 1
        creationTimestamp := storedTime env.clock.wall } }
    let cluster := kind.set w.cluster (kind.get w.cluster ++ [stored])
    set { w with cluster := { cluster with created := cluster.created + 1 } }
    return stored

/-- What an update stores: the new metadata and spec over the old identity and status. -/
def updated [DecidableEq S] (old new : Object S T) : Object S T :=
  { metadata := { new.metadata with
      uid := old.metadata.uid
      creationTimestamp := old.metadata.creationTimestamp
      deletionTimestamp := old.metadata.deletionTimestamp
      generation :=
        if old.spec = new.spec then old.metadata.generation else old.metadata.generation + 1 }
    spec := new.spec
    status := old.status }

def update [DecidableEq S] (kind : Kind S T) (o : Object S T) : Pass (Object S T) := do
  call env
  let w ← get
  match lookup kind w.cluster o.metadata.ns o.metadata.name with
  | none => throw (notFound kind o.metadata.name)
  | some old =>
    let stored := updated old o
    let objects := (kind.get w.cluster).map fun x =>
      if hasKey o.metadata.ns o.metadata.name x then stored else x
    set { w with cluster := kind.set w.cluster objects }
    return stored

/-- `Delete`, where an object that is already gone is no error. -/
def delete (kind : Kind S T) (o : Object S T) : Pass Unit := do
  call env
  let w ← get
  let objects := (kind.get w.cluster).filterMap fun x =>
    if hasKey o.metadata.ns o.metadata.name x then
      if x.metadata.finalizers.isEmpty then none
      else some { x with
        metadata.deletionTimestamp :=
          some (x.metadata.deletionTimestamp.getD (storedTime env.clock.wall)) }
    else some x
  set { w with cluster := kind.set w.cluster objects }

/-- `Update` of an object that may have lost its last finalizer: the server removes it if
it is being deleted. -/
def updateOrRelease [DecidableEq S] (kind : Kind S T) (o : Object S T) : Pass Unit := do
  let stored ← update env kind o
  if stored.metadata.deletionTimestamp.isSome && stored.metadata.finalizers.isEmpty then
    modify fun w =>
      { w with
        cluster := kind.set w.cluster ((kind.get w.cluster).filter fun x =>
          !hasKey o.metadata.ns o.metadata.name x) }

/-- `Status().Update`: nothing but the status is written; `stored` is what storage makes
of it. -/
def storeStatus (kind : Kind S T) (stored : T → T) (o : Object S T) : Pass Unit := do
  call env
  let w ← get
  match lookup kind w.cluster o.metadata.ns o.metadata.name with
  | none => throw (notFound kind o.metadata.name)
  | some _ =>
    let objects := (kind.get w.cluster).map fun x =>
      if hasKey o.metadata.ns o.metadata.name x then { x with status := stored o.status } else x
    set { w with cluster := kind.set w.cluster objects }

/-- `controllerutil.CreateOrUpdate` on the object with the given name: create it from
`blank`, or update it if the mutation changes it. -/
def createOrUpdate [DecidableEq S] [DecidableEq T] (kind : Kind S T) (blank : Object S T)
    (mutate : Object S T → Pass (Object S T)) : Pass (Object S T) := do
  match ← getObject env kind blank.metadata.ns blank.metadata.name with
  | none =>
    let o ← mutate blank
    create env kind o
  | some existing =>
    let o ← mutate existing
    if existing = o then return o else update env kind o

/-- `SetControllerReference` on the resource of the pass. -/
def controlled (o : Object S T) : Pass (Object S T) := do
  let owner ← resource
  match setControllerReference owner.metadata "StackResource" o.metadata with
  | some metadata => return { o with metadata := metadata }
  | none => throw { message := "Object is already owned by another controller" }

end Pass

end ClusterAgent
