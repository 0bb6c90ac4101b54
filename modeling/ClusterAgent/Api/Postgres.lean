import ClusterAgent.Api.StackResource

/-!
# Cluster agent — PostgresCluster and the objects of the Postgres operator

The PostgresCluster addon and what its controller reads and writes of the operator's
own API: Cluster, Database, Backup, ScheduledBackup, ImageCatalog and the object
store. A field that is only passed through keeps its shape, so that two specs are
equal exactly when the API server's are.
-/

namespace ClusterAgent

open Conditions

namespace Addons

/-! ## PostgresCluster -/

inductive PostgresClusterConditionType where
  | clusterConfigurationValid
  | clusterReady
  | clusterHibernated
  | clusterFenced
  | databasesApplied
  | continuousWalArchivingSuccess
  | lastBaseBackupSucceeded
  deriving DecidableEq, Repr

def pendingPhase : String := "Pending"
def errorPhase : String := "Error"
def deletingPhase : String := "Deleting"

structure ReplicasSpec where
  numSynchronousReplicas : Int := 0
  synchronousReplicaDataDurability : String := "preferred"
  deriving DecidableEq, Repr

structure PostgreSQLSpec where
  imageCatalogRef : Option String
  postgreSQLMajorVersion : Int
  postgreSQLMinorVersion : Int := 0
  postgresConf : StringMap := []
  deriving DecidableEq, Repr

structure CredentialSecret where
  secretRef : SecretReference
  key : String
  deriving DecidableEq, Repr

structure ExternalClusterSpec where
  name : String
  host : String
  user : String
  port : Int := 5432
  dbName : String
  sslMode : String := ""
  password : CredentialSecret
  deriving DecidableEq, Repr

structure ImportSpec where
  databases : List String
  sourceClusterSpec : ExternalClusterSpec
  deriving DecidableEq, Repr

structure InitDbSpec where
  importSpec : Option ImportSpec := none
  deriving DecidableEq, Repr

structure RecoveryFromObjectStoreSpec where
  objectStoreName : String
  sourceClusterName : String
  recoveryTarget : Option String := none
  deriving DecidableEq, Repr

structure RecoverySpec where
  objectStoreSpec : Option RecoveryFromObjectStoreSpec := none
  backupSpec : Option String := none
  deriving DecidableEq, Repr

structure BootstrapSpec where
  initDbSpec : Option InitDbSpec := none
  recoverySpec : Option RecoverySpec := none
  deriving DecidableEq, Repr

structure PostgresStorageSpec where
  storageClassName : String
  size : String
  deriving DecidableEq, Repr

structure Toleration where
  key : String := ""
  operator : String := ""
  value : String := ""
  effect : String := ""
  tolerationSeconds : Option Int := none
  deriving DecidableEq, Repr

structure InstancePlacementSpec where
  topologyKey : String
  placementPolicy : String
  tolerations : List Toleration := []
  nodeSelector : StringMap := []
  deriving DecidableEq, Repr

structure ScheduledBaseBackupSpec where
  schedule : String
  enabled : Bool := true
  deriving DecidableEq, Repr

structure ClusterBackupSpec where
  walArchivingEnabled : Bool
  objectStoreName : String
  scheduledBaseBackupSpec : Option ScheduledBaseBackupSpec := none
  lastBaseBackupRequestedAt : Option Int := none
  deriving DecidableEq, Repr

structure DatabaseSpec where
  name : String
  extensions : List String := []
  deriving DecidableEq, Repr

/-- `corev1.ResourceRequirements`, passed on as it is. -/
structure ResourceRequirements where
  limits : StringMap := []
  requests : StringMap := []
  deriving DecidableEq, Repr

structure PostgresClusterSpec where
  instances : Int
  replicasSpec : Option ReplicasSpec := none
  postgreSQLSpec : Option PostgreSQLSpec := none
  bootstrapSpec : Option BootstrapSpec := none
  enableSuperuserAccess : Bool := false
  storageSpec : Option PostgresStorageSpec := none
  resourceSpec : ResourceRequirements := {}
  instancePlacementSpec : Option InstancePlacementSpec := none
  clusterBackupSpec : Option ClusterBackupSpec := none
  hibernationEnabled : Bool := false
  fencingSpec : Option Bool := none
  databases : List DatabaseSpec := []
  deriving DecidableEq, Repr

structure DatabaseInfo where
  name : String
  owner : String
  deriving DecidableEq, Repr

structure ClusterConnectionInfo where
  host : String
  port : Int
  sslMode : String
  deriving DecidableEq, Repr

structure PostgresClusterOutputs where
  clusterName : String := ""
  writeService : String := ""
  readService : String := ""
  clientCASecret : String := ""
  clusterConnection : Option ClusterConnectionInfo := none
  databases : List DatabaseInfo := []
  superUserCredentialSecret : Option String := none
  /-- From the owner role to the name of its secret. -/
  userCredentialSecrets : StringMap := []
  deriving DecidableEq, Repr

structure PostgresClusterStatus where
  observedGeneration : Int := 0
  conditions : List (Condition PostgresClusterConditionType) := []
  phase : String := ""
  currentPostgreSQLMajorVersion : String := ""
  currentPostgreSQLMinorVersion : String := ""
  currentImage : String := ""
  outputs : Option PostgresClusterOutputs := none
  lastImmeadiateBackupProcessedAt : Option Int := none
  deriving DecidableEq, Repr

end Addons

abbrev PostgresCluster := Object Addons.PostgresClusterSpec Addons.PostgresClusterStatus

def imageCatalogRef (p : PostgresCluster) : Option String :=
  p.spec.postgreSQLSpec.bind Addons.PostgreSQLSpec.imageCatalogRef

/-- `spec.postgreSQLSpec.postgreSQLMajorVersion`. A pass follows the pointer to the image
catalog first, and does not get here if `postgreSQLSpec` is nil. -/
def majorVersion (p : PostgresCluster) : Int :=
  (p.spec.postgreSQLSpec.map Addons.PostgreSQLSpec.postgreSQLMajorVersion).getD 0

def cnpgClusterName (p : PostgresCluster) : String :=
  p.metadata.name ++ "-" ++ toString (majorVersion p)

namespace Cnpg

/-! ## Cluster -/

inductive ClusterConditionType where
  | ready
  | lastBackupSucceeded
  | continuousArchiving
  | hibernation
  | other (name : String)
  deriving DecidableEq, Repr

structure StorageConfiguration where
  storageClass : Option String := none
  size : String := ""
  deriving DecidableEq, Repr

structure Import where
  source : String
  type : String
  databases : List String
  deriving DecidableEq, Repr

structure BootstrapInitDB where
  importSpec : Option Import := none
  deriving DecidableEq, Repr

structure BootstrapRecovery where
  source : String := ""
  recoveryTarget : Option String := none
  backup : Option String := none
  deriving DecidableEq, Repr

structure BootstrapConfiguration where
  initDB : Option BootstrapInitDB := none
  recovery : Option BootstrapRecovery := none
  deriving DecidableEq, Repr

structure PluginConfiguration where
  name : String
  enabled : Option Bool := none
  isWALArchiver : Option Bool := none
  parameters : StringMap := []
  deriving DecidableEq, Repr

structure ExternalCluster where
  name : String
  connectionParameters : StringMap := []
  password : Option SecretKeySelector := none
  pluginConfiguration : Option PluginConfiguration := none
  deriving DecidableEq, Repr

structure SynchronousReplicaConfiguration where
  method : String
  number : Int
  dataDurability : String
  deriving DecidableEq, Repr

structure PostgresConfiguration where
  synchronous : Option SynchronousReplicaConfiguration := none
  parameters : StringMap := []
  deriving DecidableEq, Repr

structure AffinityConfiguration where
  topologyKey : String := ""
  nodeSelector : StringMap := []
  tolerations : List Addons.Toleration := []
  podAntiAffinityType : String := ""
  deriving DecidableEq, Repr

structure ClusterSpec where
  instances : Int := 0
  imageName : String := ""
  storageConfiguration : StorageConfiguration := {}
  bootstrap : Option BootstrapConfiguration := none
  externalClusters : List ExternalCluster := []
  plugins : List PluginConfiguration := []
  postgresConfiguration : PostgresConfiguration := {}
  affinity : AffinityConfiguration := {}
  enableSuperuserAccess : Option Bool := none
  resources : Addons.ResourceRequirements := {}
  enablePDB : Option Bool := none
  deriving DecidableEq, Repr

structure ClusterStatus where
  conditions : List (Condition ClusterConditionType) := []
  phase : String := ""
  writeService : String := ""
  readService : String := ""
  deriving DecidableEq, Repr

/-! ## Databases -/

inductive EnsureOption where
  | present
  | absent
  deriving DecidableEq, Repr

structure ExtensionSpec where
  name : String
  ensure : EnsureOption := .present
  deriving DecidableEq, Repr

structure DatabaseSpec where
  /-- The name of the operator's Cluster the database belongs to. -/
  clusterRef : String
  name : String
  owner : String
  ensure : EnsureOption := .present
  extensions : List ExtensionSpec := []
  deriving DecidableEq, Repr

structure ExtensionStatus where
  name : String
  applied : Bool
  deriving DecidableEq, Repr

structure DatabaseStatus where
  applied : Option Bool := none
  observedGeneration : Int := 0
  extensions : List ExtensionStatus := []
  deriving DecidableEq, Repr

/-! ## Backups and catalogs -/

structure BackupPluginConfiguration where
  name : String
  parameters : StringMap := []
  deriving DecidableEq, Repr

structure BackupSpec where
  cluster : String
  method : String
  pluginConfiguration : Option BackupPluginConfiguration := none
  deriving DecidableEq, Repr

structure BackupStatus where
  phase : String := ""
  deriving DecidableEq, Repr

structure ScheduledBackupSpec where
  backupOwnerReference : String
  schedule : String
  immediate : Option Bool := none
  cluster : String
  method : String
  pluginConfiguration : Option BackupPluginConfiguration := none
  deriving DecidableEq, Repr

structure CatalogImage where
  major : Int
  image : String
  deriving DecidableEq, Repr

structure ImageCatalogSpec where
  images : List CatalogImage := []
  deriving DecidableEq, Repr

structure ObjectStoreStatus where
  serverRecoveryWindow : List String := []
  deriving DecidableEq, Repr

end Cnpg

abbrev CnpgCluster := Object Cnpg.ClusterSpec Cnpg.ClusterStatus
abbrev Database := Object Cnpg.DatabaseSpec Cnpg.DatabaseStatus
abbrev Backup := Object Cnpg.BackupSpec Cnpg.BackupStatus
abbrev ScheduledBackup := Object Cnpg.ScheduledBackupSpec Unit
abbrev ImageCatalog := Object Cnpg.ImageCatalogSpec Unit
abbrev ObjectStore := Object Unit Cnpg.ObjectStoreStatus
abbrev StorageClass := Object Unit Unit

end ClusterAgent
