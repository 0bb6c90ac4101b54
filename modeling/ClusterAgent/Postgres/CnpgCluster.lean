import ClusterAgent.Postgres.Validation

/-!
# Cluster agent — the operator's Cluster of a PostgresCluster

Two sub-reconcilers. The first brings the operator's Cluster in line with the spec and
ends the pass unless the operator reports it ready. The second writes the annotations
by which the operator is told to hibernate or to fence the cluster, one at a time:
each write ends the pass, and fencing waits for hibernation to settle.
-/

namespace ClusterAgent.PostgresController

open Pass Effect Conditions Session ObjectPass Addons

/-! ## The desired Cluster -/

def barmanPluginName : String := "barman-cloud.cloudnative-pg.io"

def buildAffinityConfiguration (resource : PostgresCluster) : Cnpg.AffinityConfiguration :=
  match resource.spec.instancePlacementSpec with
  | none => {}
  | some placement =>
    { topologyKey := placement.topologyKey
      nodeSelector := placement.nodeSelector
      tolerations := placement.tolerations
      podAntiAffinityType := placement.placementPolicy }

def buildPostgresConfiguration (resource : PostgresCluster) :
    Except GoError Cnpg.PostgresConfiguration :=
  match resource.spec.replicasSpec, resource.spec.postgreSQLSpec with
  | some replicas, some postgreSQLSpec =>
    .ok
      { synchronous :=
          if 0 < replicas.numSynchronousReplicas ∧ 1 < resource.spec.instances then
            some
              { method := "any"
                number := replicas.numSynchronousReplicas
                dataDurability := replicas.synchronousReplicaDataDurability }
          else none
        parameters := postgreSQLSpec.postgresConf }
  | _, _ => .error nilDereference

def buildPluginsSpec (resource : PostgresCluster) : List Cnpg.PluginConfiguration :=
  match resource.spec.clusterBackupSpec with
  | none => []
  | some backupSpec =>
    if backupSpec.walArchivingEnabled then
      [{ name := barmanPluginName
         enabled := some true
         isWALArchiver := some true
         parameters := [("barmanObjectName", backupSpec.objectStoreName)] }]
    else []

def importSource (source : ExternalClusterSpec) : Cnpg.ExternalCluster :=
  { name := source.name
    connectionParameters :=
      [("host", source.host), ("port", toString source.port), ("user", source.user),
        ("dbname", source.dbName), ("sslmode", source.sslMode)]
    password := some { name := source.password.secretRef.name, key := source.password.key } }

def recoverySource (store : RecoveryFromObjectStoreSpec) : Cnpg.ExternalCluster :=
  { name := store.objectStoreName
    pluginConfiguration := some
      { name := barmanPluginName
        parameters :=
          [("barmanObjectName", store.objectStoreName), ("serverName", store.sourceClusterName)] } }

def buildExternalClusters (resource : PostgresCluster) : List Cnpg.ExternalCluster :=
  match resource.spec.bootstrapSpec with
  | none => []
  | some bootstrap =>
    match bootstrap.initDbSpec.bind InitDbSpec.importSpec,
        bootstrap.recoverySpec.bind RecoverySpec.objectStoreSpec with
    | some importSpec, _ => [importSource importSpec.sourceClusterSpec]
    | none, some store => [recoverySource store]
    | none, none => []

def buildBootstrapSpec (resource : PostgresCluster) : Option Cnpg.BootstrapConfiguration :=
  match resource.spec.bootstrapSpec with
  | none => none
  | some bootstrap =>
    match bootstrap.initDbSpec, bootstrap.recoverySpec with
    | some initDb, _ =>
      some
        { initDB := some
            { importSpec := initDb.importSpec.map fun importSpec =>
                { source := importSpec.sourceClusterSpec.name
                  type := "microservice"
                  databases := importSpec.databases } } }
    | none, some recovery =>
      match recovery.objectStoreSpec, recovery.backupSpec with
      | some store, _ =>
        some { recovery := some { source := store.objectStoreName
                                  recoveryTarget := store.recoveryTarget } }
      | none, some backupName => some { recovery := some { backup := some backupName } }
      | none, none => none
    | none, none => none

/-! ## Writing it -/

section

variable (env : Env)

def storageSizes (resource : PostgresCluster) (cluster : CnpgCluster) :
    Except GoError (Option (Int × Int)) :=
  let existing := cluster.spec.storageConfiguration.size
  if existing = "" then .ok none
  else
    match resource.spec.storageSpec with
    | none => .error nilDereference
    | some storage =>
      match env.parseQuantity storage.size with
      | .error e =>
        .error { message := "failed to parse storage size " ++ storage.size ++ ": " ++ e }
      | .ok desiredQuantity =>
        match env.parseQuantity existing with
        | .error e =>
          .error { message := "failed to parse existing storage size " ++ existing ++ ": " ++ e }
        | .ok existingQuantity => .ok (some (desiredQuantity, existingQuantity))

def storageDownsize (resource : PostgresCluster) (cluster : CnpgCluster) : Bool :=
  match storageSizes env resource cluster with
  | .ok (some (desired, existing)) => decide (desired < existing)
  | _ => false

/-- The spec of the Cluster. An image it already has is kept. -/
def desiredClusterSpec (resource : PostgresCluster) (storage : PostgresStorageSpec)
    (desiredImage : String) (configuration : Cnpg.PostgresConfiguration)
    (existing : Cnpg.ClusterSpec) : Cnpg.ClusterSpec where
  instances := resource.spec.instances
  imageName := if existing.imageName = "" then desiredImage else existing.imageName
  storageConfiguration :=
    { storageClass := some storage.storageClassName
      size := storage.size }
  bootstrap := buildBootstrapSpec resource
  externalClusters := buildExternalClusters resource
  plugins := buildPluginsSpec resource
  postgresConfiguration := configuration
  affinity := buildAffinityConfiguration resource
  enableSuperuserAccess := some resource.spec.enableSuperuserAccess
  resources := resource.spec.resourceSpec
  enablePDB := some (decide (resource.spec.instances ≠ 1))

/-- The mutation of `CreateOrUpdate`. A smaller storage leaves the Cluster as it is. -/
def mutateCnpgCluster (resource : PostgresCluster) (desiredImage : String) (cluster : CnpgCluster) :
    Pass CnpgCluster := do
  match storageSizes env resource cluster with
  | .error e => throw e
  | .ok _ =>
    if storageDownsize env resource cluster then return cluster
    else
      match resource.spec.storageSpec with
      | none => throw nilDereference
      | some storage =>
        match buildPostgresConfiguration resource with
        | .error e => throw e
        | .ok configuration =>
          controlledBy resource.metadata "PostgresCluster"
            { cluster with
              spec := desiredClusterSpec resource storage desiredImage configuration
                cluster.spec }

def secretTypeBasicAuth : String := "kubernetes.io/basic-auth"

def serviceHost (service ns : String) : String := service ++ "." ++ ns ++ ".svc.cluster.local"

def publishSecrets (clusterName : String) (outputs : PostgresClusterOutputs) :
    List Secret → PostgresClusterOutputs
  | [] => outputs
  | secret :: rest =>
    let basicAuth := decide (secret.spec.type = secretTypeBasicAuth)
    let outputs :=
      if basicAuth && decide (secret.name = clusterName ++ "-superuser") then
        { outputs with superUserCredentialSecret := some secret.name }
      else if secret.name = clusterName ++ "-ca" then
        { outputs with clientCASecret := secret.name }
      else if basicAuth && clusterName.toList.isPrefixOf secret.name.toList then
        { outputs with
          userCredentialSecrets :=
            outputs.userCredentialSecrets.set (secret.spec.data.get "username") secret.name }
      else outputs
    publishSecrets clusterName outputs rest

def populateStatus (cluster : CnpgCluster) : PostgresPass Unit := do
  let resource ← getOwn
  let writeServiceHost := serviceHost cluster.status.writeService cluster.metadata.ns
  let outputs : PostgresClusterOutputs :=
    { clusterName := cluster.name
      readService := serviceHost cluster.status.readService cluster.metadata.ns
      writeService := writeServiceHost
      clusterConnection := some { host := writeServiceHost, port := 5432, sslMode := "require" } }
  let setOutputs (outputs : PostgresClusterOutputs) : PostgresPass Unit :=
    modifyStatus fun s => { s with outputs := some outputs }
  modifyStatus fun s =>
    { s with
      currentImage := cluster.spec.imageName
      currentPostgreSQLMajorVersion := toString (majorVersion resource)
      currentPostgreSQLMinorVersion := toString
        ((resource.spec.postgreSQLSpec.map PostgreSQLSpec.postgreSQLMinorVersion).getD 0) }
  setOutputs outputs
  match ← Effect.attempt (onCluster (listObjects env .secret resource.metadata.ns [])) with
  | .error e =>
    throw (e.wrap ("failed to list secrets in namespace " ++ resource.metadata.ns))
  | .ok secrets => setOutputs (publishSecrets cluster.name outputs secrets)

def clusterConditionTrue (cluster : CnpgCluster) (t : Cnpg.ClusterConditionType) : Bool :=
  (findStatusCondition cluster.status.conditions t).any fun c =>
    decide (c.status = .conditionTrue)

def reconcilePgCluster : PostgresPass StepResult := do
  let resource ← getOwn
  match imageCatalogRef resource with
  | none => throw nilDereference
  | some catalogName =>
    let imageCatalog ← onCluster (mustGet env .imageCatalog resource.metadata.ns catalogName)
    let major := majorVersion resource
    match catalogImage imageCatalog major with
    | none =>
      throw { message := "image not found in catalog " ++ catalogName ++ " for version " ++
        toString major }
    | some image =>
      let blank : CnpgCluster :=
        { metadata := { name := cnpgClusterName resource, ns := resource.metadata.ns }
          spec := {}
          status := {} }
      let cluster ← onCluster (createOrUpdate env .cnpgCluster blank
        (mutateCnpgCluster env resource image.image))
      -- a Cluster that was brought in line has the size of the spec
      if storageDownsize env resource cluster then
        setStatusCondition env .clusterConfigurationValid .conditionFalse "InvalidStorageSize"
          "Desired storage size is less than existing"
        setPhase errorPhase
        return .stop
      else if clusterConditionTrue cluster .ready then
        setStatusCondition env .clusterReady .conditionTrue "Ready" "PostgresCluster is ready"
        setPhase cluster.status.phase
        populateStatus env cluster
        return .nil
      else
        setStatusCondition env .clusterReady .conditionFalse "NotReady"
          "PostgresCluster is not ready"
        setPhase cluster.status.phase
        return .stop

/-! ## Hibernation and fencing -/

def hibernationKey : String := "cnpg.io/hibernation"

def hibernationOn : String := "on"
def hibernationOff : String := "off"

def fencedInstancesKey : String := "cnpg.io/fencedInstances"

def clusterFencedValue : String := "'[\"*\"]'"

def desiredHibernation (resource : PostgresCluster) : String :=
  if resource.spec.hibernationEnabled then hibernationOn else hibernationOff

/-- The operator has done what the annotation asks for. -/
def hibernationSettled (resource : PostgresCluster) (cluster : CnpgCluster) : Bool :=
  match findStatusCondition cluster.status.conditions .hibernation with
  | none => !resource.spec.hibernationEnabled
  | some c =>
    if resource.spec.hibernationEnabled then decide (c.status = .conditionTrue)
    else decide (c.status = .conditionFalse)

def removeStatusCondition (conditionType : PostgresClusterConditionType) : PostgresPass Unit :=
  modifyStatus fun s =>
    { s with conditions := Conditions.removeStatusCondition s.conditions conditionType }

def reconcileClusterHibernation (cluster : CnpgCluster) : PostgresPass StepResult := do
  let resource ← getOwn
  let value := desiredHibernation resource
  if cluster.metadata.annotations.get? hibernationKey ≠ some value then
    let _ ← onCluster (update env .cnpgCluster
      { cluster with
        metadata.annotations := cluster.metadata.annotations.set hibernationKey value })
    return .requeue
  else if hibernationSettled resource cluster then
    if resource.spec.hibernationEnabled then
      setStatusCondition env .clusterHibernated .conditionTrue "ClusterHibernated"
        "The cluster is currently hibernated"
    else removeStatusCondition .clusterHibernated
    return .nil
  else return .stop

def fenceCluster (resource : PostgresCluster) : Bool := resource.spec.fencingSpec.getD false

def reconcileClusterFencing (cluster : CnpgCluster) : PostgresPass StepResult := do
  let resource ← getOwn
  let fenced := cluster.metadata.annotations.get? fencedInstancesKey
  if fenceCluster resource then
    if fenced ≠ some clusterFencedValue then
      let _ ← onCluster (update env .cnpgCluster
        { cluster with
          metadata.annotations :=
            cluster.metadata.annotations.set fencedInstancesKey clusterFencedValue })
      return .requeueAfter (30 * second)
    else
      setStatusCondition env .clusterFenced .conditionTrue "ClusterFenced"
        "The cluster is currently fenced"
      return .nil
  else if fenced.isSome then
    let _ ← onCluster (update env .cnpgCluster
      { cluster with
        metadata.annotations := cluster.metadata.annotations.delete fencedInstancesKey })
    return .requeueAfter (30 * second)
  else
    removeStatusCondition .clusterFenced
    return .nil

def reconcileClusterLifecycle : PostgresPass StepResult := do
  let resource ← getOwn
  let cluster ← onCluster (mustGet env .cnpgCluster resource.metadata.ns (cnpgClusterName resource))
  match ← reconcileClusterHibernation env cluster with
  | .nil => reconcileClusterFencing env cluster
  | result => return result

/-! ## What the two steps write -/

variable {kinds : List ObjectKind}

variable {env}

theorem reads_mutateCnpgCluster (resource : PostgresCluster) (desiredImage : String)
    (cluster : CnpgCluster) : ReadsOnly (mutateCnpgCluster env resource desiredImage cluster) := by
  unfold mutateCnpgCluster
  split
  · exact .throw
  · split
    · exact .pure
    · split
      · exact .throw
      · split
        · exact .throw
        · exact reads_controlledBy

theorem alters_populateStatus {cluster : CnpgCluster} :
    Within (Alters kinds) (populateStatus env cluster) := by
  refine .bind alters_getOwn fun resource => ?_
  refine .bind alters_modifyStatus fun _ => ?_
  refine .bind alters_modifyStatus fun _ => ?_
  refine .bind (alters_reads reads_listObjects).attempt fun listed => ?_
  split
  · exact .throw
  · exact alters_modifyStatus

theorem alters_reconcilePgCluster :
    Within (Alters [.cnpgCluster]) (reconcilePgCluster env) := by
  refine .bind alters_getOwn fun resource => ?_
  split
  · exact .throw
  · refine .bind (alters_reads reads_mustGet) fun catalog => ?_
    dsimp only
    split
    · exact .throw
    · refine .bind (alters_onCluster (has_createOrUpdate List.mem_cons_self fun o =>
        Has.of_reads (reads_mutateCnpgCluster _ _ o))) fun cluster => ?_
      split
      · exact .bind alters_setStatusCondition fun _ =>
          .bind alters_setPhase fun _ => .pure
      · split
        · exact .bind alters_setStatusCondition fun _ =>
            .bind alters_setPhase fun _ =>
              .bind alters_populateStatus fun _ => .pure
        · exact .bind alters_setStatusCondition fun _ =>
            .bind alters_setPhase fun _ => .pure

theorem alters_updateCnpgCluster {cluster : CnpgCluster} :
    Within (Alters [.cnpgCluster])
      (onCluster (update env .cnpgCluster cluster) : PostgresPass CnpgCluster) :=
  alters_onCluster (has_update List.mem_cons_self)

theorem alters_reconcileClusterHibernation (cluster : CnpgCluster) :
    Within (Alters [.cnpgCluster]) (reconcileClusterHibernation env cluster) := by
  refine .bind alters_getOwn fun resource => ?_
  dsimp only
  split
  · exact .bind alters_updateCnpgCluster fun _ => .pure
  · split
    · split
      · exact .bind alters_setStatusCondition fun _ => .pure
      · exact .bind alters_modifyStatus fun _ => .pure
    · exact .pure

theorem alters_reconcileClusterFencing (cluster : CnpgCluster) :
    Within (Alters [.cnpgCluster]) (reconcileClusterFencing env cluster) := by
  refine .bind alters_getOwn fun resource => ?_
  dsimp only
  split
  · split
    · exact .bind alters_updateCnpgCluster fun _ => .pure
    · exact .bind alters_setStatusCondition fun _ => .pure
  · split
    · exact .bind alters_updateCnpgCluster fun _ => .pure
    · exact .bind alters_modifyStatus fun _ => .pure

theorem alters_reconcileClusterLifecycle :
    Within (Alters [.cnpgCluster]) (reconcileClusterLifecycle env) := by
  refine .bind alters_getOwn fun resource => ?_
  refine .bind (alters_reads reads_mustGet) fun cluster => ?_
  refine .bind (alters_reconcileClusterHibernation cluster) fun result => ?_
  split
  · exact alters_reconcileClusterFencing cluster
  · exact .pure

end

end ClusterAgent.PostgresController
