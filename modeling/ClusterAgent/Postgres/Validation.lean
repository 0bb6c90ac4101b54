import ClusterAgent.Builds.Names
import ClusterAgent.Controller.ObjectPass

/-!
# Cluster agent — validation of a PostgresCluster

The first sub-reconciler of the PostgresCluster controller. It runs five checks in
the order a Go map is iterated in, and the first that fails ends the pass. A
configuration that was found valid is not checked again until its generation
changes.
-/

namespace ClusterAgent.PostgresController

open Pass Effect Conditions Session ObjectPass Addons

abbrev PostgresPass := ObjectPass PostgresClusterSpec PostgresClusterStatus

def requeueIntervalOnValidationFailure : Int := 30 * second

/-! ## Passwords -/

def base64Value (c : Char) : Option Nat :=
  if c.isUpper then some (c.toNat - 'A'.toNat)
  else if c.isLower then some (c.toNat - 'a'.toNat + 26)
  else if c.isDigit then some (c.toNat - '0'.toNat + 52)
  else if c = '+' then some 62
  else if c = '/' then some 63
  else none

def base64Groups : List Char → Option (List Nat)
  | [] => some []
  | [a, b, '=', '='] => do
    let a ← base64Value a
    let b ← base64Value b
    return [a * 4 + b / 16]
  | [a, b, c, '='] => do
    let a ← base64Value a
    let b ← base64Value b
    let c ← base64Value c
    return [a * 4 + b / 16, b % 16 * 16 + c / 4]
  | a :: b :: c :: d :: rest => do
    let a ← base64Value a
    let b ← base64Value b
    let c ← base64Value c
    let d ← base64Value d
    let others ← base64Groups rest
    return [a * 4 + b / 16, b % 16 * 16 + c / 4, c % 4 * 64 + d] ++ others
  | _ => none

/-- `base64.StdEncoding.DecodeString`, which skips line breaks; a byte is the character with
its number. -/
def base64Decode (s : String) : Option String :=
  (base64Groups (s.toList.filter fun c => c != '\n' && c != '\r')).map fun bytes =>
    String.ofList (bytes.map Char.ofNat)

def dbConnectionString (e : ExternalClusterSpec) (password : String) : String :=
  "host=" ++ e.host ++ " port=" ++ toString e.port ++ " user=" ++ e.user ++
    " dbname=" ++ e.dbName ++ " sslmode=" ++ e.sslMode ++ " password=" ++ password

/-! ## Checks -/

section

variable (env : Env)

def setStatusCondition (conditionType : PostgresClusterConditionType) (status : ConditionStatus)
    (reason message : String) : PostgresPass Unit :=
  modifyOwn fun resource =>
    { resource with
      status := { resource.status with
        observedGeneration := resource.generation
        conditions := Conditions.setStatusCondition env.clock.wall resource.status.conditions
          { type := conditionType
            status := status
            observedGeneration := resource.generation
            reason := reason
            message := message } } }

def setPhase (phase : String) : PostgresPass Unit := modifyStatus fun s => { s with phase := phase }

def invalid (reason message : String) : PostgresPass StepResult := do
  setStatusCondition env .clusterConfigurationValid .conditionFalse reason message
  setPhase errorPhase
  return .stop

def shouldRunValidation (resource : PostgresCluster) : Bool :=
  match findStatusCondition resource.status.conditions .clusterConfigurationValid with
  | none => true
  | some c =>
    decide (c.status ≠ .conditionTrue) || decide (c.observedGeneration ≠ resource.generation)

def validateReplicasSpec : PostgresPass StepResult := do
  let resource ← getOwn
  match resource.spec.replicasSpec with
  | none => throw nilDereference
  | some replicas =>
    if resource.spec.instances ≤ replicas.numSynchronousReplicas then
      invalid env "InvalidSynchronousReplicas"
        ("Number of synchronous replicas (" ++ toString replicas.numSynchronousReplicas ++
          ") cannot be greater than or equal to total instances (" ++
          toString resource.spec.instances ++ ")")
    else return .nil

def validateStorageSpec : PostgresPass StepResult := do
  let resource ← getOwn
  match resource.spec.storageSpec with
  | none => throw nilDereference
  | some storage =>
    match ← onCluster (getObject env .storageClass "" storage.storageClassName) with
    | none =>
      invalid env "StorageClassNotFound"
        ("storage class '" ++ storage.storageClassName ++ "' not found in cluster")
    | some _ => return .nil

def scheduleEnabled (backupSpec : ClusterBackupSpec) : Bool :=
  backupSpec.scheduledBaseBackupSpec.any fun scheduled => scheduled.enabled

def validateBackupSpec : PostgresPass StepResult := do
  let resource ← getOwn
  match resource.spec.clusterBackupSpec with
  | none => return .nil
  | some backupSpec =>
    match ← onCluster (getObject env .objectStore resource.metadata.ns
        backupSpec.objectStoreName) with
    | none => invalid env "ObjectStoreNotFound" "Backup object store not found"
    | some _ =>
      if backupSpec.walArchivingEnabled && !scheduleEnabled backupSpec then
        invalid env "WalArchivingRequiresScheduledBackup"
          "WAL archiving requires scheduled base backup to be enabled"
      else
        match backupSpec.scheduledBaseBackupSpec with
        | none => return .nil
        | some scheduled =>
          if scheduled.enabled && (env.scheduleError scheduled.schedule).isSome then
            invalid env "BaseBackupScheduleInvalid" "Base backup schedule is invalid"
          else return .nil

def catalogImage (catalog : ImageCatalog) (major : Int) : Option Cnpg.CatalogImage :=
  catalog.spec.images.find? fun image => decide (image.major = major)

def validateImageCatalogPresent : PostgresPass StepResult := do
  let resource ← getOwn
  match resource.spec.postgreSQLSpec with
  | none => throw nilDereference
  | some postgresqlSpec =>
    match postgresqlSpec.imageCatalogRef with
    | none =>
      invalid env "ImageCatalogNotFound" "PostgreSQL image catalog reference is not set"
    | some catalogName =>
      if catalogName = "" then
        invalid env "ImageCatalogNameEmpty" "PostgreSQL image catalog name is empty"
      else
        match ← onCluster (getObject env .imageCatalog resource.metadata.ns catalogName) with
        | none => invalid env "ImageCatalogNotFound" "PostgreSQL image catalog not found"
        | some catalog =>
          match catalogImage catalog postgresqlSpec.postgreSQLMajorVersion with
          | none =>
            invalid env "ImageCatalogVersionNotFound"
              ("PostgreSQL version '" ++ toString postgresqlSpec.postgreSQLMajorVersion ++
                "' not found in image catalog '" ++ catalogName ++ "'")
          | some _ => return .nil

/-- The password is read from the namespace of the resource, whatever the reference says. -/
def ensureSourceClusterAccess (source : ExternalClusterSpec) : PostgresPass StepResult := do
  let resource ← getOwn
  match ← onCluster (getObject env .secret resource.metadata.ns source.password.secretRef.name) with
  | none =>
    invalid env "InitDbSourceClusterPasswordSecretNotFound"
      "Source cluster password secret not found"
  | some secret =>
    match base64Decode (secret.spec.data.get source.password.key) with
    | none =>
      invalid env "InitDbSourceClusterPasswordBase64DecodeError"
        "Failed to decode base64 encoded source cluster password"
    | some password =>
      if password = "" then
        invalid env "InitDbSourceClusterPasswordEmpty" "Source cluster password is empty"
      else if (env.pingError (dbConnectionString source password)).isSome then
        invalid env "InitDbSourceClusterConnectionError" "Failed to connect to source cluster"
      else return .nil

def validateRecoveryObjectStore :
    Option RecoveryFromObjectStoreSpec → PostgresPass StepResult
  | none => return .nil
  | some spec => do
    let resource ← getOwn
    match ← onCluster (getObject env .objectStore resource.metadata.ns spec.objectStoreName) with
    | none => invalid env "ObjectStoreNotFound" "Object store not found for recovery"
    | some objectStore =>
      if spec.sourceClusterName ∈ objectStore.status.serverRecoveryWindow then return .nil
      else
        invalid env "ObjectStoreNoBackupsFound"
          ("No backups found for source cluster '" ++ spec.sourceClusterName ++
            "' in object store '" ++ spec.objectStoreName ++ "'")

def backupPhaseCompleted : String := "completed"

def validateRecoveryBackup : Option String → PostgresPass StepResult
  | none => return .nil
  | some backupName => do
    let resource ← getOwn
    match ← onCluster (getObject env .backup resource.metadata.ns backupName) with
    | none => invalid env "BackupNotFound" "Backup not found for recovery"
    | some backup =>
      if backup.status.phase ≠ backupPhaseCompleted then
        invalid env "BackupNotCompleted" "Referenced Backup is not completed for recovery"
      else return .nil

def validateRecoverySpec (recoverySpec : RecoverySpec) : PostgresPass StepResult := do
  match ← validateRecoveryObjectStore env recoverySpec.objectStoreSpec with
  | .nil => validateRecoveryBackup env recoverySpec.backupSpec
  | result => return result

def validateInitDbSpec (initDbSpec : InitDbSpec) : PostgresPass StepResult :=
  match initDbSpec.importSpec with
  | some importSpec => ensureSourceClusterAccess env importSpec.sourceClusterSpec
  | none => return .nil

def validateBootstrapSpec : PostgresPass StepResult := do
  let resource ← getOwn
  match resource.spec.bootstrapSpec with
  | none => return .nil
  | some bootstrapSpec =>
    match bootstrapSpec.initDbSpec, bootstrapSpec.recoverySpec with
    | some initDbSpec, _ => validateInitDbSpec env initDbSpec
    | none, some recoverySpec => validateRecoverySpec env recoverySpec
    | none, none => return .nil

/-! ## The sub-reconciler -/

def validations : List (String × PostgresPass StepResult) :=
  [("ReplicasSpecValidation", validateReplicasSpec env),
    ("StorageSpecValidation", validateStorageSpec env),
    ("BackupSpecValidation", validateBackupSpec env),
    ("ImageCatalogValidation", validateImageCatalogPresent env),
    ("BootstrapSpecValidation", validateBootstrapSpec env)]

def runValidations : List String → PostgresPass StepResult
  | [] => do
    setStatusCondition env .clusterConfigurationValid .conditionTrue "ClusterConfigurationValid"
      "PostgresCluster configuration is valid"
    return .nil
  | name :: rest => do
    match (validations env).lookup name with
    | none => runValidations rest
    | some validation =>
      match ← Effect.attempt validation with
      | .error e => throw (e.wrap ("error during " ++ name))
      | .ok .stop | .ok .requeue => return .requeueAfter requeueIntervalOnValidationFailure
      | .ok (.requeueAfter t) => return .requeueAfter t
      | .ok .nil => runValidations rest

def reconcileResourceValidation : PostgresPass StepResult := do
  let resource ← getOwn
  if shouldRunValidation resource then
    runValidations env (env.nameOrder ((validations env).map Prod.fst))
  else return .nil

/-! ## Validation writes nothing but the status in memory -/

variable {kinds : List ObjectKind}

variable {env}

theorem alters_setStatusCondition {conditionType : PostgresClusterConditionType}
    {status : ConditionStatus} {reason message : String} :
    Within (Alters kinds) (setStatusCondition env conditionType status reason message) :=
  .modify fun _ => ⟨rfl, rfl, fun k _ => .refl _ k⟩

theorem alters_setPhase {phase : String} : Within (Alters kinds) (setPhase phase) :=
  alters_modifyStatus

theorem alters_invalid {reason message : String} :
    Within (Alters kinds) (invalid env reason message) :=
  .bind alters_setStatusCondition fun _ =>
    .bind alters_setPhase fun _ => .pure

theorem alters_validateReplicasSpec : Within (Alters kinds) (validateReplicasSpec env) := by
  refine .bind alters_getOwn fun resource => ?_
  split
  · exact .throw
  · split
    · exact alters_invalid
    · exact .pure

theorem alters_validateStorageSpec : Within (Alters kinds) (validateStorageSpec env) := by
  refine .bind alters_getOwn fun resource => ?_
  split
  · exact .throw
  · refine .bind (alters_reads reads_getObject) fun found => ?_
    split
    · exact alters_invalid
    · exact .pure

theorem alters_validateBackupSpec : Within (Alters kinds) (validateBackupSpec env) := by
  refine .bind alters_getOwn fun resource => ?_
  split
  · exact .pure
  · refine .bind (alters_reads reads_getObject) fun found => ?_
    split
    · exact alters_invalid
    · split
      · exact alters_invalid
      · split
        · exact .pure
        · split
          · exact alters_invalid
          · exact .pure

theorem alters_validateImageCatalogPresent :
    Within (Alters kinds) (validateImageCatalogPresent env) := by
  refine .bind alters_getOwn fun resource => ?_
  split
  · exact .throw
  · split
    · exact alters_invalid
    · split
      · exact alters_invalid
      · refine .bind (alters_reads reads_getObject) fun found => ?_
        split
        · exact alters_invalid
        · split
          · exact alters_invalid
          · exact .pure

theorem alters_ensureSourceClusterAccess {source : ExternalClusterSpec} :
    Within (Alters kinds) (ensureSourceClusterAccess env source) := by
  refine .bind alters_getOwn fun resource => ?_
  refine .bind (alters_reads reads_getObject) fun found => ?_
  split
  · exact alters_invalid
  · split
    · exact alters_invalid
    · split
      · exact alters_invalid
      · split
        · exact alters_invalid
        · exact .pure

theorem alters_validateRecoveryObjectStore {spec : Option RecoveryFromObjectStoreSpec} :
    Within (Alters kinds) (validateRecoveryObjectStore env spec) := by
  cases spec with
  | none => exact .pure
  | some spec =>
    refine .bind alters_getOwn fun resource => ?_
    refine .bind (alters_reads reads_getObject) fun found => ?_
    split
    · exact alters_invalid
    · split
      · exact .pure
      · exact alters_invalid

theorem alters_validateRecoveryBackup {backupName : Option String} :
    Within (Alters kinds) (validateRecoveryBackup env backupName) := by
  cases backupName with
  | none => exact .pure
  | some backupName =>
    refine .bind alters_getOwn fun resource => ?_
    refine .bind (alters_reads reads_getObject) fun found => ?_
    split
    · exact alters_invalid
    · split
      · exact alters_invalid
      · exact .pure

theorem alters_validateRecoverySpec {spec : RecoverySpec} :
    Within (Alters kinds) (validateRecoverySpec env spec) := by
  refine .bind alters_validateRecoveryObjectStore fun result => ?_
  split
  · exact alters_validateRecoveryBackup
  · exact .pure

theorem alters_validateBootstrapSpec : Within (Alters kinds) (validateBootstrapSpec env) := by
  refine .bind alters_getOwn fun resource => ?_
  split
  · exact .pure
  · split
    · unfold validateInitDbSpec
      split
      · exact alters_ensureSourceClusterAccess
      · exact .pure
    · exact alters_validateRecoverySpec
    · exact .pure

theorem alters_validations {name : String} {v : PostgresPass StepResult}
    (h : (validations env).lookup name = some v) : Within (Alters kinds) v := by
  obtain ⟨l, r, hSplit, -⟩ := List.lookup_eq_some_iff.mp h
  have hMem : (name, v) ∈ validations env := by simp [hSplit]
  simp only [validations, List.mem_cons, Prod.mk.injEq, List.not_mem_nil, or_false] at hMem
  rcases hMem with ⟨-, rfl⟩ | ⟨-, rfl⟩ | ⟨-, rfl⟩ | ⟨-, rfl⟩ | ⟨-, rfl⟩
  · exact alters_validateReplicasSpec
  · exact alters_validateStorageSpec
  · exact alters_validateBackupSpec
  · exact alters_validateImageCatalogPresent
  · exact alters_validateBootstrapSpec

theorem alters_runValidations {names : List String} :
    Within (Alters kinds) (runValidations env names) := by
  induction names with
  | nil =>
    exact .bind alters_setStatusCondition fun _ => .pure
  | cons name rest ih =>
    unfold runValidations
    split
    · exact ih
    · next validation hLookup =>
      refine .bind (alters_validations hLookup).attempt fun result => ?_
      split
      · exact .throw
      · exact .pure
      · exact .pure
      · exact .pure
      · exact ih

theorem alters_reconcileResourceValidation :
    Within (Alters kinds) (reconcileResourceValidation env) := by
  refine .bind alters_getOwn fun resource => ?_
  split
  · exact alters_runValidations
  · exact .pure

end

end ClusterAgent.PostgresController
