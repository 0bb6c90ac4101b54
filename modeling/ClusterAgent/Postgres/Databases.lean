import ClusterAgent.Postgres.CnpgCluster

/-!
# Cluster agent — databases and backups of a PostgresCluster

The last two sub-reconcilers; both wait until the operator's Cluster is ready. One
creates a Database for every entry of the spec and removes those that are no longer
listed, in two steps: the operator is asked to drop the database, and once it has,
the Database object goes. The other keeps the scheduled backup and makes a backup on
request.
-/

namespace ClusterAgent.PostgresController

open Pass Effect Conditions Session ObjectPass Addons

def defaultDatabaseOwner : String := "app"
def defaultDatabaseName : String := "app"
def createdByLabel : String := "addons.postgres.stackdome.io/created-by"
def createdByValue : String := "stackdome-addons-controller"

/-! ## Databases -/

def databaseApplied (database : Database) : Bool :=
  decide (database.status.applied = some true) &&
    decide (database.status.observedGeneration = database.generation)

/-- What the loop over the reported extensions leaves: the last one decides. -/
def extensionsApplied (desired : List String) : Bool → List Cnpg.ExtensionStatus → Bool
  | applied, [] => applied
  | _, existing :: rest =>
    extensionsApplied desired (decide (existing.name ∈ desired) && existing.applied) rest

def desiredDatabase (resource : PostgresCluster) (dbSpec : DatabaseSpec) : Database where
  metadata :=
    { name := dbSpec.name
      ns := resource.metadata.ns
      labels := [(createdByLabel, createdByValue)] }
  spec :=
    { clusterRef := cnpgClusterName resource
      name := dbSpec.name
      owner := defaultDatabaseOwner
      extensions := dbSpec.extensions.map fun name => { name := name } }
  status := {}

/-- `lo.Uniq`: the first of each. -/
def uniq : List String → List String
  | [] => []
  | name :: rest => name :: (uniq rest).filter fun other => decide (other ≠ name)

section

variable (env : Env)

def ignoreNotFound {α : Type} (m : Pass α) : Pass Unit := do
  match ← attempt m with
  | .ok _ => return ()
  | .error e => if e.kind = .notFound then return () else throw e

/-- An existing Database of that name is left as it is. -/
def ensureDatabase (resource : PostgresCluster) (dbSpec : DatabaseSpec) : Pass Unit := do
  let desired ← controlledBy resource.metadata "PostgresCluster" (desiredDatabase resource dbSpec)
  match ← getObject env .database resource.metadata.ns dbSpec.name with
  | some _ => return ()
  | none =>
    let _ ← create env .database desired
    return ()

def ensureDatabases (resource : PostgresCluster) : List DatabaseSpec → Pass Unit
  | [] => return ()
  | dbSpec :: rest => do
    ensureDatabase env resource dbSpec
    ensureDatabases resource rest

/-- The loop over the listed Databases. It ends at the first one whose removal is under
way. -/
def removeDatabases (desired : List String) : List Database → Pass Unit
  | [] => return ()
  | existing :: rest =>
    if existing.spec.name = defaultDatabaseName then removeDatabases desired rest
    else if existing.name ∈ desired then removeDatabases desired rest
    else if existing.spec.ensure = .absent then
      if databaseApplied existing then ignoreNotFound (delete env .database existing)
      else return ()
    else do
      ignoreNotFound (update env .database { existing with spec.ensure := .absent })
      removeDatabases desired rest

def reconcileUnWantedDatabases (resource : PostgresCluster) : Pass Unit := do
  let databases ← listObjects env .database resource.metadata.ns [(createdByLabel, createdByValue)]
  removeDatabases env (resource.spec.databases.map DatabaseSpec.name) databases

/-- Whether the database and its extensions are applied, and what is missing. -/
def reconcileDatabaseStatus (resource : PostgresCluster) (dbSpec : DatabaseSpec) :
    Pass (Bool × String) := do
  let existing ← mustGet env .database resource.metadata.ns dbSpec.name
  if !databaseApplied existing then
    return (false, "Database '" ++ dbSpec.name ++ "' not applied")
  else if !extensionsApplied dbSpec.extensions true existing.status.extensions then
    return (false, "Extensions for database '" ++ dbSpec.name ++ "' not applied")
  else return (true, "Database and extensions are applied")

def firstNotApplied (resource : PostgresCluster) : List DatabaseSpec → Pass (Option String)
  | [] => return none
  | dbSpec :: rest => do
    match ← reconcileDatabaseStatus env resource dbSpec with
    | (true, _) => firstNotApplied resource rest
    | (false, msg) => return some msg

def setOutputDatabases (names : List String) : PostgresPass Unit := do
  let resource ← getOwn
  match resource.status.outputs with
  | none => throw nilDereference
  | some outputs =>
    modifyStatus fun s =>
      { s with
        outputs := some { outputs with
          databases := names.map fun name => { name := name, owner := defaultDatabaseOwner } } }

def clusterReadyNow (resource : PostgresCluster) : Bool :=
  (findStatusCondition resource.status.conditions .clusterReady).any fun c =>
    decide (c.observedGeneration = resource.generation) && decide (c.status = .conditionTrue)

def reconcileDatabases : PostgresPass StepResult := do
  let resource ← getOwn
  if !clusterReadyNow resource then return .nil
  else if resource.spec.databases = [] then
    setOutputDatabases [defaultDatabaseName]
    return .nil
  else
    onCluster (ensureDatabases env resource resource.spec.databases)
    onCluster (reconcileUnWantedDatabases env resource)
    match ← onCluster (firstNotApplied env resource resource.spec.databases) with
    | some msg =>
      setStatusCondition env .databasesApplied .conditionFalse "DatabasesNotApplied" msg
      return .stop
    | none =>
      setStatusCondition env .databasesApplied .conditionTrue "DatabasesApplied"
        "All databases and extensions applied successfully"
      setOutputDatabases
        (uniq (resource.spec.databases.map DatabaseSpec.name ++ [defaultDatabaseName]))
      return .nil

/-! ## Times -/

/-- Year, month and day of the date that many days after the first of January of year 1. The
count is in years that start in March, so that a leap day comes last. -/
def civilDate (days : Int) : Int × Int × Int :=
  let z := days + 306
  let era := z / 146097
  let doe := z % 146097
  let yoe := (doe - doe / 1460 + doe / 36524 - doe / 146096) / 365
  let doy := doe - (365 * yoe + yoe / 4 - yoe / 100)
  let mp := (5 * doy + 2) / 153
  let day := doy - (153 * mp + 2) / 5 + 1
  let month := if mp < 10 then mp + 3 else mp - 9
  let year := yoe + era * 400 + (if month ≤ 2 then 1 else 0)
  (year, month, day)

def padded (width : Nat) (i : Int) : String :=
  let digits := toString i
  String.ofList (List.replicate (width - digits.length) '0') ++ digits

/-- `Format("20060102-150405")` and `Format(time.RFC3339)`, in UTC: the same numbers with
other separators. -/
def formatTime (dateSep middle timeSep ending : String) (t : Int) : String :=
  let seconds := t / second
  let (year, month, day) := civilDate (seconds / 86400)
  let time := seconds % 86400
  padded 4 year ++ dateSep ++ padded 2 month ++ dateSep ++ padded 2 day ++ middle ++
    padded 2 (time / 3600) ++ timeSep ++ padded 2 (time / 60 % 60) ++ timeSep ++
    padded 2 (time % 60) ++ ending

def formatCompact : Int → String := formatTime "" "-" "" ""
def formatRFC3339 : Int → String := formatTime "-" "T" ":" "Z"

/-! ## Backups -/

def scheduledBackupName (resource : PostgresCluster) : String :=
  cnpgClusterName resource ++ "-scheduled-backup"

def backupPlugin (backupSpec : ClusterBackupSpec) : Cnpg.BackupPluginConfiguration where
  name := barmanPluginName
  parameters := [("barmanObjectName", backupSpec.objectStoreName)]

def buildDesiredScheduledBackup (resource : PostgresCluster) (backupSpec : ClusterBackupSpec)
    (scheduled : ScheduledBaseBackupSpec) : ScheduledBackup where
  metadata := { name := scheduledBackupName resource, ns := resource.metadata.ns }
  spec :=
    { backupOwnerReference := "cluster"
      schedule := scheduled.schedule
      immediate := some backupSpec.walArchivingEnabled
      cluster := cnpgClusterName resource
      method := "plugin"
      pluginConfiguration := some (backupPlugin backupSpec) }
  status := ()

def reconcileScheduledBackup (resource : PostgresCluster) (backupSpec : ClusterBackupSpec) :
    Pass Unit := do
  match backupSpec.scheduledBaseBackupSpec with
  | none => return ()
  | some scheduled =>
    if scheduled.enabled then
      let desired ← controlledBy resource.metadata "PostgresCluster"
        (buildDesiredScheduledBackup resource backupSpec scheduled)
      match ← getObject env .scheduledBackup resource.metadata.ns
        (scheduledBackupName resource) with
      | none =>
        let _ ← create env .scheduledBackup desired
        return ()
      | some existing =>
        if existing.spec = desired.spec then return ()
        else
          let _ ← update env .scheduledBackup desired
          return ()
    else return ()

def shouldCreateImmeadiateBackup (backupSpec : ClusterBackupSpec) (resource : PostgresCluster) :
    Bool :=
  match backupSpec.lastBaseBackupRequestedAt, resource.status.lastImmeadiateBackupProcessedAt with
  | none, _ => false
  | some _, none => true
  | some requested, some processed => decide (processed < requested)

def immeadiateBackup (resource : PostgresCluster) (backupSpec : ClusterBackupSpec)
    (requestedAt : Int) : Backup where
  metadata :=
    { name := cnpgClusterName resource ++ "-" ++ formatCompact requestedAt
      ns := resource.metadata.ns }
  spec :=
    { cluster := cnpgClusterName resource
      method := "plugin"
      pluginConfiguration := some (backupPlugin backupSpec) }
  status := {}

/-- Take over a condition of the operator's Cluster, if it has it. -/
def reportCondition (cluster : CnpgCluster) (source : Cnpg.ClusterConditionType)
    (target : PostgresClusterConditionType)
    (message : Condition Cnpg.ClusterConditionType → String) : PostgresPass Unit :=
  match findStatusCondition cluster.status.conditions source with
  | none => return ()
  | some c => setStatusCondition env target c.status c.reason (message c)

/-- The time of the last backup is part of the message, so that every new one changes the
status. -/
def reportBackups (backupSpec : ClusterBackupSpec) (cluster : CnpgCluster) : PostgresPass Unit := do
  reportCondition env cluster .lastBackupSucceeded .lastBaseBackupSucceeded fun c =>
    c.message ++ "[" ++ formatRFC3339 c.lastTransitionTime ++ "]"
  if backupSpec.walArchivingEnabled then
    reportCondition env cluster .continuousArchiving .continuousWalArchivingSuccess fun c =>
      c.message
  else return ()

def reconcileBackups : PostgresPass StepResult := do
  let resource ← getOwn
  match resource.spec.clusterBackupSpec with
  | none => return .nil
  | some backupSpec =>
    if !clusterReadyNow resource then return .nil
    else
      onCluster (reconcileScheduledBackup env resource backupSpec)
      let cluster ← onCluster (mustGet env .cnpgCluster resource.metadata.ns
        (cnpgClusterName resource))
      reportBackups env backupSpec cluster
      match shouldCreateImmeadiateBackup backupSpec resource,
          backupSpec.lastBaseBackupRequestedAt with
      | true, some requestedAt =>
        let desired ← onCluster (controlledBy resource.metadata "PostgresCluster"
          (immeadiateBackup resource backupSpec requestedAt))
        match ← onCluster (attempt (create env .backup desired)) with
        | .error e => if e.kind = .alreadyExists then pure () else throw e
        | .ok _ => pure ()
        modifyStatus fun s => { s with lastImmeadiateBackupProcessedAt := some env.clock.wall }
        return .nil
      | _, _ => return .nil

/-! ## What the backup step writes -/

variable {env}

theorem has_reconcileScheduledBackup {resource : PostgresCluster}
    {backupSpec : ClusterBackupSpec} :
    Has { objects := [.scheduledBackup, .backup] }
      (reconcileScheduledBackup env resource backupSpec) := by
  unfold reconcileScheduledBackup
  split
  · exact .pure
  · split
    · refine .bind (Has.of_reads reads_controlledBy) fun desired => ?_
      refine .bind has_getObject fun existing => ?_
      split
      · exact .bind (has_create List.mem_cons_self) fun _ => .pure
      · split
        · exact .pure
        · exact .bind (has_update List.mem_cons_self) fun _ => .pure
    · exact .pure

theorem alters_reportCondition {kinds : List ObjectKind} {cluster : CnpgCluster}
    {source : Cnpg.ClusterConditionType} {target : PostgresClusterConditionType}
    {message : Condition Cnpg.ClusterConditionType → String} :
    Within (Alters kinds) (reportCondition env cluster source target message) := by
  unfold reportCondition
  split
  · exact .pure
  · exact alters_setStatusCondition

theorem alters_reportBackups {kinds : List ObjectKind} {backupSpec : ClusterBackupSpec}
    {cluster : CnpgCluster} : Within (Alters kinds) (reportBackups env backupSpec cluster) := by
  refine .bind alters_reportCondition fun _ => ?_
  split
  · exact alters_reportCondition
  · exact .pure

theorem alters_reconcileBackups :
    Within (Alters [.scheduledBackup, .backup]) (reconcileBackups env) := by
  refine .bind alters_getOwn fun resource => ?_
  split
  · exact .pure
  · split
    · exact .pure
    · refine .bind (alters_onCluster has_reconcileScheduledBackup) fun _ => ?_
      refine .bind (alters_reads reads_mustGet) fun cluster => ?_
      refine .bind alters_reportBackups fun _ => ?_
      split
      · refine .bind (alters_reads reads_controlledBy) fun desired => ?_
        have hCreate : Has { objects := [.scheduledBackup, .backup] }
            (create env .backup desired) :=
          has_create (List.mem_cons_of_mem _ List.mem_cons_self)
        refine .bind (alters_onCluster hCreate.attempt) fun result => ?_
        split
        · split
          · exact .bind alters_modifyStatus fun _ => .pure
          · exact .throw
        · exact .bind alters_modifyStatus fun _ => .pure
      · exact .pure

end

end ClusterAgent.PostgresController
