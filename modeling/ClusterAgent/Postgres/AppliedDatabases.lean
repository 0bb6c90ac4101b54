import ClusterAgent.Postgres.DatabasePass

/-!
# Cluster agent — the verdict that all databases are applied

A pass says so when the operator has applied every listed Database as it is stored,
and the last extension it reports on is a desired and applied one. The pass itself
writes none of these Databases: what it finds under a listed name it leaves, and what
it has just created is not applied yet.

* `applied_was_there` — a Database the verdict rests on was stored before the pass;
* `applied_verdict_iff` — when the verdict is right about the databases and extensions
  that were asked for.
-/

namespace ClusterAgent.PostgresController

open Pass Effect Conditions Session ObjectPass Addons

/-! ## What the check has seen -/

/-- What the pass checks of a Database before it says that all are applied. -/
def SeenApplied (dbSpec : DatabaseSpec) (d : Database) : Prop :=
  databaseApplied d = true ∧ extensionsApplied dbSpec.extensions true d.status.extensions = true

section

variable (env : Env)

theorem reconcileDatabaseStatus_spec (resource : PostgresCluster) (dbSpec : DatabaseSpec)
    (w : World) :
    Returns (· = w) (reconcileDatabaseStatus env resource dbSpec)
      (fun r w' => (r.1 = true → ∃ d,
        lookup .database w.cluster resource.metadata.ns dbSpec.name = some d ∧
          SeenApplied dbSpec d) ∧ Reads w w') := by
  refine .bind ((mustGet_spec env .database _ _ w).anyError) fun d => .of_each ?_
  rintro w1 ⟨hLookup, hReads⟩
  split
  · exact .pure fun _ h => ⟨nofun, h ▸ hReads⟩
  · next hApplied =>
    split
    · exact .pure fun _ h => ⟨nofun, h ▸ hReads⟩
    · next hExtensions =>
      rw [Bool.not_eq_true', Bool.not_eq_false] at hApplied hExtensions
      exact .pure fun _ h => ⟨fun _ => ⟨d, hLookup, hApplied, hExtensions⟩, h ▸ hReads⟩

theorem firstNotApplied_spec (resource : PostgresCluster) {databases : List DatabaseSpec}
    (w : World) :
    Returns (· = w) (firstNotApplied env resource databases)
      (fun r w' => (r = none → ∀ dbSpec ∈ databases, ∃ d,
        lookup .database w.cluster resource.metadata.ns dbSpec.name = some d ∧
          SeenApplied dbSpec d) ∧ Reads w w') := by
  induction databases generalizing w with
  | nil => exact .pure fun _ h => ⟨nofun, h ▸ refl_of Reads w⟩
  | cons dbSpec rest ih =>
    refine .bind (reconcileDatabaseStatus_spec env resource dbSpec w) fun result =>
      .of_each fun w1 hw1 => ?_
    obtain ⟨applied, msg⟩ := result
    cases applied with
    | false => exact .pure fun _ h => ⟨nofun, h ▸ hw1.2⟩
    | true =>
      refine (ih w1).post fun r w2 hw2 => ⟨fun hNone other hOther => ?_, trans_of Reads hw1.2 hw2.2⟩
      rcases List.mem_cons.mp hOther with rfl | hOther
      · exact hw1.1 rfl
      · rw [← cluster_of_reads hw1.2]
        exact hw2.1 hNone other hOther

/-! ## What the step leaves -/

def saysApplied (resource : PostgresCluster) : Bool :=
  (findStatusCondition resource.status.conditions .databasesApplied).any fun c =>
    decide (c.status = .conditionTrue)

theorem saysApplied_set_false {resource : PostgresCluster} {now : Int}
    {conditions : List (Condition PostgresClusterConditionType)}
    {new : Condition PostgresClusterConditionType}
    (h : resource.status.conditions = Conditions.setStatusCondition now conditions new)
    (hType : new.type = .databasesApplied) (hStatus : new.status = .conditionFalse) :
    saysApplied resource = false := by
  unfold saysApplied
  rw [h, ← hType, any_set_same fun _ => rfl, hStatus]
  rfl

theorem seen_reconcileDatabases {s : Session PostgresCluster}
    (hReady : clusterReadyNow s.own = true) (hSome : s.own.spec.databases ≠ []) :
    Returns (· = s) (reconcileDatabases env)
      (fun _ s' => saysApplied s'.own = true → ∀ dbSpec ∈ s.own.spec.databases, ∃ d,
        s'.world.cluster.databases.find? (hasKey s.own.metadata.ns dbSpec.name) = some d ∧
          SeenApplied dbSpec d) := by
  have hNone : ObjectKind.database ∉ ([] : List ObjectKind) := List.not_mem_nil
  refine bind_getOwn ?_
  rw [hReady, if_neg (by decide), if_neg hSome]
  refine .bind_any fun _ => .bind_any fun _ => .of_each fun s2 _ => ?_
  refine .bind ((onCluster_spec (firstNotApplied_spec env s.own s2.world) s2.own).anyError)
    fun msg => .of_each fun s3 hs3 => ?_
  cases msg with
  | some msg =>
    refine bind_modifyOwn (.pure ?_)
    rintro _ rfl hSays
    rw [saysApplied_set_false rfl rfl rfl] at hSays
    cases hSays
  | none =>
    have hSeen : ∀ dbSpec ∈ s.own.spec.databases, ∃ d,
        s3.world.cluster.databases.find? (hasKey s.own.metadata.ns dbSpec.name) = some d ∧
          SeenApplied dbSpec d := by
      rw [cluster_of_reads hs3.1.2]
      exact hs3.1.1 rfl
    refine bind_modifyOwn ?_
    refine ((keeps_databases (I := fun databases => ∀ dbSpec ∈ s.own.spec.databases, ∃ d,
      databases.find? (hasKey s.own.metadata.ns dbSpec.name) = some d ∧ SeenApplied dbSpec d)
      (.bind alters_setOutputDatabases fun _ => .pure) hNone).pre ?_).conseq (fun _ _ h _ => h)
        fun _ _ => trivial
    rintro _ rfl
    exact hSeen

theorem fresh_reconcileDatabases {s : Session PostgresCluster} {name : String}
    (hUnique : Unique .database s.world.cluster)
    (hReady : clusterReadyNow s.own = true) (hSome : s.own.spec.databases ≠ [])
    (hName : name ∈ desiredNames s.own)
    (hAbsent : lookup .database s.world.cluster s.own.metadata.ns name = none) :
    Returns (· = s) (reconcileDatabases env)
      (fun _ s' => ∀ d, s'.world.cluster.databases.find? (hasKey s.own.metadata.ns name) = some d →
        d.status = {}) := by
  refine triple_reconcileDatabases hReady hSome (I := fun databases => ∀ d,
    databases.find? (hasKey s.own.metadata.ns name) = some d → d.status = {})
    (J := fun _ => True) (fun _ _ => trivial)
    ((grown_ensure s).anyError) fun w hw => ?_
  refine (reconcileUnWantedDatabases_spec env s.own (hw.unique hUnique)).conseq
    (fun _ w' ⟨hKept, _⟩ d hd => ?_) fun _ _ => trivial
  have hOther : ∀ x ∈ condemned s.own w.cluster.databases,
      ¬ (s.own.metadata.ns = x.metadata.ns ∧ name = x.metadata.name) := by
    rintro x hx ⟨-, rfl⟩
    exact name_of_condemned hx hName
  have hFound : lookup .database w.cluster s.own.metadata.ns name = some d :=
    (hKept.lookups _ _ hOther).symm.trans hd
  obtain ⟨news, hNews, hStatus⟩ := hw.added
  have hMem : d ∈ w.cluster.databases := List.mem_of_find?_eq_some hFound
  rw [hNews] at hMem
  rcases List.mem_append.mp hMem with hOld | hNew
  · have hKey : hasKey s.own.metadata.ns name d = true := List.find?_some hFound
    exact absurd hKey (List.find?_eq_none.mp hAbsent d hOld)
  · exact (hStatus d hNew).2

end

/-! ## The verdict of a pass -/

def SetsApplied (env : Env) (ns name : String) (pg : PostgresCluster)
    (s : Session PostgresCluster) : Prop :=
  ∃ s' r s₄, ComesToDatabases env ns name pg s s' ∧ pg.spec.databases ≠ [] ∧
    reconcileDatabases env s' = .ok r s₄ ∧ saysApplied s₄.own = true

/-- The Database is the one the spec asks for, with its extensions. -/
structure AsSpecified (pg : PostgresCluster) (dbSpec : DatabaseSpec) (d : Database) : Prop where
  present : d.spec.ensure = .present
  cluster : d.spec.clusterRef = cnpgClusterName pg
  extensions : ∀ name ∈ dbSpec.extensions, (∃ e ∈ d.spec.extensions, e.name = name) ∧
    ∃ e ∈ d.status.extensions, e.name = name ∧ e.applied = true

theorem applied_was_there {env : Env} {ns name : String} {pg : PostgresCluster}
    {s : Session PostgresCluster} (hUnique : Unique .database s.world.cluster)
    (hSets : SetsApplied env ns name pg s) {dbSpec : DatabaseSpec}
    (hSpec : dbSpec ∈ pg.spec.databases) :
    ∃ d, lookup .database s.world.cluster pg.metadata.ns dbSpec.name = some d ∧
      lookup .database (finalState (reconcile env ns name s)).world.cluster
        pg.metadata.ns dbSpec.name = some d ∧ SeenApplied dbSpec d := by
  obtain ⟨s', r, s4, hPass, hSome, hStep, hSays⟩ := hSets
  obtain ⟨hBefore, hReady, -⟩ := hPass.before
  have hUnique' := hBefore.unique hUnique
  rw [← hBefore.spec] at hSome hSpec
  rw [← hBefore.metadata]
  obtain ⟨d, hFound, hSeen⟩ := (seen_reconcileDatabases env hReady hSome).of_ok rfl hStep
    hSays dbSpec hSpec
  have hFinal : lookup .database (finalState (reconcile env ns name s)).world.cluster
      s'.own.metadata.ns dbSpec.name = some d :=
    (congrArg (List.find? _) (hPass.final hStep)).trans hFound
  have hName := mem_desiredNames dbSpec hSpec
  have hSame : lookup .database s.world.cluster s'.own.metadata.ns dbSpec.name =
      lookup .database s'.world.cluster s'.own.metadata.ns dbSpec.name :=
    (congrArg (List.find? _) hBefore.databases).symm
  cases hLookup : lookup .database s'.world.cluster s'.own.metadata.ns dbSpec.name with
  | none =>
    -- a Database that was just created has not been applied
    have hStatus := (fresh_reconcileDatabases env hUnique' hReady hSome hName hLookup).of_ok rfl
      hStep d hFound
    have hApplied := hSeen.1
    unfold databaseApplied at hApplied
    rw [hStatus] at hApplied
    cases hApplied
  | some d0 =>
    obtain ⟨hNs, hKey⟩ := key_of_lookup hLookup
    have hMem : d0 ∈ s'.world.cluster.databases := List.mem_of_find?_eq_some hLookup
    have hNot : d0 ∉ condemned s'.own s'.world.cluster.databases := by
      intro hCondemned
      have hListed : d0.name = dbSpec.name := hKey
      exact name_of_condemned hCondemned (hListed ▸ hName)
    have hStored := (kept_reconcileDatabases hUnique' hMem fun _ => hNot).of_ok rfl hStep
    unfold Stored at hStored
    rw [hNs, hKey, hFound] at hStored
    rw [Option.some.inj hStored] at hFinal hSeen
    exact ⟨d0, hSame.trans hLookup, hFinal, hSeen⟩

/-- **The verdict that all databases are applied.** When a pass gives it, every listed Database
is the one that was asked for and is applied, if and only if those stored before the pass
under the listed names were the ones asked for, with all extensions listed and reported. -/
theorem applied_verdict_iff (env : Env) (ns name : String) (pg : PostgresCluster)
    (s : Session PostgresCluster) (hUnique : Unique .database s.world.cluster)
    (hSets : SetsApplied env ns name pg s) :
    (∀ dbSpec ∈ pg.spec.databases, ∃ d,
      lookup .database (finalState (reconcile env ns name s)).world.cluster
        pg.metadata.ns dbSpec.name = some d ∧
        databaseApplied d = true ∧ AsSpecified pg dbSpec d) ↔
      ∀ dbSpec ∈ pg.spec.databases, ∀ d,
        lookup .database s.world.cluster pg.metadata.ns dbSpec.name = some d →
          AsSpecified pg dbSpec d := by
  constructor
  · intro hRight dbSpec hSpec d hLookup
    obtain ⟨d0, hBefore, hFinal, -⟩ := applied_was_there hUnique hSets hSpec
    obtain ⟨d1, hFinal', -, hAs⟩ := hRight dbSpec hSpec
    rw [hFinal] at hFinal'
    rw [hBefore] at hLookup
    rwa [← Option.some.inj hLookup, Option.some.inj hFinal']
  · intro hBefore dbSpec hSpec
    obtain ⟨d, hLookup, hFinal, hSeen⟩ := applied_was_there hUnique hSets hSpec
    exact ⟨d, hFinal, hSeen.1, hBefore dbSpec hSpec d hLookup⟩

def mapsCluster : PostgresCluster :=
  { shopCluster with spec.databases := [{ name := "orders", extensions := ["postgis"] }] }

/-- A Database of that name which was asked to go earlier, belongs to another Cluster and has no
extensions. The operator has applied it as it is. -/
def goneOrders : Database :=
  { teamDatabase crmCluster "orders" with
    spec := { (teamDatabase crmCluster "orders").spec with ensure := .absent } }

def goneSession : Session PostgresCluster :=
  ⟨worldOf (settled { postgresClusters := [mapsCluster], databases := [goneOrders] } mapsCluster),
    mapsCluster⟩

/-- The pass says that all databases are applied and leaves that Database as it is: an
existing one is not compared with the spec, and the operator has applied it, as one that is to
be absent. -/
theorem applied_verdict_over_absent :
    ((lookup .postgresCluster
      (finalState (reconcile calmEnv "team" "shop" goneSession)).world.cluster "team" "shop").map
        saysApplied) = some true ∧
      lookup .database (finalState (reconcile calmEnv "team" "shop" goneSession)).world.cluster
        "team" "orders" = some goneOrders ∧
      goneOrders.spec.ensure = .absent ∧ goneOrders.spec.clusterRef ≠ cnpgClusterName mapsCluster ∧
      goneOrders.spec.extensions = [] := by
  decide +kernel

def validatedMaps : PostgresCluster := { mapsCluster with status := validatedStatus mapsCluster }

theorem applied_verdict_goneSession :
    ¬ ∀ dbSpec ∈ validatedMaps.spec.databases, ∃ d,
      lookup .database (finalState (reconcile calmEnv "team" "shop" goneSession)).world.cluster
        validatedMaps.metadata.ns dbSpec.name = some d ∧
        databaseApplied d = true ∧ AsSpecified validatedMaps dbSpec d := by
  have hUnique : Unique .database goneSession.world.cluster := by
    unfold Pass.Unique
    decide +kernel
  have hPass : ComesToDatabases calmEnv "team" "shop" validatedMaps goneSession
      (databasesSession calmEnv validatedMaps goneSession.world) :=
    .of_values (by decide +kernel) rfl rfl (by decide +kernel) (by decide +kernel)
      (by decide +kernel) (by decide +kernel)
  have hStep := eq_ok_of_value (a := .nil) (r := reconcileDatabases calmEnv
    (databasesSession calmEnv validatedMaps goneSession.world)) (by decide +kernel)
  rw [applied_verdict_iff calmEnv "team" "shop" validatedMaps goneSession hUnique
    ⟨_, _, _, hPass, by decide +kernel, hStep, by decide +kernel⟩]
  intro hBefore
  have hGone := hBefore { name := "orders", extensions := ["postgis"] } (by decide +kernel)
    goneOrders (by decide +kernel)
  exact absurd hGone.present (by decide +kernel)

end ClusterAgent.PostgresController
