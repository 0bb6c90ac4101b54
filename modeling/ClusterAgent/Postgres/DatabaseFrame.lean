import ClusterAgent.Postgres.ClusterSteps
import ClusterAgent.Postgres.DatabaseSteps

/-!
# Cluster agent — the Databases of other PostgresClusters

All PostgresClusters of a namespace share one label on their Databases. The removal
loop of one of them goes by that label and by its own spec, so that a Database of
another one is not wanted and is removed.

* `kept_reconcile` — a pass leaves every Database it does not condemn, in every
  environment and whatever API call fails;
* `changed_reconcile` — there is an environment in which a pass changes every
  Database it condemns;
* `pass_spares_foreign_iff` — the two together: when the Databases of others are safe.
-/

namespace ClusterAgent.PostgresController

open Pass Effect Conditions Session ObjectPass Addons

structure Working (pg : PostgresCluster) : Prop where
  kept : pg.metadata.deletionTimestamp = none
  finalizer : cacheFinalizer ∈ pg.metadata.finalizers
  replicas : pg.spec.replicasSpec.isSome
  storage : pg.spec.storageSpec.isSome
  catalog : (imageCatalogRef pg).isSome
  databases : pg.spec.databases ≠ []

/-! ## What every pass keeps -/

structure Before (pg : PostgresCluster) (databases : List Database)
    (s : Session PostgresCluster) : Prop where
  metadata : s.own.metadata = pg.metadata
  spec : s.own.spec = pg.spec
  databases : s.world.cluster.databases = databases

variable {pg : PostgresCluster} {s : Session PostgresCluster} {c : Cluster} {d : Database}
  {ns name : String}

theorem Before.alters {databases : List Database} {kinds : List ObjectKind}
    {s' : Session PostgresCluster} (h : Before pg databases s) (hAlters : Alters kinds s s')
    (hKinds : .database ∉ kinds) : Before pg databases s' where
  metadata := hAlters.metadata.trans h.metadata
  spec := hAlters.spec.trans h.spec
  databases := Eq.trans (hAlters.objects .database hKinds) h.databases

theorem Before.condemned {databases : List Database} (h : Before pg databases s) :
    condemned s.own s.world.cluster.databases = condemned pg databases := by
  unfold PostgresController.condemned desiredNames listed
  rw [h.metadata, h.spec, h.databases]

section

variable (env : Env)

theorem before_step {α : Type} {databases : List Database} {kinds : List ObjectKind}
    {m : PostgresPass α} (h : Within (Alters kinds) m) (hKinds : .database ∉ kinds) :
    Ensures (Before pg databases) m (Before pg databases) :=
  h.triple fun _ _ hAlters hs => hs.alters hAlters hKinds

theorem Before.unique (h : Before pg c.databases s) (hUnique : Unique .database c) :
    Unique .database s.world.cluster :=
  hUnique.congr h.databases

theorem Before.stored (h : Before pg c.databases s) (hUnique : Unique .database c)
    (hMem : d ∈ c.databases) : Stored d s.world.cluster.databases := by
  rw [h.databases]
  exact hUnique d hMem

theorem before_reconcilePgCluster (pg : PostgresCluster) (databases : List Database) :
    Triple (Before pg databases) (reconcilePgCluster env)
      (fun r s => Before pg databases s ∧ (r = .nil → ClusterServes s)) (Before pg databases) := by
  have hKinds : ObjectKind.database ∉ [ObjectKind.cnpgCluster] := by decide
  refine .of_each fun s hs => ?_
  have hBefore : Ensures (· = s) (reconcilePgCluster env) (Before pg databases) :=
    (before_step alters_reconcilePgCluster hKinds).start hs
  exact (hBefore.and (reconcilePgCluster_spec env s)).conseq
    (fun _ _ h => ⟨h.1, h.2.serves⟩) fun _ h => h.1

theorem kept_subReconcilers (hUnique : Unique .database c) (hMem : d ∈ c.databases)
    (hKept : pg.metadata.deletionTimestamp = none)
    (hFinalizer : cacheFinalizer ∈ pg.metadata.finalizers)
    (hNot : Working pg → d ∉ condemned pg c.databases) :
    Ensures (Before pg c.databases) (runChain (subReconcilers env))
      (fun s => Stored d s.world.cluster.databases) := by
  have hStored : ∀ s, Before pg c.databases s → Stored d s.world.cluster.databases :=
    fun s hs => hs.stored hUnique hMem
  have hNone : ObjectKind.database ∉ ([] : List ObjectKind) := List.not_mem_nil
  have hCnpg : ObjectKind.database ∉ [ObjectKind.cnpgCluster] := by decide
  have hBackup : ObjectKind.database ∉ [ObjectKind.scheduledBackup, .backup] := by decide
  -- the chain, step by step: until the database step the Databases are those of the start
  refine triple_runChain_cons (R := Before pg c.databases) ?_ ?_
  · refine (before_step alters_reconcileResourceValidation hNone).conseq
      (fun r s hs => ?_) hStored
    split
    · exact hs
    · exact hStored s hs
  -- a Cluster that serves was checked for the fields of the spec it is built from
  refine triple_runChain_cons (R := fun s => Before pg c.databases s ∧ ClusterServes s) ?_ ?_
  · refine (before_reconcilePgCluster env pg c.databases).conseq (fun r s hs => ?_)
      hStored
    split
    · next hNil => exact ⟨hs.1, hs.2 hNil⟩
    · exact hStored s hs.1
  refine triple_runChain_cons (R := fun s => Before pg c.databases s ∧
    pg.spec.replicasSpec.isSome ∧ pg.spec.storageSpec.isSome ∧
      (imageCatalogRef pg).isSome) ?_ ?_
  · refine .of_each fun s hs => ?_
    refine ((before_step alters_reconcileClusterLifecycle hCnpg).pre
      fun _ h => h ▸ hs.1).conseq (fun r s' hs' => ?_) hStored
    split
    · refine ⟨hs', hs.1.spec ▸ hs.2.replicas, hs.1.spec ▸ hs.2.storage, ?_⟩
      have hCatalog := hs.2.catalog
      unfold imageCatalogRef at hCatalog ⊢
      rwa [hs.1.spec] at hCatalog
    · exact hStored s' hs'
  -- the database step is the only one that can touch a Database
  refine triple_runChain_keep ?_ ?_
  · refine .of_each fun s ⟨hs, hReplicas, hStorage, hCatalog⟩ => ?_
    have hMem' : d ∈ s.world.cluster.databases := hs.databases ▸ hMem
    refine kept_reconcileDatabases (hs.unique hUnique) hMem' fun hSome => ?_
    rw [hs.condemned]
    exact hNot ⟨hKept, hFinalizer, hReplicas, hStorage, hCatalog, hs.spec ▸ hSome⟩
  refine triple_runChain_keep ?_ ?_
  · exact keeps_databases alters_reconcileBackups hBackup
  · exact .skip

theorem alters_reconcileDelete : Within (Alters [.postgresCluster]) (reconcileDelete env) :=
  .bind alters_setStatusCondition fun _ =>
    .bind alters_setPhase fun _ =>
      .bind alters_getOwn fun _ =>
        alters_onCluster (has_storeStatus List.mem_cons_self)

def startSession (env : Env) (pg : PostgresCluster) (w : World) : Session PostgresCluster where
  world := { w with calls := w.calls + 1 }
  own := initializeStatusAndPhase env pg

theorem triple_reconcile {I : List Database → Prop}
    (hPg : lookup .postgresCluster s.world.cluster ns name = some pg)
    (hStart : I s.world.cluster.databases)
    (hChain : env.fault s.world.calls = none → pg.metadata.deletionTimestamp = none →
      cacheFinalizer ∈ pg.metadata.finalizers →
      Ensures (· = startSession env pg s.world) (runChain (subReconcilers env))
        (fun s' => I s'.world.cluster.databases)) :
    Ensures (· = s) (reconcile env ns name) (fun s' => I s'.world.cluster.databases) := by
  have hOwnKind : ObjectKind.postgresCluster ∈ [ObjectKind.postgresCluster] := List.mem_cons_self
  have hKind : ObjectKind.database ∉ [ObjectKind.postgresCluster] := by decide
  have hWrite : ∀ {α : Type} {m : Pass α}, Has { objects := [.postgresCluster] } m →
      Ensures (fun s : Session PostgresCluster => I s.world.cluster.databases) (onCluster m)
        (fun s => I s.world.cluster.databases) :=
    fun h => keeps_databases (alters_onCluster h) hKind
  refine bind_fetch hPg (fun _ h => h ▸ hStart) fun hFault => bind_modifyOwn ?_
  -- being deleted, without the finalizer, or on to the chain
  split
  · split
    · refine .bind ((keeps_databases (alters_reconcileDelete env) hKind).pre
        fun _ h => h ▸ hStart) fun _ => .of_each fun s2 hs2 => ?_
      refine bind_getOwn ?_
      exact .bind ((hWrite (has_updateOrRelease env hOwnKind)).pre
        fun _ h => h ▸ hs2) fun _ => .skip
    · exact .ret hStart
  · next hKept =>
    split
    · exact .bind ((hWrite (has_update hOwnKind)).start hStart)
        fun _ => .skip
    · next hFinalizer =>
      refine bind_modifyOwn ?_
      refine .bind (hChain hFault (not_ne_iff.mp hKept) (not_not.mp hFinalizer))
        fun result => .of_each fun s2 hs2 => ?_
      refine bind_getOwn ?_
      -- the status is stored only if the chain has changed it
      split
      · exact .bind ((hWrite (has_storeStatus hOwnKind)).pre
          fun _ h => h ▸ hs2) fun _ => .skip
      · exact .ret hs2

theorem kept_reconcile (hPg : lookup .postgresCluster s.world.cluster ns name = some pg)
    (hUnique : Unique .database s.world.cluster) (hMem : d ∈ s.world.cluster.databases)
    (hNot : Working pg → d ∉ condemned pg s.world.cluster.databases) :
    Ensures (· = s) (reconcile env ns name) (fun s' => Stored d s'.world.cluster.databases) := by
  refine triple_reconcile env hPg (hUnique d hMem) fun _ hKept hFinalizer => ?_
  refine (kept_subReconcilers env hUnique hMem hKept hFinalizer hNot).pre ?_
  rintro _ rfl
  exact ⟨rfl, rfl, rfl⟩

end

/-! ## An environment in which a pass gets as far as the removal loop -/

def calmEnv : Env := ObjectPass.quietEnv

def validatedStatus (pg : PostgresCluster) : PostgresClusterStatus where
  conditions :=
    [{ type := .clusterConfigurationValid
       status := .conditionTrue
       observedGeneration := pg.generation
       reason := ""
       message := "" }]

def settledCluster (pg : PostgresCluster) : CnpgCluster where
  metadata :=
    { name := cnpgClusterName pg
      ns := pg.metadata.ns
      annotations := (hibernationKey, desiredHibernation pg) ::
        if fenceCluster pg then [(fencedInstancesKey, clusterFencedValue)] else [] }
  spec := {}
  status :=
    { conditions :=
        [{ type := .ready
           status := .conditionTrue
           observedGeneration := 0
           reason := ""
           message := "" },
         { type := .hibernation
           status := if pg.spec.hibernationEnabled then .conditionTrue else .conditionFalse
           observedGeneration := 0
           reason := ""
           message := "" }] }

def fittingCatalog (pg : PostgresCluster) : ImageCatalog where
  metadata :=
    { name := (imageCatalogRef pg).getD ""
      ns := pg.metadata.ns }
  spec := { images := [{ major := majorVersion pg, image := "postgres" }] }
  status := ()

def settled (c : Cluster) (pg : PostgresCluster) : Cluster :=
  { c with
    postgresClusters := c.postgresClusters.map fun o => { o with status := validatedStatus o }
    cnpgClusters := [settledCluster pg]
    imageCatalogs := [fittingCatalog pg] }

theorem hibernationMatches_settled (pg : PostgresCluster) :
    hibernationMatches pg (settledCluster pg) = true := by
  unfold hibernationMatches settledCluster StringMap.get?
  dsimp only
  rw [List.lookup_cons_self]
  exact decide_eq_true rfl

theorem fencingMatches_settled (pg : PostgresCluster) :
    fencingMatches pg (settledCluster pg) = true := by
  unfold fencingMatches settledCluster StringMap.get?
  cases hFence : fenceCluster pg with
  | true => rfl
  | false => rfl

theorem hibernationSettled_settled (pg : PostgresCluster) :
    hibernationSettled pg (settledCluster pg) = true := by
  unfold hibernationSettled settledCluster
  cases hHibernation : pg.spec.hibernationEnabled with
  | true => rfl
  | false => rfl

def settledOwn (pg : PostgresCluster) : PostgresCluster :=
  initializeStatusAndPhase calmEnv { pg with status := validatedStatus pg }

theorem shouldRunValidation_settledOwn (pg : PostgresCluster) :
    shouldRunValidation (settledOwn pg) = false := by
  simp [shouldRunValidation, settledOwn, initializeStatusAndPhase, validatedStatus,
    findStatusCondition, Conditions.setStatusCondition, Object.generation]

theorem foundCluster_settled (c : Cluster) (pg : PostgresCluster) :
    foundCluster (settled c pg) (settledOwn pg) = settledCluster pg := by
  have hKey : hasKey pg.metadata.ns (cnpgClusterName pg) (settledCluster pg) = true :=
    hasKey_iff.mpr ⟨rfl, rfl⟩
  have hCluster : ownCluster (settled c pg) (settledOwn pg) = some (settledCluster pg) :=
    List.find?_cons_of_pos hKey
  unfold foundCluster
  rw [hCluster]
  rfl

theorem lifecycleResult_settled (pg : PostgresCluster) :
    lifecycleResult (settledOwn pg) (settledCluster pg) = .nil := by
  have hSpec : (settledOwn pg).spec = pg.spec := rfl
  rw [lifecycleResult_congr_own hSpec]
  unfold lifecycleResult
  rw [hibernationMatches_settled, hibernationSettled_settled, fencingMatches_settled]
  rfl

theorem unhindered_settled (h : Working pg) (c : Cluster)
    (hCluster : s.world.cluster = settled c pg) (hOwn : s.own = settledOwn pg) :
    Unhindered calmEnv s := by
  have hFound : foundCluster s.world.cluster s.own = settledCluster pg := by
    rw [hCluster, hOwn]
    exact foundCluster_settled c pg
  obtain ⟨name, hName⟩ := Option.isSome_iff_exists.mp h.catalog
  refine ⟨⟨fun _ => rfl, fun _ => ⟨0, rfl⟩, hOwn ▸ h.replicas,
    hOwn ▸ h.storage, ?_, ?_⟩, ?_, ?_, ?_⟩
  · rw [hOwn, hCluster]
    refine ⟨name, fittingCatalog pg, hName, List.find?_cons_of_pos ?_, ?_⟩
    · refine hasKey_iff.mpr ⟨rfl, ?_⟩
      change (imageCatalogRef pg).getD "" = name
      rw [hName]
      rfl
    · have hImage : catalogImage (fittingCatalog pg) (majorVersion pg) = some
          { major := majorVersion pg, image := "postgres" } :=
        List.find?_cons_of_pos (decide_eq_true rfl)
      exact Option.isSome_iff_exists.mpr ⟨_, hImage⟩
  · rw [hFound]
    rfl
  · rw [hOwn]
    exact shouldRunValidation_settledOwn pg
  · rw [hFound, hOwn]
    rfl
  · rw [hFound, hOwn]
    exact lifecycleResult_settled pg

theorem lookup_mapStatus {c' : Cluster} {f : PostgresCluster → PostgresClusterStatus}
    (hMap : c'.postgresClusters = c.postgresClusters.map fun o => { o with status := f o })
    (hPg : lookup .postgresCluster c ns name = some pg) :
    lookup .postgresCluster c' ns name = some { pg with status := f pg } := by
  refine (congrArg (List.find? (hasKey ns name)) hMap).trans ?_
  rw [List.find?_map]
  exact congrArg (Option.map _) hPg

theorem changed_subReconcilers {w : World} (hUnique : Unique .database w.cluster)
    (hWorking : Working pg) (hCondemned : d ∈ condemned pg w.cluster.databases)
    (hCluster : s.world.cluster = settled w.cluster pg) (hOwn : s.own = settledOwn pg) :
    Ensures (· = s) (runChain (subReconcilers calmEnv))
      (fun s' => ¬ Stored d s'.world.cluster.databases) := by
  have hBackup : ObjectKind.database ∉ [ObjectKind.scheduledBackup, .backup] := by decide
  have hBefore : Before pg w.cluster.databases s := by
    refine ⟨?_, ?_, ?_⟩
    · rw [hOwn]
      rfl
    · rw [hOwn]
      rfl
    · rw [hCluster]
      rfl
  refine runChain_unhindered calmEnv (unhindered_settled hWorking w.cluster hCluster hOwn) ?_
  refine triple_runChain_keep ?_ ?_
  · refine .of_each fun s1 hs1 => ?_
    have hAt := hBefore.alters hs1.alters (by decide)
    have hReliable : Reliable calmEnv := fun _ => rfl
    exact (condemned_reconcileDatabases hReliable.honest (hAt.unique hUnique) hs1.ready
      (hAt.spec ▸ hWorking.databases) (hAt.condemned ▸ hCondemned)).conseq
        (fun _ _ h hSame => (h d hSame).2 rfl) fun _ h hSame => (h hReliable d hSame).2 rfl
  refine triple_runChain_keep ?_ ?_
  · exact keeps_databases (I := fun databases => ¬ Stored d databases)
      alters_reconcileBackups hBackup
  · exact .skip

theorem changed_reconcile {w : World} (hPg : lookup .postgresCluster w.cluster ns name = some pg)
    (hUnique : Unique .database w.cluster) (hWorking : Working pg)
    (hCondemned : d ∈ condemned pg w.cluster.databases) :
    Ensures (· = ⟨{ w with cluster := settled w.cluster pg }, pg⟩) (reconcile calmEnv ns name)
      (fun s' => ¬ Stored d s'.world.cluster.databases) := by
  have hReliable : Reliable calmEnv := fun _ => rfl
  have hFound : lookup .postgresCluster (settled w.cluster pg) ns name =
      some { pg with status := validatedStatus pg } := lookup_mapStatus rfl hPg
  refine .bind ((onCluster_total (getObject_total hReliable .postgresCluster ns name _)).onError
    fun _ h => h.elim) fun found => .of_each fun s1 hs1 => ?_
  obtain ⟨⟨rfl, hReads⟩, -⟩ := hs1
  dsimp only
  rw [hFound]
  refine bind_modifyOwn ?_
  rw [if_neg (not_ne_iff.mpr hWorking.kept), if_neg (not_not.mpr hWorking.finalizer)]
  refine bind_modifyOwn ?_
  have hChain := changed_subReconcilers hUnique hWorking hCondemned
    (s := ⟨s1.world, settledOwn pg⟩) (cluster_of_reads hReads) rfl
  refine .bind hChain fun result => .of_each fun s2 hs2 => ?_
  have hStore : Has { objects := [.postgresCluster] }
      (storeStatus calmEnv .postgresCluster storedStatus s2.own) :=
    has_storeStatus List.mem_cons_self
  refine bind_getOwn ?_
  split
  · exact .bind ((keeps_databases (I := fun databases => ¬ Stored d databases)
      (alters_onCluster hStore) (by decide)).start hs2) fun _ =>
        .skip
  · exact .ret hs2

/-! ## When the Databases of others are safe -/

/-- The Database belongs to another PostgresCluster: that is its controller, or it names
the operator's Cluster of that. -/
def Foreign (c : Cluster) (pg : PostgresCluster) (d : Database) : Prop :=
  ∃ other ∈ c.postgresClusters, other.metadata.uid ≠ pg.metadata.uid ∧
    (isControlledBy d.metadata other.metadata = true ∨
      d.metadata.ns = other.metadata.ns ∧ d.spec.clusterRef = cnpgClusterName other)

instance (c : Cluster) (pg : PostgresCluster) (d : Database) : Decidable (Foreign c pg d) :=
  inferInstanceAs (Decidable (∃ other ∈ c.postgresClusters, _))

def SameDatabases (c c' : Cluster) : Prop :=
  c'.databases = c.databases ∧ ∃ f : PostgresCluster → PostgresClusterStatus,
    c'.postgresClusters = c.postgresClusters.map fun o => { o with status := f o }

/-- **The Databases of other PostgresClusters.** Whatever else the cluster holds and whatever
API call fails, a pass over `pg` leaves them, if and only if it can not get as far as the
removal loop or the loop would not act on any of them. -/
theorem pass_spares_foreign_iff (w : World) (ns name : String) (pg : PostgresCluster)
    (hPg : lookup .postgresCluster w.cluster ns name = some pg)
    (hUnique : Unique .database w.cluster) :
    (∀ env s, SameDatabases w.cluster s.world.cluster →
      ∀ d ∈ w.cluster.databases, Foreign w.cluster pg d →
        Stored d (finalState (reconcile env ns name s)).world.cluster.databases) ↔
      (Working pg → ∀ d ∈ condemned pg w.cluster.databases, ¬ Foreign w.cluster pg d) := by
  constructor
  · intro hSpared hWorking d hCondemned hForeign
    refine (changed_reconcile hPg hUnique hWorking hCondemned).reached rfl ?_
    exact hSpared calmEnv _ ⟨rfl, validatedStatus, rfl⟩ d (mem_of_condemned hCondemned) hForeign
  · intro hSafe env s hSame d hMem hForeign
    obtain ⟨hDatabases, f, hClusters⟩ := hSame
    refine (kept_reconcile env (lookup_mapStatus hClusters hPg) (hUnique.congr hDatabases)
      (hDatabases ▸ hMem) fun hWorking => ?_).reached rfl
    rw [hDatabases]
    exact fun hCondemned => hSafe ⟨hWorking.kept, hWorking.finalizer, hWorking.replicas,
      hWorking.storage, hWorking.catalog, hWorking.databases⟩ d hCondemned hForeign

def teamCluster (name uid database : String) : PostgresCluster where
  metadata :=
    { name := name, ns := "team", uid := uid, generation := 1, finalizers := [cacheFinalizer] }
  spec :=
    { instances := 1
      replicasSpec := some
        { numSynchronousReplicas := 0, synchronousReplicaDataDurability := "required" }
      postgreSQLSpec := some { postgreSQLMajorVersion := 16, imageCatalogRef := some "images" }
      storageSpec := some { storageClassName := "fast", size := "1Gi" }
      databases := [{ name := database }] }
  status := {}

def teamDatabase (pg : PostgresCluster) (name : String) : Database :=
  let desired := desiredDatabase pg { name := name }
  { desired with
    metadata := { desired.metadata with
      uid := name
      generation := 1
      ownerReferences :=
        [{ kind := "PostgresCluster", name := pg.metadata.name, uid := pg.metadata.uid
           controller := true }] }
    status := { applied := some true, observedGeneration := 1 } }

def shopCluster : PostgresCluster := teamCluster "shop" "u1" "orders"
def crmCluster : PostgresCluster := teamCluster "crm" "u2" "customers"
def customersDatabase : Database := teamDatabase crmCluster "customers"

def twoClusters : World :=
  worldOf
    { postgresClusters := [shopCluster, crmCluster]
      databases := [teamDatabase shopCluster "orders", customersDatabase] }

/-- The other one's Database is asked to go: it is in the namespace, and the spec of the first one
does not list it. -/
theorem pass_drops_database_of_other :
    Foreign twoClusters.cluster shopCluster customersDatabase ∧
      Stored customersDatabase twoClusters.cluster.databases ∧
      ((lookup .database (finalState (reconcile calmEnv "team" "shop"
        ⟨worldOf (settled twoClusters.cluster shopCluster), shopCluster⟩)).world.cluster
        "team" "customers").map fun d => d.spec.ensure) = some .absent := by
  decide +kernel

theorem pass_spares_foreign_twoClusters :
    ¬ ∀ env s, SameDatabases twoClusters.cluster s.world.cluster →
      ∀ d ∈ twoClusters.cluster.databases, Foreign twoClusters.cluster shopCluster d →
        Stored d (finalState (reconcile env "team" "shop" s)).world.cluster.databases := by
  have hUnique : Unique .database twoClusters.cluster := by
    unfold Pass.Unique
    decide +kernel
  rw [pass_spares_foreign_iff twoClusters "team" "shop" shopCluster (by decide +kernel) hUnique]
  intro hSafe
  have hWorking : Working shopCluster :=
    ⟨rfl, List.mem_cons_self, rfl, rfl, rfl, List.cons_ne_nil _ _⟩
  exact hSafe hWorking customersDatabase (by decide +kernel) (by decide +kernel)

end ClusterAgent.PostgresController
