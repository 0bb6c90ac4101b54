import ClusterAgent.Controller.Reliable
import ClusterAgent.Postgres.Controller

/-!
# Cluster agent — what the two cluster steps do

The first step goes on to the second only if the operator's Cluster, as it was found,
is ready and not larger than the spec asks for; it leaves the annotations and the
status of the Cluster alone. The second one makes one change to the annotations and
ends the pass, or finds that hibernation is not settled and ends the pass, or finds
both annotations as the spec asks for.

* `reconcilePgCluster_spec`, `reconcileClusterLifecycle_spec` — what a successful step
  leaves, with which result, and what was missing if it fails;
* `runChain_unhindered` — what the steps before the databases leave if nothing is missing.
-/

namespace ClusterAgent.PostgresController

open Pass Effect Conditions Session ObjectPass Addons

/-! ## The operator's Cluster -/

def ownCluster (c : Cluster) (resource : PostgresCluster) : Option CnpgCluster :=
  lookup .cnpgCluster c resource.metadata.ns (cnpgClusterName resource)

def blankCluster (resource : PostgresCluster) : CnpgCluster where
  metadata := { name := cnpgClusterName resource, ns := resource.metadata.ns }
  spec := {}
  status := {}

/-- Same annotations, same status, and as good a fit for the storage of the spec. -/
structure SameMarks (env : Env) (resource : PostgresCluster) (cluster cluster' : CnpgCluster) :
    Prop where
  annotations : cluster'.metadata.annotations = cluster.metadata.annotations
  status : cluster'.status = cluster.status
  downsize : storageDownsize env resource cluster' = storageDownsize env resource cluster

variable {cluster cluster' : CnpgCluster} {resource : PostgresCluster}
  {s : Session PostgresCluster}

theorem clusterConditionTrue_congr (h : cluster'.status = cluster.status)
    (t : Cnpg.ClusterConditionType) :
    clusterConditionTrue cluster' t = clusterConditionTrue cluster t := by
  unfold clusterConditionTrue
  rw [h]

section

variable (env : Env)

theorem storageDownsize_congr (h : cluster'.spec = cluster.spec) :
    storageDownsize env resource cluster' = storageDownsize env resource cluster := by
  unfold storageDownsize storageSizes
  rw [h]

theorem storageDownsize_desired {storage : PostgresStorageSpec}
    (hStorage : resource.spec.storageSpec = some storage)
    (h : cluster.spec.storageConfiguration.size = storage.size) :
    storageDownsize env resource cluster = false := by
  unfold storageDownsize storageSizes
  dsimp only
  rw [h, hStorage]
  by_cases hEmpty : storage.size = ""
  · rw [if_pos hEmpty]
  · rw [if_neg hEmpty]
    dsimp only
    cases env.parseQuantity storage.size with
    | error e => rfl
    | ok size => exact decide_eq_false (Int.lt_irrefl size)

structure Mutated (resource : PostgresCluster) (cluster cluster' : CnpgCluster) : Prop where
  marks : SameMarks env resource cluster cluster'
  spec : storageDownsize env resource cluster = false →
    resource.spec.replicasSpec.isSome ∧ resource.spec.storageSpec.isSome

theorem Mutated.sameContent {o r : CnpgCluster} (h : Mutated env resource cluster o)
    (hSame : SameContent o r) :
    Mutated env resource cluster r where
  marks :=
    { annotations := hSame.annotations.trans h.marks.annotations
      status := hSame.status.trans h.marks.status
      downsize := (storageDownsize_congr env hSame.spec).trans h.marks.downsize }
  spec := h.spec

structure Buildable (resource : PostgresCluster) (cluster : CnpgCluster) : Prop where
  quantities : ∀ text, ∃ quantity, env.parseQuantity text = .ok quantity
  replicas : resource.spec.replicasSpec.isSome
  storage : resource.spec.storageSpec.isSome
  version : resource.spec.postgreSQLSpec.isSome
  ns : cluster.metadata.ns = resource.metadata.ns
  refs : cluster.metadata.ownerReferences = []

theorem mutateCnpgCluster_spec (resource : PostgresCluster) (image : String)
    (cluster : CnpgCluster) :
    Triple (fun _ => True) (mutateCnpgCluster env resource image cluster)
      (fun o _ => Mutated env resource cluster o ∧ o.status = cluster.status ∧
        o.metadata.ns = cluster.metadata.ns ∧ o.metadata.name = cluster.metadata.name)
      fun _ => ¬ Buildable env resource cluster := by
  unfold mutateCnpgCluster
  split
  -- a size that does not parse, or no `storageSpec` to read one from
  · next e hSizes =>
    refine .throw fun _ _ h => ?_
    obtain ⟨storage, hStorage⟩ := Option.isSome_iff_exists.mp h.storage
    obtain ⟨desired, hDesired⟩ := h.quantities storage.size
    obtain ⟨existing, hExisting⟩ := h.quantities cluster.spec.storageConfiguration.size
    unfold storageSizes at hSizes
    rw [hStorage] at hSizes
    dsimp only at hSizes
    rw [hDesired, hExisting] at hSizes
    split at hSizes
    · cases hSizes
    · cases hSizes
  · split
    -- the spec asks for less storage: the Cluster is left as it is
    · next hDown =>
      refine .pure fun _ _ => ⟨⟨⟨rfl, rfl, rfl⟩, fun h => ?_⟩, rfl, rfl, rfl⟩
      rw [hDown] at h
      cases h
    · next hDown =>
      split
      · next hNone =>
        refine .throw fun _ _ h => ?_
        obtain ⟨storage, hStorage⟩ := Option.isSome_iff_exists.mp h.storage
        cases hNone.symm.trans hStorage
      · next storage hStorage =>
        unfold buildPostgresConfiguration
        split
        -- `replicasSpec` or `postgreSQLSpec` is nil
        · next e hError =>
          refine .throw fun _ _ h => ?_
          obtain ⟨replicas, hReplicas⟩ := Option.isSome_iff_exists.mp h.replicas
          obtain ⟨version, hVersion⟩ := Option.isSome_iff_exists.mp h.version
          rw [hReplicas, hVersion] at hError
          cases hError
        · next configuration hConfiguration =>
          -- all that is left to fail is the controller reference
          refine ((controlledBy_content _ _ _).unless fun h => ?_).conseq (fun o _ hSame => ?_)
            fun _ h => h.2
          · refine .of_each fun w _ => (controlledBy_new ?_ ?_ w).post fun _ _ _ => trivial
            · exact h.ns
            · exact h.refs
          have hReplicas : resource.spec.replicasSpec.isSome := by
            cases hSpec : resource.spec.replicasSpec with
            | none =>
              rw [hSpec] at hConfiguration
              cases hConfiguration
            | some replicas => rfl
          -- the new size is the one of the spec, so the marks are those of a Cluster that fits
          have hFits : storageDownsize env resource o = false :=
            storageDownsize_desired env hStorage (by rw [hSame.spec]; rfl)
          refine ⟨⟨⟨hSame.annotations, hSame.status, ?_⟩, fun _ => ⟨hReplicas, hStorage ▸ rfl⟩⟩,
            hSame.status, hSame.ns, hSame.name⟩
          rw [hFits]
          exact (Bool.not_eq_true _ ▸ hDown).symm

theorem mutateCnpgCluster_keyed (w : World) (image : String)
    (hKey : hasKey resource.metadata.ns (cnpgClusterName resource) cluster = true) :
    Triple (Reads w) (mutateCnpgCluster env resource image cluster)
      (fun o w' => (Mutated env resource cluster o ∧ o.status = cluster.status ∧
        hasKey resource.metadata.ns (cnpgClusterName resource) o = true) ∧ Reads w w')
      fun w' => ¬ Buildable env resource cluster ∧ Reads w w' := by
  refine (((mutateCnpgCluster_spec env resource image cluster).pre fun _ _ => trivial).and
    ((reads_mutateCnpgCluster resource image cluster).continues w)).post fun o _ h => ?_
  obtain ⟨⟨hMutated, hStatus, hNs', hName'⟩, hReads⟩ := h
  obtain ⟨hNs, hName⟩ := hasKey_iff.mp hKey
  exact ⟨⟨hMutated, hStatus, hasKey_iff.mpr ⟨hNs'.trans hNs, hName'.trans hName⟩⟩, hReads⟩

theorem bind_setPhase {α : Type} {phase : String} {f : Unit → PostgresPass α}
    {Q : α → Session PostgresCluster → Prop} {E : Session PostgresCluster → Prop}
    (h : Triple (· = { s with own := { s.own with status.phase := phase } }) (f ()) Q E) :
    Triple (· = s) (setPhase phase >>= f) Q E := by
  unfold setPhase
  exact bind_modifyOwn h

theorem populateStatus_spec (cluster : CnpgCluster) {s : Session PostgresCluster} :
    Triple (· = s) (populateStatus env cluster)
      (fun _ s' => (s'.own.status.conditions = s.own.status.conditions ∧
        s'.own.metadata = s.own.metadata) ∧ s'.own.status.outputs.isSome ∧ Reads s.world s'.world)
      fun s' => Reads s.world s'.world ∧ ¬ Reliable env := by
  have hList := (listObjects_spec env .secret s.own.metadata.ns [] s.world).unless
    fun hReliable => (listObjects_total hReliable .secret [] _).post fun _ _ _ => trivial
  refine bind_getOwn (bind_modifyOwn (bind_modifyOwn ?_))
  refine .bind (onCluster_spec hList _).attempt fun listed => .of_each fun s1 hs1 => ?_
  cases listed with
  | error e => exact .err hs1.1
  | ok secrets =>
    obtain ⟨⟨-, hReads⟩, hOwn⟩ := hs1
    refine .modify ?_
    rintro _ rfl
    rw [hOwn]
    exact ⟨⟨rfl, rfl⟩, rfl, hReads⟩

/-! ## The first step -/

def foundCluster (c : Cluster) (resource : PostgresCluster) : CnpgCluster :=
  (ownCluster c resource).getD (blankCluster resource)

theorem foundCluster_of_own {c : Cluster} (h : ownCluster c resource = some cluster) :
    foundCluster c resource = cluster :=
  congrArg (Option.getD · _) h

def serving (resource : PostgresCluster) (cluster : CnpgCluster) : Bool :=
  !storageDownsize env resource cluster && clusterConditionTrue cluster .ready

theorem serving_congr (h : SameMarks env resource cluster cluster') :
    serving env resource cluster' = serving env resource cluster := by
  unfold serving
  rw [h.downsize, clusterConditionTrue_congr h.status]

def SameAnnotations (s s' : Session PostgresCluster) : Prop :=
  (foundCluster s'.world.cluster s.own).metadata.annotations =
    (foundCluster s.world.cluster s.own).metadata.annotations

theorem SameAnnotations.of_cluster {s' : Session PostgresCluster}
    (h : s'.world.cluster = s.world.cluster) : SameAnnotations s s' := by
  unfold SameAnnotations
  rw [h]

structure ClusterServes (s : Session PostgresCluster) : Prop where
  ready : clusterReadyNow s.own = true
  outputs : s.own.status.outputs.isSome
  replicas : s.own.spec.replicasSpec.isSome
  storage : s.own.spec.storageSpec.isSome
  catalog : (imageCatalogRef s.own).isSome

structure PgClusterDone (s : Session PostgresCluster) (r : StepResult)
    (s' : Session PostgresCluster) : Prop where
  alters : Alters [.cnpgCluster] s s'
  cluster : ∃ cluster, ownCluster s'.world.cluster s.own = some cluster ∧
    SameMarks env s.own (foundCluster s.world.cluster s.own) cluster
  result : r = if serving env s.own (foundCluster s.world.cluster s.own) then .nil else .stop
  serves : r = .nil → ClusterServes s'

theorem clusterReadyNow_set {now : Int} {new : Condition PostgresClusterConditionType}
    {conditions : List (Condition PostgresClusterConditionType)}
    (h : resource.status.conditions = Conditions.setStatusCondition now conditions new)
    (hType : new.type = .clusterReady) (hStatus : new.status = .conditionTrue)
    (hGeneration : resource.metadata.generation = new.observedGeneration) :
    clusterReadyNow resource = true := by
  unfold clusterReadyNow
  rw [h, ← hType, any_set_same fun _ => rfl, hStatus, ← hGeneration]
  exact Bool.and_eq_true_iff.mpr ⟨decide_eq_true rfl, decide_eq_true rfl⟩

structure Provided (s : Session PostgresCluster) : Prop where
  reliable : Reliable env
  quantities : ∀ text, ∃ quantity, env.parseQuantity text = .ok quantity
  replicas : s.own.spec.replicasSpec.isSome
  storage : s.own.spec.storageSpec.isSome
  catalog : ∃ name catalog, imageCatalogRef s.own = some name ∧
    lookup .imageCatalog s.world.cluster s.own.metadata.ns name = some catalog ∧
    (catalogImage catalog (majorVersion s.own)).isSome
  controller : (foundCluster s.world.cluster s.own).metadata.ownerReferences = []

/-- **The first step**, if it succeeds; a failure leaves the annotations, and something the step
needs is missing. -/
theorem reconcilePgCluster_spec (s : Session PostgresCluster) :
    Triple (· = s) (reconcilePgCluster env) (PgClusterDone env s)
      fun s' => SameAnnotations s s' ∧ ¬ Provided env s := by
  have hDone : Triple (· = s) (reconcilePgCluster env) (fun r s' => (∃ cluster,
      ownCluster s'.world.cluster s.own = some cluster ∧
        Mutated env s.own (foundCluster s.world.cluster s.own) cluster) ∧
      r = (if serving env s.own (foundCluster s.world.cluster s.own) then .nil else .stop) ∧
      (r = .nil → clusterReadyNow s'.own = true ∧ s'.own.status.outputs.isSome ∧
        (imageCatalogRef s.own).isSome))
      fun s' => SameAnnotations s s' ∧ ¬ Provided env s := by
    refine bind_getOwn ?_
    split
    -- neither pointer on the way to the catalog may be nil
    · next hNone =>
      refine .throw fun _ h => ⟨h ▸ .of_cluster rfl, fun hProvided => ?_⟩
      obtain ⟨name, -, hName, -⟩ := hProvided.catalog
      cases hNone.symm.trans hName
    · next catalogName hCatalog =>
      have hGiven : ∀ h : Provided env s, ∃ catalog,
          lookup .imageCatalog s.world.cluster s.own.metadata.ns catalogName = some catalog ∧
          (catalogImage catalog (majorVersion s.own)).isSome := by
        intro h
        obtain ⟨name, catalog, hName, hGiven⟩ := h.catalog
        obtain rfl : catalogName = name := Option.some.inj (hCatalog.symm.trans hName)
        exact ⟨catalog, hGiven⟩
      -- the catalog is read, and it has an image for the version
      have hGet := (mustGet_spec env .imageCatalog s.own.metadata.ns catalogName s.world).unless
        fun h : Provided env s => by
          obtain ⟨catalog, hGiven, -⟩ := hGiven h
          exact (mustGet_total h.reliable hGiven).post fun _ _ _ => trivial
      refine .bind ((onCluster_spec hGet s.own).onError fun _ h =>
        ⟨.of_cluster (cluster_of_reads h.1.1), h.1.2⟩) fun catalog => .of_each ?_
      rintro s1 ⟨⟨hFound, hReads⟩, hOwn1⟩
      dsimp only
      split
      · next hNone =>
        refine .throw fun _ h => ⟨h ▸ .of_cluster (cluster_of_reads hReads), fun hProvided => ?_⟩
        obtain ⟨_, hGiven, hImage⟩ := hGiven hProvided
        rw [Option.some.inj (hGiven.symm.trans hFound), hNone] at hImage
        cases hImage
      · next image hImage =>
        -- what the step is provided with is what the mutation needs of the Cluster it finds
        have hNeeds : ∀ {o : CnpgCluster},
            hasKey s.own.metadata.ns (cnpgClusterName s.own) o = true →
            Provided env s ∧ foundCluster s1.world.cluster s.own = o → Buildable env s.own o := by
          rintro o hKey ⟨hProvided, ho⟩
          rw [cluster_of_reads hReads] at ho
          subst ho
          refine ⟨hProvided.quantities, hProvided.replicas, hProvided.storage, ?_,
            (hasKey_iff.mp hKey).1, hProvided.controller⟩
          obtain ⟨version, hVersion, -⟩ := Option.bind_eq_some_iff.mp hCatalog
          exact Option.isSome_iff_exists.mpr ⟨version, hVersion⟩
        refine .bind ((onCluster_spec (createOrUpdate_stores (M := Mutated env s.own)
            (C := Provided env s) (·.reliable) fun o hKey =>
              (mutateCnpgCluster_keyed env s1.world image.image hKey).onError fun _ h =>
                ⟨h.2, fun hGiven => h.1 (hNeeds hKey hGiven)⟩) s1.own).onError fun _ h =>
              ⟨.of_cluster (cluster_of_reads (trans_of Reads hReads h.1.1)), h.1.2⟩)
          fun cluster => .of_each ?_
        rintro s2 ⟨⟨⟨hStored, -⟩, o, hMutated, hSame, -⟩, hOwn2⟩
        rw [cluster_of_reads hReads] at hMutated
        have hFound := hMutated.sameContent env hSame
        -- the mutation leaves the marks, so the stored Cluster serves as the one that was found
        have hServing : serving env s.own (foundCluster s.world.cluster s.own) =
            serving env s.own cluster := (serving_congr env hFound.marks).symm
        have hCatalog : (imageCatalogRef s.own).isSome := by
          rw [hCatalog]
          rfl
        rw [hServing]
        unfold serving
        split
        -- not brought in line: it has more storage than the spec asks for
        · next hDown =>
          refine bind_modifyOwn ?_
          refine bind_setPhase ?_
          refine .ret ?_
          rw [hDown]
          exact ⟨⟨cluster, hStored, hFound⟩, rfl, nofun⟩
        · next hFits =>
          rw [Bool.not_eq_true] at hFits
          split
          · next hReady =>
            refine bind_modifyOwn ?_
            refine bind_setPhase ?_
            refine .bind ((populateStatus_spec env cluster).onError fun s3 h => ?_)
              fun _ => .pure ?_
            -- the Secrets can not be listed; the Cluster was written before
            · have hCluster : ownCluster s3.world.cluster s.own = some cluster :=
                (congrArg (fun c => ownCluster c s.own) (cluster_of_reads h.1)).trans hStored
              refine ⟨?_, fun hProvided => h.2 hProvided.reliable⟩
              unfold SameAnnotations
              rw [foundCluster_of_own hCluster]
              exact hFound.marks.annotations
            rintro s3 ⟨⟨hConditions, hMetadata⟩, hOutputs, hReads3⟩
            refine ⟨⟨cluster, ?_, hFound⟩, ?_, fun _ => ⟨?_, hOutputs, hCatalog⟩⟩
            · exact (congrArg (fun c => ownCluster c s.own) (cluster_of_reads hReads3)).trans
                hStored
            · rw [hFits, hReady]
              rfl
            · exact clusterReadyNow_set hConditions rfl rfl
                (congrArg ObjectMeta.generation hMetadata)
          · next hReady =>
            refine bind_modifyOwn ?_
            refine bind_setPhase ?_
            refine .ret ?_
            rw [Bool.not_eq_true] at hReady
            rw [hReady, Bool.and_false]
            exact ⟨⟨cluster, hStored, hFound⟩, rfl, nofun⟩
  -- the frame of the step adds what it does not write
  refine ((alters_reconcilePgCluster.leads s).and hDone).conseq (fun r s' h => ?_)
    fun _ h => h.2
  obtain ⟨hAlters, ⟨cluster, hCluster, hMutated⟩, hResult, hNil⟩ := h
  refine ⟨hAlters, ⟨cluster, hCluster, hMutated.marks⟩, hResult, fun hr => ?_⟩
  obtain ⟨hReady, hOutputs, hCatalog⟩ := hNil hr
  have hServing : serving env s.own (foundCluster s.world.cluster s.own) = true := by
    by_contra hNot
    rw [if_neg hNot, hr] at hResult
    cases hResult
  unfold serving at hServing
  rw [Bool.and_eq_true, Bool.not_eq_true'] at hServing
  obtain ⟨hReplicas, hStorage⟩ := hMutated.spec hServing.1
  refine ⟨hReady, hOutputs, hAlters.spec ▸ hReplicas, hAlters.spec ▸ hStorage, ?_⟩
  unfold imageCatalogRef
  rw [hAlters.spec]
  exact hCatalog

/-! ## The second step -/

def hibernationMatches (resource : PostgresCluster) (cluster : CnpgCluster) : Bool :=
  decide (cluster.metadata.annotations.get? hibernationKey = some (desiredHibernation resource))

def fencingMatches (resource : PostgresCluster) (cluster : CnpgCluster) : Bool :=
  if fenceCluster resource then
    decide (cluster.metadata.annotations.get? fencedInstancesKey = some clusterFencedValue)
  else (cluster.metadata.annotations.get? fencedInstancesKey).isNone

def lifecycleResult (resource : PostgresCluster) (cluster : CnpgCluster) : StepResult :=
  if !hibernationMatches resource cluster then .requeue
  else if !hibernationSettled resource cluster then .stop
  else if !fencingMatches resource cluster then .requeueAfter (30 * second)
  else .nil

/-- The part of the in-memory object the database step reads is as before. -/
structure SameReadiness (s s' : Session PostgresCluster) : Prop where
  ready : clusterReadyNow s'.own = clusterReadyNow s.own
  outputs : s'.own.status.outputs = s.own.status.outputs
  metadata : s'.own.metadata = s.own.metadata
  spec : s'.own.spec = s.own.spec

theorem SameReadiness.of_own {s' : Session PostgresCluster} (h : s'.own = s.own) :
    SameReadiness s s' :=
  ⟨by rw [h], by rw [h], by rw [h], by rw [h]⟩

theorem SameReadiness.trans {s1 s' : Session PostgresCluster} (h : SameReadiness s s1)
    (h' : SameReadiness s1 s') : SameReadiness s s' :=
  ⟨h'.ready.trans h.ready, h'.outputs.trans h.outputs, h'.metadata.trans h.metadata,
    h'.spec.trans h.spec⟩

theorem ownCluster_congr {resource' : PostgresCluster} (c : Cluster)
    (hMetadata : resource'.metadata = resource.metadata) (hSpec : resource'.spec = resource.spec) :
    ownCluster c resource' = ownCluster c resource := by
  unfold ownCluster cnpgClusterName majorVersion
  rw [hMetadata, hSpec]

theorem foundCluster_congr {pg pg' : PostgresCluster} (c : Cluster)
    (hMetadata : pg'.metadata = pg.metadata) (hSpec : pg'.spec = pg.spec) :
    foundCluster c pg' = foundCluster c pg := by
  unfold foundCluster blankCluster
  rw [ownCluster_congr c hMetadata hSpec]
  unfold cnpgClusterName majorVersion
  rw [hMetadata, hSpec]

theorem foundCluster_of_clusters {c c' : Cluster} (h : c'.cnpgClusters = c.cnpgClusters)
    (pg : PostgresCluster) : foundCluster c' pg = foundCluster c pg := by
  have hOwn : ownCluster c' pg = ownCluster c pg := congrArg (List.find? _) h
  unfold foundCluster
  rw [hOwn]

theorem foundCluster_alters {kinds : List ObjectKind} {s' : Session PostgresCluster}
    (h : Alters kinds s s') (hKinds : .cnpgCluster ∉ kinds) (pg : PostgresCluster) :
    foundCluster s'.world.cluster pg = foundCluster s.world.cluster pg :=
  foundCluster_of_clusters (h.objects .cnpgCluster hKinds) pg

theorem serving_congr_own {resource' : PostgresCluster} (h : resource'.spec = resource.spec)
    (cluster : CnpgCluster) : serving env resource' cluster = serving env resource cluster := by
  unfold serving storageDownsize storageSizes
  rw [h]

theorem fencingMatches_congr {resource' : PostgresCluster} (h : resource'.spec = resource.spec)
    (cluster : CnpgCluster) :
    fencingMatches resource' cluster = fencingMatches resource cluster := by
  unfold fencingMatches fenceCluster
  rw [h]

/-- What the second step leaves. Hibernation is asked for in any case, and fencing once it is
settled. -/
structure LifecycleDone (cluster : CnpgCluster) (s : Session PostgresCluster) (r : StepResult)
    (s' : Session PostgresCluster) : Prop where
  readiness : SameReadiness s s'
  result : r = lifecycleResult s.own cluster
  cluster : ∃ cluster', ownCluster s'.world.cluster s.own = some cluster' ∧
    cluster'.status = cluster.status ∧ hibernationMatches s.own cluster' = true ∧
    fencingMatches s.own cluster' = (fencingMatches s.own cluster ||
      hibernationMatches s.own cluster && hibernationSettled s.own cluster)

theorem updateAnnotations_spec (hCluster : ownCluster s.world.cluster s.own = some cluster)
    {annotations : StringMap} :
    Triple (· = s) (onCluster (update env .cnpgCluster
        { cluster with metadata.annotations := annotations }))
      (fun _ s' => (∃ cluster', ownCluster s'.world.cluster s.own = some cluster' ∧
        cluster'.status = cluster.status ∧ cluster'.metadata.annotations = annotations) ∧
        s'.own = s.own)
      fun s' => s'.world.cluster = s.world.cluster ∧ ¬ Reliable env := by
  obtain ⟨hNs, hName⟩ := key_of_lookup hCluster
  have hUpdate := (update_spec env .cnpgCluster { cluster with metadata.annotations := annotations }
    s.world).unless fun hReliable => succeeds_update hReliable (by
      dsimp only
      rw [hNs, hName]
      exact Option.isSome_iff_exists.mpr ⟨cluster, hCluster⟩)
  refine (onCluster_spec hUpdate s.own).conseq ?_ fun _ h => ⟨cluster_of_reads h.1.1, h.1.2⟩
  rintro stored s' ⟨⟨old, hOld, rfl, hGet⟩, hOwn⟩
  dsimp only at hGet hOld
  rw [hNs, hName] at hGet hOld
  have hSame : cluster = old := Option.some.inj (hCluster.symm.trans hOld)
  refine ⟨⟨_, (lookup_write hGet fun _ _ => ?_).trans (congrArg (Option.map _) hOld), ?_, rfl⟩,
    hOwn⟩
  · exact hasKey_iff.mpr ⟨rfl, rfl⟩
  · exact (congrArg Object.status hSame).symm

theorem clusterReadyNow_set_other {now : Int} {new : Condition PostgresClusterConditionType}
    {t : PostgresClusterConditionType} (hType : new.type = t) (h : t ≠ .clusterReady)
    (generation : Int) :
    clusterReadyNow { resource with
      status := { resource.status with
        observedGeneration := generation
        conditions := Conditions.setStatusCondition now resource.status.conditions new } } =
      clusterReadyNow resource := by
  unfold clusterReadyNow
  dsimp only
  rw [find_set_other (hType ▸ h)]
  rfl

theorem clusterReadyNow_remove_other {t : PostgresClusterConditionType} (h : t ≠ .clusterReady) :
    clusterReadyNow { resource with
      status.conditions := Conditions.removeStatusCondition resource.status.conditions t } =
      clusterReadyNow resource := by
  unfold clusterReadyNow
  dsimp only
  rw [find_remove_other h]
  rfl

theorem bind_removeStatusCondition {α : Type} {t : PostgresClusterConditionType}
    {f : Unit → PostgresPass α} {Q : α → Session PostgresCluster → Prop}
    {E : Session PostgresCluster → Prop}
    (h : Triple (· = { s with own := { s.own with
      status.conditions := Conditions.removeStatusCondition s.own.status.conditions t } })
      (f ()) Q E) :
    Triple (· = s) (removeStatusCondition t >>= f) Q E := by
  unfold removeStatusCondition
  exact bind_modifyOwn h

theorem reconcileClusterFencing_spec (hCluster : ownCluster s.world.cluster s.own = some cluster) :
    Triple (· = s) (reconcileClusterFencing env cluster)
      (fun r s' => SameReadiness s s' ∧
        r = (if !fencingMatches s.own cluster then .requeueAfter (30 * second) else .nil) ∧
        ∃ cluster', ownCluster s'.world.cluster s.own = some cluster' ∧
          cluster'.status = cluster.status ∧
          cluster'.metadata.annotations.get? hibernationKey =
            cluster.metadata.annotations.get? hibernationKey ∧
          fencingMatches s.own cluster' = true)
      fun s' => s'.world.cluster = s.world.cluster ∧ ¬ Reliable env := by
  have hKeys : hibernationKey ≠ fencedInstancesKey := by decide
  refine bind_getOwn ?_
  unfold fencingMatches
  dsimp only
  split
  -- fencing is asked for: set the annotation, or report that it is there
  · next hFence =>
    split
    · next hOther =>
      refine .bind (updateAnnotations_spec env hCluster) fun _ => .pure ?_
      rintro s' ⟨⟨cluster', hCluster', hStatus, hAnnotations⟩, hOwn⟩
      refine ⟨.of_own hOwn, ?_, cluster', hCluster', hStatus, ?_, ?_⟩
      · rw [decide_eq_false hOther]
        rfl
      · rw [hAnnotations, StringMap.get?_set_other hKeys]
      · rw [hAnnotations, StringMap.get?_set_same]
        exact decide_eq_true rfl
    · next hSame =>
      refine bind_modifyOwn (.ret ?_)
      have hSame := decide_eq_true (not_ne_iff.mp hSame)
      refine ⟨⟨clusterReadyNow_set_other (t := .clusterFenced) rfl (by decide) _, rfl, rfl,
        rfl⟩, ?_, cluster, hCluster, rfl, rfl, hSame⟩
      rw [hSame]
      rfl
  -- fencing is not asked for: remove the annotation, or leave it out
  · next hFence =>
    split
    · next hSome =>
      refine .bind (updateAnnotations_spec env hCluster) fun _ => .pure ?_
      rintro s' ⟨⟨cluster', hCluster', hStatus, hAnnotations⟩, hOwn⟩
      refine ⟨.of_own hOwn, ?_, cluster', hCluster', hStatus, ?_, ?_⟩
      · rw [← Option.not_isSome, hSome]
        rfl
      · rw [hAnnotations, StringMap.get?_delete_other hKeys]
      · rw [hAnnotations, StringMap.get?_delete_same]
        rfl
    · next hNone =>
      refine bind_removeStatusCondition (.ret ?_)
      rw [Option.not_isSome_iff_eq_none, ← Option.isNone_iff_eq_none] at hNone
      refine ⟨⟨clusterReadyNow_remove_other (by decide), rfl, rfl, rfl⟩, ?_, cluster, hCluster, rfl,
        rfl, hNone⟩
      rw [hNone]
      rfl

/-- What the hibernation part leaves: the annotation is written, or nothing. -/
structure HibernationDone (cluster : CnpgCluster) (s : Session PostgresCluster) (r : StepResult)
    (s' : Session PostgresCluster) : Prop where
  readiness : SameReadiness s s'
  matched : hibernationMatches s.own cluster = true →
    r = (if hibernationSettled s.own cluster then .nil else .stop) ∧ s'.world = s.world
  written : hibernationMatches s.own cluster = false →
    r = .requeue ∧ ∃ cluster', ownCluster s'.world.cluster s.own = some cluster' ∧
      cluster'.status = cluster.status ∧ hibernationMatches s.own cluster' = true ∧
      fencingMatches s.own cluster' = fencingMatches s.own cluster

theorem reconcileClusterHibernation_spec
    (hCluster : ownCluster s.world.cluster s.own = some cluster) :
    Triple (· = s) (reconcileClusterHibernation env cluster) (HibernationDone cluster s)
      fun s' => s'.world.cluster = s.world.cluster ∧ ¬ Reliable env := by
  have hKeys : fencedInstancesKey ≠ hibernationKey := by decide
  refine bind_getOwn ?_
  dsimp only
  split
  -- the annotation is written and ends the pass; fencing is not looked at
  · next hOther =>
    have hNot : hibernationMatches s.own cluster = false := decide_eq_false hOther
    refine .bind (updateAnnotations_spec env hCluster) fun _ => .pure ?_
    rintro s' ⟨⟨cluster', hCluster', hStatus, hAnnotations⟩, hOwn⟩
    refine ⟨.of_own hOwn, fun h => ?_, fun _ => ⟨rfl, cluster', hCluster', hStatus, ?_, ?_⟩⟩
    · rw [hNot] at h
      cases h
    · unfold hibernationMatches
      rw [hAnnotations, StringMap.get?_set_same]
      exact decide_eq_true rfl
    · unfold fencingMatches
      rw [hAnnotations, StringMap.get?_set_other hKeys]
  · next hSame =>
    have hMatch : hibernationMatches s.own cluster = true := decide_eq_true (not_ne_iff.mp hSame)
    -- with the annotation in place nothing is written, and only the result differs
    have hDone : ∀ {r : StepResult} {s' : Session PostgresCluster}, SameReadiness s s' →
        s'.world = s.world → r = (if hibernationSettled s.own cluster then .nil else .stop) →
        HibernationDone cluster s r s' := by
      intro r s' hReadiness hWorld hr
      refine ⟨hReadiness, fun _ => ⟨hr, hWorld⟩, fun h => ?_⟩
      rw [hMatch] at h
      cases h
    split
    · next hSettled =>
      split
      · refine bind_modifyOwn (.ret ?_)
        exact hDone ⟨clusterReadyNow_set_other (t := .clusterHibernated) rfl (by decide) _, rfl,
          rfl, rfl⟩ rfl (if_pos hSettled).symm
      · refine bind_removeStatusCondition (.ret ?_)
        exact hDone ⟨clusterReadyNow_remove_other (by decide), rfl, rfl, rfl⟩ rfl
          (if_pos hSettled).symm
    · next hSettled =>
      refine .ret ?_
      exact hDone (.of_own rfl) rfl (if_neg hSettled).symm

theorem reconcileClusterLifecycle_spec
    (hCluster : ownCluster s.world.cluster s.own = some cluster) :
    Triple (· = s) (reconcileClusterLifecycle env) (LifecycleDone cluster s)
      fun s' => s'.world.cluster = s.world.cluster ∧ ¬ Reliable env := by
  refine bind_getOwn ?_
  have hGet := (mustGet_spec env .cnpgCluster s.own.metadata.ns (cnpgClusterName s.own)
    s.world).unless fun hReliable => (mustGet_total hReliable hCluster).post fun _ _ _ => trivial
  refine .bind ((onCluster_spec hGet s.own).onError fun _ h => ⟨cluster_of_reads h.1.1, h.1.2⟩)
    fun found => .of_each ?_
  rintro ⟨w1, own⟩ ⟨⟨hFound, hReads⟩, rfl⟩
  obtain rfl : found = cluster := Option.some.inj (hFound.symm.trans hCluster)
  have hCluster1 : ownCluster w1.cluster s.own = some found := by
    rw [cluster_of_reads hReads]
    exact hCluster
  refine .bind ((reconcileClusterHibernation_spec env (s := ⟨w1, s.own⟩) hCluster1).onError
    fun _ h => ⟨h.1.trans (cluster_of_reads hReads), h.2⟩) fun r => .of_each fun s2 hs2 => ?_
  have hReadiness : SameReadiness s s2 :=
    (SameReadiness.of_own rfl : SameReadiness s ⟨w1, s.own⟩).trans hs2.readiness
  -- hibernation first: fencing is only looked at once it is settled
  cases hMatch : hibernationMatches s.own found with
  | false =>
    obtain ⟨rfl, cluster', hCluster', hStatus, hHibernation, hFencing⟩ := hs2.written hMatch
    refine .ret ?_
    refine ⟨hReadiness, ?_, cluster', hCluster', hStatus, hHibernation, ?_⟩
    · unfold lifecycleResult
      rw [hMatch]
      rfl
    · rw [hMatch, Bool.false_and, Bool.or_false]
      exact hFencing
  | true =>
    obtain ⟨rfl, hWorld⟩ := hs2.matched hMatch
    cases hSettled : hibernationSettled s.own found with
    | false =>
      refine .ret ?_
      refine ⟨hReadiness, ?_, found, hWorld ▸ hCluster1, rfl, hMatch, ?_⟩
      · unfold lifecycleResult
        rw [hMatch, hSettled]
        rfl
      · rw [hSettled, Bool.and_false, Bool.or_false]
    | true =>
      have hCluster2 : ownCluster s2.world.cluster s2.own = some found := by
        rw [hWorld, ownCluster_congr _ hReadiness.metadata hReadiness.spec]
        exact hCluster1
      -- the fencing part runs on the Cluster the hibernation part has left alone
      refine (reconcileClusterFencing_spec env hCluster2).conseq (fun r s3 hs3 => ?_)
        fun _ h => ⟨h.1.trans (by rw [hWorld]; exact cluster_of_reads hReads), h.2⟩
      obtain ⟨hReadiness3, hr, cluster', hCluster', hStatus, hKept, hFencing⟩ := hs3
      rw [fencingMatches_congr hReadiness.spec] at hr hFencing
      rw [ownCluster_congr _ hReadiness.metadata hReadiness.spec] at hCluster'
      refine ⟨hReadiness.trans hReadiness3, ?_, cluster', hCluster', hStatus, ?_, ?_⟩
      · unfold lifecycleResult
        rw [hMatch, hSettled]
        exact hr
      · unfold hibernationMatches at hMatch ⊢
        rw [hKept]
        exact hMatch
      · rw [hFencing, hMatch, hSettled]
        exact (Bool.or_true _).symm

/-! ## If no API call fails -/

structure Unhindered (s : Session PostgresCluster) : Prop where
  provided : Provided env s
  valid : shouldRunValidation s.own = false
  serving : serving env s.own (foundCluster s.world.cluster s.own) = true
  lifecycle : lifecycleResult s.own (foundCluster s.world.cluster s.own) = .nil

structure AtDatabases (s s' : Session PostgresCluster) : Prop where
  ready : clusterReadyNow s'.own = true
  outputs : s'.own.status.outputs.isSome
  alters : Alters [.cnpgCluster] s s'

theorem lifecycleResult_congr
    (hAnnotations : cluster'.metadata.annotations = cluster.metadata.annotations)
    (hStatus : cluster'.status = cluster.status) :
    lifecycleResult resource cluster' = lifecycleResult resource cluster := by
  unfold lifecycleResult hibernationMatches hibernationSettled fencingMatches
  rw [hAnnotations, hStatus]

theorem lifecycleResult_congr_own {resource' : PostgresCluster}
    (hSpec : resource'.spec = resource.spec) (cluster : CnpgCluster) :
    lifecycleResult resource' cluster = lifecycleResult resource cluster := by
  unfold lifecycleResult hibernationMatches hibernationSettled fencingMatches desiredHibernation
    fenceCluster
  rw [hSpec]

theorem runChain_unhindered (h : Unhindered env s) {Q E : Session PostgresCluster → Prop}
    {rest : List (PostgresPass StepResult)}
    (hRest : Triple (AtDatabases s) (runChain rest) (fun _ => Q) E) :
    Triple (· = s) (runChain (reconcileResourceValidation env :: reconcilePgCluster env ::
      reconcileClusterLifecycle env :: rest)) (fun _ => Q) E := by
  -- the configuration was found valid before, so the checks are not run
  refine triple_runChain_cons (R := (· = s)) ?_ ?_
  · refine bind_getOwn ?_
    rw [h.valid, if_neg Bool.false_ne_true]
    exact .pure fun _ hs => hs
  refine triple_runChain_cons (R := PgClusterDone env s .nil) ?_ ?_
  · refine (reconcilePgCluster_spec env s).conseq (fun r s1 hs1 => ?_)
      fun _ hs1 => absurd h.provided hs1.2
    have hNil : r = .nil := hs1.result.trans (if_pos h.serving)
    rw [if_pos hNil]
    exact hNil ▸ hs1
  refine triple_runChain_cons (R := AtDatabases s) ?_ hRest
  refine .of_each fun s1 hs1 => ?_
  obtain ⟨cluster, hCluster, hMarks⟩ := hs1.cluster
  have hServes := hs1.serves rfl
  -- the Cluster under the key is the one the step before has written
  have hCluster1 : ownCluster s1.world.cluster s1.own = some cluster := by
    rw [ownCluster_congr _ hs1.alters.metadata hs1.alters.spec]
    exact hCluster
  refine ((alters_reconcileClusterLifecycle.leads s1).and
    (reconcileClusterLifecycle_spec env hCluster1)).conseq
    (fun r s2 hs2 => ?_) fun _ hs2 => absurd h.provided.reliable hs2.2.2
  have hNil : r = .nil := by
    rw [hs2.2.result, lifecycleResult_congr_own hs1.alters.spec,
      lifecycleResult_congr hMarks.annotations hMarks.status]
    exact h.lifecycle
  rw [if_pos hNil]
  refine ⟨hs2.2.readiness.ready.trans hServes.ready, ?_, trans_of (Alters _) hs1.alters hs2.1⟩
  rw [hs2.2.readiness.outputs]
  exact hServes.outputs

end

end ClusterAgent.PostgresController
