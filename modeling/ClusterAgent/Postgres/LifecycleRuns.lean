import ClusterAgent.Lib.Runs
import ClusterAgent.Postgres.DatabasePass

/-!
# Cluster agent — hibernation and fencing over whole runs

The annotations by which the operator is told to hibernate or to fence a cluster are
written one at a time, and only by passes that find the operator's Cluster ready. A
hibernated or fenced cluster is not ready, so that such a pass may never come.

* `LifecycleEvent`, `lifecycleStep` — passes over one PostgresCluster, with anything in
  between that leaves its spec and the annotations;
* `goodPass` — a successful pass that finds the Cluster ready and hibernation settled;
* `advanced_reconcile` — no pass takes an annotation back that is as the spec asks for;
* `gained_reconcile` — a good pass brings one more of them in line.

Main result: `annotations_match_after`.
-/

namespace ClusterAgent.PostgresController

open Pass Effect Conditions Session ObjectPass

/-! ## What a pass does to the annotations -/

/-- No annotation that was as the spec asks for is taken back. -/
structure Advanced (pg : PostgresCluster) (c c' : Cluster) : Prop where
  hibernation : hibernationMatches pg (foundCluster c pg) = true →
    hibernationMatches pg (foundCluster c' pg) = true
  fencing : fencingMatches pg (foundCluster c pg) = true →
    fencingMatches pg (foundCluster c' pg) = true

/-- One more annotation is as the spec asks for: hibernation, and fencing if hibernation was. -/
structure Gained (pg : PostgresCluster) (c c' : Cluster) : Prop where
  hibernation : hibernationMatches pg (foundCluster c' pg) = true
  fencing : hibernationMatches pg (foundCluster c pg) = true →
    fencingMatches pg (foundCluster c' pg) = true

theorem Advanced.refl (pg : PostgresCluster) (c : Cluster) : Advanced pg c c := ⟨id, id⟩

variable {pg : PostgresCluster} {c c' : Cluster} {s : Session PostgresCluster}

theorem Advanced.trans {c1 : Cluster} (h : Advanced pg c c1) (h' : Advanced pg c1 c') :
    Advanced pg c c' :=
  ⟨fun hm => h'.hibernation (h.hibernation hm), fun hm => h'.fencing (h.fencing hm)⟩

theorem Gained.advance {c1 : Cluster} (h : Gained pg c c1) (h' : Advanced pg c1 c') :
    Gained pg c c' :=
  ⟨h'.hibernation h.hibernation, fun hm => h'.fencing (h.fencing hm)⟩

theorem Advanced.of_annotations
    (h : (foundCluster c' pg).metadata.annotations = (foundCluster c pg).metadata.annotations) :
    Advanced pg c c' := by
  refine ⟨fun hm => ?_, fun hm => ?_⟩
  · unfold hibernationMatches at hm ⊢
    rwa [h]
  · unfold fencingMatches at hm ⊢
    rwa [h]

theorem hibernationMatches_over (h : Over pg s) (c : Cluster) :
    hibernationMatches s.own (foundCluster c s.own) =
      hibernationMatches pg (foundCluster c pg) := by
  rw [foundCluster_congr c h.metadata h.spec]
  unfold hibernationMatches desiredHibernation
  rw [h.spec]

theorem fencingMatches_over (h : Over pg s) (c : Cluster) :
    fencingMatches s.own (foundCluster c s.own) =
      fencingMatches pg (foundCluster c pg) := by
  rw [foundCluster_congr c h.metadata h.spec]
  exact fencingMatches_congr h.spec _

theorem advanced_over (h : Over pg s) (hAdvanced : Advanced s.own c c') : Advanced pg c c' := by
  refine ⟨fun hm => ?_, fun hm => ?_⟩
  · rw [← hibernationMatches_over h] at hm ⊢
    exact hAdvanced.hibernation hm
  · rw [← fencingMatches_over h] at hm ⊢
    exact hAdvanced.fencing hm

theorem gained_over (h : Over pg s) (hGained : Gained s.own c c') : Gained pg c c' := by
  refine ⟨?_, fun hm => ?_⟩
  · rw [← hibernationMatches_over h]
    exact hGained.hibernation
  · rw [← hibernationMatches_over h] at hm
    rw [← fencingMatches_over h]
    exact hGained.fencing hm

theorem Advanced.alters {kinds : List ObjectKind} {s' : Session PostgresCluster}
    (h : Alters kinds s s') (hKinds : .cnpgCluster ∉ kinds) :
    Advanced pg s.world.cluster s'.world.cluster :=
  .of_annotations (by rw [foundCluster_alters h hKinds])

section

variable (env : Env)

theorem advanced_step {kinds : List ObjectKind} {m : PostgresPass StepResult}
    (h : Within (Alters kinds) m) (hKinds : .cnpgCluster ∉ kinds) :
    Ensures (fun s => Over pg s ∧ Advanced pg c s.world.cluster) m
      (fun s => Over pg s ∧ Advanced pg c s.world.cluster) :=
  h.triple fun _ _ hAlters hs => ⟨hs.1.alters hAlters, hs.2.trans (.alters hAlters hKinds)⟩

theorem advanced_reconcilePgCluster (pg : PostgresCluster) (c : Cluster) :
    Ensures (fun s => Over pg s ∧ Advanced pg c s.world.cluster) (reconcilePgCluster env)
      (fun s => Over pg s ∧ Advanced pg c s.world.cluster) := by
  refine .of_each fun s ⟨hOver, hAdvanced⟩ => ?_
  have hOvers : Ensures (· = s) (reconcilePgCluster env) (Over pg) :=
    (alters_reconcilePgCluster.triple fun _ _ h hs => Over.alters hs h).pre
      fun _ h => h ▸ hOver
  have hNext : ∀ s', SameAnnotations s s' → Advanced pg c s'.world.cluster := by
    intro s' h
    unfold SameAnnotations at h
    rw [foundCluster_congr _ hOver.metadata hOver.spec,
      foundCluster_congr _ hOver.metadata hOver.spec] at h
    exact hAdvanced.trans (.of_annotations h)
  refine (hOvers.and (reconcilePgCluster_spec env s)).conseq
    (fun _ s' h => ⟨h.1, hNext s' ?_⟩) fun s' h => ⟨h.1, hNext s' h.2.1⟩
  obtain ⟨cluster, hCluster, hMarks⟩ := h.2.cluster
  unfold SameAnnotations
  rw [foundCluster_of_own hCluster]
  exact hMarks.annotations

theorem advanced_lifecycle (s : Session PostgresCluster) :
    Triple (· = s) (reconcileClusterLifecycle env)
      (fun _ s' => Advanced s.own s.world.cluster s'.world.cluster ∧
        (hibernationSettled s.own (foundCluster s.world.cluster s.own) = true ∨
          hibernationMatches s.own (foundCluster s.world.cluster s.own) = false →
          Gained s.own s.world.cluster s'.world.cluster))
      fun s' => Advanced s.own s.world.cluster s'.world.cluster := by
  -- without a Cluster of its own the step fails at its `Get`
  cases hCluster : ownCluster s.world.cluster s.own with
  | none =>
    refine bind_getOwn (.bind ((onCluster_spec (mustGet_spec env .cnpgCluster _ _ s.world)
      s.own).onError fun s' h => ?_) fun cluster =>
      .of_each fun s1 hs1 => ?_)
    · rw [cluster_of_reads h.1]
      exact .refl _ _
    · cases hCluster.symm.trans hs1.1.1
  | some cluster =>
    have hFound := foundCluster_of_own hCluster
    refine (reconcileClusterLifecycle_spec env hCluster).conseq (fun r s' h => ?_)
      fun s' h => h.1 ▸ .refl _ _
    obtain ⟨cluster', hCluster', -, hHibernation, hFencing⟩ := h.cluster
    have hFound' := foundCluster_of_own hCluster'
    rw [hFound]
    -- the step writes the hibernation annotation, or it was in line; the fencing one is
    -- only written once the operator has settled the hibernation
    refine ⟨⟨fun _ => ?_, fun hm => ?_⟩, fun hSettled => ⟨?_, fun hm => ?_⟩⟩
    · rw [hFound']
      exact hHibernation
    · rw [hFound] at hm
      rw [hFound', hFencing, hm, Bool.true_or]
    · rw [hFound']
      exact hHibernation
    · rw [hFound] at hm
      have hSettled := hSettled.resolve_right (by rw [hm]; decide)
      rw [hFound', hFencing, hm, hSettled]
      exact Bool.or_true _

theorem advanced_reconcileClusterLifecycle (pg : PostgresCluster) (c : Cluster) :
    Ensures (fun s => Over pg s ∧ Advanced pg c s.world.cluster) (reconcileClusterLifecycle env)
      (fun s => Over pg s ∧ Advanced pg c s.world.cluster) := by
  refine .of_each fun s ⟨hOver, hAdvanced⟩ => ?_
  have hOvers : Ensures (· = s) (reconcileClusterLifecycle env) (Over pg) :=
    (alters_reconcileClusterLifecycle.triple fun _ _ h hs => Over.alters hs h).pre
      fun _ h => h ▸ hOver
  exact (hOvers.and (advanced_lifecycle env s)).conseq
    (fun _ _ h => ⟨h.1, hAdvanced.trans (advanced_over hOver h.2.1)⟩)
    fun _ h => ⟨h.1, hAdvanced.trans (advanced_over hOver h.2)⟩

theorem advanced_subReconcilers (pg : PostgresCluster) (c : Cluster) :
    Ensures (fun s => Over pg s ∧ Advanced pg c s.world.cluster) (runChain (subReconcilers env))
      (fun s => Over pg s ∧ Advanced pg c s.world.cluster) := by
  have hNone : ObjectKind.cnpgCluster ∉ ([] : List ObjectKind) := List.not_mem_nil
  refine triple_runChain_all fun step hStep => ?_
  unfold subReconcilers at hStep
  simp only [List.mem_cons, List.not_mem_nil, or_false] at hStep
  rcases hStep with rfl | rfl | rfl | rfl | rfl
  · exact advanced_step alters_reconcileResourceValidation hNone
  · exact advanced_reconcilePgCluster env pg c
  · exact advanced_reconcileClusterLifecycle env pg c
  · exact advanced_step alters_reconcileDatabases (by decide)
  · exact advanced_step alters_reconcileBackups (by decide)

/-- What a pass over `pg` has to find to bring one more annotation in line: a valid configuration,
a Cluster that fits and is ready, and, once the hibernation annotation is written, an operator
that has done what it asks for. -/
structure Helpful (pg : PostgresCluster) (w : World) : Prop where
  valid : value (reconcileResourceValidation env (startSession env pg w)) = some .nil
  serving : serving env pg (foundCluster w.cluster pg) = true
  settled : hibernationMatches pg (foundCluster w.cluster pg) = true →
    hibernationSettled pg (foundCluster w.cluster pg) = true

/-- The Cluster the lifecycle step finds has the annotations and the status of the one the
pass started with. -/
structure AtLifecycle (pg : PostgresCluster) (c : Cluster) (s : Session PostgresCluster) :
    Prop where
  same : Over pg s
  annotations : (foundCluster s.world.cluster pg).metadata.annotations =
    (foundCluster c pg).metadata.annotations
  status : (foundCluster s.world.cluster pg).status = (foundCluster c pg).status

theorem AtLifecycle.gained (h : AtLifecycle pg c s)
    (hSettled : hibernationMatches pg (foundCluster c pg) = true →
      hibernationSettled pg (foundCluster c pg) = true)
    (hGained : hibernationSettled s.own (foundCluster s.world.cluster s.own) = true ∨
      hibernationMatches s.own (foundCluster s.world.cluster s.own) = false →
      Gained s.own s.world.cluster c') : Gained pg c c' := by
  have hMatches : hibernationMatches pg (foundCluster s.world.cluster pg) =
      hibernationMatches pg (foundCluster c pg) := by
    unfold hibernationMatches
    rw [h.annotations]
  have hSettles : hibernationSettled s.own (foundCluster s.world.cluster s.own) =
      hibernationSettled pg (foundCluster c pg) := by
    rw [foundCluster_congr _ h.same.metadata h.same.spec]
    unfold hibernationSettled
    rw [h.status, h.same.spec]
  rw [hibernationMatches_over h.same, hMatches, hSettles] at hGained
  have hNow : Gained pg s.world.cluster c' := by
    refine gained_over h.same (hGained ?_)
    cases hm : hibernationMatches pg (foundCluster c pg) with
    | false => exact Or.inr rfl
    | true => exact Or.inl (hSettled hm)
  exact ⟨hNow.hibernation, fun hm => hNow.fencing (hMatches.trans hm)⟩

theorem gained_subReconcilers {w : World} (h : Helpful env pg w) :
    Returns (· = startSession env pg w) (runChain (subReconcilers env))
      (fun _ s => Gained pg w.cluster s.world.cluster) := by
  have hNone : ObjectKind.cnpgCluster ∉ ([] : List ObjectKind) := List.not_mem_nil
  -- the steps after the second one do not write the Cluster
  have hKeep : ∀ {kinds : List ObjectKind} {m : PostgresPass StepResult},
      Within (Alters kinds) m → .cnpgCluster ∉ kinds →
      Returns (fun s => Gained pg w.cluster s.world.cluster) m
        (fun _ s => Gained pg w.cluster s.world.cluster) := by
    intro kinds m hm hKinds
    exact (hm.triple (P := fun s => Gained pg w.cluster s.world.cluster)
      fun _ _ hAlters hs => hs.advance (.alters hAlters hKinds)).anyError
  have hStart : Over pg (startSession env pg w) := ⟨rfl, rfl⟩
  have hValidation : Within (Alters []) (reconcileResourceValidation env) :=
    alters_reconcileResourceValidation
  -- one invariant for each place in the chain
  refine triple_runChain_cons (R := fun s => Over pg s ∧
    foundCluster s.world.cluster pg = foundCluster w.cluster pg) ?_
    (triple_runChain_cons (R := AtLifecycle pg w.cluster) (Triple.of_each fun s1 hs1 => ?_)
      (triple_runChain_keep (Triple.of_each fun s2 hs2 => ?_)
        (triple_runChain_keep (hKeep alters_reconcileDatabases (by decide))
          (triple_runChain_keep (hKeep alters_reconcileBackups (by decide))
            Triple.skip))))
  -- the validation ends with nothing to report, as the pass is a helpful one
  · refine (Triple.runs (startSession env pg w)).conseq (fun r s hs => ?_)
      fun _ _ => trivial
    have hAlters := hValidation.ok hs
    have hNil : r = .nil := by
      have hValid := h.valid
      rw [hs] at hValid
      exact Option.some.inj hValid
    rw [if_pos hNil]
    exact ⟨hStart.alters hAlters, foundCluster_alters hAlters hNone pg⟩
  -- a serving Cluster lets the chain go on, with its annotations
  · refine (reconcilePgCluster_spec env s1).conseq (fun r s hs => ?_)
      fun _ _ => trivial
    obtain ⟨cluster, hCluster, hMarks⟩ := hs.cluster
    have hFound : foundCluster s.world.cluster pg = cluster :=
      (foundCluster_congr _ hs1.1.metadata hs1.1.spec).symm.trans (foundCluster_of_own hCluster)
    have hFound1 : foundCluster s1.world.cluster s1.own = foundCluster w.cluster pg :=
      (foundCluster_congr _ hs1.1.metadata hs1.1.spec).trans hs1.2
    have hNil : r = .nil := by
      rw [hs.result, serving_congr_own env hs1.1.spec, hFound1, h.serving]
      rfl
    rw [if_pos hNil]
    rw [hFound1] at hMarks
    exact ⟨hs1.1.alters hs.alters, by rw [hFound]; exact hMarks.annotations,
      by rw [hFound]; exact hMarks.status⟩
  · exact (advanced_lifecycle env s2).conseq
      (fun _ _ hs => hs2.gained h.settled hs.2) fun _ _ => trivial

/-! ## What a pass leaves -/

/-- What is kept of the PostgresCluster while its spec is: it is not deleted, and it does not
lose the finalizer. -/
structure KeptOn (pg : PostgresCluster) (c : Cluster) : Prop where
  stored : ∃ o, lookup .postgresCluster c pg.metadata.ns pg.metadata.name = some o ∧
    o.spec = pg.spec ∧ o.metadata.deletionTimestamp = none ∧
    (cacheFinalizer ∈ pg.metadata.finalizers → cacheFinalizer ∈ o.metadata.finalizers)

/-- At most the status of the PostgresCluster differs. -/
structure StatusOnly (ns name : String) (c c' : Cluster) : Prop where
  clusters : c'.cnpgClusters = c.cnpgClusters
  stored : ∀ o, lookup .postgresCluster c ns name = some o →
    ∃ status, lookup .postgresCluster c' ns name = some { o with status := status }

theorem StatusOnly.keptOn (h : StatusOnly pg.metadata.ns pg.metadata.name c c')
    (hKept : KeptOn pg c) :
    KeptOn pg c' := by
  obtain ⟨o, hStored, hSame⟩ := hKept.stored
  obtain ⟨status, hStored'⟩ := h.stored o hStored
  exact ⟨_, hStored', hSame⟩

theorem statusOnly_storeStatus (pg : PostgresCluster) (w : World) :
    Triple (· = w) (storeStatus env .postgresCluster storedStatus pg)
      (fun _ w' => StatusOnly pg.metadata.ns pg.metadata.name w.cluster w'.cluster)
      fun w' => w'.cluster = w.cluster := by
  have hTouches : Ensures (· = w) (storeStatus env .postgresCluster storedStatus pg)
    (Touches { objects := [.postgresCluster] } w) :=
    (has_storeStatus List.mem_cons_self).leads (.refl _ _)
  refine (hTouches.and (storeStatus_spec env .postgresCluster storedStatus pg w)).conseq
    (fun _ w' h => ⟨h.1.objects .cnpgCluster (by decide), fun o hStored => ?_⟩)
    fun _ h => cluster_of_reads h.2
  have hKey : ∀ x : PostgresCluster, hasKey pg.metadata.ns pg.metadata.name x = true →
      hasKey pg.metadata.ns pg.metadata.name { x with status := storedStatus pg.status } = true :=
    fun _ h => h
  refine ⟨storedStatus pg.status, ?_⟩
  unfold lookup at hStored ⊢
  rw [h.2, Keyed.find?_write hKey, hStored]
  rfl

theorem triple_reconcile_chain {ns name : String} {I J : Cluster → Prop}
    (hPg : lookup .postgresCluster s.world.cluster ns name = some pg)
    (hKept : pg.metadata.deletionTimestamp = none)
    (hFinalizer : cacheFinalizer ∈ pg.metadata.finalizers) (hStart : J s.world.cluster)
    (hChain : Triple (· = startSession env pg s.world) (runChain (subReconcilers env))
      (fun _ s' => Over pg s' ∧ I s'.world.cluster) fun s' => J s'.world.cluster)
    (hStatus : ∀ c c', I c → StatusOnly ns name c c' → I c') (hFails : ∀ c, I c → J c) :
    Triple (· = s) (reconcile env ns name) (fun _ s' => I s'.world.cluster)
      fun s' => J s'.world.cluster := by
  obtain ⟨hNs, hName⟩ := key_of_lookup hPg
  refine bind_fetch hPg (fun _ h => h ▸ hStart) fun _ => bind_modifyOwn ?_
  rw [if_neg (not_ne_iff.mpr hKept), if_neg (not_not.mpr hFinalizer)]
  refine bind_modifyOwn ?_
  refine .bind hChain fun result => .of_each fun s2 ⟨hOver, hs2⟩ => ?_
  refine bind_getOwn ?_
  split
  · refine .bind ((onCluster_spec (statusOnly_storeStatus env s2.own s2.world)
      s2.own).conseq (fun _ s3 hs3 => ?_) fun s3 hs3 => ?_) fun _ =>
        .skip
    · have hOnly := hs3.1
      rw [hOver.metadata, hNs, hName] at hOnly
      exact hStatus _ _ hs2 hOnly
    · rw [hs3.1]
      exact hFails _ hs2
  · exact .ret hs2

theorem triple_reconcile_finalizer {ns name : String}
    (hPg : lookup .postgresCluster s.world.cluster ns name = some pg)
    (hKept : pg.metadata.deletionTimestamp = none)
    (hFinalizer : cacheFinalizer ∉ pg.metadata.finalizers) :
    Triple (· = s) (reconcile env ns name)
      (fun _ s' => s'.world.cluster.cnpgClusters = s.world.cluster.cnpgClusters ∧
        ∃ o, lookup .postgresCluster s'.world.cluster ns name = some o ∧ o.spec = pg.spec ∧
          o.metadata.deletionTimestamp = none ∧ cacheFinalizer ∈ o.metadata.finalizers)
      fun s' => s'.world.cluster = s.world.cluster := by
  obtain ⟨hNs, hName⟩ := key_of_lookup hPg
  refine bind_fetch hPg (fun _ h => h) fun _ => bind_modifyOwn ?_
  -- no deletion, no finalizer: the finalizer is added and the pass ends
  rw [if_neg (not_ne_iff.mpr hKept), if_pos hFinalizer]
  let w1 : World := { s.world with calls := s.world.calls + 1 }
  let withFinalizer : PostgresCluster :=
    { pg with metadata.finalizers := pg.metadata.finalizers ++ [cacheFinalizer] }
  have hTouches : Ensures (· = w1) (update env .postgresCluster withFinalizer)
    (Touches { objects := [.postgresCluster] } w1) :=
    (has_update List.mem_cons_self).leads (.refl _ _)
  refine .bind ((onCluster_spec (hTouches.and
    (update_spec env .postgresCluster withFinalizer w1)) pg).conseq
    (fun _ s2 hs2 => ?_) fun s2 hs2 => cluster_of_reads hs2.1.2) fun _ => .skip
  obtain ⟨hSame, old, hOld, rfl, hWrite⟩ := hs2.1
  have hKey : hasKey ns name (updated old withFinalizer) = true := hasKey_iff.mpr ⟨hNs, hName⟩
  have hOld : lookup .postgresCluster s.world.cluster ns name = some old := by
    rw [← hNs, ← hName]
    exact hOld
  -- the object that is updated is the one the pass has fetched
  obtain rfl : pg = old := Option.some.inj (hPg.symm.trans hOld)
  refine ⟨hSame.objects .cnpgCluster (by decide), updated pg withFinalizer, ?_, rfl, hKept, ?_⟩
  · have hWrite : s2.world.cluster.postgresClusters = Keyed.write (hasKey ns name)
        (fun _ => updated pg withFinalizer) s.world.cluster.postgresClusters := by
      rw [← hNs, ← hName]
      exact hWrite
    refine (congrArg (List.find? _) hWrite).trans ?_
    rw [Keyed.find?_write fun _ _ => hKey]
    exact congrArg (Option.map _) hPg
  · exact List.mem_append_right _ List.mem_cons_self

theorem alters_subReconcilers : Within
    (Alters [.cnpgCluster, .database, .scheduledBackup, .backup])
    (runChain (subReconcilers env)) := by
  refine alters_runChain fun step hStep => ?_
  unfold subReconcilers at hStep
  simp only [List.mem_cons, List.not_mem_nil, or_false] at hStep
  rcases hStep with rfl | rfl | rfl | rfl | rfl
  · exact alters_reconcileResourceValidation
  · exact alters_reconcilePgCluster.mono fun _ _ h => h.widen
  · exact alters_reconcileClusterLifecycle.mono fun _ _ h => h.widen
  · exact alters_reconcileDatabases.mono fun _ _ h => h.widen
  · exact alters_reconcileBackups.mono fun _ _ h => h.widen

theorem over_subReconcilers {w : World}
    (hPg : lookup .postgresCluster w.cluster pg.metadata.ns pg.metadata.name = some pg)
    (hKept : pg.metadata.deletionTimestamp = none) :
    Ensures (· = startSession env pg w) (runChain (subReconcilers env))
      (fun s => Over pg s ∧ KeptOn pg s.world.cluster) := by
  have hNext : ∀ s, Alters [.cnpgCluster, .database, .scheduledBackup, .backup]
      (startSession env pg w) s → Over pg s ∧ KeptOn pg s.world.cluster := by
    intro s h
    have hSame : s.world.cluster.postgresClusters = w.cluster.postgresClusters :=
      h.objects .postgresCluster (by decide)
    have hStored : lookup .postgresCluster s.world.cluster pg.metadata.ns pg.metadata.name =
        some pg := (congrArg (List.find? _) hSame).trans hPg
    exact ⟨Over.alters ⟨rfl, rfl⟩ h, pg, hStored, rfl, hKept, id⟩
  exact ((alters_subReconcilers env).leads _).conseq (fun _ => hNext) hNext

theorem advanced_reconcile
    (hPg : lookup .postgresCluster s.world.cluster pg.metadata.ns pg.metadata.name = some pg)
    (hKept : pg.metadata.deletionTimestamp = none) :
    Ensures (· = s) (reconcile env pg.metadata.ns pg.metadata.name)
      (fun s' => KeptOn pg s'.world.cluster ∧ Advanced pg s.world.cluster s'.world.cluster) := by
  have hStart : KeptOn pg s.world.cluster ∧ Advanced pg s.world.cluster s.world.cluster :=
    ⟨⟨pg, hPg, rfl, hKept, id⟩, .refl _ _⟩
  by_cases hFinalizer : cacheFinalizer ∈ pg.metadata.finalizers
  · refine triple_reconcile_chain (I := fun c => KeptOn pg c ∧ Advanced pg s.world.cluster c)
      env hPg hKept hFinalizer hStart ?_ (fun c c' h hOnly => ?_) fun _ h => h
    · have hAdvanced : Ensures (· = startSession env pg s.world) (runChain (subReconcilers env))
          (fun s' => Over pg s' ∧ Advanced pg s.world.cluster s'.world.cluster) :=
        (advanced_subReconcilers env pg s.world.cluster).pre
          fun _ h => h ▸ ⟨⟨rfl, rfl⟩, .refl _ _⟩
      exact ((over_subReconcilers env hPg hKept).and hAdvanced).conseq
        (fun _ _ h => ⟨h.1.1, h.1.2, h.2.2⟩) fun _ h => ⟨h.1.2, h.2.2⟩
    · exact ⟨hOnly.keptOn h.1, h.2.trans
        (.of_annotations (by rw [foundCluster_of_clusters hOnly.clusters]))⟩
  · refine (triple_reconcile_finalizer env hPg hKept hFinalizer).conseq
      (fun _ s' h => ?_) fun s' h => by rw [h]; exact hStart
    obtain ⟨hClusters, o, hStored, hSpec, hDeletion, hHas⟩ := h
    exact ⟨⟨o, hStored, hSpec, hDeletion, fun _ => hHas⟩,
      .of_annotations (by rw [foundCluster_of_clusters hClusters])⟩

/-- **A successful pass that finds the Cluster ready and hibernation settled** brings one more
annotation in line. -/
theorem gained_reconcile
    (hPg : lookup .postgresCluster s.world.cluster pg.metadata.ns pg.metadata.name = some pg)
    (hKept : pg.metadata.deletionTimestamp = none)
    (hFinalizer : cacheFinalizer ∈ pg.metadata.finalizers) (h : Helpful env pg s.world) :
    Returns (· = s) (reconcile env pg.metadata.ns pg.metadata.name)
      (fun _ s' => Gained pg s.world.cluster s'.world.cluster) := by
  refine triple_reconcile_chain (I := Gained pg s.world.cluster) (J := fun _ => True) env hPg
    hKept hFinalizer trivial ?_ (fun c c' hGained hOnly => ?_) fun _ _ => trivial
  · exact ((over_subReconcilers env hPg hKept).and (gained_subReconcilers env h)).conseq
      (fun _ _ h => ⟨h.1.1, h.2⟩) fun _ _ => trivial
  · exact hGained.advance
      (.of_annotations (by rw [foundCluster_of_clusters hOnly.clusters]))

end

/-! ## How much is left to write -/

def mismatches (pg : PostgresCluster) (c : Cluster) : Nat :=
  (!hibernationMatches pg (foundCluster c pg)).toNat +
  (!fencingMatches pg (foundCluster c pg)).toNat

/-- How many writes are still to come: the finalizer, if it is missing, and each annotation that
is not as the spec asks. Every good pass makes one of them. -/
def pending (ns name : String) (c : Cluster) : Nat :=
  match lookup .postgresCluster c ns name with
  | none => 0
  | some pg => (!decide (cacheFinalizer ∈ pg.metadata.finalizers)).toNat + mismatches pg c

theorem pending_eq {ns name : String} (h : lookup .postgresCluster c ns name = some pg) :
    pending ns name c =
      (!decide (cacheFinalizer ∈ pg.metadata.finalizers)).toNat + mismatches pg c := by
  unfold pending
  rw [h]

theorem mismatches_congr {pg' : PostgresCluster} (hNs : pg'.metadata.ns = pg.metadata.ns)
    (hName : pg'.metadata.name = pg.metadata.name) (hSpec : pg'.spec = pg.spec) (c : Cluster) :
    mismatches pg' c = mismatches pg c := by
  have hFound : foundCluster c pg' = foundCluster c pg := by
    unfold foundCluster ownCluster blankCluster cnpgClusterName majorVersion
    rw [hNs, hName, hSpec]
  unfold mismatches hibernationMatches desiredHibernation
  rw [hFound, fencingMatches_congr hSpec, hSpec]

theorem toNat_not_le {b b' : Bool} (h : b = true → b' = true) : (!b').toNat ≤ (!b).toNat := by
  cases b with
  | false => exact Bool.toNat_le _
  | true => rw [h rfl]

theorem Advanced.mismatches_le (h : Advanced pg c c') :
    mismatches pg c' ≤ mismatches pg c :=
  Nat.add_le_add (toNat_not_le h.hibernation) (toNat_not_le h.fencing)

theorem Gained.mismatches_le (h : Gained pg c c') (hAdvanced : Advanced pg c c') :
    mismatches pg c' ≤ mismatches pg c - 1 := by
  have hFencing := toNat_not_le hAdvanced.fencing
  unfold mismatches
  rw [h.hibernation]
  cases hm : hibernationMatches pg (foundCluster c pg) with
  | false =>
    simpa using hFencing
  | true =>
    rw [h.fencing hm]
    simp

theorem pending_of_keptOn (h : KeptOn pg c') :
    pending pg.metadata.ns pg.metadata.name c' ≤
      (!decide (cacheFinalizer ∈ pg.metadata.finalizers)).toNat + mismatches pg c' := by
  obtain ⟨o, hStored, hSpec, -, hFinalizer⟩ := h.stored
  obtain ⟨hNs, hName⟩ := key_of_lookup hStored
  rw [pending_eq hStored]
  refine Nat.add_le_add (toNat_not_le fun h => ?_) (mismatches_congr hNs hName hSpec c').le
  exact decide_eq_true (hFinalizer (of_decide_eq_true h))

/-! ## Runs -/

/-- What happens to the cluster: a pass over the PostgresCluster in an environment, starting
with some object in memory, or a change by someone else. -/
inductive LifecycleEvent
  | pass (env : Env) (own : PostgresCluster)
  | elsewhere (c : Cluster)

def lifecycleStep (ns name : String) (c : Cluster) : LifecycleEvent → Cluster
  | .pass env own => (finalState (reconcile env ns name ⟨worldOf c, own⟩)).world.cluster
  | .elsewhere c' => c'

/-- The annotations are written by the agent only. -/
structure SameLifecycle (pg : PostgresCluster) (c c' : Cluster) : Prop where
  hibernation : (foundCluster c' pg).metadata.annotations.get? hibernationKey =
    (foundCluster c pg).metadata.annotations.get? hibernationKey
  fencing : (foundCluster c' pg).metadata.annotations.get? fencedInstancesKey =
    (foundCluster c pg).metadata.annotations.get? fencedInstancesKey

/-- Nobody edits the spec or deletes the PostgresCluster, and nobody else writes the two
annotations. -/
def SpecKept (ns name : String) (c : Cluster) : LifecycleEvent → Prop
  | .pass _ _ => True
  | .elsewhere c' => ∀ pg, lookup .postgresCluster c ns name = some pg →
    KeptOn pg c' ∧ SameLifecycle pg c c'

/-- The configuration validates, the operator's Cluster is ready and big enough, and hibernation
is settled if it is already asked for. A pass without the finalizer looks at none of this. -/
def helpful (env : Env) (pg : PostgresCluster) (w : World) : Bool :=
  !decide (cacheFinalizer ∈ pg.metadata.finalizers) ||
    (decide (value (reconcileResourceValidation env (startSession env pg w)) = some .nil) &&
      serving env pg (foundCluster w.cluster pg) &&
      (!hibernationMatches pg (foundCluster w.cluster pg) ||
        hibernationSettled pg (foundCluster w.cluster pg)))

def goodPass (ns name : String) (c : Cluster) : LifecycleEvent → Bool
  | .pass env own =>
    (value (reconcile env ns name ⟨worldOf c, own⟩)).isSome &&
      (lookup .postgresCluster c ns name).any fun pg => helpful env pg (worldOf c)
  | .elsewhere _ => false

theorem helpful_of {env : Env} {w : World} (h : helpful env pg w = true)
    (hFinalizer : cacheFinalizer ∈ pg.metadata.finalizers) : Helpful env pg w := by
  unfold helpful at h
  rw [decide_eq_true hFinalizer, Bool.not_true, Bool.false_or, Bool.and_eq_true,
    Bool.and_eq_true] at h
  obtain ⟨⟨hValid, hServing⟩, hSettled⟩ := h
  refine ⟨of_decide_eq_true hValid, hServing, fun hMatches => ?_⟩
  rw [hMatches, Bool.not_true, Bool.false_or] at hSettled
  exact hSettled

theorem SameLifecycle.advanced (h : SameLifecycle pg c c') : Advanced pg c c' := by
  refine ⟨fun hm => ?_, fun hm => ?_⟩
  · unfold hibernationMatches at hm ⊢
    rwa [h.hibernation]
  · unfold fencingMatches at hm ⊢
    rwa [h.fencing]

section

variable {ns name : String} {pg : PostgresCluster} {c : Cluster}

theorem keptOn_lifecycleStep (hPg : lookup .postgresCluster c ns name = some pg)
    (hKept : pg.metadata.deletionTimestamp = none) {event : LifecycleEvent}
    (hSpec : SpecKept ns name c event) :
    KeptOn pg (lifecycleStep ns name c event) ∧
      Advanced pg c (lifecycleStep ns name c event) := by
  cases event with
  | elsewhere c' => exact ⟨(hSpec pg hPg).1, (hSpec pg hPg).2.advanced⟩
  | pass env own =>
    obtain ⟨rfl, rfl⟩ := key_of_lookup hPg
    exact (advanced_reconcile env (s := ⟨worldOf c, own⟩) hPg hKept).reached rfl

theorem pending_goodPass (hPg : lookup .postgresCluster c ns name = some pg)
    (hKept : pg.metadata.deletionTimestamp = none) {event : LifecycleEvent}
    (hGood : goodPass ns name c event = true) :
    pending ns name (lifecycleStep ns name c event) ≤ pending ns name c - 1 := by
  have hPending := pending_eq hPg
  cases event with
  | elsewhere c' => cases hGood
  | pass env own =>
    have hAdmitted : SpecKept ns name c (.pass env own) := trivial
    obtain ⟨hStep, hAdvanced⟩ := keptOn_lifecycleStep hPg hKept hAdmitted
    unfold goodPass at hGood
    rw [Bool.and_eq_true, hPg, Option.any_some, Option.isSome_iff_exists] at hGood
    obtain ⟨⟨result, hOk⟩, hHelpful⟩ := hGood
    have hRun := eq_ok_of_value hOk
    obtain ⟨rfl, rfl⟩ := key_of_lookup hPg
    -- with the finalizer the chain runs and gains an annotation
    by_cases hFinalizer : cacheFinalizer ∈ pg.metadata.finalizers
    · have hGained := (gained_reconcile env (s := ⟨worldOf c, own⟩) hPg hKept hFinalizer
        (helpful_of hHelpful hFinalizer)).of_ok rfl hRun
      have hLess : mismatches pg (lifecycleStep pg.metadata.ns pg.metadata.name c (.pass env own)) ≤
          mismatches pg c - 1 := hGained.mismatches_le hAdvanced
      have hLe := pending_of_keptOn hStep
      rw [decide_eq_true hFinalizer] at hLe hPending
      rw [hPending]
      refine hLe.trans ?_
      simpa using hLess
    -- without it the pass spends itself on adding it
    · obtain ⟨-, o, hStored, hSpec, hDeletion, hHas⟩ :=
        (triple_reconcile_finalizer env (s := ⟨worldOf c, own⟩) hPg hKept hFinalizer).of_ok rfl hRun
      have hAfter : lookup .postgresCluster (lifecycleStep pg.metadata.ns pg.metadata.name c
          (.pass env own)) pg.metadata.ns pg.metadata.name = some o := hStored
      obtain ⟨hNs, hName⟩ := key_of_lookup hStored
      rw [hPending, pending_eq hAfter, decide_eq_false hFinalizer, decide_eq_true hHas,
        mismatches_congr hNs hName hSpec]
      simpa using hAdvanced.mismatches_le

structure AnnotationsMatch (pg : PostgresCluster) (c : Cluster) : Prop where
  hibernation : hibernationMatches pg (foundCluster c pg) = true
  fencing : fencingMatches pg (foundCluster c pg) = true

theorem annotationsMatch_of_mismatches (h : mismatches pg c = 0) : AnnotationsMatch pg c := by
  unfold mismatches at h
  obtain ⟨hHibernation, hFencing⟩ := Nat.add_eq_zero_iff.mp h
  exact ⟨by simpa using hHibernation, by simpa using hFencing⟩

theorem pending_le_three (c : Cluster) : pending ns name c ≤ 3 := by
  cases hPg : lookup .postgresCluster c ns name with
  | none =>
    unfold pending
    rw [hPg]
    exact Nat.zero_le _
  | some pg =>
    rw [pending_eq hPg]
    exact Nat.add_le_add (Bool.toNat_le _) (Nat.add_le_add (Bool.toNat_le _) (Bool.toNat_le _))

/-- **After three good passes the annotations are as the spec asks for.** The passes may fail
as often as they like in between, and anything else may happen that leaves the spec and the
annotations. -/
theorem annotations_match_after (ns name : String) (pg : PostgresCluster) (c : Cluster)
    (events : List LifecycleEvent) (hPg : lookup .postgresCluster c ns name = some pg)
    (hKept : pg.metadata.deletionTimestamp = none)
    (hSpec : Runs.Admitted (lifecycleStep ns name) (SpecKept ns name) c events)
    (hPasses : 3 ≤ Runs.countMarked (lifecycleStep ns name) (goodPass ns name) c events) :
    AnnotationsMatch pg (Runs.run (lifecycleStep ns name) c events) := by
  obtain ⟨hNs, hName⟩ := key_of_lookup hPg
  -- the object stays with its spec, so the count is of the same two annotations
  let kept : Cluster → Prop := fun c => ∃ o, lookup .postgresCluster c ns name = some o ∧
    o.spec = pg.spec ∧ o.metadata.deletionTimestamp = none
  have hStep : ∀ c event, SpecKept ns name c event → kept c →
      kept (lifecycleStep ns name c event) ∧ pending ns name (lifecycleStep ns name c event) ≤
        pending ns name c - (goodPass ns name c event).toNat := by
    rintro c event hAdmitted ⟨o, hStored, hSame, hLives⟩
    obtain ⟨hStays, hAdvanced⟩ := keptOn_lifecycleStep hStored hLives hAdmitted
    obtain ⟨rfl, rfl⟩ := key_of_lookup hStored
    refine ⟨?_, ?_⟩
    · obtain ⟨o', hStored', hSpec', hLives', -⟩ := hStays.stored
      exact ⟨o', hStored', hSpec'.trans hSame, hLives'⟩
    -- a good pass lowers the count, any other event does not raise it
    · cases hGood : goodPass o.metadata.ns o.metadata.name c event with
      | true => exact pending_goodPass hStored hLives hGood
      | false =>
        rw [pending_eq hStored]
        exact (pending_of_keptOn hStays).trans (Nat.add_le_add_left hAdvanced.mismatches_le _)
  -- at most three writes are to come, and there were three good passes
  obtain ⟨⟨o, hStored, hSame, -⟩, hRank⟩ := Runs.run_rank hStep hSpec ⟨pg, hPg, rfl, hKept⟩
  have hZero : pending ns name (Runs.run (lifecycleStep ns name) c events) = 0 :=
    Nat.le_zero.mp (hRank.trans (Nat.sub_le_of_le_add
      ((pending_le_three c).trans (hPasses.trans (Nat.le_add_left _ _)))))
  obtain ⟨hNs', hName'⟩ := key_of_lookup hStored
  rw [pending_eq hStored, mismatches_congr (hNs'.trans hNs.symm) (hName'.trans hName.symm) hSame]
    at hZero
  exact annotationsMatch_of_mismatches (Nat.add_eq_zero_iff.mp hZero).2

end

/-! ## A cluster that cannot be resumed, and one that can -/

def operatorCluster (ready hibernation : ConditionStatus) (annotations : StringMap) :
    CnpgCluster where
  metadata := { name := cnpgClusterName shopCluster, ns := "team", annotations := annotations }
  spec := {}
  status :=
    { conditions :=
        [{ type := .ready, status := ready, observedGeneration := 0, reason := "", message := "" },
         { type := .hibernation, status := hibernation, observedGeneration := 0
           reason := "", message := "" }] }

def withOperatorCluster (pg : PostgresCluster) (cluster : CnpgCluster) : Cluster :=
  { settled { postgresClusters := [pg] } pg with cnpgClusters := [cluster] }

def quietPass : LifecycleEvent := .pass calmEnv shopCluster

/-- The cluster is hibernated, and so not ready; the spec no longer asks for it. -/
def hibernated : Cluster :=
  lifecycleStep "team" "shop" (withOperatorCluster shopCluster
    (operatorCluster .conditionFalse .conditionTrue [(hibernationKey, hibernationOn)])) quietPass

theorem hibernated_fixed : lifecycleStep "team" "shop" hibernated quietPass = hibernated := rfl

/-- The configuration is valid and every pass succeeds, but none of them writes the annotation:
the chain ends before the lifecycle step, waiting for a Cluster that is not ready while
hibernated. -/
theorem hibernated_never_resumes :
    ((lookup .postgresCluster hibernated "team" "shop").map fun pg =>
        value (reconcileResourceValidation calmEnv
          (startSession calmEnv pg (worldOf hibernated)))) = some (some .nil) ∧
      ∀ n, value (reconcile calmEnv "team" "shop" ⟨worldOf (Runs.run
          (lifecycleStep "team" "shop") hibernated (List.replicate n quietPass)),
          shopCluster⟩) = some {} ∧
        ¬ AnnotationsMatch shopCluster (Runs.run (lifecycleStep "team" "shop") hibernated
          (List.replicate n quietPass)) := by
  refine ⟨by decide +kernel, fun n => ?_⟩
  rw [Runs.run_replicate hibernated_fixed]
  refine ⟨by decide +kernel, fun h => ?_⟩
  have hNot : hibernationMatches shopCluster (foundCluster hibernated shopCluster) = false := by
    decide +kernel
  exact Bool.false_ne_true (hNot.symm.trans h.hibernation)

def newShop : PostgresCluster :=
  { shopCluster with
    metadata.finalizers := []
    status := validatedStatus shopCluster }

def awake : Cluster :=
  withOperatorCluster newShop (operatorCluster .conditionTrue .conditionFalse
    [(hibernationKey, hibernationOn), (fencedInstancesKey, clusterFencedValue)])

theorem annotations_match_awake :
    AnnotationsMatch newShop
      (Runs.run (lifecycleStep "team" "shop") awake [quietPass, quietPass, quietPass]) :=
  annotations_match_after "team" "shop" newShop awake _ rfl rfl
    ⟨trivial, trivial, trivial, trivial⟩ (by decide +kernel)

end ClusterAgent.PostgresController
