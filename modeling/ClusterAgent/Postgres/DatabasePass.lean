import ClusterAgent.Postgres.DatabaseFrame

/-!
# Cluster agent — passes that come to the database step

The database step runs once the operator's Cluster is ready and both annotations are
settled. `ComesToDatabases` says that a pass gets there; what follows the step writes
no Database, so that the Databases at the end of the pass are those the step leaves.
Of a pass that succeeds, the state before it tells whether it gets there
(`comesToDatabases_iff`).
-/

namespace ClusterAgent.PostgresController

open Pass Effect Session ObjectPass

structure ComesToDatabases (env : Env) (ns name : String) (pg : PostgresCluster)
    (s s' : Session PostgresCluster) : Prop where
  found : lookup .postgresCluster s.world.cluster ns name = some pg
  fetched : env.fault s.world.calls = none
  kept : pg.metadata.deletionTimestamp = none
  finalizer : cacheFinalizer ∈ pg.metadata.finalizers
  steps : ∃ s₁ s₂,
    reconcileResourceValidation env (startSession env pg s.world) = .ok .nil s₁ ∧
      reconcilePgCluster env s₁ = .ok .nil s₂ ∧ reconcileClusterLifecycle env s₂ = .ok .nil s'

section

variable {env : Env} {ns name : String} {pg : PostgresCluster} {s s' : Session PostgresCluster}

theorem runChain_cons_nil {M : Type} {step : PassOver M StepResult}
    {rest : List (PassOver M StepResult)} {s s' : Session M} (h : step s = .ok .nil s') :
    runChain (step :: rest) s = runChain rest s' :=
  bind_of_ok h

theorem bind_congr_at {M α β : Type} {m m' : PassOver M α} {f : α → PassOver M β}
    {s s' : Session M} (h : m s = m' s') : (m >>= f) s = (m' >>= f) s' := by
  cases hm : m s with
  | ok a s1 => rw [bind_of_ok hm, bind_of_ok (h ▸ hm)]
  | error e s1 => rw [bind_of_error hm, bind_of_error (h ▸ hm)]

def databasesSession (env : Env) (pg : PostgresCluster) (w : World) : Session PostgresCluster :=
  finalState (reconcileClusterLifecycle env (finalState (reconcilePgCluster env
    (finalState (reconcileResourceValidation env (startSession env pg w))))))

theorem ComesToDatabases.of_values
    (hFound : lookup .postgresCluster s.world.cluster ns name = some pg)
    (hFetched : env.fault s.world.calls = none) (hKept : pg.metadata.deletionTimestamp = none)
    (hFinalizer : cacheFinalizer ∈ pg.metadata.finalizers)
    (hValidation : value (reconcileResourceValidation env (startSession env pg s.world)) =
      some .nil)
    (hPgCluster : value (reconcilePgCluster env
      (finalState (reconcileResourceValidation env (startSession env pg s.world)))) = some .nil)
    (hLifecycle : value (reconcileClusterLifecycle env (finalState (reconcilePgCluster env
      (finalState (reconcileResourceValidation env (startSession env pg s.world)))))) = some .nil) :
    ComesToDatabases env ns name pg s (databasesSession env pg s.world) :=
  ⟨hFound, hFetched, hKept, hFinalizer, _, _, eq_ok_of_value hValidation,
    eq_ok_of_value hPgCluster, eq_ok_of_value hLifecycle⟩

theorem reconcile_eq_chain (hFound : lookup .postgresCluster s.world.cluster ns name = some pg)
    (hFetched : env.fault s.world.calls = none) (hKept : pg.metadata.deletionTimestamp = none)
    (hFinalizer : cacheFinalizer ∈ pg.metadata.finalizers) :
    reconcile env ns name s = (do
      let result ← runChain (subReconcilers env)
      let resource ← getOwn
      if resource.status ≠ pg.status then
        onCluster (storeStatus env .postgresCluster storedStatus resource)
      return result : PostgresPass ReconcileResult) (startSession env pg s.world) := by
  have hGet := onCluster_of_ok (getObject_eq_ok hFetched .postgresCluster ns name)
  rw [hFound] at hGet
  refine (bind_of_ok hGet).trans ?_
  refine (bind_of_ok (m := modifyOwn _) rfl).trans ?_
  rw [if_neg (not_ne_iff.mpr hKept), if_neg (not_not.mpr hFinalizer)]
  exact bind_of_ok (m := modifyOwn _) rfl

theorem ComesToDatabases.reconcile_eq (h : ComesToDatabases env ns name pg s s') :
    reconcile env ns name s = (do
      let result ← runChain [reconcileDatabases env, reconcileBackups env]
      let resource ← getOwn
      if resource.status ≠ pg.status then
        onCluster (storeStatus env .postgresCluster storedStatus resource)
      return result : PostgresPass ReconcileResult) s' := by
  obtain ⟨s1, s2, hValidation, hPgCluster, hLifecycle⟩ := h.steps
  have hChain : runChain (subReconcilers env) (startSession env pg s.world) =
      runChain [reconcileDatabases env, reconcileBackups env] s' := by
    unfold subReconcilers
    rw [runChain_cons_nil hValidation, runChain_cons_nil hPgCluster, runChain_cons_nil hLifecycle]
  rw [reconcile_eq_chain h.found h.fetched h.kept h.finalizer]
  exact bind_congr_at hChain

theorem ComesToDatabases.final (h : ComesToDatabases env ns name pg s s') {r : StepResult}
    {s4 : Session PostgresCluster} (hStep : reconcileDatabases env s' = .ok r s4) :
    (finalState (reconcile env ns name s)).world.cluster.databases =
      s4.world.cluster.databases := by
  rw [h.reconcile_eq]
  have hBackup : ObjectKind.database ∉ [ObjectKind.scheduledBackup, .backup] := by decide
  have hChain : Ensures (· = s') (runChain [reconcileDatabases env, reconcileBackups env])
    (fun s => s.world.cluster.databases = s4.world.cluster.databases) := by
    refine triple_runChain_keep ?_ (triple_runChain_keep (keeps_databases
      (I := (· = s4.world.cluster.databases)) alters_reconcileBackups hBackup) ?_)
    · rintro _ rfl
      rw [hStep]
    · exact Triple.skip
  refine (Triple.bind hChain fun result => Triple.of_each fun s5 hs5 =>
    bind_getOwn ?_).reached rfl
  have hStore : Has { objects := [.postgresCluster] }
      (storeStatus env .postgresCluster storedStatus s5.own) :=
    has_storeStatus List.mem_cons_self
  split
  · exact Triple.bind ((keeps_databases (I := (· = s4.world.cluster.databases))
      (alters_onCluster hStore) (by decide)).start hs5) fun _ =>
        Triple.skip
  · exact .ret hs5

theorem ComesToDatabases.step_ok (h : ComesToDatabases env ns name pg s s')
    {result : ReconcileResult} (hOk : value (reconcile env ns name s) = some result) :
    ∃ r s4, reconcileDatabases env s' = .ok r s4 := by
  rw [h.reconcile_eq] at hOk
  obtain ⟨r1, s1, hChain, -⟩ := bind_ok (eq_ok_of_value hOk)
  obtain ⟨r, s4, hStep, -⟩ := bind_ok hChain
  exact ⟨r, s4, hStep⟩

theorem ComesToDatabases.before (h : ComesToDatabases env ns name pg s s') :
    Before pg s.world.cluster.databases s' ∧ clusterReadyNow s'.own = true ∧
      s'.own.status.outputs.isSome := by
  obtain ⟨s1, s2, hValidation, hPgCluster, hLifecycle⟩ := h.steps
  have hNone : ObjectKind.database ∉ ([] : List ObjectKind) := List.not_mem_nil
  have hCnpg : ObjectKind.database ∉ [ObjectKind.cnpgCluster] := by decide
  have hStart : Before pg s.world.cluster.databases (startSession env pg s.world) :=
    ⟨rfl, rfl, rfl⟩
  have h1 := hStart.alters (alters_reconcileResourceValidation.ok hValidation) hNone
  have hDone := (reconcilePgCluster_spec env s1).of_ok rfl hPgCluster
  have h2 := h1.alters hDone.alters hCnpg
  have hServes := hDone.serves rfl
  obtain ⟨cluster, hCluster, -⟩ := hDone.cluster
  rw [← ownCluster_congr _ hDone.alters.metadata hDone.alters.spec] at hCluster
  have hReadiness := ((reconcileClusterLifecycle_spec env hCluster).of_ok rfl hLifecycle).readiness
  refine ⟨h2.alters (alters_reconcileClusterLifecycle.ok hLifecycle) hCnpg,
    hReadiness.ready.trans hServes.ready, ?_⟩
  rw [hReadiness.outputs]
  exact hServes.outputs

theorem keeps_of_not_comes (hPg : lookup .postgresCluster s.world.cluster ns name = some pg)
    (hNot : ¬ ∃ s', ComesToDatabases env ns name pg s s') :
    (finalState (reconcile env ns name s)).world.cluster.databases =
      s.world.cluster.databases := by
  have hNone : ObjectKind.database ∉ ([] : List ObjectKind) := List.not_mem_nil
  have hCnpg : ObjectKind.database ∉ [ObjectKind.cnpgCluster] := by decide
  let start := startSession env pg s.world
  let same := Before pg s.world.cluster.databases
  -- a step that goes on is one of those that lead to the database step
  have hStep : ∀ {kinds : List ObjectKind} {m : PostgresPass StepResult},
      Within (Alters kinds) m → .database ∉ kinds → ∀ s1, same s1 →
      Triple (· = s1) m (fun r s2 => if r = .nil then m s1 = .ok .nil s2 ∧ same s2 else same s2)
        same := by
    intro kinds m hm hKinds s1 hs1
    refine ((Triple.runs s1).and ((before_step hm hKinds).start hs1)).conseq (fun r s2 h => ?_)
      fun _ h => h.2
    split
    · next hNil => exact ⟨hNil ▸ h.1, h.2⟩
    · exact h.2
  refine (triple_reconcile (I := (· = s.world.cluster.databases)) env hPg rfl
    fun hFetched hKept hFinalizer => ?_).reached rfl
  refine Triple.mono (Q := fun _ => same) (E := same) ?_ (fun _ h => h)
    (fun _ _ h => h.databases) fun _ h => h.databases
  refine triple_runChain_cons
    (hStep alters_reconcileResourceValidation hNone start ⟨rfl, rfl, rfl⟩) ?_
  refine triple_runChain_cons (R := fun s2 => ∃ s1,
    reconcileResourceValidation env start = .ok .nil s1 ∧
      reconcilePgCluster env s1 = .ok .nil s2 ∧ same s2) ?_ ?_
  · refine Triple.of_each fun s1 hs1 => ?_
    refine (hStep alters_reconcilePgCluster hCnpg s1 hs1.2).post fun r s2 hs2 => ?_
    split
    · next hNil =>
      rw [if_pos hNil] at hs2
      exact ⟨s1, hs1.1, hs2⟩
    · next hNil => rwa [if_neg hNil] at hs2
  refine triple_runChain_cons (R := fun _ => False) ?_ fun _ h => h.elim
  refine Triple.of_each fun s2 ⟨s1, hValidation, hPgCluster, hs2⟩ => ?_
  refine (hStep alters_reconcileClusterLifecycle hCnpg s2 hs2).post fun r s3 hs3 => ?_
  split
  · next hNil =>
    rw [if_pos hNil] at hs3
    exact hNot ⟨s3, hPg, hFetched, hKept, hFinalizer, s1, s2, hValidation, hPgCluster, hs3.1⟩
  · next hNil => rwa [if_neg hNil] at hs3

/-! ## The state before the pass -/

/-- What leads a pass to the database step, in the state before it: the object is neither
being deleted nor new, the checks find nothing wrong, and the operator's Cluster fits the
spec, is ready and has both annotations as the spec asks. -/
structure LeadsToDatabases (env : Env) (pg : PostgresCluster) (s : Session PostgresCluster) :
    Prop where
  kept : pg.metadata.deletionTimestamp = none
  finalizer : cacheFinalizer ∈ pg.metadata.finalizers
  valid : value (reconcileResourceValidation env (startSession env pg s.world)) = some .nil
  serving : serving env pg (foundCluster s.world.cluster pg) = true
  lifecycle : lifecycleResult pg (foundCluster s.world.cluster pg) = .nil

section

variable {s₁ s₂ s₃ : Session PostgresCluster} {r : StepResult}

theorem spec_validated
    (h : reconcileResourceValidation env (startSession env pg s.world) = .ok .nil s₁) :
    s₁.own.spec = pg.spec :=
  have hAlters : Alters [] _ _ := alters_reconcileResourceValidation.ok h
  hAlters.spec

theorem foundCluster_validated
    (h : reconcileResourceValidation env (startSession env pg s.world) = .ok .nil s₁) :
    foundCluster s₁.world.cluster s₁.own = foundCluster s.world.cluster pg := by
  have hAlters : Alters [] _ _ := alters_reconcileResourceValidation.ok h
  rw [foundCluster_congr _ hAlters.metadata hAlters.spec]
  exact foundCluster_alters hAlters List.not_mem_nil pg

theorem pgCluster_result
    (hValidation : reconcileResourceValidation env (startSession env pg s.world) = .ok .nil s₁)
    (hPgCluster : reconcilePgCluster env s₁ = .ok r s₂) :
    r = if PostgresController.serving env pg (foundCluster s.world.cluster pg) then .nil
      else .stop := by
  have h := ((reconcilePgCluster_spec env s₁).of_ok rfl hPgCluster).result
  rwa [foundCluster_validated hValidation,
    serving_congr_own env (spec_validated hValidation)] at h

/-- The third step goes on exactly if the Cluster the pass found has both annotations as the
spec asks, and what they ask for is done. -/
theorem lifecycle_result
    (hValidation : reconcileResourceValidation env (startSession env pg s.world) = .ok .nil s₁)
    (hPgCluster : reconcilePgCluster env s₁ = .ok .nil s₂)
    (hLifecycle : reconcileClusterLifecycle env s₂ = .ok r s₃) :
    r = lifecycleResult pg (foundCluster s.world.cluster pg) := by
  have hDone := (reconcilePgCluster_spec env s₁).of_ok rfl hPgCluster
  obtain ⟨cluster, hCluster, hMarks⟩ := hDone.cluster
  rw [← ownCluster_congr _ hDone.alters.metadata hDone.alters.spec] at hCluster
  have h := ((reconcileClusterLifecycle_spec env hCluster).of_ok rfl hLifecycle).result
  -- the second step leaves the annotations and the status of what it found
  rwa [lifecycleResult_congr_own (hDone.alters.spec.trans (spec_validated hValidation)),
    lifecycleResult_congr hMarks.annotations hMarks.status,
    foundCluster_validated hValidation] at h

end

/-- **A pass that succeeds comes to the database step** if and only if the state before it
leads there. -/
theorem comesToDatabases_iff {result : ReconcileResult}
    (hPg : lookup .postgresCluster s.world.cluster ns name = some pg)
    (hOk : value (reconcile env ns name s) = some result) :
    (∃ s', ComesToDatabases env ns name pg s s') ↔ LeadsToDatabases env pg s := by
  constructor
  · rintro ⟨s₃, hComes⟩
    obtain ⟨s₁, s₂, hValidation, hPgCluster, hLifecycle⟩ := hComes.steps
    have hServing := pgCluster_result hValidation hPgCluster
    refine ⟨hComes.kept, hComes.finalizer, by rw [hValidation]; rfl, ?_,
      (lifecycle_result hValidation hPgCluster hLifecycle).symm⟩
    by_contra hNot
    rw [if_neg hNot] at hServing
    cases hServing
  · intro h
    have hFetched : env.fault s.world.calls = none := by
      obtain ⟨found, s₁, hGet, -⟩ := bind_ok (eq_ok_of_value hOk)
      refine Option.eq_none_iff_forall_not_mem.mpr fun e hFault => ?_
      rw [onCluster_of_error (getObject_eq_error hFault .postgresCluster ns name)] at hGet
      cases hGet
    rw [reconcile_eq_chain hPg hFetched h.kept h.finalizer] at hOk
    -- each step succeeds, as the pass does, and the state before it says that it goes on
    have hValidation := eq_ok_of_value h.valid
    obtain ⟨result, s₅, hChain, -⟩ := bind_ok (eq_ok_of_value hOk)
    unfold subReconcilers at hChain
    rw [runChain_cons_nil hValidation] at hChain
    obtain ⟨r, s₂, hPgCluster, -⟩ := bind_ok hChain
    obtain rfl := (pgCluster_result hValidation hPgCluster).trans (if_pos h.serving)
    rw [runChain_cons_nil hPgCluster] at hChain
    obtain ⟨r, s₃, hLifecycle, -⟩ := bind_ok hChain
    obtain rfl := (lifecycle_result hValidation hPgCluster hLifecycle).trans h.lifecycle
    exact ⟨s₃, hPg, hFetched, h.kept, h.finalizer, _, s₂, hValidation, hPgCluster, hLifecycle⟩

end

end ClusterAgent.PostgresController
