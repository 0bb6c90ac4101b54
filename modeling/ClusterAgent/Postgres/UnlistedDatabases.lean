import ClusterAgent.Postgres.DatabasePass

/-!
# Cluster agent — Databases that are no longer listed

A Database whose entry was taken out of the spec is to be dropped. The removal loop
returns at the first one whose drop is under way, and it does not run at all once the
list is empty; what comes later in the list then stays as it is.

* `unlisted_marked_iff` — when one successful pass marks all of them.
-/

namespace ClusterAgent.PostgresController

open Pass Effect ObjectPass

def Marked (d : Database) : Prop :=
  d.spec.ensure = .absent ∨ d.metadata.deletionTimestamp.isSome

instance (d : Database) : Decidable (Marked d) := inferInstanceAs (Decidable (_ ∨ _))

structure Unlisted (pg : PostgresCluster) (d : Database) : Prop where
  created : isControlledBy d.metadata pg.metadata = true
  name : d.name ∉ desiredNames pg
  database : d.spec.name ≠ defaultDatabaseName

instance (pg : PostgresCluster) (d : Database) : Decidable (Unlisted pg d) :=
  decidable_of_iff (isControlledBy d.metadata pg.metadata = true ∧ d.name ∉ desiredNames pg ∧
    d.spec.name ≠ defaultDatabaseName)
    ⟨fun h => ⟨h.1, h.2.1, h.2.2⟩, fun h => ⟨h.created, h.name, h.database⟩⟩

/-- **What is no longer listed is marked** by one successful pass, if and only if each of them
was marked before, or the state before the pass leads it to the database step, the list is
not empty and the removal loop gets to it. -/
theorem unlisted_marked_iff (env : Env) (hHonest : Honest env) (ns name : String)
    (pg : PostgresCluster) (s : Session PostgresCluster) (result : ReconcileResult)
    (hPg : lookup .postgresCluster s.world.cluster ns name = some pg)
    (hUnique : Unique .database s.world.cluster)
    (hOk : value (reconcile env ns name s) = some result) :
    (∀ d ∈ s.world.cluster.databases, Unlisted pg d →
      ∀ e, lookup .database (finalState (reconcile env ns name s)).world.cluster
        d.metadata.ns d.metadata.name = some e → Marked e) ↔
      ∀ d ∈ s.world.cluster.databases, Unlisted pg d →
        Marked d ∨ LeadsToDatabases env pg s ∧ pg.spec.databases ≠ [] ∧
          d ∈ condemned pg s.world.cluster.databases := by
  rw [← comesToDatabases_iff hPg hOk]
  -- what the loop does not get to is as it was, and the rest is marked
  have hKept : ∀ d ∈ s.world.cluster.databases,
      ¬ ((∃ s', ComesToDatabases env ns name pg s s') ∧ pg.spec.databases ≠ [] ∧
        d ∈ condemned pg s.world.cluster.databases) →
      lookup .database (finalState (reconcile env ns name s)).world.cluster
        d.metadata.ns d.metadata.name = some d := by
    intro d hd hNot
    by_cases hComes : ∃ s', ComesToDatabases env ns name pg s s'
    · obtain ⟨s', hPass⟩ := hComes
      obtain ⟨r, s4, hStep⟩ := hPass.step_ok hOk
      obtain ⟨hBefore, -⟩ := hPass.before
      have hStored := (kept_reconcileDatabases (hBefore.unique hUnique)
        (hBefore.databases ▸ hd) fun hSome => hBefore.condemned ▸ fun hCondemned =>
          hNot ⟨⟨s', hPass⟩, hBefore.spec ▸ hSome, hCondemned⟩).of_ok rfl hStep
      exact (congrArg (List.find? _) (hPass.final hStep)).trans hStored
    · exact (congrArg (List.find? _) (keeps_of_not_comes hPg hComes)).trans (hUnique d hd)
  constructor
  · intro hMarked d hd hUnlisted
    by_cases hGets : (∃ s', ComesToDatabases env ns name pg s s') ∧ pg.spec.databases ≠ [] ∧
        d ∈ condemned pg s.world.cluster.databases
    · exact Or.inr hGets
    · exact Or.inl (hMarked d hd hUnlisted d (hKept d hd hGets))
  · intro hGets d hd hUnlisted e he
    by_cases hGot : (∃ s', ComesToDatabases env ns name pg s s') ∧ pg.spec.databases ≠ [] ∧
        d ∈ condemned pg s.world.cluster.databases
    · obtain ⟨⟨s', hPass⟩, hSome, hCondemned⟩ := hGot
      obtain ⟨r, s4, hStep⟩ := hPass.step_ok hOk
      obtain ⟨hBefore, hReady, -⟩ := hPass.before
      have hMark := (condemned_reconcileDatabases hHonest (hBefore.unique hUnique) hReady
        (hBefore.spec ▸ hSome) (hBefore.condemned ▸ hCondemned)).of_ok rfl hStep
      exact Or.inl (hMark e ((congrArg (List.find? _) (hPass.final hStep)).symm.trans he)).1
    · rw [Option.some.inj (he.symm.trans (hKept d hd hGot))]
      exact (hGets d hd hUnlisted).resolve_right hGot

/-- A Database whose drop is under way comes before one that was just taken out of the
list. -/
def droppedAndStale : Cluster :=
  settled
    { postgresClusters := [shopCluster]
      databases :=
        [{ teamDatabase shopCluster "carts" with
           spec := { (teamDatabase shopCluster "carts").spec with ensure := .absent }
           status := {} },
         teamDatabase shopCluster "stale", teamDatabase shopCluster "orders"] }
    shopCluster

def staleSession : Session PostgresCluster := ⟨worldOf droppedAndStale, shopCluster⟩

def emptiedShop : PostgresCluster := { shopCluster with spec.databases := [] }

def emptiedList : Cluster :=
  settled
    { postgresClusters := [emptiedShop]
      databases := [teamDatabase shopCluster "orders"] }
    emptiedShop

def emptiedSession : Session PostgresCluster := ⟨worldOf emptiedList, emptiedShop⟩

/-- The second one is not asked to go, as the loop waits for the removal of the first, and with an
empty list none is. -/
theorem unlisted_database_left :
    Unlisted shopCluster (teamDatabase shopCluster "stale") ∧
      value (reconcile calmEnv "team" "shop" staleSession) = some {} ∧
      ((lookup .database (finalState (reconcile calmEnv "team" "shop" staleSession)).world.cluster
        "team" "stale").map fun d => decide (Marked d)) = some false ∧
      Unlisted emptiedShop (teamDatabase shopCluster "orders") ∧
      value (reconcile calmEnv "team" "shop" emptiedSession) = some {} ∧
      ((lookup .database
        (finalState (reconcile calmEnv "team" "shop" emptiedSession)).world.cluster
        "team" "orders").map fun d => decide (Marked d)) = some false := by
  decide +kernel

def validatedShop : PostgresCluster := { shopCluster with status := validatedStatus shopCluster }

theorem unlisted_marked_staleSession :
    ¬ ∀ d ∈ staleSession.world.cluster.databases, Unlisted validatedShop d →
      ∀ e, lookup .database (finalState (reconcile calmEnv "team" "shop"
        staleSession)).world.cluster d.metadata.ns d.metadata.name = some e → Marked e := by
  have hUnique : Unique .database staleSession.world.cluster := by
    unfold Pass.Unique
    decide +kernel
  have hNot : ¬ Marked (teamDatabase shopCluster "stale") := by decide +kernel
  have hBeyond : teamDatabase shopCluster "stale" ∉
      condemned validatedShop staleSession.world.cluster.databases := by decide +kernel
  rw [unlisted_marked_iff calmEnv (Reliable.honest fun _ => rfl) "team" "shop"
    validatedShop staleSession {} (by decide +kernel) hUnique (by decide +kernel)]
  intro hGets
  have hStale := hGets (teamDatabase shopCluster "stale") (by decide +kernel) (by decide +kernel)
  exact hBeyond (hStale.resolve_left hNot).2.2

end ClusterAgent.PostgresController
