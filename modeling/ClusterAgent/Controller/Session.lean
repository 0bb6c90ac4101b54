import ClusterAgent.Controller.Footprint

/-!
# Cluster agent — passes of the other controllers

The agent's other controllers talk to the same API server, each with an in-memory
object of its own kind and perhaps a service outside the cluster. A `Session` is
the world with that; a step on the API server is a step of the session that
leaves it alone.
-/

namespace ClusterAgent

open Effect

/-- The world of a pass, with what the controller has besides it: its in-memory object, and for
the builds the registry. -/
structure Session (M : Type) where
  world : World
  own : M

abbrev PassOver (M : Type) := EStateM GoError (Session M)

namespace Session

variable {M α : Type}

def onCluster (m : Pass α) : PassOver M α := fun s =>
  match m s.world with
  | .ok a w => .ok a { s with world := w }
  | .error e w => .error e { s with world := w }

def getOwn : PassOver M M := do return (← get).own

def modifyOwn (f : M → M) : PassOver M Unit := modify fun s => { s with own := f s.own }

theorem onCluster_pure (a : α) : (onCluster (pure a) : PassOver M α) = pure a := rfl

section

variable {P E : World → Prop} {Q : α → World → Prop} {m : Pass α}

theorem triple_onCluster (h : Triple P m Q E) (own : M) :
    Triple (fun s => P s.world ∧ s.own = own) (onCluster m)
      (fun a s => Q a s.world ∧ s.own = own) fun s => E s.world ∧ s.own = own := by
  rintro s ⟨hs, rfl⟩
  have hm := h s.world hs
  unfold onCluster
  cases hr : m s.world with
  | ok a w =>
    rw [hr] at hm
    exact ⟨hm, rfl⟩
  | error e w =>
    rw [hr] at hm
    exact ⟨hm, rfl⟩

theorem onCluster_spec {w : World} (h : Triple (· = w) m Q E) (own : M) :
    Triple (· = ⟨w, own⟩) (onCluster m) (fun a s => Q a s.world ∧ s.own = own)
      fun s => E s.world ∧ s.own = own := by
  rintro _ rfl
  exact triple_onCluster h own _ ⟨rfl, rfl⟩

theorem keeps_onCluster (m : Pass α) {I : M → Prop} :
    Ensures (fun s => I s.own) (onCluster m) (fun s => I s.own) := by
  intro s hs
  unfold onCluster
  cases m s.world with
  | ok a w => exact hs
  | error e w => exact hs

theorem within_onCluster {R : World → World → Prop} (h : Within R m) :
    Within (fun s s' : Session M => R s.world s'.world ∧ s'.own = s.own) (onCluster m) := by
  intro s
  have hs := h s.world
  unfold onCluster
  cases hr : m s.world with
  | ok a w =>
    rw [hr] at hs
    exact ⟨hs, rfl⟩
  | error e w =>
    rw [hr] at hs
    exact ⟨hs, rfl⟩

end

end Session

end ClusterAgent
