import Mathlib.Data.List.Basic
import Mathlib.Order.Monotone.Basic
import Mathlib.Order.WellFounded

/-!
# Runs of a step function

A system that is driven from outside is a step function: a state and an input
give the next state. A run is the fold of the step over a list of inputs. The
rules here turn what one step preserves into what every run preserves; they
depend on nothing but the step function.
-/

namespace Runs

variable {σ ι : Type} {step : σ → ι → σ} {A : σ → ι → Prop} {I : σ → Prop} {inputs : List ι} {s : σ}

def run (step : σ → ι → σ) (s : σ) (inputs : List ι) : σ := inputs.foldl step s

@[simp] theorem run_nil (s : σ) : run step s [] = s := rfl

@[simp] theorem run_cons (s : σ) (i : ι) (rest : List ι) :
    run step s (i :: rest) = run step (step s i) rest := rfl

theorem run_append (s : σ) (front back : List ι) :
    run step s (front ++ back) = run step (run step s front) back :=
  List.foldl_append

/-- What every admitted step preserves, every run of admitted steps preserves. -/
theorem run_preserves {A : ι → Prop} (hStep : ∀ s i, A i → I s → I (step s i))
    (hAll : ∀ i ∈ inputs, A i) (hs : I s) : I (run step s inputs) := by
  induction inputs generalizing s with
  | nil => exact hs
  | cons i rest ih =>
    have hi : A i := hAll i List.mem_cons_self
    exact ih (fun j hj => hAll j (List.mem_cons_of_mem _ hj)) (hStep s i hi hs)

/-- Every step of the run meets `A` in the state it is taken in. -/
def Admitted (step : σ → ι → σ) (A : σ → ι → Prop) : σ → List ι → Prop
  | _, [] => True
  | s, i :: rest => A s i ∧ Admitted step A (step s i) rest

instance decidableAdmitted {A : σ → ι → Prop} [∀ s i, Decidable (A s i)] :
    ∀ (s : σ) (inputs : List ι), Decidable (Admitted step A s inputs)
  | _, [] => instDecidableTrue
  | s, i :: rest =>
    have : Decidable (Admitted step A (step s i) rest) := decidableAdmitted (step s i) rest
    inferInstanceAs (Decidable (_ ∧ _))

theorem admitted_and {A B : σ → ι → Prop}
    (hA : Admitted step A s inputs) (hB : Admitted step B s inputs) :
    Admitted step (fun s i => A s i ∧ B s i) s inputs := by
  induction inputs generalizing s with
  | nil => trivial
  | cons i rest ih => exact ⟨⟨hA.1, hB.1⟩, ih hA.2 hB.2⟩

theorem admitted_of_forall {A : ι → Prop}
    (hAll : ∀ i ∈ inputs, A i) : Admitted step (fun _ i => A i) s inputs := by
  induction inputs generalizing s with
  | nil => trivial
  | cons i rest ih =>
    exact ⟨hAll i List.mem_cons_self, ih fun j hj => hAll j (List.mem_cons_of_mem _ hj)⟩

theorem admitted_append {front back : List ι} (h : Admitted step A s (front ++ back)) :
    Admitted step A s front ∧ Admitted step A (run step s front) back := by
  induction front generalizing s with
  | nil => exact ⟨trivial, h⟩
  | cons i rest ih =>
    obtain ⟨hFront, hBack⟩ := ih h.2
    exact ⟨⟨h.1, hFront⟩, hBack⟩

theorem run_admitted (hStep : ∀ s i, A s i → I s → I (step s i))
    (hAll : Admitted step A s inputs) (hs : I s) : I (run step s inputs) := by
  induction inputs generalizing s with
  | nil => exact hs
  | cons i rest ih => exact ih hAll.2 (hStep s i hAll.1 hs)

/-- What an admitted step preserves and shows in its state, every admitted run shows at each
of its steps. -/
theorem admitted_of_invariant {A B : σ → ι → Prop}
    (hStep : ∀ s i, A s i → I s → I (step s i) ∧ B s i)
    (hAll : Admitted step A s inputs) (hs : I s) : Admitted step B s inputs := by
  induction inputs generalizing s with
  | nil => trivial
  | cons i rest ih =>
    obtain ⟨hNext, hShown⟩ := hStep s i hAll.1 hs
    exact ⟨hShown, ih hAll.2 hNext⟩

theorem run_invariant (hStep : ∀ s i, I s → I (step s i)) (hs : I s)
    (inputs : List ι) : I (run step s inputs) :=
  run_preserves (A := fun _ => True) (fun s i _ => hStep s i) (fun _ _ => trivial) hs

theorem run_replicate {i : ι} (h : step s i = s) (n : Nat) :
    run step s (List.replicate n i) = s := by
  induction n with
  | zero => rfl
  | succ n ih =>
    rw [List.replicate_succ, run_cons, h]
    exact ih

/-- How many steps of the run are marked in the state they are taken in. -/
def countMarked (step : σ → ι → σ) (mark : σ → ι → Bool) : σ → List ι → Nat
  | _, [] => 0
  | s, i :: rest => (mark s i).toNat + countMarked step mark (step s i) rest

/-- **Progress.** A rank that no step raises and that every marked step lowers is zero after as
many marked steps. -/
theorem run_rank {mark : σ → ι → Bool} {rank : σ → Nat}
    (hStep : ∀ s i, A s i → I s → I (step s i) ∧ rank (step s i) ≤ rank s - (mark s i).toNat)
    (hAll : Admitted step A s inputs) (hs : I s) :
    I (run step s inputs) ∧ rank (run step s inputs) ≤ rank s - countMarked step mark s inputs := by
  induction inputs generalizing s with
  | nil => exact ⟨hs, Nat.le_refl _⟩
  | cons i rest ih =>
    obtain ⟨hI, hRank⟩ := hStep s i hAll.1 hs
    obtain ⟨hFinal, hRest⟩ := ih hAll.2 hI
    refine ⟨hFinal, ?_⟩
    rw [run_cons, countMarked, Nat.sub_add_eq]
    exact Nat.le_trans hRest (Nat.sub_le_sub_right hRank _)

/-! ## Runs without end -/

/-- The states of a run that never ends. -/
def trace (step : σ → ι → σ) (s : σ) (inputs : Nat → ι) : Nat → σ
  | 0 => s
  | n + 1 => step (trace step s inputs n) (inputs n)

/-- **A run settles.** If no step raises the rank and every step that changes the view lowers
it, the view does not change from some step on. -/
theorem trace_settles {ν : Type} (view : σ → ν) (rank : σ → Nat)
    (hStep : ∀ s i, A s i → I s → I (step s i) ∧ rank (step s i) ≤ rank s ∧
      (view (step s i) = view s ∨ rank (step s i) < rank s))
    {inputs : Nat → ι} (hAll : ∀ n, A (trace step s inputs n) (inputs n)) (hs : I s) :
    ∃ N, ∀ n, N ≤ n → view (trace step s inputs (n + 1)) = view (trace step s inputs n) := by
  have hI : ∀ n, I (trace step s inputs n) := by
    intro n
    induction n with
    | zero => exact hs
    | succ n ih => exact (hStep _ _ (hAll n) ih).1
  have hAnti : Antitone fun n => rank (trace step s inputs n) :=
    antitone_nat_of_succ_le fun n => (hStep _ _ (hAll n) (hI n)).2.1
  -- a step at which the rank is least
  obtain ⟨_, ⟨N, rfl⟩, hLeast⟩ := wellFounded_lt.has_min
    (Set.range fun n => rank (trace step s inputs n)) ⟨_, 0, rfl⟩
  refine ⟨N, fun n hn => ?_⟩
  rcases (hStep _ _ (hAll n) (hI n)).2.2 with hSame | hLess
  · exact hSame
  · exact absurd (Nat.lt_of_lt_of_le hLess (hAnti hn)) (hLeast _ ⟨n + 1, rfl⟩)

end Runs
