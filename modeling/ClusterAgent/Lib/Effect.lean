import Mathlib.Order.Defs.Unbundled
import Mathlib.Data.List.Basic

/-!
# Effectful steps and their rules

Code that talks to a remote service can fail half way, and what it changed by
then stays changed. `EStateM ε σ` is that notion of step: it returns a value or
an error, and in both cases the state reached. This file has the rules to reason
about such steps without unfolding them, over an arbitrary state and error type.

* `Triple P m Q E` — from a state in `P`, `m` ends in `Q` of its value if it
  succeeds and in `E` if it fails;
* `Within R m` — whatever the outcome, the state before and the state after are
  related by `R`; for a preorder `R` this composes, which is how frame
  conditions and monotone quantities are carried through a program;
* `bind_ok` — a successful sequence is two successful steps.
-/

namespace Effect

variable {ε σ α β : Type}

/-! ## Outcomes -/

def finalState : EStateM.Result ε σ α → σ
  | .ok _ s => s
  | .error _ s => s

def value : EStateM.Result ε σ α → Option α
  | .ok a _ => some a
  | .error _ _ => none

theorem eq_ok_of_value {r : EStateM.Result ε σ α} {a : α} (h : value r = some a) :
    r = .ok a (finalState r) := by
  cases r with
  | ok b s =>
    cases h
    rfl
  | error e s => cases h

/-- Run a step and hand its error to the caller as a value. -/
def attempt (m : EStateM ε σ α) : EStateM ε σ (Except ε α) := fun s =>
  match m s with
  | .ok a s' => .ok (.ok a) s'
  | .error e s' => .ok (.error e) s'

def mapError (f : ε → ε) (m : EStateM ε σ α) : EStateM ε σ α := fun s =>
  match m s with
  | .ok a s' => .ok a s'
  | .error e s' => .error (f e) s'

/-- Run a step on every element, also after one of them failed, and fail if any did. -/
def forAll (f : α → EStateM ε σ PUnit) : List α → EStateM ε σ PUnit
  | [] => pure ⟨⟩
  | x :: rest => do
    let r ← attempt (f x)
    forAll f rest
    match r with
    | .ok _ => pure ⟨⟩
    | .error e => throw e

variable {m : EStateM ε σ α} {f : α → EStateM ε σ β} {s s' s1 : σ} {a : α} {e : ε}

theorem bind_ok {b : β}
    (h : (m >>= f) s = .ok b s') : ∃ a s1, m s = .ok a s1 ∧ f a s1 = .ok b s' := by
  change (match m s with | .ok a s => f a s | .error e s => .error e s) = _ at h
  cases hm : m s with
  | ok a s1 =>
    rw [hm] at h
    exact ⟨a, s1, rfl, h⟩
  | error e s1 =>
    rw [hm] at h
    cases h

theorem bind_of_ok (h : m s = .ok a s1) : (m >>= f) s = f a s1 := by
  change (match m s with | .ok a s => f a s | .error e s => .error e s) = _
  rw [h]

theorem attempt_of_ok (h : m s = .ok a s1) :
    attempt m s = .ok (.ok a) s1 := by
  unfold attempt
  rw [h]

theorem attempt_of_error (h : m s = .error e s1) :
    attempt m s = .ok (.error e) s1 := by
  unfold attempt
  rw [h]

theorem bind_of_error (h : m s = .error e s1) : (m >>= f) s = .error e s1 := by
  change (match m s with | .ok a s => f a s | .error e s => .error e s) = _
  rw [h]

/-! ## Triples -/

/-- From a state in `P`, a success of `m` ends in `Q` and a failure in `E`. Steps here keep their
effects when they fail, so a specification says of both outcomes where they leave the state. -/
def Triple (P : σ → Prop) (m : EStateM ε σ α) (Q : α → σ → Prop) (E : σ → Prop) : Prop :=
  ∀ s, P s → match m s with
    | .ok a s' => Q a s'
    | .error _ s' => E s'

/-- The step leads from `P` to `Q`, whether it succeeds or fails. -/
abbrev Ensures (P : σ → Prop) (m : EStateM ε σ α) (Q : σ → Prop) : Prop := Triple P m (fun _ => Q) Q

/-- A success ends in `Q`; nothing is said about a failure. -/
abbrev Returns (P : σ → Prop) (m : EStateM ε σ α) (Q : α → σ → Prop) : Prop :=
  Triple P m Q fun _ => True

/-- The step succeeds and ends in `Q`. -/
abbrev Achieves (P : σ → Prop) (m : EStateM ε σ α) (Q : α → σ → Prop) : Prop :=
  Triple P m Q fun _ => False

section

variable {P P' I : σ → Prop} {Q Q' : α → σ → Prop} {E E' : σ → Prop}

theorem Triple.of_ok (h : Triple P m Q E) (hs : P s) (hm : m s = .ok a s') : Q a s' := by
  have := h s hs
  rw [hm] at this
  exact this

theorem Triple.of_error (h : Triple P m Q E) (hs : P s) (hm : m s = .error e s') : E s' := by
  have := h s hs
  rw [hm] at this
  exact this

theorem Triple.reached (h : Ensures P m I) {s : σ} (hs : P s) :
    I (finalState (m s)) := by
  have hm := h s hs
  cases hr : m s with
  | ok a s' => rw [hr] at hm; exact hm
  | error e s' => rw [hr] at hm; exact hm

/-- The rule of consequence. -/
theorem Triple.mono (h : Triple P m Q E) (hP : ∀ s, P' s → P s) (hQ : ∀ a s, Q a s → Q' a s)
    (hE : ∀ s, E s → E' s) : Triple P' m Q' E' := by
  intro s hs
  have hm := h s (hP s hs)
  cases hr : m s with
  | ok a s' => rw [hr] at hm; exact hQ a s' hm
  | error e s' => rw [hr] at hm; exact hE s' hm

theorem Triple.pre (h : Triple P m Q E) (hP : ∀ s, P' s → P s) : Triple P' m Q E :=
  h.mono hP (fun _ _ hq => hq) fun _ he => he

theorem Triple.post (h : Triple P m Q E) (hQ : ∀ a s, Q a s → Q' a s) : Triple P m Q' E :=
  h.mono (fun _ hp => hp) hQ fun _ he => he

theorem Triple.conseq (h : Triple P m Q E) (hQ : ∀ a s, Q a s → Q' a s) (hE : ∀ s, E s → E' s) :
    Triple P m Q' E' :=
  h.mono (fun _ hp => hp) hQ hE

theorem Triple.onError (h : Triple P m Q E) (hE : ∀ s, E s → E' s) : Triple P m Q E' :=
  h.conseq (fun _ _ hq => hq) hE

theorem Triple.anyError (h : Triple P m Q E) : Returns P m Q :=
  h.onError fun _ _ => trivial

theorem Triple.and (h : Triple P m Q E) (h' : Triple P m Q' E') :
    Triple P m (fun a s => Q a s ∧ Q' a s) fun s => E s ∧ E' s := by
  intro s hs
  have hm := h s hs
  have hm' := h' s hs
  cases hr : m s with
  | ok a s' =>
    rw [hr] at hm hm'
    exact ⟨hm, hm'⟩
  | error e s' =>
    rw [hr] at hm hm'
    exact ⟨hm, hm'⟩

abbrev Succeeds (P : σ → Prop) (m : EStateM ε σ α) : Prop :=
  Triple P m (fun _ _ => True) fun _ => False

theorem Triple.total (h : Triple P m Q E) (hs : Succeeds P m) : Achieves P m Q :=
  (h.and hs).mono (fun _ hp => hp) (fun _ _ hq => hq.1) fun _ he => he.2

theorem Triple.unless {C : Prop} (h : Triple P m Q E) (hs : C → Succeeds P m) :
    Triple P m Q fun s => E s ∧ ¬ C := by
  by_cases hC : C
  · exact (h.total (hs hC)).onError fun _ h => h.elim
  · exact h.onError fun _ he => ⟨he, hC⟩

theorem Triple.final (s : σ) :
    Triple (· = s) m (fun _ s' => s' = finalState (m s)) (· = finalState (m s)) := by
  rintro s rfl
  cases m s <;> rfl

theorem Triple.of_pre {p : Prop} (h : p → Triple (fun _ => True) m Q E) :
    Triple (fun _ => p) m Q E := fun s hp => h hp s trivial

theorem Triple.of_each (h : ∀ s, P s → Triple (· = s) m Q E) : Triple P m Q E :=
  fun s hs => h s hs s rfl

theorem Triple.pure (h : ∀ s, P s → Q a s) :
    Triple P (Pure.pure a : EStateM ε σ α) Q E := fun s hs => h s hs

theorem Triple.throw (h : ∀ s, P s → E s) :
    Triple P (throw e : EStateM ε σ α) Q E := fun s hs => h s hs

theorem Triple.start (hm : Triple P m Q E) (hs : P s) : Triple (· = s) m Q E :=
  fun _ h => hm _ (h ▸ hs)

theorem Triple.ret (h : Q a s) : Triple (· = s) (Pure.pure a : EStateM ε σ α) Q E :=
  .pure fun _ hs => hs ▸ h

theorem Triple.err (h : E s) : Triple (· = s) (MonadExcept.throw e : EStateM ε σ α) Q E :=
  .throw fun _ hs => hs ▸ h

theorem Triple.skip (h : ∀ s, P s → Q a s := by exact fun _ h => h) :
    Triple P (Pure.pure a : EStateM ε σ α) Q E := .pure h

theorem Triple.fail (h : ∀ s, P s → E s := by exact fun _ h => h) :
    Triple P (MonadExcept.throw e : EStateM ε σ α) Q E := .throw h

theorem Triple.bind {R : α → σ → Prop} {Q : β → σ → Prop}
    (hm : Triple P m R E) (hf : ∀ a, Triple (R a) (f a) Q E) : Triple P (m >>= f) Q E := by
  intro s hs
  cases hr : m s with
  | ok a s' =>
    rw [bind_of_ok hr]
    exact hf a s' (hm.of_ok hs hr)
  | error e s' =>
    rw [bind_of_error hr]
    exact hm.of_error hs hr

theorem Triple.after {Q : β → σ → Prop}
    (hm : m s = .ok a s1) (hf : Triple (· = s1) (f a) Q E) : Triple (· = s) (m >>= f) Q E := by
  rintro s rfl
  rw [bind_of_ok hm]
  exact hf s1 rfl

theorem Triple.any (hQ : ∀ a s, Q a s) : Returns P m Q := by
  intro s _
  cases m s with
  | ok a s' => exact hQ a s'
  | error e s' => trivial

theorem Triple.runs (s : σ) :
    Returns (· = s) m (fun a s' => m s = .ok a s') := by
  rintro s rfl
  cases m s with
  | ok a s' => rfl
  | error e s' => trivial

theorem Triple.bind_any {Q : β → σ → Prop} (hf : ∀ a, Returns (fun _ => True) (f a) Q) :
    Returns P (m >>= f) Q := by
  exact Triple.bind (R := fun _ _ => True) (Triple.any fun _ _ => trivial) hf

theorem Triple.modify {f : σ → σ} {Q : PUnit → σ → Prop} (h : ∀ s, P s → Q ⟨⟩ (f s)) :
    Triple P (modify f : EStateM ε σ PUnit) Q E := fun s hs => h s hs

theorem get_bind (f : σ → EStateM ε σ α) (s : σ) : (get >>= f) s = f s s := rfl

theorem Triple.get {Q : σ → σ → Prop} (h : ∀ s, P s → Q s s) :
    Triple P (get : EStateM ε σ σ) Q E := fun s hs => h s hs

theorem Triple.attempt (h : Triple P m Q E) :
    Triple P (Effect.attempt m) (fun r s => match r with | .ok a => Q a s | .error _ => E s)
      E' := by
  intro s hs
  have hm := h s hs
  unfold Effect.attempt
  cases hr : m s with
  | ok a s' =>
    rw [hr] at hm
    exact hm
  | error e s' =>
    rw [hr] at hm
    exact hm

theorem Triple.attempted (h : Ensures P m I) :
    Triple P (Effect.attempt m) (fun _ => I) E' :=
  h.attempt.post fun r _ hr => by cases r <;> exact hr

theorem Triple.mapError {f : ε → ε} (h : Triple P m Q E) :
    Triple P (Effect.mapError f m) Q E := by
  intro s hs
  have hm := h s hs
  unfold Effect.mapError
  cases hr : m s with
  | ok a s' =>
    rw [hr] at hm
    exact hm
  | error e s' =>
    rw [hr] at hm
    exact hm

theorem Triple.forAll {xs : List α} {f : α → EStateM ε σ PUnit} (hf : ∀ x ∈ xs, Ensures I (f x) I) :
    Ensures I (Effect.forAll f xs) I := by
  induction xs with
  | nil => exact Triple.pure fun _ h => h
  | cons x rest ih =>
    have hFirst : Ensures I (Effect.attempt (f x)) I :=
      (hf x List.mem_cons_self).attempted
    refine Triple.bind hFirst fun r =>
      Triple.bind (ih fun y hy => hf y (List.mem_cons_of_mem _ hy)) fun _ => ?_
    cases r with
    | ok _ => exact Triple.pure fun _ h => h
    | error e => exact Triple.throw fun _ h => h

theorem Triple.forM {xs : List α} {f : α → EStateM ε σ PUnit}
    (hf : ∀ x ∈ xs, Ensures I (f x) I) : Ensures I (xs.forM f) I := by
  induction xs with
  | nil => exact Triple.pure fun _ h => h
  | cons x rest ih =>
    exact Triple.bind (hf x List.mem_cons_self) fun _ =>
      ih fun y hy => hf y (List.mem_cons_of_mem _ hy)

end

/-! ## Relating the states before and after -/

/-- Whatever the outcome of `m`, it moves the state along `R`. With a reflexive and transitive `R`
this is a frame: it composes without a precondition. -/
def Within (R : σ → σ → Prop) (m : EStateM ε σ α) : Prop := ∀ s, R s (finalState (m s))

section

variable {R : σ → σ → Prop}

theorem Within.ok (h : Within R m) (hm : m s = .ok a s') : R s s' := by
  have := h s
  rw [hm] at this
  exact this

theorem Within.mono {R' : σ → σ → Prop} (h : Within R m) (hR : ∀ s s', R s s' → R' s s') :
    Within R' m := fun s => hR _ _ (h s)

theorem Within.modify {f : σ → σ} (h : ∀ s, R s (f s)) :
    Within R (modify f : EStateM ε σ PUnit) := h

theorem Within.attempt (h : Within R m) : Within R (attempt m) := by
  intro s
  have hs := h s
  unfold Effect.attempt
  cases hm : m s with
  | ok a s' => rw [hm] at hs; exact hs
  | error e s' => rw [hm] at hs; exact hs

variable [IsPreorder σ R]

theorem Within.pure {a : α} : Within R (Pure.pure a : EStateM ε σ α) := fun s => refl_of R s

theorem Within.throw {e : ε} : Within R (throw e : EStateM ε σ α) := fun s => refl_of R s

theorem Within.get : Within R (get : EStateM ε σ σ) := fun s => refl_of R s

theorem Within.bind_of {Q : α → Prop} (hm : Within R m)
    (hQ : Returns (fun _ => True) m (fun a _ => Q a))
    (hf : ∀ a, Q a → Within R (f a)) : Within R (m >>= f) := by
  intro s
  have hs := hm s
  cases hr : m s with
  | ok a s' =>
    rw [hr] at hs
    rw [bind_of_ok hr]
    exact trans_of R hs (hf a (hQ.of_ok trivial hr) s')
  | error e s' =>
    rw [hr] at hs
    rw [bind_of_error hr]
    exact hs

theorem Within.bind (hm : Within R m) (hf : ∀ a, Within R (f a)) :
    Within R (m >>= f) := by
  refine Within.bind_of (Q := fun _ => True) hm ?_ fun a _ => hf a
  intro s _
  cases m s <;> trivial

theorem Within.forAll {xs : List α} {f : α → EStateM ε σ PUnit} (hf : ∀ x, Within R (f x)) :
    Within R (forAll f xs) := by
  induction xs with
  | nil => exact Within.pure
  | cons x rest ih =>
    refine Within.bind (hf x).attempt fun r => Within.bind ih fun _ => ?_
    cases r with
    | ok _ => exact Within.pure
    | error e => exact Within.throw

theorem Within.forM {xs : List α} {f : α → EStateM ε σ PUnit} (hf : ∀ x, Within R (f x)) :
    Within R (xs.forM f) := by
  induction xs with
  | nil => exact Within.pure
  | cons x rest ih => exact Within.bind (hf x) fun _ => ih

end

/-- Two states with the same `f`: what a step that leaves `f` alone leads from and to. -/
def Spares {τ : Type} (f : σ → τ) (s s' : σ) : Prop := f s' = f s

instance {τ : Type} (f : σ → τ) : IsPreorder σ (Spares f) where
  refl _ := rfl
  trans _ _ _ h h' := Eq.trans h' h

theorem Within.triple {R : σ → σ → Prop} {P : σ → Prop}
    (h : Within R m) (hP : ∀ s s', R s s' → P s → P s') : Ensures P m P := by
  intro s hs
  have hr := h s
  cases hm : m s with
  | ok a s' => rw [hm] at hr; exact hP s s' hr hs
  | error e s' => rw [hm] at hr; exact hP s s' hr hs

theorem Within.continues {R : σ → σ → Prop} [IsPreorder σ R]
    (h : Within R m) (s : σ) : Ensures (R s) m (R s) :=
  h.triple fun _ _ hStep hs => trans_of R hs hStep

theorem Within.leads {R : σ → σ → Prop} (h : Within R m) (s : σ) :
    Ensures (· = s) m (R s) := by
  rintro s rfl
  have hr := h s
  cases hm : m s with
  | ok a s' => rw [hm] at hr; exact hr
  | error e s' => rw [hm] at hr; exact hr

end Effect
