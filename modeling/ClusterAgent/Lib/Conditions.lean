import Mathlib.Data.List.Basic
import Mathlib.Data.List.Perm.Basic

/-!
# Condition lists

A status condition list is the shape a declarative controller reports through:
an ordered list of typed conditions, of which readers see the **first** of each
type and which writers update **in place**. Nothing here depends on what the
condition types are; they are an arbitrary type `κ` with decidable equality.

The three operations follow the documented behaviour of the conditions helper
they are named after:

* `findStatusCondition` — the first condition of a type;
* `setStatusCondition` — overwrite the first condition of the type, moving its
  transition time only when the status flips, or append it when there is none;
* `removeStatusCondition` — drop every condition of a type.

The transition time is the one field that depends on *when* a writer ran.
`clearTimes` forgets it, and `clearTimes_setStatusCondition` says that up to
transition times a write is the pure overwrite `put`. Everything about repeated
writes is then a fact about `put` and its iteration `putAll`:

* `find_putAll` — after a batch of writes of distinct types, each type reads
  back exactly what was written;
* `putAll_putAll` — writing the same batch twice is writing it once.
-/

namespace Conditions

inductive ConditionStatus where
  | conditionTrue
  | conditionFalse
  | conditionUnknown
  deriving DecidableEq, Repr, Inhabited

def ConditionStatus.ofBool : Bool → ConditionStatus
  | true => .conditionTrue
  | false => .conditionFalse

/-- One condition of type `type`, reported for generation `observedGeneration`.
`lastTransitionTime = 0` is the unset time. -/
structure Condition (κ : Type) where
  type : κ
  status : ConditionStatus
  observedGeneration : Int
  lastTransitionTime : Int := 0
  reason : String
  message : String
  deriving DecidableEq, Repr

def Condition.clearTime {κ : Type} (c : Condition κ) : Condition κ :=
  { c with lastTransitionTime := 0 }

def clearTimes {κ : Type} (conds : List (Condition κ)) : List (Condition κ) :=
  conds.map Condition.clearTime

section

variable {κ : Type}

@[simp] theorem clearTime_type (c : Condition κ) : c.clearTime.type = c.type := rfl
@[simp] theorem clearTime_status (c : Condition κ) : c.clearTime.status = c.status := rfl
@[simp] theorem clearTime_observedGeneration (c : Condition κ) :
    c.clearTime.observedGeneration = c.observedGeneration := rfl
@[simp] theorem clearTime_reason (c : Condition κ) : c.clearTime.reason = c.reason := rfl
@[simp] theorem clearTime_message (c : Condition κ) : c.clearTime.message = c.message := rfl

end

section

variable {κ : Type} [DecidableEq κ] {conds news : List (Condition κ)} {new c : Condition κ} {t : κ}

/-! ## Operations -/

def findStatusCondition (conds : List (Condition κ)) (t : κ) : Option (Condition κ) :=
  conds.find? fun c => decide (c.type = t)

/-- Overwrite `c` with `new`, keeping the transition time unless the status
flips. -/
def Condition.overwrite (now : Int) (c new : Condition κ) : Condition κ :=
  { c with
    status := new.status
    observedGeneration := new.observedGeneration
    reason := new.reason
    message := new.message
    lastTransitionTime :=
      if c.status = new.status then c.lastTransitionTime
      else if new.lastTransitionTime = 0 then now else new.lastTransitionTime }

def setStatusCondition (now : Int) :
    List (Condition κ) → Condition κ → List (Condition κ)
  | [], new =>
    [{ new with
       lastTransitionTime := if new.lastTransitionTime = 0 then now else new.lastTransitionTime }]
  | c :: rest, new =>
    if c.type = new.type then c.overwrite now new :: rest
    else c :: setStatusCondition now rest new

def removeStatusCondition (conds : List (Condition κ)) (t : κ) : List (Condition κ) :=
  conds.filter fun c => decide (c.type ≠ t)

/-! ## Reading back a write -/

theorem findStatusCondition_cons (c : Condition κ) (rest : List (Condition κ)) (t : κ) :
    findStatusCondition (c :: rest) t =
      if c.type = t then some c else findStatusCondition rest t := by
  rw [findStatusCondition, List.find?_cons]
  by_cases h : c.type = t
  · simp [h]
  · simp [h, findStatusCondition]

theorem type_of_findStatusCondition (h : findStatusCondition conds t = some c) : c.type = t := by
  have := List.find?_some h
  simpa using this

theorem findStatusCondition_map {f : Condition κ → Condition κ} (hf : ∀ c, (f c).type = c.type)
    (conds : List (Condition κ)) (t : κ) :
    findStatusCondition (conds.map f) t = (findStatusCondition conds t).map f := by
  unfold findStatusCondition
  rw [List.find?_map]
  simp only [Function.comp_def, hf]

theorem findStatusCondition_clearTimes (conds : List (Condition κ)) (t : κ) :
    findStatusCondition (clearTimes conds) t =
      (findStatusCondition conds t).map Condition.clearTime :=
  findStatusCondition_map clearTime_type conds t

/-- Writing one type leaves the conditions of all the types outside it alone, in
place and order. -/
theorem filter_set_other {now : Int} {p : κ → Bool} (hp : p new.type = false) :
    (setStatusCondition now conds new).filter (fun c => p c.type) =
      conds.filter fun c => p c.type := by
  induction conds with
  | nil => simp [setStatusCondition, hp]
  | cons c rest ih =>
    rw [setStatusCondition]
    split
    · next hc =>
      have hcp : p c.type = false := hc ▸ hp
      simp [Condition.overwrite, hcp]
    · rw [List.filter_cons, List.filter_cons, ih]

theorem find_set_other {now : Int} (ht : new.type ≠ t) :
    findStatusCondition (setStatusCondition now conds new) t = findStatusCondition conds t := by
  unfold findStatusCondition
  rw [← List.head?_filter, ← List.head?_filter,
    filter_set_other (p := fun k => decide (k = t)) (decide_eq_false ht)]

theorem find_remove_other {t t' : κ} (h : t ≠ t') :
    findStatusCondition (removeStatusCondition conds t) t' = findStatusCondition conds t' := by
  unfold removeStatusCondition findStatusCondition
  rw [List.find?_filter]
  congr 1
  funext c
  by_cases hc : c.type = t'
  · simp [hc, h.symm]
  · simp [hc]

theorem types_setStatusCondition (now : Int) (conds : List (Condition κ)) (new : Condition κ) :
    (setStatusCondition now conds new).map Condition.type =
      if new.type ∈ conds.map Condition.type then conds.map Condition.type
      else conds.map Condition.type ++ [new.type] := by
  induction conds with
  | nil => rfl
  | cons c rest ih =>
    rw [setStatusCondition]
    by_cases hc : c.type = new.type
    · rw [if_pos hc, if_pos (by simp [hc])]
      rfl
    · have hc' : new.type ≠ c.type := fun h => hc h.symm
      rw [if_neg hc, List.map_cons, ih]
      by_cases hMem : new.type ∈ rest.map Condition.type
      · rw [if_pos hMem, if_pos (by simpa [hc'] using hMem)]
        rfl
      · rw [if_neg hMem, if_neg (by simpa [hc'] using hMem)]
        rfl

theorem nodup_setStatusCondition
    (h : (conds.map Condition.type).Nodup) (now : Int) (new : Condition κ) :
    ((setStatusCondition now conds new).map Condition.type).Nodup := by
  rw [types_setStatusCondition]
  split
  · exact h
  · next hNew =>
    refine List.nodup_append.mpr ⟨h, List.pairwise_singleton _ _, fun a ha b hb => ?_⟩
    rw [List.mem_singleton.mp hb]
    exact fun hab => hNew (hab ▸ ha)

theorem find_of_mem (h : (conds.map Condition.type).Nodup) (hc : c ∈ conds) :
    findStatusCondition conds c.type = some c := by
  induction conds with
  | nil => cases hc
  | cons x rest ih =>
    rw [List.map_cons, List.nodup_cons] at h
    rw [findStatusCondition_cons]
    rcases List.mem_cons.mp hc with rfl | hMem
    · rw [if_pos rfl]
    · have hx : x.type ≠ c.type := fun he => h.1 (he ▸ List.mem_map_of_mem hMem)
      rw [if_neg hx]
      exact ih h.2 hMem

/-! ## Writes up to transition times -/

/-- The pure overwrite: replace the first condition of `new`'s type, or append. -/
def put : List (Condition κ) → Condition κ → List (Condition κ)
  | [], new => [new]
  | c :: rest, new => if c.type = new.type then new :: rest else c :: put rest new

theorem clearTimes_setStatusCondition (now : Int) (conds : List (Condition κ)) (new : Condition κ) :
    clearTimes (setStatusCondition now conds new) = put (clearTimes conds) new.clearTime := by
  induction conds with
  | nil => rfl
  | cons c rest ih =>
    rw [setStatusCondition]
    by_cases hc : c.type = new.type
    · simp [clearTimes, put, hc, Condition.overwrite, Condition.clearTime]
    · have hc' : ¬ c.clearTime.type = new.clearTime.type := hc
      rw [if_neg hc]
      show c.clearTime :: clearTimes (setStatusCondition now rest new) =
        put (c.clearTime :: clearTimes rest) new.clearTime
      rw [put, if_neg hc', ih]

theorem find_put_same (conds : List (Condition κ)) (new : Condition κ) :
    findStatusCondition (put conds new) new.type = some new := by
  induction conds with
  | nil => simp [put, findStatusCondition]
  | cons c rest ih =>
    rw [put]
    split
    · simp [findStatusCondition_cons]
    · next hc => rw [findStatusCondition_cons, if_neg hc, ih]

theorem find_set_same (now : Int) (conds : List (Condition κ)) (new : Condition κ) :
    (findStatusCondition (setStatusCondition now conds new) new.type).map Condition.clearTime =
      some new.clearTime := by
  rw [← findStatusCondition_clearTimes, clearTimes_setStatusCondition]
  exact find_put_same _ new.clearTime

theorem any_set_same {now : Int} {test : Condition κ → Bool}
    (hTest : ∀ c, test c.clearTime = test c) :
    (findStatusCondition (setStatusCondition now conds new) new.type).any test = test new := by
  obtain ⟨c, hSome, hClear⟩ := Option.map_eq_some_iff.mp (find_set_same now conds new)
  rw [hSome, Option.any_some, ← hTest c, hClear, hTest]

theorem find_put_other (ht : new.type ≠ t) :
    findStatusCondition (put conds new) t = findStatusCondition conds t := by
  induction conds with
  | nil => simp [put, findStatusCondition, ht]
  | cons c rest ih =>
    rw [put]
    split
    · next hc =>
      have hct : c.type ≠ t := hc ▸ ht
      rw [findStatusCondition_cons, findStatusCondition_cons, if_neg ht, if_neg hct]
    · rw [findStatusCondition_cons, findStatusCondition_cons, ih]

theorem put_eq_self
    (h : findStatusCondition conds new.type = some new) : put conds new = conds := by
  induction conds with
  | nil => simp [findStatusCondition] at h
  | cons c rest ih =>
    rw [findStatusCondition_cons] at h
    rw [put]
    split at h
    · next hc => rw [if_pos hc, Option.some.inj h]
    · next hc => rw [if_neg hc, ih h]

def putAll (conds : List (Condition κ)) (news : List (Condition κ)) : List (Condition κ) :=
  news.foldl put conds

theorem putAll_concat (conds news : List (Condition κ)) (new : Condition κ) :
    putAll conds (news ++ [new]) = put (putAll conds news) new := by
  rw [putAll, List.foldl_append]
  rfl

theorem find_putAll_other (ht : ∀ c ∈ news, c.type ≠ t) (conds : List (Condition κ)) :
    findStatusCondition (putAll conds news) t = findStatusCondition conds t := by
  induction news generalizing conds with
  | nil => rfl
  | cons c rest ih =>
    have hrest := ih (fun x hx => ht x (List.mem_cons_of_mem _ hx)) (put conds c)
    rw [putAll, List.foldl_cons, ← putAll, hrest]
    exact find_put_other (ht c List.mem_cons_self)

/-- After writing a batch of distinct types, each type reads back what was
written. -/
theorem find_putAll (hnd : (news.map Condition.type).Nodup) (conds : List (Condition κ))
    (hc : c ∈ news) :
    findStatusCondition (putAll conds news) c.type = some c := by
  induction news generalizing conds with
  | nil => simp at hc
  | cons x rest ih =>
    rw [List.map_cons, List.nodup_cons] at hnd
    rw [putAll, List.foldl_cons, ← putAll]
    rcases List.mem_cons.mp hc with rfl | hmem
    · -- the head is written first and no later write touches its type
      have hlater : ∀ y ∈ rest, y.type ≠ c.type := fun y hy he =>
        hnd.1 (he ▸ List.mem_map_of_mem hy)
      rw [find_putAll_other hlater]
      exact find_put_same conds c
    · exact ih hnd.2 (put conds x) hmem

theorem putAll_eq_self {news conds : List (Condition κ)}
    (h : ∀ c ∈ news, findStatusCondition conds c.type = some c) :
    putAll conds news = conds := by
  induction news with
  | nil => rfl
  | cons c rest ih =>
    rw [putAll, List.foldl_cons, put_eq_self (h c List.mem_cons_self), ← putAll]
    exact ih fun x hx => h x (List.mem_cons_of_mem _ hx)

theorem putAll_putAll (hnd : (news.map Condition.type).Nodup) (conds : List (Condition κ)) :
    putAll (putAll conds news) news = putAll conds news :=
  putAll_eq_self fun _ hc => find_putAll hnd conds hc

end

end Conditions
