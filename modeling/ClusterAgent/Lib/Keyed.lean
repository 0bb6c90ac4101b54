import Mathlib.Data.List.Basic

/-!
# Lists under a key

A store that is a list, looked up by a predicate `p` that says which elements
are under the key. `write` changes these elements, `keeping` is another version
of the list that still has them; the lemmas say what a lookup finds afterwards.
-/

namespace Keyed

variable {α : Type} {p : α → Bool} {f : α → α} {g : α → Option α} {w : α → Bool} {l : List α}

/-- Change every element under the key. -/
def write (p : α → Bool) (f : α → α) (l : List α) : List α :=
  l.map fun x => if p x then f x else x

/-- Any other list, with the elements under the key taken from the old one. -/
def keeping (p : α → Bool) (new old : List α) : List α :=
  (new.filter fun x => !p x) ++ old.filter p

theorem find?_write (hf : ∀ x, p x = true → p (f x) = true) (l : List α) :
    (write p f l).find? p = (l.find? p).map f := by
  induction l with
  | nil => rfl
  | cons x rest ih =>
    unfold write at ih ⊢
    rw [List.map_cons]
    by_cases hx : p x = true
    · rw [if_pos hx, List.find?_cons_of_pos (hf x hx), List.find?_cons_of_pos hx]
      rfl
    · rw [if_neg hx, List.find?_cons_of_neg hx, List.find?_cons_of_neg hx, ih]

theorem mem_filter_write {y : α} (h : y ∈ (write p f l).filter p) :
    ∃ x ∈ l.filter p, y = f x := by
  obtain ⟨hMem, hKey⟩ := List.mem_filter.mp h
  obtain ⟨x, hx, rfl⟩ := List.mem_map.mp hMem
  by_cases hp : p x = true
  · exact ⟨x, List.mem_filter.mpr ⟨hx, hp⟩, if_pos hp⟩
  · rw [if_neg hp] at hKey
    exact absurd hKey hp

theorem filter_without (l : List α) : (l.filter fun x => !p x).filter p = [] := by
  refine List.filter_eq_nil_iff.mpr fun x hx hKey => ?_
  have hNot := (List.mem_filter.mp hx).2
  rw [hKey] at hNot
  cases hNot

theorem filter_not_write (hf : ∀ x, p x = true → p (f x) = true) {l : List α} :
    (write p f l).filter (fun x => !p x) = l.filter fun x => !p x := by
  induction l with
  | nil => rfl
  | cons x rest ih =>
    unfold write at ih ⊢
    rw [List.map_cons, List.filter_cons, List.filter_cons, ih]
    by_cases hx : p x = true
    · rw [if_pos hx, hf x hx, hx]
      rfl
    · rw [if_neg hx]

theorem filter_keeping (new old : List α) : (keeping p new old).filter p = old.filter p := by
  unfold keeping
  rw [List.filter_append, filter_without, List.nil_append, List.filter_filter]
  simp

theorem find?_keeping (new old : List α) : (keeping p new old).find? p = old.find? p := by
  rw [← List.head?_filter, ← List.head?_filter, filter_keeping]

/-- Change or remove every element under the key. -/
def revise (p : α → Bool) (g : α → Option α) (l : List α) : List α :=
  l.filterMap fun x => if p x then g x else some x

theorem write_eq_revise (f : α → α) (l : List α) :
    write p f l = revise p (fun x => some (f x)) l := by
  unfold write revise
  rw [← List.filterMap_eq_map]
  refine List.filterMap_congr fun x _ => ?_
  show some (if p x then f x else x) = if p x then some (f x) else some x
  cases p x <;> rfl

theorem without_eq_revise (l : List α) : (l.filter fun x => !p x) = revise p (fun _ => none) l := by
  unfold revise
  rw [← List.filterMap_eq_filter]
  refine List.filterMap_congr fun x _ => ?_
  cases hx : p x with
  | true => simp [Option.guard, hx]
  | false => simp [Option.guard, hx]

theorem mem_revise {y : α} (h : y ∈ revise p g l) :
    (∃ x ∈ l, p x = true ∧ g x = some y) ∨ y ∈ l ∧ p y = false := by
  obtain ⟨x, hx, hy⟩ := List.mem_filterMap.mp h
  split at hy
  · next hp => exact Or.inl ⟨x, hx, hp, hy⟩
  · next hp =>
    cases hy
    exact Or.inr ⟨hx, by simpa using hp⟩

theorem find?_revise {a : α} (hg : ∀ x y, p x = true → g x = some y → p y = true)
    (hOne : ∀ x ∈ l, p x = true → x = a) :
    (revise p g l).find? p = (l.find? p).bind g := by
  induction l with
  | nil => rfl
  | cons x rest ih =>
    have ih := ih fun y hy => hOne y (List.mem_cons_of_mem _ hy)
    unfold revise at ih ⊢
    by_cases hx : p x = true
    · rw [List.find?_cons_of_pos hx, Option.bind_some]
      cases hgx : g x with
      | some y =>
        rw [List.filterMap_cons_some (b := y) (by rw [if_pos hx, hgx]),
          List.find?_cons_of_pos (hg x y hx hgx)]
      | none =>
        -- what else is under the key is removed as well
        rw [List.filterMap_cons_none (by rw [if_pos hx, hgx]), ih]
        cases hRest : rest.find? p with
        | none => rfl
        | some z =>
          have hz : z = a := hOne z (List.mem_cons_of_mem _ (List.mem_of_find?_eq_some hRest))
            (List.find?_some hRest)
          rw [Option.bind_some, hz, ← hOne x List.mem_cons_self hx, hgx]
    · rw [List.filterMap_cons_some (b := x) (by rw [if_neg hx]), List.find?_cons_of_neg hx,
        List.find?_cons_of_neg hx, ih]

theorem find?_revise_other {q : α → Bool} (hpq : ∀ x, p x = true → q x = false)
    (hg : ∀ x y, p x = true → g x = some y → p y = true) :
    (revise p g l).find? q = l.find? q := by
  have hSeen : (fun x => (if p x then g x else some x).any q) = q := by
    funext x
    by_cases hx : p x = true
    · rw [if_pos hx, hpq x hx, Option.any_eq_false]
      exact fun y hy => by simp [hpq y (hg x y hx hy)]
    · rw [if_neg hx, Option.any_some]
  unfold revise
  rw [List.find?_filterMap, hSeen]
  cases hFound : l.find? q with
  | none => rfl
  | some x =>
    refine if_neg fun hx => ?_
    have hq := List.find?_some hFound
    rw [hpq x hx] at hq
    cases hq

theorem countP_write
    (h : ∀ x ∈ l, p x = true → w (f x) = w x) : (write p f l).countP w = l.countP w := by
  unfold write
  rw [List.countP_map]
  refine List.countP_congr fun x hx => ?_
  rw [Function.comp_apply]
  by_cases hp : p x = true
  · rw [if_pos hp, h x hx hp]
  · rw [if_neg hp]

theorem countP_revise_le (h : ∀ x ∈ l, p x = true → ∀ y, g x = some y → w y = true → w x = true) :
    (revise p g l).countP w ≤ l.countP w := by
  unfold revise
  rw [List.countP_filterMap]
  refine List.countP_mono_left fun x hx hw => ?_
  by_cases hp : p x = true
  · rw [if_pos hp] at hw
    cases hgx : g x with
    | none => simp [hgx] at hw
    | some y => exact h x hx hp y hgx (by simpa [hgx] using hw)
  · simpa [hp] using hw

theorem revise_eq_or_countP_lt
    (h : ∀ x ∈ l, p x = true → g x = some x ∨ w x = true ∧ ∀ y, g x = some y → w y = false) :
    revise p g l = l ∨ (revise p g l).countP w < l.countP w := by
  induction l with
  | nil => exact Or.inl rfl
  | cons x rest ih =>
    have hRest := fun y hy => h y (List.mem_cons_of_mem x hy)
    have hLe : (revise p g rest).countP w ≤ rest.countP w := by
      refine countP_revise_le fun y hy hp z hz hw => ?_
      rcases hRest y hy hp with hSame | ⟨hy', -⟩
      · cases hSame.symm.trans hz
        exact hw
      · exact hy'
    have ih := ih hRest
    unfold revise at ih hLe ⊢
    by_cases hx : p x = true
    · rcases h x List.mem_cons_self hx with hSame | ⟨hw, hAfter⟩
      · rw [List.filterMap_cons_some (b := x) (by rw [if_pos hx, hSame]), List.countP_cons,
          List.countP_cons]
        exact ih.imp (congrArg (x :: ·)) fun hLt => Nat.add_lt_add_right hLt _
      · refine Or.inr ?_
        rw [List.countP_cons (l := rest), hw]
        cases hgx : g x with
        | none =>
          rw [List.filterMap_cons_none (by rw [if_pos hx, hgx])]
          exact Nat.lt_succ_of_le hLe
        | some y =>
          rw [List.filterMap_cons_some (b := y) (by rw [if_pos hx, hgx]), List.countP_cons,
            hAfter y hgx]
          exact Nat.lt_succ_of_le hLe
    · rw [List.filterMap_cons_some (b := x) (by rw [if_neg hx]), List.countP_cons, List.countP_cons]
      exact ih.imp (congrArg (x :: ·)) fun hLt => Nat.add_lt_add_right hLt _

theorem countP_set {i : Nat} {x : α} (w : α → Bool) (y : α) (h : l[i]? = some x) :
    (l.set i y).countP w + (w x).toNat = l.countP w + (w y).toNat := by
  induction l generalizing i with
  | nil => cases h
  | cons z rest ih =>
    cases i with
    | zero =>
      cases h
      rw [List.set_cons_zero, List.countP_cons, List.countP_cons]
      cases w x <;> cases w y <;> rfl
    | succ i =>
      rw [List.set_cons_succ, List.countP_cons, List.countP_cons]
      have hRest := ih h
      omega

theorem lookup_without {κ β : Type} [DecidableEq κ] [BEq κ] [LawfulBEq κ] (k k' : κ)
    (l : List (κ × β)) :
    (l.filter fun e => decide (e.1 ≠ k')).lookup k = if k = k' then none else l.lookup k := by
  induction l with
  | nil => simp
  | cons e rest ih =>
    by_cases hDrop : e.1 = k'
    · rw [List.filter_cons_of_neg (by simp [hDrop]), ih]
      split
      · rfl
      · next hk => rw [List.lookup_cons, beq_false_of_ne (hDrop ▸ hk)]
    · rw [List.filter_cons_of_pos (by simp [hDrop]), List.lookup_cons, List.lookup_cons, ih]
      by_cases hHere : k = e.1
      · simp [hHere, hDrop]
      · rw [beq_false_of_ne hHere]

theorem find?_append_new {x : α} (hNone : l.find? p = none) (hx : p x = true) :
    (l ++ [x]).find? p = some x := by
  rw [List.find?_append, hNone, Option.none_or, List.find?_cons_of_pos hx]

end Keyed
