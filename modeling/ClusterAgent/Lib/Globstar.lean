import Mathlib.Data.List.Infix

/-!
# Globs over path segments

A glob is a list of segments, each a literal or the globstar, which stands for any
number of segments, none included. The segments are of an arbitrary type.

* `matchesGlob_star` — a leading globstar leaves some end of the path to the rest;
* `matchesGlob_ends`, `matchesGlob_contains` — what `**/x` and `**/x/**` match.
-/

namespace Globstar

variable {α : Type} [DecidableEq α]

inductive Segment (α : Type) where
  | literal (s : α)
  | star
  deriving DecidableEq, Repr

def matchesGlob : List (Segment α) → List α → Bool
  | [], path => path.isEmpty
  | .literal s :: glob, part :: path => decide (s = part) && matchesGlob glob path
  | .literal _ :: _, [] => false
  | .star :: glob, path => path.tails.any (matchesGlob glob)

theorem matchesGlob_star (glob : List (Segment α)) (path : List α) :
    matchesGlob (.star :: glob) path = true ↔
      ∃ front back, path = front ++ back ∧ matchesGlob glob back = true := by
  rw [matchesGlob, List.any_eq_true]
  constructor
  · intro ⟨back, hTail, hBack⟩
    obtain ⟨front, hPath⟩ := (List.mem_tails back path).mp hTail
    exact ⟨front, back, hPath.symm, hBack⟩
  · intro ⟨front, back, hPath, hBack⟩
    exact ⟨back, (List.mem_tails back path).mpr ⟨front, hPath.symm⟩, hBack⟩

/-- `**` matches every path. -/
theorem matchesGlob_all (path : List α) : matchesGlob [.star] path = true := by
  rw [matchesGlob_star]
  exact ⟨path, [], (List.append_nil _).symm, rfl⟩

theorem matchesGlob_literal (s : α) (glob : List (Segment α)) (path : List α) :
    matchesGlob (.literal s :: glob) path = true ↔
      ∃ back, path = s :: back ∧ matchesGlob glob back = true := by
  cases path with
  | nil => simp [matchesGlob]
  | cons part path =>
    rw [matchesGlob, Bool.and_eq_true, decide_eq_true_iff]
    constructor
    · intro ⟨hPart, hRest⟩
      exact ⟨path, by rw [hPart], hRest⟩
    · intro ⟨back, hPath, hBack⟩
      rw [List.cons.injEq] at hPath
      exact ⟨hPath.1.symm, hPath.2 ▸ hBack⟩

theorem matchesGlob_ends (s : α) (path : List α) :
    matchesGlob [.star, .literal s] path = true ↔ ∃ front, path = front ++ [s] := by
  rw [matchesGlob_star]
  constructor
  · intro ⟨front, back, hPath, hBack⟩
    obtain ⟨rest, rfl, hRest⟩ := (matchesGlob_literal s [] back).mp hBack
    rw [matchesGlob, List.isEmpty_iff] at hRest
    exact ⟨front, hRest ▸ hPath⟩
  · intro ⟨front, hPath⟩
    exact ⟨front, [s], hPath, (matchesGlob_literal s [] [s]).mpr ⟨[], rfl, rfl⟩⟩

theorem matchesGlob_contains (s : α) (path : List α) :
    matchesGlob [.star, .literal s, .star] path = true ↔ s ∈ path := by
  rw [matchesGlob_star]
  constructor
  · intro ⟨front, back, hPath, hBack⟩
    obtain ⟨rest, rfl, -⟩ := (matchesGlob_literal s [.star] back).mp hBack
    simp [hPath]
  · intro hMem
    obtain ⟨front, back, hPath⟩ := List.append_of_mem hMem
    exact ⟨front, s :: back, hPath,
      (matchesGlob_literal s [.star] _).mpr ⟨back, rfl, matchesGlob_all back⟩⟩

end Globstar
