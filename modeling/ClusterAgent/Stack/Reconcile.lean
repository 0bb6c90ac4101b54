import ClusterAgent.Lib.Runs
import ClusterAgent.Stack.Settled

/-!
# Cluster agent — the Stack controller over whole runs

One `Reconcile` of the Stack controller adopts stray children, aggregates the
status, and writes it unless its hash is the stored one. This module models the
pass together with what the API server keeps of a status
(`StackStatus.stored`), and proves what holds across passes:

* `lastConverged_over_runs` — the life of the `lastConverged` record in every run;
* `second_reconcile_unchanged_iff` — aggregation is order-independent and
  idempotent, and when a repeated pass writes nothing.
-/

namespace ClusterAgent

open Conditions

/-! ## What the API server keeps -/

def StackResourceConvergenceRecord.stored (r : StackResourceConvergenceRecord) :
    StackResourceConvergenceRecord :=
  { r with «at» := r.at.stored }

def ConvergenceRecord.stored (r : ConvergenceRecord) : ConvergenceRecord :=
  { r with «at» := r.at.stored }

def storedCondition {κ : Type} (c : Condition κ) : Condition κ :=
  { c with lastTransitionTime := storedTime c.lastTransitionTime }

def StackStatus.stored (s : StackStatus) : StackStatus :=
  { s with
    lastConverged := s.lastConverged.map ConvergenceRecord.stored
    conditions := s.conditions.map storedCondition
    resources := s.resources.map fun r =>
      { r with lastConverged := r.lastConverged.map StackResourceConvergenceRecord.stored } }

theorem ConvergenceRecord.stored_stored (r : ConvergenceRecord) :
    r.stored.stored = r.stored := by
  simp [ConvergenceRecord.stored]

theorem StackResourceConvergenceRecord.stored_stored (r : StackResourceConvergenceRecord) :
    r.stored.stored = r.stored := by
  simp [StackResourceConvergenceRecord.stored]

theorem StackStatus.stored_stored (s : StackStatus) : s.stored.stored = s.stored := by
  unfold StackStatus.stored
  simp only [List.map_map, Option.map_map]
  congr 1
  · congr 1
    funext r
    exact r.stored_stored
  · congr 1
    funext c
    simp [storedCondition, storedTime_storedTime]
  · congr 1
    funext r
    simp [StackResourceConvergenceRecord.stored_stored, Function.comp_def]

structure StoredStatus where
  status : StackStatus
  atRest : status.stored = status

def StoredStatus.write (s : StackStatus) : StoredStatus := ⟨s.stored, s.stored_stored⟩

@[simp] theorem StoredStatus.write_lastConverged (s : StackStatus) :
    (StoredStatus.write s).status.lastConverged = s.lastConverged.map ConvergenceRecord.stored :=
  rfl

theorem StoredStatus.lastConverged_stored (s : StoredStatus) :
    s.status.lastConverged.map ConvergenceRecord.stored = s.status.lastConverged :=
  congrArg StackStatus.lastConverged s.atRest

end ClusterAgent

namespace ClusterAgent.StackController

open Conditions hiding findStatusCondition

/-! ## The status hash -/

/-- The digest behind `StatusHash`: the status is printed in full, run through a 64-bit
hash, and the decimal digits of the sum are encoded. Nothing is assumed about it but
that this text is not empty; in particular two statuses may share it. -/
structure StatusHasher where
  hash : StackStatus → String
  ne_empty : ∀ s, hash s ≠ ""

/-- What the hash reads: everything but the hash itself and the conditions'
transition times. -/
def hashedStatus (status : StackStatus) : StackStatus :=
  { status with statusHash := "", conditions := clearTimes status.conditions }

def statusHash (h : StatusHasher) (status : StackStatus) : String := h.hash (hashedStatus status)

/-- The two statuses do not collide: where the digest reads something different, their
hashes differ. -/
def NoCollision (h : StatusHasher) (s s' : StackStatus) : Prop :=
  statusHash h s = statusHash h s' → hashedStatus s = hashedStatus s'

/-! ## One pass -/

structure StackFaults where
  list : Bool := false
  updateChild : String → Bool := fun _ => false
  updateStatus : Bool := false

/-- Adopt the children that match by label but are not controlled by this Stack.
Returns the children as stored afterwards, whether one was adopted, and whether
the loop ended in an error. -/
def ensureChildOwnership (faults : StackFaults) (stack : Stack) :
    List StackResource → List StackResource × Bool × Bool
  | [] => ([], false, false)
  | child :: rest =>
    if isControlledBy child.metadata stack.metadata then
      let (rest', adopted, failed) := ensureChildOwnership faults stack rest
      (child :: rest', adopted, failed)
    else
      match setControllerReference stack.metadata "Stack" child.metadata with
      | none => (child :: rest, false, true)
      | some adoptedMeta =>
        if faults.updateChild child.name then (child :: rest, false, true)
        else
          let (rest', _, failed) := ensureChildOwnership faults stack rest
          ({ child with metadata := adoptedMeta } :: rest', true, failed)

inductive Outcome where
  | failed
  | requeued
  | unchanged
  | updated
  deriving DecidableEq, Repr

/-- One pass over an existing Stack with the children its label selects: what is
written to the status, and how the pass ends. -/
def reconcile (h : StatusHasher) (faults : StackFaults) (clock : Clock) (stack : Stack)
    (children : List StackResource) : Option StackStatus × Outcome :=
  if faults.list then (none, .failed)
  else
    match ensureChildOwnership faults stack children with
    | (_, _, true) => (none, .failed)
    | (_, true, false) => (none, .requeued)
    | (children, false, false) =>
      let previousHash := stack.status.statusHash
      let status := aggregateStackStatus clock stack children
      let status := { status with statusHash := statusHash h status }
      if status.statusHash = previousHash then (none, .unchanged)
      else if faults.updateStatus then (none, .failed)
      else (some status, .updated)

variable {children : List StackResource} {stored : StoredStatus}
  {h : StatusHasher}

theorem ensureChildOwnership_of_owned {faults : StackFaults} (stack : Stack)
    (hOwned : ∀ child ∈ children, isControlledBy child.metadata stack.metadata = true) :
    ensureChildOwnership faults stack children = (children, false, false) := by
  induction children with
  | nil => rfl
  | cons child rest ih =>
    have hchild := hOwned child List.mem_cons_self
    have hrest := ih fun c hc => hOwned c (List.mem_cons_of_mem _ hc)
    rw [ensureChildOwnership, if_pos hchild, hrest]

theorem ensureChildOwnership_children {faults : StackFaults} {stack : Stack}
    {children' : List StackResource}
    (h : ensureChildOwnership faults stack children = (children', false, false)) :
    children' = children := by
  induction children generalizing children' with
  | nil => exact (Prod.mk.inj h).1.symm
  | cons child rest ih =>
    rw [ensureChildOwnership] at h
    split at h
    · cases hr : ensureChildOwnership faults stack rest with
      | mk rest' flags =>
        rw [hr] at h
        obtain ⟨adopted, failed⟩ := flags
        simp only [Prod.mk.injEq] at h
        obtain ⟨rfl, rfl, rfl⟩ := h
        rw [ih hr]
    · split at h
      · simp at h
      · split at h
        · simp at h
        · simp at h

/-- **Everything a pass can do.** It stores nothing because it failed or adopted,
it stores nothing because the hash is the stored one, or it stores the aggregated
status with its hash. -/
theorem reconcile_cases (h : StatusHasher) (faults : StackFaults) (clock : Clock)
    (stack : Stack) (children : List StackResource) :
    ((reconcile h faults clock stack children).1 = none ∧
      ((reconcile h faults clock stack children).2 = .failed ∨
        (reconcile h faults clock stack children).2 = .requeued)) ∨
    (reconcile h faults clock stack children = (none, .unchanged) ∧
      statusHash h (aggregateStackStatus clock stack children) = stack.status.statusHash) ∨
    reconcile h faults clock stack children =
      (some { aggregateStackStatus clock stack children with
              statusHash := statusHash h (aggregateStackStatus clock stack children) },
        .updated) := by
  unfold reconcile
  -- the list, the adoption of children and the write may fail; each of them in turn
  by_cases hlist : faults.list = true
  · rw [if_pos hlist]
    exact Or.inl ⟨rfl, Or.inl rfl⟩
  rw [if_neg hlist]
  cases hown : ensureChildOwnership faults stack children with
  | mk children' flags =>
    obtain ⟨adopted, failed⟩ := flags
    cases failed with
    | true => exact Or.inl ⟨rfl, Or.inl rfl⟩
    | false =>
      cases adopted with
      | true => exact Or.inl ⟨rfl, Or.inr rfl⟩
      | false =>
        rw [ensureChildOwnership_children hown]
        dsimp only
        split
        · next hsame => exact Or.inr (Or.inl ⟨rfl, hsame⟩)
        · split
          · exact Or.inl ⟨rfl, Or.inl rfl⟩
          · exact Or.inr (Or.inr rfl)

theorem reconcile_of_owned (h : StatusHasher) (clock : Clock) (stack : Stack)
    (children : List StackResource)
    (hOwned : ∀ child ∈ children, isControlledBy child.metadata stack.metadata = true) :
    reconcile h {} clock stack children =
      if statusHash h (aggregateStackStatus clock stack children) = stack.status.statusHash then
        (none, .unchanged)
      else
        (some { aggregateStackStatus clock stack children with
                statusHash := statusHash h (aggregateStackStatus clock stack children) },
          .updated) := by
  unfold reconcile
  rw [ensureChildOwnership_of_owned stack hOwned]
  rfl

/-! ## Runs -/

/-- What one pass of a run finds: any metadata and spec of the Stack, any children,
any clock, any failing API calls. Only the status is handed on from pass to pass. -/
structure StackPass where
  metadata : ObjectMeta
  resourceNames : List String
  children : List StackResource
  clock : Clock
  faults : StackFaults := {}

variable {p : StackPass}

namespace StackPass

def stack (p : StackPass) (stored : StoredStatus) : Stack where
  metadata := p.metadata
  resourceNames := p.resourceNames
  status := stored.status

def aggregate (p : StackPass) (stored : StoredStatus) : StackStatus :=
  aggregateStackStatus p.clock (p.stack stored) p.children

def target (p : StackPass) : String × String :=
  (p.metadata.annotations.get revisionAnnotationKey,
    p.metadata.annotations.get releaseIDAnnotationKey)

/-- The pass is managed and its aggregation reports Converged=True. -/
def ReportsConverged (p : StackPass) (stored : StoredStatus) : Prop :=
  (p.stack stored).managed = true ∧
    CurrentlyTrue (p.aggregate stored).conditions p.metadata.generation .converged

end StackPass

def step (h : StatusHasher) (stored : StoredStatus) (p : StackPass) : StoredStatus :=
  match (reconcile h p.faults p.clock (p.stack stored) p.children).1 with
  | none => stored
  | some status => StoredStatus.write status

/-- The pass got as far as aggregating, and its write, if any, succeeded. -/
def Completes (h : StatusHasher) (stored : StoredStatus) (p : StackPass) : Prop :=
  (reconcile h p.faults p.clock (p.stack stored) p.children).2 = .unchanged ∨
    (reconcile h p.faults p.clock (p.stack stored) p.children).2 = .updated

instance (h : StatusHasher) (stored : StoredStatus) (p : StackPass) :
    Decidable (Completes h stored p) := inferInstanceAs (Decidable (_ ∨ _))

/-- The statuses the completed passes of a run have aggregated and hashed. -/
def hashedStatuses (h : StatusHasher) : StoredStatus → List StackPass → List StackStatus
  | _, [] => []
  | stored, p :: passes =>
    if Completes h stored p then p.aggregate stored :: hashedStatuses h (step h stored p) passes
    else hashedStatuses h (step h stored p) passes

theorem step_cases (h : StatusHasher) (stored : StoredStatus) (p : StackPass) :
    (step h stored p = stored ∧ ¬ Completes h stored p) ∨
    (step h stored p = stored ∧ statusHash h (p.aggregate stored) = stored.status.statusHash) ∨
    (Completes h stored p ∧ step h stored p =
      StoredStatus.write { p.aggregate stored with
        statusHash := statusHash h (p.aggregate stored) }) := by
  unfold step Completes
  rcases reconcile_cases h p.faults p.clock (p.stack stored) p.children with
    ⟨hnone, hout⟩ | ⟨heq, hhash⟩ | heq
  · rw [hnone]
    refine Or.inl ⟨rfl, ?_⟩
    rcases hout with hf | hr
    · rw [hf]
      simp
    · rw [hr]
      simp
  · rw [heq]
    exact Or.inr (Or.inl ⟨rfl, hhash⟩)
  · rw [heq]
    exact Or.inr (Or.inr ⟨Or.inr rfl, rfl⟩)

/-! ## The record across one pass -/

section

variable {clock : Clock} {stack : Stack} {converged : Bool}

theorem converged_of_stamp_ne
    (hne : stampLastConverged clock stack converged ≠ stack.status.lastConverged) :
    converged = true ∧ stack.managed = true := by
  rw [stampLastConverged_eq] at hne
  cases hs : stampsLastConverged stack converged with
  | false =>
    rw [hs] at hne
    exact absurd rfl hne
  | true =>
    unfold stampsLastConverged at hs
    simp only [Bool.and_eq_true] at hs
    exact hs.1

theorem stamp_of_target {lc : ConvergenceRecord} (hlc : stack.status.lastConverged = some lc)
    (hrev : lc.revision = stack.revision) (hrel : lc.releaseID = stack.releaseID) :
    stampLastConverged clock stack converged = some lc := by
  rw [stampLastConverged_eq]
  have hs : stampsLastConverged stack converged = false := by
    unfold stampsLastConverged
    rw [hlc]
    simp [hrev, hrel]
  rw [hs, hlc]
  rfl

theorem stamp_target (clock : Clock) (hc : converged = true) (hm : stack.managed = true) :
    ∃ t, stampLastConverged clock stack converged =
      some { revision := stack.revision, releaseID := stack.releaseID, «at» := t } := by
  rw [stampLastConverged_eq]
  cases hs : stampsLastConverged stack converged with
  | true => exact ⟨clock.now, rfl⟩
  | false =>
    unfold stampsLastConverged at hs
    rw [hc, hm] at hs
    cases hlc : stack.status.lastConverged with
    | none =>
      rw [hlc] at hs
      simp at hs
    | some lc =>
      rw [hlc] at hs
      obtain ⟨revision, releaseID, t⟩ := lc
      simp at hs
      obtain ⟨rfl, rfl⟩ := hs
      exact ⟨t, rfl⟩

theorem isSome_stamp (h : stack.status.lastConverged.isSome = true) :
    (stampLastConverged clock stack converged).isSome = true := by
  rw [stampLastConverged_eq]
  split
  · rfl
  · exact h

end

theorem StackPass.lastConverged_aggregate (p : StackPass) (stored : StoredStatus) :
    (p.aggregate stored).lastConverged =
      stampLastConverged p.clock (p.stack stored)
        (childStats (p.stack stored) p.children).converged :=
  StackController.lastConverged_aggregate p.clock (p.stack stored) p.children

theorem StackPass.reportsConverged_iff :
    p.ReportsConverged stored ↔
      (p.stack stored).managed = true ∧
        (childStats (p.stack stored) p.children).converged = true :=
  and_congr_right fun _ => converged_aggregate_iff

theorem lastConverged_step (h : StatusHasher) (stored : StoredStatus) (p : StackPass) :
    (step h stored p).status.lastConverged = stored.status.lastConverged ∨
      (Completes h stored p ∧ (step h stored p).status.lastConverged =
        (p.aggregate stored).lastConverged.map ConvergenceRecord.stored) := by
  rcases step_cases h stored p with ⟨heq, -⟩ | ⟨heq, -⟩ | ⟨hc, heq⟩
  · exact Or.inl (by rw [heq])
  · exact Or.inl (by rw [heq])
  · exact Or.inr ⟨hc, by rw [heq]; rfl⟩

theorem isSome_lastConverged_step (h : StatusHasher) (stored : StoredStatus) (p : StackPass)
    (hs : stored.status.lastConverged.isSome = true) :
    (step h stored p).status.lastConverged.isSome = true := by
  rcases lastConverged_step h stored p with heq | ⟨-, heq⟩
  · rw [heq]
    exact hs
  · rw [heq, Option.isSome_map, p.lastConverged_aggregate]
    exact isSome_stamp hs

theorem reportsConverged_of_step_ne
    (hne : (step h stored p).status.lastConverged ≠ stored.status.lastConverged) :
    Completes h stored p ∧ p.ReportsConverged stored := by
  rcases lastConverged_step h stored p with heq | ⟨hc, heq⟩
  · exact absurd heq hne
  · refine ⟨hc, ?_⟩
    have hstamp : (p.aggregate stored).lastConverged ≠ stored.status.lastConverged := by
      intro hsame
      rw [heq, hsame, stored.lastConverged_stored] at hne
      exact hne rfl
    rw [p.lastConverged_aggregate] at hstamp
    obtain ⟨hconv, hman⟩ := converged_of_stamp_ne hstamp
    exact StackPass.reportsConverged_iff.mpr ⟨hman, hconv⟩

theorem lastConverged_step_of_target {lc : ConvergenceRecord}
    (hlc : stored.status.lastConverged = some lc) (ht : p.target = (lc.revision, lc.releaseID)) :
    (step h stored p).status.lastConverged = some lc := by
  rcases lastConverged_step h stored p with heq | ⟨-, heq⟩
  · rw [heq, hlc]
  · have hstored : lc.stored = lc := by
      have hrest := stored.lastConverged_stored
      rw [hlc] at hrest
      exact Option.some.inj hrest
    obtain ⟨hrev, hrel⟩ := Prod.mk.inj ht
    rw [heq, p.lastConverged_aggregate, stamp_of_target hlc hrev.symm hrel.symm,
      Option.map_some, hstored]

/-! ## The hash invariant -/

/-- The stored hash was never written, or it is the hash of one of these statuses, whose
record is the stored one. -/
def HashConsistent (h : StatusHasher) (hashed : List StackStatus) (stored : StoredStatus) : Prop :=
  stored.status.statusHash = "" ∨
    ∃ s ∈ hashed, stored.status.statusHash = statusHash h s ∧
      stored.status.lastConverged = s.lastConverged.map ConvergenceRecord.stored

theorem HashConsistent.mono {hashed hashed' : List StackStatus} (hSub : hashed ⊆ hashed')
    (hs : HashConsistent h hashed stored) : HashConsistent h hashed' stored := by
  rcases hs with hempty | ⟨s, hmem, hrest⟩
  · exact Or.inl hempty
  · exact Or.inr ⟨s, hSub hmem, hrest⟩

theorem hashConsistent_step {hashed : List StackStatus} (hs : HashConsistent h hashed stored)
    (p : StackPass) :
    HashConsistent h (hashed ++ hashedStatuses h stored [p]) (step h stored p) := by
  rcases step_cases h stored p with ⟨heq, -⟩ | ⟨heq, -⟩ | ⟨hc, heq⟩
  · rw [heq]
    exact hs.mono (List.subset_append_left _ _)
  · rw [heq]
    exact hs.mono (List.subset_append_left _ _)
  · rw [heq]
    refine Or.inr ⟨p.aggregate stored, ?_, rfl, rfl⟩
    rw [hashedStatuses, if_pos hc]
    exact List.mem_append_right _ List.mem_cons_self

theorem hashedStatuses_cons (h : StatusHasher) (stored : StoredStatus) (p : StackPass)
    (passes : List StackPass) :
    hashedStatuses h stored (p :: passes) =
      hashedStatuses h stored [p] ++ hashedStatuses h (step h stored p) passes := by
  simp only [hashedStatuses]
  split <;> rfl

theorem hashConsistent_run {hashed : List StackStatus} (hs : HashConsistent h hashed stored)
    (passes : List StackPass) :
    HashConsistent h (hashed ++ hashedStatuses h stored passes)
      (Runs.run (step h) stored passes) := by
  -- along the passes, with the statuses hashed so far as the accumulator
  induction passes generalizing stored hashed with
  | nil => exact hs.mono (List.subset_append_left _ _)
  | cons p passes ih =>
    rw [hashedStatuses_cons, ← List.append_assoc]
    exact ih (hashConsistent_step hs p)

/-- A skipped write would have stored the record that is already there, unless the
status collides with the one hashed before. -/
theorem lastConverged_of_same_hash {hashed : List StackStatus} {s : StackStatus}
    (hs : HashConsistent h hashed stored) (hApart : ∀ s' ∈ hashed, NoCollision h s s')
    (hsame : statusHash h s = stored.status.statusHash) :
    stored.status.lastConverged = s.lastConverged.map ConvergenceRecord.stored := by
  rcases hs with hempty | ⟨s', hmem, hhash, hrec⟩
  · rw [hempty] at hsame
    exact absurd hsame (h.ne_empty _)
  · have heq : hashedStatus s = hashedStatus s' := hApart s' hmem (hsame.trans hhash)
    have hlc : (hashedStatus s).lastConverged = (hashedStatus s').lastConverged := by rw [heq]
    exact hrec.trans (congrArg (Option.map ConvergenceRecord.stored) hlc.symm)

/-- After a completed pass that is managed and reports Converged=True the record is
for its target. -/
theorem target_of_completes {hashed : List StackStatus} (hs : HashConsistent h hashed stored)
    (hApart : ∀ s ∈ hashed, NoCollision h (p.aggregate stored) s) (hc : Completes h stored p)
    (hrep : p.ReportsConverged stored) :
    ∃ t, (step h stored p).status.lastConverged =
      some { revision := p.target.1, releaseID := p.target.2, «at» := t } := by
  obtain ⟨hman, hconv⟩ := StackPass.reportsConverged_iff.mp hrep
  obtain ⟨t, ht⟩ := stamp_target p.clock hconv hman
  have hwritten : (p.aggregate stored).lastConverged.map ConvergenceRecord.stored =
      some { revision := p.target.1, releaseID := p.target.2, «at» := t.stored } := by
    rw [p.lastConverged_aggregate, ht]
    rfl
  rcases step_cases h stored p with ⟨-, hnot⟩ | ⟨heq, hsame⟩ | ⟨-, heq⟩
  · exact absurd hc hnot
  · exact ⟨t.stored, by rw [heq, lastConverged_of_same_hash hs hApart hsame, hwritten]⟩
  · exact ⟨t.stored, by rw [heq, StoredStatus.write_lastConverged, hwritten]⟩

/-! ## The record over runs -/

/-- Passes that either target the record or do not report convergence leave it
exactly as it is, however many there are. -/
theorem lastConverged_run_of_target {lc : ConvergenceRecord}
    (hlc : stored.status.lastConverged = some lc) {passes : List StackPass}
    (hPasses : ∀ q ∈ passes, ∀ s, q.ReportsConverged s → q.target = (lc.revision, lc.releaseID)) :
    (Runs.run (step h) stored passes).status.lastConverged = some lc := by
  refine Runs.run_preserves (I := fun s : StoredStatus => s.status.lastConverged = some lc)
    ?_ hPasses hlc
  intro s q hq hs
  by_cases hne : (step h s q).status.lastConverged = s.status.lastConverged
  · rw [hne, hs]
  · have hrep := (reportsConverged_of_step_ne hne).2
    exact lastConverged_step_of_target hs (hq s hrep)

/-- **The life of the `lastConverged` record.** In every run, from a status whose
hash was never written, and whatever the digest: once set, the record is never
cleared; it changes only in a completed pass that is managed and reports
Converged=True; after such a pass it is for that pass's target, unless its status
collides with one hashed earlier in the run, whose write the pass would then skip;
and it is not touched, its time included, by passes whose target is the recorded
one, with any number of passes in between that do not report convergence. -/
theorem lastConverged_over_runs (h : StatusHasher) (initial : StoredStatus)
    (hInit : initial.status.statusHash = "") (before : List StackPass) :
    (∀ after, (Runs.run (step h) initial before).status.lastConverged.isSome = true →
      (Runs.run (step h) initial (before ++ after)).status.lastConverged.isSome = true) ∧
    (∀ p : StackPass,
      (Runs.run (step h) initial (before ++ [p])).status.lastConverged ≠
        (Runs.run (step h) initial before).status.lastConverged →
      Completes h (Runs.run (step h) initial before) p ∧
        p.ReportsConverged (Runs.run (step h) initial before)) ∧
    (∀ p : StackPass, (∀ s ∈ hashedStatuses h initial before,
        NoCollision h (p.aggregate (Runs.run (step h) initial before)) s) →
      Completes h (Runs.run (step h) initial before) p →
      p.ReportsConverged (Runs.run (step h) initial before) →
      ∃ t, (Runs.run (step h) initial (before ++ [p])).status.lastConverged =
        some { revision := p.target.1, releaseID := p.target.2, «at» := t }) ∧
    (∀ lc, (Runs.run (step h) initial before).status.lastConverged = some lc →
      ∀ after : List StackPass,
      (∀ q ∈ after, ∀ s, q.ReportsConverged s → q.target = (lc.revision, lc.releaseID)) →
      (Runs.run (step h) initial (before ++ after)).status.lastConverged = some lc) := by
  refine ⟨?_, ?_, ?_, ?_⟩
  · intro after hs
    rw [Runs.run_append]
    exact Runs.run_invariant (isSome_lastConverged_step h) hs after
  · intro p hne
    rw [Runs.run_append] at hne
    exact reportsConverged_of_step_ne hne
  -- the hash on status is that of a status the run has hashed
  · intro p hApart hc hrep
    have hcons : HashConsistent h (hashedStatuses h initial before)
        (Runs.run (step h) initial before) := by
      have hFresh : HashConsistent h [] initial := Or.inl hInit
      exact hashConsistent_run hFresh before
    rw [Runs.run_append]
    exact target_of_completes hcons hApart hc hrep
  · intro lc hlc after hAfter
    rw [Runs.run_append]
    exact lastConverged_run_of_target hlc hAfter

def freshStatus : StoredStatus := ⟨{}, rfl⟩

def tokenPass (clock : Clock) : StackPass where
  metadata := { tokenStack.metadata with uid := "u1" }
  resourceNames := tokenStack.resourceNames
  children :=
    [{ tokenChild with
       metadata := { tokenChild.metadata with
         ownerReferences :=
           [{ kind := "Stack", name := "shop", uid := "u1", controller := true }] } }]
  clock := clock

/-- A digest that reads of a status only whether its record has a clock reading. -/
def recordHasher : StatusHasher where
  hash s := if (s.lastConverged.bind fun r => r.at.monotonic).isSome then "stamped" else "stored"
  ne_empty s := by split <;> decide

theorem lastConverged_over_token_run :
    ∃ t, (Runs.run (step recordHasher) freshStatus
        [tokenPass ⟨5, 7⟩, tokenPass ⟨9, 11⟩]).status.lastConverged =
      some { revision := "root-1", releaseID := "", «at» := t } := by
  refine (lastConverged_over_runs recordHasher freshStatus rfl [tokenPass ⟨5, 7⟩]).2.2.1
    (tokenPass ⟨9, 11⟩) ?_ ?_ ?_
  · have hhashed : hashedStatuses recordHasher freshStatus [tokenPass ⟨5, 7⟩] =
        [(tokenPass ⟨5, 7⟩).aggregate freshStatus] := by
      rw [hashedStatuses, if_pos (by decide +kernel)]
      rfl
    intro s hs hsame
    rw [hhashed, List.mem_singleton] at hs
    subst hs
    -- the record read back has lost the reading that was hashed
    exact absurd hsame (by decide +kernel)
  · decide +kernel
  · exact ⟨by decide +kernel, by decide +kernel⟩

/-! ## Order of the children -/

theorem sortNames_perm {names names' : List String} (h : names.Perm names') :
    sortNames names = sortNames names' := by
  have hperm : (sortNames names).Perm (sortNames names') :=
    ((List.perm_insertionSort _ names).trans h).trans (List.perm_insertionSort _ names').symm
  exact hperm.eq_of_pairwise' (List.pairwise_insertionSort _ names)
    (List.pairwise_insertionSort _ names')

theorem childStats_perm {stack : Stack} {children' : List StackResource}
    (hNames : (children.map StackResource.name).Nodup) (hPerm : children'.Perm children) :
    childStats stack children' = childStats stack children := by
  have hNames' : (children'.map StackResource.name).Nodup :=
    (hPerm.map StackResource.name).nodup_iff.mpr hNames
  have horphans : (childStats stack children').orphans = (childStats stack children).orphans := by
    unfold childStats
    rw [collectChildStats_eq, collectChildStats_eq]
    exact sortNames_perm ((hPerm.filter _).map _)
  rw [childStats_congr rfl rfl hNames hNames' fun child _ => hPerm.mem_iff.symm, horphans]

theorem aggregateStackStatus_perm {clock : Clock} {stack : Stack} {children' : List StackResource}
    (hNames : (children.map StackResource.name).Nodup) (hPerm : children'.Perm children) :
    aggregateStackStatus clock stack children' = aggregateStackStatus clock stack children := by
  unfold aggregateStackStatus stackState
  rw [childStats_perm hNames hPerm]

/-! ## Aggregating again -/

theorem deriveState_congr {stats : ChildStats} {resourcesConverged managed : Bool}
    {rootRev : String} {lc lc' : Option ConvergenceRecord}
    (h : lc'.map ConvergenceRecord.revision = lc.map ConvergenceRecord.revision) :
    deriveState stats resourcesConverged managed rootRev lc' =
      deriveState stats resourcesConverged managed rootRev lc := by
  cases lc with
  | none =>
    cases lc' with
    | none => rfl
    | some r' => simp at h
  | some r =>
    cases lc' with
    | none => simp at h
    | some r' =>
      have hrev : r'.revision = r.revision := by simpa using h
      unfold deriveState
      simp only [hrev, Option.isSome_some]

def upToTimes (s : StackStatus) : StackStatus := { s with conditions := clearTimes s.conditions }

theorem upToTimes_aggregate (clock : Clock) (stack : Stack) (children : List StackResource) :
    upToTimes (aggregateStackStatus clock stack children) =
      { withoutConditions (aggregateStackStatus clock stack children) with
        conditions := clearTimes (aggregateStackStatus clock stack children).conditions } := rfl

/-- **Aggregating again.** Over any stored status that has the conditions of the
first aggregation and a record for the same target, a second aggregation computes
the first one's status with that record. -/
theorem upToTimes_aggregate_again (clock later : Clock) (stack : Stack) (status : StackStatus)
    (children : List StackResource)
    (hConds : clearTimes status.conditions =
      clearTimes (aggregateStackStatus clock stack children).conditions)
    (hRevision : status.lastConverged.map ConvergenceRecord.revision =
      (aggregateStackStatus clock stack children).lastConverged.map ConvergenceRecord.revision)
    (hRelease : status.lastConverged.map ConvergenceRecord.releaseID =
      (aggregateStackStatus clock stack children).lastConverged.map ConvergenceRecord.releaseID) :
    upToTimes (aggregateStackStatus later { stack with status := status } children) =
      { upToTimes (aggregateStackStatus clock stack children) with
        lastConverged := status.lastConverged } := by
  rw [lastConverged_aggregate] at hRevision hRelease
  have hstats : childStats { stack with status := status } children =
      childStats stack children := rfl
  -- the record is for the target already, so the second aggregation does not stamp
  have hstamp : stampLastConverged later { stack with status := status }
      (childStats stack children).converged = status.lastConverged := by
    by_cases hcm : (childStats stack children).converged = true ∧ stack.managed = true
    · obtain ⟨t, ht⟩ := stamp_target clock hcm.1 hcm.2
      rw [ht] at hRevision hRelease
      cases hlc : status.lastConverged with
      | none =>
        rw [hlc] at hRevision
        simp at hRevision
      | some lc =>
        rw [hlc] at hRevision hRelease
        exact stamp_of_target hlc (Option.some.inj hRevision) (Option.some.inj hRelease)
    · by_contra hne
      have hcm' : (childStats stack children).converged = true ∧
          ({ stack with status := status } : Stack).managed = true := converged_of_stamp_ne hne
      exact hcm hcm'
  have hstate : stackState later { stack with status := status } children =
      stackState clock stack children := by
    unfold stackState
    rw [hstats]
    dsimp only
    rw [hstamp]
    exact deriveState_congr hRevision
  have hconds : clearTimes
      (aggregateStackStatus later { stack with status := status } children).conditions =
      clearTimes (aggregateStackStatus clock stack children).conditions := by
    rw [clearTimes_aggregate, hstats, hstate]
    show putAll (clearTimes status.conditions) _ = _
    rw [hConds, clearTimes_aggregate]
    exact putAll_putAll nodup_stackVerdicts _
  rw [upToTimes_aggregate, upToTimes_aggregate, hconds, withoutConditions_aggregate,
    withoutConditions_aggregate, hstats, hstate, hstamp]
  rfl

theorem upToTimes_aggregate_clock {clock later : Clock} {stack : Stack}
    (hs : stampsLastConverged stack (childStats stack children).converged = false) :
    upToTimes (aggregateStackStatus later stack children) =
      upToTimes (aggregateStackStatus clock stack children) := by
  have hstamp : ∀ c : Clock, stampLastConverged c stack (childStats stack children).converged =
      stack.status.lastConverged := by
    intro c
    rw [stampLastConverged_eq, hs]
    rfl
  have hstate : stackState later stack children = stackState clock stack children := by
    unfold stackState
    dsimp only
    rw [hstamp later, hstamp clock]
  rw [upToTimes_aggregate, upToTimes_aggregate, clearTimes_aggregate, clearTimes_aggregate,
    withoutConditions_aggregate, withoutConditions_aggregate, hstate, hstamp later, hstamp clock]

theorem clearTimes_map_storedCondition {κ : Type} {conds : List (Condition κ)} :
    clearTimes (conds.map storedCondition) = clearTimes conds := by
  unfold clearTimes
  rw [List.map_map]
  rfl

theorem statusHash_aggregate (h : StatusHasher) (clock : Clock) (stack : Stack)
    (children : List StackResource) :
    statusHash h (aggregateStackStatus clock stack children) =
      h.hash (upToTimes (aggregateStackStatus clock stack children)) := by
  have hempty : (aggregateStackStatus clock stack children).statusHash = "" :=
    congrArg StackStatus.statusHash (withoutConditions_aggregate clock stack children)
  unfold statusHash hashedStatus upToTimes
  rw [← hempty]

/-- The pass stamps a fresh record: the Stack is managed, settled, and not recorded as
converged on its target yet. -/
def StampsRecord (stack : Stack) (children : List StackResource) : Prop :=
  stack.revision ≠ "" ∧ Settled stack children ∧
    ∀ lc, stack.status.lastConverged = some lc →
      lc.revision ≠ stack.revision ∨ lc.releaseID ≠ stack.releaseID

theorem stampsLastConverged_iff (stack : Stack) (hNames : (children.map StackResource.name).Nodup) :
    stampsLastConverged stack (childStats stack children).converged = true ↔
      StampsRecord stack children := by
  have hman : stack.managed = true ↔ stack.revision ≠ "" := by simp [Stack.managed]
  unfold stampsLastConverged
  rw [Bool.and_eq_true, Bool.and_eq_true, converged_childStats_iff hNames, hman,
    and_comm (a := Settled stack children), and_assoc]
  refine and_congr_right fun _ => and_congr_right fun _ => ?_
  cases stack.status.lastConverged with
  | none => simp
  | some lc => simp

/-! ## A second pass over the same inputs -/

section

variable {h : StatusHasher} {stored : StoredStatus} {p : StackPass} {later : Clock}

theorem upToTimes_aggregate_written (s : String) :
    upToTimes (aggregateStackStatus later
        (p.stack (StoredStatus.write { p.aggregate stored with statusHash := s })) p.children) =
      { upToTimes (p.aggregate stored) with
        lastConverged := (p.aggregate stored).lastConverged.map ConvergenceRecord.stored } := by
  refine upToTimes_aggregate_again p.clock later (p.stack stored)
    (StoredStatus.write { p.aggregate stored with statusHash := s }).status p.children ?_ ?_ ?_
  · exact clearTimes_map_storedCondition
  · show ((p.aggregate stored).lastConverged.map _).map _ = _
    rw [Option.map_map]
    rfl
  · show ((p.aggregate stored).lastConverged.map _).map _ = _
    rw [Option.map_map]
    rfl

variable (hFaults : p.faults = {})
  (hOwned : ∀ child ∈ p.children, isControlledBy child.metadata p.metadata = true)
include hFaults hOwned

theorem step_of_owned :
    (statusHash h (p.aggregate stored) = stored.status.statusHash ∧
        step h stored p = stored) ∨
      (statusHash h (p.aggregate stored) ≠ stored.status.statusHash ∧
        step h stored p = StoredStatus.write
          { p.aggregate stored with statusHash := statusHash h (p.aggregate stored) }) := by
  have hrec := reconcile_of_owned h p.clock (p.stack stored) p.children hOwned
  unfold step
  rw [hFaults, hrec]
  by_cases hsame : statusHash h (aggregateStackStatus p.clock (p.stack stored) p.children) =
      (p.stack stored).status.statusHash
  · refine Or.inl ⟨hsame, ?_⟩
    rw [if_pos hsame]
  · refine Or.inr ⟨hsame, ?_⟩
    rw [if_neg hsame]
    rfl

theorem statusHash_step_of_owned :
    (step h stored p).status.statusHash = statusHash h (p.aggregate stored) := by
  rcases step_of_owned hFaults hOwned with ⟨hsame, heq⟩ | ⟨-, heq⟩
  · rw [heq, hsame]
  · rw [heq]
    rfl

theorem statusHash_second
    (hs : stampsLastConverged (p.stack stored)
      (childStats (p.stack stored) p.children).converged = false) :
    statusHash h (aggregateStackStatus later (p.stack (step h stored p)) p.children) =
      statusHash h (p.aggregate stored) := by
  have hrec : (p.aggregate stored).lastConverged = stored.status.lastConverged := by
    rw [p.lastConverged_aggregate, stampLastConverged_eq, hs]
    rfl
  rcases step_of_owned hFaults hOwned with ⟨-, heq⟩ | ⟨-, heq⟩
  · rw [heq, statusHash_aggregate, upToTimes_aggregate_clock hs, ← statusHash_aggregate]
    rfl
  · rw [heq, statusHash_aggregate, upToTimes_aggregate_written, hrec,
      stored.lastConverged_stored, ← hrec]
    exact (statusHash_aggregate h p.clock (p.stack stored) p.children).symm

/-- After a stamp it does so only by a collision: the first pass hashed the record with its
clock reading, which the API server does not keep. -/
theorem no_stamp_of_statusHash_second (hLater : p.clock.monotonic < later.monotonic)
    (hApart : NoCollision h (aggregateStackStatus later (p.stack (step h stored p)) p.children)
      (p.aggregate stored))
    (hsame : statusHash h (aggregateStackStatus later (p.stack (step h stored p)) p.children) =
      statusHash h (p.aggregate stored)) :
    stampsLastConverged (p.stack stored)
      (childStats (p.stack stored) p.children).converged = false := by
  refine Bool.eq_false_iff.mpr fun hs => ?_
  have hfirst := p.lastConverged_aggregate stored
  rw [stampLastConverged_eq, hs, if_pos rfl] at hfirst
  have hread := congrArg StackStatus.lastConverged (hApart hsame)
  have hrec : (aggregateStackStatus later (p.stack (step h stored p)) p.children).lastConverged =
      (p.aggregate stored).lastConverged := hread
  rcases step_of_owned hFaults hOwned with ⟨-, heq⟩ | ⟨-, heq⟩
  · -- nothing was written: the second pass stamps its own, later reading
    rw [heq, lastConverged_aggregate, stampLastConverged_eq, hs, hfirst] at hrec
    have hat : later.now = p.clock.now := congrArg ConvergenceRecord.at (Option.some.inj hrec)
    have hmono : later.monotonic = p.clock.monotonic :=
      Option.some.inj (congrArg Timestamp.monotonic hat)
    omega
  · -- the record was written: the second pass reads it back without the reading
    have hback : (aggregateStackStatus later (p.stack (step h stored p)) p.children).lastConverged =
        (p.aggregate stored).lastConverged.map ConvergenceRecord.stored := by
      rw [heq]
      exact congrArg StackStatus.lastConverged (upToTimes_aggregate_written _)
    rw [hback, hfirst] at hrec
    have hat : p.clock.now.stored = p.clock.now :=
      congrArg ConvergenceRecord.at (Option.some.inj hrec)
    exact p.clock.now_ne_stored p.clock.now hat.symm

theorem second_reconcile_unchanged_of_hash :
    (reconcile h {} later (p.stack (step h stored p)) p.children).2 = .unchanged ↔
      statusHash h (aggregateStackStatus later (p.stack (step h stored p)) p.children) =
        statusHash h (p.aggregate stored) := by
  have hhash : (p.stack (step h stored p)).status.statusHash =
      statusHash h (p.aggregate stored) := statusHash_step_of_owned hFaults hOwned
  rw [reconcile_of_owned h later (p.stack (step h stored p)) p.children hOwned, hhash]
  split
  · next heq => exact ⟨fun _ => heq, fun _ => rfl⟩
  · next hne => exact ⟨fun hout => by simp at hout, fun heq => absurd heq hne⟩

end

/-- The aggregation of a pass does not depend on the order of the children; aggregating
again over its own result changes nothing but transition times; and a later second
`Reconcile` computes the same hash and writes nothing. -/
structure Idempotent (h : StatusHasher) (stored : StoredStatus) (p : StackPass) (later : Clock) :
    Prop where
  order : ∀ children', children'.Perm p.children →
    aggregateStackStatus p.clock (p.stack stored) children' = p.aggregate stored
  again : upToTimes (aggregateStackStatus later
      { p.stack stored with status := p.aggregate stored } p.children) =
    upToTimes (p.aggregate stored)
  hash : statusHash h (aggregateStackStatus later (p.stack (step h stored p)) p.children) =
    statusHash h (p.aggregate stored)
  unchanged : (reconcile h {} later (p.stack (step h stored p)) p.children).2 = .unchanged

/-- **Order independence, fixpoint and the second pass.** A pass over owned children with
distinct names is idempotent, whatever the digest, unless it stamps a fresh record. If it
does stamp one it is not, unless the statuses of the two passes collide. -/
theorem second_reconcile_unchanged_iff (h : StatusHasher) (stored : StoredStatus)
    (p : StackPass) (later : Clock) (hFaults : p.faults = {})
    (hNames : (p.children.map StackResource.name).Nodup)
    (hOwned : ∀ child ∈ p.children, isControlledBy child.metadata p.metadata = true)
    (hLater : p.clock.monotonic < later.monotonic) :
    (¬ StampsRecord (p.stack stored) p.children → Idempotent h stored p later) ∧
      (NoCollision h (aggregateStackStatus later (p.stack (step h stored p)) p.children)
          (p.aggregate stored) →
        Idempotent h stored p later → ¬ StampsRecord (p.stack stored) p.children) := by
  have hstamps := stampsLastConverged_iff (p.stack stored) hNames
  refine ⟨fun hcond => ?_, fun hApart hIdempotent => ?_⟩
  · have hsame : statusHash h
        (aggregateStackStatus later (p.stack (step h stored p)) p.children) =
          statusHash h (p.aggregate stored) :=
      statusHash_second hFaults hOwned (Bool.eq_false_iff.mpr (hstamps.not.mpr hcond))
    exact ⟨fun children' hPerm => aggregateStackStatus_perm hNames hPerm,
      upToTimes_aggregate_again p.clock later (p.stack stored) (p.aggregate stored) p.children
        rfl rfl rfl,
      hsame, (second_reconcile_unchanged_of_hash hFaults hOwned).mpr hsame⟩
  · exact hstamps.not.mp (Bool.eq_false_iff.mp
      (no_stamp_of_statusHash_second hFaults hOwned hLater hApart hIdempotent.hash))

def recordedStatus : StoredStatus :=
  ⟨{ lastConverged := some { revision := "root-1", «at» := ⟨0, none⟩ } }, rfl⟩

theorem second_reconcile_unchanged_recorded :
    (reconcile recordHasher {} ⟨9, 11⟩
      ((tokenPass ⟨5, 7⟩).stack (step recordHasher recordedStatus (tokenPass ⟨5, 7⟩)))
      (tokenPass ⟨5, 7⟩).children).2 = .unchanged := by
  refine ((second_reconcile_unchanged_iff recordHasher recordedStatus (tokenPass ⟨5, 7⟩) ⟨9, 11⟩
    rfl (by decide) (by decide) (by decide)).1 ?_).unchanged
  rintro ⟨-, -, hdiff⟩
  exact absurd (hdiff _ rfl) (by decide)

/-- The pass after the first convergence writes once more although nothing changed, whatever
the digest, unless it maps the two statuses to one text. -/
theorem second_reconcile_writes_after_stamp :
    ¬ ∃ h : StatusHasher,
      NoCollision h (aggregateStackStatus ⟨9, 11⟩
          ((tokenPass ⟨5, 7⟩).stack (step h freshStatus (tokenPass ⟨5, 7⟩)))
          (tokenPass ⟨5, 7⟩).children)
        ((tokenPass ⟨5, 7⟩).aggregate freshStatus) ∧
      (reconcile h {} ⟨9, 11⟩ ((tokenPass ⟨5, 7⟩).stack (step h freshStatus (tokenPass ⟨5, 7⟩)))
        (tokenPass ⟨5, 7⟩).children).2 = .unchanged := by
  rintro ⟨h, hApart, hUnchanged⟩
  have hFaults : (tokenPass ⟨5, 7⟩).faults = {} := rfl
  have hOwned : ∀ child ∈ (tokenPass ⟨5, 7⟩).children,
      isControlledBy child.metadata (tokenPass ⟨5, 7⟩).metadata = true := by decide
  have hsame := (second_reconcile_unchanged_of_hash hFaults hOwned).mp hUnchanged
  exact absurd (no_stamp_of_statusHash_second hFaults hOwned (by decide) hApart hsame) (by decide)

end ClusterAgent.StackController
