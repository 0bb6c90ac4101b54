import ClusterAgent.Stack.Aggregate

/-!
# Cluster agent — what a Stack's conditions mean

The aggregation decides through counters, sorted lists and a priority switch.
This module says what those decisions are for, in terms of the Stack and its
children only, and proves that the aggregation computes exactly that:

* `Settled` — every desired child exists and has rolled out what the Stack
  targets, and no other child exists;
* `converged_childStats_iff` — the counters agree with `Settled`;
* `aggregateStackStatus_converged_iff` — Converged, the Ready phase, and what
  children outside `spec.resourceNames` can influence;
* `lastConverged_stamp_desired` — what a fresh `lastConverged` record vouches for;
* `progressing_iff_revision_differs` — when an unsettled managed Stack counts as
  an active rollout;
* `stalled_message_iff` — when the message of Stalled names the stalled children.
-/

namespace ClusterAgent.StackController

open Conditions hiding findStatusCondition

/-! ## Conditions reported for the current generation -/

def CurrentlyTrue {κ : Type} [DecidableEq κ] (conds : List (Condition κ)) (generation : Int)
    (t : κ) : Prop :=
  ∃ c, Conditions.findStatusCondition conds t = some c ∧
    c.observedGeneration = generation ∧ c.status = .conditionTrue

theorem isTrue_findStatusCondition_iff {κ : Type} [DecidableEq κ]
    {conds : List (Condition κ)} {generation : Int} {t : κ} :
    isTrue (findStatusCondition conds generation t) = true ↔
      CurrentlyTrue conds generation t := by
  unfold findStatusCondition CurrentlyTrue
  cases Conditions.findStatusCondition conds t with
  | none => simp [isTrue]
  | some c =>
    by_cases hg : c.observedGeneration = generation
    · simp [hg, isTrue]
    · simp [hg, isTrue]

instance {κ : Type} [DecidableEq κ] (conds : List (Condition κ)) (generation : Int) (t : κ) :
    Decidable (CurrentlyTrue conds generation t) :=
  decidable_of_iff _ isTrue_findStatusCondition_iff

def reported (status : StackStatus) (t : StackCondition) : Option (Condition StackCondition) :=
  (Conditions.findStatusCondition status.conditions t).map Condition.clearTime

theorem currentlyTrue_iff_reported {status : StackStatus} {generation : Int}
    {t : StackCondition} :
    CurrentlyTrue status.conditions generation t ↔
      ∃ c, reported status t = some c ∧
        c.observedGeneration = generation ∧ c.status = .conditionTrue := by
  unfold CurrentlyTrue reported
  cases Conditions.findStatusCondition status.conditions t with
  | none => simp
  | some c => simp

/-! ## Looking up a desired child -/

variable {children : List StackResource} {name : String} {stack : Stack}

theorem childMap_eq_some_iff {child : StackResource}
    (hNames : (children.map StackResource.name).Nodup) :
    childMap children name = some child ↔ child ∈ children ∧ child.name = name := by
  constructor
  · intro h
    have hmem := List.mem_of_find?_eq_some h
    have hname := List.find?_some h
    exact ⟨List.mem_reverse.mp hmem, by simpa using hname⟩
  · rintro ⟨hmem, hname⟩
    unfold childMap
    cases hf : children.reverse.find? fun c => decide (c.name = name) with
    | none =>
      have := List.find?_eq_none.mp hf child (List.mem_reverse.mpr hmem)
      simp [hname] at this
    | some other =>
      -- both children carry the same name, so they are the same
      have hother : other ∈ children := List.mem_reverse.mp (List.mem_of_find?_eq_some hf)
      have hon : other.name = name := by simpa using List.find?_some hf
      rw [List.inj_on_of_nodup_map hNames hother hmem (hon.trans hname.symm)]

/-- Two lists of children with the same members of each desired name have the
same desired children. -/
theorem childMap_congr {children' : List StackResource}
    (hNames : (children.map StackResource.name).Nodup)
    (hNames' : (children'.map StackResource.name).Nodup)
    (hSame : ∀ child : StackResource, child.name = name → (child ∈ children ↔ child ∈ children')) :
    childMap children name = childMap children' name := by
  ext child
  rw [childMap_eq_some_iff hNames, childMap_eq_some_iff hNames']
  constructor
  · rintro ⟨hmem, hname⟩
    exact ⟨(hSame child hname).mp hmem, hname⟩
  · rintro ⟨hmem, hname⟩
    exact ⟨(hSame child hname).mpr hmem, hname⟩

/-! ## Settled children, settled stacks -/

/-- The child has rolled out what the Stack targets. A managed Stack demands
that the child observed the revision stamped **on the child**, and that it
belongs to the Stack's release when the Stack names one. -/
structure ChildSettled (stack : Stack) (child : StackResource) : Prop where
  converged : CurrentlyTrue child.status.conditions child.generation (.summary .converged)
  revision : stack.revision ≠ "" →
    child.revision ≠ "" ∧ child.revision = child.status.observedRevision
  release : stack.revision ≠ "" → stack.releaseID ≠ "" → child.releaseID = stack.releaseID

/-- Every desired child exists and is settled, and nothing else exists. -/
structure Settled (stack : Stack) (children : List StackResource) : Prop where
  desired : ∀ name ∈ stack.resourceNames,
    ∃ child ∈ children, child.name = name ∧ ChildSettled stack child
  noOrphan : ∀ child ∈ children, child.name ∈ stack.resourceNames

theorem childConvergence_fst (child : StackResource) (conds : ChildConditions)
    (managed : Bool) (releaseID : String) :
    (childConvergence child conds managed releaseID).1 =
      (isTrue conds.converged && (!managed ||
        (decide (child.revision ≠ "") &&
          decide (child.status.observedRevision = child.revision) &&
          (decide (releaseID = "") || decide (child.releaseID = releaseID))))) := by
  unfold childConvergence
  cases managed with
  | true =>
    simp only [if_true, Bool.true_and, Bool.not_true, Bool.false_or, Bool.and_assoc]
    split
    · next h => rw [h]
    · next h =>
      -- every explanation branch answers "not converged"
      rw [Bool.eq_false_of_not_eq_true h]
      repeat' split
      all_goals rfl
  | false =>
    simp only [Bool.false_eq_true, if_false, Bool.false_and, Bool.not_false, Bool.true_or,
      Bool.and_true]
    split
    · next h => rw [h]
    · next h =>
      rw [Bool.eq_false_of_not_eq_true h]
      repeat' split
      all_goals rfl

theorem childConverged_iff {child : StackResource} :
    childConverged stack.managed stack.releaseID child = true ↔ ChildSettled stack child := by
  have hconv : isTrue (currentChildConditions child).converged = true ↔
      CurrentlyTrue child.status.conditions child.generation (.summary .converged) :=
    isTrue_findStatusCondition_iff
  unfold childConverged
  rw [childConvergence_fst, Bool.and_eq_true, hconv]
  -- an unmanaged Stack has no revision the child could lag behind
  by_cases hm : stack.revision = ""
  · have hman : stack.managed = false := by simp [Stack.managed, hm]
    rw [hman]
    constructor
    · rintro ⟨h, -⟩
      exact ⟨h, fun hr => absurd hm hr, fun hr => absurd hm hr⟩
    · intro h
      exact ⟨h.converged, rfl⟩
  · have hman : stack.managed = true := by simp [Stack.managed, hm]
    rw [hman]
    simp only [Bool.not_true, Bool.false_or, Bool.and_eq_true, Bool.or_eq_true,
      decide_eq_true_eq]
    constructor
    · rintro ⟨h, ⟨hne, hobs⟩, hrel⟩
      refine ⟨h, fun _ => ⟨hne, hobs.symm⟩, fun _ hr => ?_⟩
      exact hrel.resolve_left hr
    · intro h
      obtain ⟨hne, hobs⟩ := h.revision hm
      refine ⟨h.converged, ⟨hne, hobs.symm⟩, ?_⟩
      -- without a release id any release of the child will do
      by_cases hr : stack.releaseID = ""
      · exact Or.inl hr
      · exact Or.inr (h.release hm hr)

/-! ## The counters and lists of stage 1 -/

theorem length_sortNames (names : List String) : (sortNames names).length = names.length :=
  List.length_insertionSort _ names

theorem any_lookup_iff {lookup : String → Option StackResource} {p : StackResource → Bool} :
    (lookup name).any p = true ↔ ∃ child, lookup name = some child ∧ p child = true := by
  cases lookup name with
  | none => simp
  | some child => simp

theorem length_filter_pos_iff {names : List String} {p : String → Bool} :
    0 < (names.filter p).length ↔ ∃ name ∈ names, p name = true := by
  rw [List.length_pos_iff_exists_mem]
  simp [List.mem_filter]

/-- The converged counter reaches the number of desired names exactly when each
name has a settled child. -/
theorem resourcesConverged_childStats_iff :
    (childStats stack children).resourcesConverged = true ↔
      ∀ name ∈ stack.resourceNames,
        ∃ child, childMap children name = some child ∧ ChildSettled stack child := by
  unfold ChildStats.resourcesConverged childStats
  rw [collectChildStats_eq, decide_eq_true_eq, List.countP_eq_length]
  constructor
  · intro h name hname
    obtain ⟨child, hl, hc⟩ := any_lookup_iff.mp (h name hname)
    exact ⟨child, hl, childConverged_iff.mp hc⟩
  · intro h name hname
    obtain ⟨child, hl, hc⟩ := h name hname
    exact any_lookup_iff.mpr ⟨child, hl, childConverged_iff.mpr hc⟩

theorem orphans_childStats_eq_zero_iff :
    (childStats stack children).orphans.length = 0 ↔
      ∀ child ∈ children, child.name ∈ stack.resourceNames := by
  unfold childStats
  rw [collectChildStats_eq]
  simp only [length_sortNames, List.length_map, List.length_eq_zero_iff,
    List.filter_eq_nil_iff, decide_eq_true_eq, not_not]

theorem converged_childStats_iff (hNames : (children.map StackResource.name).Nodup) :
    (childStats stack children).converged = true ↔ Settled stack children := by
  unfold ChildStats.converged
  rw [Bool.and_eq_true, resourcesConverged_childStats_iff, decide_eq_true_eq,
    orphans_childStats_eq_zero_iff]
  constructor
  · rintro ⟨hdes, horph⟩
    refine ⟨fun name hname => ?_, horph⟩
    obtain ⟨child, hl, hs⟩ := hdes name hname
    obtain ⟨hmem, hcn⟩ := (childMap_eq_some_iff hNames).mp hl
    exact ⟨child, hmem, hcn, hs⟩
  · intro h
    refine ⟨fun name hname => ?_, h.noOrphan⟩
    obtain ⟨child, hmem, hcn, hs⟩ := h.desired name hname
    exact ⟨child, (childMap_eq_some_iff hNames).mpr ⟨hmem, hcn⟩, hs⟩

theorem missing_childStats_eq_zero_iff :
    (childStats stack children).missing.length = 0 ↔
      ∀ name ∈ stack.resourceNames, ∃ child, childMap children name = some child := by
  unfold childStats
  rw [collectChildStats_eq]
  simp only [length_sortNames, List.length_eq_zero_iff, List.filter_eq_nil_iff,
    Option.isNone_iff_eq_none, ← Option.ne_none_iff_exists', ne_eq]

theorem stalled_childStats_pos_iff :
    0 < (childStats stack children).stalled.length ↔
      ∃ name ∈ stack.resourceNames, ∃ child, childMap children name = some child ∧
        CurrentlyTrue child.status.conditions child.generation (.summary .stalled) := by
  unfold childStats
  rw [collectChildStats_eq, length_sortNames, length_filter_pos_iff]
  constructor
  · rintro ⟨name, hname, h⟩
    obtain ⟨child, hl, hs⟩ := any_lookup_iff.mp h
    exact ⟨name, hname, child, hl, isTrue_findStatusCondition_iff.mp hs⟩
  · rintro ⟨name, hname, child, hl, hs⟩
    exact ⟨name, hname, any_lookup_iff.mpr ⟨child, hl, isTrue_findStatusCondition_iff.mpr hs⟩⟩

theorem childStats_congr {stack' : Stack} {children' : List StackResource}
    (hMeta : stack'.metadata = stack.metadata)
    (hDesired : stack'.resourceNames = stack.resourceNames)
    (hNames : (children.map StackResource.name).Nodup)
    (hNames' : (children'.map StackResource.name).Nodup)
    (hSame : ∀ child : StackResource, child.name ∈ stack.resourceNames →
      (child ∈ children ↔ child ∈ children')) :
    childStats stack' children' =
      { childStats stack children with orphans := (childStats stack' children').orphans } := by
  -- the map is only asked for desired names, and there both lists agree
  have hlookup : ∀ name ∈ stack.resourceNames, childMap children name = childMap children' name :=
    fun name hname => childMap_congr hNames hNames' fun child hc =>
      hSame child (hc ▸ hname)
  have hfilter : ∀ p : Option StackResource → Bool,
      stack.resourceNames.filter (fun n => p (childMap children n)) =
        stack.resourceNames.filter (fun n => p (childMap children' n)) := fun p =>
    List.filter_congr fun name hname => by rw [hlookup name hname]
  have hcount : ∀ p : Option StackResource → Bool,
      stack.resourceNames.countP (fun n => p (childMap children n)) =
        stack.resourceNames.countP (fun n => p (childMap children' n)) := fun p =>
    List.countP_congr fun name hname => by rw [hlookup name hname]
  have hsummaries : ∀ (managed : Bool) (releaseID : String),
      stack.resourceNames.map (nameSummary (childMap children) managed releaseID) =
        stack.resourceNames.map (nameSummary (childMap children') managed releaseID) :=
    fun managed releaseID => List.map_congr_left fun name hname => by
      unfold nameSummary
      rw [hlookup name hname]
  -- the annotations are part of the metadata, which is the same
  have hman : stack'.managed = stack.managed := by
    unfold Stack.managed Stack.revision
    rw [hMeta]
  have hrel : stack'.releaseID = stack.releaseID := by
    unfold Stack.releaseID
    rw [hMeta]
  unfold childStats
  rw [collectChildStats_eq, collectChildStats_eq, hDesired, hman, hrel, hsummaries,
    hfilter Option.isNone, hfilter (fun o => o.any fun c => !childAvailable c),
    hfilter (fun o => o.any childStalled),
    hcount (fun o => o.any (childConverged stack.managed stack.releaseID)),
    hcount (fun o => o.any childAvailable)]

/-! ## The aggregated conditions -/

section

variable {clock : Clock} {stack : Stack} {children : List StackResource}

theorem reported_aggregate (c : Condition StackCondition)
    (hc : c ∈ stackVerdicts stack.generation (childStats stack children)
      (stackState clock stack children)) :
    reported (aggregateStackStatus clock stack children) c.type = some c :=
  find_aggregate clock stack children hc

theorem reported_stalled :
    reported (aggregateStackStatus clock stack children) .stalled =
      some (stalledVerdict stack.generation (stackState clock stack children)) :=
  reported_aggregate (stalledVerdict stack.generation (stackState clock stack children))
    (by simp [stackVerdicts])

theorem reported_resourcesReady :
    reported (aggregateStackStatus clock stack children) .resourcesReady =
      some (resourcesReadyVerdict stack.generation (childStats stack children)
        (stackState clock stack children)) :=
  reported_aggregate (resourcesReadyVerdict stack.generation (childStats stack children)
      (stackState clock stack children))
    (by simp [stackVerdicts])

theorem reported_available :
    reported (aggregateStackStatus clock stack children) .available =
      some (availableVerdict stack.generation (childStats stack children)
        (stackState clock stack children)) :=
  reported_aggregate (availableVerdict stack.generation (childStats stack children)
      (stackState clock stack children))
    (by simp [stackVerdicts])

theorem reported_converged :
    reported (aggregateStackStatus clock stack children) .converged =
      some (convergedVerdict stack.generation (childStats stack children)
        (stackState clock stack children)) :=
  reported_aggregate (convergedVerdict stack.generation (childStats stack children)
      (stackState clock stack children))
    (by simp [stackVerdicts])

theorem reported_degraded :
    reported (aggregateStackStatus clock stack children) .degraded =
      some (degradedVerdict stack.generation (stackState clock stack children)) :=
  reported_aggregate (degradedVerdict stack.generation (stackState clock stack children))
    (by simp [stackVerdicts])

theorem reported_progressing :
    reported (aggregateStackStatus clock stack children) .progressing =
      some (progressingVerdict stack.generation (stackState clock stack children)) :=
  reported_aggregate (progressingVerdict stack.generation (stackState clock stack children))
    (by simp [stackVerdicts])

theorem currentlyTrue_of_reported {status : StackStatus} {generation : Int}
    {t : StackCondition} {ready : Bool} {yes no : String × String}
    (h : reported status t = some (verdict generation t ready yes no)) :
    CurrentlyTrue status.conditions generation t ↔ ready = true := by
  rw [currentlyTrue_iff_reported, h]
  cases ready with
  | true => simp [verdict]
  | false => simp [verdict]

theorem converged_aggregate_iff :
    CurrentlyTrue (aggregateStackStatus clock stack children).conditions stack.generation
      .converged ↔ (childStats stack children).converged = true :=
  currentlyTrue_of_reported reported_converged

theorem progressing_aggregate_iff :
    CurrentlyTrue (aggregateStackStatus clock stack children).conditions stack.generation
      .progressing ↔ (stackState clock stack children).progressing = true :=
  currentlyTrue_of_reported reported_progressing

theorem stackState_of_converged (clock : Clock)
    (h : (childStats stack children).converged = true) :
    (stackState clock stack children).progressing = false ∧
      (stackState clock stack children).degraded = false := by
  unfold ChildStats.converged at h
  rw [Bool.and_eq_true, decide_eq_true_eq] at h
  obtain ⟨hres, horph⟩ := h
  unfold stackState deriveState
  simp [hres, horph]

theorem phase_ready_iff :
    (aggregateStackStatus clock stack children).phase = .ready ↔
      (childStats stack children).converged = true ∧
        (stackState clock stack children).stalled = false := by
  rw [phase_aggregate]
  unfold stackPhase
  constructor
  · intro h
    cases hs : (stackState clock stack children).stalled with
    | true => simp [hs] at h
    | false =>
      cases hc : (childStats stack children).converged with
      | true => exact ⟨rfl, rfl⟩
      | false =>
        -- without convergence the switch ends in Progressing, Degraded or Pending
        rw [hs, hc] at h
        revert h
        cases (stackState clock stack children).progressing <;>
          cases (stackState clock stack children).degraded <;> simp
  · rintro ⟨hc, hs⟩
    obtain ⟨hp, hd⟩ := stackState_of_converged clock hc
    simp [hc, hs, hp, hd]

theorem stalled_stackState_iff :
    (stackState clock stack children).stalled = true ↔
      ∃ name ∈ stack.resourceNames, ∃ child, childMap children name = some child ∧
        CurrentlyTrue child.status.conditions child.generation (.summary .stalled) := by
  rw [← stalled_childStats_pos_iff]
  unfold stackState deriveState
  simp

theorem stampLastConverged_of_not_resourcesConverged
    (h : (childStats stack children).resourcesConverged = false) :
    stampLastConverged clock stack (childStats stack children).converged =
      stack.status.lastConverged := by
  have hc : (childStats stack children).converged = false := by
    unfold ChildStats.converged
    rw [h, Bool.false_and]
  unfold stampLastConverged
  rw [hc, Bool.false_and]
  rfl

end

/-- Stage 2 passes children outside `spec.resourceNames` on only to Progressing
and Converged; Degraded besides reads whether a record exists. -/
theorem reported_congr {clock clock' : Clock} {stack' : Stack} {children' : List StackResource}
    (hMeta : stack'.metadata = stack.metadata)
    (hDesired : stack'.resourceNames = stack.resourceNames)
    (hNames : (children.map StackResource.name).Nodup)
    (hNames' : (children'.map StackResource.name).Nodup)
    (hSame : ∀ child : StackResource, child.name ∈ stack.resourceNames →
      (child ∈ children ↔ child ∈ children')) :
    (∀ t ∈ [StackCondition.available, .stalled, .resourcesReady],
      reported (aggregateStackStatus clock' stack' children') t =
        reported (aggregateStackStatus clock stack children) t) ∧
    (stack'.status.lastConverged.isSome = stack.status.lastConverged.isSome →
      reported (aggregateStackStatus clock' stack' children') .degraded =
        reported (aggregateStackStatus clock stack children) .degraded) ∧
    (aggregateStackStatus clock' stack' children').resources =
      (aggregateStackStatus clock stack children).resources := by
  -- all that may differ between the two aggregations is the orphans
  obtain ⟨orphans, hstats⟩ : ∃ o, childStats stack' children' =
      { childStats stack children with orphans := o } :=
    ⟨_, childStats_congr hMeta hDesired hNames hNames' hSame⟩
  have hgen : stack'.generation = stack.generation := congrArg ObjectMeta.generation hMeta
  have havail : availableVerdict stack'.generation (childStats stack' children')
      (stackState clock' stack' children') =
      availableVerdict stack.generation (childStats stack children)
        (stackState clock stack children) := by
    unfold stackState
    rw [hstats, hgen]
    rfl
  have hstalled : stalledVerdict stack'.generation (stackState clock' stack' children') =
      stalledVerdict stack.generation (stackState clock stack children) := by
    unfold stackState
    rw [hstats, hgen]
    rfl
  have hready : resourcesReadyVerdict stack'.generation (childStats stack' children')
      (stackState clock' stack' children') =
      resourcesReadyVerdict stack.generation (childStats stack children)
        (stackState clock stack children) := by
    unfold stackState
    rw [hstats, hgen]
    rfl
  refine ⟨?_, ?_, ?_⟩
  · intro t ht
    simp only [List.mem_cons, List.not_mem_nil, or_false] at ht
    -- three of the conditions are written without a look at the orphans
    rcases ht with rfl | rfl | rfl
    · rw [reported_available, reported_available, havail]
    · rw [reported_stalled, reported_stalled, hstalled]
    · rw [reported_resourcesReady, reported_resourcesReady, hready]
  · intro hrec
    have hres : (childStats stack' children').resourcesConverged =
        (childStats stack children).resourcesConverged := by
      rw [hstats]
      rfl
    have hdeg : (stackState clock' stack' children').degraded =
        (stackState clock stack children).degraded := by
      -- once the resources have converged there is nothing to be degraded from;
      -- before that the record in force is the stored one, of which only its presence counts
      cases hrc : (childStats stack children).resourcesConverged with
      | true =>
        rw [hrc] at hres
        unfold stackState deriveState
        simp [hres, hrc]
      | false =>
        rw [hrc] at hres
        unfold stackState
        dsimp only
        rw [stampLastConverged_of_not_resourcesConverged hres,
          stampLastConverged_of_not_resourcesConverged hrc, hstats]
        unfold deriveState
        simp only [hrec]
        rfl
    have hverdict : degradedVerdict stack'.generation (stackState clock' stack' children') =
        degradedVerdict stack.generation (stackState clock stack children) := by
      unfold degradedVerdict
      rw [hdeg, hgen]
    rw [reported_degraded, reported_degraded, hverdict]
  · rw [resources_aggregate, resources_aggregate, hstats]

/-! ## Main results -/

/-- **Converged, Ready and the influence of orphans.** Converged=True is reported
exactly for a settled Stack; the phase is Ready exactly when besides no desired
child is stalled; and children outside `spec.resourceNames` change none of
Available, Stalled, ResourcesReady and the summaries, whatever the stored status,
and Degraded only through the presence of an earlier record. -/
theorem aggregateStackStatus_converged_iff (clock : Clock) (stack : Stack)
    (children : List StackResource) (hNames : (children.map StackResource.name).Nodup) :
    (CurrentlyTrue (aggregateStackStatus clock stack children).conditions stack.generation
        .converged ↔ Settled stack children) ∧
    ((aggregateStackStatus clock stack children).phase = .ready ↔
      CurrentlyTrue (aggregateStackStatus clock stack children).conditions stack.generation
        .converged ∧
      ∀ child ∈ children, child.name ∈ stack.resourceNames →
        ¬ CurrentlyTrue child.status.conditions child.generation (.summary .stalled)) ∧
    (∀ (clock' : Clock) (status' : StackStatus) (children' : List StackResource),
      (children'.map StackResource.name).Nodup →
      (∀ child : StackResource, child.name ∈ stack.resourceNames →
        (child ∈ children ↔ child ∈ children')) →
      (∀ t ∈ [StackCondition.available, .stalled, .resourcesReady],
        reported (aggregateStackStatus clock' { stack with status := status' } children') t =
          reported (aggregateStackStatus clock stack children) t) ∧
      (status'.lastConverged.isSome = stack.status.lastConverged.isSome →
        reported (aggregateStackStatus clock' { stack with status := status' } children')
            .degraded =
          reported (aggregateStackStatus clock stack children) .degraded) ∧
      (aggregateStackStatus clock' { stack with status := status' } children').resources =
        (aggregateStackStatus clock stack children).resources) := by
  refine ⟨?_, ?_, ?_⟩
  · rw [converged_aggregate_iff]
    exact converged_childStats_iff hNames
  -- Ready is Converged without a stalled child
  · rw [phase_ready_iff, converged_aggregate_iff, ← Bool.not_eq_true, stalled_stackState_iff]
    constructor
    · rintro ⟨hc, hs⟩
      refine ⟨hc, fun child hmem hname hstalled => hs ?_⟩
      exact ⟨child.name, hname, child, (childMap_eq_some_iff hNames).mpr ⟨hmem, rfl⟩, hstalled⟩
    · rintro ⟨hc, hs⟩
      refine ⟨hc, ?_⟩
      rintro ⟨name, hname, child, hl, hstalled⟩
      obtain ⟨hmem, rfl⟩ := (childMap_eq_some_iff hNames).mp hl
      exact hs child hmem hname hstalled
  · intro clock' status' children' hNames' hSame
    exact reported_congr rfl rfl hNames hNames' hSame

def tokenChild : StackResource where
  metadata :=
    { name := "api", generation := 2, annotations := [(revisionAnnotationKey, "rev-a1")] }
  status :=
    { observedRevision := "rev-a1"
      conditions :=
        [{ type := .summary .converged, status := .conditionTrue, observedGeneration := 2
           reason := "Converged", message := "" }] }

def tokenStack : Stack where
  metadata :=
    { name := "shop", generation := 1, annotations := [(revisionAnnotationKey, "root-1")] }
  resourceNames := ["api"]

theorem aggregateStackStatus_converged_token :
    Settled tokenStack [tokenChild] ∧
      (aggregateStackStatus ⟨0, 0⟩ tokenStack [tokenChild]).phase = .ready :=
  have h := aggregateStackStatus_converged_iff ⟨0, 0⟩ tokenStack [tokenChild] (by decide)
  ⟨h.1.mp (by decide), h.2.1.mpr (by decide)⟩

/-- **What a fresh record vouches for.** When the aggregation writes a new
`lastConverged` record, the record is for the Stack's own target, and every
desired child exists, carries a revision of its own, has observed it, and belongs
to the Stack's release when the Stack names one. -/
theorem lastConverged_stamp_desired (clock : Clock) (stack : Stack)
    (children : List StackResource)
    (hWrite : (aggregateStackStatus clock stack children).lastConverged ≠
      stack.status.lastConverged) :
    (aggregateStackStatus clock stack children).lastConverged =
        some { revision := stack.revision, releaseID := stack.releaseID, «at» := clock.now } ∧
      ∀ name ∈ stack.resourceNames, ∃ child, childMap children name = some child ∧
        child.revision ≠ "" ∧ child.status.observedRevision = child.revision ∧
        (stack.releaseID ≠ "" → child.releaseID = stack.releaseID) := by
  rw [lastConverged_aggregate, stampLastConverged_eq] at hWrite ⊢
  cases hs : stampsLastConverged stack (childStats stack children).converged with
  | false =>
    rw [hs] at hWrite
    exact absurd rfl hWrite
  | true =>
    refine ⟨rfl, fun name hname => ?_⟩
    unfold stampsLastConverged ChildStats.converged at hs
    simp only [Bool.and_eq_true] at hs
    obtain ⟨⟨⟨hres, -⟩, hman⟩, -⟩ := hs
    have hrev : stack.revision ≠ "" := by simpa [Stack.managed] using hman
    obtain ⟨child, hl, hc⟩ := resourcesConverged_childStats_iff.mp hres name hname
    obtain ⟨hne, hobs⟩ := hc.revision hrev
    exact ⟨child, hl, hne, hobs.symm, hc.release hrev⟩

theorem lastConverged_stamp_token :
    (aggregateStackStatus ⟨5, 7⟩ tokenStack [tokenChild]).lastConverged =
      some { revision := "root-1", «at» := ⟨5, some 7⟩ } :=
  (lastConverged_stamp_desired ⟨5, 7⟩ tokenStack [tokenChild] (by decide)).1

/-- Children are not asked for the Stack's token: the Stack stamps `root-1` while
its only child carries and observed `rev-a1`. -/
theorem lastConverged_stamp_other_token :
    (aggregateStackStatus ⟨5, 7⟩ tokenStack [tokenChild]).lastConverged ≠
        tokenStack.status.lastConverged ∧
      (aggregateStackStatus ⟨5, 7⟩ tokenStack [tokenChild]).lastConverged.map
        ConvergenceRecord.revision = some tokenStack.revision ∧
      tokenChild.name ∈ tokenStack.resourceNames ∧
      tokenChild.revision ≠ tokenStack.revision ∧
      tokenChild.status.observedRevision ≠ tokenStack.revision := by
  decide

/-- **An unsettled managed Stack is rolling out exactly when its revision is new.**
With no desired child missing or stalled, and not all of them settled, Progressing
is True and the phase is Progressing exactly when there is no record yet or the
recorded revision is another one. The release-id does not enter. -/
theorem progressing_iff_revision_differs (clock : Clock) (stack : Stack)
    (children : List StackResource) (hManaged : stack.revision ≠ "")
    (hMissing : ∀ name ∈ stack.resourceNames, ∃ child, childMap children name = some child)
    (hStalled : ∀ name ∈ stack.resourceNames, ∀ child, childMap children name = some child →
      ¬ CurrentlyTrue child.status.conditions child.generation (.summary .stalled))
    (hUnsettled : ¬ ∀ name ∈ stack.resourceNames,
      ∃ child, childMap children name = some child ∧ ChildSettled stack child) :
    (CurrentlyTrue (aggregateStackStatus clock stack children).conditions stack.generation
        .progressing ↔
      ∀ lc, stack.status.lastConverged = some lc → lc.revision ≠ stack.revision) ∧
    ((aggregateStackStatus clock stack children).phase = .progressing ↔
      ∀ lc, stack.status.lastConverged = some lc → lc.revision ≠ stack.revision) := by
  have hres : (childStats stack children).resourcesConverged = false := by
    rw [← Bool.not_eq_true, resourcesConverged_childStats_iff]
    exact hUnsettled
  -- none of the causes that outrank progressing applies
  have hstalled : (stackState clock stack children).stalled = false := by
    rw [← Bool.not_eq_true, stalled_stackState_iff]
    rintro ⟨name, hname, child, hl, hs⟩
    exact hStalled name hname child hl hs
  have hcount : ¬ 0 < (childStats stack children).stalled.length := by
    rw [stalled_childStats_pos_iff]
    rintro ⟨name, hname, child, hl, hs⟩
    exact hStalled name hname child hl hs
  have hmiss : (childStats stack children).missing.length = 0 :=
    missing_childStats_eq_zero_iff.mpr hMissing
  have hman : stack.managed = true := by simp [Stack.managed, hManaged]
  have hprog : (stackState clock stack children).progressing = true ↔
      ∀ lc, stack.status.lastConverged = some lc → lc.revision ≠ stack.revision := by
    unfold stackState
    dsimp only
    rw [stampLastConverged_of_not_resourcesConverged hres]
    unfold deriveState
    simp only [hres, hmiss, hman, hcount]
    -- the first rollout, or one to another revision than the recorded one
    cases stack.status.lastConverged with
    | none => simp
    | some lc => simp
  refine ⟨progressing_aggregate_iff.trans hprog, ?_⟩
  rw [← hprog, phase_aggregate]
  unfold stackPhase
  rw [hstalled]
  have hconv : (childStats stack children).converged = false := by
    unfold ChildStats.converged
    rw [hres, Bool.false_and]
  rw [hconv]
  -- what remains of the phase is decided by progressing alone
  cases (stackState clock stack children).progressing with
  | true => simp
  | false => cases (stackState clock stack children).degraded <;> simp

def laggingChild : StackResource where
  metadata :=
    { name := "api", generation := 2
      annotations := [(revisionAnnotationKey, "rev-a1"), (releaseIDAnnotationKey, "rel-1")] }
  status := { observedRevision := "rev-a1" }

/-- A Stack that converged on `(root-1, rel-1)` and now targets release `releaseID`
at revision `revision`. -/
def retargetedStack (revision releaseID : String) : Stack where
  metadata :=
    { name := "shop", generation := 1
      annotations := [(revisionAnnotationKey, revision), (releaseIDAnnotationKey, releaseID)] }
  resourceNames := ["api"]
  status :=
    { lastConverged := some { revision := "root-1", releaseID := "rel-1", «at» := ⟨0, none⟩ } }

theorem lookup_laggingChild {child : StackResource}
    (h : childMap [laggingChild] name = some child) : child = laggingChild := by
  have := ((childMap_eq_some_iff (by decide)).mp h).1
  simpa using this

theorem progressing_new_revision :
    (aggregateStackStatus ⟨0, 0⟩ (retargetedStack "root-2" "rel-1") [laggingChild]).phase =
      .progressing := by
  refine (progressing_iff_revision_differs ⟨0, 0⟩ (retargetedStack "root-2" "rel-1")
    [laggingChild] (by decide) ?_ ?_ ?_).2.mpr ?_
  · intro name hname
    have hapi : name = "api" := by simpa [retargetedStack] using hname
    exact ⟨laggingChild, by rw [hapi]; decide⟩
  · intro name _ child hl
    rw [lookup_laggingChild hl]
    decide
  · intro h
    obtain ⟨child, hl, hs⟩ := h "api" (by decide)
    rw [lookup_laggingChild hl] at hs
    exact absurd hs.converged (by decide)
  · intro lc hlc
    cases hlc
    decide

/-- A new release at an unchanged revision is not Progressing: the target differs
from the record, yet the Stack reports Pending. -/
theorem not_progressing_new_release :
    (retargetedStack "root-1" "rel-2").status.lastConverged.map
        (fun lc => (lc.revision, lc.releaseID)) ≠
      some ((retargetedStack "root-1" "rel-2").revision,
        (retargetedStack "root-1" "rel-2").releaseID) ∧
      (childStats (retargetedStack "root-1" "rel-2") [laggingChild]).missing = [] ∧
      (childStats (retargetedStack "root-1" "rel-2") [laggingChild]).stalled = [] ∧
      (childStats (retargetedStack "root-1" "rel-2") [laggingChild]).resourcesConverged = false ∧
      ¬ CurrentlyTrue (aggregateStackStatus ⟨0, 0⟩ (retargetedStack "root-1" "rel-2")
          [laggingChild]).conditions 1 .progressing ∧
      (aggregateStackStatus ⟨0, 0⟩ (retargetedStack "root-1" "rel-2") [laggingChild]).phase =
        .pending := by
  decide

/-! ## The message of Stalled -/

/-- A desired child of the name exists and is stalled at its current generation. -/
def StalledChild (stack : Stack) (children : List StackResource) (name : String) : Prop :=
  name ∈ stack.resourceNames ∧ ∃ child, childMap children name = some child ∧
    CurrentlyTrue child.status.conditions child.generation (.summary .stalled)

/-- The message names the stalled children and nobody else, sorted. -/
def NamesStalled (stack : Stack) (children : List StackResource) (message : String) : Prop :=
  ∃ names : List String, names.Pairwise (· ≤ ·) ∧
    (∀ name, name ∈ names ↔ StalledChild stack children name) ∧
    message = "stalled resources: " ++ joinNames names

theorem mem_stalled_childStats :
    name ∈ (childStats stack children).stalled ↔ StalledChild stack children name := by
  unfold childStats StalledChild
  rw [collectChildStats_eq]
  dsimp only [sortNames]
  rw [List.mem_insertionSort, List.mem_filter, any_lookup_iff]
  refine and_congr_right fun _ => exists_congr fun child => and_congr_right fun _ => ?_
  exact isTrue_findStatusCondition_iff

theorem notReadyMessage_stackState {clock : Clock}
    (hStalled : (stackState clock stack children).stalled = true) :
    (stackState clock stack children).notReadyMessage =
      if (childStats stack children).missing.length = 0 then
        "stalled resources: " ++ joinNames (childStats stack children).stalled
      else "missing resources: " ++ joinNames (childStats stack children).missing := by
  unfold stackState deriveState at *
  dsimp only at *
  by_cases hMissing : (childStats stack children).missing.length = 0
  · rw [if_neg (by omega), if_pos hStalled, if_pos hMissing]
  · rw [if_pos (by omega), if_neg hMissing]

theorem missing_ne_stalled {missing stalled : String} :
    "missing resources: " ++ missing ≠ "stalled resources: " ++ stalled := by
  intro h
  have hFirst := congrArg (fun s => s.toList.head?) h
  simp at hFirst

/-- **When Stalled names the stalled children.** The message is the explanation shared with
ResourcesReady, in which missing children come first: with a stalled child, it names the stalled
ones exactly when no desired child is missing. -/
theorem stalled_message_iff (clock : Clock) (stack : Stack) (children : List StackResource) :
    (∀ c, Conditions.findStatusCondition (aggregateStackStatus clock stack children).conditions
        .stalled = some c → c.status = .conditionTrue → NamesStalled stack children c.message) ↔
      ((∃ name, StalledChild stack children name) →
        ∀ name ∈ stack.resourceNames, ∃ child, childMap children name = some child) := by
  rw [← missing_childStats_eq_zero_iff]
  have hSome : (stackState clock stack children).stalled = true ↔
      ∃ name, StalledChild stack children name := stalled_stackState_iff
  rw [← hSome]
  have hReported : reported (aggregateStackStatus clock stack children) .stalled = _ :=
    reported_stalled
  -- the condition is always written; its time does not matter
  obtain ⟨c, hFound, hClear⟩ := Option.map_eq_some_iff.mp hReported
  have hStatus := congrArg Condition.status hClear
  have hMessage := congrArg Condition.message hClear
  dsimp only [Condition.clearTime, stalledVerdict, verdict] at hStatus hMessage
  constructor
  -- a missing child takes over the message, which then names nobody that is stalled
  · intro hNames hStalled
    rw [if_pos hStalled] at hStatus hMessage
    obtain ⟨names, -, -, hText⟩ := hNames c hFound hStatus
    by_contra hMissing
    rw [hMessage, notReadyMessage_stackState hStalled, if_neg hMissing] at hText
    exact missing_ne_stalled hText
  · intro hNone c' hFound' hTrue
    obtain rfl : c = c' := Option.some.inj (hFound.symm.trans hFound')
    -- without a stalled child the condition is False
    cases hStalled : (stackState clock stack children).stalled with
    | false =>
      rw [hStatus, hStalled] at hTrue
      cases hTrue
    | true =>
      rw [if_pos hStalled, notReadyMessage_stackState hStalled, if_pos (hNone hStalled)] at hMessage
      refine ⟨_, ?_, fun name => mem_stalled_childStats, hMessage⟩
      unfold childStats
      rw [collectChildStats_eq]
      exact List.pairwise_insertionSort _ _

def halfStack : Stack where
  metadata := { name := "shop", generation := 1 }
  resourceNames := ["api", "web"]

def stalledChild : StackResource where
  metadata := { name := "api", generation := 2 }
  status :=
    { conditions :=
        [{ type := .summary .stalled, status := .conditionTrue, observedGeneration := 2
           reason := "UnsupportedWorkload", message := "" }] }

theorem stalled_message_names_missing :
    (Conditions.findStatusCondition (aggregateStackStatus ⟨0, 0⟩ halfStack
      [stalledChild]).conditions
      .stalled).map (fun c => (c.status, c.reason, c.message)) =
      some (.conditionTrue, "ResourceStalled", "missing resources: web") := by
  decide

end ClusterAgent.StackController
