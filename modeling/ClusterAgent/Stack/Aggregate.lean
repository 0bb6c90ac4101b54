import Mathlib.Data.List.Sort
import ClusterAgent.Api.Stack

/-!
# Cluster agent — Stack status aggregation

The aggregation of the Stack controller, a three-stage pipeline:

1. `collectChildStats` — one pass over the desired children producing summaries
   and the counts every later decision uses;
2. `deriveState` — the condition booleans and their explanations;
3. `aggregateStackStatus` — builds the base status, stamps `lastConverged`,
   writes the six conditions and picks the phase.

The source loops accumulate; `collectChildStats_eq` gives the loop's result as
filters and maps over the desired names, and every later proof uses that form.
Likewise `clearTimes_aggregate` gives the written conditions, up to transition
times, as one batch of overwrites by `stackVerdicts`.
-/

namespace ClusterAgent.StackController

open Conditions hiding findStatusCondition

/-! ## Reading a child -/

/-- The condition of a type, only if it was reported for the object's current
generation: a stale condition is never a verdict. -/
def findStatusCondition {κ : Type} [DecidableEq κ] (conds : List (Condition κ))
    (generation : Int) (condType : κ) : Option (Condition κ) :=
  match Conditions.findStatusCondition conds condType with
  | none => none
  | some cond => if cond.observedGeneration ≠ generation then none else some cond

structure ChildConditions where
  converged : Option (Condition ResourceCondition)
  available : Option (Condition ResourceCondition)
  stalled : Option (Condition ResourceCondition)

def currentChildConditions (child : StackResource) : ChildConditions where
  converged := findStatusCondition child.status.conditions child.generation (.summary .converged)
  available := findStatusCondition child.status.conditions child.generation (.summary .available)
  stalled := findStatusCondition child.status.conditions child.generation (.summary .stalled)

def isTrue {κ : Type} (c : Option (Condition κ)) : Bool :=
  match c with
  | none => false
  | some c => decide (c.status = .conditionTrue)

/-- Whether a child counts as converged and, when it does not, why. -/
def childConvergence (child : StackResource) (conds : ChildConditions) (managed : Bool)
    (releaseID : String) : Bool × String :=
  let childRevision := child.revision
  let converged := isTrue conds.converged
  let converged :=
    if managed then
      converged && decide (childRevision ≠ "") &&
        decide (child.status.observedRevision = childRevision) &&
        (decide (releaseID = "") || decide (child.releaseID = releaseID))
    else converged
  if converged then (true, "")
  else
    -- not converged: explain why, most specific cause first
    let healthy := isTrue conds.available
    if managed && decide (childRevision = "") then
      (false, "no revision annotation (required for release-managed stacks)")
    else if managed && healthy && decide (child.status.observedRevision ≠ childRevision) then
      (false, "ready on a previous revision; latest revision not yet observed")
    else if managed && healthy && decide (releaseID ≠ "") &&
        decide (child.releaseID ≠ releaseID) then
      (false, "converged on a previous release; waiting for current release")
    else if isTrue conds.stalled then
      (false, "resource is stalled: " ++ ((conds.stalled.map Condition.reason).getD ""))
    else if healthy then (false, "serving traffic but not fully converged")
    else
      match conds.available with
      | none => (false, "no current status from controller")
      | some available =>
        if available.status = .conditionFalse then
          (false, "not available: " ++ available.reason)
        else (false, "resource is not yet available")

/-! ## Stage 1: one pass over the children -/

/-- Everything one pass over the children learns. Orphans are reported
separately: only they may lie outside `spec.resourceNames`. -/
structure ChildStats where
  summaries : List StackResourceSummary := []
  missing : List String := []
  notServing : List String := []
  stalled : List String := []
  orphans : List String := []
  convergedCount : Nat := 0
  availableCount : Nat := 0
  desiredCount : Nat := 0
  deriving DecidableEq, Repr

def ChildStats.allDesiredServing (s : ChildStats) : Bool :=
  decide (s.missing.length = 0) && decide (0 < s.desiredCount) &&
    decide (s.availableCount = s.desiredCount)

/-- Vacuously true for an empty stack. -/
def ChildStats.serving (s : ChildStats) : Bool :=
  decide (s.missing.length = 0) && decide (s.notServing.length = 0)

def sortNames (names : List String) : List String := names.insertionSort (· ≤ ·)

/-- The map from names to children: a later child overwrites an earlier one of
the same name. -/
def childMap (children : List StackResource) (name : String) : Option StackResource :=
  children.reverse.find? fun c => decide (c.name = name)

def missingSummary (name : String) : StackResourceSummary :=
  { name := name, missing := true, message := "resource does not exist" }

def childSummary (name : String) (child : StackResource) (managed : Bool)
    (releaseID : String) : StackResourceSummary :=
  let summary : StackResourceSummary :=
    { name := name
      phase := child.status.phase
      observedRevision := child.status.observedRevision
      lastConverged := child.status.lastConverged
      replicas := child.status.replicas
      availableReplicas := child.status.availableReplicas
      updatedReplicas := child.status.updatedReplicas }
  let (converged, notConvergedMsg) :=
    childConvergence child (currentChildConditions child) managed releaseID
  if converged then
    if managed then { summary with convergedRevision := child.revision } else summary
  else { summary with message := notConvergedMsg }

def collectChild (lookup : String → Option StackResource) (managed : Bool)
    (releaseID : String) (stats : ChildStats) (name : String) : ChildStats :=
  match lookup name with
  | none =>
    { stats with
      missing := stats.missing ++ [name]
      summaries := stats.summaries ++ [missingSummary name] }
  | some child =>
    let conds := currentChildConditions child
    let (converged, _) := childConvergence child conds managed releaseID
    let stats :=
      if converged then { stats with convergedCount := stats.convergedCount + 1 } else stats
    let stats :=
      if isTrue conds.available then { stats with availableCount := stats.availableCount + 1 }
      else { stats with notServing := stats.notServing ++ [name] }
    let stats :=
      if isTrue conds.stalled then { stats with stalled := stats.stalled ++ [name] } else stats
    { stats with
      summaries := stats.summaries ++ [childSummary name child managed releaseID] }

def collectChildStats (stack : Stack) (children : List StackResource) (managed : Bool)
    (releaseID : String) : ChildStats :=
  let stats := stack.resourceNames.foldl (collectChild (childMap children) managed releaseID)
    { desiredCount := stack.resourceNames.length }
  let orphans :=
    (children.filter fun c => decide (c.name ∉ stack.resourceNames)).map StackResource.name
  { stats with
    missing := sortNames stats.missing
    notServing := sortNames stats.notServing
    stalled := sortNames stats.stalled
    orphans := sortNames orphans }

/-! ## Stage 2: the condition booleans and their explanations -/

structure StackState where
  stalled : Bool
  progressing : Bool
  degraded : Bool
  progressingReason : String
  progressingMessage : String
  notReadyReason : String
  notReadyMessage : String
  notConvergedReason : String
  notConvergedMessage : String
  notServingReason : String
  notServingMessage : String
  deriving DecidableEq, Repr

def joinNames (names : List String) : String := ", ".intercalate names

def deriveState (stats : ChildStats) (resourcesConverged managed : Bool) (rootRev : String)
    (lc : Option ConvergenceRecord) : StackState :=
  let stalled := decide (0 < stats.stalled.length)
  let orphanCleanup := resourcesConverged && decide (0 < stats.orphans.length) && !stalled
  let progressing := orphanCleanup ||
    (!resourcesConverged && decide (stats.missing.length = 0) && !stalled &&
      (!managed || (match lc with | none => true | some lc => decide (lc.revision ≠ rootRev))))
  let progressingExplanation :=
    if orphanCleanup then
      ("OrphanCleanup",
        "waiting for orphaned resources to be deleted: " ++ joinNames stats.orphans)
    else ("RolloutInProgress", "rollout in progress")
  let degraded :=
    stats.allDesiredServing && !resourcesConverged && !stalled && lc.isSome
  -- missing children take precedence over stalled ones
  let notReady :=
    if 0 < stats.missing.length then
      ("MissingResources", "missing resources: " ++ joinNames stats.missing)
    else if stalled then
      ("ResourceStalled", "stalled resources: " ++ joinNames stats.stalled)
    else ("ResourcesNotReady", "not all resources are converged")
  let notConverged :=
    if decide (0 < stats.orphans.length) && resourcesConverged then
      ("OrphanedResources",
        "orphaned resources not in spec.resourceNames: " ++ joinNames stats.orphans)
    else notReady
  let notServing :=
    if 0 < stats.missing.length then
      ("MissingResources", "missing resources: " ++ joinNames stats.missing)
    else if 0 < stats.notServing.length then
      ("ResourcesNotServing", "resources not serving: " ++ joinNames stats.notServing)
    else ("ResourcesNotServing", "not all resources are serving traffic")
  { stalled, progressing, degraded
    progressingReason := progressingExplanation.1
    progressingMessage := progressingExplanation.2
    notReadyReason := notReady.1
    notReadyMessage := notReady.2
    notConvergedReason := notConverged.1
    notConvergedMessage := notConverged.2
    notServingReason := notServing.1
    notServingMessage := notServing.2 }

/-! ## Stage 3: glue -/

def childStats (stack : Stack) (children : List StackResource) : ChildStats :=
  collectChildStats stack children stack.managed stack.releaseID

def ChildStats.resourcesConverged (s : ChildStats) : Bool :=
  decide (s.convergedCount = s.desiredCount)

/-- Every desired child fully rolled out and no orphans remain. -/
def ChildStats.converged (s : ChildStats) : Bool :=
  s.resourcesConverged && decide (s.orphans.length = 0)

/-- The `lastConverged` record with its write-once-per-target guard. -/
def stampLastConverged (clock : Clock) (stack : Stack) (converged : Bool) :
    Option ConvergenceRecord :=
  let fresh : ConvergenceRecord :=
    { revision := stack.revision, releaseID := stack.releaseID, «at» := clock.now }
  if converged && stack.managed then
    match stack.status.lastConverged with
    | none => some fresh
    | some lc =>
      if decide (lc.revision ≠ stack.revision) || decide (lc.releaseID ≠ stack.releaseID) then
        some fresh
      else some lc
  else stack.status.lastConverged

/-- The guard of the stamp: a managed, converged Stack whose record is not for its
target. -/
def stampsLastConverged (stack : Stack) (converged : Bool) : Bool :=
  converged && stack.managed &&
    (match stack.status.lastConverged with
    | none => true
    | some lc =>
      decide (lc.revision ≠ stack.revision) || decide (lc.releaseID ≠ stack.releaseID))

theorem stampLastConverged_eq (clock : Clock) (stack : Stack) (converged : Bool) :
    stampLastConverged clock stack converged =
      if stampsLastConverged stack converged then
        some { revision := stack.revision, releaseID := stack.releaseID, «at» := clock.now }
      else stack.status.lastConverged := by
  unfold stampLastConverged stampsLastConverged
  cases converged && stack.managed with
  | false => rfl
  | true =>
    cases stack.status.lastConverged with
    | none => rfl
    | some lc => rfl

def setStackCondition (now : Int) (status : StackStatus) (generation : Int)
    (condType : StackCondition) (ready : Bool) (reason msg : String) : StackStatus :=
  { status with
    conditions := setStatusCondition now status.conditions
      { type := condType
        status := if ready then .conditionTrue else .conditionFalse
        observedGeneration := generation
        reason := reason
        message := msg } }

def setStackConditions (now : Int) (generation : Int) (stats : ChildStats)
    (state : StackState) (status : StackStatus) : StackStatus :=
  let status :=
    if state.stalled then
      setStackCondition now status generation .stalled true "ResourceStalled" state.notReadyMessage
    else
      setStackCondition now status generation .stalled false "NotStalled" "no stalled resources"
  let status :=
    if stats.resourcesConverged then
      setStackCondition now status generation .resourcesReady true "AllResourcesReady"
        "all resources converged"
    else
      setStackCondition now status generation .resourcesReady false state.notReadyReason
        state.notReadyMessage
  let status :=
    if stats.serving then
      setStackCondition now status generation .available true "AllResourcesServing"
        "all resources serving traffic"
    else
      setStackCondition now status generation .available false state.notServingReason
        state.notServingMessage
  let status :=
    if stats.converged then
      setStackCondition now status generation .converged true "AllResourcesConverged"
        "all resources converged and no orphaned resources"
    else
      setStackCondition now status generation .converged false state.notConvergedReason
        state.notConvergedMessage
  let status :=
    if state.degraded then
      setStackCondition now status generation .degraded true "ServingButNotConverged"
        "all children serving traffic but not all fully converged"
    else
      setStackCondition now status generation .degraded false "NotDegraded" "not degraded"
  if state.progressing then
    setStackCondition now status generation .progressing true state.progressingReason
      state.progressingMessage
  else
    setStackCondition now status generation .progressing false "NotProgressing"
      "no active rollout"

def stackPhase (state : StackState) (converged : Bool) : StackPhase :=
  if state.stalled then .failed
  else if state.progressing then .progressing
  else if state.degraded then .degraded
  else if converged then .ready
  else .pending

def stackState (clock : Clock) (stack : Stack) (children : List StackResource) : StackState :=
  let stats := childStats stack children
  deriveState stats stats.resourcesConverged stack.managed stack.revision
    (stampLastConverged clock stack stats.converged)

def aggregateStackStatus (clock : Clock) (stack : Stack) (children : List StackResource) :
    StackStatus :=
  let stats := childStats stack children
  let state := stackState clock stack children
  let status : StackStatus :=
    { observedGeneration := stack.generation
      conditions := stack.status.conditions
      targetRevision := if stack.managed then stack.revision else ""
      resources := stats.summaries
      orphanedResources := stats.orphans
      lastConverged := stampLastConverged clock stack stats.converged }
  { setStackConditions clock.wall stack.generation stats state status with
    phase := stackPhase state stats.converged }

/-! ## The loop of stage 1 in closed form -/

def childAvailable (child : StackResource) : Bool :=
  isTrue (currentChildConditions child).available

def childStalled (child : StackResource) : Bool :=
  isTrue (currentChildConditions child).stalled

def childConverged (managed : Bool) (releaseID : String) (child : StackResource) : Bool :=
  (childConvergence child (currentChildConditions child) managed releaseID).1

def nameSummary (lookup : String → Option StackResource) (managed : Bool) (releaseID : String)
    (name : String) : StackResourceSummary :=
  match lookup name with
  | none => missingSummary name
  | some child => childSummary name child managed releaseID

/-- **The loop over the desired names is a batch of filters and counts.** -/
theorem foldl_collectChild (lookup : String → Option StackResource) (managed : Bool)
    (releaseID : String) (names : List String) (stats : ChildStats) :
    names.foldl (collectChild lookup managed releaseID) stats =
      { summaries := stats.summaries ++ names.map (nameSummary lookup managed releaseID)
        missing := stats.missing ++ names.filter fun n => (lookup n).isNone
        notServing := stats.notServing ++
          names.filter fun n => (lookup n).any fun c => !childAvailable c
        stalled := stats.stalled ++ names.filter fun n => (lookup n).any childStalled
        orphans := stats.orphans
        convergedCount := stats.convergedCount +
          names.countP fun n => (lookup n).any (childConverged managed releaseID)
        availableCount := stats.availableCount +
          names.countP fun n => (lookup n).any childAvailable
        desiredCount := stats.desiredCount } := by
  induction names generalizing stats with
  | nil => simp
  | cons name rest ih =>
    rw [List.foldl_cons, ih]
    cases hl : lookup name with
    | none => simp [collectChild, nameSummary, hl]
    | some child =>
      have hconv : (childConvergence child (currentChildConditions child) managed releaseID).1 =
        childConverged managed releaseID child := rfl
      have havail : isTrue (currentChildConditions child).available = childAvailable child := rfl
      have hstall : isTrue (currentChildConditions child).stalled = childStalled child := rfl
      simp only [collectChild, hl, hconv, havail, hstall]
      -- the three flags of the child are independent
      cases hc : childConverged managed releaseID child <;>
        cases ha : childAvailable child <;>
        cases hs : childStalled child <;>
        simp [nameSummary, hl, hc, ha, hs, Nat.add_assoc, Nat.add_comm 1]

theorem collectChildStats_eq (stack : Stack) (children : List StackResource) (managed : Bool)
    (releaseID : String) :
    collectChildStats stack children managed releaseID =
      { summaries := stack.resourceNames.map (nameSummary (childMap children) managed releaseID)
        missing := sortNames (stack.resourceNames.filter fun n => (childMap children n).isNone)
        notServing := sortNames (stack.resourceNames.filter fun n =>
          (childMap children n).any fun c => !childAvailable c)
        stalled := sortNames (stack.resourceNames.filter fun n =>
          (childMap children n).any childStalled)
        orphans := sortNames ((children.filter fun c =>
          decide (c.name ∉ stack.resourceNames)).map StackResource.name)
        convergedCount := stack.resourceNames.countP fun n =>
          (childMap children n).any (childConverged managed releaseID)
        availableCount := stack.resourceNames.countP fun n =>
          (childMap children n).any childAvailable
        desiredCount := stack.resourceNames.length } := by
  simp only [collectChildStats, foldl_collectChild, List.nil_append, Nat.zero_add]

/-! ## The written conditions -/

def verdict (generation : Int) (condType : StackCondition) (ready : Bool)
    (yes no : String × String) : Condition StackCondition where
  type := condType
  status := if ready then .conditionTrue else .conditionFalse
  observedGeneration := generation
  reason := if ready then yes.1 else no.1
  message := if ready then yes.2 else no.2

def stalledVerdict (generation : Int) (state : StackState) : Condition StackCondition :=
  verdict generation .stalled state.stalled
    ("ResourceStalled", state.notReadyMessage) ("NotStalled", "no stalled resources")

def resourcesReadyVerdict (generation : Int) (stats : ChildStats) (state : StackState) :
    Condition StackCondition :=
  verdict generation .resourcesReady stats.resourcesConverged
    ("AllResourcesReady", "all resources converged")
    (state.notReadyReason, state.notReadyMessage)

def availableVerdict (generation : Int) (stats : ChildStats) (state : StackState) :
    Condition StackCondition :=
  verdict generation .available stats.serving
    ("AllResourcesServing", "all resources serving traffic")
    (state.notServingReason, state.notServingMessage)

def convergedVerdict (generation : Int) (stats : ChildStats) (state : StackState) :
    Condition StackCondition :=
  verdict generation .converged stats.converged
    ("AllResourcesConverged", "all resources converged and no orphaned resources")
    (state.notConvergedReason, state.notConvergedMessage)

def degradedVerdict (generation : Int) (state : StackState) : Condition StackCondition :=
  verdict generation .degraded state.degraded
    ("ServingButNotConverged", "all children serving traffic but not all fully converged")
    ("NotDegraded", "not degraded")

def progressingVerdict (generation : Int) (state : StackState) : Condition StackCondition :=
  verdict generation .progressing state.progressing
    (state.progressingReason, state.progressingMessage)
    ("NotProgressing", "no active rollout")

def stackVerdicts (generation : Int) (stats : ChildStats) (state : StackState) :
    List (Condition StackCondition) :=
  [ stalledVerdict generation state,
    resourcesReadyVerdict generation stats state,
    availableVerdict generation stats state,
    convergedVerdict generation stats state,
    degradedVerdict generation state,
    progressingVerdict generation state ]

theorem clearTimes_ite_setStackCondition (now : Int) {status : StackStatus} (generation : Int)
    (condType : StackCondition) {ready : Bool} (yes no : String × String) :
    clearTimes (if ready then
        setStackCondition now status generation condType true yes.1 yes.2
      else setStackCondition now status generation condType false no.1 no.2).conditions =
      put (clearTimes status.conditions) (verdict generation condType ready yes no) := by
  cases ready with
  | true => exact clearTimes_setStatusCondition now status.conditions _
  | false => exact clearTimes_setStatusCondition now status.conditions _

theorem clearTimes_setStackConditions (now generation : Int) (stats : ChildStats)
    (state : StackState) {status : StackStatus} :
    clearTimes (setStackConditions now generation stats state status).conditions =
      putAll (clearTimes status.conditions) (stackVerdicts generation stats state) := by
  simp only [setStackConditions, stackVerdicts, putAll, List.foldl_cons, List.foldl_nil]
  rw [clearTimes_ite_setStackCondition now generation .progressing (_, _) (_, _),
    clearTimes_ite_setStackCondition now generation .degraded (_, _) (_, _),
    clearTimes_ite_setStackCondition now generation .converged (_, _) (_, _),
    clearTimes_ite_setStackCondition now generation .available (_, _) (_, _),
    clearTimes_ite_setStackCondition now generation .resourcesReady (_, _) (_, _),
    clearTimes_ite_setStackCondition now generation .stalled (_, _) (_, _)]
  rfl

def withoutConditions (status : StackStatus) : StackStatus := { status with conditions := [] }

theorem withoutConditions_setStackCondition (now : Int) (status : StackStatus)
    (generation : Int) (condType : StackCondition) (ready : Bool) (reason msg : String) :
    withoutConditions (setStackCondition now status generation condType ready reason msg) =
      withoutConditions status := rfl

theorem withoutConditions_setStackConditions (now generation : Int) (stats : ChildStats)
    (state : StackState) (status : StackStatus) :
    withoutConditions (setStackConditions now generation stats state status) =
      withoutConditions status := by
  simp only [setStackConditions, apply_ite withoutConditions,
    withoutConditions_setStackCondition, ite_self]

/-! ## The aggregated status, field by field -/

section

variable (clock : Clock) (stack : Stack) (children : List StackResource)

/-- **What an aggregation computes**, apart from the conditions: everything is a
function of the stats and of the stamped record. -/
theorem withoutConditions_aggregate :
    withoutConditions (aggregateStackStatus clock stack children) =
      { observedGeneration := stack.generation
        targetRevision := if stack.managed then stack.revision else ""
        lastConverged := stampLastConverged clock stack (childStats stack children).converged
        phase := stackPhase (stackState clock stack children) (childStats stack children).converged
        resources := (childStats stack children).summaries
        orphanedResources := (childStats stack children).orphans } := by
  have h := withoutConditions_setStackConditions clock.wall stack.generation
    (childStats stack children) (stackState clock stack children)
    { observedGeneration := stack.generation
      conditions := stack.status.conditions
      targetRevision := if stack.managed then stack.revision else ""
      resources := (childStats stack children).summaries
      orphanedResources := (childStats stack children).orphans
      lastConverged := stampLastConverged clock stack (childStats stack children).converged }
  exact congrArg (fun s : StackStatus =>
    { s with phase := stackPhase (stackState clock stack children)
                        (childStats stack children).converged }) h

theorem lastConverged_aggregate :
    (aggregateStackStatus clock stack children).lastConverged =
      stampLastConverged clock stack (childStats stack children).converged :=
  congrArg StackStatus.lastConverged (withoutConditions_aggregate clock stack children)

theorem resources_aggregate :
    (aggregateStackStatus clock stack children).resources =
      (childStats stack children).summaries :=
  congrArg StackStatus.resources (withoutConditions_aggregate clock stack children)

theorem phase_aggregate :
    (aggregateStackStatus clock stack children).phase =
      stackPhase (stackState clock stack children) (childStats stack children).converged :=
  congrArg StackStatus.phase (withoutConditions_aggregate clock stack children)

/-- Up to transition times the six conditions are one batch of overwrites. -/
theorem clearTimes_aggregate :
    clearTimes (aggregateStackStatus clock stack children).conditions =
      putAll (clearTimes stack.status.conditions)
        (stackVerdicts stack.generation (childStats stack children)
          (stackState clock stack children)) :=
  clearTimes_setStackConditions clock.wall stack.generation (childStats stack children)
    (stackState clock stack children)

theorem nodup_stackVerdicts {generation : Int} {stats : ChildStats} {state : StackState} :
    ((stackVerdicts generation stats state).map Condition.type).Nodup := by
  simp [stackVerdicts, stalledVerdict, resourcesReadyVerdict, availableVerdict,
    convergedVerdict, degradedVerdict, progressingVerdict, verdict]

theorem find_aggregate {c : Condition StackCondition}
    (hc : c ∈ stackVerdicts stack.generation (childStats stack children)
      (stackState clock stack children)) :
    (Conditions.findStatusCondition (aggregateStackStatus clock stack children).conditions
      c.type).map Condition.clearTime = some c := by
  rw [← findStatusCondition_clearTimes, clearTimes_aggregate]
  exact find_putAll nodup_stackVerdicts _ hc

end

end ClusterAgent.StackController
