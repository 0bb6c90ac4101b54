import ClusterAgent.Api.StackResource
import ClusterAgent.Controller.Verdict

/-!
# Cluster agent — deriving the StackResource summary

`deriveSummaryStatus` runs once after the sub-reconciler chain and is the only
writer of the summary: the phase, the summary conditions (Available, Stalled,
Converged) and the rolled-up `summary`. It reads the pass's verdicts and the
domain conditions the chain left behind.

Inputs and outputs share one condition list that is rewritten in place. The
module separates them: `SameInputs` names everything the derivation reads, each
function of the source is shown to depend on nothing else, and
`withoutTimes_deriveSummaryStatus` gives the written status, up to transition
times, as one batch of overwrites by `summaryVerdicts`, a function of the inputs.

Main result: `deriveSummaryStatus_reads_inputs_only`.
-/

namespace ClusterAgent.StackResourceController

open Conditions

/-! ## Reading domain conditions -/

/-- A domain condition's verdict and text. One from an older generation reads as
false with the fallback text. -/
def domainConditionText (resource : StackResource) (condType : StackResourceDomainCondition)
    (falseReason falseMsg : String) : Bool × String × String :=
  match resource.domainCond condType with
  | none => (false, falseReason, falseMsg)
  | some c =>
    if c.observedGeneration ≠ resource.generation then (false, falseReason, falseMsg)
    else (decide (c.status = .conditionTrue), c.reason, c.message)

/-- The domain condition, only when it has the given status at the current
generation. -/
def domainCondition (resource : StackResource) (condType : StackResourceDomainCondition)
    (status : ConditionStatus) : Option (Condition ResourceCondition) :=
  match resource.domainCond condType with
  | none => none
  | some c =>
    if c.status ≠ status ∨ c.observedGeneration ≠ resource.generation then none else some c

def domainConditionTrue (resource : StackResource) (condType : StackResourceDomainCondition) :
    Bool :=
  (domainCondition resource condType .conditionTrue).isSome

/-! ## Writing summary conditions -/

section

variable (now : Int)

def setSummaryCondition (resource : StackResource) (condType : StackResourceStatusCondition)
    (status : Bool) (reason msg : String) : StackResource :=
  { resource with
    status.conditions := setStatusCondition now resource.status.conditions
      { type := .summary condType
        status := .ofBool status
        observedGeneration := resource.generation
        reason := reason
        message := msg } }

/-- A terminal verdict rides Stalled and Converged, but not Available: a workload
can serve traffic and still be failed. -/
def deriveFailed (resource : StackResource) (v : Verdict) : StackResource :=
  let resource := { resource with status.phase := .failed }
  let resource := setSummaryCondition now resource .stalled true v.reason v.message
  let resource := setSummaryCondition now resource .converged false v.reason v.message
  if domainConditionTrue resource .workloadAvailable then
    setSummaryCondition now resource .available true "ServingButStalled"
      ("workload serving; terminal failure: " ++ v.message)
  else setSummaryCondition now resource .available false v.reason v.message

def deriveNotReady (resource : StackResource) (v : Verdict) : StackResource :=
  let resource := { resource with status.phase := .pending }
  let resource := setSummaryCondition now resource .available false v.reason v.message
  let resource := setSummaryCondition now resource .converged false v.reason v.message
  setSummaryCondition now resource .stalled false v.reason v.message

def availableText (available converged : Bool) : String × String :=
  if available && converged then ("StackResourceAvailable", "StackResource is available")
  else if available then
    ("StackResourceAvailable", "workload serving; current rollout not converged")
  else ("WorkloadNotAvailable", "workload is not available")

/-- The chain ran to the end, so the summary mirrors the workload's own
conditions. -/
def deriveNoVerdict (resource : StackResource) : StackResource :=
  let resource :=
    match resource.spec.buildSpec with
    | some b =>
      { resource with status.imageSourceRevision := b.sourceRevision.getSourceRevisionString }
    | none => resource
  let (converged, convergedReason, convergedMsg) := domainConditionText resource
    .workloadConverged "WorkloadNotConverged" "workload has not converged"
  let resource :=
    setSummaryCondition now resource .converged converged convergedReason convergedMsg
  let resource :=
    { resource with status.phase := if converged then .ready else .degraded }
  let available := domainConditionTrue resource .workloadAvailable
  let (reason, msg) := availableText available converged
  let resource := setSummaryCondition now resource .available available reason msg
  setSummaryCondition now resource .stalled false reason msg

end

/-! ## The rolled-up summary -/

def declaredFailingPorts (resource : StackResource) : List Int :=
  match resource.status.portCheck with
  | none => []
  | some pc =>
    if pc.status ≠ .failure then []
    else pc.failingPortNumbers.filter fun n =>
      resource.spec.ports.any fun p => decide (p.number = n)

def failureDetail (resource : StackResource) (failureType : String) : Option LastFailureDetail :=
  resource.status.lastFailureDetails.find? fun d =>
    decide (d.type = failureType) &&
      (decide (d.lastTerminationReason ≠ "") || decide (d.lastTerminationMessage ≠ ""))

def portDialMessage (ports : List Int) : String :=
  let noun := if 1 < ports.length then "ports" else "port"
  noun ++ " " ++ String.intercalate ", " (ports.map toString) ++ " not accepting connections"

def deployingDetail (resource : StackResource) (v : Option Verdict) : String × String :=
  let ports := declaredFailingPorts resource
  if 0 < ports.length then (reasonPortNotListening, portDialMessage ports)
  else
    match v with
    | some v => (v.reason, v.message)
    | none =>
      (domainConditionText resource .workloadConverged "WorkloadNotConverged"
        "workload has not converged").2

def appendServingNote (resource : StackResource) (message : String) : String :=
  if !domainConditionTrue resource .workloadAvailable then message
  else if message = "" then "previous revision still serving traffic"
  else message ++ " (previous revision still serving traffic)"

/-- Map the pass to one state; the first case that applies wins. -/
def classify (resource : StackResource) (verdicts : VerdictCollector) :
    StackResourceSummaryState × String × String :=
  let notReady := verdicts.notReady
  let buildNotReady := domainCondition resource .buildReady .conditionFalse
  let depsNotReady := domainCondition resource .dependenciesReady .conditionFalse
  let crash := failureDetail resource failureTypeRuntimeCrash
  let converged := domainCondition resource .workloadConverged .conditionTrue
  match verdicts.failed with
  | some v => (.failed, v.reason, v.message)
  | none =>
    match notReady, buildNotReady with
    | some _, some b => (.building, b.reason, b.message)
    | _, _ =>
      match notReady, depsNotReady with
      | some _, some d => (.waiting, d.reason, d.message)
      | _, _ =>
        match notReady, crash with
        | some _, some c => (.failed, c.lastTerminationReason, c.lastTerminationMessage)
        | _, _ =>
          match notReady, converged, domainConditionTrue resource .workloadAvailable with
          | none, some c, true => (.ready, c.reason, c.message)
          | _, _, _ => (.deploying, deployingDetail resource notReady)

def summarize (resource : StackResource) (verdicts : VerdictCollector) :
    StackResourceStatusSummary :=
  let (state, reason, message) := classify resource verdicts
  { state := state
    reason := reason
    message := if state = .deploying then appendServingNote resource message else message
    observedGeneration := resource.generation }

/-- `StackResource.StatusHash`: the digest of the status without the stored hash
and without transition times. -/
def statusHash (digest : StackResourceStatus → String) (resource : StackResource) : String :=
  digest { resource.status with
    statusHash := ""
    conditions := clearTimes resource.status.conditions }

/-- The status fields the derivation sets before it looks at any verdict. -/
def observe (resource : StackResource) : StackResource :=
  let resource := { resource with status.observedGeneration := resource.generation }
  match resource.metadata.annotations.get? revisionAnnotationKey with
  | some rev => { resource with status.observedRevision := rev }
  | none => resource

def deriveByVerdict (now : Int) (resource : StackResource) (verdicts : VerdictCollector) :
    StackResource :=
  match verdicts.failed, verdicts.notReady with
  | some v, _ => deriveFailed now resource v
  | none, some v => deriveNotReady now resource v
  | none, none => deriveNoVerdict now resource

def deriveSummaryStatus (now : Int) (digest : StackResourceStatus → String)
    (resource : StackResource) (verdicts : VerdictCollector) : StackResource :=
  let resource := deriveByVerdict now (observe resource) verdicts
  let resource := { resource with status.summary := some (summarize resource verdicts) }
  { resource with status.statusHash := statusHash digest resource }

/-! ## What the derivation reads -/

/-- What the derivation can see of a domain condition: nothing, unless it was
reported for the current generation; and never its transition time. -/
def fact (resource : StackResource) (condType : StackResourceDomainCondition) :
    Option (Condition ResourceCondition) :=
  ((resource.domainCond condType).filter fun c =>
    decide (c.observedGeneration = resource.generation)).map Condition.clearTime

/-- Two resources that agree on everything the derivation reads. They may differ in
every summary field, in the transition times, and in every domain condition that
is stale in both (or stale in one and absent from the other). -/
structure SameInputs (r r' : StackResource) : Prop where
  metadata : r.metadata = r'.metadata
  spec : r.spec = r'.spec
  failures : r.status.lastFailureDetails = r'.status.lastFailureDetails
  portCheck : r.status.portCheck = r'.status.portCheck
  facts : ∀ condType, fact r condType = fact r' condType

variable {r r' : StackResource}

theorem SameInputs.trans {s t : StackResource} (h : SameInputs r s) (h' : SameInputs s t) :
    SameInputs r t :=
  ⟨h.metadata.trans h'.metadata, h.spec.trans h'.spec, h.failures.trans h'.failures,
    h.portCheck.trans h'.portCheck, fun c => (h.facts c).trans (h'.facts c)⟩

theorem SameInputs.generation (h : SameInputs r r') :
    r.generation = r'.generation :=
  congrArg ObjectMeta.generation h.metadata

theorem domainConditionText_eq (r : StackResource) (condType : StackResourceDomainCondition)
    (falseReason falseMsg : String) :
    domainConditionText r condType falseReason falseMsg =
      ((fact r condType).map fun c => (decide (c.status = .conditionTrue), c.reason,
        c.message)).getD
        (false, falseReason, falseMsg) := by
  unfold domainConditionText fact
  cases r.domainCond condType with
  | none => rfl
  | some c =>
    by_cases h : c.observedGeneration = r.generation
    · simp [h, Option.filter]
      rfl
    · simp [h, Option.filter]

theorem clearTime_domainCondition (r : StackResource) (condType : StackResourceDomainCondition)
    (status : ConditionStatus) :
    (domainCondition r condType status).map Condition.clearTime =
      (fact r condType).filter fun c => decide (c.status = status) := by
  unfold domainCondition fact
  cases r.domainCond condType with
  | none => rfl
  | some c =>
    by_cases h : c.observedGeneration = r.generation
    · by_cases hs : c.status = status <;> simp [h, hs, Option.filter]
    · simp [h, Option.filter]

theorem domainConditionTrue_eq (r : StackResource) (condType : StackResourceDomainCondition) :
    domainConditionTrue r condType =
      ((fact r condType).filter fun c => decide (c.status = .conditionTrue)).isSome := by
  rw [domainConditionTrue, ← clearTime_domainCondition, Option.isSome_map]

section

variable {r r' : StackResource} (h : SameInputs r r')

include h

theorem SameInputs.domainConditionText_eq (condType : StackResourceDomainCondition)
    (falseReason falseMsg : String) :
    domainConditionText r condType falseReason falseMsg =
      domainConditionText r' condType falseReason falseMsg := by
  rw [StackResourceController.domainConditionText_eq,
    StackResourceController.domainConditionText_eq, h.facts]

theorem SameInputs.domainConditionTrue_eq (condType : StackResourceDomainCondition) :
    domainConditionTrue r condType = domainConditionTrue r' condType := by
  rw [StackResourceController.domainConditionTrue_eq,
    StackResourceController.domainConditionTrue_eq, h.facts]

theorem SameInputs.domainCondition_cases (condType : StackResourceDomainCondition)
    (status : ConditionStatus) :
    (domainCondition r condType status = none ∧ domainCondition r' condType status = none) ∨
    ∃ c c', domainCondition r condType status = some c ∧
      domainCondition r' condType status = some c' ∧
      c.reason = c'.reason ∧ c.message = c'.message := by
  have hEq : (domainCondition r condType status).map Condition.clearTime =
      (domainCondition r' condType status).map Condition.clearTime := by
    rw [clearTime_domainCondition, clearTime_domainCondition, h.facts]
  cases hc : domainCondition r condType status with
  | none =>
    rw [hc] at hEq
    exact Or.inl ⟨rfl, Option.map_eq_none_iff.mp hEq.symm⟩
  | some c =>
    rw [hc] at hEq
    obtain ⟨c', hc', hcc⟩ := Option.map_eq_some_iff.mp hEq.symm
    exact Or.inr ⟨c, c', rfl, hc', (congrArg Condition.reason hcc).symm,
      (congrArg Condition.message hcc).symm⟩

theorem SameInputs.declaredFailingPorts_eq : declaredFailingPorts r = declaredFailingPorts r' := by
  unfold declaredFailingPorts
  rw [h.portCheck, h.spec]

theorem SameInputs.failureDetail_eq (failureType : String) :
    failureDetail r failureType = failureDetail r' failureType := by
  unfold failureDetail
  rw [h.failures]

theorem SameInputs.deployingDetail_eq (v : Option Verdict) :
    deployingDetail r v = deployingDetail r' v := by
  unfold deployingDetail
  rw [h.declaredFailingPorts_eq, h.domainConditionText_eq]

theorem SameInputs.appendServingNote_eq (message : String) :
    appendServingNote r message = appendServingNote r' message := by
  unfold appendServingNote
  rw [h.domainConditionTrue_eq]

theorem SameInputs.classify_eq (verdicts : VerdictCollector) :
    classify r verdicts = classify r' verdicts := by
  unfold classify
  dsimp only
  rw [h.failureDetail_eq, h.domainConditionTrue_eq, h.deployingDetail_eq]
  cases verdicts.failed with
  | some v => rfl
  | none =>
    cases verdicts.notReady with
    | some v =>
      -- the build and dependency conditions are absent from both or have one text
      rcases h.domainCondition_cases .buildReady .conditionFalse with
        ⟨hb, hb'⟩ | ⟨b, b', hb, hb', hbr, hbm⟩
      · rcases h.domainCondition_cases .dependenciesReady .conditionFalse with
          ⟨hd, hd'⟩ | ⟨d, d', hd, hd', hdr, hdm⟩
        · simp only [hb, hb', hd, hd']
        · simp only [hb, hb', hd, hd', hdr, hdm]
      · simp only [hb, hb', hbr, hbm]
    | none =>
      rcases h.domainCondition_cases .workloadConverged .conditionTrue with
        ⟨hc, hc'⟩ | ⟨c, c', hc, hc', hcr, hcm⟩
      · simp only [hc, hc']
      · rw [hc, hc']
        cases domainConditionTrue r' .workloadAvailable with
        | true => simp only [hcr, hcm]
        | false => rfl

theorem SameInputs.summarize_eq (verdicts : VerdictCollector) :
    summarize r verdicts = summarize r' verdicts := by
  unfold summarize
  rw [h.classify_eq, h.generation]
  simp only [h.appendServingNote_eq]

end

/-! ## What the derivation writes -/

def summaryVerdict (r : StackResource) (condType : StackResourceStatusCondition) (status : Bool)
    (reason msg : String) : Condition ResourceCondition where
  type := .summary condType
  status := .ofBool status
  observedGeneration := r.generation
  reason := reason
  message := msg

def summaryVerdicts (r : StackResource) (verdicts : VerdictCollector) :
    List (Condition ResourceCondition) :=
  match verdicts.failed, verdicts.notReady with
  | some v, _ =>
    [ summaryVerdict r .stalled true v.reason v.message,
      summaryVerdict r .converged false v.reason v.message,
      if domainConditionTrue r .workloadAvailable then
        summaryVerdict r .available true "ServingButStalled"
          ("workload serving; terminal failure: " ++ v.message)
      else summaryVerdict r .available false v.reason v.message ]
  | none, some v =>
    [ summaryVerdict r .available false v.reason v.message,
      summaryVerdict r .converged false v.reason v.message,
      summaryVerdict r .stalled false v.reason v.message ]
  | none, none =>
    let converged := domainConditionText r .workloadConverged "WorkloadNotConverged"
      "workload has not converged"
    let available := domainConditionTrue r .workloadAvailable
    let text := availableText available converged.1
    [ summaryVerdict r .converged converged.1 converged.2.1 converged.2.2,
      summaryVerdict r .available available text.1 text.2,
      summaryVerdict r .stalled false text.1 text.2 ]

def summaryPhase (r : StackResource) (verdicts : VerdictCollector) : StackResourcePhase :=
  match verdicts.failed, verdicts.notReady with
  | some _, _ => .failed
  | none, some _ => .pending
  | none, none =>
    if (domainConditionText r .workloadConverged "WorkloadNotConverged"
      "workload has not converged").1 then .ready else .degraded

def summaryImageRevision (r : StackResource) (verdicts : VerdictCollector) : String :=
  match verdicts.failed, verdicts.notReady, r.spec.buildSpec with
  | none, none, some b => b.sourceRevision.getSourceRevisionString
  | _, _, _ => r.status.imageSourceRevision

def ResourceCondition.isSummary : ResourceCondition → Bool
  | .summary _ => true
  | .domain _ | .other _ => false

def ownConditions (conds : List (Condition ResourceCondition)) :
    List (Condition ResourceCondition) :=
  conds.filter fun c => !ResourceCondition.isSummary c.type

theorem domainCond_of_ownConditions
    (h : ownConditions r.status.conditions = ownConditions r'.status.conditions)
    (condType : StackResourceDomainCondition) :
    r.domainCond condType = r'.domainCond condType := by
  have hFind : ∀ conds : List (Condition ResourceCondition),
      findStatusCondition conds (.domain condType) =
        findStatusCondition (ownConditions conds) (.domain condType) := by
    intro conds
    unfold findStatusCondition ownConditions
    rw [List.find?_filter]
    congr 1
    funext c
    by_cases hc : c.type = .domain condType <;> simp [hc, ResourceCondition.isSummary]
  rw [StackResource.domainCond, StackResource.domainCond, hFind, h, ← hFind]

theorem sameInputs_of_ownConditions (hm : r.metadata = r'.metadata) (hs : r.spec = r'.spec)
    (hf : r.status.lastFailureDetails = r'.status.lastFailureDetails)
    (hp : r.status.portCheck = r'.status.portCheck)
    (hc : ownConditions r.status.conditions = ownConditions r'.status.conditions) :
    SameInputs r r' := by
  refine ⟨hm, hs, hf, hp, fun condType => ?_⟩
  rw [fact, fact, domainCond_of_ownConditions hc, StackResource.generation, hm]
  rfl

/-- The effect of a derivation step: `phase` and `image` are set, and `news` are
written over the summary conditions. -/
structure Writes (r r' : StackResource) (phase : StackResourcePhase) (image : String)
    (news : List (Condition ResourceCondition)) : Prop where
  metadata : r'.metadata = r.metadata
  spec : r'.spec = r.spec
  status : r'.status = { r.status with
    phase := phase, imageSourceRevision := image, conditions := r'.status.conditions }
  own : ownConditions r'.status.conditions = ownConditions r.status.conditions
  conditions : clearTimes r'.status.conditions = putAll (clearTimes r.status.conditions) news

theorem Writes.sameInputs {phase : StackResourcePhase} {image : String}
    {news : List (Condition ResourceCondition)} (h : Writes r r' phase image news) :
    SameInputs r' r := by
  refine sameInputs_of_ownConditions h.metadata h.spec ?_ ?_ h.own
  · rw [h.status]
  · rw [h.status]

theorem Writes.set {phase : StackResourcePhase} {image : String}
    {news : List (Condition ResourceCondition)} (h : Writes r r' phase image news) (now : Int)
    (condType : StackResourceStatusCondition) (status : Bool) (reason msg : String) :
    Writes r (setSummaryCondition now r' condType status reason msg) phase image
      (news ++ [summaryVerdict r condType status reason msg]) where
  metadata := h.metadata
  spec := h.spec
  status := congrArg (fun s : StackResourceStatus => { s with
    conditions := (setSummaryCondition now r' condType status reason msg).status.conditions })
    h.status
  own := by
    rw [← h.own]
    exact filter_set_other (p := fun t => !ResourceCondition.isSummary t) rfl
  conditions := by
    have hGen : r'.generation = r.generation := congrArg ObjectMeta.generation h.metadata
    rw [putAll_concat, ← h.conditions, setSummaryCondition, clearTimes_setStatusCondition, hGen]
    rfl

theorem writes_fields (r : StackResource) (phase : StackResourcePhase) (image : String) :
    Writes r { r with status.phase := phase, status.imageSourceRevision := image } phase image [] :=
  ⟨rfl, rfl, rfl, rfl, rfl⟩

section

variable (now : Int) (r : StackResource)

theorem writes_deriveFailed (v : Verdict) (n : Option Verdict) :
    Writes r (deriveFailed now r v) .failed r.status.imageSourceRevision
      (summaryVerdicts r ⟨n, some v⟩) := by
  have h := ((writes_fields r .failed r.status.imageSourceRevision).set now .stalled true
    v.reason v.message).set now .converged false v.reason v.message
  -- the summary conditions just written do not change what is read of the workload
  have hRead := h.sameInputs.domainConditionTrue_eq .workloadAvailable
  unfold deriveFailed summaryVerdicts
  dsimp only
  rw [hRead]
  cases domainConditionTrue r .workloadAvailable with
  | true => exact h.set now .available true _ _
  | false => exact h.set now .available false _ _

theorem writes_deriveNotReady (v : Verdict) :
    Writes r (deriveNotReady now r v) .pending r.status.imageSourceRevision
      (summaryVerdicts r ⟨some v, none⟩) :=
  (((writes_fields r .pending r.status.imageSourceRevision).set now .available false
    v.reason v.message).set now .converged false v.reason v.message).set now .stalled false
    v.reason v.message

theorem writes_deriveNoVerdict :
    Writes r (deriveNoVerdict now r) (summaryPhase r {}) (summaryImageRevision r {})
      (summaryVerdicts r {}) := by
  set t := domainConditionText r .workloadConverged "WorkloadNotConverged"
    "workload has not converged" with ht
  have h := (writes_fields r (summaryPhase r {}) (summaryImageRevision r {})).set now .converged
    t.1 t.2.1 t.2.2
  have hRead := h.sameInputs.domainConditionTrue_eq .workloadAvailable
  have hAll := (h.set now .available (domainConditionTrue r .workloadAvailable)
    (availableText (domainConditionTrue r .workloadAvailable) t.1).1
    (availableText (domainConditionTrue r .workloadAvailable) t.1).2).set now .stalled false
    (availableText (domainConditionTrue r .workloadAvailable) t.1).1
    (availableText (domainConditionTrue r .workloadAvailable) t.1).2
  -- the source sets the phase between two condition writes; the order does not show
  have hEq : deriveNoVerdict now r = setSummaryCondition now (setSummaryCondition now
      (setSummaryCondition now { r with
        status.phase := summaryPhase r {},
        status.imageSourceRevision := summaryImageRevision r {} } .converged t.1 t.2.1 t.2.2)
      .available (domainConditionTrue r .workloadAvailable)
      (availableText (domainConditionTrue r .workloadAvailable) t.1).1
      (availableText (domainConditionTrue r .workloadAvailable) t.1).2) .stalled false
      (availableText (domainConditionTrue r .workloadAvailable) t.1).1
      (availableText (domainConditionTrue r .workloadAvailable) t.1).2 := by
    rw [← hRead]
    unfold deriveNoVerdict summaryImageRevision
    cases r.spec.buildSpec with
    | none => rfl
    | some b => rfl
  rw [hEq]
  exact hAll

theorem writes_deriveByVerdict (verdicts : VerdictCollector) :
    Writes r (deriveByVerdict now r verdicts) (summaryPhase r verdicts)
      (summaryImageRevision r verdicts) (summaryVerdicts r verdicts) := by
  obtain ⟨n, f⟩ := verdicts
  cases f with
  | some v => exact writes_deriveFailed now r v n
  | none =>
    cases n with
    | some v => exact writes_deriveNotReady now r v
    | none => exact writes_deriveNoVerdict now r

end

/-! ## The derivation in closed form -/

theorem SameInputs.summaryVerdicts_eq (h : SameInputs r r') (verdicts : VerdictCollector) :
    summaryVerdicts r verdicts = summaryVerdicts r' verdicts := by
  unfold summaryVerdicts summaryVerdict
  rw [h.generation, h.domainConditionTrue_eq, h.domainConditionText_eq]

theorem SameInputs.summaryPhase_eq (h : SameInputs r r') (verdicts : VerdictCollector) :
    summaryPhase r verdicts = summaryPhase r' verdicts := by
  unfold summaryPhase
  rw [h.domainConditionText_eq]

theorem nodup_summaryVerdicts (r : StackResource) (verdicts : VerdictCollector) :
    ((summaryVerdicts r verdicts).map Condition.type).Nodup := by
  obtain ⟨n, f⟩ := verdicts
  cases f with
  | some v =>
    unfold summaryVerdicts
    cases domainConditionTrue r .workloadAvailable <;> simp [summaryVerdict]
  | none => cases n <;> simp [summaryVerdicts, summaryVerdict]

def withoutTimes (r : StackResource) : StackResource :=
  { r with status.conditions := clearTimes r.status.conditions }

def derivedStatus (digest : StackResourceStatus → String) (r : StackResource)
    (verdicts : VerdictCollector) : StackResourceStatus :=
  let status := { r.status with
    observedGeneration := r.generation
    observedRevision :=
      (r.metadata.annotations.get? revisionAnnotationKey).getD r.status.observedRevision
    phase := summaryPhase r verdicts
    imageSourceRevision := summaryImageRevision r verdicts
    conditions := putAll (clearTimes r.status.conditions) (summaryVerdicts r verdicts)
    summary := some (summarize r verdicts) }
  { status with statusHash := digest { status with statusHash := "" } }

theorem observe_eq (r : StackResource) :
    observe r = { r with
      status.observedGeneration := r.generation
      status.observedRevision :=
        (r.metadata.annotations.get? revisionAnnotationKey).getD r.status.observedRevision } := by
  unfold observe
  dsimp only
  split
  · next h => rw [h]; rfl
  · next h => rw [h]; rfl

section

variable (now : Int) (digest : StackResourceStatus → String) (r : StackResource)
  (verdicts : VerdictCollector)

theorem writes_deriveSummaryStatus :
    Writes (observe r) (deriveByVerdict now (observe r) verdicts) (summaryPhase r verdicts)
      (summaryImageRevision r verdicts) (summaryVerdicts r verdicts) := by
  have h := writes_deriveByVerdict now (observe r) verdicts
  rw [observe_eq] at h ⊢
  exact h

/-- **Closed form.** Up to transition times the derived status is `derivedStatus`. -/
theorem withoutTimes_deriveSummaryStatus :
    withoutTimes (deriveSummaryStatus now digest r verdicts) =
      { r with status := derivedStatus digest r verdicts } := by
  have h := writes_deriveSummaryStatus now r verdicts
  have hSame : SameInputs (deriveByVerdict now (observe r) verdicts) r := by
    refine h.sameInputs.trans ?_
    rw [observe_eq]
    exact sameInputs_of_ownConditions rfl rfl rfl rfl rfl
  unfold deriveSummaryStatus withoutTimes statusHash derivedStatus
  dsimp only
  rw [hSame.summarize_eq, h.metadata, h.spec, h.conditions, h.status, observe_eq]

theorem sameInputs_deriveSummaryStatus :
    SameInputs (deriveSummaryStatus now digest r verdicts) r := by
  have h := writes_deriveSummaryStatus now r verdicts
  refine SameInputs.trans ?_ (h.sameInputs.trans ?_)
  · exact sameInputs_of_ownConditions rfl rfl rfl rfl rfl
  · rw [observe_eq]
    exact sameInputs_of_ownConditions rfl rfl rfl rfl rfl

theorem ownConditions_deriveSummaryStatus :
    ownConditions (deriveSummaryStatus now digest r verdicts).status.conditions =
      ownConditions r.status.conditions := by
  have h := (writes_deriveSummaryStatus now r verdicts).own
  rw [observe_eq] at h
  rw [← h, ← observe_eq]
  rfl

theorem summaryCond_deriveSummaryStatus {c : Condition ResourceCondition}
    (hc : c ∈ summaryVerdicts r verdicts) :
    (findStatusCondition (deriveSummaryStatus now digest r verdicts).status.conditions c.type).map
      Condition.clearTime = some c := by
  have hEq := congrArg (fun r : StackResource => r.status.conditions)
    (withoutTimes_deriveSummaryStatus now digest r verdicts)
  rw [← findStatusCondition_clearTimes]
  refine (congrArg (findStatusCondition · c.type) hEq).trans ?_
  exact find_putAll (nodup_summaryVerdicts r verdicts) _ hc

/-- **Idempotence.** Deriving again, at any later time, changes at most transition
times. -/
theorem withoutTimes_derive_derive (now' : Int) :
    withoutTimes (deriveSummaryStatus now' digest
      (deriveSummaryStatus now digest r verdicts) verdicts) =
    withoutTimes (deriveSummaryStatus now digest r verdicts) := by
  have hSame := sameInputs_deriveSummaryStatus now digest r verdicts
  have hClosed := withoutTimes_deriveSummaryStatus now digest r verdicts
  rw [withoutTimes_deriveSummaryStatus now', hClosed]
  -- only the closed form of the first derivation is used from here on
  generalize deriveSummaryStatus now digest r verdicts = d at hSame hClosed ⊢
  have hConds : clearTimes d.status.conditions =
      putAll (clearTimes r.status.conditions) (summaryVerdicts r verdicts) :=
    congrArg (fun r : StackResource => r.status.conditions) hClosed
  have hStatus : d.status =
      { derivedStatus digest r verdicts with conditions := d.status.conditions } :=
    congrArg (fun x : StackResource => { x.status with conditions := d.status.conditions }) hClosed
  have hImage : summaryImageRevision d verdicts = summaryImageRevision r verdicts := by
    have hField : d.status.imageSourceRevision = summaryImageRevision r verdicts := by
      rw [hStatus]; rfl
    unfold summaryImageRevision at hField ⊢
    rw [hSame.spec]
    revert hField
    -- the image revision moves in the last case only, and there it does not read itself
    cases verdicts.failed with
    | some v => exact id
    | none =>
      cases verdicts.notReady with
      | some v => exact id
      | none =>
        cases r.spec.buildSpec with
        | none => exact id
        | some b => exact fun _ => rfl
  have hRevision :
      (d.metadata.annotations.get? revisionAnnotationKey).getD d.status.observedRevision =
        (r.metadata.annotations.get? revisionAnnotationKey).getD r.status.observedRevision := by
    have hField : d.status.observedRevision =
        (r.metadata.annotations.get? revisionAnnotationKey).getD r.status.observedRevision := by
      rw [hStatus]; rfl
    rw [hField, hSame.metadata]
    -- an annotation overrides the recorded revision, which otherwise is the annotation's
    cases r.metadata.annotations.get? revisionAnnotationKey <;> rfl
  have hDerived : derivedStatus digest d verdicts = derivedStatus digest r verdicts := by
    unfold derivedStatus
    dsimp only
    rw [hImage, hRevision, hConds, hSame.generation, hSame.summarize_eq, hSame.summaryPhase_eq,
      -- the second batch of conditions is the first one again
      hSame.summaryVerdicts_eq, putAll_putAll (nodup_summaryVerdicts r verdicts), hStatus]
    rfl
  rw [hDerived, hSame.metadata, hSame.spec]

end

/-! ## What holds of every derivation -/

/-- Two derived resources with the same summary: phase, rolled-up summary and,
up to transition times, the three summary conditions. -/
structure SameSummary (d d' : StackResource) : Prop where
  phase : d.status.phase = d'.status.phase
  summary : d.status.summary = d'.status.summary
  conditions : ∀ c, (d.summaryCond c).map Condition.clearTime =
    (d'.summaryCond c).map Condition.clearTime

/-- A summary condition of the derived resource that is in place for its generation. -/
def Reports (d : StackResource) (condType : StackResourceStatusCondition)
    (status : ConditionStatus) (reason message : String) : Prop :=
  ∃ c, d.summaryCond condType = some c ∧ c.status = status ∧
    c.observedGeneration = d.generation ∧ c.reason = reason ∧ c.message = message

section

variable (now now' : Int) (digest : StackResourceStatus → String) (r : StackResource)
  (verdicts : VerdictCollector)

theorem phase_deriveSummaryStatus :
    (deriveSummaryStatus now digest r verdicts).status.phase = summaryPhase r verdicts :=
  congrArg (fun r : StackResource => r.status.phase)
    (withoutTimes_deriveSummaryStatus now digest r verdicts)

theorem summary_deriveSummaryStatus :
    (deriveSummaryStatus now digest r verdicts).status.summary = some (summarize r verdicts) :=
  congrArg (fun r : StackResource => r.status.summary)
    (withoutTimes_deriveSummaryStatus now digest r verdicts)

theorem metadata_deriveSummaryStatus :
    (deriveSummaryStatus now digest r verdicts).metadata = r.metadata :=
  (sameInputs_deriveSummaryStatus now digest r verdicts).metadata

theorem exists_summaryVerdict (condType : StackResourceStatusCondition) :
    ∃ c ∈ summaryVerdicts r verdicts, c.type = .summary condType := by
  obtain ⟨n, f⟩ := verdicts
  cases f with
  | some v =>
    unfold summaryVerdicts
    cases condType <;> cases domainConditionTrue r .workloadAvailable <;> simp [summaryVerdict]
  | none => cases n <;> cases condType <;> simp [summaryVerdicts, summaryVerdict]

theorem reports_of_mem {condType : StackResourceStatusCondition} {status : Bool}
    {reason message : String}
    (h : summaryVerdict r condType status reason message ∈ summaryVerdicts r verdicts) :
    Reports (deriveSummaryStatus now digest r verdicts) condType (.ofBool status) reason
      message := by
  have hFind := summaryCond_deriveSummaryStatus now digest r verdicts h
  obtain ⟨c, hc, hcc⟩ := Option.map_eq_some_iff.mp hFind
  have hGen : (deriveSummaryStatus now digest r verdicts).generation = r.generation :=
    congrArg ObjectMeta.generation (metadata_deriveSummaryStatus now digest r verdicts)
  refine ⟨c, hc, congrArg Condition.status hcc, ?_, congrArg Condition.reason hcc,
    congrArg Condition.message hcc⟩
  exact (congrArg Condition.observedGeneration hcc).trans hGen.symm

variable {r}

/-- **Non-interference.** Resources with the same inputs derive the same summary. -/
theorem SameInputs.sameSummary (h : SameInputs r r') :
    SameSummary (deriveSummaryStatus now digest r verdicts)
      (deriveSummaryStatus now' digest r' verdicts) where
  phase := by
    rw [phase_deriveSummaryStatus, phase_deriveSummaryStatus, h.summaryPhase_eq]
  summary := by
    rw [summary_deriveSummaryStatus, summary_deriveSummaryStatus, h.summarize_eq]
  conditions := by
    intro condType
    obtain ⟨c, hc, hType⟩ := exists_summaryVerdict r verdicts condType
    have hc' : c ∈ summaryVerdicts r' verdicts := h.summaryVerdicts_eq verdicts ▸ hc
    have hFind := summaryCond_deriveSummaryStatus now digest r verdicts hc
    have hFind' := summaryCond_deriveSummaryStatus now' digest r' verdicts hc'
    rw [hType] at hFind hFind'
    exact hFind.trans hFind'.symm

variable (r)

/-- The derivation is idempotent up to transition times and leaves every condition
it does not own in place. Its phase, summary and summary conditions depend on
nothing but the inputs named by `SameInputs`: not on their own previous values and
not on stale domain conditions. The first terminal verdict, whatever was reported
before or after it, decides the outcome. -/
theorem deriveSummaryStatus_reads_inputs_only :
    withoutTimes (deriveSummaryStatus now' digest
        (deriveSummaryStatus now digest r verdicts) verdicts) =
      withoutTimes (deriveSummaryStatus now digest r verdicts) ∧
    ownConditions (deriveSummaryStatus now digest r verdicts).status.conditions =
      ownConditions r.status.conditions ∧
    (∀ c, (deriveSummaryStatus now digest r verdicts).domainCond c = r.domainCond c) ∧
    (∀ r', SameInputs r r' → SameSummary (deriveSummaryStatus now digest r verdicts)
      (deriveSummaryStatus now' digest r' verdicts)) ∧
    ∀ reports v, reports.findSome? VerdictReport.failed? = some v →
      let d := deriveSummaryStatus now digest r (.collect reports)
      d.status.phase = .failed ∧
      Reports d .stalled .conditionTrue v.reason v.message ∧
      Reports d .converged .conditionFalse v.reason v.message ∧
      d.status.summary = some
        { state := .failed, reason := v.reason, message := v.message,
          observedGeneration := r.generation } := by
  have hOwn := ownConditions_deriveSummaryStatus now digest r verdicts
  refine ⟨withoutTimes_derive_derive now digest r verdicts now', hOwn,
    domainCond_of_ownConditions hOwn, fun r' h => h.sameSummary now now' digest verdicts, ?_⟩
  -- the first failure reported in a pass decides all that the status says
  intro reports v hFirst
  have hFailed : (VerdictCollector.collect reports).failed = some v := by
    rw [VerdictCollector.failed_collect, hFirst]
  refine ⟨?_, ?_, ?_, ?_⟩
  · rw [phase_deriveSummaryStatus, summaryPhase, hFailed]
  · have hMem : summaryVerdict r .stalled true v.reason v.message ∈
        summaryVerdicts r (.collect reports) := by
      rw [summaryVerdicts, hFailed]
      exact List.mem_cons_self
    exact reports_of_mem now digest r _ hMem
  · have hMem : summaryVerdict r .converged false v.reason v.message ∈
        summaryVerdicts r (.collect reports) := by
      rw [summaryVerdicts, hFailed]
      exact List.mem_cons_of_mem _ List.mem_cons_self
    exact reports_of_mem now digest r _ hMem
  · rw [summary_deriveSummaryStatus, summarize, classify, hFailed]
    rfl

end

def staleResource (status : ConditionStatus) (reason : String) : StackResource where
  metadata := { name := "web", generation := 2 }
  status :=
    { conditions :=
        [ { type := .domain .workloadAvailable, status := status, observedGeneration := 1,
            reason := reason, message := "" },
          { type := .summary .available, status := status, observedGeneration := 1,
            reason := reason, message := "" } ] }

/-- A not-ready report followed by two failures, over resources that disagree on a
stale condition. -/
theorem deriveSummaryStatus_stale_workload :
    SameSummary
      (deriveSummaryStatus 7 (fun _ => "") (staleResource .conditionTrue "Serving") {})
      (deriveSummaryStatus 9 (fun _ => "") (staleResource .conditionFalse "Gone") {}) ∧
    (deriveSummaryStatus 7 (fun _ => "") (staleResource .conditionTrue "Serving")
      (.collect [.notReady ⟨"A", "a"⟩, .failed ⟨"B", "b"⟩, .failed ⟨"C", "c"⟩])).status.phase =
        .failed := by
  have h := deriveSummaryStatus_reads_inputs_only 7 9 (fun _ => "")
    (staleResource .conditionTrue "Serving") {}
  refine ⟨h.2.2.2.1 _ ⟨rfl, rfl, rfl, rfl, fun c => by cases c <;> rfl⟩, ?_⟩
  exact (h.2.2.2.2 _ ⟨"B", "b"⟩ rfl).1

end ClusterAgent.StackResourceController
