import ClusterAgent.StackResource.Chain
import ClusterAgent.Workload.Exits

/-!
# Cluster agent — what Ready means

Phase, rolled-up summary and summary conditions each have a way to say that a
resource is ready. They are written by different branches of the derivation, from
verdicts of this pass and conditions that may be left over from an earlier one.
They agree because the chain keeps two promises: a sub-reconciler that ends the
chain leaves a verdict, and a chain that leaves none has found the workload
available in this very pass.

Main result: `reconcile_ready_iff`.
-/

namespace ClusterAgent.StackResourceController

open Pass Effect Conditions
open Workload (Available)

/-! ## The promises of the chain -/

/-- Ending early leaves a verdict; no verdict means the workload is available. -/
def Promised (chainEnd : ChainEnd) (w : World) : Prop :=
  ((∃ step result, chainEnd = .endedBy step result) → ¬ w.verdicts.Empty) ∧
    (w.verdicts.Empty → Available w)

theorem promised_endedBy {step : SubReconciler} {r : SubReconcilerResult} {w : World}
    (h : ¬ w.verdicts.Empty) : Promised (.endedBy step r) w :=
  ⟨fun _ => h, fun he => absurd he h⟩

section

variable {env : Env}

theorem promised_service (deferred : Option Int) :
    Returns (fun w => w.verdicts.Empty → Available w) (runChain env [.service] deferred)
      Promised := by
  have hKeeps : Returns (fun w => w.verdicts.Empty → Available w) (Service.reconcile env)
      (fun r w => ¬ r.EndsChain ∧ (w.verdicts.Empty → Available w)) := by
    intro w hw
    have hGoes := Service.goesOn_reconcile env w trivial
    have hHas := Service.has_reconcile env w
    cases hr : Service.reconcile env w with
    | error e w' => trivial
    | ok r w' =>
      rw [hr] at hGoes hHas
      refine ⟨hGoes, fun hEmpty => ?_⟩
      have hBefore : w.verdicts.Empty :=
        Classical.byContradiction fun hn => hHas.verdicts.not_empty hn hEmpty
      exact (Workload.domainConditionTrue_of_touches hHas (by decide)).trans (hw hBefore)
  refine chain_cons env hKeeps (fun r w hEnds hr => absurd hEnds hr.1) fun r deferred _ => ?_
  exact .pure fun w hr => ⟨fun ⟨_, _, he⟩ => (nomatch he), hr.2⟩

/-- **The chain keeps its promises**, from any state and through any exit. -/
theorem promised_runChain :
    Returns (fun _ => True) (runChain env subReconcilers none) Promised := by
  refine chain_cons env (RegistryAuth.exits_reconcile env)
    (fun r w hEnds hr => promised_endedBy (hr hEnds)) fun r deferred _ => ?_
  refine .pre (P := fun _ => True) ?_ fun _ _ => trivial
  refine chain_cons env (ImageBuilds.exits_reconcile env)
    (fun r w hEnds hr => promised_endedBy (hr hEnds)) fun r deferred _ => ?_
  refine .pre (P := fun _ => True) ?_ fun _ _ => trivial
  refine chain_cons env Workload.judged_reconcile
    (fun r w hEnds hr => promised_endedBy (hr.1 hEnds)) fun r deferred _ => ?_
  exact (promised_service deferred).pre fun _ h => h.2

end

/-! ## The derivation on such a chain -/

/-- A summary condition is in place for the current generation with this status. -/
def ReportsStatus (d : StackResource) (condType : StackResourceStatusCondition)
    (status : ConditionStatus) : Prop :=
  ∃ c, d.summaryCond condType = some c ∧ c.status = status ∧ c.observedGeneration = d.generation

instance (d : StackResource) (condType : StackResourceStatusCondition)
    (status : ConditionStatus) : Decidable (ReportsStatus d condType status) :=
  inferInstanceAs (Decidable (∃ c ∈ d.summaryCond condType,
    c.status = status ∧ c.observedGeneration = d.generation))

def ConditionsReady (d : StackResource) : Prop :=
  ReportsStatus d .converged .conditionTrue ∧ ReportsStatus d .available .conditionTrue ∧
    ReportsStatus d .stalled .conditionFalse

def summaryState (d : StackResource) : Option StackResourceSummaryState :=
  d.status.summary.map StackResourceStatusSummary.state

section

variable (now : Int) (digest : StackResourceStatus → String) (r : StackResource)
  (verdicts : VerdictCollector)

theorem domainConditionText_fst (condType : StackResourceDomainCondition)
    (falseReason falseMsg : String) :
    (domainConditionText r condType falseReason falseMsg).1 = domainConditionTrue r condType := by
  unfold domainConditionText domainConditionTrue domainCondition
  cases r.domainCond condType with
  | none => rfl
  | some c =>
    by_cases hg : c.observedGeneration = r.generation
    · by_cases hs : c.status = .conditionTrue <;> simp [hg, hs]
    · simp [hg]

theorem reportsStatus_iff {c : Condition ResourceCondition}
    {condType : StackResourceStatusCondition} (hc : c ∈ summaryVerdicts r verdicts)
    (hType : c.type = .summary condType) (hGen : c.observedGeneration = r.generation)
    (status : ConditionStatus) :
    ReportsStatus (deriveSummaryStatus now digest r verdicts) condType status ↔
      c.status = status := by
  have hFind := summaryCond_deriveSummaryStatus now digest r verdicts hc
  rw [hType] at hFind
  obtain ⟨d, hd, hdc⟩ := Option.map_eq_some_iff.mp hFind
  have hStatus : d.clearTime.status = c.status := congrArg Condition.status hdc
  have hGeneration : d.observedGeneration =
      (deriveSummaryStatus now digest r verdicts).generation :=
    (congrArg Condition.observedGeneration hdc).trans (hGen.trans
      (congrArg ObjectMeta.generation (metadata_deriveSummaryStatus now digest r verdicts)).symm)
  constructor
  · rintro ⟨d', hd', hs, -⟩
    cases hd.symm.trans hd'
    exact hStatus.symm.trans hs
  · intro hs
    exact ⟨d, hd, hStatus.trans hs, hGeneration⟩

theorem phase_ready_iff :
    (deriveSummaryStatus now digest r verdicts).status.phase = .ready ↔
      verdicts.Empty ∧ domainConditionTrue r .workloadConverged = true := by
  rw [phase_deriveSummaryStatus]
  obtain ⟨n, f⟩ := verdicts
  cases f with
  | some v => exact ⟨fun h => (nomatch h), fun h => (nomatch h.1.2)⟩
  | none =>
    cases n with
    | some v => exact ⟨fun h => (nomatch h), fun h => (nomatch h.1.1)⟩
    | none =>
      unfold summaryPhase
      dsimp only
      rw [domainConditionText_fst]
      cases domainConditionTrue r .workloadConverged with
      | true => exact ⟨fun _ => ⟨⟨rfl, rfl⟩, rfl⟩, fun _ => rfl⟩
      | false => exact ⟨fun h => (nomatch h), fun h => (nomatch h.2)⟩

theorem classify_ready_iff :
    (classify r verdicts).1 = .ready ↔
      verdicts.Empty ∧ domainConditionTrue r .workloadConverged = true ∧
        domainConditionTrue r .workloadAvailable = true := by
  obtain ⟨n, f⟩ := verdicts
  unfold classify
  cases f with
  | some v => exact ⟨fun h => (nomatch h), fun h => (nomatch h.1.2)⟩
  | none =>
    cases n with
    | some v =>
      refine ⟨fun h => ?_, fun h => (nomatch h.1.1)⟩
      -- a not-ready verdict leaves Building, Waiting, Failed and Deploying
      dsimp only at h
      split at h
      · cases h
      · split at h
        · cases h
        · split at h
          · cases h
          · cases h
    | none =>
      have hConverged : (domainCondition r .workloadConverged .conditionTrue).isSome =
          domainConditionTrue r .workloadConverged := rfl
      dsimp only
      rw [← hConverged]
      cases domainCondition r .workloadConverged .conditionTrue with
      | none => exact ⟨fun h => (nomatch h), fun h => (nomatch h.2.1)⟩
      | some c =>
        cases domainConditionTrue r .workloadAvailable with
        | true => exact ⟨fun _ => ⟨⟨rfl, rfl⟩, rfl, rfl⟩, fun _ => rfl⟩
        | false => exact ⟨fun h => (nomatch h), fun h => (nomatch h.2.2)⟩

theorem summaryState_deriveSummaryStatus :
    summaryState (deriveSummaryStatus now digest r verdicts) = some (classify r verdicts).1 := by
  rw [summaryState, summary_deriveSummaryStatus]
  rfl

theorem ofBool_eq_true_iff (b : Bool) : ConditionStatus.ofBool b = .conditionTrue ↔ b = true := by
  cases b <;> decide

theorem reports_converged_iff :
    ReportsStatus (deriveSummaryStatus now digest r verdicts) .converged .conditionTrue ↔
      verdicts.Empty ∧ domainConditionTrue r .workloadConverged = true := by
  obtain ⟨n, f⟩ := verdicts
  cases f with
  | some v =>
    rw [reportsStatus_iff now digest r ⟨n, some v⟩
      (c := summaryVerdict r .converged false v.reason v.message)
      (List.mem_cons_of_mem _ List.mem_cons_self) rfl rfl]
    exact ⟨fun h => (nomatch h), fun h => (nomatch h.1.2)⟩
  | none =>
    cases n with
    | some v =>
      rw [reportsStatus_iff now digest r ⟨some v, none⟩
        (c := summaryVerdict r .converged false v.reason v.message)
        (List.mem_cons_of_mem _ List.mem_cons_self) rfl rfl]
      exact ⟨fun h => (nomatch h), fun h => (nomatch h.1.1)⟩
    | none =>
      rw [reportsStatus_iff now digest r {} (c := _) List.mem_cons_self rfl rfl]
      dsimp only [summaryVerdict]
      rw [domainConditionText_fst, ofBool_eq_true_iff]
      exact ⟨fun h => ⟨⟨rfl, rfl⟩, h⟩, fun h => h.2⟩

/-- Available is True by the workload's availability, unless the pass waits for something.
A terminal verdict does not withdraw it. -/
theorem reports_available_iff :
    ReportsStatus (deriveSummaryStatus now digest r verdicts) .available .conditionTrue ↔
      (verdicts.failed = none → verdicts.notReady = none) ∧
        domainConditionTrue r .workloadAvailable = true := by
  obtain ⟨n, f⟩ := verdicts
  -- a failed workload may still serve; one that is not ready is not available
  cases f with
  | some v =>
    have hMem : (if domainConditionTrue r .workloadAvailable then
        summaryVerdict r .available true "ServingButStalled"
          ("workload serving; terminal failure: " ++ v.message)
        else summaryVerdict r .available false v.reason v.message) ∈
          summaryVerdicts r ⟨n, some v⟩ :=
      List.mem_cons_of_mem _ (List.mem_cons_of_mem _ List.mem_cons_self)
    rw [reportsStatus_iff now digest r ⟨n, some v⟩ hMem (by split <;> rfl) (by split <;> rfl)]
    cases domainConditionTrue r .workloadAvailable with
    | true => exact ⟨fun _ => ⟨fun h => (nomatch h), rfl⟩, fun _ => rfl⟩
    | false => exact ⟨fun h => (nomatch h), fun h => (nomatch h.2)⟩
  | none =>
    cases n with
    | some v =>
      rw [reportsStatus_iff now digest r ⟨some v, none⟩
        (c := summaryVerdict r .available false v.reason v.message) List.mem_cons_self rfl rfl]
      exact ⟨fun h => (nomatch h), fun h => (nomatch h.1 rfl)⟩
    | none =>
      rw [reportsStatus_iff now digest r {} (c := _)
        (List.mem_cons_of_mem _ List.mem_cons_self) rfl rfl]
      dsimp only [summaryVerdict]
      rw [ofBool_eq_true_iff]
      exact ⟨fun h => ⟨fun _ => rfl, h⟩, fun h => h.2⟩

/-- The summary conditions are those of a ready resource only without verdicts, by both
workload conditions. -/
theorem conditionsReady_iff :
    ConditionsReady (deriveSummaryStatus now digest r verdicts) ↔
      verdicts.Empty ∧ domainConditionTrue r .workloadConverged = true ∧
        domainConditionTrue r .workloadAvailable = true := by
  unfold ConditionsReady
  rw [reports_converged_iff, reports_available_iff]
  constructor
  · rintro ⟨⟨hEmpty, hConverged⟩, ⟨-, hAvailable⟩, -⟩
    exact ⟨hEmpty, hConverged, hAvailable⟩
  · rintro ⟨⟨hn, hf⟩, hConverged, hAvailable⟩
    refine ⟨⟨⟨hn, hf⟩, hConverged⟩, ⟨fun _ => hn, hAvailable⟩, ?_⟩
    -- without a verdict Stalled is written as False
    obtain ⟨n, f⟩ := verdicts
    cases hn
    cases hf
    rw [reportsStatus_iff now digest r {} (c := _)
      (List.mem_cons_of_mem _ (List.mem_cons_of_mem _ List.mem_cons_self)) rfl rfl]
    rfl

end

/-! ## Ready -/

/-- A pass over an object that exists, whatever was stored before: a sub-reconciler that
ended the chain left a verdict; phase, rolled-up summary and summary conditions agree on
being ready; and a ready resource had its whole chain run in this pass and its workload
found converged and available for the current generation. What is stored is what was
derived. -/
theorem reconcile_ready_iff {env : Env} {ns name : String} {w w' : World} {chainEnd : ChainEnd}
    (h : reconcile env ns name w = .ok (some chainEnd) w') :
    ((∃ step result, chainEnd = .endedBy step result) → ¬ w'.verdicts.Empty) ∧
    (w'.resource.status.phase = .ready ↔ summaryState w'.resource = some .ready) ∧
    (w'.resource.status.phase = .ready ↔ ConditionsReady w'.resource) ∧
    (w'.resource.status.phase = .ready →
      (∃ deferred, chainEnd = .ranToEnd deferred) ∧
      domainConditionTrue w'.resource .workloadConverged = true ∧
      domainConditionTrue w'.resource .workloadAvailable = true) ∧
    ∃ stored, lookupResource w'.cluster ns name = some stored ∧ StoredAs w'.resource stored := by
  obtain ⟨stackResource, w1, -, hChain, hPass⟩ := reconcile_inv env h
  obtain ⟨hEarly, hAvailable⟩ := promised_runChain.of_ok trivial hChain
  obtain ⟨build, hResource⟩ := hPass.resource
  -- the build status is no input of the derivation
  set r : StackResource := { w1.resource with status.currentBuild := build } with hr
  have hSame : SameInputs r w1.resource := sameInputs_of_ownConditions rfl rfl rfl rfl rfl
  have hRead := (sameInputs_deriveSummaryStatus env.clock.wall env.statusDigest r
    w1.verdicts)
  have hPromise : w1.verdicts.Empty → domainConditionTrue r .workloadAvailable = true := by
    intro hEmpty
    rw [hSame.domainConditionTrue_eq]
    exact hAvailable hEmpty
  have hReady : w'.resource.status.phase = .ready ↔ w1.verdicts.Empty ∧
      domainConditionTrue r .workloadConverged = true ∧
      domainConditionTrue r .workloadAvailable = true := by
    rw [hResource, phase_ready_iff]
    exact ⟨fun h => ⟨h.1, h.2, hPromise h.1⟩, fun h => ⟨h.1, h.2.1⟩⟩
  refine ⟨?_, ?_, ?_, ?_, stored_reconcile env h⟩
  · rw [hPass.verdicts]
    exact hEarly
  · rw [hReady, hResource, summaryState_deriveSummaryStatus, Option.some_inj, classify_ready_iff]
  · rw [hReady, hResource, conditionsReady_iff]
  · intro hPhase
    obtain ⟨hEmpty, hConverged, hAvail⟩ := hReady.mp hPhase
    refine ⟨?_, ?_, ?_⟩
    · cases chainEnd with
      | endedBy step result => exact absurd hEmpty (hEarly ⟨step, result, rfl⟩)
      | ranToEnd deferred => exact ⟨deferred, rfl⟩
    · rw [hResource, hRead.domainConditionTrue_eq, hConverged]
    · rw [hResource, hRead.domainConditionTrue_eq, hAvail]

def nightly : StackResource where
  metadata := { name := "nightly", ns := "shop", uid := "u1", generation := 1 }
  spec :=
    { workloadType := .cronJob, schedule := "0 3 * * *", imageSpec := some { image := "job:1" } }

def plainEnv (now : Int) : Env :=
  { ObjectPass.quietEnv with
    clock := { wall := now, monotonic := 0 }
    buildInputsHash := fun _ => "hash"
    urlHost := .ok }

def nightlyBefore : World where
  cluster := { stackResources := [nightly] }
  resource := nightly

def nightlyAfter : World :=
  finalState (reconcile (plainEnv 7) "shop" "nightly" nightlyBefore)

theorem reconcile_nightly_ready :
    reconcile (plainEnv 7) "shop" "nightly" nightlyBefore =
        .ok (some (.ranToEnd none)) nightlyAfter ∧
      nightlyAfter.resource.status.phase = .ready ∧ ConditionsReady nightlyAfter.resource := by
  have hPass : reconcile (plainEnv 7) "shop" "nightly" nightlyBefore =
      .ok (some (.ranToEnd none)) nightlyAfter := rfl
  have hReady : nightlyAfter.resource.status.phase = .ready := by decide +kernel
  exact ⟨hPass, hReady, (reconcile_ready_iff hPass).2.2.1.mp hReady⟩

end ClusterAgent.StackResourceController
