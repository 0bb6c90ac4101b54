import ClusterAgent.StackResource.AroundKind
import ClusterAgent.StackResource.WorkloadStep

/-!
# Cluster agent — a pass and the restart stamp

The pod template of a Deployment or StatefulSet is built from scratch in every
pass. A restart is a stamp on it: the annotation that `kubectl rollout restart`
sets, with the time of the pass, and it is set in exactly the passes that find
the request later than the last processed one.

* `RestartPass` — what the chain may do to template and restart clock;
* `restartPassed_reconcile` — a whole pass, whatever its outcome.
-/

namespace ClusterAgent.StackResourceController

open Pass Effect
open Workload (requiresRestart)

/-! ## The pod template -/

inductive Serving : WorkloadType → Prop
  | unset : Serving .unset
  | service : Serving .service
  | worker : Serving .worker
  | statefulService : Serving .statefulService

def restartStamp (template : PodTemplateSpec) : Option String :=
  template.annotations.get? restartResourceAnnotationKey

theorem restartStamp_podTemplate (r : StackResource) (inputs : TemplateInputs)
    (stamp : Option String) : restartStamp (podTemplate r inputs stamp) = stamp := by
  cases stamp with
  | none => rfl
  | some time => simp [restartStamp, podTemplate, StringMap.get?]

def templateOf (ns name : String) (workloadType : WorkloadType) (c : Cluster) :
    Option PodTemplateSpec :=
  match workloadType with
  | .statefulService => (lookup .statefulSet c ns name).map fun sts => sts.spec.template
  | _ => (lookup .deployment c ns name).map fun deployment => deployment.spec.template

/-! ## What a pass does to it -/

variable {ns name : String} {r : StackResource} {w : World}

theorem templateOf_congr {c c' : Cluster} (hDeployment : c.Same c' .deployment)
    (hStatefulSet : c.Same c' .statefulSet) (workloadType : WorkloadType) :
    templateOf ns name workloadType c' = templateOf ns name workloadType c := by
  unfold templateOf
  rw [lookup_same .deployment hDeployment, lookup_same .statefulSet hStatefulSet]

/-- Steps that touch neither the workload object nor the restart clock. -/
structure BesideTemplate (fp : Footprint) : Prop where
  deployment : .deployment ∉ fp.objects
  statefulSet : .statefulSet ∉ fp.objects
  restart : fp.restart = false

section

variable {ns name : String} {w w' : World} {fp : Footprint}

theorem templateOf_of_touches (hfp : BesideTemplate fp) (h : Touches fp w w')
    (workloadType : WorkloadType) :
    templateOf ns name workloadType w'.cluster = templateOf ns name workloadType w.cluster :=
  templateOf_congr (h.objects .deployment hfp.deployment) (h.objects .statefulSet hfp.statefulSet) _

theorem requiresRestart_of_touches (hfp : BesideTemplate fp) (h : Touches fp w w') :
    requiresRestart w'.resource = requiresRestart w.resource := by
  unfold requiresRestart
  rw [h.spec, h.restart hfp.restart]

theorem podTemplate_congr {r' : StackResource} (hMetadata : r'.metadata = r.metadata)
    (hSpec : r'.spec = r.spec) : podTemplate r' = podTemplate r := by
  obtain ⟨metadata, spec, status⟩ := r
  obtain ⟨metadata', spec', status'⟩ := r'
  cases hMetadata
  cases hSpec
  rfl

end

/-! ## The workload step -/

section

variable (env : Env)

/-- What the chain of a pass may have done to the template and the restart clock: nothing,
or the template was applied, with the stamp and the clock of this pass if a restart was
due. -/
inductive RestartPass (ns name : String) (w₀ w : World) : Prop
  | kept
      (hTemplate : templateOf ns name w₀.resource.spec.workloadType w.cluster =
        templateOf ns name w₀.resource.spec.workloadType w₀.cluster)
      (hClock : restartClock w = restartClock w₀)
  | applied (inputs : TemplateInputs)
      (hTemplate : templateOf ns name w₀.resource.spec.workloadType w.cluster =
        some (podTemplate w₀.resource inputs (stampFor env w₀.resource)))
      (hClock : restartClock w =
        if requiresRestart w₀.resource then some { wall := env.clock.wall } else restartClock w₀)

/-- What the workload step does: with a restart due, it ends the chain. -/
def RestartStep (ns name : String) (w : World) (r : SubReconcilerResult) (w' : World) : Prop :=
  RestartPass env ns name w w' ∧ (requiresRestart w.resource = true → r.EndsChain)

/-- What a chain that failed may have done to the template. -/
def TemplateAfter (ns name : String) (w₀ w : World) : Prop :=
  templateOf ns name w₀.resource.spec.workloadType w.cluster =
      templateOf ns name w₀.resource.spec.workloadType w₀.cluster ∨
    ∃ inputs, templateOf ns name w₀.resource.spec.workloadType w.cluster =
      some (podTemplate w₀.resource inputs (stampFor env w₀.resource))

section

variable {env} {ns name : String} {w₀ w w' : World} {fp : Footprint}

theorem RestartPass.templateAfter (h : RestartPass env ns name w₀ w) :
    TemplateAfter env ns name w₀ w := by
  cases h with
  | kept hTemplate _ => exact Or.inl hTemplate
  | applied inputs hTemplate _ => exact Or.inr ⟨inputs, hTemplate⟩

theorem RestartPass.of_touches (hfp : BesideTemplate fp) (h : Touches fp w₀ w) :
    RestartPass env ns name w₀ w :=
  .kept (templateOf_of_touches hfp h _) (h.restart hfp.restart)

theorem RestartPass.touches (hfp : BesideTemplate fp) (hPass : RestartPass env ns name w₀ w)
    (h : Touches fp w w') : RestartPass env ns name w₀ w' := by
  have hSame : templateOf ns name w₀.resource.spec.workloadType w'.cluster =
      templateOf ns name w₀.resource.spec.workloadType w.cluster :=
    templateOf_of_touches hfp h _
  have hClock : restartClock w' = restartClock w := h.restart hfp.restart
  cases hPass with
  | kept hTemplate hKept => exact .kept (hSame.trans hTemplate) (hClock.trans hKept)
  | applied inputs hTemplate hApplied =>
    exact .applied inputs (hSame.trans hTemplate) (hClock.trans hApplied)

theorem stampFor_of_touches (hfp : BesideTemplate fp) (h : Touches fp w₀ w) :
    stampFor env w.resource = stampFor env w₀.resource := by
  unfold stampFor
  rw [requiresRestart_of_touches hfp h]

theorem TemplateAfter.after_touches (hfp : BesideTemplate fp) (h : Touches fp w₀ w)
    (hAfter : TemplateAfter env ns name w w') : TemplateAfter env ns name w₀ w' := by
  unfold TemplateAfter at hAfter ⊢
  rw [h.spec, templateOf_of_touches hfp h, podTemplate_congr h.metadata h.spec,
    stampFor_of_touches hfp h] at hAfter
  exact hAfter

theorem RestartPass.after_touches (hfp : BesideTemplate fp) (h : Touches fp w₀ w)
    (hPass : RestartPass env ns name w w') : RestartPass env ns name w₀ w' := by
  have hBefore : restartClock w = restartClock w₀ := h.restart hfp.restart
  cases hPass with
  | kept hTemplate hClock =>
    rw [h.spec, templateOf_of_touches hfp h] at hTemplate
    exact .kept hTemplate (hClock.trans hBefore)
  | applied inputs hTemplate hClock =>
    rw [h.spec, podTemplate_congr h.metadata h.spec, stampFor_of_touches hfp h] at hTemplate
    rw [requiresRestart_of_touches hfp h, hBefore] at hClock
    exact .applied inputs hTemplate hClock

end

section

variable {S T : Type} {kind : Kind S T} {template : S → PodTemplateSpec}
  (hResource : isResource ns name w.resource = true)
  (hOf : ∀ c, templateOf ns name w.resource.spec.workloadType c =
    (lookup kind c ns name).map fun o => template o.spec)

include hResource hOf

theorem templateOf_of_wrote {w' : World}
    (h : Wrote kind (ownTag w.resource.metadata) (fun spec => Serves env w (template spec)) w w') :
    ∃ inputs, templateOf ns name w.resource.spec.workloadType w'.cluster =
      some (podTemplate w.resource inputs (stampFor env w.resource)) := by
  obtain ⟨rfl, rfl⟩ := isResource_iff.mp hResource
  obtain ⟨o, hLookup, -, inputs, -, hTmpl⟩ := h.stored
  refine ⟨inputs, (hOf _).trans ?_⟩
  exact (congrArg (Option.map _) hLookup).trans (congrArg some hTmpl)

/-- **The workload step.** Applying the workload and judging it is a `RestartPass`, and ends
the chain if a restart is due. -/
theorem restartPass_of_applied {m : Pass SubReconcilerResult}
    (h : Triple (· = w) m (Applied env w kind template)
      (Attempted kind (fun spec => Serves env w (template spec)) w)) :
    Triple (· = w) m (RestartStep env ns name w) (TemplateAfter env ns name w) := by
  have hSame : ∀ {w' : World}, kind.get w'.cluster = kind.get w.cluster →
      templateOf ns name w.resource.spec.workloadType w'.cluster =
        templateOf ns name w.resource.spec.workloadType w.cluster := by
    intro w' hGet
    rw [hOf, hOf, lookup_congr hGet]
  refine h.conseq ?_ ?_
  · rintro r w' (⟨hGet, hClock, hEnds⟩ | ⟨hWrote, hClock, hEnds⟩)
    · exact ⟨.kept (hSame hGet) hClock, fun _ => hEnds⟩
    · obtain ⟨inputs, hTemplate⟩ := templateOf_of_wrote env hResource hOf hWrote
      exact ⟨.applied inputs hTemplate hClock, hEnds⟩
  · rintro w' (hGet | hWrote)
    · exact Or.inl (hSame hGet)
    · exact Or.inr (templateOf_of_wrote env hResource hOf hWrote)

end

theorem restartPass_kind (hResource : isResource ns name w.resource = true)
    (hServing : Serving w.resource.spec.workloadType) :
    Triple (· = w) (Workload.reconcileKind env w.resource.spec.workloadType)
      (RestartStep env ns name w) (TemplateAfter env ns name w) := by
  have hDeployment : w.resource.spec.workloadType ≠ .statefulService →
      Triple (· = w) (Workload.reconcileDeployment env)
        (RestartStep env ns name w) (TemplateAfter env ns name w) := by
    intro hNot
    refine restartPass_of_applied env hResource (fun c => ?_) (reconcileDeployment_applied env hNot)
    unfold templateOf
    split
    · contradiction
    · rfl
  have hStatefulSet : w.resource.spec.workloadType = .statefulService →
      Triple (· = w) (Workload.reconcileStatefulSet env)
        (RestartStep env ns name w) (TemplateAfter env ns name w) := by
    intro hIs
    refine restartPass_of_applied env hResource (fun c => ?_) (reconcileStatefulSet_applied env hIs)
    rw [hIs]
    rfl
  generalize hType : w.resource.spec.workloadType = workloadType at *
  cases hServing with
  | unset => exact hDeployment (by decide)
  | service => exact hDeployment (by decide)
  | worker => exact hDeployment (by decide)
  | statefulService => exact hStatefulSet rfl

/-! ## The pass -/

theorem besideTemplate_outside : BesideTemplate outsideFootprint := ⟨by decide, by decide, rfl⟩

theorem verdict_kind (hServing : Serving w.resource.spec.workloadType) :
    Returns (· = w) (Workload.reconcileKind env w.resource.spec.workloadType)
      (fun _ w' => requiresRestart w.resource = true → ¬ w'.verdicts.Empty) := by
  refine ((restartPass_kind env (isResource_iff.mpr ⟨rfl, rfl⟩) hServing).and
    (Workload.judged_reconcileKind.pre fun _ _ => trivial)).conseq ?_ fun _ _ => trivial
  rintro r w' ⟨⟨-, hEnds⟩, hVerdict, -⟩ hDue
  exact hVerdict (hEnds hDue)

theorem verdictFrame : KindFrame
    (fun w₀ w => requiresRestart w₀.resource = true → ¬ w.verdicts.Empty) fun _ _ => True where
  fail _ := trivial
  before h hJ hDue :=
    hJ ((requiresRestart_of_touches ⟨by decide, by decide, rfl⟩ h).trans hDue)
  before_fail _ _ := trivial
  after hJ h hDue := h.verdicts.not_empty (hJ hDue)
  stopped _ hNotEmpty _ := hNotEmpty
  failed _ := trivial

/-- **No silent pass.** While a restart is due, a completed pass leaves a verdict. -/
theorem verdict_reconcile {w' : World} {chainEnd : ChainEnd}
    (hLookup : lookupResource w.cluster ns name = some r) (hServing : Serving r.spec.workloadType)
    (hDue : requiresRestart r = true) (hPass : reconcile env ns name w = .ok (some chainEnd) w') :
    ¬ w'.verdicts.Empty := by
  obtain ⟨r', w1, hLookup', hRun, hResult⟩ := reconcile_inv env hPass
  cases hLookup.symm.trans hLookup'
  have hChain : Returns (· = started w r) (runChain env subReconcilers none)
      (fun _ w1 => requiresRestart r = true → ¬ w1.verdicts.Empty) := by
    refine chain_around_kind verdictFrame fun w2 _ hSpec => verdict_kind env ?_
    rw [hSpec]
    exact hServing
  rw [hResult.verdicts]
  exact hChain.of_ok rfl hRun hDue

theorem restartFrame (ns name : String) :
    KindFrame (RestartPass env ns name) (TemplateAfter env ns name) where
  fail h := h.templateAfter
  before h hJ := hJ.after_touches besideTemplate_outside h
  before_fail h hF := hF.after_touches besideTemplate_outside h
  after hJ h := hJ.touches besideTemplate_outside h
  stopped h _ := .of_touches besideTemplate_outside h
  failed h := (RestartPass.of_touches besideTemplate_outside h).templateAfter

theorem PassResult.restartClock_eq {w1 w' : World} (h : PassResult env ns name r w1 w') :
    restartClock w' = restartClock w1 := by
  obtain ⟨build, hResource⟩ := h.resource
  have hClosed := congrArg (fun x : StackResource => x.status.lastRestartRequestProcessedAt)
    (withoutTimes_deriveSummaryStatus env.clock.wall env.statusDigest
      { w1.resource with status.currentBuild := build } w1.verdicts)
  unfold restartClock
  rw [hResource]
  exact hClosed

/-- Everything a pass does to the template and the restart clock of a resource, whatever
its outcome. The clock is stored only by a completed pass. -/
inductive RestartPassed (ns name : String) (w w' : World) (result : Option (Option ChainEnd)) : Prop
  | idle (hSame : w'.cluster = w.cluster)
  | failed {r : StackResource} (hFailed : result = none)
      (hLookup : lookupResource w.cluster ns name = some r)
      (hStored : lookupResource w'.cluster ns name = some r)
      (hTemplate : TemplateAfter env ns name (started w r) w')
  | completed {r r' : StackResource} {w₁ : World}
      (hLookup : lookupResource w.cluster ns name = some r)
      (hStored : lookupResource w'.cluster ns name = some r')
      (hMetadata : r'.metadata = r.metadata) (hSpec : r'.spec = r.spec)
      (hClock : StoredAs w'.resource r' ∧ restartClock w' = restartClock w₁)
      (hPass : RestartPass env ns name (started w r) w₁)
      (hTemplate : templateOf ns name r.spec.workloadType w'.cluster =
        templateOf ns name r.spec.workloadType w₁.cluster)

theorem restartPassed_reconcile
    (hServing : ∀ r, lookupResource w.cluster ns name = some r → Serving r.spec.workloadType) :
    RestartPassed env ns name w (finalState (reconcile env ns name w))
      (value (reconcile env ns name w)) := by
  rcases reconcile_around_kind (restartFrame env ns name) (fun r hLookup w' hMetadata hSpec =>
      (restartPass_kind env (isResource_congr hMetadata (List.find?_some hLookup))
        (hSpec ▸ hServing r hLookup)).post fun _ _ h => h.1) with
    hSame | ⟨r, w1, hLookup, hAfter, hObjects, hStatus⟩
  · exact .idle hSame
  · rcases hStatus with ⟨hFailed, hStored⟩ | ⟨hPass, hResult, r', hLookup', hStoredAs,
      hMetadata, hSpec⟩
    · refine .failed hFailed hLookup hStored ?_
      unfold TemplateAfter at hAfter ⊢
      rw [templateOf_congr (hObjects .deployment) (hObjects .statefulSet)]
      exact hAfter
    · exact .completed hLookup hLookup' hMetadata hSpec ⟨hStoredAs, hResult.restartClock_eq env⟩
        hPass (templateOf_congr (hObjects .deployment) (hObjects .statefulSet) _)

end

end ClusterAgent.StackResourceController
