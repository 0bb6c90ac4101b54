import ClusterAgent.StackResource.Chain
import ClusterAgent.Workload.Exits

/-!
# Cluster agent — a pass around its workload

Most of a pass is the same for every workload: registry credentials, the image
build, the gates, and after the workload the service in front of it. None of
these touches the workload object or the workload's own conditions. A property
of the workload over a pass is therefore proved for the reconciler of its kind
alone, and carried through the rest.

* `KindFrame J F` — what `J` (of passes whose chain went well) and `F` (of those
  that failed) must bear;
* `chain_around_kind` — from the kind's reconciler to the whole chain;
* `reconcile_around_kind` — and to the whole pass, whatever its outcome.
-/

namespace ClusterAgent.StackResourceController

open Pass Effect

/-- What a pass may touch outside the reconciler of the workload's kind. -/
def outsideFootprint : Footprint where
  conditions := [.tlsConfigured, .dependenciesReady, .buildReady, .ingressReady]
  routes := true
  objects := [.secret, .imageBuild, .service, .ingress, .middleware]
  reasons := chainFootprint.reasons
  fails := true

/-- Relations between the start of a chain and a later world that the steps outside the
kind respect. A chain that stops before the kind leaves a verdict. -/
structure KindFrame (J F : World → World → Prop) : Prop where
  fail {w₀ w : World} : J w₀ w → F w₀ w
  before {w₀ w w' : World} : Touches outsideFootprint w₀ w → J w w' → J w₀ w'
  before_fail {w₀ w w' : World} : Touches outsideFootprint w₀ w → F w w' → F w₀ w'
  after {w₀ w w' : World} : J w₀ w → Touches outsideFootprint w w' → J w₀ w'
  stopped {w₀ w : World} : Touches outsideFootprint w₀ w → ¬ w.verdicts.Empty → J w₀ w
  failed {w₀ w : World} : Touches outsideFootprint w₀ w → F w₀ w

section

variable {env : Env} {J F : World → World → Prop} (hFrame : KindFrame J F) {w₀ : World}

include hFrame

theorem KindFrame.bind {α β : Type} {m : Pass α} {f : α → Pass β} {Q : β → World → Prop}
    (h : Has outsideFootprint m)
    (hf : ∀ a, Triple (Touches outsideFootprint w₀) (f a) Q (F w₀)) :
    Triple (Touches outsideFootprint w₀) (m >>= f) Q (F w₀) :=
  .bind ((h.continues w₀).onError fun _ => hFrame.failed) hf

theorem KindFrame.stop {α : Type} {m : Pass α} (h : Has outsideFootprint m)
    (hVerdict : Returns (fun _ => True) m (fun _ w => ¬ w.verdicts.Empty)) :
    Triple (Touches outsideFootprint w₀) m (fun _ => J w₀) (F w₀) := by
  refine ((h.continues w₀).and (hVerdict.pre fun _ _ => trivial)).conseq ?_ ?_
  · rintro _ w ⟨hTouches, hNotEmpty⟩
    exact hFrame.stopped hTouches hNotEmpty
  · rintro w ⟨hTouches, -⟩
    exact hFrame.failed hTouches

theorem KindFrame.early {m : Pass SubReconcilerResult} (h : Has outsideFootprint m)
    (hExits : ExitsWithVerdict m) :
    Triple (Touches outsideFootprint w₀) m
      (fun r w => Touches outsideFootprint w₀ w ∧ (r.EndsChain → J w₀ w)) (F w₀) := by
  refine ((h.continues w₀).and (hExits.pre fun _ _ => trivial)).conseq ?_ ?_
  · rintro r w ⟨hTouches, hEnds⟩
    exact ⟨hTouches, fun hr => hFrame.stopped hTouches (hEnds hr)⟩
  · rintro w ⟨hTouches, -⟩
    exact hFrame.failed hTouches

theorem around_closeGate {reason : String} (hr : reason ∈ outsideFootprint.reasons)
    {message : String} :
    Triple (Touches outsideFootprint w₀) (Workload.closeGate env reason message)
      (fun _ => J w₀) (F w₀) :=
  hFrame.stop (Workload.has_closeGate (by decide) hr message)
    (.bind_any fun _ => .bind Workload.verdict_reportNotReady fun _ =>
      .skip)

-- what is shown of the kind's reconciler, wherever the chain reaches it
variable (hKind : ∀ w, w.resource.metadata = w₀.resource.metadata →
  w.resource.spec = w₀.resource.spec →
  Triple (· = w) (Workload.reconcileKind env w.resource.spec.workloadType) (fun _ => J w) (F w))

include hKind

theorem around_kind :
    Triple (Touches outsideFootprint w₀)
      (Workload.reconcileKind env w₀.resource.spec.workloadType) (fun _ => J w₀) (F w₀) := by
  refine .of_each fun w hw => ?_
  rw [← hw.spec]
  exact (hKind w hw.metadata hw.spec).conseq (fun _ _ => hFrame.before hw)
    fun _ => hFrame.before_fail hw

theorem around_buildGate {resource : StackResource} (hSpec : resource.spec = w₀.resource.spec) :
    Triple (Touches outsideFootprint w₀) (Workload.buildGate env resource) (fun _ => J w₀)
      (F w₀) := by
  unfold Workload.buildGate
  rw [hSpec]
  split
  · exact around_kind hFrame hKind
  · refine hFrame.bind (Has.of_reads reads_mustGet) fun build => ?_
    split
    · refine hFrame.stop (.bind has_setCondition fun _ =>
        .bind has_reportNotReady fun _ => .pure) ?_
      exact .bind_any fun _ => .bind Workload.verdict_reportNotReady fun _ =>
        .skip
    · exact hFrame.bind has_setCondition fun _ =>
        around_kind hFrame hKind

theorem around_workload :
    Triple (Touches outsideFootprint w₀) (Workload.reconcile env) (fun _ => J w₀) (F w₀) := by
  refine .of_each fun w hw => bind_resource ?_
  refine .pre (P := Touches outsideFootprint w₀) ?_ fun _ h => h ▸ hw
  refine hFrame.bind (Has.of_reads Dependencies.reads_dependenciesAvailable) fun answer => ?_
  split
  · refine hFrame.bind (Has.of_reads
      Dependencies.reads_volumeMountsReadyForUse.attempt) fun mounted => ?_
    split
    · exact hFrame.bind has_setCondition fun _ =>
        around_buildGate hFrame hKind hw.spec
    · exact around_closeGate hFrame (by decide)
    · exact around_closeGate hFrame (by decide)
  · exact around_closeGate hFrame (by decide)

theorem chain_around_kind :
    Triple (· = w₀) (runChain env subReconcilers none) (fun _ => J w₀) (F w₀) := by
  refine .pre (P := Touches outsideFootprint w₀) ?_ fun _ h => h ▸ .refl _ _
  refine chain_cons env (hFrame.early ((RegistryAuth.has_reconcile env).widen)
    (RegistryAuth.exits_reconcile env)) (fun r w hEnds hr => hr.2 hEnds) fun r deferred _ => ?_
  refine .pre (P := Touches outsideFootprint w₀) ?_ fun _ h => h.1
  refine chain_cons env (hFrame.early ((ImageBuilds.has_reconcile env).widen)
    (ImageBuilds.exits_reconcile env)) (fun r w hEnds hr => hr.2 hEnds) fun r deferred _ => ?_
  refine .pre (P := Touches outsideFootprint w₀) ?_ fun _ h => h.1
  refine chain_cons env (around_workload hFrame hKind) (fun r w _ hr => hr)
    fun r deferred _ => ?_
  have hService : Has outsideFootprint (Service.reconcile env) :=
    (Service.has_reconcile env).widen
  refine chain_cons env (R := fun _ => J w₀) ?_ (fun r w _ hr => hr) fun r deferred _ =>
    .skip
  refine .of_each fun w hw => ?_
  exact (hService.leads (.refl _ w)).conseq (fun _ _ => hFrame.after hw)
    fun _ h => hFrame.fail (hFrame.after hw h)

omit hKind

/-- **The pass around the kind.** Nothing was read, or the chain ran from the stored
object into `w₁`, and the pass stored no status or the one derived there. -/
theorem reconcile_around_kind {ns name : String} {w : World}
    (hKind : ∀ r, lookupResource w.cluster ns name = some r → ∀ w',
      w'.resource.metadata = r.metadata → w'.resource.spec = r.spec →
      Triple (· = w') (Workload.reconcileKind env w'.resource.spec.workloadType) (fun _ => J w')
        (F w')) :
    (finalState (reconcile env ns name w)).cluster = w.cluster ∨
    ∃ r w1, lookupResource w.cluster ns name = some r ∧ F (started w r) w1 ∧
      (∀ k, w1.cluster.Same (finalState (reconcile env ns name w)).cluster k) ∧
      (value (reconcile env ns name w) = none ∧
          lookupResource (finalState (reconcile env ns name w)).cluster ns name = some r ∨
        J (started w r) w1 ∧ PassResult env ns name r w1 (finalState (reconcile env ns name w)) ∧
          ∃ r', lookupResource (finalState (reconcile env ns name w)).cluster ns name = some r' ∧
            StoredAs (finalState (reconcile env ns name w)).resource r' ∧
            r'.metadata = r.metadata ∧ r'.spec = r.spec) := by
  have hChain : ∀ r, lookupResource w.cluster ns name = some r →
      Triple (· = started w r) (runChain env subReconcilers none) (fun _ => J (started w r))
        (F (started w r)) := fun r hLookup => chain_around_kind hFrame (hKind r hLookup)
  -- a failed pass stores no status, but its chain may have got anywhere
  cases hPass : reconcile env ns name w with
  | error e w' =>
    obtain ⟨hStored, hSame | ⟨r, hLookup, hObjects⟩⟩ :=
      (reconcile_error env ns name w).of_error rfl hPass
    · exact Or.inl hSame
    · refine Or.inr ⟨r, _, hLookup, ?_, hObjects,
        Or.inl ⟨rfl, (congrArg (List.find? _) hStored).trans hLookup⟩⟩
      cases hEnd : runChain env subReconcilers none (started w r) with
      | ok chainEnd w1 => exact hFrame.fail ((hChain r hLookup).of_ok rfl hEnd)
      | error e w1 => exact (hChain r hLookup).of_error rfl hEnd
  | ok chainEnd w' =>
    cases chainEnd with
    -- no such resource
    | none => exact Or.inl (reconcile_none env hPass)
    | some chainEnd =>
      -- a completed one stores the status it has derived
      obtain ⟨r, w1, hLookup, hRun, hResult⟩ := reconcile_inv env hPass
      have hJ : J (started w r) w1 := (hChain r hLookup).of_ok rfl hRun
      exact Or.inr ⟨r, w1, hLookup, hFrame.fail hJ, hResult.objects,
        Or.inr ⟨hJ, hResult, hResult.stored env hLookup (touches_runChain env hRun)⟩⟩

end

end ClusterAgent.StackResourceController
