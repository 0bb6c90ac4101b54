import ClusterAgent.StackResource.Derive
import ClusterAgent.StackResource.ImageBuilds
import ClusterAgent.StackResource.RegistryAuth
import ClusterAgent.StackResource.Service
import ClusterAgent.Workload.Reconciler

/-!
# Cluster agent — one pass of the StackResource controller

A pass reads the object, runs the chain of sub-reconcilers until one of them ends
it, derives the summary once from what they left behind, and writes the status
back if it changed. A failed sub-reconciler fails the pass: nothing of the status
is stored then, but the objects it touched stay as they are.

* `chain_cons` — the rule for one link of the chain;
* `reconcile_inv` — a successful pass, taken apart;
* `stored_reconcile` — the stored object is the derived one, up to times.
-/

namespace ClusterAgent.StackResourceController

open Pass Effect Conditions

/-! ## The chain -/

inductive SubReconciler where
  | registryAuth
  | imageBuild
  | workload
  | service
  deriving DecidableEq, Repr

def SubReconciler.reconcile (env : Env) : SubReconciler → Pass SubReconcilerResult
  | .registryAuth => RegistryAuth.reconcile env
  | .imageBuild => ImageBuilds.reconcile env
  | .workload => Workload.reconcile env
  | .service => Service.reconcile env

def subReconcilers : List SubReconciler := [.registryAuth, .imageBuild, .workload, .service]

inductive ChainEnd where
  | endedBy (step : SubReconciler) (result : SubReconcilerResult)
  | ranToEnd (deferred : Option Int)
  deriving DecidableEq, Repr

def ChainEnd.result : ChainEnd → ReconcileResult
  | .endedBy _ .requeue => { requeue := true }
  | .endedBy _ (.requeueAfter t) => { requeueAfter := t }
  | .endedBy _ _ => {}
  | .ranToEnd (some t) => { requeueAfter := t }
  | .ranToEnd none => {}

section

variable (env : Env)

/-- Run the sub-reconcilers in order; the last deferred requeue is kept. -/
def runChain : List SubReconciler → Option Int → Pass ChainEnd
  | [], deferred => return .ranToEnd deferred
  | step :: rest, deferred => do
    match ← step.reconcile env with
    | .nil => runChain rest deferred
    | .deferredRequeue t => runChain rest (some t)
    | result => return .endedBy step result

/-! ## The pass -/

def getImageBuildStatus : Pass (Option BuildStatus) := do
  let resource ← Pass.resource
  match resource.spec.buildSpec with
  | none => return none
  | some buildSpec =>
    match ← getObject env .imageBuild resource.metadata.ns
        (generateImageBuildName env resource buildSpec) with
    | none => return none
    | some build =>
      let res : BuildStatus :=
        { name := build.name
          sourceRevision := build.status.buildSourceRevision
          phase := build.status.phase.text }
      match findStatusCondition build.status.conditions .available with
      | some c =>
        return some { res with
          available := decide (c.status = .conditionTrue)
          message := c.message
          reason := c.reason }
      | none => return some res

def isResource (ns name : String) (r : StackResource) : Bool :=
  decide (r.metadata.ns = ns) && decide (r.metadata.name = name)

variable {ns name : String} {r : StackResource} {w w' : World}

theorem isResource_iff :
    isResource ns name r = true ↔ r.metadata.ns = ns ∧ r.metadata.name = name := by
  unfold isResource
  rw [Bool.and_eq_true, decide_eq_true_iff, decide_eq_true_iff]

theorem isResource_congr {r' : StackResource} (h : r'.metadata = r.metadata)
    (hKey : isResource ns name r = true) : isResource ns name r' = true := by
  unfold isResource at hKey ⊢
  rw [h]
  exact hKey

def lookupResource (cluster : Cluster) (ns name : String) : Option StackResource :=
  cluster.stackResources.find? (isResource ns name)

def updateStatus (ns name : String) (originalStatus : StackResourceStatus) : Pass Unit := do
  let resource ← Pass.resource
  if originalStatus.comparable = resource.status.comparable then return ()
  else
    call env
    modify fun w =>
      { w with
        cluster.stackResources := w.cluster.stackResources.map fun r =>
          if isResource ns name r then { r with status := resource.status.stored } else r }

def reconcileResource (ns name : String) (stackResource : StackResource) : Pass ChainEnd := do
  modify fun w => { w with resource := stackResource, verdicts := {} }
  let chainEnd ← runChain env subReconcilers none
  let applicationBuildStatus ← getImageBuildStatus env
  modifyStatus fun s => { s with currentBuild := applicationBuildStatus }
  modify fun w =>
    { w with
      resource := deriveSummaryStatus env.clock.wall env.statusDigest w.resource w.verdicts }
  updateStatus env ns name stackResource.status
  return chainEnd

def reconcile (ns name : String) : Pass (Option ChainEnd) := do
  call env
  match lookupResource (← get).cluster ns name with
  | none => return none
  | some stackResource =>
    let chainEnd ← reconcileResource env ns name stackResource
    return some chainEnd

/-! ## Taking a pass apart -/

/-- **One link of the chain.** A step that ends the chain decides it; otherwise the rest
of the chain runs in the state it left. -/
theorem chain_cons {step : SubReconciler} {rest : List SubReconciler} {deferred : Option Int}
    {P E : World → Prop} {R : SubReconcilerResult → World → Prop} {Q : ChainEnd → World → Prop}
    (hStep : Triple P (step.reconcile env) R E)
    (hEnd : ∀ r w, r.EndsChain → R r w → Q (.endedBy step r) w)
    (hRest : ∀ r deferred, ¬ r.EndsChain → Triple (R r) (runChain env rest deferred) Q E) :
    Triple P (runChain env (step :: rest) deferred) Q E := by
  refine .bind hStep fun r => ?_
  cases r with
  | nil => exact hRest _ _ id
  | deferredRequeue t => exact hRest _ _ id
  | stop => exact .pure fun w hr => hEnd _ w trivial hr
  | requeue => exact .pure fun w hr => hEnd _ w trivial hr
  | requeueAfter t => exact .pure fun w hr => hEnd _ w trivial hr

theorem runChain_append (front back : List SubReconciler) (deferred : Option Int) :
    runChain env (front ++ back) deferred = (do
      match ← runChain env front deferred with
      | .ranToEnd deferred => runChain env back deferred
      | .endedBy step result => return .endedBy step result) := by
  induction front generalizing deferred with
  | nil => simp [runChain]
  | cons step rest ih =>
    simp only [List.cons_append, runChain, bind_assoc]
    congr 1
    funext result
    cases result with
    | nil => exact ih _
    | deferredRequeue t => exact ih _
    | stop => simp
    | requeue => simp
    | requeueAfter t => simp

def started (w : World) (stackResource : StackResource) : World :=
  { w with calls := w.calls + 1, resource := stackResource, verdicts := {} }

theorem reads_getImageBuildStatus : ReadsOnly (getImageBuildStatus env) := by
  refine .bind reads_resource fun resource => ?_
  split
  · exact .pure
  · refine .bind reads_getObject fun build => ?_
    split
    · exact .pure
    · dsimp only
      split
      · exact .pure
      · exact .pure

theorem updateStatus_ok {originalStatus : StackResourceStatus}
    (h : updateStatus env ns name originalStatus w = .ok () w') :
    w'.resource = w.resource ∧ w'.verdicts = w.verdicts ∧
    (∀ k, w.cluster.Same w'.cluster k) ∧
    (w'.cluster.stackResources = w.cluster.stackResources ∧
        originalStatus.comparable = w.resource.status.comparable ∨
      w'.cluster.stackResources = w.cluster.stackResources.map fun r =>
        if isResource ns name r then { r with status := w.resource.status.stored } else r) := by
  unfold updateStatus at h
  obtain ⟨resource, w₁, hResource, h⟩ := bind_ok h
  cases hResource
  split at h
  · next hSame =>
    cases h
    exact ⟨rfl, rfl, fun k => .refl _ k, Or.inl ⟨rfl, hSame⟩⟩
  · obtain ⟨_, w2, hCall, h⟩ := bind_ok h
    cases (call_spec _).of_ok rfl hCall
    cases h
    refine ⟨rfl, rfl, fun k => ?_, Or.inr rfl⟩
    cases k <;> rfl

/-- What a successful pass leaves: the chain ended in `w₁`, the summary was derived from
there, and the objects are as the chain left them. -/
structure PassResult (ns name : String) (stackResource : StackResource) (w₁ w' : World) : Prop where
  resource : ∃ build, w'.resource = deriveSummaryStatus env.clock.wall env.statusDigest
    { w₁.resource with status.currentBuild := build } w₁.verdicts
  verdicts : w'.verdicts = w₁.verdicts
  objects : ∀ k, w₁.cluster.Same w'.cluster k
  stackResources :
    w'.cluster.stackResources = w₁.cluster.stackResources ∧
        stackResource.status.comparable = w'.resource.status.comparable ∨
      w'.cluster.stackResources = w₁.cluster.stackResources.map fun r =>
        if isResource ns name r then { r with status := w'.resource.status.stored } else r

theorem PassResult.domainConditionTrue_eq {env : Env} {w₁ : World}
    (h : PassResult env ns name r w₁ w') (condType : StackResourceDomainCondition) :
    domainConditionTrue w'.resource condType = domainConditionTrue w₁.resource condType := by
  obtain ⟨build, hResource⟩ := h.resource
  rw [hResource, (sameInputs_deriveSummaryStatus _ _ _ _).domainConditionTrue_eq]
  rfl

/-- **Inversion.** A successful pass over an object that exists ran the chain from the
stored object with an empty collector, and derived the summary from where it ended. -/
theorem reconcile_inv {chainEnd : ChainEnd} (h : reconcile env ns name w = .ok (some chainEnd) w') :
    ∃ stackResource w₁, lookupResource w.cluster ns name = some stackResource ∧
      runChain env subReconcilers none (started w stackResource) = .ok chainEnd w₁ ∧
      PassResult env ns name stackResource w₁ w' := by
  -- each `bind` of a successful pass in turn
  obtain ⟨_, w0, hCall, h⟩ := bind_ok h
  cases (call_spec _).of_ok rfl hCall
  obtain ⟨_, _, hGet, h⟩ := bind_ok h
  cases hGet
  dsimp only at h
  -- without the object there is no chain
  cases hLookup : lookupResource w.cluster ns name with
  | none =>
    rw [hLookup] at h
    cases h
  | some stackResource =>
    rw [hLookup] at h
    obtain ⟨_, _, h, hReturn⟩ := bind_ok h
    cases hReturn
    obtain ⟨_, _, hStart, h⟩ := bind_ok h
    cases hStart
    obtain ⟨_, w₁, hChain, h⟩ := bind_ok h
    obtain ⟨build, w2, hBuild, h⟩ := bind_ok h
    obtain ⟨calls, rfl⟩ := (reads_getImageBuildStatus env).ok hBuild
    obtain ⟨_, _, hStatus, h⟩ := bind_ok h
    cases hStatus
    obtain ⟨_, _, hDerive, h⟩ := bind_ok h
    cases hDerive
    obtain ⟨_, _, hUpdate, h⟩ := bind_ok h
    cases h
    obtain ⟨hr, hv, ho, hs⟩ := updateStatus_ok env hUpdate
    refine ⟨stackResource, w₁, rfl, hChain, ⟨build, hr⟩, hv, ho, ?_⟩
    rw [hr]
    exact hs

theorem reconcile_none (h : reconcile env ns name w = .ok none w') : w'.cluster = w.cluster := by
  obtain ⟨_, w0, hCall, h⟩ := bind_ok h
  cases (call_spec _).of_ok rfl hCall
  obtain ⟨_, _, hGet, h⟩ := bind_ok h
  cases hGet
  dsimp only at h
  cases hLookup : lookupResource w.cluster ns name with
  | none =>
    rw [hLookup] at h
    cases h
    rfl
  | some stackResource =>
    rw [hLookup] at h
    obtain ⟨_, _, _, hReturn⟩ := bind_ok h
    cases hReturn

/-- What a failed pass leaves: no status is stored, and the objects are as before or as
the chain left them. -/
def Unsaved (ns name : String) (w w' : World) : Prop :=
  w'.cluster.stackResources = w.cluster.stackResources ∧
    (w'.cluster = w.cluster ∨ ∃ stackResource,
      lookupResource w.cluster ns name = some stackResource ∧
      ∀ k, (finalState (runChain env subReconcilers none (started w stackResource))).cluster.Same
        w'.cluster k)

/-! ## What a pass touches -/

def chainFootprint : Footprint where
  conditions := [.tlsConfigured, .dependenciesReady, .buildReady, .workloadAvailable,
    .workloadConverged, .ingressReady]
  failureDetails := true
  restart := true
  routes := true
  objects := [.deployment, .statefulSet, .job, .cronJob, .secret, .service, .ingress, .middleware,
    .imageBuild]
  reasons := RegistryAuth.footprint.reasons ++ ImageBuilds.footprint.reasons ++
    Workload.footprint.reasons ++ Service.footprint.reasons
  fails := true

theorem has_subReconciler (step : SubReconciler) : Has chainFootprint (step.reconcile env) := by
  cases step with
  | registryAuth => exact (RegistryAuth.has_reconcile env).widen
  | imageBuild => exact (ImageBuilds.has_reconcile env).widen
  | workload => exact (Workload.has_reconcile env).widen
  | service => exact (Service.has_reconcile env).widen

theorem has_runChain {fp : Footprint} {steps : List SubReconciler}
    (h : ∀ step ∈ steps, Has fp (step.reconcile env)) (deferred : Option Int) :
    Has fp (runChain env steps deferred) := by
  induction steps generalizing deferred with
  | nil => exact .pure
  | cons step rest ih =>
    have hRest := fun s hs => h s (List.mem_cons_of_mem _ hs)
    refine .bind (h step List.mem_cons_self) fun r => ?_
    cases r with
    | nil => exact ih hRest _
    | deferredRequeue t => exact ih hRest _
    | stop => exact .pure
    | requeue => exact .pure
    | requeueAfter t => exact .pure

theorem touches_runChain {stackResource : StackResource} {w₁ : World} {chainEnd : ChainEnd}
    (h : runChain env subReconcilers none (started w stackResource) = .ok chainEnd w₁) :
    Touches chainFootprint (started w stackResource) w₁ :=
  (has_runChain env (fun step _ => has_subReconciler env step) none).ok h

theorem updateStatus_error (ns name : String) {originalStatus : StackResourceStatus} (w : World) :
    Triple (· = w) (updateStatus env ns name originalStatus) (fun _ _ => True)
      (Reads w) := by
  refine bind_resource ?_
  split
  · exact .pure fun _ _ => trivial
  · refine .bind (call_spec w) fun _ => ?_
    intro _ _
    trivial

theorem reconcileResource_error {stackResource : StackResource}
    (hLookup : lookupResource w.cluster ns name = some stackResource) :
    Triple (· = { w with calls := w.calls + 1 }) (reconcileResource env ns name stackResource)
      (fun _ _ => True) (Unsaved env ns name w) := by
  -- where the chain ends, it may have failed or not
  set w₁ := finalState (runChain env subReconcilers none (started w stackResource)) with hw1
  have hTouches : Touches chainFootprint (started w stackResource) w₁ :=
    has_runChain env (fun step _ => has_subReconciler env step) none _
  have hChain : ∀ w', w'.cluster = w₁.cluster → Unsaved env ns name w w' := by
    intro w' hw'
    refine ⟨?_, Or.inr ⟨stackResource, hLookup, fun k => ?_⟩⟩
    · rw [hw']
      exact hTouches.stackResources
    · rw [← hw1, hw']
      exact .refl _ k
  -- from there on only reads come before the write of the status
  have hReads : ∀ w2 w', w2.cluster = w₁.cluster → Reads w2 w' → Unsaved env ns name w w' := by
    rintro w2 _ hw2 ⟨calls, rfl⟩
    exact hChain _ hw2
  refine Triple.bind (R := fun _ w' => w' = started w stackResource)
    (Triple.modify fun _ hw => by rw [hw]; rfl) fun _ => ?_
  refine Triple.bind ((Triple.final (started w stackResource)).onError
    fun w' hw' => hChain w' (congrArg World.cluster hw')) fun chainEnd => ?_
  refine Triple.bind (R := fun _ w' => w'.cluster = w₁.cluster) ?_ fun build => ?_
  · refine ((reads_getImageBuildStatus env).triple (P := fun w' => w'.cluster = w₁.cluster)
      ?_).mono (fun _ h => congrArg World.cluster h) (fun _ _ h => h) hChain
    rintro w' _ ⟨calls, rfl⟩ hw'
    exact hw'
  refine Triple.bind (R := fun _ w' => w'.cluster = w₁.cluster) (Triple.modify fun _ hw => hw)
    fun _ => ?_
  refine Triple.bind (R := fun _ w' => w'.cluster = w₁.cluster) (Triple.modify fun _ hw => hw)
    fun _ => ?_
  refine Triple.bind (R := fun _ _ => True) (Triple.of_each fun w2 hw2 => ?_) fun _ =>
    Triple.pure fun _ _ => trivial
  exact (updateStatus_error env ns name w2).onError
    fun w' => hReads w2 w' hw2

/-- **A failed pass stores no status.** -/
theorem reconcile_error (ns name : String) (w : World) :
    Triple (· = w) (reconcile env ns name) (fun _ _ => True) (Unsaved env ns name w) := by
  have hBefore : ∀ w', Reads w w' → Unsaved env ns name w w' := by
    rintro _ ⟨calls, rfl⟩
    exact ⟨rfl, Or.inl rfl⟩
  refine .bind ((call_spec w).onError hBefore) fun _ =>
    .bind (.get (Q := fun v w' => v = w' ∧ w' = { w with calls := w.calls + 1 })
      fun _ h => ⟨rfl, h⟩) fun v => ?_
  refine .of_each fun w' hw' => ?_
  obtain ⟨rfl, rfl⟩ := hw'
  cases hLookup : lookupResource w.cluster ns name with
  | none => exact .pure fun _ _ => trivial
  | some stackResource =>
    exact .bind (reconcileResource_error env hLookup) fun _ => .pure fun _ _ => trivial

/-- Whatever the outcome of a pass, the objects are as before or as the chain left them. -/
theorem reconcile_objects (ns name : String) (w : World) :
    (finalState (reconcile env ns name w)).cluster = w.cluster ∨
      ∃ stackResource, lookupResource w.cluster ns name = some stackResource ∧
        ∀ k, (finalState (runChain env subReconcilers none (started w stackResource))).cluster.Same
          (finalState (reconcile env ns name w)).cluster k := by
  cases hPass : reconcile env ns name w with
  | error e w' => exact ((reconcile_error env ns name w).of_error rfl hPass).2
  | ok chainEnd w' =>
    cases chainEnd with
    | none => exact Or.inl (reconcile_none env hPass)
    | some chainEnd =>
      obtain ⟨r, w₁, hLookup, hRun, hResult⟩ := reconcile_inv env hPass
      refine Or.inr ⟨r, hLookup, fun k => ?_⟩
      rw [hRun]
      exact hResult.objects k

/-! ## What is stored -/

/-- `stored` holds `r`, up to what storing does to times. -/
structure StoredAs (r stored : StackResource) : Prop where
  metadata : stored.metadata = r.metadata
  spec : stored.spec = r.spec
  status : stored.status = r.status.stored ∨ stored.status.comparable = r.status.comparable

theorem clearTimes_mapTimes (f : Timestamp → Timestamp) (s : StackResourceStatus) :
    clearTimes (s.mapTimes f).conditions = clearTimes s.conditions := by
  unfold clearTimes StackResourceStatus.mapTimes
  rw [List.map_map]
  rfl

theorem StoredAs.clearTimes {stored : StackResource} (h : StoredAs r stored) :
    Conditions.clearTimes stored.status.conditions = Conditions.clearTimes r.status.conditions := by
  rcases h.status with hStored | hSame
  · rw [hStored, StackResourceStatus.stored, clearTimes_mapTimes]
  · rw [← clearTimes_mapTimes (fun t => { wall := t.wall }) stored.status,
      ← clearTimes_mapTimes (fun t => { wall := t.wall }) r.status]
    exact congrArg (fun s => Conditions.clearTimes s.conditions) hSame

theorem StoredAs.domainConditionTrue_eq {stored : StackResource} (h : StoredAs r stored)
    (condType : StackResourceDomainCondition) :
    domainConditionTrue stored condType = domainConditionTrue r condType := by
  have hFact : ∀ x : StackResource, fact x condType =
      (findStatusCondition (Conditions.clearTimes x.status.conditions) (.domain condType)).filter
        fun c => decide (c.observedGeneration = x.generation) := by
    intro x
    rw [findStatusCondition_clearTimes]
    unfold fact StackResource.domainCond
    cases findStatusCondition x.status.conditions (.domain condType) with
    | none => rfl
    | some c => by_cases hg : c.observedGeneration = x.generation <;> simp [Option.filter, hg]
  rw [StackResourceController.domainConditionTrue_eq stored,
    StackResourceController.domainConditionTrue_eq r, hFact, hFact, h.clearTimes,
    StackResource.generation, h.metadata]
  rfl

theorem lookupResource_write {cluster cluster' : Cluster} {f : StackResource → StackResource}
    (hf : ∀ r, isResource ns name (f r) = isResource ns name r)
    (h : cluster'.stackResources = Keyed.write (isResource ns name) f cluster.stackResources) :
    lookupResource cluster' ns name = (lookupResource cluster ns name).map f := by
  unfold lookupResource
  rw [h, Keyed.find?_write fun r hr => (hf r).trans hr]

section

variable {env} {ns name : String} {w w₁ w' : World} {stackResource : StackResource}

/-- What is stored after a pass: the object it read, if the status is the same, or that object
with the derived status. -/
theorem PassResult.lookup (hPass : PassResult env ns name stackResource w₁ w')
    (hLookup : lookupResource w.cluster ns name = some stackResource)
    (hTouches : Touches chainFootprint (started w stackResource) w₁) :
    lookupResource w'.cluster ns name = some stackResource ∧
        stackResource.status.comparable = w'.resource.status.comparable ∨
      lookupResource w'.cluster ns name =
        some { stackResource with status := w'.resource.status.stored } := by
  have hBefore : lookupResource w₁.cluster ns name = some stackResource := by
    unfold lookupResource at hLookup ⊢
    rw [hTouches.stackResources]
    exact hLookup
  rcases hPass.stackResources with ⟨hSame, hStatus⟩ | hMap
  · refine Or.inl ⟨?_, hStatus⟩
    unfold lookupResource at hBefore ⊢
    rw [hSame, hBefore]
  · have hWrite := lookupResource_write (f := fun r =>
      { r with status := w'.resource.status.stored }) (fun _ => rfl) hMap
    rw [hBefore] at hWrite
    exact Or.inr hWrite

theorem PassResult.same (hPass : PassResult env ns name stackResource w₁ w')
    (hTouches : Touches chainFootprint (started w stackResource) w₁) :
    w'.resource.metadata = stackResource.metadata ∧ w'.resource.spec = stackResource.spec := by
  obtain ⟨build, hResource⟩ := hPass.resource
  rw [hResource, metadata_deriveSummaryStatus, (sameInputs_deriveSummaryStatus _ _ _ _).spec]
  exact ⟨hTouches.metadata, hTouches.spec⟩

end

theorem PassResult.stored {w₁ : World} {stackResource : StackResource}
    (hPass : PassResult env ns name stackResource w₁ w')
    (hLookup : lookupResource w.cluster ns name = some stackResource)
    (hTouches : Touches chainFootprint (started w stackResource) w₁) :
    ∃ stored, lookupResource w'.cluster ns name = some stored ∧ StoredAs w'.resource stored ∧
      stored.metadata = stackResource.metadata ∧ stored.spec = stackResource.spec := by
  obtain ⟨hMetadata, hSpec⟩ := hPass.same hTouches
  rcases hPass.lookup hLookup hTouches with ⟨hSame, hStatus⟩ | hStored
  · exact ⟨stackResource, hSame, ⟨hMetadata.symm, hSpec.symm, Or.inr hStatus⟩, rfl, rfl⟩
  · exact ⟨_, hStored, ⟨hMetadata.symm, hSpec.symm, Or.inl rfl⟩, rfl, rfl⟩

theorem stored_reconcile {chainEnd : ChainEnd}
    (h : reconcile env ns name w = .ok (some chainEnd) w') :
    ∃ stored, lookupResource w'.cluster ns name = some stored ∧ StoredAs w'.resource stored := by
  obtain ⟨stackResource, w₁, hLookup, hChain, hPass⟩ := reconcile_inv env h
  obtain ⟨stored, hStored, hAs, -⟩ := hPass.stored env hLookup (touches_runChain env hChain)
  exact ⟨stored, hStored, hAs⟩

end

end ClusterAgent.StackResourceController
