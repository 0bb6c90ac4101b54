import ClusterAgent.StackResource.Chain

/-!
# Cluster agent — runs of passes over one StackResource

The hub rewrites a StackResource, the cluster changes around it, and passes run
in between, each under its own clock and its own API failures. The status
belongs to the passes: an edit leaves it alone, and a change elsewhere leaves
the whole object alone.
-/

namespace ClusterAgent.StackResourceController

open Effect

inductive ResourceEvent where
  | pass (env : Env)
  | edit (metadata : ObjectMeta) (spec : StackResourceSpec)
  | elsewhere (cluster : Cluster) (verifier : Option PortCheck.Verifier)

def rewritten (metadata : ObjectMeta) (spec : StackResourceSpec) (r : StackResource) :
    StackResource :=
  { r with
    metadata :=
      { metadata with name := r.metadata.name, ns := r.metadata.ns, uid := r.metadata.uid }
    spec := spec }

def resourceStep (ns name : String) (w : World) : ResourceEvent → World
  | .pass env => finalState (reconcile env ns name w)
  | .edit metadata spec =>
    { w with
      cluster.stackResources :=
        Keyed.write (isResource ns name) (rewritten metadata spec) w.cluster.stackResources }
  | .elsewhere cluster verifier =>
    let stackResources := Keyed.keeping (isResource ns name) cluster.stackResources
      w.cluster.stackResources
    { w with cluster := { cluster with stackResources := stackResources }, verifier := verifier }

def passTimes (events : List ResourceEvent) : List Int :=
  events.filterMap fun
    | .pass env => some env.clock.wall
    | _ => none

section

variable {ns name : String} {w : World}

theorem lookupResource_rewrite (metadata : ObjectMeta) (spec : StackResourceSpec) :
    lookupResource (resourceStep ns name w (.edit metadata spec)).cluster ns name =
      (lookupResource w.cluster ns name).map (rewritten metadata spec) :=
  lookupResource_write (fun _ => rfl) rfl

theorem lookupResource_around (cluster : Cluster) (verifier : Option PortCheck.Verifier) :
    lookupResource (resourceStep ns name w (.elsewhere cluster verifier)).cluster ns name =
      lookupResource w.cluster ns name :=
  Keyed.find?_keeping _ _

def storedStatus (ns name : String) (w : World) : Option StackResourceStatus :=
  (lookupResource w.cluster ns name).map StackResource.status

theorem storedStatus_of_not_pass {event : ResourceEvent} (h : ∀ env, event ≠ .pass env) :
    storedStatus ns name (resourceStep ns name w event) = storedStatus ns name w := by
  unfold storedStatus
  cases event with
  | pass env => exact absurd rfl (h env)
  | edit metadata spec =>
    rw [lookupResource_rewrite, Option.map_map]
    rfl
  | elsewhere cluster verifier => rw [lookupResource_around]

def PassRan (env : Env) (ns name : String) (w : World) : Prop :=
  ∃ chainEnd, value (reconcile env ns name w) = some (some chainEnd)

theorem lookupResource_of_not_ran {env : Env} (h : ¬ PassRan env ns name w) :
    lookupResource (resourceStep ns name w (.pass env)).cluster ns name =
      lookupResource w.cluster ns name := by
  have hSame : (finalState (reconcile env ns name w)).cluster.stackResources =
      w.cluster.stackResources := by
    cases hPass : reconcile env ns name w with
    | error e w' => exact ((reconcile_error env ns name w).of_error rfl hPass).1
    | ok chainEnd w' =>
      cases chainEnd with
      | none => exact congrArg Cluster.stackResources (reconcile_none env hPass)
      | some chainEnd => exact absurd ⟨chainEnd, by rw [hPass]; rfl⟩ h
  unfold lookupResource resourceStep
  rw [hSame]

theorem storedStatus_of_not_ran {env : Env} (h : ¬ PassRan env ns name w) :
    storedStatus ns name (resourceStep ns name w (.pass env)) = storedStatus ns name w := by
  unfold storedStatus
  rw [lookupResource_of_not_ran h]

end

/-! ## The stored form -/

theorem mapTimes_mapTimes {f g h : Timestamp → Timestamp} (hCompose : ∀ t, f (g t) = h t)
    (hWall : ∀ t : Timestamp, f { wall := t.wall } = f t) (s : StackResourceStatus) :
    (s.mapTimes g).mapTimes f = s.mapTimes h := by
  simp only [StackResourceStatus.mapTimes, Option.map_map, List.map_map, Function.comp_def,
    hWall, hCompose]

theorem stored_stored (s : StackResourceStatus) : s.stored.stored = s.stored :=
  mapTimes_mapTimes Timestamp.stored_stored (fun _ => rfl) s

theorem stored_comparable (s : StackResourceStatus) : s.comparable.stored = s.stored :=
  mapTimes_mapTimes (fun _ => rfl) (fun _ => rfl) s

def InStoredForm (ns name : String) (w : World) : Prop :=
  ∀ r ∈ lookupResource w.cluster ns name, r.status.stored = r.status

instance (ns name : String) (w : World) : Decidable (InStoredForm ns name w) :=
  inferInstanceAs (Decidable (∀ r ∈ lookupResource w.cluster ns name, _))

theorem routes_deriveSummaryStatus (now : Int) (digest : StackResourceStatus → String)
    (r : StackResource) (verdicts : VerdictCollector) :
    (deriveSummaryStatus now digest r verdicts).status.routes = r.status.routes := by
  have h := congrArg (fun x : StackResource => x.status.routes)
    (withoutTimes_deriveSummaryStatus now digest r verdicts)
  exact h

/-- **What a pass stores.** From a resource in stored form, a pass that ran stores the status it
derived, and routes as the chain left them. -/
theorem stored_of_ran {env : Env} {ns name : String} {w : World}
    (hForm : InStoredForm ns name w) (hRan : PassRan env ns name w) :
    ∃ (r : StackResource) (chainEnd : ChainEnd) (w1 : World) (status : StackResourceStatus),
      lookupResource w.cluster ns name = some r ∧
      runChain env subReconcilers none (started w r) = .ok chainEnd w1 ∧
      lookupResource (resourceStep ns name w (.pass env)).cluster ns name =
        some { r with status := status.stored } ∧
      status.routes = w1.resource.status.routes := by
  obtain ⟨chainEnd, hRan⟩ := hRan
  obtain ⟨r, w1, hLookup, hChain, hPass⟩ := reconcile_inv env (eq_ok_of_value hRan)
  obtain ⟨build, hResource⟩ := hPass.resource
  refine ⟨r, chainEnd, w1, (finalState (reconcile env ns name w)).resource.status, hLookup, hChain,
    ?_, ?_⟩
  · rcases hPass.lookup hLookup (touches_runChain env hChain) with ⟨hSame, hStatus⟩ | hStored
    · have hEq : (finalState (reconcile env ns name w)).resource.status.stored = r.status := by
        rw [← stored_comparable, ← hStatus, stored_comparable]
        exact hForm r hLookup
      rw [hEq]
      exact hSame
    · exact hStored
  · rw [hResource]
    exact routes_deriveSummaryStatus _ _ _ _

theorem inStoredForm_resourceStep {ns name : String} {w : World} (hForm : InStoredForm ns name w)
    (event : ResourceEvent) : InStoredForm ns name (resourceStep ns name w event) := by
  have hIff : ∀ w, InStoredForm ns name w ↔ ∀ s ∈ storedStatus ns name w, s.stored = s := by
    intro w
    unfold InStoredForm storedStatus
    simp
  have hOther : storedStatus ns name (resourceStep ns name w event) = storedStatus ns name w →
      InStoredForm ns name (resourceStep ns name w event) := by
    intro hSame
    rw [hIff, hSame, ← hIff]
    exact hForm
  cases event with
  | pass env =>
    by_cases hRan : PassRan env ns name w
    · obtain ⟨r, -, -, status, -, -, hStored, -⟩ := stored_of_ran hForm hRan
      intro r' hr'
      cases hStored.symm.trans hr'
      exact stored_stored status
    · exact hOther (storedStatus_of_not_ran hRan)
  | edit metadata spec => exact hOther (storedStatus_of_not_pass fun _ => nofun)
  | elsewhere cluster verifier => exact hOther (storedStatus_of_not_pass fun _ => nofun)

theorem inStoredForm_run {ns name : String} {w : World} (hForm : InStoredForm ns name w)
    (events : List ResourceEvent) :
    InStoredForm ns name (Runs.run (resourceStep ns name) w events) :=
  Runs.run_invariant (I := InStoredForm ns name)
    (fun _ event h => inStoredForm_resourceStep h event) hForm events

/-! ## Writers -/

def desired (ns name : String) (w : World) : Option StackResource :=
  (lookupResource w.cluster ns name).map fun r => { r with status := {} }

/-- To the hub only its own edits happen. -/
def hubStep (r : Option StackResource) : ResourceEvent → Option StackResource
  | .edit metadata spec => r.map (rewritten metadata spec)
  | _ => r

/-- **Metadata and spec are the hub's.** Whatever passes do or fail at, the stored resource is
what the edits alone make of it. -/
theorem desired_run (ns name : String) (w : World) (events : List ResourceEvent) :
    desired ns name (Runs.run (resourceStep ns name) w events) =
      Runs.run hubStep (desired ns name w) events := by
  refine (List.foldl_hom (desired ns name) fun w event => Eq.symm ?_).symm
  unfold desired
  cases event with
  | edit metadata spec =>
    rw [lookupResource_rewrite, hubStep, Option.map_map, Option.map_map]
    rfl
  | elsewhere => exact congrArg _ (lookupResource_around _ _)
  | pass env =>
    rcases em (PassRan env ns name w) with ⟨_, hRan⟩ | hRan
    · obtain ⟨r, w1, hLookup, hChain, hPass⟩ := reconcile_inv env (eq_ok_of_value hRan)
      obtain ⟨⟨_, _, _⟩, hStored, -, rfl, rfl⟩ :=
        hPass.stored env hLookup (touches_runChain env hChain)
      rw [hLookup]
      exact congrArg _ hStored
    · exact congrArg _ (lookupResource_of_not_ran hRan)

/-- The stored resources, all but their status. -/
def desiredAll (w : World) : List StackResource :=
  w.cluster.stackResources.map fun r => { r with status := {} }

/-- A pass, however it ends, stores nothing of any resource but the status of its own. -/
theorem desiredAll_reconcile (env : Env) (ns name : String) (w : World) :
    desiredAll (finalState (reconcile env ns name w)) = desiredAll w := by
  unfold desiredAll
  cases hPass : reconcile env ns name w with
  | error e w' => exact congrArg _ ((reconcile_error env ns name w).of_error rfl hPass).1
  | ok chainEnd w' =>
    cases chainEnd with
    | none =>
      have hSame := congrArg Cluster.stackResources (reconcile_none env hPass)
      exact congrArg _ hSame
    | some chainEnd =>
      obtain ⟨r, w1, -, hChain, hResult⟩ := reconcile_inv env hPass
      have hKept := (touches_runChain env hChain).stackResources
      rcases hResult.stackResources with ⟨hSame, -⟩ | hMap
      · exact congrArg _ (hSame.trans hKept)
      · refine (congrArg _ (hMap.trans (congrArg _ hKept))).trans ?_
        rw [List.map_map]
        refine List.map_congr_left fun x _ => ?_
        dsimp only [Function.comp]
        split <;> rfl

/-- **What passes never write.** Whatever passes run, over whichever resources, and whatever
API calls fail: the kinds outside the chain's footprint stay, and of the StackResources all
but the status. -/
theorem passes_keep_others (passes : List (Env × String × String)) (w : World) :
    (∀ k : ObjectKind, k ∈ chainFootprint.objects ∨ w.cluster.Same
      (Runs.run (fun w p => finalState (reconcile p.1 p.2.1 p.2.2 w)) w passes).cluster k) ∧
    desiredAll (Runs.run (fun w p => finalState (reconcile p.1 p.2.1 p.2.2 w)) w passes) =
      desiredAll w := by
  constructor
  · refine fun k => or_iff_not_imp_left.mpr fun hk => Runs.run_invariant
      (I := fun v : World => w.cluster.Same v.cluster k) ?_ (.refl _ k) passes
    rintro v ⟨env, ns, name⟩ hSame
    rcases reconcile_objects env ns name v with hPass | ⟨r, -, hPass⟩
    · exact hPass ▸ hSame
    · refine hSame.trans (.trans ?_ (hPass k))
      exact (has_runChain env (fun step _ => has_subReconciler env step) none _).objects k hk
  · refine Runs.run_invariant (I := fun v : World => desiredAll v = desiredAll w) ?_ rfl passes
    rintro v ⟨env, ns, name⟩ hSame
    exact (desiredAll_reconcile env ns name v).trans hSame

end ClusterAgent.StackResourceController
