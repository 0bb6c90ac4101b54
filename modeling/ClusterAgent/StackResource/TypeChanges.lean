import ClusterAgent.StackResource.OwnedWorkload
import ClusterAgent.StackResource.TLSClocks

/-!
# Cluster agent — changes of the workload type

The objects of a StackResource carry its uid as their controller. Passes write
the objects of the current type and look at no others, so what an earlier type
left behind stays: its workload object, and in front of it the Service, the
Ingresses and the addresses in the status. As long as an edit keeps the kind of
the workload, and never takes a type with a Service to one without, nothing is
left behind.

* `CurrentOnly` — what a pass without a verdict should leave;
* `Tidy` — the invariant that carries it;
* `KeepsKind` — the edits that leave nothing behind.

Main result: `current_only_of_kept_kind`.
-/

namespace ClusterAgent.StackResourceController

open Pass Effect
open Service (servesTraffic)

/-- Key and controller of what stands in front of the workloads. -/
def frontTags (c : Cluster) : List OwnerTag := tags .service c ++ tags .ingress c

/-- The resource controls nothing in front of its workload, and publishes no address. -/
structure NoFront (r : StackResource) (c : Cluster) : Prop where
  objects : ∀ t ∈ frontTags c, t.controller ≠ some r.metadata.uid
  internal : r.status.internalAddress = none
  external : r.status.externalAddress = []

/-- The workload objects the resource controls are exactly the one of its type, and a type
without a Service has nothing in front of it. -/
structure CurrentOnly (ns name : String) (w : World) : Prop where
  workload : ∀ r ∈ lookupResource w.cluster ns name, ∀ k t,
    t ∈ workloadTags k w.cluster ∧ t.controller = some r.metadata.uid ↔
      kindOf r.spec.workloadType = some k ∧ t = ownTag r.metadata
  front : ∀ r ∈ lookupResource w.cluster ns name,
    servesTraffic r.spec.workloadType = false → NoFront r w.cluster

/-- Nothing of another type is there. -/
structure Tidied (r : StackResource) (c : Cluster) : Prop where
  workload : ∀ k, ∀ t ∈ workloadTags k c, t.controller = some r.metadata.uid →
    kindOf r.spec.workloadType = some k ∧ t = ownTag r.metadata
  /-- A Job under the resource's name is its own. -/
  job : kindOf r.spec.workloadType = some .job → ∀ t ∈ workloadTags .job c,
    t.ns = r.metadata.ns → t.name = r.metadata.name → t.controller = some r.metadata.uid
  front : servesTraffic r.spec.workloadType = false → NoFront r c

def Tidy (ns name : String) (w : World) : Prop :=
  ∀ r ∈ lookupResource w.cluster ns name, Tidied r w.cluster

/-- The events that leave nothing behind. An edit keeps the kind of the workload, and a type
with a Service stays one; nobody else makes objects that the resource is said to control,
or a Job under its name. -/
def KeepsKind (ns name : String) (w : World) : ResourceEvent → Prop
  | .pass _ => True
  | .edit _ spec => ∀ r ∈ lookupResource w.cluster ns name,
      kindOf spec.workloadType = kindOf r.spec.workloadType ∧
        (servesTraffic spec.workloadType = false → servesTraffic r.spec.workloadType = false)
  | .elsewhere cluster _ => ∀ r ∈ lookupResource w.cluster ns name,
      (∀ k, ∀ t ∈ workloadTags k cluster, t.controller = some r.metadata.uid →
        t ∈ workloadTags k w.cluster) ∧
      (∀ t ∈ frontTags cluster, t.controller = some r.metadata.uid → t ∈ frontTags w.cluster) ∧
      ∀ t ∈ workloadTags .job cluster, t.ns = r.metadata.ns → t.name = r.metadata.name →
        t.controller = some r.metadata.uid

/-- A resource that was just created: it controls nothing and publishes nothing, and no Job
has its name. -/
structure JustCreated (ns name : String) (w : World) : Prop where
  workload : ∀ r ∈ lookupResource w.cluster ns name, ∀ k, ∀ t ∈ workloadTags k w.cluster,
    t.controller ≠ some r.metadata.uid
  job : ∀ r ∈ lookupResource w.cluster ns name, ∀ t ∈ workloadTags .job w.cluster,
    ¬ (t.ns = r.metadata.ns ∧ t.name = r.metadata.name)
  front : ∀ r ∈ lookupResource w.cluster ns name, NoFront r w.cluster

theorem JustCreated.tidy {ns name : String} {w : World} (h : JustCreated ns name w) :
    Tidy ns name w := by
  intro r hr
  refine ⟨fun k t ht hOwn => absurd hOwn (h.workload r hr k t ht), fun _ t ht hNs hName => ?_,
    fun _ => h.front r hr⟩
  exact absurd ⟨hNs, hName⟩ (h.job r hr t ht)

/-! ## A pass over a type without a Service -/

theorem frontTags_congr {c c' : Cluster} (hService : c.Same c' .service)
    (hIngress : c.Same c' .ingress) : frontTags c' = frontTags c := by
  unfold frontTags tags
  have hService' : Kind.service.get c' = Kind.service.get c := hService
  have hIngress' : Kind.ingress.get c' = Kind.ingress.get c := hIngress
  rw [hService', hIngress']

theorem workloadTags_stackResources (k : WorkloadKind) (c : Cluster) (l : List StackResource) :
    workloadTags k { c with stackResources := l } = workloadTags k c := by
  cases k <;> rfl

section

variable (env : Env) {ns name : String} {w : World}

/-- Without a Service the chain is over before the service step, or the step does nothing. -/
theorem chain_of_not_serving {r : StackResource}
    (hType : servesTraffic r.spec.workloadType = false) :
    Touches beforeFootprint (started w r)
      (finalState (runChain env subReconcilers none (started w r))) := by
  have hSplit : subReconcilers = beforeService ++ [.service] := rfl
  rw [hSplit, runChain_append]
  have hBefore : Touches beforeFootprint (started w r)
      (finalState (runChain env beforeService none (started w r))) := has_beforeService env none _
  cases hRun : runChain env beforeService none (started w r) with
  | error e w0 =>
    rw [bind_of_error hRun]
    rw [hRun] at hBefore
    exact hBefore
  | ok frontEnd w0 =>
    rw [hRun] at hBefore
    rw [bind_of_ok hRun]
    cases frontEnd with
    | endedBy step result => exact hBefore
    | ranToEnd deferred =>
      have hSilent : Service.reconcile env w0 = .ok .nil w0 := by
        rw [Service.reconcile_run, show w0.resource.spec = r.spec from hBefore.spec, hType]
        rfl
      have hEnd : runChain env [.service] deferred w0 = .ok (.ranToEnd deferred) w0 :=
        bind_of_ok hSilent
      dsimp only
      rw [hEnd]
      exact hBefore

theorem stored_pass {r' : StackResource}
    (h : lookupResource (resourceStep ns name w (.pass env)).cluster ns name = some r') :
    ∃ r : StackResource, lookupResource w.cluster ns name = some r ∧ r'.metadata = r.metadata ∧
      r'.spec = r.spec ∧ (r' = r ∨
        ∃ w1, finalState (runChain env subReconcilers none (started w r)) = w1 ∧
          r'.status.internalAddress = w1.resource.status.internalAddress ∧
          r'.status.externalAddress = w1.resource.status.externalAddress) := by
  by_cases hRan : PassRan env ns name w
  · obtain ⟨chainEnd, hRan⟩ := hRan
    obtain ⟨r, w1, hLookup, hChain, hPass⟩ := reconcile_inv env (eq_ok_of_value hRan)
    rcases hPass.lookup hLookup (touches_runChain env hChain) with ⟨hSame, -⟩ | hStored
    · cases hSame.symm.trans h
      exact ⟨_, hLookup, rfl, rfl, Or.inl rfl⟩
    · cases hStored.symm.trans h
      obtain ⟨build, hResource⟩ := hPass.resource
      have hRoutes : (finalState (reconcile env ns name w)).resource.status.routes =
          w1.resource.status.routes := by
        rw [hResource, routes_deriveSummaryStatus]
        rfl
      exact ⟨r, hLookup, rfl, rfl, Or.inr ⟨w1, by rw [hChain]; rfl,
        congrArg Routes.internalAddress hRoutes, congrArg Routes.externalAddress hRoutes⟩⟩
  · rw [lookupResource_of_not_ran hRan] at h
    exact ⟨r', h, rfl, rfl, Or.inl rfl⟩

end

/-! ## Every event keeps the resource tidy -/

section

variable {ns name : String} {w : World}

theorem chain_workloads {env : Env} (r : StackResource) :
    Triple (· = started w r) (runChain env subReconcilers none)
      (fun _ => WorkloadPass (started w r)) (WorkloadGains (started w r)) :=
  chain_around_kind workloadFrame fun _ _ _ => workloadPass_kind

theorem gains_pass {env : Env} {r : StackResource} (hr : lookupResource w.cluster ns name = some r)
    (k : WorkloadKind) {t : OwnerTag}
    (ht : t ∈ workloadTags k (resourceStep ns name w (.pass env)).cluster) :
    t ∈ workloadTags k w.cluster ∨
      (kindOf r.spec.workloadType = some k ∧ t = ownTag r.metadata) := by
  unfold resourceStep at ht
  rcases reconcile_objects env ns name w with hSame | ⟨r', hr', hSame⟩
  · rw [hSame] at ht
    exact Or.inl ht
  · cases hr.symm.trans hr'
    rw [workloadTags_congr (hSame k.objectKind)] at ht
    have hGains : WorkloadGains (started w r)
        (finalState (runChain env subReconcilers none (started w r))) := by
      cases hRun : runChain env subReconcilers none (started w r) with
      | ok chainEnd w1 => exact ((chain_workloads r).of_ok rfl hRun).1
      | error e w1 => exact (chain_workloads r).of_error rfl hRun
    exact hGains k t ht

theorem front_pass {env : Env} {r : StackResource} (hr : lookupResource w.cluster ns name = some r)
    (hType : servesTraffic r.spec.workloadType = false) :
    frontTags (resourceStep ns name w (.pass env)).cluster = frontTags w.cluster := by
  unfold resourceStep
  rcases reconcile_objects env ns name w with hSame | ⟨r', hr', hSame⟩
  · rw [hSame]
  · cases hr.symm.trans hr'
    have hTouches := chain_of_not_serving env (w := w) hType
    rw [frontTags_congr (hSame .service) (hSame .ingress)]
    exact frontTags_congr (hTouches.objects .service (by decide))
      (hTouches.objects .ingress (by decide))

theorem tidy_pass {env : Env} (h : Tidy ns name w) :
    Tidy ns name (resourceStep ns name w (.pass env)) := by
  intro r' hr'
  obtain ⟨r, hr, hMetadata, hSpec, hStatus⟩ := stored_pass env hr'
  obtain ⟨hWorkload, hJob, hFront⟩ := h r hr
  refine ⟨fun k t ht hOwn => ?_, fun hKind t ht hNs hName => ?_, fun hType => ?_⟩
  · rw [hMetadata] at hOwn ⊢
    rw [hSpec]
    exact (gains_pass hr k ht).elim (fun hOld => hWorkload k t hOld hOwn) id
  · rw [hMetadata] at hNs hName ⊢
    rw [hSpec] at hKind
    rcases gains_pass hr .job ht with hOld | ⟨-, rfl⟩
    · exact hJob hKind t hOld hNs hName
    · rfl
  · rw [hSpec] at hType
    obtain ⟨hObjects, hInternal, hExternal⟩ := hFront hType
    have hRoutes := (chain_of_not_serving env (w := w) hType).routes rfl
    refine ⟨fun t ht => ?_, ?_, ?_⟩
    · rw [hMetadata]
      rw [front_pass hr hType] at ht
      exact hObjects t ht
    · rcases hStatus with rfl | ⟨w1, rfl, hAddress, -⟩
      · exact hInternal
      · exact hAddress.trans ((congrArg Routes.internalAddress hRoutes).trans hInternal)
    · rcases hStatus with rfl | ⟨w1, rfl, -, hAddress⟩
      · exact hExternal
      · exact hAddress.trans ((congrArg Routes.externalAddress hRoutes).trans hExternal)

theorem tidy_resourceStep {event : ResourceEvent} (hKeeps : KeepsKind ns name w event)
    (h : Tidy ns name w) : Tidy ns name (resourceStep ns name w event) := by
  cases event with
  | pass env => exact tidy_pass h
  | edit metadata spec =>
    intro r' hr'
    rw [Option.mem_def, lookupResource_rewrite] at hr'
    obtain ⟨r, hr, rfl⟩ := Option.map_eq_some_iff.mp hr'
    obtain ⟨hKind, hServes⟩ := hKeeps r hr
    obtain ⟨hWorkload, hJob, hFront⟩ := h r hr
    refine ⟨fun k t ht hOwn => ?_, fun hNew => hJob (hKind.symm.trans hNew), fun hType => ?_⟩
    · unfold resourceStep at ht
      rw [workloadTags_stackResources] at ht
      obtain ⟨hOld, rfl⟩ := hWorkload k t ht hOwn
      exact ⟨hKind.trans hOld, rfl⟩
    · obtain ⟨hObjects, hInternal, hExternal⟩ := hFront (hServes hType)
      exact ⟨hObjects, hInternal, hExternal⟩
  | elsewhere cluster verifier =>
    intro r hr
    rw [lookupResource_around] at hr
    obtain ⟨hNew, hNewFront, hNewJob⟩ := hKeeps r hr
    obtain ⟨hWorkload, hJob, hFront⟩ := h r hr
    refine ⟨fun k t ht hOwn => ?_, fun _ => hNewJob, fun hType => ?_⟩
    · unfold resourceStep at ht
      rw [workloadTags_stackResources] at ht
      exact hWorkload k t (hNew k t ht hOwn) hOwn
    · obtain ⟨hObjects, hInternal, hExternal⟩ := hFront hType
      exact ⟨fun t ht hOwn => hObjects t (hNewFront t ht hOwn) hOwn, hInternal, hExternal⟩

theorem hasWorkload_pass {env : Env} {r' : StackResource} (hRan : PassRan env ns name w)
    (hVerdict : (resourceStep ns name w (.pass env)).verdicts.Empty)
    (hr' : lookupResource (resourceStep ns name w (.pass env)).cluster ns name = some r') :
    ∃ k, kindOf r'.spec.workloadType = some k ∧
      HasWorkload k r'.metadata (resourceStep ns name w (.pass env)).cluster := by
  obtain ⟨r, hr, hMetadata, hSpec, -⟩ := stored_pass env hr'
  obtain ⟨chainEnd, hRan⟩ := hRan
  obtain ⟨r0, w1, hr0, hChain, hPass⟩ := reconcile_inv env (eq_ok_of_value hRan)
  cases hr.symm.trans hr0
  obtain ⟨k, hKind, t, ht, hHas⟩ :=
    ((chain_workloads r).of_ok rfl hChain).2 (hPass.verdicts ▸ hVerdict)
  rw [hSpec, hMetadata]
  refine ⟨k, hKind, t, ?_, hHas⟩
  unfold resourceStep
  rw [workloadTags_congr (hPass.objects k.objectKind)]
  exact ht

/-- **Passes leave the objects of the current type alone.** In a run from the creation of a
resource in which no edit changes the kind of the workload or takes its Service away, a pass
that ends without a verdict leaves the resource with exactly the workload object of its type,
and a type without a Service with nothing in front of it. -/
theorem current_only_of_kept_kind (hStart : JustCreated ns name w) {events : List ResourceEvent}
    (hKeeps : Runs.Admitted (resourceStep ns name) (KeepsKind ns name) w events) {env : Env}
    (hRan : PassRan env ns name (Runs.run (resourceStep ns name) w events))
    (hVerdict : (Runs.run (resourceStep ns name) w (events ++ [.pass env])).verdicts.Empty) :
    CurrentOnly ns name (Runs.run (resourceStep ns name) w (events ++ [.pass env])) := by
  rw [Runs.run_append] at hVerdict ⊢
  have hTidy : Tidy ns name (Runs.run (resourceStep ns name) w events) :=
    Runs.run_admitted (fun _ _ => tidy_resourceStep) hKeeps hStart.tidy
  generalize Runs.run (resourceStep ns name) w events = w at *
  have hAfter : Tidy ns name (resourceStep ns name w (.pass env)) := tidy_pass hTidy
  refine ⟨fun r hr k t => ⟨fun ht => (hAfter r hr).workload k t ht.1 ht.2, ?_⟩,
    fun r hr => (hAfter r hr).front⟩
  rintro ⟨hKind, rfl⟩
  obtain ⟨k', hKind', t, ht, ⟨hNs, hName⟩, hOwn⟩ := hasWorkload_pass hRan hVerdict hr
  cases hKind.symm.trans hKind'
  rcases hOwn with rfl | rfl
  · -- a Job under the resource's name is its own
    have hController := (hAfter r hr).job hKind t ht hNs hName
    obtain ⟨-, rfl⟩ := (hAfter r hr).workload _ t ht hController
    exact ⟨ht, rfl⟩
  · exact ⟨ht, rfl⟩

end

def createdShop : World :=
  let resource := { shopFront with spec := { imageSpec := shopFront.spec.imageSpec } }
  { cluster := { stackResources := [resource] }, resource := resource }

theorem justCreated_createdShop : JustCreated "shop" "front" createdShop := by
  have hNone : ∀ k, workloadTags k createdShop.cluster = [] := by
    intro k
    cases k <;> rfl
  refine ⟨fun r _ k t ht => ?_, fun r _ t ht => ?_, fun r hr => ?_⟩
  · rw [hNone k] at ht
    cases ht
  · rw [hNone .job] at ht
    cases ht
  · have hLookup : lookupResource createdShop.cluster "shop" "front" =
        some createdShop.resource := rfl
    cases hLookup.symm.trans hr
    exact ⟨nofun, rfl, rfl⟩

def rolledOutShop : Cluster :=
  let cluster := (resourceStep "shop" "front" createdShop (.pass (frontEnv 0))).cluster
  { cluster with deployments := cluster.deployments.map rolledOut }

def servedShop : List ResourceEvent :=
  [.pass (frontEnv 0), .elsewhere rolledOutShop none, .pass (frontEnv 5)]

def changedTo (type : WorkloadType) : World :=
  Runs.run (resourceStep "shop" "front") createdShop
    (servedShop ++ [.edit shopFront.metadata
      { imageSpec := shopFront.spec.imageSpec, workloadType := type
        schedule := if type = .cronJob then "0 3 * * *" else "" }])

def passedAs (type : WorkloadType) : World :=
  resourceStep "shop" "front" (changedTo type) (.pass (frontEnv 10))

/-- A resource that becomes a Worker keeps its Service and its address, and one that becomes a
CronJob keeps its Deployment too, with no verdict that says so. -/
theorem changed_type_leaves_objects :
    JustCreated "shop" "front" createdShop ∧
    (∀ type ∈ [.worker, .cronJob], PassRan (frontEnv 10) "shop" "front" (changedTo type) ∧
      (passedAs type).verdicts.Empty ∧ ¬ CurrentOnly "shop" "front" (passedAs type)) ∧
    ownTag shopFront.metadata ∈ workloadTags .deployment (passedAs .cronJob).cluster := by
  have hLeft : ∀ type ∈ [WorkloadType.worker, .cronJob],
      value (reconcile (frontEnv 10) "shop" "front" (changedTo type)) =
        some (some (.ranToEnd none)) ∧ (passedAs type).verdicts.Empty ∧
      ∃ r ∈ lookupResource (passedAs type).cluster "shop" "front",
        servesTraffic r.spec.workloadType = false ∧ r.status.internalAddress ≠ none := by
    decide +kernel
  refine ⟨justCreated_createdShop, fun type hType => ?_, by decide +kernel⟩
  obtain ⟨hRan, hVerdict, r, hr, hServes, hAddress⟩ := hLeft type hType
  exact ⟨⟨_, hRan⟩, hVerdict, fun h => hAddress (h.front r hr hServes).internal⟩

theorem current_only_of_kept_kind_shop :
    CurrentOnly "shop" "front"
      (Runs.run (resourceStep "shop" "front") createdShop
        (servedShop ++ [.pass (frontEnv 10)])) := by
  have hRan : value (reconcile (frontEnv 10) "shop" "front"
      (Runs.run (resourceStep "shop" "front") createdShop servedShop)) =
        some (some (.ranToEnd none)) := by
    decide +kernel
  have hWorkload : ∀ k, ∀ t ∈ workloadTags k rolledOutShop, t.controller = some "u1" →
      t ∈ workloadTags k (resourceStep "shop" "front" createdShop
        (.pass (frontEnv 0))).cluster := by
    intro k
    cases k <;> decide +kernel
  have hKeeps : Runs.Admitted (resourceStep "shop" "front") (KeepsKind "shop" "front") createdShop
      servedShop := by
    refine ⟨trivial, fun r hr => ?_, trivial, trivial⟩
    have hUid : ∀ r ∈ lookupResource (resourceStep "shop" "front" createdShop
        (.pass (frontEnv 0))).cluster "shop" "front", r.metadata.uid = "u1" := by decide +kernel
    rw [hUid r hr]
    exact ⟨hWorkload, by decide +kernel, nofun⟩
  exact current_only_of_kept_kind justCreated_createdShop hKeeps ⟨_, hRan⟩ (by decide +kernel)

end ClusterAgent.StackResourceController
