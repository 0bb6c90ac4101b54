import ClusterAgent.StackResource.Ready
import ClusterAgent.StackResource.RestartPass

/-!
# Cluster agent — restarts over whole runs

The hub asks for a restart by a time in the spec; the agent stamps the pod
template and notes the time of the pass as processed. A request counts as
processed as soon as it is not later than that note, whoever's clock is ahead.

* `RestartState`, `restartStep` — runs of passes and requests, with the stamps put
  on the template since the last request as history;
* `restartEffect_pass` — the effect of one pass on template and restart clock;
* `pending_or_stamped`, `processed_restartStep` — what every event keeps, for a
  request that is due and for one that is not.

Main result: `restart_stamped_once`.
-/

namespace ClusterAgent.StackResourceController

open Pass Effect
open Workload (requiresRestart)

/-! ## The restart clock in storage -/

theorem storedTime_lt_iff {p t : Int} (ht : storedTime t = t) : storedTime p < t ↔ p < t := by
  unfold storedTime second at *
  omega

theorem requiresRestart_stored {r stored : StackResource} (h : StoredAs r stored)
    (hWhole : ∀ t ∈ r.spec.restartRequest, storedTime t = t) :
    requiresRestart stored = requiresRestart r := by
  unfold requiresRestart
  rw [h.spec]
  cases hRequest : r.spec.restartRequest with
  | none => rfl
  | some t =>
    have ht : storedTime t = t := hWhole t hRequest
    -- the stored clock is the written one cut to seconds, or the one that was stored
    rcases h.status with hStored | hSame
    · rw [hStored]
      cases hClock : r.status.lastRestartRequestProcessedAt with
      | none => simp [StackResourceStatus.stored, StackResourceStatus.mapTimes, hClock]
      | some p =>
        simp [StackResourceStatus.stored, StackResourceStatus.mapTimes, hClock,
          Timestamp.stored, storedTime_lt_iff ht]
    -- an unchanged status agrees on the wall clock, which is all that is read
    · have hClocks := congrArg StackResourceStatus.lastRestartRequestProcessedAt hSame
      simp only [StackResourceStatus.comparable, StackResourceStatus.mapTimes] at hClocks
      cases hClock : r.status.lastRestartRequestProcessedAt with
      | none =>
        rw [hClock] at hClocks
        rw [Option.map_eq_none_iff.mp hClocks]
      | some p =>
        rw [hClock] at hClocks
        obtain ⟨q, hq, hWall⟩ := Option.map_eq_some_iff.mp hClocks
        have hSameWall : q.wall = p.wall := by injection hWall
        rw [hq]
        simp only [hSameWall]

/-! ## Runs -/

/-- A cluster, with the number of passes that stamped the template since the current
request was set. -/
structure RestartState where
  world : World
  stamps : Nat := 0

/-- What happens between and in passes over one resource whose spec changes only by its
restart request. -/
inductive RestartEvent where
  | pass (clock : Clock) (fault : Nat → Option GoError)
  | request (time : Option Int) (generation : Int)
  | elsewhere (cluster : Cluster) (verifier : Option PortCheck.Verifier)
      (deployment : DeploymentStatus) (statefulSet : StatefulSetStatus)

def RestartEvent.isRequest : RestartEvent → Bool
  | .request _ _ => true
  | _ => false

def requested (time : Option Int) (generation : Int) (r : StackResource) : StackResource :=
  { r with metadata.generation := generation, spec.restartRequest := time.map storedTime }

def passEnv (env : Env) (clock : Clock) (fault : Nat → Option GoError) : Env :=
  { env with clock := clock, fault := fault }

section

variable (env : Env) (ns name : String)

def storedTemplate (c : Cluster) : Option PodTemplateSpec :=
  (lookupResource c ns name).bind fun r => templateOf ns name r.spec.workloadType c

def Stamps (before after : Option PodTemplateSpec) : Prop :=
  after ≠ before ∧ (after.bind restartStamp).isSome = true

instance (before after : Option PodTemplateSpec) : Decidable (Stamps before after) :=
  inferInstanceAs (Decidable (_ ∧ _))

def elsewhere (cluster old : Cluster) (deployment : DeploymentStatus)
    (statefulSet : StatefulSetStatus) : Cluster :=
  { cluster with
    stackResources := Keyed.keeping (isResource ns name) cluster.stackResources old.stackResources
    deployments := Keyed.keeping (hasKey ns name) cluster.deployments
      (Keyed.write (hasKey ns name) (fun d => { d with status := deployment }) old.deployments)
    statefulSets := Keyed.keeping (hasKey ns name) cluster.statefulSets
      (Keyed.write (hasKey ns name) (fun s => { s with status := statefulSet })
        old.statefulSets) }

/-- One event, with the stamps counted: a pass is charged with one if it leaves another template
than before, and a stamp on it. A new request starts the count again. -/
def restartStep (s : RestartState) : RestartEvent → RestartState
  | .pass clock fault =>
    let after := finalState (reconcile (passEnv env clock fault) ns name s.world)
    { world := after
      stamps :=
        if Stamps (storedTemplate ns name s.world.cluster) (storedTemplate ns name after.cluster)
        then s.stamps + 1 else s.stamps }
  | .request time generation =>
    { world := { s.world with
        cluster.stackResources := Keyed.write (isResource ns name) (requested time generation)
          s.world.cluster.stackResources }
      stamps := 0 }
  | .elsewhere cluster verifier deployment statefulSet =>
    { s with
      world.cluster := elsewhere ns name cluster s.world.cluster deployment statefulSet
      world.verifier := verifier }

/-- The resource is a long-running workload with a request for `t`. -/
structure Asked (t : Int) (s : RestartState) (r : StackResource) : Prop where
  lookup : lookupResource s.world.cluster ns name = some r
  serving : Serving r.spec.workloadType
  request : r.spec.restartRequest = some t

def Due (s : RestartState) : Prop :=
  ∃ r ∈ lookupResource s.world.cluster ns name, requiresRestart r = true

instance (s : RestartState) : Decidable (Due ns name s) :=
  inferInstanceAs (Decidable (∃ r ∈ lookupResource s.world.cluster ns name, _))

/-- The template is the one of the spec, without a stamp. -/
def Plain (s : RestartState) : Prop :=
  ∃ r ∈ lookupResource s.world.cluster ns name, ∃ inputs,
    storedTemplate ns name s.world.cluster = some (podTemplate r inputs none)

/-- A pass that is not ahead of the request by its clock, does not repeat the stamp that is
on the template, and does not fail between writing the template and storing the status. -/
def Orderly (t : Int) (s : RestartState) : RestartEvent → Prop
  | .pass clock fault =>
    t ≤ clock.wall ∧
    (storedTemplate ns name s.world.cluster).bind restartStamp ≠
      some (env.timeString clock.wall) ∧
    ((value (reconcile (passEnv env clock fault) ns name s.world)).isSome = true ∨
      storedTemplate ns name (restartStep env ns name s (.pass clock fault)).world.cluster =
        storedTemplate ns name s.world.cluster)
  | _ => True

instance (t : Int) (s : RestartState) : DecidablePred (Orderly env ns name t s)
  | .pass _ _ => inferInstanceAs (Decidable (_ ∧ _ ∧ _))
  | .request _ _ => instDecidableTrue
  | .elsewhere _ _ _ _ => instDecidableTrue

end

/-! ## One pass -/

section

variable {env : Env} {ns name : String} {clock : Clock} {fault : Nat → Option GoError}
  {t : Int} {s : RestartState} {r : StackResource}

theorem storedTemplate_eq {c : Cluster} (h : lookupResource c ns name = some r) :
    storedTemplate ns name c = templateOf ns name r.spec.workloadType c := by
  unfold storedTemplate
  rw [h]
  rfl

theorem Asked.due_iff (h : Asked ns name t s r) : Due ns name s ↔ requiresRestart r = true := by
  unfold Due
  rw [h.lookup]
  simp

/-- What one pass does to template and restart clock of a resource with a request: nothing,
the plain template of a request that is not due, or the stamp of one that is. -/
inductive RestartEffect (env : Env) (ns name : String) (t : Int) (clock : Clock) (s s' : World)
    (result : Option (Option ChainEnd)) (r r' : StackResource) : Prop
  | kept (hTemplate : storedTemplate ns name s'.cluster = storedTemplate ns name s.cluster)
      (hDue : requiresRestart r' = requiresRestart r)
  | plain (inputs : TemplateInputs)
      (hBefore : requiresRestart r = false) (hAfter : requiresRestart r' = false)
      (hTemplate : storedTemplate ns name s'.cluster = some (podTemplate r inputs none))
  | stamped (inputs : TemplateInputs) (hBefore : requiresRestart r = true)
      (hTemplate : storedTemplate ns name s'.cluster =
        some (podTemplate r inputs (some (env.timeString clock.wall))))
      (hAfter : requiresRestart r' = true → result = none ∨ clock.wall < t)

/-- A request is due after a completed pass if it is later than the restart clock in
memory. -/
theorem requiresRestart_completed {r' : StackResource} {w' : World} (hWhole : storedTime t = t)
    (hRequest : r.spec.restartRequest = some t) (hSpec : r'.spec = r.spec)
    (hStored : StoredAs w'.resource r') :
    requiresRestart r' = requiresRestart
      { r with status.lastRestartRequestProcessedAt := restartClock w' } := by
  have hSame : w'.resource.spec = r.spec := hStored.spec.symm.trans hSpec
  have hMemory : requiresRestart r' = requiresRestart w'.resource := by
    refine requiresRestart_stored hStored fun t' ht' => ?_
    rw [hSame, hRequest] at ht'
    cases ht'
    exact hWhole
  rw [hMemory]
  unfold requiresRestart restartClock
  rw [hSame]

theorem restartEffect_pass (clock : Clock) (fault : Nat → Option GoError)
    (hWhole : storedTime t = t) (hAsked : Asked ns name t s r) :
    ∃ r', Asked ns name t (restartStep env ns name s (.pass clock fault)) r' ∧
      r'.metadata = r.metadata ∧ r'.spec = r.spec ∧
      RestartEffect env ns name t clock s.world
        (restartStep env ns name s (.pass clock fault)).world
        (value (reconcile (passEnv env clock fault) ns name s.world)) r r' := by
  have hServing : ∀ x, lookupResource s.world.cluster ns name = some x →
      Serving x.spec.workloadType := by
    intro x hx
    cases hAsked.lookup.symm.trans hx
    exact hAsked.serving
  have hBefore := storedTemplate_eq hAsked.lookup
  -- the pass did not run, failed before its status write, or completed
  cases restartPassed_reconcile (passEnv env clock fault) hServing with
  | idle hSame =>
    have hCluster : (restartStep env ns name s (.pass clock fault)).world.cluster =
        s.world.cluster := hSame
    refine ⟨r, ⟨hCluster ▸ hAsked.lookup, hAsked.serving, hAsked.request⟩, rfl, rfl, ?_⟩
    exact .kept (by rw [hCluster]) rfl
  | @failed x hFailed hLookup hStored hTemplate =>
    cases hAsked.lookup.symm.trans hLookup
    have hAfter := storedTemplate_eq hStored
    refine ⟨r, ⟨hStored, hAsked.serving, hAsked.request⟩, rfl, rfl, ?_⟩
    -- a failed pass may have applied the template, stamped if a restart was due
    rcases hTemplate with hKept | ⟨inputs, hApplied⟩
    · exact .kept (hAfter.trans (hKept.trans hBefore.symm)) rfl
    · unfold stampFor at hApplied
      cases hDue : requiresRestart r with
      | true =>
        have hStamp : requiresRestart (started s.world r).resource = true := hDue
        rw [hStamp] at hApplied
        exact .stamped inputs hDue (hAfter.trans hApplied) fun _ => Or.inl hFailed
      | false =>
        have hStamp : requiresRestart (started s.world r).resource = false := hDue
        rw [hStamp] at hApplied
        exact .plain inputs hDue hDue (hAfter.trans hApplied)
  -- the clock of the completed pass decides whether the request is still due
  | @completed x r' w1 hLookup hStored hMetadata hSpec hClock hPass hSame =>
    cases hAsked.lookup.symm.trans hLookup
    have hRequest : r'.spec.restartRequest = some t := hSpec ▸ hAsked.request
    have hAfter := storedTemplate_eq hStored
    rw [hSpec, hSame] at hAfter
    have hDueAfter := requiresRestart_completed hWhole hAsked.request hSpec hClock.1
    rw [hClock.2] at hDueAfter
    refine ⟨r', ⟨hStored, hSpec ▸ hAsked.serving, hRequest⟩, hMetadata, hSpec, ?_⟩
    cases hPass with
    | kept hTemplate hKept =>
      rw [hKept] at hDueAfter
      exact .kept (hAfter.trans (hTemplate.trans hBefore.symm)) hDueAfter
    | applied inputs hTemplate hApplied =>
      unfold stampFor at hTemplate
      cases hDue : requiresRestart r with
      | true =>
        have hStamp : requiresRestart (started s.world r).resource = true := hDue
        -- due and stamped; still due afterwards only if the request lies ahead of the clock
        rw [hStamp] at hTemplate hApplied
        refine .stamped inputs hDue (hAfter.trans hTemplate) fun hStill => Or.inr ?_
        rw [hDueAfter, hApplied] at hStill
        unfold requiresRestart at hStill
        rw [hAsked.request] at hStill
        exact of_decide_eq_true hStill
      | false =>
        have hStamp : requiresRestart (started s.world r).resource = false := hDue
        rw [hStamp] at hTemplate hApplied
        refine .plain inputs hDue ?_ (hAfter.trans hTemplate)
        rw [hDueAfter, hApplied]
        exact hDue

/-! ## What every event keeps -/

theorem templateOf_elsewhere {cluster old : Cluster} {deployment : DeploymentStatus}
    {statefulSet : StatefulSetStatus} {workloadType : WorkloadType} :
    templateOf ns name workloadType (elsewhere ns name cluster old deployment statefulSet) =
      templateOf ns name workloadType old := by
  have hDeployment : lookup .deployment (elsewhere ns name cluster old deployment statefulSet)
      ns name = (lookup .deployment old ns name).map fun d => { d with status := deployment } := by
    show List.find? _ (Keyed.keeping _ _ _) = _
    rw [Keyed.find?_keeping]
    refine Keyed.find?_write ?_ _
    exact fun _ h => h
  have hStatefulSet : lookup .statefulSet (elsewhere ns name cluster old deployment statefulSet)
      ns name = (lookup .statefulSet old ns name).map
        fun s => { s with status := statefulSet } := by
    show List.find? _ (Keyed.keeping _ _ _) = _
    rw [Keyed.find?_keeping]
    refine Keyed.find?_write ?_ _
    exact fun _ h => h
  unfold templateOf
  rw [hDeployment, hStatefulSet, Option.map_map, Option.map_map]
  rfl

theorem Asked.elsewhere (h : Asked ns name t s r) (cluster : Cluster)
    (verifier : Option PortCheck.Verifier) (deployment : DeploymentStatus)
    (statefulSet : StatefulSetStatus) :
    Asked ns name t (restartStep env ns name s (.elsewhere cluster verifier deployment statefulSet))
        r ∧
      storedTemplate ns name (restartStep env ns name s
        (.elsewhere cluster verifier deployment statefulSet)).world.cluster =
      storedTemplate ns name s.world.cluster := by
  have hLookup : lookupResource (restartStep env ns name s
      (.elsewhere cluster verifier deployment statefulSet)).world.cluster ns name = some r :=
    (Keyed.find?_keeping _ _).trans h.lookup
  refine ⟨⟨hLookup, h.serving, h.request⟩, ?_⟩
  rw [storedTemplate_eq hLookup, storedTemplate_eq h.lookup]
  exact templateOf_elsewhere

/-- The request is not due, and the template was stamped `n` times for it. -/
def Processed (ns name : String) (t : Int) (n : Nat) (s : RestartState) : Prop :=
  ∃ r, Asked ns name t s r ∧ requiresRestart r = false ∧ s.stamps = n

/-- The request is due, and the template has not been stamped for it. -/
def Pending (ns name : String) (t : Int) (s : RestartState) : Prop :=
  ∃ r, Asked ns name t s r ∧ requiresRestart r = true ∧ s.stamps = 0

theorem stamps_pass_of_not {w : World} {fault : Nat → Option GoError}
    (hw : finalState (reconcile (passEnv env clock fault) ns name s.world) = w)
    (h : ¬ Stamps (storedTemplate ns name s.world.cluster) (storedTemplate ns name w.cluster)) :
    (restartStep env ns name s (.pass clock fault)).stamps = s.stamps := by
  subst hw
  exact if_neg h

/-- A processed request never touches the stamp again, nor does it leave anything but the
template of the spec. -/
theorem processed_restartStep {n : Nat} (hWhole : storedTime t = t) (event : RestartEvent)
    (hQuiet : event.isRequest = false) (h : Processed ns name t n s) :
    Processed ns name t n (restartStep env ns name s event) ∧
      (Plain ns name s → Plain ns name (restartStep env ns name s event)) := by
  obtain ⟨r, hAsked, hNotDue, hStamps⟩ := h
  have hPlain : Plain ns name s → ∃ inputs,
      storedTemplate ns name s.world.cluster = some (podTemplate r inputs none) := by
    rintro ⟨x, hx, hOld⟩
    cases hAsked.lookup.symm.trans hx
    exact hOld
  -- without a new request only a pass can stamp
  cases event with
  | request time generation => cases hQuiet
  | elsewhere cluster verifier deployment statefulSet =>
    obtain ⟨hAsked', hSame⟩ := hAsked.elsewhere cluster verifier deployment statefulSet
    exact ⟨⟨r, hAsked', hNotDue, hStamps⟩, fun h => ⟨r, hAsked'.lookup, hSame ▸ hPlain h⟩⟩
  | pass clock fault =>
    obtain ⟨r', hAsked', hMetadata, hSpec, hEffect⟩ := restartEffect_pass clock fault hWhole hAsked
    have hSame := podTemplate_congr hMetadata hSpec
    cases hEffect with
    | kept hTemplate hDue =>
      refine ⟨⟨r', hAsked', hDue.trans hNotDue, (stamps_pass_of_not rfl ?_).trans hStamps⟩,
        fun h => ⟨r', hAsked'.lookup, ?_⟩⟩
      · exact fun hNew => hNew.1 hTemplate
      · rw [hSame, hTemplate]
        exact hPlain h
    | plain inputs _ hAfter hTemplate =>
      refine ⟨⟨r', hAsked', hAfter, (stamps_pass_of_not rfl ?_).trans hStamps⟩,
        fun _ => ⟨r', hAsked'.lookup, inputs, hSame ▸ hTemplate⟩⟩
      intro hNew
      have hSome : ((storedTemplate ns name (restartStep env ns name s
        (.pass clock fault)).world.cluster).bind restartStamp).isSome = true := hNew.2
      rw [hTemplate, Option.bind_some, restartStamp_podTemplate] at hSome
      cases hSome
    -- a pass does not stamp when no restart is due
    | stamped _ hBefore _ _ => exact absurd (hNotDue.symm.trans hBefore) (by decide)

theorem pending_or_stamped (hWhole : storedTime t = t) (event : RestartEvent)
    (hQuiet : event.isRequest = false) (hOrderly : Orderly env ns name t s event)
    (h : Pending ns name t s) :
    Pending ns name t (restartStep env ns name s event) ∨
      Processed ns name t 1 (restartStep env ns name s event) := by
  obtain ⟨r, hAsked, hDue, hStamps⟩ := h
  cases event with
  | request time generation => cases hQuiet
  | elsewhere cluster verifier deployment statefulSet =>
    exact Or.inl
      ⟨r, (hAsked.elsewhere cluster verifier deployment statefulSet).1, hDue, hStamps⟩
  | pass clock fault =>
    obtain ⟨r', hAsked', -, -, hEffect⟩ := restartEffect_pass clock fault hWhole hAsked
    obtain ⟨hClock, hOther, hEnds⟩ := hOrderly
    cases hEffect with
    | kept hTemplate hSame =>
      refine Or.inl ⟨r', hAsked', hSame.trans hDue, (stamps_pass_of_not rfl ?_).trans hStamps⟩
      exact fun hNew => hNew.1 hTemplate
    -- nor does it apply a plain template when one is due
    | plain _ hBefore _ _ => exact absurd (hDue.symm.trans hBefore) (by decide)
    | stamped inputs _ hTemplate hAfter =>
      have hStamp : (storedTemplate ns name (restartStep env ns name s
          (.pass clock fault)).world.cluster).bind restartStamp =
          some (env.timeString clock.wall) := by
        rw [hTemplate, Option.bind_some, restartStamp_podTemplate]
      have hChanged : storedTemplate ns name (restartStep env ns name s
          (.pass clock fault)).world.cluster ≠ storedTemplate ns name s.world.cluster := by
        intro hSame
        rw [hSame] at hStamp
        exact hOther hStamp
      refine Or.inr ⟨r', hAsked', ?_, ?_⟩
      · rw [← Bool.not_eq_true]
        intro hStill
        rcases hAfter hStill with hNone | hAhead
        -- a pass that stamps completes, so the request is processed
        · rcases hEnds with hSome | hSame
          · rw [hNone] at hSome
            cases hSome
          · exact hChanged hSame
        · omega
      · have hNew : Stamps (storedTemplate ns name s.world.cluster)
            (storedTemplate ns name (finalState
              (reconcile (passEnv env clock fault) ns name s.world)).cluster) :=
          ⟨hChanged, Option.isSome_of_eq_some hStamp⟩
        show (if _ then s.stamps + 1 else s.stamps) = 1
        rw [if_pos hNew, hStamps]

theorem not_ready_of_due {chainEnd : ChainEnd} {w' : World} (hAsked : Asked ns name t s r)
    (hDue : requiresRestart r = true)
    (hPass : reconcile env ns name s.world = .ok (some chainEnd) w') :
    w'.resource.status.phase ≠ .ready := by
  have hVerdict : ¬ w'.verdicts.Empty :=
    verdict_reconcile env hAsked.lookup hAsked.serving hDue hPass
  obtain ⟨_, w1, _, _, hResult⟩ := reconcile_inv env hPass
  obtain ⟨build, hResource⟩ := hResult.resource
  rw [hResource, ← hResult.verdicts]
  rw [Ne, phase_ready_iff]
  exact fun hReady => hVerdict hReady.1

end

/-! ## Whole runs -/

theorem asked_request {env : Env} {ns name : String} {s : RestartState} {r : StackResource}
    (hLookup : lookupResource s.world.cluster ns name = some r)
    (hServing : Serving r.spec.workloadType) (time generation : Int) :
    Asked ns name (storedTime time) (restartStep env ns name s (.request (some time) generation))
      (requested (some time) generation r) := by
  have hWrite : lookupResource
      (restartStep env ns name s (.request (some time) generation)).world.cluster ns name =
      (lookupResource s.world.cluster ns name).map (requested (some time) generation) :=
    lookupResource_write (fun _ => rfl) rfl
  rw [hLookup] at hWrite
  exact ⟨hWrite, hServing, rfl⟩

theorem requiresRestart_requested (r : StackResource) (time generation : Int) :
    requiresRestart (requested (some time) generation r) = true ↔
      ∀ processed ∈ r.status.lastRestartRequestProcessedAt, processed.wall < storedTime time := by
  unfold requiresRestart requested
  cases r.status.lastRestartRequestProcessedAt with
  | none => simp
  | some processed => simp

/-- Over any run after a request, with arbitrary passes, failures and changes elsewhere: a
request that is not later than the last processed time is never stamped on the template,
which stays the one of the spec; a later one is stamped exactly once, and counts as
processed from then on, if the passes of the run are orderly. Until then it stays due, and
no pass that completes reports Ready. -/
theorem restart_stamped_once (env : Env) {ns name : String} {s : RestartState}
    {r : StackResource} (hLookup : lookupResource s.world.cluster ns name = some r)
    (hServing : Serving r.spec.workloadType) (time generation : Int)
    {events : List RestartEvent} (hQuiet : ∀ event ∈ events, event.isRequest = false) :
    let s₁ := restartStep env ns name s (.request (some time) generation)
    let s' := Runs.run (restartStep env ns name) s₁ events
    (Due ns name s₁ ↔
      ∀ processed ∈ r.status.lastRestartRequestProcessedAt, processed.wall < storedTime time) ∧
    (¬ Due ns name s₁ →
      ¬ Due ns name s' ∧ s'.stamps = 0 ∧ (Plain ns name s₁ → Plain ns name s')) ∧
    (Due ns name s₁ →
      Runs.Admitted (restartStep env ns name) (Orderly env ns name (storedTime time)) s₁ events →
      (Due ns name s' ∧ s'.stamps = 0 ∧ ∀ clock fault chainEnd w',
          reconcile (passEnv env clock fault) ns name s'.world = .ok (some chainEnd) w' →
            w'.resource.status.phase ≠ .ready) ∨
        (¬ Due ns name s' ∧ s'.stamps = 1)) := by
  intro s₁ s'
  have hAsked : Asked ns name (storedTime time) s₁ (requested (some time) generation r) :=
    asked_request hLookup hServing time generation
  have hWhole : storedTime (storedTime time) = storedTime time := storedTime_storedTime time
  refine ⟨hAsked.due_iff.trans (requiresRestart_requested r time generation), ?_, ?_⟩
  -- a request that is not due changes nothing
  · intro hNotDue
    rw [hAsked.due_iff, Bool.not_eq_true] at hNotDue
    have hStart : Processed ns name (storedTime time) 0 s₁ := ⟨_, hAsked, hNotDue, rfl⟩
    obtain ⟨⟨r', hAsked', hNotDue', hStamps⟩, hPlain⟩ := Runs.run_preserves
      (I := fun s => Processed ns name (storedTime time) 0 s ∧ (Plain ns name s₁ → Plain ns name s))
      (fun s event hq h => (processed_restartStep hWhole event hq h.1).imp_right (·.comp h.2))
      hQuiet ⟨hStart, id⟩
    refine ⟨?_, hStamps, hPlain⟩
    rw [hAsked'.due_iff, hNotDue']
    decide
  -- due: pending until the pass that stamps, processed from then on
  · intro hDue hOrderly
    rw [hAsked.due_iff] at hDue
    have hEnd :
        Pending ns name (storedTime time) s' ∨ Processed ns name (storedTime time) 1 s' := by
      refine Runs.run_admitted
        (I := fun s =>
          Pending ns name (storedTime time) s ∨ Processed ns name (storedTime time) 1 s)
        (fun s event hStep h => ?_)
        (Runs.admitted_and hOrderly (Runs.admitted_of_forall hQuiet))
        (Or.inl ⟨_, hAsked, hDue, rfl⟩)
      rcases h with hPending | hProcessed
      · exact pending_or_stamped hWhole event hStep.2 hStep.1 hPending
      · exact Or.inr (processed_restartStep hWhole event hStep.2 hProcessed).1
    rcases hEnd with ⟨r', hAsked', hDue', hStamps⟩ | ⟨r', hAsked', hNotDue, hStamps⟩
    · refine Or.inl ⟨hAsked'.due_iff.mpr hDue', hStamps, fun clock fault chainEnd w' hPass => ?_⟩
      exact not_ready_of_due hAsked' hDue' hPass
    · refine Or.inr ⟨?_, hStamps⟩
      rw [hAsked'.due_iff, hNotDue]
      decide

def shopWorker (processed : Option Int) : StackResource where
  metadata := { name := "mailer", ns := "shop", uid := "u1", generation := 1 }
  spec := { workloadType := .worker, imageSpec := some { image := "mailer:1" } }
  status.lastRestartRequestProcessedAt := processed.map fun n => { wall := n * second }

def workerState (processed : Option Int) : RestartState where
  world :=
    { cluster := { stackResources := [shopWorker processed] }
      resource := shopWorker processed }

def passAt (n : Int) (fault : Nat → Option GoError := fun _ => none) : RestartEvent :=
  .pass { wall := n * second, monotonic := 0 } fault

def requestAt (n : Int) : RestartEvent := .request (some (n * second)) 2

def workerRun (s : RestartState) (events : List RestartEvent) : RestartState :=
  Runs.run (restartStep (plainEnv 0) "shop" "mailer") s events

def workerTemplate (s : RestartState) (events : List RestartEvent) : Option PodTemplateSpec :=
  storedTemplate "shop" "mailer" (workerRun s events).world.cluster

theorem restart_stamped_once_worker :
    let s := workerRun (workerState none) [passAt 1, requestAt 2]
    let s' := workerRun s [passAt 3, passAt 4]
    ¬ Due "shop" "mailer" s' ∧ s'.stamps = 1 := by
  intro s s'
  obtain ⟨r, hLookup, hWorker⟩ : ∃ r ∈ lookupResource
      (workerRun (workerState none) [passAt 1]).world.cluster "shop" "mailer",
      r.spec.workloadType = .worker := by
    decide +kernel
  have hQuiet : ∀ event ∈ [passAt 3, passAt 4], event.isRequest = false := by decide
  have hServing : Serving r.spec.workloadType := hWorker ▸ .worker
  obtain ⟨-, -, hRun⟩ :=
    restart_stamped_once (plainEnv 0) hLookup hServing (2 * second) 2 hQuiet
  rcases hRun (by decide +kernel) (by decide +kernel) with hPending | hDone
  · exact absurd hPending.2.1 (by decide +kernel)
  · exact hDone

/-- The write of the status is the last call of the pass after the request. -/
def statusLost (call : Nat) : Option GoError :=
  if call = 7 then some { message := "etcdserver: request timed out" } else none

/-- Four runs: a request for a time already processed changes nothing; an ordinary one
changes the template twice, since the next pass builds it without the stamp; one ahead of
the agent's clock is stamped by every pass; and one whose pass writes the template and then
fails to store its status is stamped again. -/
theorem restart_not_once :
    (workerTemplate (workerState (some 5)) [passAt 6, requestAt 4, passAt 7] =
      workerTemplate (workerState (some 5)) [passAt 6]) ∧
    (workerTemplate (workerState none) [passAt 1, requestAt 2, passAt 3] ≠
        workerTemplate (workerState none) [passAt 1] ∧
      workerTemplate (workerState none) [passAt 1, requestAt 2, passAt 3, passAt 4] ≠
        workerTemplate (workerState none) [passAt 1, requestAt 2, passAt 3]) ∧
    (workerRun (workerState none) [passAt 1, requestAt 9, passAt 3, passAt 4]).stamps = 2 ∧
    (workerRun (workerState none)
      [passAt 1, requestAt 2, passAt 3 statusLost, passAt 4]).stamps = 2 := by
  decide +kernel

end ClusterAgent.StackResourceController
