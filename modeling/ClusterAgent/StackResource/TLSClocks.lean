import ClusterAgent.StackResource.EditRuns
import ClusterAgent.StackResource.TLSPaths

/-!
# Cluster agent — waiting for TLS over whole runs

A path waits for its TLS at most for the grace period, counted from a start that
the status keeps from pass to pass. A pass may end before the service step, or
fail and store nothing; the hub edits the resource and the cluster changes in
between. Over all of this the clock of a path that is in use and never ready
stands where it was first set.

* `TLSPath` — a path as its clock in the status, the passes it is in use in and
  the state it reports; `certificatePath` and `referencePath` are the two;
* `PassClocked` — what one pass does to a path in use;
* `Clocked` — what holds along a run.

Main result: `tls_waits_once`.
-/

namespace ClusterAgent.StackResourceController

open Pass Effect
open Service (TLSStage TLSState Timed windowStart clockAfter clockOf trackingAfter reportedStates
  tlsGracePeriod)

/-! ## Where the service step starts -/

def beforeService : List SubReconciler := [.registryAuth, .imageBuild, .workload]

/-- The steps before the service step leave alone the routes and what is in front of the
workload. -/
def beforeFootprint : Footprint :=
  { chainFootprint with
    routes := false
    objects := [.deployment, .statefulSet, .job, .cronJob, .secret, .imageBuild] }

section

variable (env : Env)

theorem has_beforeService (deferred : Option Int) :
    Has beforeFootprint (runChain env beforeService deferred) := by
  refine has_runChain env (fun step hStep => ?_) deferred
  cases step with
  | registryAuth => exact (RegistryAuth.has_reconcile env).widen
  | imageBuild => exact (ImageBuilds.has_reconcile env).widen
  | workload => exact (Workload.has_reconcile env).widen
  | service => simp [beforeService] at hStep

/-- The world in which a pass over `r` comes to the service step, if it does. -/
def atService (w : World) (r : StackResource) : Option World :=
  match runChain env beforeService none (started w r) with
  | .ok (.ranToEnd _) w₀ => some w₀
  | .ok (.endedBy _ _) _ | .error _ _ => none

/-- What both TLS paths report in a pass, if it gets that far. -/
def tlsStates (ns name : String) (w : World) : Option (TLSState × TLSState) :=
  (lookupResource w.cluster ns name).bind fun r => (atService env w r).bind (reportedStates env)

variable {env} {w w₀ w₁ : World} {r : StackResource} {chainEnd : ChainEnd}

theorem touches_atService (h : atService env w r = some w₀) :
    Touches beforeFootprint (started w r) w₀ := by
  unfold atService at h
  split at h
  · next deferred w₀' hRun =>
    cases h
    exact (has_beforeService env none).ok hRun
  · cases h
  · cases h

theorem chain_atService (h : runChain env subReconcilers none (started w r) = .ok chainEnd w₁) :
    (atService env w r = none ∧ Touches beforeFootprint (started w r) w₁) ∨
      ∃ w₀ result, atService env w r = some w₀ ∧ Service.reconcile env w₀ = .ok result w₁ := by
  have hSplit : subReconcilers = beforeService ++ [.service] := rfl
  rw [hSplit, runChain_append] at h
  obtain ⟨frontEnd, w₀, hFront, h⟩ := bind_ok h
  unfold atService
  rw [hFront]
  cases frontEnd with
  | endedBy step result =>
    cases h
    exact Or.inl ⟨rfl, (has_beforeService env none).ok hFront⟩
  | ranToEnd deferred =>
    obtain ⟨result, w₁', hService, h⟩ := bind_ok h
    refine Or.inr ⟨w₀, result, rfl, ?_⟩
    cases result <;> cases h <;> exact hService

end

/-! ## Clocks and storing -/

theorem map_stored_clockAfter (stage : TLSStage) (since : Option Timestamp) (now : Timestamp) :
    (clockAfter stage since now).map Timestamp.stored =
      clockAfter stage (since.map Timestamp.stored) now.stored := by
  unfold clockAfter
  split
  · rfl
  · cases since with
    | none => rfl
    | some since => rfl

def storedTracking (tracked : Option ReferencedTLSSecretStatus) :
    Option ReferencedTLSSecretStatus :=
  tracked.map fun t => { t with waitingSince := t.waitingSince.map Timestamp.stored }

theorem clockOf_storedTracking (ref : String) (tracked : Option ReferencedTLSSecretStatus) :
    clockOf ref (storedTracking tracked) = (clockOf ref tracked).map Timestamp.stored := by
  unfold clockOf storedTracking
  cases tracked with
  | none => rfl
  | some t =>
    dsimp only [Option.map_some, Option.bind_some]
    split
    · rfl
    · rfl

theorem storedTracking_trackingAfter (ref : String) (stage : TLSStage)
    (before : Option ReferencedTLSSecretStatus) (now : Timestamp) :
    storedTracking (trackingAfter ref stage before now) =
      trackingAfter ref stage (storedTracking before) now.stored := by
  unfold trackingAfter
  split
  · rfl
  · rw [clockOf_storedTracking, ← map_stored_clockAfter]
    rfl

/-! ## The two paths -/

/-- A TLS path: its clock in the status, the service steps it is in use in, and the state it
reports; the step reports by the clock and moves it. -/
structure TLSPath where
  clock : Routes → Option Timestamp
  InUse : Env → World → Prop
  state : TLSState × TLSState → TLSState
  clock_stored : ∀ s : StackResourceStatus,
    clock s.stored.routes = (clock s.routes).map Timestamp.stored
  timed : ∀ {env w states}, InUse env w → reportedStates env w = some states →
    Timed (windowStart (clock w.resource.status.routes) env.clock.wall) env.clock.wall
      (state states)
  moves : ∀ {env w w' result}, InUse env w → Service.reconcile env w = .ok result w' →
    (reportedStates env w = none ∧
        clock w'.resource.status.routes = clock w.resource.status.routes) ∨
      ∃ states, reportedStates env w = some states ∧ clock w'.resource.status.routes =
        clockAfter (state states).stage (clock w.resource.status.routes) env.clock.now

def collected (w : World) (routes : Service.ExposedPortRoutes) : Prop :=
  Service.collectExposedPortRoutes w.resource = .ok routes

variable {routes : Service.ExposedPortRoutes} {env : Env} {r : StackResource}

theorem exposed_of_collected {w : World} (h : collected w routes) (hRoutes : routes ≠ {}) :
    w.resource.spec.hasExposedPort = true := by
  cases hExposed : w.resource.spec.hasExposedPort with
  | true => rfl
  | false =>
    unfold collected at h
    rw [Service.collect_of_not_exposed hExposed] at h
    exact absurd (Except.ok.inj h).symm hRoutes

theorem reportedStates_inv {w : World} {states : TLSState × TLSState}
    (hCollect : collected w routes) (h : reportedStates env w = some states) :
    ∃ w₁, Service.reconcilePaths env w.resource routes w = .ok states w₁ := by
  unfold collected at hCollect
  unfold reportedStates at h
  rw [hCollect] at h
  dsimp only at h
  split at h
  · exact ⟨_, eq_ok_of_value h⟩
  · cases h

theorem moves_of_paths (clock : Routes → Option Timestamp)
    (state : TLSState × TLSState → TLSState) {w w' : World} {result : SubReconcilerResult}
    (hCollect : collected w routes) (hRoutes : routes ≠ {})
    (hKept : ∀ w w' : World, Service.certClock w' = Service.certClock w →
      Service.tracking w' = Service.tracking w →
      clock w'.resource.status.routes = clock w.resource.status.routes)
    (hPaths : ∀ states w₁, Service.reconcilePaths env w.resource routes w = .ok states w₁ →
      clock w₁.resource.status.routes =
        clockAfter (state states).stage (clock w.resource.status.routes) env.clock.now)
    (h : Service.reconcile env w = .ok result w') :
    (reportedStates env w = none ∧
        clock w'.resource.status.routes = clock w.resource.status.routes) ∨
      ∃ states, reportedStates env w = some states ∧ clock w'.resource.status.routes =
        clockAfter (state states).stage (clock w.resource.status.routes) env.clock.now := by
  cases Service.stepped_reconcile h with
  | silent hSame hNone =>
    subst hSame
    exact Or.inl ⟨hNone, rfl⟩
  | plain hExposed _ =>
    rw [exposed_of_collected hCollect hRoutes] at hExposed
    cases hExposed
  | routed routes' states w₁ result' hCollect' hRun hReported hAnnounced =>
    cases (Except.ok.inj (hCollect.symm.trans hCollect') : routes = routes')
    obtain ⟨-, hClock, hTracking, -⟩ := (Service.announce_spec states).of_ok rfl hAnnounced
    exact Or.inr ⟨states, hReported, (hKept _ _ hClock hTracking).trans (hPaths states w₁ hRun)⟩

/-- TLS by an issued certificate: in use when hosts need one and the issuer resolves. -/
def certificatePath : TLSPath where
  clock r := r.certManagerTLS.bind CertManagerTLSStatus.waitingSince
  InUse env w := ∃ routes, collected w routes ∧ routes.certManagerHosts ≠ [] ∧
    Service.resolvesIssuer env w.resource w = true
  state := Prod.fst
  clock_stored s := by
    show (s.certManagerTLS.map _).bind _ = (s.certManagerTLS.bind _).map _
    cases s.certManagerTLS with
    | none => rfl
    | some t => rfl
  timed {env w states} hInUse hReported := by
    obtain ⟨routes, hCollect, hHosts, hIssuer⟩ := hInUse
    obtain ⟨w₁, hRun⟩ := reportedStates_inv hCollect hReported
    exact ((Service.reconcilePaths_certificate rfl hHosts hIssuer).of_ok rfl hRun).1
  moves {env w w' result} hInUse h := by
    obtain ⟨routes, hCollect, hHosts, hIssuer⟩ := hInUse
    refine moves_of_paths (fun r => r.certManagerTLS.bind CertManagerTLSStatus.waitingSince)
      Prod.fst hCollect (fun hEq => hHosts (by rw [hEq])) (fun _ _ h _ => h) ?_ h
    intro states w₁ hRun
    exact ((Service.reconcilePaths_certificate rfl hHosts hIssuer).of_ok rfl hRun).2

/-- TLS by the referenced Secret `ref`: in use while it is the one referred to. -/
def referencePath (ref : String) : TLSPath where
  clock r := clockOf ref r.referencedTLSSecret
  InUse _ w := ref ≠ "" ∧ ∃ routes, collected w routes ∧ routes.referencedTLSSecretRef = ref
  state := Prod.snd
  clock_stored s := clockOf_storedTracking ref s.referencedTLSSecret
  timed {env w states} hInUse hReported := by
    obtain ⟨-, routes, hCollect, rfl⟩ := hInUse
    obtain ⟨w₁, hRun⟩ := reportedStates_inv hCollect hReported
    exact ((Service.reconcilePaths_reference rfl (Service.validReference_collect hCollect)).of_ok
      rfl hRun).1
  moves {env w w' result} hInUse h := by
    obtain ⟨hRef, routes, hCollect, rfl⟩ := hInUse
    refine moves_of_paths (fun r => clockOf routes.referencedTLSSecretRef r.referencedTLSSecret)
      Prod.snd hCollect (fun hEq => hRef (by rw [hEq])) (fun _ _ _ h => congrArg (clockOf _) h) ?_ h
    intro states w₁ hRun
    have hMoved := ((Service.reconcilePaths_reference rfl
      (Service.validReference_collect hCollect)).of_ok rfl hRun).2
    unfold trackingAfter at hMoved
    rw [if_neg hRef] at hMoved
    refine (congrArg (clockOf _) hMoved).trans ?_
    unfold clockOf
    dsimp only [Option.bind_some]
    rw [if_pos rfl]
    rfl

/-! ## One pass -/

section

variable (path : TLSPath) (ns name : String)

def TLSPath.clockAt (w : World) : Option Timestamp :=
  (storedStatus ns name w).bind fun s => path.clock s.routes

/-- The path is in use in the service step of a pass, if the pass comes to it. -/
def TLSPath.UsedBy (env : Env) (w : World) : Prop :=
  ∀ r ∈ lookupResource w.cluster ns name, ∀ w₀ ∈ atService env w r, path.InUse env w₀

/-- What a pass reports and records of a path. -/
structure TLSPath.PassClocked (env : Env) (w : World) : Prop where
  timed : ∀ states ∈ tlsStates env ns name w,
    Timed (windowStart (path.clockAt ns name w) env.clock.wall) env.clock.wall (path.state states)
  recorded : PassRan env ns name w → ∀ states ∈ tlsStates env ns name w,
    path.clockAt ns name (resourceStep ns name w (.pass env)) =
      clockAfter (path.state states).stage (path.clockAt ns name w) env.clock.now.stored
  unrecorded : ¬ PassRan env ns name w ∨ tlsStates env ns name w = none →
    path.clockAt ns name (resourceStep ns name w (.pass env)) = path.clockAt ns name w

variable {ns name} {env : Env} {w : World}

theorem clockAt_of_lookup (h : lookupResource w.cluster ns name = some r) :
    path.clockAt ns name w = path.clock r.status.routes := by
  unfold TLSPath.clockAt storedStatus
  rw [h]
  rfl

theorem clock_atService {w₀ : World} (hLookup : lookupResource w.cluster ns name = some r)
    (h : atService env w r = some w₀) :
    path.clock w₀.resource.status.routes = path.clockAt ns name w := by
  rw [clockAt_of_lookup path hLookup, (touches_atService h).routes rfl]
  rfl

theorem tlsStates_of_lookup (h : lookupResource w.cluster ns name = some r) :
    tlsStates env ns name w = (atService env w r).bind (reportedStates env) := by
  unfold tlsStates
  rw [h]
  rfl

variable {path}

/-- A pass that ran moved the clock if it came to the states of the paths, and only then. -/
theorem clockAt_of_ran (hForm : InStoredForm ns name w) (hUsed : path.UsedBy ns name env w)
    (hRan : PassRan env ns name w) :
    (tlsStates env ns name w = none ∧
        path.clockAt ns name (resourceStep ns name w (.pass env)) = path.clockAt ns name w) ∨
      ∃ states, tlsStates env ns name w = some states ∧
        path.clockAt ns name (resourceStep ns name w (.pass env)) =
          clockAfter (path.state states).stage (path.clockAt ns name w) env.clock.now.stored := by
  obtain ⟨r, chainEnd, w₁, status, hLookup, hChain, hStored, hRoutes⟩ := stored_of_ran hForm hRan
  have hBefore := clockAt_of_lookup path hLookup
  have hAfter : path.clockAt ns name (resourceStep ns name w (.pass env)) =
      (path.clock w₁.resource.status.routes).map Timestamp.stored := by
    rw [clockAt_of_lookup path hStored, path.clock_stored, hRoutes]
  have hSame : (path.clockAt ns name w).map Timestamp.stored = path.clockAt ns name w := by
    rw [hBefore, ← path.clock_stored, hForm r hLookup]
  rw [tlsStates_of_lookup hLookup, hAfter]
  rcases chain_atService hChain with ⟨hNone, hTouches⟩ | ⟨w₀, result, hAt, hService⟩
  · refine Or.inl ⟨by rw [hNone]; rfl, ?_⟩
    rw [hTouches.routes rfl]
    exact (congrArg (Option.map Timestamp.stored) hBefore.symm).trans hSame
  · have hStart := clock_atService path hLookup hAt
    rw [hAt, Option.bind_some]
    rcases path.moves (hUsed r hLookup w₀ hAt) hService with ⟨hNone, hMoved⟩ |
      ⟨states, hSome, hMoved⟩
    · exact Or.inl ⟨hNone, by rw [hMoved, hStart, hSame]⟩
    · exact Or.inr ⟨states, hSome, by rw [hMoved, hStart, map_stored_clockAfter, hSame]⟩

theorem passClocked (hForm : InStoredForm ns name w) (hUsed : path.UsedBy ns name env w) :
    path.PassClocked ns name env w where
  timed states hStates := by
    unfold tlsStates at hStates
    obtain ⟨r, hLookup, hStates⟩ := Option.bind_eq_some_iff.mp hStates
    obtain ⟨w₀, hAt, hReported⟩ := Option.bind_eq_some_iff.mp hStates
    rw [← clock_atService path hLookup hAt]
    exact path.timed (hUsed r hLookup w₀ hAt) hReported
  recorded hRan states hStates := by
    rcases clockAt_of_ran hForm hUsed hRan with ⟨hNone, -⟩ | ⟨states', hSome, hMoved⟩
    · cases hNone.symm.trans hStates
    · cases hSome.symm.trans hStates
      exact hMoved
  unrecorded h := by
    by_cases hRan : PassRan env ns name w
    · rcases clockAt_of_ran hForm hUsed hRan with ⟨-, hSame⟩ | ⟨states, hSome, -⟩
      · exact hSame
      · rw [hSome] at h
        exact h.elim (absurd hRan) nofun
    · unfold TLSPath.clockAt
      rw [storedStatus_of_not_ran hRan]

end

/-! ## What a pass that came to the states stores -/

/-- A pass that ran and came to the states of the paths: `w₀` is where the service step
started, `w₁` where the states were known, and `status` is what was stored. -/
structure RoutedPass (env : Env) (ns name : String) (w : World) (states : TLSState × TLSState)
    (r : StackResource) (routes : Service.ExposedPortRoutes) (w₀ w₁ : World)
    (status : StackResourceStatus) : Prop where
  lookup : lookupResource w.cluster ns name = some r
  stored : lookupResource (resourceStep ns name w (.pass env)).cluster ns name =
    some { r with status := status.stored }
  touches : Touches beforeFootprint (started w r) w₀
  collected : Service.collectExposedPortRoutes r = .ok routes
  paths : Service.reconcilePaths env w₀.resource routes w₀ = .ok states w₁
  tracking : status.referencedTLSSecret = Service.tracking w₁
  external : status.externalAddress = Service.buildExternalAddresses env w₀.resource
    routes.allFQDNs states.1.stage states.2.stage

def trackedAt (ns name : String) (w : World) : Option ReferencedTLSSecretStatus :=
  (storedStatus ns name w).bind StackResourceStatus.referencedTLSSecret

section

variable {ns name : String} {env : Env} {w : World} {states : TLSState × TLSState}

theorem trackedAt_of_lookup (h : lookupResource w.cluster ns name = some r) :
    trackedAt ns name w = r.status.referencedTLSSecret := by
  unfold trackedAt storedStatus
  rw [h]
  rfl

theorem routedPass_of_ran (hForm : InStoredForm ns name w) (hRan : PassRan env ns name w)
    (hStates : tlsStates env ns name w = some states) :
    ∃ r routes w₀ w₁ status, RoutedPass env ns name w states r routes w₀ w₁ status := by
  obtain ⟨r, chainEnd, w2, status, hLookup, hChain, hStored, hRoutes⟩ := stored_of_ran hForm hRan
  rw [tlsStates_of_lookup hLookup] at hStates
  obtain ⟨w₀, hAt, hReported⟩ := Option.bind_eq_some_iff.mp hStates
  rcases chain_atService hChain with ⟨hNone, -⟩ | ⟨w₀', result, hAt', hService⟩
  · cases hNone.symm.trans hAt
  cases hAt.symm.trans hAt'
  have hTouches := touches_atService hAt
  cases Service.stepped_reconcile hService with
  | silent _ hNone => cases hNone.symm.trans hReported
  | plain _ hNone => cases hNone.symm.trans hReported
  | routed routes states' w₁ result' hCollect hRun hReported' hAnnounced =>
    cases hReported.symm.trans hReported'
    obtain ⟨-, -, hTracking, hExternal⟩ := (Service.announce_spec states).of_ok rfl hAnnounced
    refine ⟨r, routes, w₀, w₁, status, hLookup, hStored, hTouches, ?_, hRun, ?_, ?_⟩
    · unfold Service.collectExposedPortRoutes at hCollect ⊢
      rw [hTouches.spec] at hCollect
      exact hCollect
    · exact (congrArg Routes.referencedTLSSecret hRoutes).trans hTracking
    · exact (congrArg Routes.externalAddress hRoutes).trans hExternal

/-- The record of the referenced Secret after a pass: forgotten without a reference, and
otherwise that of the reference at hand. -/
theorem trackedAt_of_ran (hForm : InStoredForm ns name w) (hRan : PassRan env ns name w)
    (hStates : tlsStates env ns name w = some states)
    (hLookup : lookupResource w.cluster ns name = some r)
    (hCollect : Service.collectExposedPortRoutes r = .ok routes) :
    trackedAt ns name (resourceStep ns name w (.pass env)) =
      trackingAfter routes.referencedTLSSecretRef states.2.stage (trackedAt ns name w)
        env.clock.now.stored := by
  obtain ⟨r', routes', w₀, w₁, status, hPass⟩ := routedPass_of_ran hForm hRan hStates
  cases hLookup.symm.trans hPass.lookup
  cases Except.ok.inj (hCollect.symm.trans hPass.collected)
  have hBefore := trackedAt_of_lookup hLookup
  have hStart : Service.tracking w₀ = trackedAt ns name w := by
    rw [hBefore]
    exact congrArg Routes.referencedTLSSecret (hPass.touches.routes rfl)
  have hSame : storedTracking (trackedAt ns name w) = trackedAt ns name w := by
    rw [hBefore]
    exact congrArg StackResourceStatus.referencedTLSSecret (hForm r hLookup)
  have hMoved := ((Service.reconcilePaths_reference rfl
    (Service.validReference_collect hCollect)).of_ok rfl hPass.paths).2
  calc trackedAt ns name (resourceStep ns name w (.pass env))
      = storedTracking status.referencedTLSSecret := trackedAt_of_lookup hPass.stored
    _ = storedTracking (trackingAfter routes.referencedTLSSecretRef states.2.stage
          (trackedAt ns name w) env.clock.now) := by rw [hPass.tracking, hMoved, hStart]
    _ = _ := by rw [storedTracking_trackingAfter, hSame]

theorem https_of_ran (hForm : InStoredForm ns name w) (hRan : PassRan env ns name w)
    (hStates : tlsStates env ns name w = some states) {r' : StackResource}
    (hStored : lookupResource (resourceStep ns name w (.pass env)).cluster ns name = some r')
    {address : ExternalAddress} (hMem : address ∈ r'.status.externalAddress)
    (hHttps : Service.isHttps address.address = true) :
    ∃ p ∈ r'.spec.ports, p.number = address.targetPort ∧ p.tls = true ∧
      Service.stageOf states.1.stage states.2.stage p = .ready := by
  obtain ⟨r, routes, w₀, w₁, status, hPass⟩ := routedPass_of_ran hForm hRan hStates
  cases hPass.stored.symm.trans hStored
  have hBuilt : address ∈ Service.buildExternalAddresses env w₀.resource routes.allFQDNs
      states.1.stage states.2.stage := hPass.external ▸ hMem
  have hSpec : w₀.resource.spec = r.spec := hPass.touches.spec
  rw [← hSpec]
  exact Service.https_of_ready hBuilt hHttps

end

/-! ## Runs -/

/-- How the record of a referenced Secret moves in a pass that sees it in `stage`: the clock
runs on, or it restarts because the reference changed, was ready or was cleared before. -/
inductive ReferenceClock (ref : String) (stage : TLSStage) (now : Timestamp)
    (before after : Option ReferencedTLSSecretStatus) : Prop
  | cleared (hRef : ref = "") (hAfter : after = none)
  | ready (hRef : ref ≠ "") (hStage : stage = .ready) (hAfter : after = some ⟨ref, none⟩)
  | runsOn (hRef : ref ≠ "") (hStage : stage ≠ .ready) (since : Timestamp)
      (hBefore : before = some ⟨ref, some since⟩) (hAfter : after = before)
  | restarts (hRef : ref ≠ "") (hStage : stage ≠ .ready)
      (hBefore : before = none ∨ (∃ t, before = some t ∧ t.reference ≠ ref) ∨
        before = some ⟨ref, none⟩)
      (hAfter : after = some ⟨ref, some now⟩)

theorem referenceClock_trackingAfter {ref : String} {stage : TLSStage} {now : Timestamp}
    {before : Option ReferencedTLSSecretStatus} :
    ReferenceClock ref stage now before (trackingAfter ref stage before now) := by
  by_cases hRef : ref = ""
  · exact .cleared hRef (if_pos hRef)
  have hAfter : trackingAfter ref stage before now =
      some ⟨ref, clockAfter stage (clockOf ref before) now⟩ := if_neg hRef
  by_cases hStage : stage = .ready
  · refine .ready hRef hStage ?_
    rw [hAfter, clockAfter, if_pos hStage]
  · rw [clockAfter, if_neg hStage] at hAfter
    cases before with
    | none => exact .restarts hRef hStage (Or.inl rfl) hAfter
    | some t =>
      obtain ⟨reference, waitingSince⟩ := t
      by_cases hSame : reference = ref
      · subst hSame
        have hClock : clockOf reference (some ⟨reference, waitingSince⟩) = waitingSince :=
          if_pos rfl
        rw [hClock] at hAfter
        cases waitingSince with
        | none => exact .restarts hRef hStage (Or.inr (Or.inr rfl)) hAfter
        | some since => exact .runsOn hRef hStage since rfl hAfter
      · have hClock : clockOf ref (some ⟨reference, waitingSince⟩) = none := if_neg hSame
        rw [hClock] at hAfter
        exact .restarts hRef hStage (Or.inr (Or.inl ⟨_, rfl, hSame⟩)) hAfter

section

variable (path : TLSPath) (ns name : String)

/-- The path is in use in every pass, and none finds it ready. -/
def TLSPath.Pending (w : World) : ResourceEvent → Prop
  | .pass env => path.UsedBy ns name env w ∧
    ∀ states ∈ tlsStates env ns name w, (path.state states).stage ≠ .ready
  | .edit _ _ | .elsewhere _ _ => True

/-- What holds of a path along a run and in a pass after it. -/
structure TLSPath.Clocked (w : World) (events : List ResourceEvent) (env : Env) : Prop where
  /-- A clock that was set does not move while the path is pending. -/
  kept : ∀ since, path.clockAt ns name w = some since →
    Runs.Admitted (resourceStep ns name) (path.Pending ns name) w events →
    path.clockAt ns name (Runs.run (resourceStep ns name) w events) = some since
  /-- The pass after the run reports by the clock and moves it. -/
  pass : path.UsedBy ns name env (Runs.run (resourceStep ns name) w events) →
    path.PassClocked ns name env (Runs.run (resourceStep ns name) w events)
  /-- After a pass beyond the deadline, a pending path does not wait again. -/
  expired : ∀ since, path.clockAt ns name w = some since →
    Runs.Admitted (resourceStep ns name) (path.Pending ns name) w events →
    ∀ env₀, .pass env₀ ∈ events → since.wall + tlsGracePeriod ≤ env₀.clock.wall →
    path.UsedBy ns name env (Runs.run (resourceStep ns name) w events) →
    ∀ states ∈ tlsStates env ns name (Runs.run (resourceStep ns name) w events),
      (path.state states).stage ≠ .waiting

variable {path ns name} {w : World}

theorem clockAt_resourceStep {since : Timestamp} (event : ResourceEvent)
    (hPending : path.Pending ns name w event) (hForm : InStoredForm ns name w)
    (hClock : path.clockAt ns name w = some since) :
    path.clockAt ns name (resourceStep ns name w event) = some since := by
  have hOther : storedStatus ns name (resourceStep ns name w event) = storedStatus ns name w →
      path.clockAt ns name (resourceStep ns name w event) = some since := by
    intro hSame
    unfold TLSPath.clockAt at hClock ⊢
    rw [hSame, hClock]
  cases event with
  | pass env =>
    have hPass := passClocked hForm hPending.1
    cases hStates : tlsStates env ns name w with
    | none => rw [hPass.unrecorded (Or.inr hStates), hClock]
    | some states =>
      by_cases hRan : PassRan env ns name w
      · rw [hPass.recorded hRan states hStates, hClock, clockAfter,
          if_neg (hPending.2 states hStates), Option.getD_some]
      · rw [hPass.unrecorded (Or.inl hRan), hClock]
  | edit metadata spec => exact hOther (storedStatus_of_not_pass fun _ => nofun)
  | elsewhere cluster verifier => exact hOther (storedStatus_of_not_pass fun _ => nofun)

theorem le_of_passTimes {events : List ResourceEvent} {env0 : Env}
    (hClock : (passTimes (events ++ [.pass env])).Pairwise (· ≤ ·)) (h : .pass env0 ∈ events) :
    env0.clock.wall ≤ env.clock.wall := by
  unfold passTimes at hClock
  rw [List.filterMap_append, List.pairwise_append] at hClock
  refine hClock.2.2 _ (List.mem_filterMap.mpr ⟨_, h, rfl⟩) _ ?_
  exact List.mem_cons_self

theorem clocked_run (hForm : InStoredForm ns name w) {events : List ResourceEvent}
    (hClock : (passTimes (events ++ [.pass env])).Pairwise (· ≤ ·)) :
    path.Clocked ns name w events env := by
  have hEnd := inStoredForm_run hForm events
  have hKept : ∀ since, path.clockAt ns name w = some since →
      Runs.Admitted (resourceStep ns name) (path.Pending ns name) w events →
      path.clockAt ns name (Runs.run (resourceStep ns name) w events) = some since := by
    intro since hSince hPending
    refine (Runs.run_admitted (I := fun w => InStoredForm ns name w ∧
      path.clockAt ns name w = some since) (fun w event hStep h => ?_) hPending
      ⟨hForm, hSince⟩).2
    exact ⟨inStoredForm_resourceStep h.1 event, clockAt_resourceStep event hStep h.1 h.2⟩
  refine ⟨hKept, passClocked hEnd, ?_⟩
  intro since hSince hPending env0 hMem hLate hUsed states hStates hWaiting
  have hTimed := (passClocked hEnd hUsed).timed states hStates
  rw [hKept since hSince hPending] at hTimed
  have hBefore : env.clock.wall < since.wall + tlsGracePeriod := hTimed.waiting hWaiting
  have hAfter := le_of_passTimes hClock hMem
  omega

end

/-- Over any run of passes with a clock that does not go back, with arbitrary failures, edits and
changes elsewhere: while the certificate path is in use and not ready its clock is set once and
stands, it waits only within the grace period from there, asks to be seen again exactly while it
waits and after what is left, and does not wait again once a pass was beyond the deadline. The
same holds for each referenced Secret, whose record moves as `ReferenceClock` says; and an
`https://` address is published only for a port whose path is ready. -/
theorem tls_waits_once {ns name : String} {w : World} (hForm : InStoredForm ns name w)
    {events : List ResourceEvent} {env : Env}
    (hClock : (passTimes (events ++ [.pass env])).Pairwise (· ≤ ·)) :
    let w₁ := Runs.run (resourceStep ns name) w events
    let w2 := resourceStep ns name w₁ (.pass env)
    certificatePath.Clocked ns name w events env ∧
    (∀ ref, (referencePath ref).Clocked ns name w events env) ∧
    ∀ states ∈ tlsStates env ns name w₁, PassRan env ns name w₁ →
      (∀ r ∈ lookupResource w₁.cluster ns name, ∀ routes,
        Service.collectExposedPortRoutes r = .ok routes →
        ReferenceClock routes.referencedTLSSecretRef states.2.stage env.clock.now.stored
          (trackedAt ns name w₁) (trackedAt ns name w2)) ∧
      ∀ r ∈ lookupResource w2.cluster ns name, ∀ address ∈ r.status.externalAddress,
        Service.isHttps address.address = true →
        ∃ p ∈ r.spec.ports, p.number = address.targetPort ∧ p.tls = true ∧
          Service.stageOf states.1.stage states.2.stage p = .ready := by
  intro w₁ w2
  have hEnd : InStoredForm ns name w₁ := inStoredForm_run hForm events
  refine ⟨clocked_run hForm hClock, fun ref => clocked_run hForm hClock, ?_⟩
  intro states hStates hRan
  refine ⟨fun r hLookup routes hCollect => ?_, fun r hStored address hMem hHttps => ?_⟩
  · rw [trackedAt_of_ran hEnd hRan hStates hLookup hCollect]
    exact referenceClock_trackingAfter
  · exact https_of_ran hEnd hRan hStates hStored hMem hHttps

def shopFront : StackResource where
  metadata :=
    { name := "front", ns := "shop", uid := "u1", generation := 1
      annotations := [(clusterIssuerAnnotationKey, "issuer")] }
  spec :=
    { imageSpec := some { image := "front:1" }
      ports := [{ name := "https", number := 443, exposeToPublic := true, fqdn := "shop.test"
                  tls := true }] }

def frontEnv (n : Int) : Env :=
  { ObjectPass.quietEnv with clock := { wall := n * second, monotonic := 0 } }

def rolledOut (deployment : Deployment) : Deployment :=
  { deployment with
    status :=
      { observedGeneration := deployment.generation
        replicas := 1, updatedReplicas := 1, readyReplicas := 1, availableReplicas := 1
        conditions := [{ type := .available, status := .conditionTrue, reason := "" }] } }

def uncertifiedShop : World :=
  let w := resourceStep "shop" "front"
    { cluster :=
        { stackResources := [shopFront]
          clusterIssuers := [{ metadata := { name := "issuer" }, spec := (), status := () }] }
      resource := shopFront } (.pass (frontEnv 0))
  { w with cluster.deployments := w.cluster.deployments.map rolledOut }

theorem tls_waits_once_shop :
    (tlsStates (frontEnv 65) "shop" "front" (Runs.run (resourceStep "shop" "front") uncertifiedShop
      [.pass (frontEnv 5)])).map (fun states => (states.1.stage, states.1.retryAfter)) =
        some (.waiting, minute) ∧
    certificatePath.Clocked "shop" "front" uncertifiedShop [.pass (frontEnv 5)] (frontEnv 65) :=
  ⟨by decide +kernel, (tls_waits_once (by decide +kernel) (by decide +kernel)).1⟩

end ClusterAgent.StackResourceController
