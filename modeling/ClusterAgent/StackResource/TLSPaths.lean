import ClusterAgent.StackResource.IngressRoutes

/-!
# Cluster agent — the clocks of the two TLS paths

A public port waits for its TLS on one of two paths, an issued certificate or a
referenced Secret, and each path keeps the start of its waiting window in the
status. This module says what one run of the service step reports and records:

* `Timed` — a path waits inside its window only, and asks to be seen again
  exactly then, after what is left of it;
* `clockAfter`, `trackingAfter` — the clock of a path after the step: stopped
  when the path is ready, kept while it runs, started otherwise;
* `reconcilePaths`, `announce` — the step cut where the states of both paths are
  known; `reconcilePaths_certificate` and `reconcilePaths_reference` say what
  they are, `announce_spec` what is published from them.
-/

namespace ClusterAgent.Service

open Pass Effect

/-! ## The waiting window -/

def windowStart (since : Option Timestamp) (now : Int) : Int :=
  (since.map Timestamp.wall).getD now

/-- What a path reports goes with a window that began at `start`: it waits only within the grace
period from there, and asks to be seen again, after what is left of it, exactly while it waits. -/
structure Timed (start now : Int) (state : TLSState) : Prop where
  waiting : state.stage = .waiting → now < start + tlsGracePeriod
  retry : 0 < state.retryAfter ↔ state.stage = .waiting
  left : state.stage = .waiting → state.retryAfter = start + tlsGracePeriod - now

theorem remainingTLSGracePeriod_eq (since : Option Timestamp) (now : Int) :
    remainingTLSGracePeriod since now =
      max 0 (windowStart since now + tlsGracePeriod - now) := by
  have hGrace : tlsGracePeriod = 120000000000 := by decide
  unfold remainingTLSGracePeriod windowStart
  cases since with
  | none =>
    simp only [Option.map_none, Option.getD_none]
    omega
  | some since =>
    simp only [Option.map_some, Option.getD_some]
    omega

theorem timed_of_not_waiting {start now : Int} {state : TLSState} (hStage : state.stage ≠ .waiting)
    (hRetry : state.retryAfter = 0) : Timed start now state := by
  refine ⟨fun h => absurd h hStage, ⟨fun h => ?_, fun h => absurd h hStage⟩,
    fun h => absurd h hStage⟩
  rw [hRetry] at h
  exact absurd h (lt_irrefl 0)

theorem timed_of_waiting {since : Option Timestamp} {now : Int} {state : TLSState}
    (hStage : state.stage = .waiting) (hOpen : remainingTLSGracePeriod since now ≠ 0)
    (hRetry : state.retryAfter = remainingTLSGracePeriod since now) :
    Timed (windowStart since now) now state := by
  rw [remainingTLSGracePeriod_eq] at hOpen hRetry
  refine ⟨fun _ => ?_, ⟨fun _ => hStage, fun _ => ?_⟩, fun _ => ?_⟩
  · omega
  · omega
  · omega

theorem timed_classifyPending {issuingMsg : String} {since : Option Timestamp} {now : Int} :
    Timed (windowStart since now) now (classifyPending issuingMsg since now) := by
  unfold classifyPending
  dsimp only
  split
  · exact timed_of_not_waiting (fun h => nomatch h) rfl
  · next hOpen => exact timed_of_waiting rfl hOpen rfl

theorem timed_classifyCertificate {cert : Option Certificate} {since : Option Timestamp}
    {now : Int} : Timed (windowStart since now) now (classifyCertificate cert since now) := by
  unfold classifyCertificate
  split
  · exact timed_classifyPending
  · dsimp only
    split
    · exact timed_of_not_waiting (fun h => nomatch h) rfl
    · split
      · exact timed_of_not_waiting (fun h => nomatch h) rfl
      · exact timed_classifyPending

theorem classifyCertificate_ne_none {cert : Option Certificate} {since : Option Timestamp}
    {now : Int} : (classifyCertificate cert since now).stage ≠ .none := by
  have hPending : ∀ issuingMsg, (classifyPending issuingMsg since now).stage ≠ .none := by
    intro issuingMsg
    unfold classifyPending
    dsimp only
    split
    · nofun
    · nofun
  unfold classifyCertificate
  split
  · exact hPending _
  · dsimp only
    split
    · nofun
    · split
      · nofun
      · exact hPending _

theorem timed_referencedTLSStatusWhileBlocked {env : Env} (resource : StackResource)
    (ref message : String) :
    Timed (windowStart (referencedTLSSecretPendingSince resource ref) env.clock.wall)
      env.clock.wall (referencedTLSStatusWhileBlocked env resource ref message) := by
  unfold referencedTLSStatusWhileBlocked
  dsimp only
  split
  · exact timed_of_not_waiting (fun h => nomatch h) rfl
  · next hOpen => exact timed_of_waiting rfl hOpen rfl

/-! ## The clocks -/

def clockAfter (stage : TLSStage) (since : Option Timestamp) (now : Timestamp) :
    Option Timestamp :=
  if stage = .ready then none else some (since.getD now)

/-- The clock that runs for a reference: another reference's clock does not count. -/
def clockOf (ref : String) (tracked : Option ReferencedTLSSecretStatus) : Option Timestamp :=
  tracked.bind fun t => if t.reference = ref then t.waitingSince else none

/-- What is recorded about a referenced Secret after it was seen in `stage`; an absent
reference is forgotten. -/
def trackingAfter (ref : String) (stage : TLSStage) (before : Option ReferencedTLSSecretStatus)
    (now : Timestamp) : Option ReferencedTLSSecretStatus :=
  if ref = "" then none else some ⟨ref, clockAfter stage (clockOf ref before) now⟩

theorem referencedTLSSecretPendingSince_eq (resource : StackResource) (ref : String) :
    referencedTLSSecretPendingSince resource ref =
      clockOf ref resource.status.referencedTLSSecret := by
  unfold referencedTLSSecretPendingSince clockOf
  cases resource.status.referencedTLSSecret with
  | none => rfl
  | some t =>
    dsimp only [Option.bind_some]
    rw [ite_not]

/-! ## The certificate path -/

theorem certClock_of_routes (w w' : World)
    (h : w'.resource.status.routes = w.resource.status.routes) : certClock w' = certClock w :=
  congrArg (fun r : Routes => r.certManagerTLS.bind CertManagerTLSStatus.waitingSince) h

theorem tracking_of_routes (w w' : World)
    (h : w'.resource.status.routes = w.resource.status.routes) : tracking w' = tracking w :=
  congrArg Routes.referencedTLSSecret h

theorem spares_of_has {τ α : Type} {f : World → τ} {fp : Footprint} {m : Pass α}
    (hf : ∀ w w' : World, w'.resource.status.routes = w.resource.status.routes → f w' = f w)
    (hm : Has fp m) (hRoutes : fp.routes = false) : Within (Spares f) m :=
  hm.mono fun w w' h => hf w w' (h.routes hRoutes)

section

variable (env : Env) {resource : StackResource} {w : World}

theorem updateCertManagerTLSStatus_clock {status : TLSState} (hStage : status.stage ≠ .none) :
    Returns (· = w) (updateCertManagerTLSStatus env status)
      (fun _ w' => certClock w' = clockAfter status.stage (certClock w) env.clock.now) := by
  refine .modify fun w' hw => ?_
  rw [hw]
  unfold certClock certManagerTLSPendingSince clockAfter
  dsimp only
  by_cases hReady : status.stage = .ready
  · rw [if_pos (Or.inr hReady), if_pos hReady]
    rfl
  · rw [if_neg (not_or.mpr ⟨hStage, hReady⟩), if_neg hReady]
    cases hSince : w.resource.status.certManagerTLS.bind CertManagerTLSStatus.waitingSince with
    | some since => exact hSince
    | none => rfl

theorem updateCertManagerTLSStatus_spares {status : TLSState} :
    Within (Spares tracking) (updateCertManagerTLSStatus env status) := by
  refine .modify fun w => ?_
  unfold Spares tracking
  dsimp only
  split
  · rfl
  · split
    · rfl
    · rfl

theorem reconcileIngressCR_spares {τ : Type} {f : World → τ}
    (hf : ∀ w w' : World, w'.resource.status.routes = w.resource.status.routes → f w' = f w)
    (resource : StackResource) (name : String) (rules : List IngressRule) (annotations : StringMap)
    (tls : List IngressTLS) :
    Within (Spares f) (reconcileIngressCR env resource name rules annotations tls) := by
  have hHas : Has { objects := [.ingress] }
      (reconcileIngressCR env resource name rules annotations tls) :=
    has_reconcileIngressCR List.mem_cons_self
  exact spares_of_has hf hHas rfl

/-- **The certificate path.** With hosts that need a certificate and an issuer to ask, the
path reports by its clock and moves it. -/
theorem reconcileCertManagerIngress_clock {routes : ExposedPortRoutes} {issuer : String}
    (hSame : certClock w = certManagerTLSPendingSince resource)
    (hHosts : routes.certManagerHosts ≠ [])
    (hIssuer : value (resolveClusterIssuer env resource.metadata.annotations w) =
      some (.ok issuer)) (svc : Service) :
    Returns (· = w) (reconcileCertManagerIngress env resource svc routes)
      (fun cert w' => Timed (windowStart (certClock w) env.clock.wall) env.clock.wall cert ∧
        certClock w' = clockAfter cert.stage (certClock w) env.clock.now) := by
  have hLength : ¬ routes.certManagerHosts.length = 0 :=
    fun h => hHosts (List.length_eq_zero_iff.mp h)
  unfold reconcileCertManagerIngress
  dsimp only
  rw [if_neg hLength]
  refine .after (eq_ok_of_value hIssuer) ?_
  dsimp only
  -- looking for the issuer leaves the clock
  have hResolved : certClock
      (finalState (resolveClusterIssuer env resource.metadata.annotations w)) = certClock w := by
    have hHas : Has {} (resolveClusterIssuer env resource.metadata.annotations) :=
      has_resolveClusterIssuer
    exact spares_of_has certClock_of_routes hHas rfl w
  generalize finalState (resolveClusterIssuer env resource.metadata.annotations w) = w1 at hResolved
  -- the certificate is judged by the clock the pass has started with
  have hState : Returns (· = w1) (getCertManagerTLSState env resource)
      (fun cert w2 => (Timed (windowStart (certClock w) env.clock.wall) env.clock.wall cert ∧
        cert.stage ≠ .none) ∧ certClock w2 = certClock w) := by
    refine bind_getObject (fun _ _ => trivial) fun w2 hReads => .pure ?_
    rintro _ rfl
    obtain ⟨calls, rfl⟩ := hReads
    rw [hSame]
    exact ⟨⟨timed_classifyCertificate, classifyCertificate_ne_none⟩,
      hResolved.trans hSame⟩
  refine .bind hState fun cert => .of_each fun w2 ⟨⟨hTimed, hUsed⟩, hClock⟩ => ?_
  refine .bind (updateCertManagerTLSStatus_clock env hUsed) fun _ => ?_
  rw [hClock]
  refine .bind (R := fun _ w' => certClock w' = clockAfter cert.stage (certClock w)
    env.clock.now) ?_ fun _ => .pure fun _ h => ⟨hTimed, h⟩
  -- the Ingress is written after the clock and does not touch it
  exact ((reconcileIngressCR_spares env certClock_of_routes _ _ _ _ _).triple
    fun _ _ h' h => Eq.trans h' h).anyError

theorem reconcileCertManagerIngress_spares (resource : StackResource) (svc : Service)
    (routes : ExposedPortRoutes) :
    Within (Spares tracking) (reconcileCertManagerIngress env resource svc routes) := by
  unfold reconcileCertManagerIngress
  dsimp only
  have hApply := fun rules annotations tls => reconcileIngressCR_spares env tracking_of_routes
    resource (httpProxyNameForResource resource.name) rules annotations tls
  have hResolve : Has {} (resolveClusterIssuer env resource.metadata.annotations) :=
    has_resolveClusterIssuer
  have hState : Has {} (getCertManagerTLSState env resource) :=
    .bind has_getObject fun _ => .pure
  split
  · exact .bind (updateCertManagerTLSStatus_spares env) fun _ =>
      .bind (hApply _ _ _) fun _ => .pure
  · refine .bind (spares_of_has tracking_of_routes hResolve rfl) fun issuer => ?_
    split
    · exact .bind (updateCertManagerTLSStatus_spares env) fun _ =>
        .bind (hApply _ _ _) fun _ => .pure
    · exact .bind (spares_of_has tracking_of_routes hState rfl) fun status =>
        .bind (updateCertManagerTLSStatus_spares env) fun _ =>
        .bind (hApply _ _ _) fun _ => .pure

end

/-! ## The path of the referenced Secret -/

section

variable {env : Env} {resource : StackResource} {w : World}

theorem updateReferencedTLSSecretStatus_clock {ref : String} (hRef : ref ≠ "")
    {status : TLSState} :
    Returns (· = w) (updateReferencedTLSSecretStatus env ref status)
      (fun _ w' => tracking w' = trackingAfter ref status.stage (tracking w) env.clock.now) := by
  refine .modify fun w' hw => ?_
  rw [hw]
  have hClock : clockOf ref (tracking w) = referencedTLSSecretPendingSince w.resource ref :=
    (referencedTLSSecretPendingSince_eq w.resource ref).symm
  unfold trackingAfter
  rw [if_neg hRef, hClock]
  rfl

/-- **The path of the referenced Secret** reports by the clock of its reference and moves it. -/
theorem reconcileReferencedTLSSecret_clock {ref : String}
    (hSame : tracking w = resource.status.referencedTLSSecret)
    (hValid : ref = "" ∨ isDNS1123Subdomain ref = true) :
    Returns (· = w) (reconcileReferencedTLSSecret env resource ref)
      (fun refs w' =>
        Timed (windowStart (clockOf ref (tracking w)) env.clock.wall) env.clock.wall refs ∧
        tracking w' = trackingAfter ref refs.stage (tracking w) env.clock.now) := by
  unfold reconcileReferencedTLSSecret
  -- without a reference the tracking is dropped, and nothing is waited for
  by_cases hRef : ref = ""
  · rw [if_pos hRef]
    refine .bind (R := fun _ w' => tracking w' = none) (.modify fun _ _ => rfl)
      fun _ => .pure fun w' h => ⟨timed_of_not_waiting (fun h => nomatch h) rfl, ?_⟩
    unfold trackingAfter
    rw [h, if_pos hRef]
  · have hName : isDNS1123Subdomain ref = true := hValid.resolve_left hRef
    rw [if_neg hRef, hName, if_neg (by decide)]
    have hMirror : ∀ sourceNamespace, Has { objects := [.secret] }
        (mirrorTLSSecret env resource ref sourceNamespace) :=
      fun _ => has_mirrorTLSSecret List.mem_cons_self
    refine .bind (((spares_of_has tracking_of_routes (hMirror _) rfl).leads w).anyError)
      fun answer =>
      .of_each fun w1 hMirrored => ?_
    obtain ⟨ready, message⟩ := answer
    dsimp only
    refine .bind (updateReferencedTLSSecretStatus_clock hRef) fun _ =>
      .pure fun w' h => ⟨?_, h.trans (by rw [show tracking w1 = tracking w from hMirrored])⟩
    -- only a blocked Secret is timed
    cases ready with
    | true => exact timed_of_not_waiting (fun h => nomatch h) rfl
    | false =>
      rw [hSame, ← referencedTLSSecretPendingSince_eq resource ref]
      exact timed_referencedTLSStatusWhileBlocked resource ref message

theorem reconcileReferencedTLSIngress_clock {routes : ExposedPortRoutes}
    (hSame : tracking w = resource.status.referencedTLSSecret)
    (hValid : routes.referencedTLSSecretRef = "" ∨
      isDNS1123Subdomain routes.referencedTLSSecretRef = true) (svc : Service) :
    Returns (· = w) (reconcileReferencedTLSIngress env resource svc routes)
      (fun refs w' =>
        Timed (windowStart (clockOf routes.referencedTLSSecretRef (tracking w)) env.clock.wall)
          env.clock.wall refs ∧
        tracking w' =
          trackingAfter routes.referencedTLSSecretRef refs.stage (tracking w) env.clock.now) := by
  refine .bind (reconcileReferencedTLSSecret_clock hSame hValid) fun refs =>
    .of_each fun w1 ⟨hTimed, hTracking⟩ => ?_
  refine .bind (((reconcileIngressCR_spares env tracking_of_routes _ _ _ _ _).leads w1).anyError)
    fun _ => .pure fun w' h => ?_
  exact ⟨hTimed, Eq.trans h hTracking⟩

theorem reconcileReferencedTLSIngress_spares (resource : StackResource) (svc : Service)
    (routes : ExposedPortRoutes) :
    Within (Spares certClock) (reconcileReferencedTLSIngress env resource svc routes) := by
  refine .bind ?_ fun refs => .bind
    (reconcileIngressCR_spares env certClock_of_routes _ _ _ _ _) fun _ => .pure
  unfold reconcileReferencedTLSSecret
  split
  · exact .bind (.modify fun _ => rfl) fun _ => .pure
  · split
    · exact .pure
    · have hMirror : ∀ sourceNamespace, Has { objects := [.secret] } (mirrorTLSSecret env resource
          routes.referencedTLSSecretRef sourceNamespace) :=
        fun _ => has_mirrorTLSSecret List.mem_cons_self
      exact .bind (spares_of_has certClock_of_routes (hMirror _) rfl) fun answer =>
        .bind (.modify fun _ => rfl) fun _ => .pure

end

/-! ## The step, cut where the states are known -/

def reconcilePaths (env : Env) (resource : StackResource) (routes : ExposedPortRoutes) :
    Pass (TLSState × TLSState) := do
  let svc ← ensureService env resource
  modifyStatus fun s => { s with internalAddress := some svc.name }
  reconcileIngress env resource svc routes

/-- The issuer resolves, if the step asks for it. -/
def resolvesIssuer (env : Env) (resource : StackResource) (w : World) : Bool :=
  let answer : Pass (Except (String × String) String) := do
    let svc ← ensureService env resource
    modifyStatus fun s => { s with internalAddress := some svc.name }
    resolveClusterIssuer env resource.metadata.annotations
  match value (answer w) with
  | some (.error _) => false
  | some (.ok _) | none => true

section

variable {env : Env} {resource : StackResource} {routes : ExposedPortRoutes} {w : World}

theorem reconcileRoutes_eq (hExposed : resource.spec.hasExposedPort = true) :
    reconcileRoutes env resource routes =
      reconcilePaths env resource routes >>= announce env resource routes := by
  unfold reconcileRoutes reconcilePaths publish
  rw [hExposed]
  simp only [bind_assoc, Bool.not_true, Bool.false_eq_true, if_false]
  rfl

theorem reconcilePaths_rule {Q : TLSState × TLSState → World → Prop}
    (h : ∀ svc w1, resolvesIssuer env resource w =
        (match value (resolveClusterIssuer env resource.metadata.annotations w1) with
        | some (.error _) => false
        | some (.ok _) | none => true) →
      certClock w1 = certClock w → tracking w1 = tracking w →
      Returns (· = w1) (reconcileIngress env resource svc routes) Q) :
    Returns (· = w) (reconcilePaths env resource routes) Q := by
  have hHas : Has { objects := [.service] } (ensureService env resource) :=
    has_ensureService List.mem_cons_self resource
  refine .bind (.runs w) fun svc => .of_each fun w1 hRun => ?_
  have hTouches := hHas.ok hRun
  refine .after rfl (h svc _ ?_ ?_ ?_)
  · unfold resolvesIssuer
    dsimp only
    rw [bind_of_ok hRun]
    rfl
  · exact certClock_of_routes w w1 (hTouches.routes rfl)
  · exact tracking_of_routes w w1 (hTouches.routes rfl)

theorem reconcilePaths_certificate (hSame : certClock w = certManagerTLSPendingSince resource)
    (hHosts : routes.certManagerHosts ≠ []) (hIssuer : resolvesIssuer env resource w = true) :
    Returns (· = w) (reconcilePaths env resource routes)
      (fun states w' =>
        Timed (windowStart (certClock w) env.clock.wall) env.clock.wall states.1 ∧
        certClock w' = clockAfter states.1.stage (certClock w) env.clock.now) := by
  -- the Service comes first; it changes neither the issuer nor the clock
  refine reconcilePaths_rule fun svc w1 hAnswer hClock _ => ?_
  rw [hIssuer] at hAnswer
  -- an issuer that resolves is the case at hand
  cases hRun : resolveClusterIssuer env resource.metadata.annotations w1 with
  | error e w2 => exact (resolveClusterIssuer_spec.of_error rfl hRun).elim
  | ok answer w2 =>
    rw [hRun] at hAnswer
    cases answer with
    | error e => cases hAnswer
    | ok issuer =>
      rw [← hClock]
      refine .bind (reconcileCertManagerIngress_clock env (hClock.trans hSame) hHosts
        (congrArg value hRun) svc) fun cert => .of_each fun w2 ⟨hTimed, hMoved⟩ => ?_
      -- the other path and the conclusion leave this path's clock
      refine .bind (((reconcileReferencedTLSIngress_spares resource svc routes).leads
        w2).anyError) fun refs =>
        .of_each fun w3 hSpared => ?_
      refine (concludePaths_spec cert refs).post fun states w' h => ?_
      obtain ⟨hTouches, rfl⟩ := h
      have hKept := certClock_of_routes w3 w' (hTouches.routes rfl)
      exact ⟨hTimed, hKept.trans (Eq.trans hSpared hMoved)⟩

theorem reconcilePaths_reference (hSame : tracking w = resource.status.referencedTLSSecret)
    (hValid : routes.referencedTLSSecretRef = "" ∨
      isDNS1123Subdomain routes.referencedTLSSecretRef = true) :
    Returns (· = w) (reconcilePaths env resource routes)
      (fun states w' =>
        Timed (windowStart (clockOf routes.referencedTLSSecretRef (tracking w)) env.clock.wall)
          env.clock.wall states.2 ∧
        tracking w' =
          trackingAfter routes.referencedTLSSecretRef states.2.stage (tracking w)
            env.clock.now) := by
  refine reconcilePaths_rule fun svc w1 _ _ hTracking => ?_
  refine .bind (((reconcileCertManagerIngress_spares env resource svc routes).leads
    w1).anyError) fun cert =>
    .of_each fun w2 hSpared => ?_
  have hSame2 : tracking w2 = tracking w := Eq.trans hSpared hTracking
  rw [← hSame2]
  refine .bind (reconcileReferencedTLSIngress_clock (hSame2.trans hSame) hValid svc)
    fun refs => .of_each fun w3 ⟨hTimed, hMoved⟩ => ?_
  refine (concludePaths_spec cert refs).post fun states w' h => ?_
  obtain ⟨hTouches, rfl⟩ := h
  exact ⟨hTimed, (tracking_of_routes w3 w' (hTouches.routes rfl)).trans hMoved⟩

end

/-! ## Which resources have a path in use -/

/-- A reference is empty or a name that a Secret can have. -/
def ValidReference (ref : String) : Prop := ref = "" ∨ isDNS1123Subdomain ref = true

theorem validReference_addRoute {acc routes : ExposedPortRoutes} {p : Port}
    (hAcc : ValidReference acc.referencedTLSSecretRef) (h : addRoute acc p = .ok routes) :
    ValidReference routes.referencedTLSSecretRef := by
  unfold addRoute at h
  dsimp only at h
  split at h
  · cases h
    exact hAcc
  · split at h
    · next ref hRef =>
      split at h
      · cases h
      · cases h
        unfold portReferencedTLSSecretRef at hRef
        split at hRef
        · next hValid =>
          cases hRef
          exact Or.inr (Bool.and_eq_true_iff.mp hValid).2
        · cases hRef
    · cases h
      exact hAcc

theorem validReference_collect {resource : StackResource} {routes : ExposedPortRoutes}
    (h : collectExposedPortRoutes resource = .ok routes) :
    ValidReference routes.referencedTLSSecretRef := by
  have hFold : ∀ (ports : List Port) (acc : ExposedPortRoutes),
      ValidReference acc.referencedTLSSecretRef → ports.foldlM addRoute acc = .ok routes →
      ValidReference routes.referencedTLSSecretRef := by
    intro ports
    induction ports with
    | nil =>
      intro acc hAcc hRun
      cases hRun
      exact hAcc
    | cons p rest ih =>
      intro acc hAcc hRun
      rw [List.foldlM_cons] at hRun
      cases hStep : addRoute acc p with
      | error e =>
        rw [hStep] at hRun
        cases hRun
      | ok next =>
        rw [hStep] at hRun
        exact ih next (validReference_addRoute hAcc hStep) hRun
  exact hFold _ _ (Or.inl rfl) h

theorem collect_of_not_exposed {resource : StackResource}
    (h : resource.spec.hasExposedPort = false) : collectExposedPortRoutes resource = .ok {} := by
  have hFold : ∀ (ports : List Port) (acc : ExposedPortRoutes),
      ports.any Port.exposeToPublic = false → ports.foldlM addRoute acc = .ok acc := by
    intro ports
    induction ports with
    | nil =>
      intro acc _
      rfl
    | cons p rest ih =>
      intro acc hNone
      rw [List.any_cons, Bool.or_eq_false_iff] at hNone
      have hSkip : addRoute acc p = .ok acc := by
        unfold addRoute
        rw [hNone.1]
        rfl
      rw [List.foldlM_cons, hSkip]
      exact ih acc hNone.2
  exact hFold _ _ h

/-- What both paths report when the step runs in `w`; nothing if it does not get there. -/
def reportedStates (env : Env) (w : World) : Option (TLSState × TLSState) :=
  match collectExposedPortRoutes w.resource with
  | .error _ => none
  | .ok routes =>
    if servesTraffic w.resource.spec.workloadType && w.resource.spec.hasExposedPort then
      value (reconcilePaths env w.resource routes w)
    else none

/-- How a successful run of the step went: not at all, for a workload without a Service;
without a public port, so that no TLS path reports; or through both paths, whose states are
then announced. -/
inductive Stepped (env : Env) (w w' : World) : Prop
  | silent (hSame : w' = w) (hNone : reportedStates env w = none)
  | plain (hExposed : w.resource.spec.hasExposedPort = false)
      (hNone : reportedStates env w = none)
  | routed (routes : ExposedPortRoutes) (states : TLSState × TLSState) (w₁ : World)
      (result : SubReconcilerResult)
      (hCollect : collectExposedPortRoutes w.resource = .ok routes)
      (hPaths : reconcilePaths env w.resource routes w = .ok states w₁)
      (hReported : reportedStates env w = some states)
      (hAnnounced : announce env w.resource routes states w₁ = .ok result w')

theorem stepped_reconcile {env : Env} {w w' : World} {result : SubReconcilerResult}
    (h : reconcile env w = .ok result w') : Stepped env w w' := by
  rw [reconcile_run] at h
  -- a workload that serves nothing is silent; one that does needs its routes, and
  -- without an exposed port only the conditions are cleared
  cases hType : servesTraffic w.resource.spec.workloadType with
  | false =>
    rw [hType] at h
    cases h
    refine .silent rfl ?_
    unfold reportedStates
    rw [hType]
    cases collectExposedPortRoutes w.resource <;> rfl
  | true =>
    rw [hType, if_pos rfl] at h
    cases hCollect : collectExposedPortRoutes w.resource with
    | error e =>
      rw [hCollect] at h
      cases h
    | ok routes =>
      rw [hCollect] at h
      dsimp only at h
      cases hExposed : w.resource.spec.hasExposedPort with
      | false =>
        refine .plain hExposed ?_
        unfold reportedStates
        rw [hCollect, hType, hExposed]
        rfl
      | true =>
        rw [reconcileRoutes_eq hExposed] at h
        obtain ⟨states, w1, hPaths, hAnnounced⟩ := bind_ok h
        refine .routed routes states w1 result hCollect hPaths ?_ hAnnounced
        unfold reportedStates
        rw [hCollect, hType, hExposed]
        exact congrArg value hPaths

/-! ## What is published -/

def isHttps (address : String) : Bool := "https://".toList.isPrefixOf address.toList

theorem not_isHttps (fqdn : String) : isHttps ("http://" ++ fqdn) = false := by
  unfold isHttps
  rw [String.toList_append]
  rfl

theorem https_of_ready {env : Env} {resource : StackResource} {routes : PortMap}
    {cert refs : TLSStage} {address : ExternalAddress}
    (h : address ∈ buildExternalAddresses env resource routes cert refs)
    (hHttps : isHttps address.address = true) :
    ∃ p ∈ resource.spec.ports, p.number = address.targetPort ∧ p.tls = true ∧
      stageOf cert refs p = .ready := by
  unfold buildExternalAddresses at h
  obtain ⟨port, -, hBuilt⟩ := List.mem_filterMap.mp h
  obtain ⟨fqdn, -, hBuilt⟩ := Option.bind_eq_some_iff.mp hBuilt
  -- an http address is not an https one
  have hPlain : some address ≠ some { targetPort := port, address := "http://" ++ fqdn } := by
    intro hEq
    rw [Option.some.inj hEq] at hHttps
    exact absurd (hHttps.symm.trans (not_isHttps fqdn)) (by decide)
  unfold buildExternalAddress at hBuilt
  split at hBuilt
  · cases hBuilt
  · next p hPort =>
    have hNumber : p.number = port := by simpa using List.find?_some hPort
    -- no such port, a private one, one without TLS, and the stages of one with TLS
    split at hBuilt
    · cases hBuilt
    · split at hBuilt
      · exact absurd hBuilt.symm hPlain
      · next hTLS =>
        split at hBuilt
        · next hStage =>
          cases hBuilt
          exact ⟨p, List.mem_of_find?_eq_some hPort, hNumber, by simpa using hTLS, hStage⟩
        · exact absurd hBuilt.symm hPlain
        · cases hBuilt
        · cases hBuilt

end ClusterAgent.Service
