import ClusterAgent.Controller.Lookup
import ClusterAgent.Controller.ObjectPass
import ClusterAgent.StackResource.Service

/-!
# Cluster agent — the replica of a referenced TLS Secret

The Secret a port refers to is copied into the namespace of the workload and marked
with the namespace it came from. What the namespace holds under that name without
the mark was not put there by the agent.

The callback of the copy looks at the type first: a Secret of another type is deleted
only if it has the mark. A TLS Secret is refreshed whether it has the mark or not.

* `Overwrites` — when the copy takes the place of an unmarked Secret;
* `ensureReferencedTLSSecretReplica_elsewhere`, `ensureReferencedTLSSecretReplica_here`,
  `mirrorTLSSecret_spec` — in all other cases the Secret is as it was and the copy is not
  in place;
* `replication_spares_iff` — the same of the whole replication.
-/

namespace ClusterAgent.Service

open Pass Effect

variable (env : Env) {secret : Secret} {w : World}

/-! ## One Secret under the eyes of a pass -/

def heldAs (secret : Secret) (c : Cluster) : Option Secret :=
  lookup .secret c secret.metadata.ns secret.metadata.name

/-- The Secret is there with its type, data, labels and owners. -/
def Kept (secret : Secret) (c : Cluster) : Prop :=
  ∃ stored, heldAs secret c = some stored ∧ stored.spec = secret.spec ∧
    stored.metadata.labels = secret.metadata.labels ∧
    stored.metadata.ownerReferences = secret.metadata.ownerReferences

/-- The Secret is an unmarked one the pass finds in the cluster. -/
structure Unmarked (secret : Secret) (c : Cluster) : Prop where
  found : heldAs secret c = some secret
  unlabelled : secret.metadata.labels.get? tlsSecretSourceLabel = none

/-- The outcome of a step: it took the Secret over exactly if `overwrites`, and otherwise
left it as it was and satisfies `rest`. -/
def Outcome (secret : Secret) (overwrites rest : Prop) (w : World) : Prop :=
  (overwrites ∧ ∃ stored, heldAs secret w.cluster = some stored ∧
    (stored.metadata.labels.get? tlsSecretSourceLabel).isSome) ∨
  (¬ overwrites ∧ heldAs secret w.cluster = some secret ∧ rest)

theorem Outcome.spared {overwrites rest : Prop} (hNot : ¬ overwrites)
    (hHeld : heldAs secret w.cluster = some secret) (hRest : rest) :
    Outcome secret overwrites rest w := Or.inr ⟨hNot, hHeld, hRest⟩

theorem Outcome.spared_iff {overwrites rest : Prop} {c : Cluster} (hUnmarked : Unmarked secret c)
    (h : Outcome secret overwrites rest w) : Kept secret w.cluster ∧ rest ↔ ¬ overwrites := by
  rcases h with ⟨hOver, stored, hHeld, hMarked⟩ | ⟨hNot, hHeld, hRest⟩
  · constructor
    · intro ⟨⟨kept, hKept, _, hLabels, _⟩, _⟩
      obtain rfl := Option.some.inj (hHeld.symm.trans hKept)
      rw [hLabels, hUnmarked.unlabelled] at hMarked
      cases hMarked
    · intro hNot
      exact absurd hOver hNot
  · constructor
    · intro _
      exact hNot
    · intro _
      exact ⟨⟨secret, hHeld, rfl, rfl, rfl⟩, hRest⟩

/-! ## The copy -/

theorem ensureReferencedTLSSecretReplica_elsewhere {ns : String} {source : Secret}
    (hPlace : ¬ (secret.metadata.ns = ns ∧ secret.metadata.name = source.name)) :
    Within (FindsSame .secret secret.metadata.ns secret.metadata.name)
      (ensureReferencedTLSSecretReplica env ns source) := by
  intro w
  refine Triple.reached (P := (· = w))
    (I := FindsSame .secret secret.metadata.ns secret.metadata.name w) ?_ rfl
  refine bind_getObject (fun _ => FindsSame.of_reads) fun w1 hReads => ?_
  refine Triple.pre (P := FindsSame .secret secret.metadata.ns secret.metadata.name w) ?_
    (by rintro _ rfl; exact FindsSame.of_reads hReads)
  have hRest : ∀ {α : Type} {m : Pass α},
      Within (FindsSame .secret secret.metadata.ns secret.metadata.name) m →
        Ensures (FindsSame .secret secret.metadata.ns secret.metadata.name w) m
          (FindsSame .secret secret.metadata.ns secret.metadata.name w) :=
    fun h => h.triple fun _ _ hStep hBefore => trans_of (FindsSame _ _ _) hBefore hStep
  -- every write of the function is at the name of the replica, which is another one
  cases hExisting : lookup .secret w.cluster ns source.name with
  | none => exact hRest (Within.bind (findsSame_create hPlace) fun _ => Within.pure)
  | some existing =>
    have hKey := key_of_lookup hExisting
    have hOther : ¬ (secret.metadata.ns = existing.metadata.ns ∧
        secret.metadata.name = existing.metadata.name) := by
      rw [hKey.1, hKey.2]
      exact hPlace
    dsimp only
    by_cases hType : existing.spec.type = secretTypeTLS
    · rw [if_neg (not_not.mpr hType)]
      by_cases hFresh : existing = refreshedReplica source existing
      · rw [if_pos hFresh]
        exact hRest (Within.pure)
      · rw [if_neg hFresh]
        have hStored : ¬ (secret.metadata.ns = (refreshedReplica source existing).metadata.ns ∧
            secret.metadata.name = (refreshedReplica source existing).metadata.name) := hOther
        exact hRest (Within.bind (findsSame_update hStored) fun _ => Within.pure)
    · rw [if_pos hType]
      unfold deleteManagedWrongTypeReplica
      -- a Secret of the wrong type goes only if it carries the label of a replica
      cases existing.metadata.labels.get? tlsSecretSourceLabel with
      | none => exact hRest (Within.pure)
      | some _ => exact hRest (Within.bind (findsSame_delete hOther) fun _ => Within.pure)

theorem ensureReferencedTLSSecretReplica_here {ns : String} {source : Secret}
    (hUnmarked : Unmarked secret w.cluster)
    (hPlace : secret.metadata.ns = ns ∧ secret.metadata.name = source.name) :
    Triple (· = w) (ensureReferencedTLSSecretReplica env ns source)
      (fun ready w' => Outcome secret
        (secret.spec.type = secretTypeTLS ∧ env.fault w.calls = none ∧
          env.fault (w.calls + 1) = none) (ready = false) w')
      fun w' => (env.fault w.calls = none → env.fault (w.calls + 1) ≠ none) ∧
        heldAs secret w'.cluster = some secret := by
  have hFound : lookup .secret w.cluster ns source.name = some secret := by
    rw [← hPlace.1, ← hPlace.2]
    exact hUnmarked.found
  unfold ensureReferencedTLSSecretReplica
  -- a fault of the Get or of the Update stops the function before the Secret changes
  cases hGet : env.fault w.calls with
  | some e =>
    rintro _ rfl
    rw [bind_of_error (getObject_eq_error hGet _ _ _)]
    exact ⟨nofun, hUnmarked.found⟩
  | none =>
    refine .after (getObject_eq_ok hGet _ _ _) ?_
    rw [hFound]
    dsimp only
    by_cases hType : secret.spec.type = secretTypeTLS
    -- the refreshed copy carries the source label, which the Secret does not have
    · have hFresh : secret ≠ refreshedReplica source secret := by
        intro h
        have hMark : (refreshedReplica source secret).metadata.labels.get? tlsSecretSourceLabel =
            some source.metadata.ns := StringMap.get?_set_same _ _ _
        rw [← h, hUnmarked.unlabelled] at hMark
        cases hMark
      rw [if_neg (not_not.mpr hType), if_neg hFresh]
      cases hStore : env.fault (w.calls + 1) with
      | some e =>
        rintro _ rfl
        rw [bind_of_error (update_eq_error env hStore)]
        exact ⟨nofun, hUnmarked.found⟩
      | none =>
        obtain ⟨hNs, hName⟩ := key_of_lookup hFound
        have hKey : lookup .secret { w with calls := w.calls + 1 }.cluster
            (refreshedReplica source secret).metadata.ns
            (refreshedReplica source secret).metadata.name = some secret := hUnmarked.found
        refine .bind
          (((update_spec env .secret (refreshedReplica source secret) _).total
            fun _ h => ?_).onError fun _ h => h.elim)
          fun stored => .pure ?_
        · obtain ⟨w', hUpdate⟩ := update_eq_ok env (w := { w with calls := w.calls + 1 })
            hStore hKey
          rw [h, hUpdate]
          trivial
        -- the update lands, and what is stored now carries the label
        · rintro w' ⟨old, hOld, rfl, hGet⟩
          refine Or.inl ⟨⟨hType, rfl, rfl⟩, updated old (refreshedReplica source secret), ?_, ?_⟩
          · refine (lookup_write hGet fun _ _ => hasKey_iff.mpr ⟨rfl, rfl⟩).trans ?_
            rw [hKey]
            rfl
          · have hMark : (updated old (refreshedReplica source secret)).metadata.labels.get?
                tlsSecretSourceLabel = some source.metadata.ns := StringMap.get?_set_same _ _ _
            rw [hMark]
            rfl
    -- not a TLS Secret and unlabelled: it is somebody else's and stays
    · rw [if_pos hType]
      unfold deleteManagedWrongTypeReplica
      rw [hUnmarked.unlabelled]
      rintro _ rfl
      exact Outcome.spared (fun h => hType h.1) hUnmarked.found rfl

/-! ## The replication -/

def tlsSourceNamespace : String :=
  if env.platformTLSNamespace = "" then "stackdome-control-plane" else env.platformTLSNamespace

/-- The pass copies over the Secret: it has the referenced name and type TLS, the source is
complete, and the three API calls succeed. -/
structure Overwrites (w : World) (resource : StackResource) (ref : String) (secret : Secret) :
    Prop where
  place : secret.metadata.ns = resource.metadata.ns ∧ secret.metadata.name = ref
  tls : secret.spec.type = secretTypeTLS
  valid : isDNS1123Subdomain ref = true
  source : ∃ source, lookup .secret w.cluster (tlsSourceNamespace env) ref = some source ∧
    source.spec.data.get tlsCertKey ≠ "" ∧ source.spec.data.get tlsPrivateKeyKey ≠ ""
  calls : env.fault w.calls = none ∧ env.fault (w.calls + 1) = none ∧
    env.fault (w.calls + 2) = none

variable {resource : StackResource} {ref : String}

theorem mirrorTLSSecret_spec (hUnmarked : Unmarked secret w.cluster)
    (hValid : isDNS1123Subdomain ref = true) :
    Triple (· = w) (mirrorTLSSecret env resource ref (tlsSourceNamespace env))
      (fun r w' => Outcome secret (Overwrites env w resource ref secret)
        (secret.metadata.ns = resource.metadata.ns ∧ secret.metadata.name = ref → r.1 = false) w')
      fun w' => ¬ Overwrites env w resource ref secret ∧
        heldAs secret w'.cluster = some secret := by
  unfold mirrorTLSSecret
  cases hGet : env.fault w.calls with
  | some e =>
    rintro _ rfl
    rw [bind_of_error (getObject_eq_error hGet _ _ _)]
    exact ⟨fun h => absurd (hGet.symm.trans h.calls.1) nofun, hUnmarked.found⟩
  | none =>
    refine .after (getObject_eq_ok hGet _ _ _) ?_
    cases hSource : lookup .secret w.cluster (tlsSourceNamespace env) ref with
    | none =>
      rintro _ rfl
      refine Outcome.spared (fun h => ?_) hUnmarked.found fun _ => rfl
      obtain ⟨source, hFound, -⟩ := h.source
      exact absurd (hSource.symm.trans hFound) nofun
    | some source =>
      have hSourceName : source.metadata.name = ref :=
        (key_of_lookup hSource).2
      dsimp only
      by_cases hPair : source.spec.data.get tlsCertKey = "" ∨
          source.spec.data.get tlsPrivateKeyKey = ""
      · rw [if_pos hPair]
        rintro _ rfl
        refine Outcome.spared (fun h => ?_) hUnmarked.found fun _ => rfl
        obtain ⟨source', hFound, hCert, hKey⟩ := h.source
        obtain rfl := Option.some.inj (hSource.symm.trans hFound)
        rcases hPair with h | h
        · exact hCert h
        · exact hKey h
      · rw [if_neg hPair]
        rw [not_or] at hPair
        -- what is returned afterwards repeats whether the copy is in place
        refine .bind (R := fun ready w' => Outcome secret
            (Overwrites env w resource ref secret)
            (secret.metadata.ns = resource.metadata.ns ∧ secret.metadata.name = ref →
              ready = false) w') ?_ fun ready => ?_
        · by_cases hPlace : secret.metadata.ns = resource.metadata.ns ∧ secret.metadata.name = ref
          · have hNamed : secret.metadata.ns = resource.metadata.ns ∧
                secret.metadata.name = source.name := ⟨hPlace.1, hPlace.2.trans hSourceName.symm⟩
            have hHere := ensureReferencedTLSSecretReplica_here env
              (w := { w with calls := w.calls + 1 }) hUnmarked hNamed
            refine hHere.conseq (fun ready w' h => ?_) fun w' h => ⟨?_, h.2⟩
            · rcases h with ⟨⟨hType, hFirst, hSecond⟩, hStored⟩ | ⟨hNot, hHeld, hRest⟩
              · exact Or.inl ⟨⟨hPlace, hType, hValid, ⟨source, hSource, hPair⟩,
                  hGet, hFirst, hSecond⟩, hStored⟩
              · exact Outcome.spared (fun h => hNot ⟨h.tls, h.calls.2⟩) hHeld fun _ => hRest
            · intro hOver
              exact h.1 hOver.calls.2.1 hOver.calls.2.2
          · have hApart : ¬ (secret.metadata.ns = resource.metadata.ns ∧
                secret.metadata.name = source.name) := by
              rw [show source.name = ref from hSourceName]
              exact hPlace
            have hElse := ensureReferencedTLSSecretReplica_elsewhere env hApart
            refine (hElse.leads _).conseq (fun ready w' h => ?_) fun w' h => ?_
            · exact Outcome.spared (fun hOver => hPlace hOver.place)
                (Eq.trans h hUnmarked.found) fun h => absurd h hPlace
            · exact ⟨fun hOver => hPlace hOver.place, Eq.trans h hUnmarked.found⟩
        · cases ready with
          | true => exact .skip
          | false => exact .skip

theorem blocked_stage (message : String) :
    (referencedTLSStatusWhileBlocked env resource ref message).stage ≠ .ready := by
  unfold referencedTLSStatusWhileBlocked
  dsimp only
  split
  · nofun
  · nofun

theorem reconcileReferencedTLSSecret_spec (hUnmarked : Unmarked secret w.cluster) :
    Triple (· = w) (reconcileReferencedTLSSecret env resource ref)
      (fun status w' => Outcome secret (Overwrites env w resource ref secret)
        (secret.metadata.ns = resource.metadata.ns ∧ secret.metadata.name = ref →
          status.stage ≠ .ready) w')
      fun w' => ¬ Overwrites env w resource ref secret ∧
        heldAs secret w'.cluster = some secret := by
  unfold reconcileReferencedTLSSecret
  -- no name and no valid name: nothing is replicated
  by_cases hEmpty : ref = ""
  · rw [if_pos hEmpty]
    refine .bind (R := fun _ w' => heldAs secret w'.cluster = some secret)
      (.modify ?_) fun _ => .pure fun w' hHeld => ?_
    · rintro _ rfl
      exact hUnmarked.found
    · refine Outcome.spared (fun h => ?_) hHeld fun _ => nofun
      have hValid := h.valid
      subst hEmpty
      simp [isDNS1123Subdomain, splitDots, isDNS1123Label] at hValid
  rw [if_neg hEmpty]
  by_cases hValid : isDNS1123Subdomain ref = true
  · rw [hValid]
    refine .bind (mirrorTLSSecret_spec env hUnmarked hValid) fun r => ?_
    obtain ⟨ready, message⟩ := r
    refine .bind (R := fun _ w' => Outcome secret (Overwrites env w resource ref secret)
      (secret.metadata.ns = resource.metadata.ns ∧ secret.metadata.name = ref →
        ready = false) w') (.modify fun _ h => h) fun _ => .pure fun w' h => ?_
    -- either the Secret was overwritten, or the path is blocked by it
    rcases h with hOver | ⟨hNot, hHeld, hRest⟩
    · exact Or.inl hOver
    · refine Outcome.spared hNot hHeld fun hPlace => ?_
      rw [hRest hPlace]
      exact blocked_stage env message
  · rw [Bool.not_eq_true] at hValid
    rw [hValid]
    rintro _ rfl
    refine Outcome.spared (fun h => ?_) hUnmarked.found fun _ => nofun
    exact Bool.false_ne_true (hValid.symm.trans h.valid)

/-- **The replication spares what it did not put there.** A Secret without the mark keeps
its type, data, labels and owners, and the reference stays pending if the Secret is in its
place, exactly if the pass does not copy over it: the mark is not looked at when the
Secret that has the referenced name is a TLS Secret itself. -/
theorem replication_spares_iff (env : Env) (w : World) (resource : StackResource) (ref : String)
    (secret : Secret) (hUnmarked : Unmarked secret w.cluster) :
    (Kept secret (finalState (reconcileReferencedTLSSecret env resource ref w)).cluster ∧
      (secret.metadata.ns = resource.metadata.ns ∧ secret.metadata.name = ref →
        ∀ status w', reconcileReferencedTLSSecret env resource ref w = .ok status w' →
          status.stage ≠ .ready)) ↔
      ¬ Overwrites env w resource ref secret := by
  have hSpec : Triple (· = w) (reconcileReferencedTLSSecret env resource ref) _ _ :=
    reconcileReferencedTLSSecret_spec env hUnmarked
  have hRun := hSpec w rfl
  cases hOutcome : reconcileReferencedTLSSecret env resource ref w with
  | ok status w' =>
    rw [hOutcome] at hRun
    refine Iff.trans (and_congr_right fun _ => ?_) (hRun.spared_iff hUnmarked)
    constructor
    · intro h hPlace
      exact h hPlace status w' rfl
    · rintro h hPlace _ _ ⟨⟩
      exact h hPlace
  -- a failed replication has not written the Secret
  | error e w' =>
    rw [hOutcome] at hRun
    refine iff_of_true ⟨⟨secret, hRun.2, rfl, rfl, rfl⟩, ?_⟩ hRun.1
    intro _ status w'' h
    cases h

namespace Fixture

def platformSecret : Secret where
  metadata := { name := "wildcard", ns := "stackdome-control-plane" }
  spec := { type := secretTypeTLS, data := [(tlsCertKey, "cert"), (tlsPrivateKeyKey, "key")] }
  status := ()

def teamSecret (type : String) : Secret where
  metadata :=
    { name := "wildcard", ns := "team"
      ownerReferences :=
        [{ kind := "Certificate", name := "wildcard", uid := "u7", controller := true }] }
  spec := { type := type, data := [(tlsCertKey, "their cert"), (tlsPrivateKeyKey, "their key")] }
  status := ()

def tlsResource : StackResource where
  metadata := { name := "web", ns := "team" }
  spec := {}

def tlsWorld (type : String) : World where
  cluster := { secrets := [platformSecret, teamSecret type] }
  resource := tlsResource

end Fixture

/-- An opaque Secret under the referenced name is left alone. -/
theorem replication_spares_opaque :
    Unmarked (Fixture.teamSecret "Opaque") (Fixture.tlsWorld "Opaque").cluster ∧
      Kept (Fixture.teamSecret "Opaque") (finalState (reconcileReferencedTLSSecret
        ObjectPass.quietEnv Fixture.tlsResource "wildcard"
          (Fixture.tlsWorld "Opaque"))).cluster := by
  have hUnmarked : Unmarked (Fixture.teamSecret "Opaque") (Fixture.tlsWorld "Opaque").cluster :=
    ⟨rfl, rfl⟩
  refine ⟨hUnmarked, ((replication_spares_iff ObjectPass.quietEnv (Fixture.tlsWorld "Opaque")
    Fixture.tlsResource "wildcard" _ hUnmarked).mpr fun h => ?_).1⟩
  exact absurd h.tls (by decide)

/-- A certificate of the team's own, with the name the platform uses, is copied over. -/
theorem replication_takes_foreign_certificate :
    ¬ ∀ (env : Env) (w : World) (resource : StackResource) (ref : String) (secret : Secret),
      Unmarked secret w.cluster →
        Kept secret (finalState (reconcileReferencedTLSSecret env resource ref w)).cluster := by
  intro h
  obtain ⟨stored, hStored, hSpec, -⟩ := h ObjectPass.quietEnv (Fixture.tlsWorld secretTypeTLS)
    Fixture.tlsResource "wildcard" (Fixture.teamSecret secretTypeTLS) ⟨rfl, rfl⟩
  have hData : (heldAs (Fixture.teamSecret secretTypeTLS) (finalState
      (reconcileReferencedTLSSecret ObjectPass.quietEnv Fixture.tlsResource "wildcard"
        (Fixture.tlsWorld secretTypeTLS))).cluster).map (·.spec.data.get tlsCertKey) =
          some "cert" := by
    decide +kernel
  rw [hStored, Option.map_some, hSpec] at hData
  exact absurd hData (by decide)

end ClusterAgent.Service
