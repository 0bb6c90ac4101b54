import ClusterAgent.Api.Cluster

/-!
# Cluster agent — what a step of a pass may touch

A sub-reconciler changes a few domain conditions, a few status fields and the
objects of a few kinds, and nothing else. A `Footprint` names them and `Touches`
is the relation between the worlds before and after any step with that
footprint, whether it succeeded or failed:

* the in-memory object keeps its metadata and spec, and every condition outside
  the footprint;
* verdicts are only added, not-ready ones with the reasons of the footprint;
* objects of other kinds, and the stored StackResources, are as before.

`Touches fp` is a preorder, so a step made of steps with a footprint has it too;
each primitive's footprint is proved here, and each function's beside it.
-/

namespace ClusterAgent

open Effect Conditions

/-- What the status says about how the resource is reached, with the clocks of its TLS
paths. -/
structure Routes where
  internalAddress : Option String
  externalAddress : List ExternalAddress
  certManagerTLS : Option CertManagerTLSStatus
  referencedTLSSecret : Option ReferencedTLSSecretStatus

def StackResourceStatus.routes (s : StackResourceStatus) : Routes where
  internalAddress := s.internalAddress
  externalAddress := s.externalAddress
  certManagerTLS := s.certManagerTLS
  referencedTLSSecret := s.referencedTLSSecret

/-- What a step of a pass may touch: the domain conditions and other parts of the status it
writes, the kinds of objects it manages, the reasons of its not-ready verdicts and whether it may
report a failure. A step that is not proved to stay within a footprint may touch anything. -/
structure Footprint where
  conditions : List StackResourceDomainCondition := []
  failureDetails : Bool := false
  restart : Bool := false
  routes : Bool := false
  objects : List ObjectKind := []
  reasons : List String := []
  fails : Bool := false
  deriving DecidableEq, Repr

def Footprint.Le (fp fp' : Footprint) : Prop :=
  fp.conditions ⊆ fp'.conditions ∧ (fp.failureDetails → fp'.failureDetails) ∧
    (fp.restart → fp'.restart) ∧ (fp.routes → fp'.routes) ∧ fp.objects ⊆ fp'.objects ∧
    fp.reasons ⊆ fp'.reasons ∧ (fp.fails → fp'.fails)

instance (fp fp' : Footprint) : Decidable (fp.Le fp') :=
  inferInstanceAs (Decidable (_ ∧ _ ∧ _ ∧ _ ∧ _ ∧ _ ∧ _))

/-- A step with footprint `fp` leads from `w` to `w'`: metadata and spec of the resource stay,
verdicts are only added, and whatever the footprint does not name is as before. -/
structure Touches (fp : Footprint) (w w' : World) : Prop where
  metadata : w'.resource.metadata = w.resource.metadata
  spec : w'.resource.spec = w.resource.spec
  verdicts : w.verdicts.Le w'.verdicts
  reasons : ∀ v, w'.verdicts.notReady = some v →
    w.verdicts.notReady = some v ∨ v.reason ∈ fp.reasons
  failed : fp.fails = false → w'.verdicts.failed = w.verdicts.failed
  conditions : ∀ t, (∀ c ∈ fp.conditions, t ≠ .domain c) →
    findStatusCondition w'.resource.status.conditions t =
      findStatusCondition w.resource.status.conditions t
  failureDetails : fp.failureDetails = false →
    w'.resource.status.lastFailureDetails = w.resource.status.lastFailureDetails
  restart : fp.restart = false →
    w'.resource.status.lastRestartRequestProcessedAt =
      w.resource.status.lastRestartRequestProcessedAt
  routes : fp.routes = false → w'.resource.status.routes = w.resource.status.routes
  objects : ∀ k, k ∉ fp.objects → w.cluster.Same w'.cluster k
  stackResources : w'.cluster.stackResources = w.cluster.stackResources

theorem Cluster.Same.refl (c : Cluster) (k : ObjectKind) : c.Same c k := by
  cases k <;> rfl

theorem Cluster.Same.trans {c c' c'' : Cluster} {k : ObjectKind} (h : c.Same c' k)
    (h' : c'.Same c'' k) : c.Same c'' k := by
  cases k <;> exact Eq.trans h' h

theorem Touches.refl (fp : Footprint) (w : World) : Touches fp w w :=
  ⟨rfl, rfl, .refl _, fun _ => Or.inl, fun _ => rfl, fun _ _ => rfl, fun _ => rfl, fun _ => rfl,
    fun _ => rfl, fun k _ => .refl _ k, rfl⟩

section

variable {fp fp' : Footprint} {w w' : World} {α : Type} {m : Pass α}

theorem Touches.trans {w'' : World} (h : Touches fp w w')
    (h' : Touches fp w' w'') : Touches fp w w'' where
  metadata := h'.metadata.trans h.metadata
  spec := h'.spec.trans h.spec
  verdicts := h.verdicts.trans h'.verdicts
  reasons v hv := (h'.reasons v hv).elim (h.reasons v) Or.inr
  failed hf := (h'.failed hf).trans (h.failed hf)
  conditions t ht := (h'.conditions t ht).trans (h.conditions t ht)
  failureDetails hf := (h'.failureDetails hf).trans (h.failureDetails hf)
  restart hr := (h'.restart hr).trans (h.restart hr)
  routes hr := (h'.routes hr).trans (h.routes hr)
  objects k hk := (h.objects k hk).trans (h'.objects k hk)
  stackResources := h'.stackResources.trans h.stackResources

instance (fp : Footprint) : IsPreorder World (Touches fp) where
  refl := Touches.refl fp
  trans _ _ _ h h' := h.trans h'

theorem of_allowed {b b' : Bool} (h : b → b') (hb : b' = false) : b = false := by
  cases b with
  | false => rfl
  | true => rw [h rfl] at hb; cases hb

theorem Touches.widen (h : Touches fp w w') (hle : fp.Le fp' := by decide) : Touches fp' w w' := by
  obtain ⟨hc, hf, hr, hRoutes, ho, hReasons, hFails⟩ := hle
  refine ⟨h.metadata, h.spec, h.verdicts, fun v hv => (h.reasons v hv).imp_right (@hReasons _),
    fun hf' => h.failed (of_allowed hFails hf'),
    fun t ht => h.conditions t fun c hc' => ht c (hc hc'),
    fun hf' => h.failureDetails (of_allowed hf hf'), fun hr' => h.restart (of_allowed hr hr'),
    fun hr' => h.routes (of_allowed hRoutes hr'), fun k hk => h.objects k fun hk' => hk (ho hk'),
      h.stackResources⟩

theorem Touches.domainCond (h : Touches fp w w')
    {c : StackResourceDomainCondition} (hc : c ∉ fp.conditions) :
    w'.resource.domainCond c = w.resource.domainCond c :=
  h.conditions (.domain c) fun _ hc' he => hc (ResourceCondition.domain.inj he ▸ hc')

abbrev Has (fp : Footprint) {α : Type} (m : Pass α) : Prop := Within (Touches fp) m

theorem Has.widen (h : Has fp m) (hle : fp.Le fp' := by decide) : Has fp' m :=
  .mono h fun _ _ ht => ht.widen hle

/-! ## Steps that only read -/

def Reads (w w' : World) : Prop := ∃ calls, w' = { w with calls := calls }

instance : IsPreorder World Reads where
  refl w := ⟨w.calls, rfl⟩
  trans := by
    rintro w _ _ ⟨m, rfl⟩ ⟨n, rfl⟩
    exact ⟨n, rfl⟩

abbrev ReadsOnly {α : Type} (m : Pass α) : Prop := Within Reads m

theorem Reads.touches (h : Reads w w') : Touches fp w w' := by
  obtain ⟨calls, rfl⟩ := h
  exact { Touches.refl fp w with }

theorem Has.of_reads (h : ReadsOnly m) : Has fp m :=
  .mono h fun _ _ => Reads.touches

end

namespace Pass

variable {env : Env} {S T : Type}

theorem reads_resource : ReadsOnly resource := .bind .get fun _ => .pure

theorem reads_call : ReadsOnly (call env) := by
  intro w
  unfold call
  split
  · exact ⟨_, rfl⟩
  · exact ⟨_, rfl⟩

theorem reads_getObject {kind : Kind S T} {ns name : String} :
    ReadsOnly (getObject env kind ns name) :=
  .bind reads_call fun _ => .bind .get fun _ => .pure

theorem reads_mustGet {kind : Kind S T} {ns name : String} :
    ReadsOnly (mustGet env kind ns name) := by
  refine .bind reads_getObject fun o => ?_
  cases o with
  | some o => exact .pure
  | none => exact .throw

theorem reads_listObjects {kind : Kind S T} {ns : String} {labels : StringMap} :
    ReadsOnly (listObjects env kind ns labels) :=
  .bind reads_call fun _ => .bind .get fun _ => .pure

theorem reads_controlled (o : Object S T) : ReadsOnly (controlled o) := by
  refine .bind reads_resource fun owner => ?_
  split
  · exact .pure
  · exact .throw

end Pass

/-! ## Steps that write -/

namespace Pass

variable (env : Env) {S T : Type} {fp : Footprint} {kind : Kind S T}

theorem has_resource : Has fp resource := Has.of_reads reads_resource

theorem has_call : Has fp (call env) := Has.of_reads reads_call

theorem has_modifyStatus {f : StackResourceStatus → StackResourceStatus}
    (c : ∀ s t, (∀ c ∈ fp.conditions, t ≠ .domain c) →
      findStatusCondition (f s).conditions t = findStatusCondition s.conditions t := by
        exact fun _ _ _ => rfl)
    (d : fp.failureDetails = true ∨ ∀ s, (f s).lastFailureDetails = s.lastFailureDetails := by
        exact Or.inr fun _ => rfl)
    (r : fp.restart = true ∨
      ∀ s, (f s).lastRestartRequestProcessedAt = s.lastRestartRequestProcessedAt := by
        exact Or.inr fun _ => rfl)
    (a : fp.routes = true ∨ ∀ s, (f s).routes = s.routes := by exact Or.inr fun _ => rfl) :
    Has fp (modifyStatus f) := by
  intro w
  refine { Touches.refl fp w with
    conditions := c _, failureDetails := fun hd => ?_, restart := fun hr => ?_
    routes := fun ha => ?_ }
  · rcases d with d | d
    · cases d.symm.trans hd
    · exact d _
  · rcases r with r | r
    · cases r.symm.trans hr
    · exact r _
  · rcases a with a | a
    · cases a.symm.trans ha
    · exact a _

theorem has_reportNotReady {reason msg : String} (h : reason ∈ fp.reasons := by decide) :
    Has fp (reportNotReady reason msg) := by
  intro w
  refine { Touches.refl fp w with
    verdicts := VerdictCollector.le_reportNotReady, reasons := fun v hv => ?_
    failed := fun _ => VerdictCollector.failed_reportNotReady }
  have hv' : some (w.verdicts.notReady.getD ⟨reason, msg⟩) = some v :=
    (VerdictCollector.notReady_reportNotReady _ _ _).symm.trans hv
  cases hw : w.verdicts.notReady with
  | some u =>
    rw [hw] at hv'
    exact Or.inl hv'
  | none =>
    rw [hw] at hv'
    cases hv'
    exact Or.inr h

theorem has_reportFailed (h : fp.fails = true) {reason msg : String} :
    Has fp (reportFailed reason msg) := by
  intro w
  exact { Touches.refl fp w with
    verdicts := VerdictCollector.le_reportFailed
    reasons := fun v hv => Or.inl (VerdictCollector.notReady_reportFailed.symm.trans hv)
    failed := fun hf => absurd (h.symm.trans hf) (by decide) }

theorem has_setCondition {env : Env} {condType : StackResourceDomainCondition} {ready : Bool}
    {reason msg : String} (h : condType ∈ fp.conditions := by decide) :
    Has fp (setCondition env condType ready reason msg) := by
  intro w
  exact { Touches.refl fp w with conditions := fun t ht => find_set_other (ht condType h).symm }

theorem touches_set (h : kind.id ∈ fp.objects) (w : World)
    {objects : List (Object S T)} {created : Nat} :
    Touches fp w { w with
      cluster := { kind.set w.cluster objects with created := created } } := by
  refine { Touches.refl fp w with objects := fun k hk => ?_, stackResources := ?_ }
  · have hk' : k ≠ kind.id := fun he => hk (he ▸ h)
    have hSame := kind.set_other w.cluster objects k hk'
    cases k <;> exact hSame
  · exact kind.stackResources_set w.cluster objects

variable {env}

theorem has_getObject {kind : Kind S T} {ns name : String} : Has fp (getObject env kind ns name) :=
  Has.of_reads reads_getObject

theorem has_create {o : Object S T} (h : kind.id ∈ fp.objects := by decide) :
    Has fp (create env kind o) := by
  refine .bind (has_call env) fun _ w => ?_
  rw [get_bind]
  cases lookup kind w.cluster o.metadata.ns o.metadata.name with
  | some _ => exact Touches.refl fp w
  | none => exact touches_set h w

theorem has_update [DecidableEq S] {o : Object S T} (h : kind.id ∈ fp.objects := by decide) :
    Has fp (update env kind o) := by
  refine .bind (has_call env) fun _ w => ?_
  rw [get_bind]
  cases lookup kind w.cluster o.metadata.ns o.metadata.name with
  | none => exact Touches.refl fp w
  | some _ => exact touches_set h w

theorem has_delete {o : Object S T} (h : kind.id ∈ fp.objects := by decide) :
    Has fp (delete env kind o) :=
  .bind (has_call env) fun _ w => touches_set h w

theorem has_createOrUpdate [DecidableEq S] [DecidableEq T]
    (h : kind.id ∈ fp.objects) {blank : Object S T} {mutate : Object S T → Pass (Object S T)}
    (hm : ∀ o, Has fp (mutate o)) : Has fp (createOrUpdate env kind blank mutate) := by
  refine .bind has_getObject fun existing => ?_
  cases existing with
  | none => exact .bind (hm blank) fun o => has_create h
  | some existing =>
    refine .bind (hm existing) fun o => ?_
    split
    · exact .pure
    · exact has_update h

theorem has_controlled {o : Object S T} : Has fp (controlled o) := Has.of_reads (reads_controlled o)

end Pass

/-! ## What the writes store -/

namespace Pass

variable (env : Env) {S T : Type}

variable {env}

theorem call_spec (w : World) :
    Triple (· = w) (call env) (fun _ w' => w' = { w with calls := w.calls + 1 }) (Reads w) := by
  rintro w rfl
  unfold call
  cases env.fault w.calls with
  | some e => exact ⟨_, rfl⟩
  | none => rfl

variable (env)

section

variable {α : Type} {w : World} {Q : α → World → Prop} {E : World → Prop}

theorem bind_resource {f : StackResource → Pass α} (h : Triple (· = w) (f w.resource) Q E) :
    Triple (· = w) (resource >>= f) Q E := by
  rintro w rfl
  exact h w rfl

variable {env}

theorem call_eq_ok (hFault : env.fault w.calls = none) :
    call env w = .ok () { w with calls := w.calls + 1 } := by
  unfold call
  rw [hFault]

theorem call_eq_error {e : GoError} (hFault : env.fault w.calls = some e) :
    call env w = .error e { w with calls := w.calls + 1 } := by
  unfold call
  rw [hFault]

theorem getObject_eq_ok (hFault : env.fault w.calls = none) (kind : Kind S T) (ns name : String) :
    getObject env kind ns name w =
      .ok (lookup kind w.cluster ns name) { w with calls := w.calls + 1 } :=
  bind_of_ok (call_eq_ok hFault)

theorem getObject_eq_error {e : GoError} (hFault : env.fault w.calls = some e) (kind : Kind S T)
    (ns name : String) :
    getObject env kind ns name w = .error e { w with calls := w.calls + 1 } :=
  bind_of_error (call_eq_error hFault)

variable (env)

theorem getObject_spec (kind : Kind S T) (ns name : String) (w : World) :
    Triple (· = w) (getObject env kind ns name)
      (fun o w' => o = lookup kind w.cluster ns name ∧ Reads w w') (Reads w) := by
  refine .bind (call_spec w) fun _ => ?_
  rintro _ rfl
  exact ⟨rfl, _, rfl⟩

theorem mustGet_spec (kind : Kind S T) (ns name : String) (w : World) :
    Triple (· = w) (mustGet env kind ns name)
      (fun o w' => lookup kind w.cluster ns name = some o ∧ Reads w w') (Reads w) := by
  refine .bind (getObject_spec env kind ns name w) fun o => ?_
  cases o with
  | none => exact .throw fun _ h => h.2
  | some o => exact .pure fun _ h => ⟨h.1.symm, h.2⟩

theorem listObjects_spec (kind : Kind S T) (ns : String) (labels : StringMap) (w : World) :
    Triple (· = w) (listObjects env kind ns labels)
      (fun os w' => os = (kind.get w.cluster).filter (fun o => decide (o.metadata.ns = ns) &&
        labels.all fun e => decide (o.metadata.labels.get? e.1 = some e.2)) ∧ Reads w w')
      (Reads w) := by
  refine .bind (call_spec w) fun _ => ?_
  rintro _ rfl
  exact ⟨rfl, _, rfl⟩

variable {env}

theorem bind_getObject {kind : Kind S T} {ns name : String}
    {f : Option (Object S T) → Pass α} (hE : ∀ w', Reads w w' → E w')
    (h : ∀ w', Reads w w' → Triple (· = w') (f (lookup kind w.cluster ns name)) Q E) :
    Triple (· = w) (getObject env kind ns name >>= f) Q E := by
  refine .bind ((getObject_spec env kind ns name w).onError hE)
    fun o => ?_
  rintro w' ⟨rfl, hw'⟩
  exact h w' hw' w' rfl

end

/-- One object, up to identity, generation and marks of deletion. -/
structure SameContent (o stored : Object S T) : Prop where
  name : stored.metadata.name = o.metadata.name
  ns : stored.metadata.ns = o.metadata.ns
  annotations : stored.metadata.annotations = o.metadata.annotations
  spec : stored.spec = o.spec
  status : stored.status = o.status

theorem SameContent.refl (o : Object S T) : SameContent o o := ⟨rfl, rfl, rfl, rfl, rfl⟩

theorem SameContent.trans {o o' o'' : Object S T} (h : SameContent o o')
    (h' : SameContent o' o'') : SameContent o o'' :=
  ⟨h'.name.trans h.name, h'.ns.trans h.ns, h'.annotations.trans h.annotations,
    h'.spec.trans h.spec, h'.status.trans h.status⟩

theorem SameContent.hasKey {o o' : Object S T} (h : SameContent o o') (ns name : String) :
    Pass.hasKey ns name o' = Pass.hasKey ns name o := by
  unfold Pass.hasKey
  rw [h.ns, h.name]

theorem hasKey_iff {ns name : String} {o : Object S T} :
    hasKey ns name o = true ↔ o.metadata.ns = ns ∧ o.metadata.name = name := by
  unfold hasKey
  rw [Bool.and_eq_true, decide_eq_true_iff, decide_eq_true_iff]

theorem key_of_lookup {kind : Kind S T} {c : Cluster} {ns name : String} {o : Object S T}
    (h : lookup kind c ns name = some o) : o.metadata.ns = ns ∧ o.metadata.name = name :=
  hasKey_iff.mp (List.find?_some h)

theorem controlled_spec (o : Object S T) (w : World) :
    Triple (Reads w) (controlled o) (fun o' w' => SameContent o o' ∧ Reads w w') (Reads w) := by
  have hReads : Ensures (Reads w) (controlled o) (Reads w) :=
    (reads_controlled o).continues w
  have hContent : Returns (Reads w) (controlled o) (fun o' _ => SameContent o o') := by
    refine .bind_any fun owner => ?_
    split
    · next metadata hRef =>
      refine .pure fun _ _ => ?_
      obtain ⟨refs, rfl⟩ := setControllerReference_eq hRef
      exact ⟨rfl, rfl, rfl, rfl, rfl⟩
    · exact .throw fun _ _ => trivial
  exact (hContent.and hReads).onError fun _ h => h.2

/-- A new object is stored as it was sent, but for its identity. -/
structure AsCreated (o stored : Object S T) : Prop extends SameContent o stored where
  labels : stored.metadata.labels = o.metadata.labels
  ownerReferences : stored.metadata.ownerReferences = o.metadata.ownerReferences
  finalizers : stored.metadata.finalizers = o.metadata.finalizers
  deletionTimestamp : stored.metadata.deletionTimestamp = o.metadata.deletionTimestamp

theorem create_spec (kind : Kind S T) (o : Object S T) (w : World) :
    Triple (· = w) (create env kind o)
      (fun stored w' => lookup kind w.cluster stored.metadata.ns stored.metadata.name = none ∧
        kind.get w'.cluster = kind.get w.cluster ++ [stored] ∧ AsCreated o stored)
      (Reads w) := by
  refine .bind (call_spec w) fun _ => ?_
  rintro _ rfl
  rw [get_bind]
  cases hLookup : lookup kind w.cluster o.metadata.ns o.metadata.name with
  | some _ => exact ⟨_, rfl⟩
  | none =>
    refine ⟨hLookup, ?_, ⟨⟨rfl, rfl, rfl, rfl, rfl⟩, rfl, rfl, rfl, rfl⟩⟩
    exact (kind.get_created _ _).trans (kind.get_set _ _)

theorem update_eq_error [DecidableEq S] {w : World} {e : GoError}
    (hFault : env.fault w.calls = some e) {kind : Kind S T} {o : Object S T} :
    update env kind o w = .error e { w with calls := w.calls + 1 } :=
  bind_of_error (call_eq_error hFault)

theorem update_eq_ok [DecidableEq S] {w : World} {kind : Kind S T} {o old : Object S T}
    (hFault : env.fault w.calls = none)
    (hOld : lookup kind w.cluster o.metadata.ns o.metadata.name = some old) :
    ∃ w', update env kind o w = .ok (updated old o) w' := by
  unfold update
  rw [bind_of_ok (call_eq_ok hFault), get_bind]
  dsimp only
  rw [hOld]
  exact ⟨_, rfl⟩

theorem update_spec [DecidableEq S] (kind : Kind S T) (o : Object S T) (w : World) :
    Triple (· = w) (update env kind o)
      (fun stored w' => ∃ old, lookup kind w.cluster o.metadata.ns o.metadata.name = some old ∧
        stored = updated old o ∧
        kind.get w'.cluster =
          Keyed.write (hasKey o.metadata.ns o.metadata.name) (fun _ => stored)
            (kind.get w.cluster))
      (Reads w) := by
  refine .bind (call_spec w) fun _ => ?_
  rintro _ rfl
  rw [get_bind]
  cases hLookup : lookup kind w.cluster o.metadata.ns o.metadata.name with
  | none => exact ⟨_, rfl⟩
  | some old => exact ⟨old, rfl, rfl, kind.get_set _ _⟩

variable {env}

theorem has_storeStatus {fp : Footprint} {kind : Kind S T} {stored : T → T} {o : Object S T}
    (h : kind.id ∈ fp.objects := by decide) : Has fp (storeStatus env kind stored o) := by
  refine .bind (has_call env) fun _ w => ?_
  rw [get_bind]
  cases lookup kind w.cluster o.metadata.ns o.metadata.name with
  | none => exact Touches.refl fp w
  | some _ => exact touches_set h w

variable (env)

theorem storeStatus_spec (kind : Kind S T) (stored : T → T) (o : Object S T) (w : World) :
    Triple (· = w) (storeStatus env kind stored o)
      (fun _ w' => kind.get w'.cluster =
        Keyed.write (hasKey o.metadata.ns o.metadata.name)
          (fun x => { x with status := stored o.status }) (kind.get w.cluster))
      (Reads w) := by
  refine .bind (call_spec w) fun _ => ?_
  rintro _ rfl
  rw [get_bind]
  cases lookup kind w.cluster o.metadata.ns o.metadata.name with
  | none => exact ⟨_, rfl⟩
  | some old => exact kind.get_set _ _

theorem has_updateOrRelease [DecidableEq S] {fp : Footprint} {kind : Kind S T}
    (h : kind.id ∈ fp.objects) {o : Object S T} : Has fp (updateOrRelease env kind o) := by
  refine .bind (has_update h) fun stored => ?_
  split
  · exact .modify fun w => touches_set h w
  · exact .pure

/-- Without finalizers an object that is being deleted goes; otherwise it is updated. -/
theorem updateOrRelease_spec [DecidableEq S] (kind : Kind S T) (o : Object S T) (w : World) :
    Triple (· = w) (updateOrRelease env kind o)
      (fun _ w' => ∃ old, lookup kind w.cluster o.metadata.ns o.metadata.name = some old ∧
        kind.get w'.cluster =
          if (updated old o).metadata.deletionTimestamp.isSome &&
              (updated old o).metadata.finalizers.isEmpty then
            (kind.get w.cluster).filter fun x => !hasKey o.metadata.ns o.metadata.name x
          else Keyed.write (hasKey o.metadata.ns o.metadata.name) (fun _ => updated old o)
            (kind.get w.cluster))
      (Reads w) := by
  refine .bind (update_spec env kind o w) fun stored => .of_each ?_
  rintro w1 ⟨old, hOld, rfl, hGet⟩
  split
  · next hGone =>
    refine .modify ?_
    rintro _ rfl
    refine ⟨old, hOld, ?_⟩
    have hKey : hasKey o.metadata.ns o.metadata.name (updated old o) = true :=
      hasKey_iff.mpr ⟨rfl, rfl⟩
    rw [if_pos hGone]
    refine (kind.get_set _ _).trans ?_
    rw [hGet]
    exact Keyed.filter_not_write (fun _ _ => hKey)
  · next hStays =>
    refine .ret ?_
    exact ⟨old, hOld, by rw [if_neg hStays, hGet]⟩

/-- What a `Delete` makes of an object: it goes, or is marked if it has finalizers. -/
def removedOrMarked (time : Int) (x : Object S T) : Option (Object S T) :=
  if x.metadata.finalizers.isEmpty then none
  else some { x with
    metadata.deletionTimestamp := some (x.metadata.deletionTimestamp.getD time) }

theorem removedOrMarked_sameContent {time : Int} {x y : Object S T}
    (h : removedOrMarked time x = some y) :
    SameContent x y ∧ y.metadata.ownerReferences = x.metadata.ownerReferences := by
  unfold removedOrMarked at h
  split at h
  · cases h
  · cases h
    exact ⟨⟨rfl, rfl, rfl, rfl, rfl⟩, rfl⟩

theorem delete_revises (kind : Kind S T) (o : Object S T) (w : World) :
    Triple (· = w) (delete env kind o)
      (fun _ w' => kind.get w'.cluster = Keyed.revise (hasKey o.metadata.ns o.metadata.name)
        (removedOrMarked (storedTime env.clock.wall)) (kind.get w.cluster))
      (Reads w) := by
  refine .bind (call_spec w) fun _ => ?_
  rintro _ rfl
  exact kind.get_set _ _

theorem delete_spec (kind : Kind S T) (o : Object S T) (w : World) :
    Triple (· = w) (delete env kind o)
      (fun _ w' => ∀ x' ∈ kind.get w'.cluster, ∃ x ∈ kind.get w.cluster,
        SameContent x x' ∧ x'.metadata.ownerReferences = x.metadata.ownerReferences)
      (Reads w) := by
  refine (delete_revises env kind o w).post fun _ w' h x' hx' => ?_
  rw [h] at hx'
  rcases Keyed.mem_revise hx' with ⟨x, hx, -, hSome⟩ | ⟨hx, -⟩
  · exact ⟨x, hx, removedOrMarked_sameContent hSome⟩
  · exact ⟨x', hx, .refl x', rfl⟩

end Pass

theorem Has.leads {fp : Footprint} {α : Type} {m : Pass α} (h : Has fp m) {w0 w : World}
    (hw : Touches fp w0 w) :
    Ensures (· = w) m (Touches fp w0) := by
  refine (h.continues w0).pre ?_
  rintro _ rfl
  exact hw

theorem Has.extends {fp : Footprint} {α : Type} {m : Pass α} (h : Has fp m) (w0 : World) :
    Returns (Touches fp w0) m (fun _ => Touches fp w0) :=
  (h.continues w0).anyError

theorem Touches.notReady_eq {fp : Footprint} {w w' : World} (h : Touches fp w w')
    (hr : fp.reasons = []) : w'.verdicts.notReady = w.verdicts.notReady := by
  cases hw : w'.verdicts.notReady with
  | some v =>
    rcases h.reasons v hw with hv | hv
    · exact hv.symm
    · rw [hr] at hv
      cases hv
  | none =>
    cases hv : w.verdicts.notReady with
    | none => rfl
    | some v =>
      rw [h.verdicts.notReady v hv] at hw
      cases hw

/-! ## Ending the chain -/

/-- A sub-reconciler that ends the chain leaves a verdict. -/
def ExitsWithVerdict (m : Pass SubReconcilerResult) : Prop :=
  Triple (fun _ => True) m (fun r w => r.EndsChain → ¬ w.verdicts.Empty) fun _ => True

namespace ExitsWithVerdict

variable {α : Type}

theorem bind {m : Pass α} {f : α → Pass SubReconcilerResult} (h : ∀ a, ExitsWithVerdict (f a)) :
    ExitsWithVerdict (m >>= f) :=
  Triple.bind_any h

theorem throw {e : GoError} : ExitsWithVerdict (MonadExcept.throw e) :=
  Triple.throw fun _ _ => trivial

theorem goOn {r : SubReconcilerResult} (h : ¬ r.EndsChain) : ExitsWithVerdict (pure r) :=
  .pure fun _ _ hr => absurd hr h

theorem notReady (reason msg : String) (r : SubReconcilerResult) :
    ExitsWithVerdict (Pass.reportNotReady reason msg >>= fun _ => pure r) := by
  intro w _ _
  exact VerdictCollector.reportNotReady_not_empty

theorem failed (reason msg : String) (r : SubReconcilerResult) :
    ExitsWithVerdict (Pass.reportFailed reason msg >>= fun _ => pure r) := by
  intro w _ _
  exact VerdictCollector.reportFailed_not_empty

end ExitsWithVerdict

end ClusterAgent
