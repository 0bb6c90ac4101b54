import ClusterAgent.Controller.Session

/-!
# Cluster agent — passes over one object

The controllers of PostgresClusters, Storages and Users share one shape: a pass
fetches its object, runs a chain of sub-reconcilers over the in-memory copy until
one of them ends it, and stores the status. `runChain` is that chain.

A sub-reconciler writes the status of the in-memory object and the objects of a
few kinds. `Alters kinds` is the relation between the sessions before and after
such a step, whether it succeeded or failed.
-/

namespace ClusterAgent

open Effect Session Pass

/-- What a sub-reconciler tells the chain: to go on, to end the pass, or to end it and
come back. -/
inductive StepResult where
  | nil
  | stop
  | requeue
  | requeueAfter (t : Int)
  deriving DecidableEq, Repr

abbrev ObjectPass (S T : Type) := PassOver (Object S T)

namespace ObjectPass

variable {S T α : Type}

def worldOf (c : Cluster) : World where
  cluster := c
  resource := { metadata := { name := "" }, spec := {} }

def quietEnv : Env where
  clock := { wall := 0, monotonic := 0 }
  buildInputsHash _ := ""
  statusDigest _ := ""
  urlHost _ := .ok ""
  dockerConfigJSON _ _ _ := ""

def modifyStatus (f : T → T) : ObjectPass S T Unit :=
  modifyOwn fun o => { o with status := f o.status }

def runChain {M : Type} : List (PassOver M StepResult) → PassOver M ReconcileResult
  | [] => return {}
  | step :: rest => do
    match ← step with
    | .nil => runChain rest
    | .stop => return {}
    | .requeue => return { requeue := true }
    | .requeueAfter t => return { requeueAfter := t }

/-- `SetControllerReference` of an object to the object of the pass, which is of the given
kind. -/
def controlledBy {S' T' : Type} (owner : ObjectMeta) (kind : String) (o : Object S' T') :
    Pass (Object S' T') :=
  match setControllerReference owner kind o.metadata with
  | some metadata => return { o with metadata := metadata }
  | none => throw { message := "Object is already owned by another controller" }

theorem reads_controlledBy {owner : ObjectMeta} {kind : String}
    {o : Object S T} : ReadsOnly (controlledBy owner kind o) := by
  unfold controlledBy
  split
  · exact .pure
  · exact .throw

theorem controlledBy_content (owner : ObjectMeta) (kind : String)
    (o : Object S T) :
    Returns (fun _ => True) (controlledBy owner kind o) (fun o' _ => SameContent o o') := by
  unfold controlledBy
  split
  · next metadata hRef =>
    obtain ⟨refs, rfl⟩ := setControllerReference_eq hRef
    exact .pure fun _ _ => ⟨rfl, rfl, rfl, rfl, rfl⟩
  · exact .throw fun _ _ => trivial

theorem controlledBy_new {owner : ObjectMeta} {kind : String} {o : Object S T}
    (hNs : o.metadata.ns = owner.ns) (hRefs : o.metadata.ownerReferences = []) (w : World) :
    Achieves (· = w) (controlledBy owner kind o)
      (fun o' w' => SameContent o o' ∧ w' = w) := by
  have hSome : ∃ metadata, setControllerReference owner kind o.metadata = some metadata := by
    unfold setControllerReference getControllerOf
    rw [hNs, hRefs]
    simp
  obtain ⟨metadata, hMetadata⟩ := hSome
  unfold controlledBy
  rw [hMetadata]
  obtain ⟨refs, rfl⟩ := setControllerReference_eq hMetadata
  exact .pure fun _ h => ⟨⟨rfl, rfl, rfl, rfl, rfl⟩, h⟩

section

variable {M : Type} {env : Env} {kind : Kind S T} {ns name : String} {s : Session M}
  {Q : α → Session M → Prop} {E : Session M → Prop}

theorem bind_getOwn {f : M → PassOver M α} (h : Triple (· = s) (f s.own) Q E) :
    Triple (· = s) (getOwn >>= f) Q E := by
  rintro s rfl
  exact h s rfl

theorem onCluster_total {m : Pass α} {Q : α → World → Prop}
    (h : Achieves (· = s.world) m Q) :
    Achieves (· = s) (onCluster m) (fun a s' => Q a s'.world ∧ s'.own = s.own) :=
  (onCluster_spec h s.own).onError fun _ h => h.1

theorem bind_modifyOwn {g : M → M} {f : Unit → PassOver M α}
    (h : Triple (· = { s with own := g s.own }) (f ()) Q E) :
    Triple (· = s) (modifyOwn g >>= f) Q E := by
  rintro s rfl
  exact h _ rfl

theorem onCluster_of_ok {m : Pass α} {a : α} {w : World} (h : m s.world = .ok a w) :
    onCluster m s = .ok a { s with world := w } := by
  unfold onCluster
  rw [h]

theorem onCluster_of_error {m : Pass α} {e : GoError} {w : World} (h : m s.world = .error e w) :
    onCluster m s = .error e { s with world := w } := by
  unfold onCluster
  rw [h]

theorem bind_lookup {f : Option (Object S T) → PassOver M α}
    (hError : ∀ s', s'.world.cluster = s.world.cluster → E s')
    (h : env.fault s.world.calls = none →
      Triple (· = { s with world := { s.world with calls := s.world.calls + 1 } })
        (f (lookup kind s.world.cluster ns name)) Q E) :
    Triple (· = s) (onCluster (getObject env kind ns name) >>= f) Q E := by
  rintro s rfl
  cases hFault : env.fault s.world.calls with
  | some e =>
    rw [bind_of_error (onCluster_of_error (getObject_eq_error hFault kind ns name))]
    exact hError _ rfl
  | none =>
    rw [bind_of_ok (onCluster_of_ok (getObject_eq_ok hFault kind ns name))]
    exact h hFault _ rfl

theorem bind_fetch {o : Object S T} {f : Option (Object S T) → PassOver M α}
    (hFound : lookup kind s.world.cluster ns name = some o)
    (hError : ∀ s', s'.world.cluster = s.world.cluster → E s')
    (h : env.fault s.world.calls = none →
      Triple (· = { s with world := { s.world with calls := s.world.calls + 1 } })
        (f (some o)) Q E) :
    Triple (· = s) (onCluster (getObject env kind ns name) >>= f) Q E :=
  bind_lookup hError fun hFault => hFound ▸ h hFault

theorem reconcile_none {a : α} {f : Option (Object S T) → PassOver M α}
    (hNone : lookup kind s.world.cluster ns name = none) (hf : f none = pure a) :
    (finalState ((onCluster (getObject env kind ns name) >>= f) s)).world.cluster =
      s.world.cluster := by
  refine Triple.reached (P := (· = s)) (I := fun s' => s'.world.cluster = s.world.cluster)
    (bind_lookup (fun _ h => h) fun _ => ?_) rfl
  rw [hNone, hf]
  exact .ret rfl

theorem bind_attempt_getObject {f : Except GoError (Option (Object S T)) → PassOver M α}
    (hError : ∀ e w, Reads s.world w → Triple (· = { s with world := w }) (f (.error e)) Q E)
    (hOk : ∀ w, Reads s.world w → Triple (· = { s with world := w })
      (f (.ok (lookup kind s.world.cluster ns name))) Q E) :
    Triple (· = s) (onCluster (attempt (getObject env kind ns name)) >>= f) Q E := by
  rintro s rfl
  cases hFault : env.fault s.world.calls with
  | some e =>
    have hGet := getObject_eq_error hFault kind ns name
    rw [bind_of_ok (onCluster_of_ok (attempt_of_error hGet))]
    exact hError e _ ⟨_, rfl⟩ _ rfl
  | none =>
    have hGet := getObject_eq_ok hFault kind ns name
    rw [bind_of_ok (onCluster_of_ok (attempt_of_ok hGet))]
    exact hOk _ ⟨_, rfl⟩ _ rfl

theorem bind_controlledBy {owner : ObjectMeta} {kind : String}
    {o : Object S T} {f : Object S T → PassOver M α} (hError : E s)
    (h : ∀ refs, Triple (· = s) (f { o with metadata.ownerReferences := refs }) Q E) :
    Triple (· = s) (onCluster (controlledBy owner kind o) >>= f) Q E := by
  unfold controlledBy
  cases hRef : setControllerReference owner kind o.metadata with
  | none =>
    rintro s rfl
    exact hError
  | some metadata =>
    obtain ⟨refs, rfl⟩ := setControllerReference_eq hRef
    exact h refs

end

/-! ## What a step alters -/

/-- Only objects of the given kinds differ; the in-memory object has its metadata and spec. The
counterpart of `Touches` for the controllers whose in-memory object is not a StackResource. -/
structure Alters (kinds : List ObjectKind) (s s' : Session (Object S T)) : Prop where
  metadata : s'.own.metadata = s.own.metadata
  spec : s'.own.spec = s.own.spec
  objects : ∀ k, k ∉ kinds → s.world.cluster.Same s'.world.cluster k

variable {kinds : List ObjectKind}

instance : IsPreorder (Session (Object S T)) (Alters kinds) where
  refl _ := ⟨rfl, rfl, fun k _ => .refl _ k⟩
  trans _ _ _ h h' :=
    ⟨h'.metadata.trans h.metadata, h'.spec.trans h.spec,
      fun k hk => (h.objects k hk).trans (h'.objects k hk)⟩

theorem Alters.widen {kinds' : List ObjectKind} {s s' : Session (Object S T)}
    (h : Alters kinds s s') (hSub : kinds ⊆ kinds' := by decide) : Alters kinds' s s' :=
  ⟨h.metadata, h.spec, fun k hk => h.objects k fun hk' => hk (hSub hk')⟩

structure Over (o : Object S T) (s : Session (Object S T)) : Prop where
  metadata : s.own.metadata = o.metadata
  spec : s.own.spec = o.spec

theorem Over.alters {o : Object S T} {s s' : Session (Object S T)} (h : Over o s)
    (hAlters : Alters kinds s s') : Over o s' :=
  ⟨hAlters.metadata.trans h.metadata, hAlters.spec.trans h.spec⟩

theorem alters_onCluster {m : Pass α} (h : Has { objects := kinds } m) :
    Within (Alters kinds) (onCluster m : ObjectPass S T α) := by
  refine (within_onCluster h).mono fun s s' hs => ?_
  exact ⟨by rw [hs.2], by rw [hs.2], hs.1.objects⟩

theorem alters_reads {m : Pass α} (h : ReadsOnly m) :
    Within (Alters kinds) (onCluster m : ObjectPass S T α) :=
  alters_onCluster (Has.of_reads h)

theorem alters_getOwn : Within (Alters kinds) (getOwn : ObjectPass S T (Object S T)) :=
  .bind .get fun _ => .pure

theorem alters_modifyStatus {f : T → T} :
    Within (Alters kinds) (modifyStatus f : ObjectPass S T Unit) :=
  .modify fun _ => ⟨rfl, rfl, fun k _ => .refl _ k⟩

theorem alters_runChain {steps : List (ObjectPass S T StepResult)}
    (h : ∀ step ∈ steps, Within (Alters kinds) step) :
    Within (Alters kinds) (runChain steps) := by
  induction steps with
  | nil => exact .pure
  | cons step rest ih =>
    refine .bind (h step List.mem_cons_self) fun result => ?_
    cases result with
    | nil => exact ih fun step hStep => h step (List.mem_cons_of_mem _ hStep)
    | stop => exact .pure
    | requeue => exact .pure
    | requeueAfter t => exact .pure

theorem triple_runChain_cons {M : Type} {P R Q E : Session M → Prop}
    {step : PassOver M StepResult} {rest : List (PassOver M StepResult)}
    (hStep : Triple P step (fun r s => if r = .nil then R s else Q s) E)
    (hRest : Triple R (runChain rest) (fun _ => Q) E) :
    Triple P (runChain (step :: rest)) (fun _ => Q) E := by
  refine .bind hStep fun result => ?_
  cases result with
  | nil => exact hRest.pre fun _ h => (if_pos rfl).mp h
  | stop => exact .pure fun _ h => (if_neg nofun).mp h
  | requeue => exact .pure fun _ h => (if_neg nofun).mp h
  | requeueAfter t => exact .pure fun _ h => (if_neg nofun).mp h

theorem triple_runChain_keep {M : Type} {P Q E : Session M → Prop}
    {step : PassOver M StepResult} {rest : List (PassOver M StepResult)}
    (hStep : Triple P step (fun _ => Q) E) (hRest : Triple Q (runChain rest) (fun _ => Q) E) :
    Triple P (runChain (step :: rest)) (fun _ => Q) E :=
  triple_runChain_cons (hStep.post fun _ _ h => (ite_self _).mpr h) hRest

theorem triple_runChain_all {M : Type} {I : Session M → Prop}
    {steps : List (PassOver M StepResult)}
    (h : ∀ step ∈ steps, Ensures I step I) :
    Ensures I (runChain steps) I := by
  induction steps with
  | nil => exact .skip
  | cons step rest ih =>
    exact triple_runChain_keep (h step List.mem_cons_self)
      (ih fun other hOther => h other (List.mem_cons_of_mem _ hOther))

end ObjectPass

end ClusterAgent
