import ClusterAgent.Postgres.DatabaseFrame
import ClusterAgent.StackResource.TLSClocks
import ClusterAgent.StackStorage.Controller

/-!
# Cluster agent — the order of Go maps

Go iterates a map in any order. Three loops over maps decide what a status says:
the public addresses of a StackResource, the Volumes of a Storage, and the first
check of a PostgresCluster that fails.

* `Agree` — all elements that have a value have the same one; exactly then the
  values, and the first of them, do not depend on the order (`Agree.of_first`,
  `Agree.filterMap_eq`).
* `order_irrelevant_iff` — when the three statuses do not depend on the order.
-/

namespace ClusterAgent

open Pass Effect Session

/-! ## Values along a list in any order -/

section

variable {α β : Type} {f : α → Option β} {l : List α}

def Agree (f : α → Option β) (l : List α) : Prop :=
  ∀ x ∈ l, ∀ y ∈ l, ∀ a ∈ f x, ∀ b ∈ f y, a = b

theorem exists_first {x : α} (hMem : x ∈ l) {a : β} (h : a ∈ f x) :
    ∃ l' : List α, l'.Perm l ∧ a ∈ (l'.filterMap f).head? := by
  obtain ⟨before, after, rfl⟩ := List.append_of_mem hMem
  refine ⟨x :: (before ++ after), List.perm_middle.symm, ?_⟩
  rw [List.filterMap_cons_some h]
  rfl

theorem Agree.of_first (h : ∀ l1 l2 : List α, l1.Perm l → l2.Perm l →
    ∀ a ∈ (l1.filterMap f).head?, ∀ b ∈ (l2.filterMap f).head?, a = b) : Agree f l := by
  intro x hx y hy a ha b hb
  obtain ⟨l1, hPerm1, hFirst1⟩ := exists_first hx ha
  obtain ⟨l2, hPerm2, hFirst2⟩ := exists_first hy hb
  exact h l1 l2 hPerm1 hPerm2 a hFirst1 b hFirst2

theorem Agree.filterMap_eq (h : Agree f l) {l' : List α} (hPerm : l'.Perm l) :
    l'.filterMap f = l.filterMap f := by
  have hValues := hPerm.filterMap f
  cases hFirst : l.filterMap f with
  | nil => exact List.perm_nil.mp (hFirst ▸ hValues)
  | cons a rest =>
    have hAll : ∀ b ∈ l.filterMap f, b = a := by
      intro b hb
      obtain ⟨x, hx, hfx⟩ := List.mem_filterMap.mp hb
      obtain ⟨y, hy, hfy⟩ := List.mem_filterMap.mp (hFirst ▸ List.mem_cons_self)
      exact h x hx y hy b hfx a hfy
    rw [← hFirst]
    rw [List.eq_replicate_of_mem hAll] at hValues ⊢
    exact List.perm_replicate.mp hValues

theorem filterMap_perm_iff :
    (∀ l1 l2 : List α, l1.Perm l → l2.Perm l → l1.filterMap f = l2.filterMap f) ↔ Agree f l := by
  constructor
  · intro h
    refine Agree.of_first fun l1 l2 h1 h2 a ha b hb => ?_
    rw [h l1 l2 h1 h2] at ha
    exact Option.some.inj (ha.symm.trans hb)
  · intro h l1 l2 h1 h2
    exact (h.filterMap_eq h1).trans (h.filterMap_eq h2).symm

end

/-- An order in which the keys of a map may come. -/
structure KeyOrder (α : Type) where
  keys : List α → List α
  perm : ∀ l, (keys l).Perm l

def KeyOrder.asListed {α : Type} : KeyOrder α := ⟨id, fun _ => .refl _⟩

def KeyOrder.listing {α : Type} [DecidableEq α] {l l' : List α} (h : l'.Perm l) : KeyOrder α where
  keys k := if k = l then l' else k
  perm k := by
    split
    · next hSame => exact hSame ▸ h
    · exact .refl _

theorem KeyOrder.keys_listing {α : Type} [DecidableEq α] {l l' : List α} (h : l'.Perm l) :
    (listing h).keys l = l' := if_pos rfl

/-! ## The checks of a PostgresCluster -/

namespace PostgresController

open Addons

/-- The session after `n` calls to the API server. -/
def atCall (s : Session PostgresCluster) (n : Nat) : Session PostgresCluster :=
  { s with world := { s.world with calls := n } }

/-- What a check comes to: nothing, a status that says what is wrong, or an error. -/
inductive Finding where
  | nothing
  | wrong (own : PostgresCluster)
  | broken (e : GoError)

def Finding.outcome (s : Session PostgresCluster) :
    Finding → EStateM.Result GoError (Session PostgresCluster) StepResult
  | .nothing => .ok .nil s
  | .wrong own => .ok .stop { s with own := own }
  | .broken e => .error e s

/-- What the check finds does not depend on the number of the call. -/
def Judges (m : PostgresPass StepResult) : Prop :=
  ∀ s, ∃ finding : Finding, ∀ n, ∃ n', m (atCall s n) = finding.outcome (atCall s n')

section

variable (env : Env) {S T : Type}

/-- The environment in which every call to the API server is answered and the names of the
checks come in the given order. -/
def answering (order : KeyOrder String) : Env :=
  { env with fault := fun _ => none, nameOrder := order.keys, nameOrder_perm := order.perm }

theorem judges_pass : Judges (pure .nil) := fun _ => ⟨.nothing, fun n => ⟨n, rfl⟩⟩

theorem judges_throw {e : GoError} : Judges (throw e) := fun _ => ⟨.broken e, fun n => ⟨n, rfl⟩⟩

variable {env}

theorem judges_invalid {reason message : String} : Judges (invalid env reason message) :=
  fun s => ⟨.wrong (finalState (invalid env reason message s)).own, fun n => ⟨n, rfl⟩⟩

theorem judges_getOwn {f : PostgresCluster → PostgresPass StepResult} (h : ∀ own, Judges (f own)) :
    Judges (getOwn >>= f) := fun s => h s.own s

variable (order : KeyOrder String)

theorem judges_get {kind : Kind S T} {ns name : String}
    {f : Option (Object S T) → PostgresPass StepResult} (h : ∀ o, Judges (f o)) :
    Judges (onCluster (getObject (answering env order) kind ns name) >>= f) := by
  intro s
  obtain ⟨finding, hEnd⟩ := h (lookup kind s.world.cluster ns name) s
  exact ⟨finding, fun n => hEnd (n + 1)⟩

theorem judges_recoveryObjectStore (spec : Option RecoveryFromObjectStoreSpec) :
    Judges (validateRecoveryObjectStore (answering env order) spec) := by
  cases spec with
  | none => exact judges_pass
  | some spec =>
    refine judges_getOwn fun own => judges_get order fun o => ?_
    repeat' split
    all_goals first | exact judges_pass | exact judges_invalid

theorem judges_recoveryBackup (spec : Option String) :
    Judges (validateRecoveryBackup (answering env order) spec) := by
  cases spec with
  | none => exact judges_pass
  | some backupName =>
    refine judges_getOwn fun own => judges_get order fun o => ?_
    repeat' split
    all_goals first | exact judges_pass | exact judges_invalid

theorem judges_recovery {spec : RecoverySpec} :
    Judges (validateRecoverySpec (answering env order) spec) := by
  intro s
  obtain ⟨finding, hStore⟩ := judges_recoveryObjectStore order spec.objectStoreSpec s
  obtain ⟨finding', hBackup⟩ := judges_recoveryBackup order spec.backupSpec s
  refine ⟨match finding with | .nothing => finding' | finding => finding, fun n => ?_⟩
  obtain ⟨n1, h1⟩ := hStore n
  obtain ⟨n2, h2⟩ := hBackup n1
  cases finding with
  | nothing => exact ⟨n2, (bind_of_ok h1).trans h2⟩
  | wrong own => exact ⟨n1, bind_of_ok h1⟩
  | broken e => exact ⟨n1, bind_of_error h1⟩

theorem judges_bootstrap : Judges (validateBootstrapSpec (answering env order)) := by
  refine judges_getOwn fun own => ?_
  split
  · exact judges_pass
  · split
    · unfold validateInitDbSpec
      split
      · refine judges_getOwn fun own => judges_get order fun o => ?_
        repeat' split
        all_goals first | exact judges_pass | exact judges_invalid
      · exact judges_pass
    · exact judges_recovery order
    · exact judges_pass

theorem judges_validations {name : String} {m : PostgresPass StepResult}
    (h : (name, m) ∈ validations (answering env order)) : Judges m := by
  simp only [validations, List.mem_cons, Prod.mk.injEq, List.not_mem_nil, or_false] at h
  rcases h with ⟨-, rfl⟩ | ⟨-, rfl⟩ | ⟨-, rfl⟩ | ⟨-, rfl⟩ | ⟨-, rfl⟩
  case inr.inr.inr.inr => exact judges_bootstrap order
  all_goals refine judges_getOwn fun own => ?_
  all_goals repeat' first | split | refine judges_get order fun o => ?_
  all_goals first | exact judges_pass | exact judges_invalid | exact judges_throw

end

/-- The status a check leaves, unless it finds nothing. -/
def complaint (m : PostgresPass StepResult) (s : Session PostgresCluster) :
    Option PostgresClusterStatus :=
  match m s with
  | .ok .nil _ => none
  | .ok _ s' | .error _ s' => some s'.own.status

/-- The status the check of the given name leaves, unless it finds nothing. -/
def complaintOf (env : Env) (s : Session PostgresCluster) (name : String) :
    Option PostgresClusterStatus :=
  ((validations env).lookup name).bind fun m => complaint m s

variable {env : Env} (order : KeyOrder String)

/-- The checks end with what the first one that complains leaves. -/
theorem status_runValidations {names : List String} (s : Session PostgresCluster) (n : Nat) :
    (finalState (runValidations (answering env order) names (atCall s n))).own.status =
      ((names.filterMap (complaintOf (answering env order) s)).head?).getD
        (finalState (runValidations env [] s)).own.status := by
  -- over the names, at any number of calls: no check depends on it
  induction names generalizing n with
  | nil => rfl
  | cons name rest ih =>
    unfold runValidations
    rw [List.filterMap_cons]
    -- a name without a check is skipped
    cases hCheck : (validations (answering env order)).lookup name with
    | none =>
      have hNone : complaintOf (answering env order) s name = none := by
        unfold complaintOf
        rw [hCheck]
        rfl
      rw [hNone]
      exact ih n
    | some m =>
      -- what the check finds at call `n` is what it finds in the session itself
      obtain ⟨before, after, hSplit, -⟩ := List.lookup_eq_some_iff.mp hCheck
      obtain ⟨finding, hOutcome⟩ := judges_validations order
        (hSplit ▸ List.mem_append_right _ List.mem_cons_self) s
      obtain ⟨n', h⟩ := hOutcome n
      obtain ⟨n0, h0⟩ := hOutcome s.world.calls
      have h0 : m s = finding.outcome (atCall s n0) := h0
      have hComplaint : complaintOf (answering env order) s name = complaint m s := by
        unfold complaintOf
        rw [hCheck]
        rfl
      rw [hComplaint]
      unfold complaint
      rw [h0]
      dsimp only
      -- only a check that finds nothing lets the next one run
      cases finding with
      | nothing =>
        rw [bind_of_ok (attempt_of_ok h)]
        exact ih n'
      | wrong own =>
        rw [bind_of_ok (attempt_of_ok h)]
        rfl
      | broken e =>
        rw [bind_of_ok (attempt_of_error h)]
        rfl

theorem complaintOf_order (s : Session PostgresCluster) :
    complaintOf (answering env order) s = complaintOf (answering env .asListed) s := rfl

theorem status_validation (s : Session PostgresCluster) (hRuns : shouldRunValidation s.own = true) :
    (finalState (reconcileResourceValidation (answering env order) s)).own.status =
      (((order.keys ((validations env).map Prod.fst)).filterMap
        (complaintOf (answering env .asListed) s)).head?).getD
          (finalState (runValidations env [] s)).own.status := by
  unfold reconcileResourceValidation
  rw [bind_of_ok (rfl : getOwn s = .ok s.own s), if_pos hRuns, ← complaintOf_order order]
  exact status_runValidations order s s.world.calls

theorem validation_order_iff (s : Session PostgresCluster) :
    (∀ o o' : KeyOrder String,
      (finalState (reconcileResourceValidation (answering env o) s)).own.status =
        (finalState (reconcileResourceValidation (answering env o') s)).own.status) ↔
    (shouldRunValidation s.own = true →
      Agree (complaintOf (answering env .asListed) s) ((validations env).map Prod.fst)) := by
  cases hRuns : shouldRunValidation s.own with
  | false =>
    refine iff_of_true (fun o o' => ?_) nofun
    unfold reconcileResourceValidation
    rw [bind_of_ok (rfl : getOwn s = .ok s.own s), bind_of_ok (rfl : getOwn s = .ok s.own s), hRuns]
    rfl
  | true =>
    constructor
    · intro h _
      refine Agree.of_first fun l1 l2 h1 h2 a ha b hb => ?_
      have hSame := h (.listing h1) (.listing h2)
      rw [status_validation _ s hRuns, status_validation _ s hRuns, KeyOrder.keys_listing,
        KeyOrder.keys_listing, ha, hb] at hSame
      exact hSame
    · intro h o o'
      rw [status_validation o s hRuns, status_validation o' s hRuns,
        (h rfl).filterMap_eq (o.perm _), (h rfl).filterMap_eq (o'.perm _)]

end PostgresController

/-! ## The three statuses -/

section

open Service StackStorage PostgresController

/-- The address that is published for a port of the map. -/
def published (resource : StackResource) (fqdns : PortMap) (cert refs : TLSStage) (port : Int) :
    Option ExternalAddress :=
  (fqdns.lookup port).bind (buildExternalAddress resource cert refs port)

theorem targetPort_published {resource : StackResource} {fqdns : PortMap} {cert refs : TLSStage}
    {port : Int} {address : ExternalAddress}
    (h : address ∈ published resource fqdns cert refs port) : address.targetPort = port := by
  obtain ⟨fqdn, -, hBuilt⟩ := Option.bind_eq_some_iff.mp h
  unfold buildExternalAddress at hBuilt
  repeat' split at hBuilt
  all_goals cases hBuilt
  all_goals rfl

/-- **When the order of the maps does not show.** The published addresses, the status of the
Volumes and the result of the checks come out the same in every order, if and only if at most one
port is published, all Volumes carry one name and availability (so there is at most one: the
names are the keys of the map), and the checks that complain leave one and the same status. -/
theorem order_irrelevant_iff (env : Env) (resource : StackResource) (fqdns : PortMap)
    (cert refs : TLSStage) (storage : Session Storage) (volumes : List Volume)
    (pg : Session PostgresCluster) :
    ((∀ o o' : KeyOrder Int,
      buildExternalAddresses { env with mapOrder := o.keys, mapOrder_perm := o.perm } resource fqdns
          cert refs =
        buildExternalAddresses { env with mapOrder := o'.keys, mapOrder_perm := o'.perm } resource
          fqdns cert refs) ∧
      (∀ l l' : List Volume, l.Perm volumes → l'.Perm volumes →
        (finalState (setVolumeStatus l storage)).own.status =
          (finalState (setVolumeStatus l' storage)).own.status) ∧
      ∀ o o' : KeyOrder String,
        (finalState (reconcileResourceValidation (answering env o) pg)).own.status =
          (finalState (reconcileResourceValidation (answering env o') pg)).own.status) ↔
    (∀ p ∈ fqdns.map Prod.fst, ∀ q ∈ fqdns.map Prod.fst,
      (published resource fqdns cert refs p).isSome →
      (published resource fqdns cert refs q).isSome →
        p = q) ∧
      (∀ v ∈ volumes, ∀ v' ∈ volumes, v.name = v'.name ∧ volumeAvailable v = volumeAvailable v') ∧
      (shouldRunValidation pg.own = true →
        Agree (complaintOf (answering env .asListed) pg) ((validations env).map Prod.fst)) := by
  refine and_congr ?_ (and_congr ?_ (validation_order_iff pg))
  -- the addresses: two ports that are both published can be told apart by their number
  · have hOrders := filterMap_perm_iff (f := published resource fqdns cert refs)
      (l := fqdns.map Prod.fst)
    constructor
    · intro h p hp q hq hPublished hPublished'
      obtain ⟨a, ha⟩ := Option.isSome_iff_exists.mp hPublished
      obtain ⟨b, hb⟩ := Option.isSome_iff_exists.mp hPublished'
      -- every listing of the keys is the order of some map
      have hAgree := hOrders.mp fun l1 l2 h1 h2 => by
        have hSame := h (.listing h1) (.listing h2)
        dsimp only [buildExternalAddresses] at hSame
        rw [KeyOrder.keys_listing, KeyOrder.keys_listing] at hSame
        exact hSame
      rw [← targetPort_published ha, ← targetPort_published hb, hAgree p hp q hq a ha b hb]
    · intro h o o'
      refine hOrders.mpr (fun p hp q hq a ha b hb => ?_) _ _ (o.perm _) (o'.perm _)
      cases h p hp q hq (Option.isSome_of_mem ha) (Option.isSome_of_mem hb)
      exact Option.some.inj (ha.symm.trans hb)
  -- the Volumes: what is stored of one is its name and whether it is available
  · let info (v : Volume) : VolumeInfo :=
      { volumeName := v.name, subpath := mountPathForVolume storage.own v.name
        available := volumeAvailable v }
    have hStatus : ∀ l l' : List Volume, (finalState (setVolumeStatus l storage)).own.status =
          (finalState (setVolumeStatus l' storage)).own.status ↔
        l.filterMap (fun v => some (info v)) = l'.filterMap fun v => some (info v) := by
      intro l l'
      rw [List.filterMap_eq_map']
      exact ⟨fun h => congrArg StorageStatus.volumeStatus h,
        fun h => congrArg (fun infos => { storage.own.status with volumeStatus := infos }) h⟩
    have hInfo : ∀ v v' : Volume, info v = info v' ↔
        v.name = v'.name ∧ volumeAvailable v = volumeAvailable v' := by
      intro v v'
      refine ⟨fun h => ⟨congrArg VolumeInfo.volumeName h, congrArg VolumeInfo.available h⟩, ?_⟩
      rintro ⟨hName, hAvailable⟩
      simp only [info, hName, hAvailable]
    simp only [hStatus, filterMap_perm_iff, Agree, Option.mem_some_iff, forall_eq', hInfo]

/-! ## Three passes that show the order -/

def reversedEnv : Env :=
  { ObjectPass.quietEnv with
    mapOrder := List.reverse, mapOrder_perm := List.reverse_perm
    nameOrder := List.reverse, nameOrder_perm := List.reverse_perm }

def twoPorts : StackResource :=
  { StackResourceController.shopFront with
    spec.ports := [{ name := "web", number := 80, exposeToPublic := true, fqdn := "a.io" },
                   { name := "api", number := 81, exposeToPublic := true, fqdn := "b.io" }] }

/-- The first pass over `twoPorts` is over and its Deployment serves. -/
def twoPortsServing : World :=
  let w := finalState (StackResourceController.reconcile ObjectPass.quietEnv "shop" "front"
    { cluster := { stackResources := [twoPorts] }, resource := twoPorts })
  { w with cluster.deployments := w.cluster.deployments.map StackResourceController.rolledOut }

def addressesAfter (env : Env) : Option (List ExternalAddress) :=
  (StackResourceController.lookupResource (finalState (StackResourceController.reconcile env "shop"
    "front" twoPortsServing)).cluster "shop" "front").map fun r => r.status.externalAddress

def twoVolumes : Cluster where
  storages :=
    [{ metadata := { name := "data", ns := "shop", uid := "u2", generation := 1 }
       spec := { volumeSpecs := [("a", {}), ("b", {})] }
       status := {} }]
  volumes := ["a", "b"].map fun name =>
    { metadata := { name := name, ns := "shop", generation := 1 }
      spec := {}
      status :=
        { conditions := [{ type := .available, status := .conditionTrue, observedGeneration := 1
                           reason := "", message := "" }] } }

def volumesAfter (env : Env) : Option (List VolumeInfo) :=
  (lookup .storage (finalState (StackStorage.reconcile env "shop" "data"
    ⟨ObjectPass.worldOf twoVolumes,
      { metadata := { name := "" }, spec := {}, status := {} }⟩)).world.cluster
      "shop" "data").map fun s => s.status.volumeStatus

/-- A PostgresCluster whose storage class and image catalog are both missing. -/
def checksAfter (env : Env) : Option Addons.PostgresClusterStatus :=
  (lookup .postgresCluster (finalState (PostgresController.reconcile env "team" "shop"
    ⟨ObjectPass.worldOf { postgresClusters := [shopCluster] }, shopCluster⟩)).world.cluster
      "team" "shop").map fun pg => pg.status

/-- What each pass stores depends on the order: the addresses of two public ports, the Volumes of
a Storage, and which of two failing checks of a PostgresCluster is named. -/
theorem order_shows :
    addressesAfter ObjectPass.quietEnv ≠ addressesAfter reversedEnv ∧
      volumesAfter ObjectPass.quietEnv ≠ volumesAfter reversedEnv ∧
      checksAfter ObjectPass.quietEnv ≠ checksAfter reversedEnv := by
  refine ⟨?_, ?_, ?_⟩ <;> decide +kernel

end

end ClusterAgent
