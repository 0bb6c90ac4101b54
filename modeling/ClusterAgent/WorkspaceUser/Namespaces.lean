import Mathlib.Algebra.Order.BigOperators.Group.List
import Mathlib.Algebra.Order.Ring.Nat
import ClusterAgent.Lib.Runs
import ClusterAgent.WorkspaceUser.Steps

/-!
# Cluster agent — the Namespaces of several Users

A pass takes over every Namespace of its list from whoever owns it, and deletes those that
carry its label but are not listed. The label stays with the User that created the
Namespace. Two Users that list one name therefore take it from each other in every pass,
and the first of them deletes it once it drops the name, although the other lists it.

* `NamespaceEffect` — all a pass does to Namespaces, whatever API call fails;
* `Homed` — every name belongs to one User, which alone lists it;
* `todo` — the writes that are left, which every write of a pass lowers.

Main result: `namespaces_settle`.
-/

namespace ClusterAgent.WorkspaceUser

open Pass Effect Session ObjectPass

/-! ## What a pass does to Namespaces -/

/-- The Namespaces a User wants: its config namespace and those it lists. -/
def claimed (user : User) : List String := userConfigNamespace user :: user.spec.namespaces

/-- The Namespace carries the label of the User, which does not list it. -/
def condemned (user : User) (x : Namespace) : Bool :=
  decide (x.metadata.labels.get? workspaceUserLabel = some user.name) &&
    !decide (x.name ∈ user.spec.namespaces)

def deletable (x : Namespace) : Bool :=
  x.metadata.finalizers.isEmpty || x.metadata.deletionTimestamp.isNone

def prunable (user : User) (x : Namespace) : Bool := condemned user x && deletable x

/-- One Namespace, up to its owner and marks of deletion. -/
structure SameNamespace (x x' : Namespace) : Prop where
  name : x'.metadata.name = x.metadata.name
  ns : x'.metadata.ns = x.metadata.ns
  labels : x'.metadata.labels = x.metadata.labels

theorem SameNamespace.refl (x : Namespace) : SameNamespace x x := ⟨rfl, rfl, rfl⟩

theorem SameNamespace.trans {x x1 x' : Namespace} (h : SameNamespace x x1)
    (h' : SameNamespace x1 x') : SameNamespace x x' :=
  ⟨h'.name.trans h.name, h'.ns.trans h.ns, h'.labels.trans h.labels⟩

theorem SameNamespace.condemned {x x' : Namespace} (h : SameNamespace x x') (user : User) :
    condemned user x' = condemned user x := by
  unfold WorkspaceUser.condemned Object.name
  rw [h.name, h.labels]

/-- Some condemned Namespaces were deleted, or marked. -/
structure Shrunk (user : User) (c c' : Cluster) : Prop where
  holds : Holds .kubeNamespace (fun v => v ∈ c.namespaces ∧ condemned user v = false) c'
  origin : ∀ x' ∈ c'.namespaces, ∃ x ∈ c.namespaces, SameNamespace x x'
  fewer : ∀ other, c'.namespaces.countP (prunable other) ≤ c.namespaces.countP (prunable other)
  shrunk : c'.namespaces = c.namespaces ∨
    c'.namespaces.countP (prunable user) < c.namespaces.countP (prunable user)

theorem sameNamespace_of_marked {time : Int} {x y : Namespace}
    (h : removedOrMarked time x = some y) : SameNamespace x y := by
  unfold removedOrMarked at h
  split at h
  · cases h
  · cases h
    exact ⟨rfl, rfl, rfl⟩

theorem deletable_of_marked {time : Int} {x y : Namespace} (h : removedOrMarked time x = some y) :
    deletable y = false := by
  unfold removedOrMarked at h
  split at h
  · cases h
  · next hFinalizers =>
    cases h
    unfold deletable
    simpa using hFinalizers

theorem marked_of_not_deletable {time : Int} {x : Namespace} (h : deletable x = false) :
    removedOrMarked time x = some x := by
  unfold deletable at h
  rw [Bool.or_eq_false_iff] at h
  unfold removedOrMarked
  rw [if_neg (by rw [h.1]; decide)]
  cases hTime : x.metadata.deletionTimestamp with
  | none =>
    rw [hTime] at h
    cases h.2
  | some t =>
    rw [Option.getD_some, ← hTime]

theorem Shrunk.refl {user : User} {c : Cluster} (h : Unique .kubeNamespace c) : Shrunk user c c :=
  ⟨⟨h, fun v hv => h v hv.1⟩, fun x hx => ⟨x, hx, .refl x⟩, fun _ => Nat.le_refl _, Or.inl rfl⟩

theorem Shrunk.reads {user : User} {c : Cluster} {w w' : World} (h : Shrunk user c w.cluster)
    (hReads : Reads w w') : Shrunk user c w'.cluster := by
  rw [cluster_of_reads hReads]
  exact h

section

variable {env : Env} {user : User} {c : Cluster}

theorem shrunk_delete {o : Namespace} (hUnique : Unique .kubeNamespace c) (hMem : o ∈ c.namespaces)
    (hCondemned : condemned user o = true) :
    Ensures (fun w => Shrunk user c w.cluster) (delete env .kubeNamespace o)
      (fun w => Shrunk user c w.cluster) := by
  refine .of_each fun w hw => ?_
  refine (delete_revises env .kubeNamespace o w).conseq (fun _ w' hGet => ?_)
    fun _ hReads => hw.reads hReads
  have hGet : w'.cluster.namespaces = Keyed.revise (hasKey o.metadata.ns o.metadata.name)
    (removedOrMarked (storedTime env.clock.wall)) w.cluster.namespaces := hGet
  -- what is stored under the key came from `o`
  have hOrigin : ∀ x ∈ w.cluster.namespaces, hasKey o.metadata.ns o.metadata.name x = true →
      condemned user x = true := by
    intro x hx hKey
    obtain ⟨hNs, hName⟩ := hasKey_iff.mp hKey
    obtain ⟨x0, hx0, hSame⟩ := hw.origin x hx
    have hStored := hUnique o hMem
    rw [← hNs, ← hName, hSame.ns, hSame.name, hUnique x0 hx0] at hStored
    rw [hSame.condemned, Option.some.inj hStored]
    exact hCondemned
  refine ⟨⟨hw.holds.unique.revise hGet key_removedOrMarked, fun v hv => ?_⟩, ?_, ?_, ?_⟩
  · have hOther : ¬ (v.metadata.ns = o.metadata.ns ∧ v.metadata.name = o.metadata.name) := by
      rintro ⟨hNs, hName⟩
      have hStored := hUnique v hv.1
      rw [hNs, hName, hUnique o hMem] at hStored
      rw [← Option.some.inj hStored, hCondemned] at hv
      cases hv.2
    exact (lookup_revise_other hOther hGet key_removedOrMarked).trans (hw.holds.stored v hv)
  · intro x' hx'
    rw [hGet] at hx'
    rcases Keyed.mem_revise hx' with ⟨x, hx, -, hMarked⟩ | ⟨hx, -⟩
    · obtain ⟨x0, hx0, hSame⟩ := hw.origin x hx
      exact ⟨x0, hx0, hSame.trans (sameNamespace_of_marked hMarked)⟩
    · exact hw.origin x' hx
  · intro other
    rw [hGet]
    refine Nat.le_trans (Keyed.countP_revise_le fun x _ _ y hMarked hPrunable => ?_)
      (hw.fewer other)
    unfold prunable at hPrunable
    rw [deletable_of_marked hMarked, Bool.and_false] at hPrunable
    cases hPrunable
  · have hNow : w'.cluster.namespaces = w.cluster.namespaces ∨
        w'.cluster.namespaces.countP (prunable user) <
          w.cluster.namespaces.countP (prunable user) := by
      rw [hGet]
      refine Keyed.revise_eq_or_countP_lt fun x hx hKey => ?_
      cases hDeletable : deletable x with
      | false => exact Or.inl (marked_of_not_deletable hDeletable)
      | true =>
        refine Or.inr ⟨?_, fun y hMarked => ?_⟩
        · unfold prunable
          rw [hOrigin x hx hKey, hDeletable]
          rfl
        · unfold prunable
          rw [deletable_of_marked hMarked, Bool.and_false]
    rcases hNow with hSame | hLess
    · rw [hSame]
      exact hw.shrunk
    · exact Or.inr (Nat.lt_of_lt_of_le hLess (hw.fewer user))

theorem shrunk_removeUnwanted {w : World} (hUnique : Unique .kubeNamespace w.cluster) :
    Ensures (· = w) (removeUnwanted env .kubeNamespace user fun ns =>
        decide (ns.name ∈ user.spec.namespaces)) (fun w' => Shrunk user w.cluster w'.cluster) := by
  have hStart : Shrunk user w.cluster w.cluster := .refl hUnique
  refine Triple.bind ((listEverywhere_spec .kubeNamespace w).onError fun _ hReads => hStart.reads
    hReads) fun os => Triple.of_each ?_
  rintro w1 ⟨rfl, hReads⟩
  refine (Triple.forM fun o ho => ?_).start (hStart.reads hReads)
  obtain ⟨hListed, hUnlisted⟩ := List.mem_filter.mp ho
  obtain ⟨hMem, hLabel⟩ := List.mem_filter.mp hListed
  refine shrunk_delete hUnique hMem ?_
  unfold condemned
  simp only [List.all_cons, List.all_nil, Bool.and_true] at hLabel
  rw [hLabel, hUnlisted]
  rfl

end

/-- The labels of a Namespace the User creates: none on its config namespace, its own name on
those it lists. -/
def CreatedLabels (user : User) (x : Namespace) : Prop :=
  x.metadata.labels = [] ∨ x.metadata.labels = [(workspaceUserLabel, user.name)] ∧
    x.name ∈ user.spec.namespaces ∧ x.name ≠ userConfigNamespace user

/-- **All a pass over `user` does to Namespaces**: nothing, one write, or deletions of those it
condemns. -/
inductive NamespaceEffect (user : User) (c c' : Cluster) : Prop
  | same (get : c'.namespaces = c.namespaces)
  | created (stored : Namespace) (claim : stored.name ∈ claimed user)
      (ns : stored.metadata.ns = "")
      (missing : lookup .kubeNamespace c "" stored.name = none)
      (get : c'.namespaces = c.namespaces ++ [stored])
      (refs : stored.metadata.ownerReferences = [userRef user])
      (labels : CreatedLabels user stored)
  | adopted (existing : Namespace) (claim : existing.name ∈ claimed user)
      (found : lookup .kubeNamespace c "" existing.name = some existing)
      (foreign : isControlledBy existing.metadata user.metadata = false)
      (get : c'.namespaces = Keyed.write (hasKey "" existing.name)
        (fun _ => updated existing (ownedBy user existing)) c.namespaces)
  | pruned (shrunk : Shrunk user c c')

theorem Ensured.effect {user : User} {o : Namespace} {w w' : World}
    (h : Ensured .kubeNamespace user o w w' .requeue) (hNs : o.metadata.ns = "")
    (hClaim : o.name ∈ claimed user)
    (hLabels : lookup .kubeNamespace w.cluster "" o.name = none → CreatedLabels user o) :
    NamespaceEffect user w.cluster w'.cluster := by
  cases h with
  | created stored missing get same =>
    rw [hNs] at missing
    have hName : stored.name = o.name := same.name
    have hLabels := hLabels missing
    refine .created stored (hName ▸ hClaim) (same.ns.trans hNs) (hName ▸ missing) get
      same.ownerReferences ?_
    unfold CreatedLabels at hLabels ⊢
    rw [hName, same.labels]
    exact hLabels
  | adopted existing found foreign get =>
    obtain ⟨hNs', hName⟩ := key_of_lookup found
    have hName : existing.name = o.name := hName
    rw [hNs] at found get
    exact .adopted existing (hName ▸ hClaim) (hName ▸ found) foreign (hName ▸ get)

section

variable (env : Env) {user : User} {s : Session User} {name : String}

theorem effect_step {α : Type} {c : Cluster} {kinds : List ObjectKind} {m : UserPass α}
    (h : Within (Alters kinds) m) (hKinds : .kubeNamespace ∉ kinds) :
    Ensures (fun s => NamespaceEffect user c s.world.cluster) m
      (fun s => NamespaceEffect user c s.world.cluster) := by
  refine h.triple fun s s' hAlters hs => ?_
  have hSame : s'.world.cluster.namespaces = s.world.cluster.namespaces :=
    hAlters.objects .kubeNamespace hKinds
  cases hs with
  | same get => exact .same (hSame.trans get)
  | created stored claim ns missing get refs labels =>
    exact .created stored claim ns missing (hSame.trans get) refs labels
  | adopted existing claim found foreign get =>
    exact .adopted existing claim found foreign (hSame.trans get)
  | pruned shrunk =>
    exact .pruned ⟨shrunk.holds.congr hSame, by rw [hSame]; exact shrunk.origin,
      by rw [hSame]; exact shrunk.fewer, by rw [hSame]; exact shrunk.shrunk⟩

theorem effect_reconcileConfigNamespace (hOwn : s.own = user) (hUser : user.metadata.ns = "") :
    Triple (· = s) (reconcileConfigNamespace env)
      (fun r s' => if r = .nil then s'.own = user ∧ s'.world.cluster = s.world.cluster ∧
          (lookup .kubeNamespace s.world.cluster "" (userConfigNamespace user)).isSome
        else NamespaceEffect user s.world.cluster s'.world.cluster)
      fun s' => NamespaceEffect user s.world.cluster s'.world.cluster := by
  refine bind_getOwn ?_
  rw [hOwn]
  have hEnsured : Triple (· = s.world) (ensureEach env .kubeNamespace id user
    [configNamespace user])
      (fun r w => EnsuredEach .kubeNamespace user [configNamespace user] s.world w r)
      (Reads s.world) :=
    ensureEach_spec env hUser (fun o ho => List.mem_singleton.mp ho ▸ rfl) s.world
  refine (onCluster_spec hEnsured s.own).conseq ?_ fun s' h => .same (by rw [cluster_of_reads h.1])
  rintro r s' ⟨hEach, hOwn'⟩
  cases hEach with
  | owned hAll hReads =>
    obtain ⟨existing, hFound, -⟩ := hAll _ List.mem_cons_self
    exact (if_pos rfl).mpr ⟨hOwn'.trans hOwn, cluster_of_reads hReads,
      Option.isSome_iff_exists.mpr ⟨existing, hFound⟩⟩
  | written o ho hWrite =>
    obtain rfl := List.mem_singleton.mp ho
    exact (if_neg nofun).mpr (hWrite.effect rfl List.mem_cons_self fun _ => Or.inl rfl)

theorem effect_reconcileNamespaces (hOwn : s.own = user)
    (hUser : user.metadata.ns = "") (hUnique : Unique .kubeNamespace s.world.cluster)
    (hConfig : (lookup .kubeNamespace s.world.cluster "" (userConfigNamespace user)).isSome) :
    Ensures (· = s) (reconcileNamespaces env)
      (fun s' => NamespaceEffect user s.world.cluster s'.world.cluster) := by
  refine bind_getOwn ?_
  rw [hOwn]
  let wanted := user.spec.namespaces.map (desiredNamespace user)
  have hEnsured : Triple (· = s.world) (ensureEach env .kubeNamespace id user wanted)
      (fun r w => EnsuredEach .kubeNamespace user wanted s.world w r) (Reads s.world) := by
    refine ensureEach_spec env hUser (fun o ho => ?_) s.world
    obtain ⟨name, -, rfl⟩ := List.mem_map.mp ho
    rfl
  refine .bind ((onCluster_spec hEnsured s.own).onError
    fun s' h => .same (by rw [cluster_of_reads h.1])) fun r => .of_each ?_
  rintro s1 ⟨hEach, -⟩
  cases hEach with
  | owned hAll hReads =>
    have hCluster := cluster_of_reads hReads
    rw [if_neg (not_ne_iff.mpr rfl)]
    have hRemove : Ensures (· = s1.world) (removeUnwanted env .kubeNamespace user fun ns =>
        decide (ns.name ∈ user.spec.namespaces))
          (fun w => Shrunk user s.world.cluster w.cluster) := by
      rw [← hCluster] at hUnique ⊢
      exact shrunk_removeUnwanted hUnique
    exact .bind ((onCluster_spec hRemove s1.own).conseq (fun _ _ h => .pruned h.1)
      fun _ h => .pruned h.1) fun _ => .pure fun _ h => h
  | written o ho hWrite =>
    rw [if_pos nofun]
    refine .ret ?_
    obtain ⟨name, hName, rfl⟩ := List.mem_map.mp ho
    refine hWrite.effect rfl (List.mem_cons_of_mem _ hName) fun hNone => Or.inr ⟨rfl, hName, ?_⟩
    -- the config namespace was ensured before
    rintro hEq
    rw [hEq] at hNone
    rw [hNone] at hConfig
    cases hConfig

def accounts (c : Cluster) : List User := c.users.map fun user => { user with status := {} }

/-- What a pass leaves of Users and Namespaces: the Users but for a status, and of the Namespaces
at most one is created or taken over, or those condemned are deleted. -/
structure PassEffect (user : User) (c c' : Cluster) : Prop where
  accounts : accounts c' = accounts c
  namespaces : NamespaceEffect user c c'

theorem effect_subReconcilers (hOwn : s.own = user)
    (hUser : user.metadata.ns = "") (hUnique : Unique .kubeNamespace s.world.cluster) :
    Ensures (· = s) (runChain (subReconcilers env))
      (fun s' => NamespaceEffect user s.world.cluster s'.world.cluster) := by
  refine triple_runChain_cons (effect_reconcileConfigNamespace env hOwn hUser)
    (triple_runChain_keep (.of_each fun s1 ⟨hOwn1, hSame, hConfig⟩ => ?_)
      (triple_runChain_all fun step hStep => ?_))
  · rw [← hSame] at hConfig hUnique ⊢
    exact effect_reconcileNamespaces env hOwn1 hUser hUnique hConfig
  · simp only [List.mem_cons, List.not_mem_nil, or_false] at hStep
    rcases hStep with rfl | rfl | rfl | rfl | rfl
    · exact effect_step alters_reconcileSA (by decide)
    · exact effect_step alters_reconcileRole (by decide)
    · exact effect_step alters_reconcileRoleBinding (by decide)
    · exact effect_step alters_reconcileSASecret (by decide)
    · exact effect_step alters_statusReconciler List.not_mem_nil

theorem accounts_storeStatus (own : User) (w : World) :
    Ensures (· = w) (storeStatus env .user storedStatus own)
      (fun w' => accounts w'.cluster = accounts w.cluster) := by
  refine (storeStatus_spec env .user storedStatus own w).conseq (fun _ w' hGet => ?_)
    fun _ hReads => by rw [cluster_of_reads hReads]
  have hGet : w'.cluster.users = Keyed.write (hasKey own.metadata.ns own.metadata.name)
    (fun x => { x with status := storedStatus own.status }) w.cluster.users := hGet
  unfold accounts Keyed.write at *
  rw [hGet, List.map_map]
  refine List.map_congr_left fun x _ => ?_
  dsimp only [Function.comp_apply]
  split
  · rfl
  · rfl

theorem alters_storeStatus (own : User) :
    Within (Alters [.user]) (onCluster (storeStatus env .user storedStatus own) : UserPass Unit) :=
  alters_onCluster (has_storeStatus List.mem_cons_self)

section

variable (hFound : lookup .user s.world.cluster "" name = some user)

include hFound

theorem ensures_reconcile {I : Session User → Prop}
    (hSame : ∀ s', s'.world.cluster = s.world.cluster → I s')
    (hChain : Ensures (· = { s with world.calls := s.world.calls + 1, own := user })
      (runChain (subReconcilers env)) I)
    (hStore : ∀ own, Ensures I (onCluster (storeStatus env .user storedStatus own)) I) :
    Ensures (· = s) (reconcile env name) I := by
  refine bind_fetch hFound hSame fun _ => bind_modifyOwn ?_
  refine .bind hChain fun result => .of_each fun s1 hs1 => bind_getOwn ?_
  exact .bind ((hStore s1.own).start hs1) fun _ => .skip

theorem accounts_reconcile :
    Ensures (· = s) (reconcile env name)
      (fun s' => accounts s'.world.cluster = accounts s.world.cluster) := by
  refine ensures_reconcile env hFound (fun _ h => by rw [h]) ?_ fun own => .of_each fun s1 hs1 => ?_
  · refine ((alters_subReconcilers env).leads _).conseq (fun _ s1 h => ?_) fun s1 h => ?_
    all_goals exact congrArg (List.map _) (h.objects .user (by decide))
  · rw [← hs1]
    exact (onCluster_spec (accounts_storeStatus env own s1.world) s1.own).conseq
      (fun _ _ h => h.1) fun _ h => h.1

theorem passEffect_reconcile (hUnique : Unique .kubeNamespace s.world.cluster) :
    Ensures (· = s) (reconcile env name)
      (fun s' => PassEffect user s.world.cluster s'.world.cluster) := by
  have hNamespaces : Ensures (· = s) (reconcile env name)
      (fun s' => NamespaceEffect user s.world.cluster s'.world.cluster) :=
    ensures_reconcile env hFound (fun _ h => .same (by rw [h]))
      (effect_subReconcilers env rfl (key_of_lookup hFound).1 hUnique)
      fun own => effect_step (alters_storeStatus env own) (by decide)
  exact ((accounts_reconcile env hFound).and hNamespaces).conseq
    (fun _ _ h => ⟨h.1, h.2⟩) fun _ h => ⟨h.1, h.2⟩

end

end

/-! ## Every name has one User -/

/-- Users have different names, and Namespaces too. -/
structure ClusterScoped (c : Cluster) : Prop where
  users : ∀ user ∈ accounts c, ∀ other ∈ accounts c, other.name = user.name → other = user
  namespaces : Unique .kubeNamespace c
  scope : ∀ x ∈ c.namespaces, x.metadata.ns = ""

/-- Every name has a home: the one User that may list it, or whose config namespace it is. What
carries the label of a User has its home there. -/
structure Homed (home : String → String) (c : Cluster) : Prop extends ClusterScoped c where
  claims : ∀ user ∈ accounts c, ∀ name ∈ claimed user, home name = user.name
  labels : ∀ x ∈ c.namespaces, ∀ label,
    x.metadata.labels.get? workspaceUserLabel = some label →
      home x.name = label ∧ x.name ≠ label ++ "-config"

section

variable {home : String → String} {user : User} {c c' : Cluster} {name : String}

theorem Homed.eq_of_claimed (h : Homed home c) (hUser : user ∈ accounts c) {other : User}
    (hOther : other ∈ accounts c) (hName : name ∈ claimed user)
    (hName' : name ∈ claimed other) : other = user := by
  refine h.users user hUser other hOther ?_
  rw [← h.claims user hUser name hName, ← h.claims other hOther name hName']

theorem Homed.not_condemned (h : Homed home c) (hUser : user ∈ accounts c) {other : User}
    (hOther : other ∈ accounts c) {x : Namespace} (hMem : x ∈ c.namespaces)
    (hClaim : x.name ∈ claimed other) : condemned user x = false := by
  cases hCondemned : condemned user x with
  | false => rfl
  | true =>
    unfold condemned at hCondemned
    rw [Bool.and_eq_true, decide_eq_true_iff, Bool.not_eq_true', decide_eq_false_iff_not]
      at hCondemned
    obtain ⟨hHome, hConfig⟩ := h.labels x hMem user.name hCondemned.1
    have hName : other.name = user.name := (h.claims other hOther x.name hClaim).symm.trans hHome
    obtain rfl := h.users user hUser other hOther hName
    rcases List.mem_cons.mp hClaim with hEq | hListed
    · exact absurd hEq hConfig
    · exact absurd hListed hCondemned.2

theorem lookup_created {stored : Namespace}
    (hGet : c'.namespaces = c.namespaces ++ [stored]) (hName : name ≠ stored.name) :
    lookup .kubeNamespace c' "" name = lookup .kubeNamespace c "" name :=
  lookup_append_other hGet fun hKey => hName hKey.2

theorem lookup_adopted {existing : Namespace}
    (hGet : c'.namespaces = Keyed.write (hasKey "" existing.name)
      (fun _ => updated existing (ownedBy user existing)) c.namespaces)
    (hNs : existing.metadata.ns = "") (hName : name ≠ existing.name) :
    lookup .kubeNamespace c' "" name = lookup .kubeNamespace c "" name :=
  lookup_write_other (fun hKey => hName hKey.2) hGet fun _ _ => hasKey_iff.mpr ⟨hNs, rfl⟩

theorem NamespaceEffect.origin (h : NamespaceEffect user c c') (x' : Namespace)
    (hx' : x' ∈ c'.namespaces) :
    (∃ x ∈ c.namespaces, SameNamespace x x') ∨
      x'.metadata.ns = "" ∧ x'.name ∈ claimed user ∧ CreatedLabels user x' := by
  cases h with
  | same get => exact Or.inl ⟨x', get ▸ hx', .refl x'⟩
  | created stored claim ns missing get refs labels =>
    rw [get] at hx'
    rcases List.mem_append.mp hx' with hx' | hx'
    · exact Or.inl ⟨x', hx', .refl x'⟩
    · rw [List.mem_singleton.mp hx']
      exact Or.inr ⟨ns, claim, labels⟩
  | adopted existing claim found foreign get =>
    rw [get] at hx'
    obtain ⟨x, hx, rfl⟩ := List.mem_map.mp hx'
    split
    · exact Or.inl ⟨existing, List.mem_of_find?_eq_some found, rfl, rfl, rfl⟩
    · exact Or.inl ⟨x, hx, .refl x⟩
  | pruned shrunk => exact Or.inl (shrunk.origin x' hx')

theorem NamespaceEffect.unique (h : NamespaceEffect user c c') (hScoped : ClusterScoped c) :
    Unique .kubeNamespace c' := by
  cases h with
  | same get => exact hScoped.namespaces.congr get
  | created stored claim ns missing get refs labels =>
    exact hScoped.namespaces.append get (by rw [ns]; exact missing)
  | adopted existing claim found foreign get =>
    have hNs := hScoped.scope existing (List.mem_of_find?_eq_some found)
    exact hScoped.namespaces.write get fun _ _ => hasKey_iff.mpr ⟨hNs, rfl⟩
  | pruned shrunk => exact shrunk.holds.unique

theorem homed_of_effect (hEffect : PassEffect user c c') (h : Homed home c)
    (hUser : { user with status := {} } ∈ accounts c) : Homed home c' := by
  have hUsers := h.users
  have hClaims := h.claims
  rw [← hEffect.accounts] at hUsers hClaims
  refine ⟨⟨hUsers, hEffect.namespaces.unique h.toClusterScoped, fun x hx => ?_⟩, hClaims,
    fun x hx label hLabel => ?_⟩
  · rcases hEffect.namespaces.origin x hx with ⟨x0, hx0, hSame⟩ | ⟨hNs, -⟩
    · exact hSame.ns.trans (h.scope x0 hx0)
    · exact hNs
  · rcases hEffect.namespaces.origin x hx with ⟨x0, hx0, hSame⟩ | ⟨-, hClaim, hNone | hOwn⟩
    · have hName : x.name = x0.name := hSame.name
      rw [hSame.labels] at hLabel
      rw [hName]
      exact h.labels x0 hx0 label hLabel
    · rw [hNone] at hLabel
      cases hLabel
    · obtain ⟨hLabels, -, hConfig⟩ := hOwn
      rw [hLabels] at hLabel
      obtain rfl : user.name = label := Option.some.inj hLabel
      exact ⟨h.claims _ hUser _ hClaim, hConfig⟩

theorem listed_of_effect (hEffect : PassEffect user c c') (h : Homed home c)
    (hUser : { user with status := {} } ∈ accounts c) {x : Namespace} (hMem : x ∈ c.namespaces)
    {other : User} (hOther : other ∈ accounts c) (hListed : x.name ∈ other.spec.namespaces) :
    ∃ x', lookup .kubeNamespace c' "" x.name = some x' ∧
      x'.metadata.deletionTimestamp = x.metadata.deletionTimestamp := by
  have hStored : lookup .kubeNamespace c "" x.name = some x := by
    rw [← h.scope x hMem]
    exact h.namespaces x hMem
  cases hEffect.namespaces with
  | same get => exact ⟨x, (lookup_congr get).trans hStored, rfl⟩
  | created stored claim ns missing get refs labels =>
    refine ⟨x, (lookup_created get fun hName => ?_).trans hStored, rfl⟩
    rw [← hName, hStored] at missing
    cases missing
  | adopted existing claim found foreign get =>
    have hNs := h.scope existing (List.mem_of_find?_eq_some found)
    by_cases hName : x.name = existing.name
    · have hKey : hasKey "" existing.name (updated existing (ownedBy user existing)) = true :=
        hasKey_iff.mpr ⟨hNs, rfl⟩
      rw [hName, found] at hStored
      obtain rfl := Option.some.inj hStored
      refine ⟨updated existing (ownedBy user existing), ?_, rfl⟩
      rw [hName, lookup_write get fun _ _ => hKey, found]
      rfl
    · exact ⟨x, (lookup_adopted get hNs hName).trans hStored, rfl⟩
  | pruned shrunk =>
    have hNot : condemned user x = false :=
      h.not_condemned hUser hOther hMem (List.mem_cons_of_mem _ hListed)
    have hKept := shrunk.holds.stored x ⟨hMem, hNot⟩
    rw [h.scope x hMem] at hKept
    exact ⟨x, hKept, rfl⟩

end

/-! ## The writes that are left -/

def ownedIn (c : Cluster) (user : User) (name : String) : Bool :=
  (lookup .kubeNamespace c "" name).any fun x => isControlledBy x.metadata user.metadata

/-- The Namespaces the User has still to create or to take over, and those it has still to
delete. -/
def todoOf (c : Cluster) (user : User) : Nat :=
  (claimed user).countP (fun name => !ownedIn c user name) + c.namespaces.countP (prunable user)

def todo (c : Cluster) : Nat := ((accounts c).map (todoOf c)).sum

section

variable {home : String → String} {user other : User} {c c' : Cluster} {name : String}

theorem countP_lt_of_mem {names : List String} {p q : String → Bool}
    (hMem : name ∈ names) (hp : p name = false) (hq : q name = true)
    (h : ∀ name ∈ names, p name = true → q name = true) : names.countP p < names.countP q := by
  obtain ⟨front, back, rfl⟩ := List.append_of_mem hMem
  have hFront := List.countP_mono_left fun n hn => h n (List.mem_append_left _ hn)
  have hBack := List.countP_mono_left fun n hn =>
    h n (List.mem_append_right _ (List.mem_cons_of_mem _ hn))
  rw [List.countP_append, List.countP_append, List.countP_cons_of_neg (by rw [hp]; decide),
    List.countP_cons_of_pos hq]
  exact Nat.add_lt_add_of_le_of_lt hFront (Nat.lt_succ_of_le hBack)

/-- What one User wants and owns, it still owns. -/
def KeepsOwned (other : User) (c c' : Cluster) : Prop :=
  ∀ name ∈ claimed other, ownedIn c other name = true → ownedIn c' other name = true

theorem not_owned_before (h : KeepsOwned other c c') (hName : name ∈ claimed other)
    (hNot : (!ownedIn c' other name) = true) : (!ownedIn c other name) = true := by
  cases hNow : ownedIn c other name with
  | false => rfl
  | true =>
    rw [h name hName hNow] at hNot
    cases hNot

theorem KeepsOwned.countP_le (h : KeepsOwned other c c') :
    (claimed other).countP (fun name => !ownedIn c' other name) ≤
      (claimed other).countP fun name => !ownedIn c other name :=
  List.countP_mono_left fun _ hName => not_owned_before h hName

theorem KeepsOwned.countP_lt (h : KeepsOwned other c c')
    (hClaim : name ∈ claimed other) (hBefore : ownedIn c other name = false)
    (hAfter : ownedIn c' other name = true) :
    (claimed other).countP (fun name => !ownedIn c' other name) <
      (claimed other).countP fun name => !ownedIn c other name :=
  countP_lt_of_mem hClaim (by rw [hAfter]; rfl) (by rw [hBefore]; rfl)
    fun _ hName => not_owned_before h hName

theorem ownedIn_congr (h : lookup .kubeNamespace c' "" name = lookup .kubeNamespace c "" name) :
    ownedIn c' other name = ownedIn c other name := by
  unfold ownedIn
  rw [h]

theorem ownedIn_eq {x : Namespace} (h : lookup .kubeNamespace c "" name = some x) :
    ownedIn c other name = isControlledBy x.metadata other.metadata := by
  unfold ownedIn
  rw [h]
  rfl

theorem not_condemned_created {stored : Namespace} (hLabels : CreatedLabels user stored)
    (hUsers : other.name = user.name → other = { user with status := {} }) :
    condemned other stored = false := by
  unfold condemned
  rcases hLabels with hNone | ⟨hOwn, hListed, -⟩
  · rw [hNone]
    rfl
  · rw [hOwn]
    by_cases hName : other.name = user.name
    · rw [hUsers hName]
      simp [hListed]
    · have hLabel : StringMap.get? [(workspaceUserLabel, user.name)] workspaceUserLabel =
        some user.name := rfl
      rw [hLabel, decide_eq_false fun h => hName (Option.some.inj h).symm]
      rfl

/-- The writes left to `other` are no more than before, and fewer if it made one: the rank by
which the passes settle. -/
structure Lowered (user other : User) (c c' : Cluster) : Prop where
  le : todoOf c' other ≤ todoOf c other
  lt : c'.namespaces = c.namespaces ∨
    (other = { user with status := {} } → todoOf c' other < todoOf c other)

section

variable (h : Homed home c) (hUser : { user with status := {} } ∈ accounts c)
  (hOther : other ∈ accounts c)
include h hUser hOther

theorem lowered_created {stored : Namespace} (hClaim : stored.name ∈ claimed user)
    (hNs : stored.metadata.ns = "") (hMissing : lookup .kubeNamespace c "" stored.name = none)
    (hGet : c'.namespaces = c.namespaces ++ [stored])
    (hRefs : stored.metadata.ownerReferences = [userRef user])
    (hLabels : CreatedLabels user stored) : Lowered user other c c' := by
  have hStored : lookup .kubeNamespace c' "" stored.name = some stored := by
    rw [← hNs] at hMissing ⊢
    exact lookup_append hGet hMissing
  have hOwned : KeepsOwned other c c' := by
    intro name _ hNow
    by_cases hName : name = stored.name
    · rw [hName, ownedIn, hMissing] at hNow
      cases hNow
    · rw [ownedIn_congr (lookup_created hGet hName)]
      exact hNow
  have hPrune : c'.namespaces.countP (prunable other) = c.namespaces.countP (prunable other) := by
    have hNot : prunable other stored = false := by
      unfold prunable
      rw [not_condemned_created hLabels fun hName => h.users _ hUser other hOther hName]
      rfl
    rw [hGet, List.countP_append, List.countP_singleton, hNot]
    rfl
  refine ⟨Nat.add_le_add hOwned.countP_le hPrune.le, Or.inr ?_⟩
  rintro rfl
  refine Nat.add_lt_add_of_lt_of_le (hOwned.countP_lt hClaim ?_ ?_) hPrune.le
  · rw [ownedIn, hMissing]
    rfl
  · rw [ownedIn_eq hStored]
    exact isControlledBy_of_refs hRefs

theorem lowered_adopted {existing : Namespace} (hClaim : existing.name ∈ claimed user)
    (hFound : lookup .kubeNamespace c "" existing.name = some existing)
    (hForeign : isControlledBy existing.metadata user.metadata = false)
    (hGet : c'.namespaces = Keyed.write (hasKey "" existing.name)
      (fun _ => updated existing (ownedBy user existing)) c.namespaces) :
    Lowered user other c c' := by
  have hNs := h.scope existing (List.mem_of_find?_eq_some hFound)
  let adopted := updated existing (ownedBy user existing)
  have hStored : lookup .kubeNamespace c' "" existing.name = some adopted := by
    have hKey : hasKey "" existing.name adopted = true := hasKey_iff.mpr ⟨hNs, rfl⟩
    rw [lookup_write hGet fun _ _ => hKey, hFound]
    rfl
  have hRefs : isControlledBy adopted.metadata user.metadata = true := isControlledBy_of_refs rfl
  -- another User does not want the name, so it has nothing to lose
  have hOwned : KeepsOwned other c c' := by
    intro name hName hNow
    by_cases hEq : name = existing.name
    · rw [hEq, ownedIn_eq hStored, h.eq_of_claimed hUser hOther hClaim (hEq ▸ hName)]
      exact hRefs
    · rw [ownedIn_congr (lookup_adopted hGet hNs hEq)]
      exact hNow
  have hPrune : c'.namespaces.countP (prunable other) = c.namespaces.countP (prunable other) := by
    rw [hGet]
    refine Keyed.countP_write fun x hx hKey => ?_
    obtain ⟨hNs', hName⟩ := hasKey_iff.mp hKey
    have hSame := h.namespaces x hx
    rw [hNs', hName, hFound] at hSame
    rw [← Option.some.inj hSame]
    rfl
  refine ⟨Nat.add_le_add hOwned.countP_le hPrune.le, Or.inr ?_⟩
  rintro rfl
  refine Nat.add_lt_add_of_lt_of_le (hOwned.countP_lt hClaim ?_ ?_) hPrune.le
  · rw [ownedIn_eq hFound]
    exact hForeign
  · rw [ownedIn_eq hStored]
    exact hRefs

theorem lowered_pruned (hShrunk : Shrunk user c c') : Lowered user other c c' := by
  have hOwned : KeepsOwned other c c' := by
    intro name hName hNow
    cases hFound : lookup .kubeNamespace c "" name with
    | none =>
      rw [ownedIn, hFound] at hNow
      cases hNow
    | some x =>
      have hMem : x ∈ c.namespaces := List.mem_of_find?_eq_some hFound
      obtain ⟨hNs, rfl⟩ := key_of_lookup hFound
      have hNot : condemned user x = false := h.not_condemned hUser hOther hMem hName
      have hKept := hShrunk.holds.stored x ⟨hMem, hNot⟩
      rw [hNs] at hKept
      rw [ownedIn_eq hKept, ← ownedIn_eq hFound]
      exact hNow
  refine ⟨Nat.add_le_add hOwned.countP_le (hShrunk.fewer other), hShrunk.shrunk.imp_right ?_⟩
  rintro hLess rfl
  exact Nat.add_lt_add_of_le_of_lt hOwned.countP_le hLess

end

theorem lowered_of_effect (hEffect : PassEffect user c c') (h : Homed home c)
    (hUser : { user with status := {} } ∈ accounts c) (hOther : other ∈ accounts c) :
    Lowered user other c c' := by
  cases hEffect.namespaces with
  | same get =>
    have hOwned : KeepsOwned other c c' := by
      intro name _ hNow
      rw [ownedIn_congr (lookup_congr get)]
      exact hNow
    exact ⟨Nat.add_le_add hOwned.countP_le (get ▸ Nat.le_refl _), Or.inl get⟩
  | created stored claim ns missing get refs labels =>
    exact lowered_created h hUser hOther claim ns missing get refs labels
  | adopted existing claim found foreign get =>
    exact lowered_adopted h hUser hOther claim found foreign get
  | pruned shrunk => exact lowered_pruned h hUser hOther shrunk

theorem todo_of_effect (hEffect : PassEffect user c c') (h : Homed home c)
    (hUser : { user with status := {} } ∈ accounts c) :
    todo c' ≤ todo c ∧ (c'.namespaces = c.namespaces ∨ todo c' < todo c) := by
  have hLowered : ∀ other ∈ accounts c, Lowered user other c c' :=
    fun _ hOther => lowered_of_effect hEffect h hUser hOther
  unfold todo
  rw [hEffect.accounts]
  refine ⟨List.sum_le_sum fun other hOther => (hLowered other hOther).le, ?_⟩
  refine (hLowered _ hUser).lt.imp_right fun hLess => ?_
  exact List.sum_lt_sum _ _ (fun other hOther => (hLowered other hOther).le)
    ⟨_, hUser, hLess rfl⟩

end

/-! ## Runs -/

/-- What happens in the cluster: a pass over one of the Users, starting with some object in
memory, or a change by someone else, such as an edit of a spec. -/
inductive UserEvent
  | pass (env : Env) (name : String) (own : User)
  | elsewhere (c : Cluster)

def userStep (c : Cluster) : UserEvent → Cluster
  | .pass env name own => (finalState (reconcile env name ⟨worldOf c, own⟩)).world.cluster
  | .elsewhere c' => c'

/-- Whatever is edited, every name keeps its home. -/
def KeepsHomes (home : String → String) (_ : Cluster) : UserEvent → Prop
  | .pass _ _ _ => True
  | .elsewhere c' => Homed home c'

/-- The pass deletes no Namespace that an existing User lists. -/
def SparesListed (c : Cluster) : UserEvent → Prop
  | .pass env name own => ∀ x ∈ c.namespaces, ∀ user ∈ c.users, x.name ∈ user.spec.namespaces →
    ∃ x', lookup .kubeNamespace (userStep c (.pass env name own)) "" x.name = some x' ∧
      x'.metadata.deletionTimestamp = x.metadata.deletionTimestamp
  | .elsewhere _ => True

/-- Nobody edits a spec, and nobody but the passes writes a Namespace. -/
def SpecsKept (c : Cluster) : UserEvent → Prop
  | .pass _ _ _ => True
  | .elsewhere c' => accounts c' = accounts c ∧ c'.namespaces = c.namespaces

section

variable {home : String → String} {c : Cluster} {event : UserEvent}

theorem account_mem {name : String} {user : User} (h : lookup .user c "" name = some user) :
    { user with status := {} } ∈ accounts c :=
  List.mem_map.mpr ⟨user, List.mem_of_find?_eq_some h, rfl⟩

theorem userStep_pass (h : Homed home c) {env : Env} (name : String) (own : User) :
    userStep c (.pass env name own) = c ∨ ∃ user, { user with status := {} } ∈ accounts c ∧
      PassEffect user c (userStep c (.pass env name own)) := by
  cases hFound : lookup .user c "" name with
  | none => exact Or.inl (reconcile_none (s := ⟨worldOf c, own⟩) hFound rfl)
  | some user =>
    exact Or.inr ⟨user, account_mem hFound,
      (passEffect_reconcile env (s := ⟨worldOf c, own⟩) hFound h.namespaces).reached rfl⟩

theorem homed_userStep (hEvent : KeepsHomes home c event) (h : Homed home c) :
    Homed home (userStep c event) := by
  cases event with
  | elsewhere c' => exact hEvent
  | pass env name own =>
    rcases userStep_pass h name own with hSame | ⟨user, hUser, hEffect⟩
    · rw [hSame]
      exact h
    · exact homed_of_effect hEffect h hUser

theorem sparesListed_userStep (h : Homed home c) : SparesListed c event := by
  cases event with
  | elsewhere c' => trivial
  | pass env name own =>
    intro x hMem other hOther hListed
    have hAccount : { other with status := {} } ∈ accounts c :=
      List.mem_map.mpr ⟨other, hOther, rfl⟩
    rcases userStep_pass h name own with hSame | ⟨user, hUser, hEffect⟩
    · rw [hSame, ← h.scope x hMem]
      exact ⟨x, h.namespaces x hMem, rfl⟩
    · exact listed_of_effect hEffect h hUser hMem hAccount hListed

theorem Homed.congr {c' : Cluster} (h : Homed home c) (hAccounts : accounts c' = accounts c)
    (hNamespaces : c'.namespaces = c.namespaces) : Homed home c' :=
  ⟨⟨hAccounts ▸ h.users, h.namespaces.congr hNamespaces, hNamespaces ▸ h.scope⟩,
    hAccounts ▸ h.claims, hNamespaces ▸ h.labels⟩

theorem todo_congr {c' : Cluster} (hAccounts : accounts c' = accounts c)
    (hNamespaces : c'.namespaces = c.namespaces) : todo c' = todo c := by
  unfold todo
  rw [hAccounts]
  refine congrArg List.sum (List.map_congr_left fun user _ => ?_)
  unfold todoOf
  rw [hNamespaces]
  refine congrArg (· + _) (List.countP_congr fun name _ => ?_)
  rw [ownedIn_congr (lookup_congr hNamespaces)]

/-- **One step with unchanged specs**: every name stays at home, and a write of a Namespace is
one write less to come. -/
theorem settle_userStep (hEvent : SpecsKept c event) (h : Homed home c) :
    Homed home (userStep c event) ∧ todo (userStep c event) ≤ todo c ∧
      ((userStep c event).namespaces = c.namespaces ∨ todo (userStep c event) < todo c) := by
  cases event with
  | elsewhere c' =>
    obtain ⟨hAccounts, hNamespaces⟩ := hEvent
    exact ⟨h.congr hAccounts hNamespaces, (todo_congr hAccounts hNamespaces).le,
      Or.inl hNamespaces⟩
  | pass env name own =>
    rcases userStep_pass h name own with hSame | ⟨user, hUser, hEffect⟩
    · rw [hSame]
      exact ⟨h, Nat.le_refl _, Or.inl rfl⟩
    · exact ⟨homed_of_effect hEffect h hUser, todo_of_effect hEffect h hUser⟩

end

/-- **Where every name has one User, listed Namespaces are safe and the passes settle.** In a
run of passes and edits no pass deletes a Namespace that some User lists; and if the specs do
not change any more, no pass writes a Namespace from some point on. -/
theorem namespaces_settle (home : String → String) (c : Cluster) (events : List UserEvent)
    (hStart : Homed home c) (hHomes : Runs.Admitted userStep (KeepsHomes home) c events) :
    Runs.Admitted userStep SparesListed c events ∧
      ∀ rest : Nat → UserEvent,
        (∀ n, SpecsKept (Runs.trace userStep (Runs.run userStep c events) rest n) (rest n)) →
        ∃ N, ∀ n, N ≤ n →
          (Runs.trace userStep (Runs.run userStep c events) rest (n + 1)).namespaces =
            (Runs.trace userStep (Runs.run userStep c events) rest n).namespaces := by
  refine ⟨Runs.admitted_of_invariant (I := Homed home) ?_ hHomes hStart, fun rest hRest => ?_⟩
  · exact fun c event hEvent h => ⟨homed_userStep hEvent h, sparesListed_userStep h⟩
  · have hRun : Homed home (Runs.run userStep c events) :=
      Runs.run_admitted (fun _ _ => homed_userStep) hHomes hStart
    exact Runs.trace_settles Cluster.namespaces todo
      (fun _ _ hEvent h => settle_userStep hEvent h) hRest hRun

/-! ## Two Users that list one name -/

def namedUser (name uid : String) (namespaces : List String) : User where
  metadata := { name := name, uid := uid, generation := 1 }
  spec := { namespaces := namespaces, username := name }
  status := {}

def quietPass (name : String) : UserEvent := .pass quietEnv name (namedUser name "" [])

def anaPass : UserEvent := quietPass "ana"
def boPass : UserEvent := quietPass "bo"

def userNamespace (name uid : String) (owner : User) (labels : StringMap) : Namespace where
  metadata :=
    { name := name, uid := uid, generation := 1, labels := labels
      ownerReferences := [userRef owner] }
  spec := ()
  status := ()

/-- Two Users list `shared`; the first has created it, the second has taken it over. -/
def contested : Cluster :=
  let ana := namedUser "ana" "u1" ["shared"]
  let bo := namedUser "bo" "u2" ["shared"]
  { users := [ana, bo]
    namespaces :=
      [userNamespace "ana-config" "uid-0" ana [],
       userNamespace "shared" "uid-1" bo [(workspaceUserLabel, "ana")],
       userNamespace "bo-config" "uid-2" bo []]
    created := 3 }

example : (Runs.run userStep { users := contested.users }
    [anaPass, anaPass, boPass, boPass]).namespaces = contested.namespaces := by
  decide +kernel

theorem contested_round : userStep (userStep contested anaPass) boPass = contested := rfl

def takeTurns (n : Nat) : UserEvent := if n % 2 = 0 then anaPass else boPass

theorem contested_trace (k : Nat) :
    Runs.trace userStep contested takeTurns (2 * k) = contested := by
  induction k with
  | zero => rfl
  | succ k ih =>
    have hFirst : takeTurns (2 * k) = anaPass := if_pos (Nat.mul_mod_right 2 k)
    have hSecond : takeTurns (2 * k + 1) = boPass := if_neg (by omega)
    have hTwo : 2 * (k + 1) = 2 * k + 1 + 1 := by omega
    rw [hTwo, Runs.trace, Runs.trace, ih, hFirst, hSecond]
    exact contested_round

def dropped : Cluster :=
  userStep
    { contested with
      users := [namedUser "ana" "u1" ["own"], namedUser "bo" "u2" ["shared"]] } anaPass

/-- The two take the Namespace from each other forever; and once the first one drops the name,
it deletes the Namespace that the second one lists. -/
theorem shared_name_never_settles :
    (∀ N, ∃ n, N ≤ n ∧ (Runs.trace userStep contested takeTurns (n + 1)).namespaces ≠
      (Runs.trace userStep contested takeTurns n).namespaces) ∧
      (lookup .kubeNamespace dropped "" "shared").isSome ∧
      (∃ user ∈ dropped.users, "shared" ∈ user.spec.namespaces) ∧
      lookup .kubeNamespace (userStep dropped anaPass) "" "shared" = none := by
  refine ⟨fun N => ⟨2 * N, by omega, ?_⟩, by decide +kernel, by decide +kernel, by decide +kernel⟩
  have hFirst : takeTurns (2 * N) = anaPass := if_pos (Nat.mul_mod_right 2 N)
  rw [Runs.trace, contested_trace, hFirst]
  decide +kernel

def neighbours : Cluster where
  users := [namedUser "ana" "u1" ["a"], namedUser "bo" "u2" ["b"]]

def neighbourHome (name : String) : String :=
  if name = "a" ∨ name = "ana-config" then "ana" else "bo"

theorem namespaces_settle_neighbours :
    ∃ N, ∀ n, N ≤ n →
      (Runs.trace userStep (Runs.run userStep neighbours [anaPass, boPass]) takeTurns
        (n + 1)).namespaces =
        (Runs.trace userStep (Runs.run userStep neighbours [anaPass, boPass]) takeTurns
          n).namespaces := by
  have hHomed : Homed neighbourHome neighbours :=
    ⟨⟨by decide +kernel, nofun, nofun⟩, by decide +kernel, nofun⟩
  refine (namespaces_settle neighbourHome neighbours [anaPass, boPass] hHomed
    ⟨trivial, trivial, trivial⟩).2 takeTurns fun n => ?_
  unfold takeTurns
  split
  · trivial
  · trivial

end ClusterAgent.WorkspaceUser
