import ClusterAgent.Controller.Holds
import ClusterAgent.WorkspaceUser.Controller

/-!
# Cluster agent — what the steps of a User pass do

Every step of the pass ensures one object after the other and stops at the first it has
to write. `Ensured` says what this does to one object; `EnsuredEach` says that at most one
object of a list is written.
-/

namespace ClusterAgent.WorkspaceUser

open Pass Effect Session ObjectPass

variable {S T : Type}

/-! ## The owner -/

def userRef (user : User) : OwnerReference :=
  { kind := "User", name := user.name, uid := user.metadata.uid, controller := true }

def ownedBy (user : User) (o : Object S T) : Object S T :=
  { o with metadata.ownerReferences := [userRef user] }

theorem controlledBy_user {user : User} {o : Object S T} (hUser : user.metadata.ns = "")
    (hRefs : o.metadata.ownerReferences = []) :
    controlledBy user.metadata "User" o = pure (ownedBy user o) := by
  unfold controlledBy setControllerReference getControllerOf
  rw [hUser, hRefs]
  rfl

theorem hasSameController_ownedBy (user : User) (obj : ObjectMeta) (o : Object S T) :
    hasSameController obj (ownedBy user o).metadata = isControlledBy obj user.metadata := by
  unfold hasSameController isControlledBy
  cases getControllerOf obj with
  | none => rfl
  | some ref => rfl

theorem isControlledBy_of_refs {user : User} {obj : ObjectMeta}
    (h : obj.ownerReferences = [userRef user]) : isControlledBy obj user.metadata = true := by
  unfold isControlledBy getControllerOf
  rw [h]
  exact decide_eq_true rfl

/-! ## One object -/

/-- What became of one object the pass ensures. -/
inductive Ensured [DecidableEq S] (kind : Kind S T) (user : User) (o : Object S T) (w w' : World) :
    StepResult → Prop
  | owned (existing : Object S T)
      (found : lookup kind w.cluster o.metadata.ns o.metadata.name = some existing)
      (owned : isControlledBy existing.metadata user.metadata = true) (reads : Reads w w') :
      Ensured kind user o w w' .nil
  | created (stored : Object S T)
      (missing : lookup kind w.cluster o.metadata.ns o.metadata.name = none)
      (get : kind.get w'.cluster = kind.get w.cluster ++ [stored])
      (same : AsCreated (ownedBy user o) stored) : Ensured kind user o w w' .requeue
  | adopted (existing : Object S T)
      (found : lookup kind w.cluster o.metadata.ns o.metadata.name = some existing)
      (foreign : isControlledBy existing.metadata user.metadata = false)
      (get : kind.get w'.cluster = Keyed.write (hasKey o.metadata.ns o.metadata.name)
        (fun _ => updated existing (ownedBy user existing)) (kind.get w.cluster)) :
      Ensured kind user o w w' .requeue

section

variable [DecidableEq S] (env : Env) {kind : Kind S T} {user : User} {wrap : GoError → GoError}

theorem ensureOwned_spec (o : Object S T) (w : World) :
    Triple (· = w) (ensureOwned env kind wrap (ownedBy user o))
      (fun r w' => Ensured kind user o w w' r) (Reads w) := by
  refine .bind (getObject_spec env kind o.metadata.ns o.metadata.name w).attempt fun r =>
    .of_each fun w1 hw1 => ?_
  cases r with
  | error e => exact .err hw1
  | ok found =>
    obtain ⟨hFound, hReads⟩ := hw1
    have hCluster := cluster_of_reads hReads
    cases found with
    | none =>
      refine .bind ((create_spec env kind (ownedBy user o) w1).onError
        fun _ h => trans_of Reads hReads h) fun stored => .pure ?_
      rintro w' ⟨-, hGet, hSame⟩
      rw [hCluster] at hGet
      exact .created stored hFound.symm hGet hSame
    | some existing =>
      dsimp only
      rw [hasSameController_ownedBy]
      -- an object of the User is left, one of another owner is taken over
      split
      · next hOwned =>
        exact .ret (.owned existing hFound.symm hOwned hReads)
      · next hForeign =>
        obtain ⟨hNs, hName⟩ := hasKey_iff.mp (List.find?_some hFound.symm)
        refine .bind ((update_spec env kind (ownedBy user existing) w1).onError
          fun _ h => trans_of Reads hReads h) fun stored => .pure ?_
        rintro w' ⟨old, hOld, rfl, hGet⟩
        -- the update replaces the object that was read
        have hSame : old = existing := by
          have hStored : lookup kind w1.cluster existing.metadata.ns existing.metadata.name =
            some old := hOld
          rw [hCluster, hNs, hName, ← hFound] at hStored
          exact (Option.some.inj hStored).symm
        rw [hSame, hCluster] at hGet
        refine .adopted existing hFound.symm (by simpa using hForeign) ?_
        rw [← hNs, ← hName]
        exact hGet

/-- What became of a list of objects: all were there and owned, or one was written. -/
inductive EnsuredEach (kind : Kind S T) (user : User) (os : List (Object S T)) (w w' : World) :
    StepResult → Prop
  | owned (all : ∀ o ∈ os, ∃ existing,
        lookup kind w.cluster o.metadata.ns o.metadata.name = some existing ∧
          isControlledBy existing.metadata user.metadata = true)
      (reads : Reads w w') : EnsuredEach kind user os w w' .nil
  | written (o : Object S T) (mem : o ∈ os) (write : Ensured kind user o w w' .requeue) :
      EnsuredEach kind user os w w' .requeue

def owns (kind : Kind S T) (user : User) (c : Cluster) (o : Object S T) : Bool :=
  (lookup kind c o.metadata.ns o.metadata.name).any fun x => isControlledBy x.metadata user.metadata

theorem EnsuredEach.not_owned {os : List (Object S T)} {w w' : World}
    (h : EnsuredEach kind user os w w' .requeue) :
      ∃ o ∈ os, owns kind user w.cluster o = false := by
  cases h with
  | written o mem write =>
    refine ⟨o, mem, ?_⟩
    unfold owns
    cases write with
    | created stored missing get same =>
      rw [missing]
      rfl
    | adopted existing found foreign get =>
      rw [found]
      exact foreign

theorem Ensured.from_reads {o : Object S T} {w w1 w' : World} (hReads : Reads w w1)
    (h : Ensured kind user o w1 w' .requeue) : Ensured kind user o w w' .requeue := by
  have hCluster := cluster_of_reads hReads
  cases h with
  | created stored missing get same =>
    rw [hCluster] at missing get
    exact .created stored missing get same
  | adopted existing found foreign get =>
    rw [hCluster] at found get
    exact .adopted existing found foreign get

theorem ensureEach_spec (hUser : user.metadata.ns = "") {os : List (Object S T)}
    (hNew : ∀ o ∈ os, o.metadata.ownerReferences = []) (w : World) :
    Triple (· = w) (ensureEach env kind wrap user os)
      (fun r w' => EnsuredEach kind user os w w' r) (Reads w) := by
  -- over the objects; the first that has to be written ends the loop
  induction os generalizing w with
  | nil =>
    refine .ret ?_
    exact .owned nofun (refl_of Reads _)
  | cons o rest ih =>
    unfold ensureEach
    rw [controlledBy_user hUser (hNew o List.mem_cons_self), pure_bind]
    refine .bind (ensureOwned_spec env o w) fun r => .of_each fun w1 hw1 => ?_
    cases hw1 with
    | owned existing hFound hOwned hReads =>
      have hCluster := cluster_of_reads hReads
      refine (ih (fun x hx => hNew x (List.mem_cons_of_mem _ hx)) w1).conseq
        (fun r w' hRest => ?_) fun _ h => trans_of Reads hReads h
      -- this one was in place, so the outcome is that of the rest
      cases hRest with
      | owned hAll hReads' =>
        refine .owned (fun x hx => ?_) (trans_of Reads hReads hReads')
        rcases List.mem_cons.mp hx with rfl | hx
        · exact ⟨existing, hFound, hOwned⟩
        · rw [← hCluster]
          exact hAll x hx
      | written x hx hWrite =>
        exact .written x (List.mem_cons_of_mem _ hx) (hWrite.from_reads hReads)
    | created stored hNone hGet hSame =>
      exact .pure fun _ h =>
        h ▸ .written o List.mem_cons_self (.created stored hNone hGet hSame)
    | adopted existing hFound hForeign hGet =>
      exact .pure fun _ h =>
        h ▸ .written o List.mem_cons_self (.adopted existing hFound hForeign hGet)

end

/-! ## What each step alters -/

theorem reads_listEverywhere {env : Env} (kind : Kind S T) {labels : StringMap} :
    ReadsOnly (listEverywhere env kind labels) :=
  .bind reads_call fun _ => .bind .get fun _ => .pure

theorem listEverywhere_spec {env : Env} (kind : Kind S T) {labels : StringMap} (w : World) :
    Triple (· = w) (listEverywhere env kind labels)
      (fun os w' => os = (kind.get w.cluster).filter (fun o =>
        labels.all fun e => decide (o.metadata.labels.get? e.1 = some e.2)) ∧ Reads w w')
      (Reads w) := by
  refine .bind (call_spec w) fun _ => ?_
  rintro _ rfl
  exact ⟨rfl, _, rfl⟩

section

variable [DecidableEq S] {env : Env} {kind : Kind S T} {fp : Footprint} {wrap : GoError → GoError}

theorem has_ensureOwned (h : kind.id ∈ fp.objects) (desired : Object S T) :
    Has fp (ensureOwned env kind wrap desired) := by
  refine .bind (has_getObject).attempt fun r => ?_
  cases r with
  | error e => exact .throw
  | ok found =>
    cases found with
    | none => exact .bind (has_create h) fun _ => .pure
    | some existing =>
      dsimp only
      split
      · exact .pure
      · exact .bind (has_update h) fun _ => .pure

theorem has_ensureEach (h : kind.id ∈ fp.objects) (user : User) (os : List (Object S T)) :
    Has fp (ensureEach env kind wrap user os) := by
  induction os with
  | nil => exact .pure
  | cons o rest ih =>
    refine .bind (Has.of_reads reads_controlledBy) fun desired =>
      .bind (has_ensureOwned h desired) fun r => ?_
    cases r with
    | nil => exact ih
    | stop => exact .pure
    | requeue => exact .pure
    | requeueAfter t => exact .pure

omit [DecidableEq S] in
theorem has_removeUnwanted (h : kind.id ∈ fp.objects) (user : User) (wanted : Object S T → Bool) :
    Has fp (removeUnwanted env kind user wanted) :=
  .bind (Has.of_reads (reads_listEverywhere kind)) fun _ =>
    .forM fun _ => has_delete h

theorem alters_ensureEach (kind : Kind S T) (user : User) (os : List (Object S T)) :
    Within (Alters [kind.id]) (onCluster (ensureEach env kind wrap user os) :
      UserPass StepResult) :=
  alters_onCluster (has_ensureEach List.mem_cons_self user os)

theorem alters_ensureAndRemove (kind : Kind S T) {user : User} {os : List (Object S T)}
    {wanted : Object S T → Bool} :
    Within (Alters [kind.id]) (do
      let result ← onCluster (ensureEach env kind wrap user os)
      if result ≠ .nil then return result
      else
        onCluster (removeUnwanted env kind user wanted)
        return .nil : UserPass StepResult) := by
  refine .bind (alters_ensureEach kind user os) fun result => ?_
  split
  · exact .pure
  · exact .bind (alters_onCluster (has_removeUnwanted List.mem_cons_self user wanted))
      fun _ => .pure

end

section

variable {env : Env}

theorem alters_reconcileConfigNamespace :
    Within (Alters [.kubeNamespace]) (reconcileConfigNamespace env) :=
  .bind alters_getOwn fun _ => alters_ensureEach .kubeNamespace _ _

theorem alters_reconcileNamespaces : Within (Alters [.kubeNamespace]) (reconcileNamespaces env) :=
  .bind alters_getOwn fun _ => alters_ensureAndRemove .kubeNamespace

theorem alters_reconcileSA : Within (Alters [.serviceAccount]) (reconcileSA env) :=
  .bind alters_getOwn fun _ => alters_ensureEach .serviceAccount _ _

theorem alters_reconcileRole : Within (Alters [.clusterRole]) (reconcileRole env) := by
  have hKind : ObjectKind.clusterRole ∈ [ObjectKind.clusterRole] := List.mem_cons_self
  refine .bind alters_getOwn fun user =>
    .bind (alters_reads reads_controlledBy) fun desired =>
      .bind (alters_reads reads_getObject) fun found => ?_
  cases found with
  | none =>
    exact .bind (alters_onCluster (has_create hKind)) fun _ => .pure
  | some existing =>
    dsimp only
    split
    · exact .pure
    · exact .bind (alters_onCluster (has_update hKind)) fun _ => .pure

theorem alters_reconcileRoleBinding : Within (Alters [.roleBinding]) (reconcileRoleBinding env) :=
  .bind alters_getOwn fun _ => alters_ensureAndRemove .roleBinding

theorem alters_reconcileSASecret : Within (Alters [.secret]) (reconcileSASecret env) :=
  .bind alters_getOwn fun _ => alters_ensureEach .secret _ _

theorem alters_statusReconciler : Within (Alters []) (statusReconciler env) := by
  refine .bind alters_getOwn fun user => .bind alters_modifyStatus fun _ =>
    .bind (alters_reads reads_mustGet) fun secret => ?_
  split
  · exact .bind alters_modifyStatus fun _ => .pure
  · exact .bind alters_modifyStatus fun _ => .pure

variable (env)

/-- The kinds of objects a pass writes, next to the status of its User. -/
def writtenKinds : List ObjectKind :=
  [.kubeNamespace, .serviceAccount, .clusterRole, .roleBinding, .secret]

theorem alters_subReconcilers : Within (Alters writtenKinds) (runChain (subReconcilers env)) := by
  have hWiden : ∀ {kinds : List ObjectKind} {m : UserPass StepResult}, Within (Alters kinds) m →
      kinds ⊆ writtenKinds → Within (Alters writtenKinds) m :=
    fun h hSub => h.mono fun _ _ hs => hs.widen hSub
  refine alters_runChain fun step hMem => ?_
  unfold subReconcilers at hMem
  simp only [List.mem_cons, List.not_mem_nil, or_false] at hMem
  rcases hMem with rfl | rfl | rfl | rfl | rfl | rfl | rfl
  · exact hWiden alters_reconcileConfigNamespace (by decide)
  · exact hWiden alters_reconcileNamespaces (by decide)
  · exact hWiden alters_reconcileSA (by decide)
  · exact hWiden alters_reconcileRole (by decide)
  · exact hWiden alters_reconcileRoleBinding (by decide)
  · exact hWiden alters_reconcileSASecret (by decide)
  · exact hWiden alters_statusReconciler (by decide)

end

end ClusterAgent.WorkspaceUser
