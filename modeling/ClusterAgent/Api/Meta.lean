import ClusterAgent.Lib.Conditions
import ClusterAgent.Lib.Keyed

/-!
# Cluster agent — object metadata

The part of the Kubernetes object model every controller of the agent shares:
timestamps, string maps (labels and annotations), and object metadata.

Times and durations are `Int`s counting nanoseconds; a time counts from Go's
zero time, so `0` is the unset `metav1.Time{}`. A `Timestamp` is a `metav1.Time`
as a pass holds it in memory: `metav1.Now()` carries a reading of the monotonic
clock besides the wall time. The API server keeps neither that reading nor
anything below a second (RFC 3339 without a fraction); `Timestamp.stored` is
what a timestamp written now reads back as in a later pass.
-/

namespace ClusterAgent

/-! ## Time -/

def second : Int := 1000000000
def minute : Int := 60 * second

/-- What a wall time becomes by going through the API server. -/
def storedTime (t : Int) : Int := t - t % second

theorem storedTime_storedTime (t : Int) : storedTime (storedTime t) = storedTime t := by
  unfold storedTime second
  omega

structure Timestamp where
  wall : Int
  monotonic : Option Int := none
  deriving DecidableEq, Repr

def Timestamp.stored (t : Timestamp) : Timestamp := ⟨storedTime t.wall, none⟩

@[simp] theorem Timestamp.stored_stored (t : Timestamp) : t.stored.stored = t.stored := by
  rw [stored, stored, storedTime_storedTime]

structure Clock where
  wall : Int
  monotonic : Int
  deriving DecidableEq, Repr

def Clock.now (c : Clock) : Timestamp := ⟨c.wall, some c.monotonic⟩

/-- A fresh reading never survives storage: the monotonic part is lost. -/
theorem Clock.now_ne_stored (c : Clock) (t : Timestamp) : c.now ≠ t.stored := by
  intro h
  exact Option.some_ne_none _ (congrArg Timestamp.monotonic h)

/-! ## String maps -/

/-- A Go `map[string]string`. -/
abbrev StringMap := List (String × String)

def StringMap.get? (m : StringMap) (k : String) : Option String := m.lookup k

def StringMap.get (m : StringMap) (k : String) : String := (m.get? k).getD ""

def StringMap.set (m : StringMap) (k v : String) : StringMap :=
  (k, v) :: m.filter fun e => decide (e.1 ≠ k)

def StringMap.delete (m : StringMap) (k : String) : StringMap :=
  m.filter fun e => decide (e.1 ≠ k)

theorem StringMap.get?_delete_same (m : StringMap) (k : String) : (m.delete k).get? k = none :=
  (Keyed.lookup_without k k m).trans (if_pos rfl)

theorem StringMap.get?_delete_other {k k' : String} (h : k' ≠ k) (m : StringMap) :
    (m.delete k).get? k' = m.get? k' :=
  (Keyed.lookup_without k' k m).trans (if_neg h)

theorem StringMap.get?_set_same (m : StringMap) (k v : String) : (m.set k v).get? k = some v :=
  List.lookup_cons_self

theorem StringMap.get?_set_other {k k' : String} (h : k' ≠ k) (m : StringMap) (v : String) :
    (m.set k v).get? k' = m.get? k' := by
  refine Eq.trans ?_ (get?_delete_other h m)
  unfold StringMap.set StringMap.get?
  rw [List.lookup_cons, beq_eq_false_iff_ne.mpr h]
  rfl

/-! ## Object metadata -/

structure OwnerReference where
  kind : String := ""
  name : String := ""
  uid : String
  controller : Bool := false
  deriving DecidableEq, Repr

/-- The fields of `metav1.ObjectMeta` the agent reads or writes. `ns` is the
object's namespace. -/
structure ObjectMeta where
  name : String
  ns : String := ""
  uid : String := ""
  generation : Int := 0
  labels : StringMap := []
  annotations : StringMap := []
  ownerReferences : List OwnerReference := []
  finalizers : List String := []
  creationTimestamp : Int := 0
  deletionTimestamp : Option Int := none
  deriving DecidableEq, Repr

structure Object (S T : Type) where
  metadata : ObjectMeta
  spec : S
  status : T
  deriving DecidableEq, Repr

namespace Object

variable {S T : Type}

def name (o : Object S T) : String := o.metadata.name
def ns (o : Object S T) : String := o.metadata.ns
def generation (o : Object S T) : Int := o.metadata.generation

end Object

def revisionAnnotationKey : String := "core.stackdome.io/revision"
def releaseIDAnnotationKey : String := "core.stackdome.io/release-id"
def clusterIssuerAnnotationKey : String := "core.stackdome.io/cluster-issuer"
def restartResourceAnnotationKey : String := "kubectl.kubernetes.io/restartedAt"

def labelManagedBy : String := "app.kubernetes.io/managed-by"
def labelStackName : String := "core.stackdome.io/stack-name"
def labelStackID : String := "core.stackdome.io/stack-id"
def labelResourceName : String := "core.stackdome.io/resource-name"
def labelResourceID : String := "core.stackdome.io/resource-id"

/-! ## Ownership -/

def getControllerOf (obj : ObjectMeta) : Option OwnerReference :=
  obj.ownerReferences.find? OwnerReference.controller

def isControlledBy (obj owner : ObjectMeta) : Bool :=
  match getControllerOf obj with
  | none => false
  | some ref => decide (ref.uid = owner.uid)

/-- Same kind and same name: references to one object, whatever the uid. -/
def referSameObject (a b : OwnerReference) : Bool :=
  decide (a.kind = b.kind) && decide (a.name = b.name)

def upsertOwnerRef (ref : OwnerReference) : List OwnerReference → List OwnerReference
  | [] => [ref]
  | r :: rest => if referSameObject r ref then ref :: rest else r :: upsertOwnerRef ref rest

/-- `controllerutil.SetControllerReference`: `none` when the owner lives in another
namespace or the object is controlled by something else. -/
def setControllerReference (owner : ObjectMeta) (kind : String) (obj : ObjectMeta) :
    Option ObjectMeta :=
  let ref : OwnerReference :=
    { kind := kind, name := owner.name, uid := owner.uid, controller := true }
  if decide (owner.ns ≠ "") && decide (owner.ns ≠ obj.ns) then none
  else
    match getControllerOf obj with
    | some existing =>
      if referSameObject existing ref then
        some { obj with ownerReferences := upsertOwnerRef ref obj.ownerReferences }
      else none
    | none => some { obj with ownerReferences := upsertOwnerRef ref obj.ownerReferences }

theorem setControllerReference_eq {owner obj obj' : ObjectMeta} {kind : String}
    (h : setControllerReference owner kind obj = some obj') :
    ∃ refs, obj' = { obj with ownerReferences := refs } := by
  unfold setControllerReference at h
  dsimp only at h
  split at h
  · cases h
  · split at h
    · split at h
      · exact ⟨_, (Option.some.inj h).symm⟩
      · cases h
    · exact ⟨_, (Option.some.inj h).symm⟩

/-- `controllerutil.SetOwnerReference`: a plain, non-controlling reference. -/
def setOwnerReference (owner : ObjectMeta) (kind : String) (obj : ObjectMeta) :
    Option ObjectMeta :=
  let ref : OwnerReference := { kind := kind, name := owner.name, uid := owner.uid }
  if decide (owner.ns ≠ "") && decide (owner.ns ≠ obj.ns) then none
  else some { obj with ownerReferences := upsertOwnerRef ref obj.ownerReferences }

theorem setOwnerReference_eq {owner obj obj' : ObjectMeta} {kind : String}
    (h : setOwnerReference owner kind obj = some obj') :
    ∃ refs, obj' = { obj with ownerReferences := refs } := by
  unfold setOwnerReference at h
  dsimp only at h
  split at h
  · cases h
  · cases h
    exact ⟨_, rfl⟩

def hasOwnerReference (owner : ObjectMeta) (kind : String) (obj : ObjectMeta) : Bool :=
  obj.ownerReferences.any fun r =>
    referSameObject r { kind := kind, name := owner.name, uid := owner.uid }

end ClusterAgent
