import ClusterAgent.Controller.Reliable

/-!
# Cluster agent — whose an object is

The API server tells objects apart by their key, and `SetControllerReference`
says whose they are: the uid in the controller reference. The rest of an object
does not matter for either, so a list of objects is looked at through its tags.

* `Gains kind tag` — the only new tag of a kind is the given one;
* `Wrote` — and an object with it is there;
* `createOrUpdate_wrote` — `CreateOrUpdate` under a controller reference leaves
  that, or fails and leaves everything.
-/

namespace ClusterAgent

open Effect

structure OwnerTag where
  ns : String
  name : String
  controller : Option String
  deriving DecidableEq, Repr

def ownerTag (m : ObjectMeta) : OwnerTag where
  ns := m.ns
  name := m.name
  controller := (getControllerOf m).map OwnerReference.uid

def ownTag (owner : ObjectMeta) : OwnerTag where
  ns := owner.ns
  name := owner.name
  controller := some owner.uid

theorem find_upsertOwnerRef {ref : OwnerReference} (hRef : ref.controller = true)
    {refs : List OwnerReference}
    (h : ∀ found, refs.find? OwnerReference.controller = some found →
      referSameObject found ref = true) :
    (upsertOwnerRef ref refs).find? OwnerReference.controller = some ref := by
  induction refs with
  | nil =>
    unfold upsertOwnerRef
    rw [List.find?_cons_of_pos hRef]
  | cons r rest ih =>
    unfold upsertOwnerRef
    split
    · rw [List.find?_cons_of_pos hRef]
    · next hOther =>
      have hNot : ¬ r.controller = true := by
        intro hr
        exact hOther (h r (List.find?_cons_of_pos hr))
      rw [List.find?_cons_of_neg hNot] at h ⊢
      exact ih h

theorem ownerTag_setControllerReference {owner obj obj' : ObjectMeta} {kind : String}
    (h : setControllerReference owner kind obj = some obj') :
    ownerTag obj' = { ns := obj.ns, name := obj.name, controller := some owner.uid } := by
  have hTag : ∀ refs, refs.find? OwnerReference.controller =
      some { kind := kind, name := owner.name, uid := owner.uid, controller := true } →
      ownerTag { obj with ownerReferences := refs } =
        { ns := obj.ns, name := obj.name, controller := some owner.uid } := by
    intro refs hFound
    unfold ownerTag getControllerOf
    rw [hFound]
    rfl
  unfold setControllerReference at h
  dsimp only at h
  split at h
  · cases h
  · split at h
    · next existing hExisting =>
      split at h
      · next hSame =>
        cases h
        refine hTag _ (find_upsertOwnerRef rfl fun found hFound => ?_)
        cases hExisting.symm.trans hFound
        exact hSame
      · cases h
    · next hNone =>
      cases h
      refine hTag _ (find_upsertOwnerRef rfl fun found hFound => ?_)
      cases hNone.symm.trans hFound

namespace Pass

variable {S T : Type}

theorem ownerTag_of_sameContent {o o' : Object S T} (h : SameContent o o')
    (hRefs : o'.metadata.ownerReferences = o.metadata.ownerReferences) :
    ownerTag o'.metadata = ownerTag o.metadata := by
  unfold ownerTag getControllerOf
  rw [h.ns, h.name, hRefs]

def tags (kind : Kind S T) (c : Cluster) : List OwnerTag :=
  (kind.get c).map fun o => ownerTag o.metadata

/-- The only tag that may be new is the given one. -/
def Gains (kind : Kind S T) (tag : OwnerTag) (w w' : World) : Prop :=
  ∀ t ∈ tags kind w'.cluster, t ∈ tags kind w.cluster ∨ t = tag

instance (kind : Kind S T) (tag : OwnerTag) : IsPreorder World (Gains kind tag) where
  refl _ _ ht := Or.inl ht
  trans _ _ _ h h' t ht := (h' t ht).elim (h t) Or.inr

section

variable {kind : Kind S T} {tag : OwnerTag} {w w' : World}

theorem Gains.of_get (h : kind.get w'.cluster = kind.get w.cluster) : Gains kind tag w w' := by
  intro t ht
  unfold tags at ht ⊢
  rw [h] at ht
  exact Or.inl ht

variable (env : Env)

theorem controlled_ownerTag {o : Object S T} (w : World) :
    Triple (Reads w) (controlled o)
      (fun o' w' => ownerTag o'.metadata = ⟨o.metadata.ns, o.metadata.name,
        some w.resource.metadata.uid⟩ ∧ Reads w w') (Reads w) := by
  refine .of_each fun w1 hw1 => bind_resource ?_
  obtain ⟨calls, rfl⟩ := hw1
  split
  · next metadata hRef =>
    refine .ret ?_
    exact ⟨ownerTag_setControllerReference hRef, calls, rfl⟩
  · refine .err ?_
    exact ⟨calls, rfl⟩

/-- An object under a tag was written: it is there, and nothing else is new. -/
structure Wrote (kind : Kind S T) (tag : OwnerTag) (M : S → Prop) (w w' : World) : Prop where
  stored : ∃ o, lookup kind w'.cluster tag.ns tag.name = some o ∧ ownerTag o.metadata = tag ∧
    M o.spec
  only : Gains kind tag w w'

theorem Wrote.of_get {M : S → Prop} {w1 : World} (h : Wrote kind tag M w w1)
    (hGet : kind.get w'.cluster = kind.get w1.cluster) : Wrote kind tag M w w' where
  stored := by
    unfold lookup
    rw [hGet]
    exact h.stored
  only := trans_of (Gains kind tag) h.only (.of_get hGet)

theorem Wrote.mem_tags {M : S → Prop} (h : Wrote kind tag M w w') : tag ∈ tags kind w'.cluster := by
  obtain ⟨o, hLookup, hTag, -⟩ := h.stored
  exact List.mem_map.mpr ⟨o, List.mem_of_find?_eq_some hLookup, hTag⟩

/-- **What `CreateOrUpdate` leaves.** If every mutation of an object under the key meets `M`
and has the tag, then so does the stored object; a failure changes nothing. -/
theorem createOrUpdate_wrote [DecidableEq S] [DecidableEq T] {blank : Object S T} {M : S → Prop}
    {mutate : Object S T → Pass (Object S T)} (hNs : blank.metadata.ns = tag.ns)
    (hName : blank.metadata.name = tag.name)
    (hm : ∀ o, hasKey tag.ns tag.name o = true →
      Triple (Reads w) (mutate o)
        (fun o' w' => (ownerTag o'.metadata = tag ∧ M o'.spec ∧ o'.status = o.status) ∧ Reads w w')
        (Reads w)) :
    Triple (· = w) (createOrUpdate env kind blank mutate) (fun _ => Wrote kind tag M w)
      (Reads w) := by
  refine (createOrUpdate_stores (M := fun _ o' => ownerTag o'.metadata = tag ∧ M o'.spec)
    False.elim fun o ho => ?_).conseq ?_ fun _ h => h.1
  · rw [hNs, hName] at ho ⊢
    refine (hm o ho).conseq ?_ fun _ h => ⟨h, fun h => h.1⟩
    rintro o' w' ⟨⟨rfl, hM, hStatus⟩, hReads⟩
    exact ⟨⟨⟨rfl, hM⟩, hStatus, hasKey_self o'⟩, hReads⟩
  rintro r w' ⟨⟨hLookup, hOnly⟩, o', ⟨hTag, hM⟩, hSame, hRefs⟩
  have hStored : ownerTag r.metadata = tag := (ownerTag_of_sameContent hSame hRefs).trans hTag
  rw [hNs, hName] at hLookup
  refine ⟨⟨r, hLookup, hStored, hSame.spec ▸ hM⟩, fun t ht => ?_⟩
  obtain ⟨x, hx, rfl⟩ := List.mem_map.mp ht
  rcases hOnly x hx with hOld | rfl
  · exact Or.inl (List.mem_map.mpr ⟨x, hOld, rfl⟩)
  · exact Or.inr hStored

end

end Pass

end ClusterAgent
