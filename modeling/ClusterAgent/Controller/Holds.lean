import ClusterAgent.Controller.Lookup

/-!
# Cluster agent — objects that API calls leave alone

`Holds` says that some objects of a kind are stored as they are. A call that creates an
object, or that writes under a key none of them has, leaves them; the rules below say so
for each call, also when it fails.
-/

namespace ClusterAgent.Pass

open Effect

variable {S T : Type}

theorem finalizers_of_marked {time : Int} {x y : Object S T}
    (h : removedOrMarked time x = some y) : y.metadata.finalizers ≠ [] := by
  unfold removedOrMarked at h
  split at h
  · cases h
  · next hFinalizers =>
    cases h
    exact fun hNone => hFinalizers (List.isEmpty_iff.mpr hNone)

/-- The kept objects are stored as they are, each the only one under its key. A loop that writes
other keys only holds them, whichever of its calls fail. -/
structure Holds (kind : Kind S T) (kept : Object S T → Prop) (c : Cluster) : Prop where
  unique : Unique kind c
  stored : ∀ v, kept v → lookup kind c v.metadata.ns v.metadata.name = some v

section

variable {kind : Kind S T} {kept : Object S T → Prop} {c c' : Cluster}

theorem Holds.congr (h : Holds kind kept c) (hGet : kind.get c' = kind.get c) :
    Holds kind kept c' :=
  ⟨h.unique.congr hGet, fun v hv => (lookup_congr hGet).trans (h.stored v hv)⟩

theorem Holds.eq_of_key {x v : Object S T} (h : Holds kind kept c) (hx : x ∈ kind.get c)
    (hv : kept v) (hNs : v.metadata.ns = x.metadata.ns)
    (hName : v.metadata.name = x.metadata.name) :
    x = v := by
  have hStored := h.stored v hv
  rw [hNs, hName, h.unique x hx] at hStored
  exact Option.some.inj hStored

theorem Holds.reads {w w' : World} (h : Holds kind kept w.cluster) (hReads : Reads w w') :
    Holds kind kept w'.cluster := by
  rw [cluster_of_reads hReads]
  exact h

variable {env : Env}

theorem holds_of_reads {α : Type} {m : Pass α} (h : ReadsOnly m) :
    Ensures (fun w => Holds kind kept w.cluster) m (fun w => Holds kind kept w.cluster) :=
  Within.triple h fun _ _ hReads hs => hs.reads hReads

theorem holds_create (o : Object S T) :
    Ensures (fun w => Holds kind kept w.cluster) (create env kind o)
      (fun w => Holds kind kept w.cluster) := by
  refine .of_each fun w h => ?_
  refine (create_spec env kind o w).conseq ?_ fun _ hReads => h.reads hReads
  rintro stored w' ⟨hFree, hGet, -⟩
  refine ⟨h.unique.append hGet hFree, fun v hv => ?_⟩
  have hStored := h.stored v hv
  rw [lookup_append_other hGet, hStored]
  rintro ⟨hNs, hName⟩
  rw [hNs, hName, hFree] at hStored
  cases hStored

theorem holds_update [DecidableEq S] {o : Object S T}
    (hOther : ∀ v, kept v → ¬ (v.metadata.ns = o.metadata.ns ∧ v.metadata.name = o.metadata.name)) :
    Ensures (fun w => Holds kind kept w.cluster) (update env kind o)
      (fun w => Holds kind kept w.cluster) := by
  refine .of_each fun w h => ?_
  refine (update_spec env kind o w).conseq ?_ fun _ hReads => h.reads hReads
  rintro stored w' ⟨old, -, rfl, hGet⟩
  have hKey : ∀ x : Object S T, hasKey o.metadata.ns o.metadata.name x = true →
      hasKey o.metadata.ns o.metadata.name (updated old o) = true := fun _ _ => hasKey_self _
  exact ⟨h.unique.write hGet hKey, fun v hv =>
    (lookup_write_other (hOther v hv) hGet hKey).trans (h.stored v hv)⟩

theorem holds_updateOrRelease [DecidableEq S] {o : Object S T}
    (hOther : ∀ v, kept v → ¬ (v.metadata.ns = o.metadata.ns ∧ v.metadata.name = o.metadata.name)) :
    Ensures (fun w => Holds kind kept w.cluster) (updateOrRelease env kind o)
      (fun w => Holds kind kept w.cluster) := by
  refine .bind (holds_update hOther) fun stored => ?_
  split
  · refine .modify fun w h => ?_
    have hGet := kind.get_set w.cluster
      ((kind.get w.cluster).filter fun x => !hasKey o.metadata.ns o.metadata.name x)
    exact ⟨h.unique.without hGet, fun v hv =>
      (lookup_without_other (hOther v hv) hGet).trans (h.stored v hv)⟩
  · exact .skip

theorem holds_delete {o : Object S T}
    (hOther : ∀ v, kept v → ¬ (v.metadata.ns = o.metadata.ns ∧ v.metadata.name = o.metadata.name)) :
    Ensures (fun w => Holds kind kept w.cluster) (delete env kind o)
      (fun w => Holds kind kept w.cluster) := by
  refine .of_each fun w h => ?_
  refine (delete_revises env kind o w).conseq (fun _ w' hGet => ?_)
    fun _ hReads => h.reads hReads
  exact ⟨h.unique.revise hGet key_removedOrMarked, fun v hv =>
    (lookup_revise_other (hOther v hv) hGet key_removedOrMarked).trans (h.stored v hv)⟩

end

/-! ## A loop of deletions -/

section

variable (env : Env) (kind : Kind S T)

/-- What a deletion leaves under its key has finalizers. `I` is any fact about the stored
objects that a mark of deletion does not change. -/
theorem delete_leaves {I : Object S T → Prop}
    (hMark : ∀ time x y, I x → removedOrMarked time x = some y → I y) (o : Object S T) :
    Triple (fun w => ∀ x ∈ kind.get w.cluster, I x) (delete env kind o)
      (fun _ w => ∀ x ∈ kind.get w.cluster, I x ∧
        (hasKey o.metadata.ns o.metadata.name x = true → x.metadata.finalizers ≠ []))
      fun w => ∀ x ∈ kind.get w.cluster, I x := by
  refine .of_each fun w h => ?_
  refine (delete_revises env kind o w).conseq (fun _ w' hGet y hy => ?_)
    fun w' hReads => by rw [cluster_of_reads hReads]; exact h
  rw [hGet] at hy
  rcases Keyed.mem_revise hy with ⟨x, hx, -, hMarked⟩ | ⟨hOld, hOther⟩
  · exact ⟨hMark _ x y (h x hx) hMarked, fun _ => finalizers_of_marked hMarked⟩
  · refine ⟨h y hOld, fun hKey => ?_⟩
    rw [hKey] at hOther
    cases hOther

theorem deleteEach_leaves {I : Object S T → Prop}
    (hMark : ∀ time x y, I x → removedOrMarked time x = some y → I y) (os : List (Object S T)) :
    Triple (fun w => ∀ x ∈ kind.get w.cluster, I x) (os.forM (delete env kind))
      (fun _ w => ∀ x ∈ kind.get w.cluster, I x ∧ ∀ o ∈ os,
        hasKey o.metadata.ns o.metadata.name x = true → x.metadata.finalizers ≠ [])
      fun w => ∀ x ∈ kind.get w.cluster, I x := by
  induction os generalizing I with
  | nil => exact .pure fun _ h x hx => ⟨h x hx, nofun⟩
  | cons o rest ih =>
    -- the fact gained about `o` is one that later marks do not change
    have hRest := ih (I := fun x => I x ∧
        (hasKey o.metadata.ns o.metadata.name x = true → x.metadata.finalizers ≠ []))
      fun time x y hx hMarked => ⟨hMark time x y hx.1 hMarked,
        fun _ => finalizers_of_marked hMarked⟩
    refine .bind (delete_leaves env kind hMark o) fun _ => hRest.conseq
      (fun _ w h x hx => ?_) fun w h x hx => (h x hx).1
    obtain ⟨⟨hI, hFirst⟩, hOthers⟩ := h x hx
    refine ⟨hI, fun o' ho' => ?_⟩
    rcases List.mem_cons.mp ho' with rfl | ho'
    · exact hFirst
    · exact hOthers o' ho'

end

end ClusterAgent.Pass
