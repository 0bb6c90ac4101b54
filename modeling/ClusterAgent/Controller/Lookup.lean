import ClusterAgent.Controller.Footprint

/-!
# Cluster agent — what lookups find

An object is found under its namespace and name. A write under one key is what
the lookup of that key finds afterwards, and no other lookup sees it. The API
server holds one object of a kind under a key; `Unique` says so of a cluster, and
every operation keeps it.
-/

namespace ClusterAgent.Pass

open Effect

variable {S T : Type}

theorem cluster_of_reads {w w' : World} (h : Reads w w') : w'.cluster = w.cluster := by
  obtain ⟨calls, rfl⟩ := h
  rfl

theorem hasKey_self (o : Object S T) : hasKey o.metadata.ns o.metadata.name o = true :=
  hasKey_iff.mpr ⟨rfl, rfl⟩

theorem hasKey_other {ns name ns' name' : String} (hKey : ¬ (ns' = ns ∧ name' = name))
    (x : Object S T) (h : hasKey ns name x = true) : hasKey ns' name' x = false := by
  obtain ⟨rfl, rfl⟩ := hasKey_iff.mp h
  cases hOther : hasKey ns' name' x with
  | false => rfl
  | true =>
    obtain ⟨rfl, rfl⟩ := hasKey_iff.mp hOther
    exact absurd ⟨rfl, rfl⟩ hKey

theorem key_removedOrMarked {ns name : String} {time : Int} (x y : Object S T)
    (hKey : hasKey ns name x = true) (h : removedOrMarked time x = some y) :
    hasKey ns name y = true :=
  ((removedOrMarked_sameContent h).1.hasKey ns name).trans hKey

section

variable {kind : Kind S T} {c c' : Cluster} {ns name ns' name' : String}
  {f : Object S T → Object S T} {g : Object S T → Option (Object S T)}

/-! ## Lookups after a change -/

theorem lookup_congr (h : kind.get c' = kind.get c) {ns name : String} :
    lookup kind c' ns name = lookup kind c ns name :=
  congrArg (List.find? (hasKey ns name)) h

theorem lookup_same (kind : Kind S T) (h : c.Same c' kind.id) {ns name : String} :
    lookup kind c' ns name = lookup kind c ns name :=
  lookup_congr (kind.get_same c c' h)

theorem lookup_write (h : kind.get c' = Keyed.write (hasKey ns name) f (kind.get c))
    (hf : ∀ x, hasKey ns name x = true → hasKey ns name (f x) = true) :
    lookup kind c' ns name = (lookup kind c ns name).map f :=
  (congrArg (List.find? (hasKey ns name)) h).trans (Keyed.find?_write hf _)

theorem lookup_without (h : kind.get c' = (kind.get c).filter fun x => !hasKey ns name x) :
    lookup kind c' ns name = none := by
  refine List.find?_eq_none.mpr fun x hx => ?_
  rw [h] at hx
  simpa using (List.mem_filter.mp hx).2

theorem lookup_revise_other (hKey : ¬ (ns' = ns ∧ name' = name))
    (h : kind.get c' = Keyed.revise (hasKey ns name) g (kind.get c))
    (hg : ∀ x y, hasKey ns name x = true → g x = some y → hasKey ns name y = true) :
    lookup kind c' ns' name' = lookup kind c ns' name' :=
  (congrArg (List.find? (hasKey ns' name')) h).trans
    (Keyed.find?_revise_other (hasKey_other hKey) hg)

theorem lookup_write_other (hKey : ¬ (ns' = ns ∧ name' = name))
    (h : kind.get c' = Keyed.write (hasKey ns name) f (kind.get c))
    (hf : ∀ x, hasKey ns name x = true → hasKey ns name (f x) = true) :
    lookup kind c' ns' name' = lookup kind c ns' name' :=
  lookup_revise_other hKey (h.trans (Keyed.write_eq_revise f _))
    fun x _ hx hy => Option.some.inj hy ▸ hf x hx

theorem lookup_without_other (hKey : ¬ (ns' = ns ∧ name' = name))
    (h : kind.get c' = (kind.get c).filter fun x => !hasKey ns name x) :
    lookup kind c' ns' name' = lookup kind c ns' name' :=
  lookup_revise_other hKey (h.trans (Keyed.without_eq_revise _)) fun _ _ _ hy => nomatch hy

theorem lookup_append {o : Object S T} (h : kind.get c' = kind.get c ++ [o])
    (hNone : lookup kind c o.metadata.ns o.metadata.name = none) :
    lookup kind c' o.metadata.ns o.metadata.name = some o :=
  (congrArg (List.find? _) h).trans (Keyed.find?_append_new hNone (hasKey_self o))

theorem lookup_append_other {o : Object S T} (h : kind.get c' = kind.get c ++ [o])
    (hKey : ¬ (ns = o.metadata.ns ∧ name = o.metadata.name)) :
    lookup kind c' ns name = lookup kind c ns name := by
  refine (congrArg (List.find? (hasKey ns name)) h).trans ?_
  have hNot : hasKey ns name o = false := hasKey_other hKey o (hasKey_self o)
  rw [List.find?_append, List.find?_cons_of_neg (by simp [hNot]), List.find?_nil, Option.or_none]
  rfl

def FindsSame (kind : Kind S T) (ns name : String) (w w' : World) : Prop :=
  lookup kind w'.cluster ns name = lookup kind w.cluster ns name

instance (kind : Kind S T) (ns name : String) : IsPreorder World (FindsSame kind ns name) where
  refl _ := rfl
  trans _ _ _ h h' := Eq.trans h' h

theorem FindsSame.of_reads {w w' : World} (h : Reads w w') : FindsSame kind ns name w w' :=
  congrArg (lookup kind · ns name) (cluster_of_reads h)

section

variable {env : Env} {o : Object S T}
  (hKey : ¬ (ns = o.metadata.ns ∧ name = o.metadata.name))

include hKey

theorem findsSame_create : Within (FindsSame kind ns name) (create env kind o) := by
  intro w
  refine Triple.reached (P := (· = w)) (I := FindsSame kind ns name w) ?_ rfl
  refine (create_spec env kind o w).conseq ?_ fun _ => FindsSame.of_reads
  rintro stored w' ⟨-, hGet, hContent⟩
  refine lookup_append_other hGet ?_
  rw [hContent.ns, hContent.name]
  exact hKey

theorem findsSame_update [DecidableEq S] :
    Within (FindsSame kind ns name) (update env kind o) := by
  intro w
  refine Triple.reached (P := (· = w)) (I := FindsSame kind ns name w) ?_ rfl
  refine (update_spec env kind o w).conseq ?_ fun _ => FindsSame.of_reads
  rintro stored w' ⟨old, -, rfl, hGet⟩
  exact lookup_write_other hKey hGet fun _ _ => hasKey_iff.mpr ⟨rfl, rfl⟩

theorem findsSame_delete : Within (FindsSame kind ns name) (delete env kind o) := by
  intro w
  refine Triple.reached (P := (· = w)) (I := FindsSame kind ns name w) ?_ rfl
  refine (delete_revises env kind o w).conseq ?_ fun _ => FindsSame.of_reads
  intro _ w' hGet
  exact lookup_revise_other hKey hGet key_removedOrMarked

end

/-! ## One object under a key -/

/-- Every object is what the lookup of its own key finds. -/
def Unique (kind : Kind S T) (c : Cluster) : Prop :=
  ∀ x ∈ kind.get c, lookup kind c x.metadata.ns x.metadata.name = some x

theorem Unique.congr (h : Unique kind c) (hGet : kind.get c' = kind.get c) : Unique kind c' := by
  intro x hx
  rw [lookup_congr hGet]
  rw [hGet] at hx
  exact h x hx

theorem lookup_revise (h : Unique kind c)
    (hGet : kind.get c' = Keyed.revise (hasKey ns name) g (kind.get c))
    (hg : ∀ x y, hasKey ns name x = true → g x = some y → hasKey ns name y = true) :
    lookup kind c' ns name = (lookup kind c ns name).bind g := by
  refine (congrArg (List.find? (hasKey ns name)) hGet).trans ?_
  cases hLookup : lookup kind c ns name with
  | some a =>
    refine (Keyed.find?_revise hg (a := a) fun x hx hKey => ?_).trans (congrArg (·.bind g) hLookup)
    have hOwn := h x hx
    obtain ⟨rfl, rfl⟩ := hasKey_iff.mp hKey
    exact Option.some.inj (hOwn.symm.trans hLookup)
  | none =>
    refine List.find?_eq_none.mpr fun x hx hKey => ?_
    have hNone := List.find?_eq_none.mp hLookup
    rcases Keyed.mem_revise hx with ⟨y, hy, hKey', -⟩ | ⟨hx, -⟩
    · exact hNone y hy hKey'
    · exact hNone x hx hKey

theorem Unique.revise (h : Unique kind c)
    (hGet : kind.get c' = Keyed.revise (hasKey ns name) g (kind.get c))
    (hg : ∀ x y, hasKey ns name x = true → g x = some y → hasKey ns name y = true) :
    Unique kind c' := by
  intro y hy
  rw [hGet] at hy
  rcases Keyed.mem_revise hy with ⟨x, hx, hKey, hSome⟩ | ⟨hOld, hKey⟩
  · obtain ⟨hNs, hName⟩ := hasKey_iff.mp (hg x y hKey hSome)
    obtain ⟨rfl, rfl⟩ := hasKey_iff.mp hKey
    rw [hNs, hName, lookup_revise h hGet hg, h x hx]
    exact hSome
  · have hOther : ¬ (y.metadata.ns = ns ∧ y.metadata.name = name) := by
      rintro ⟨rfl, rfl⟩
      rw [hasKey_self] at hKey
      cases hKey
    rw [lookup_revise_other hOther hGet hg]
    exact h y hOld

theorem Unique.write (h : Unique kind c)
    (hGet : kind.get c' = Keyed.write (hasKey ns name) f (kind.get c))
    (hf : ∀ x, hasKey ns name x = true → hasKey ns name (f x) = true) : Unique kind c' := by
  rw [Keyed.write_eq_revise] at hGet
  refine h.revise hGet fun x y hKey hSome => ?_
  cases hSome
  exact hf x hKey

theorem Unique.without (h : Unique kind c)
    (hGet : kind.get c' = (kind.get c).filter fun x => !hasKey ns name x) : Unique kind c' := by
  rw [Keyed.without_eq_revise] at hGet
  exact h.revise hGet fun x y _ hSome => nomatch hSome

theorem Unique.append {o : Object S T} (h : Unique kind c)
    (hGet : kind.get c' = kind.get c ++ [o])
    (hNone : lookup kind c o.metadata.ns o.metadata.name = none) : Unique kind c' := by
  intro x hx
  rw [hGet] at hx
  rcases List.mem_append.mp hx with hOld | hNew
  · by_cases hKey : x.metadata.ns = o.metadata.ns ∧ x.metadata.name = o.metadata.name
    · have hSome := h x hOld
      rw [hKey.1, hKey.2, hNone] at hSome
      cases hSome
    · rw [lookup_append_other hGet hKey]
      exact h x hOld
  · rw [List.mem_singleton.mp hNew]
    exact lookup_append hGet hNone

end

end ClusterAgent.Pass
