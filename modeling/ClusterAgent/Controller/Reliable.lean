import ClusterAgent.Controller.Lookup

/-!
# Cluster agent — calls that do not fail

What a pass does if no API call fails: a `Get` and a `List` return, a `Create` of
an object that is not there and an `Update` of one that is there succeed. With the
specifications of `Footprint` this says what the calls do, and that they do it.
-/

namespace ClusterAgent

open Effect

/-- No API call of the pass fails. -/
def Reliable (env : Env) : Prop := ∀ n, env.fault n = none

/-- No API call says that something is missing which is there. -/
def Honest (env : Env) : Prop := ∀ n e, env.fault n = some e → e.kind ≠ .notFound

theorem Reliable.honest {env : Env} (h : Reliable env) : Honest env := by
  intro n e he
  rw [h n] at he
  cases he

namespace Pass

variable {env : Env} {S T : Type} (hReliable : Reliable env)

include hReliable

theorem succeeds_call {P : World → Prop} : Succeeds P (call env) := by
  intro w _
  unfold call
  rw [hReliable w.calls]
  trivial

theorem call_total (w : World) :
    Achieves (· = w) (call env) (fun _ w' => w' = { w with calls := w.calls + 1 }) :=
  (call_spec w).total (succeeds_call hReliable)

theorem succeeds_getObject {kind : Kind S T} {ns name : String} {P : World → Prop} :
    Succeeds P (getObject env kind ns name) :=
  .bind (succeeds_call hReliable) fun _ => fun _ _ => trivial

theorem getObject_total (kind : Kind S T) (ns name : String) (w : World) :
    Achieves (· = w) (getObject env kind ns name)
      (fun o w' => o = lookup kind w.cluster ns name ∧ Reads w w') :=
  (getObject_spec env kind ns name w).total (succeeds_getObject hReliable)

theorem mustGet_total {kind : Kind S T} {ns name : String} {w : World} {o : Object S T}
    (h : lookup kind w.cluster ns name = some o) :
    Achieves (· = w) (mustGet env kind ns name) (fun o' w' => o' = o ∧ Reads w w') := by
  refine .bind (getObject_total hReliable kind ns name w) fun found => ?_
  rintro w' ⟨rfl, hw'⟩
  rw [h]
  exact ⟨rfl, hw'⟩

theorem listObjects_total (kind : Kind S T) {ns : String} (labels : StringMap) (w : World) :
    Achieves (· = w) (listObjects env kind ns labels)
      (fun os w' => os = (kind.get w.cluster).filter (fun o => decide (o.metadata.ns = ns) &&
        labels.all fun e => decide (o.metadata.labels.get? e.1 = some e.2)) ∧ Reads w w') := by
  refine (listObjects_spec env kind ns labels w).total ?_
  exact .bind (succeeds_call hReliable) fun _ => fun _ _ => trivial

theorem succeeds_create {kind : Kind S T} {o : Object S T} {w : World}
    (h : lookup kind w.cluster o.metadata.ns o.metadata.name = none) :
    Succeeds (· = w) (create env kind o) := by
  refine .bind (call_total hReliable w) fun _ => ?_
  rintro _ rfl
  rw [get_bind]
  rw [h]
  trivial

theorem succeeds_update [DecidableEq S] {kind : Kind S T} {o : Object S T} {w : World}
    (h : (lookup kind w.cluster o.metadata.ns o.metadata.name).isSome) :
    Succeeds (· = w) (update env kind o) := by
  obtain ⟨old, hOld⟩ := Option.isSome_iff_exists.mp h
  refine .bind (call_total hReliable w) fun _ => ?_
  rintro _ rfl
  rw [get_bind]
  rw [hOld]
  trivial

omit hReliable in
/-- **What `CreateOrUpdate` stores and returns.** The stored object is a mutation of the one
before, or of the blank one, and nothing else is new; a failure changes nothing, and is one of
an API call or of the mutation. -/
theorem createOrUpdate_stores [DecidableEq S] [DecidableEq T] {kind : Kind S T}
    {blank : Object S T} {mutate : Object S T → Pass (Object S T)}
    {M : Object S T → Object S T → Prop} {w : World} {C : Prop} (hCalls : C → Reliable env)
    (hm : ∀ o, hasKey blank.metadata.ns blank.metadata.name o = true →
      Triple (Reads w) (mutate o) (fun o' w' =>
        (M o o' ∧ o'.status = o.status ∧
          hasKey blank.metadata.ns blank.metadata.name o' = true) ∧ Reads w w')
        fun w' => Reads w w' ∧
          ¬ (C ∧ (lookup kind w.cluster blank.metadata.ns blank.metadata.name).getD blank = o)) :
    Triple (· = w) (createOrUpdate env kind blank mutate)
      (fun r w' => (lookup kind w'.cluster blank.metadata.ns blank.metadata.name = some r ∧
          ∀ x ∈ kind.get w'.cluster, x ∈ kind.get w.cluster ∨ x = r) ∧
        ∃ o', M ((lookup kind w.cluster blank.metadata.ns blank.metadata.name).getD blank) o' ∧
          SameContent o' r ∧ r.metadata.ownerReferences = o'.metadata.ownerReferences)
      fun w' => Reads w w' ∧ ¬ C := by
  refine .bind ((getObject_spec env kind _ _ w).unless fun h => succeeds_getObject (hCalls h))
    fun existing => .of_each ?_
  rintro w1 ⟨rfl, hw1⟩
  -- create or update, by what the cluster holds under the key of `blank`
  cases hLookup : lookup kind w.cluster blank.metadata.ns blank.metadata.name with
  | none =>
    rw [hLookup] at hm
    refine .bind ((hm blank (hasKey_self blank)).mono (fun _ h => h ▸ hw1) (fun _ _ h => h)
      fun _ h => ⟨h.1, fun hC => h.2 ⟨hC, rfl⟩⟩) fun o => .of_each ?_
    rintro _ ⟨⟨hM, -, hKey⟩, calls, rfl⟩
    obtain ⟨hNs, hName⟩ := hasKey_iff.mp hKey
    -- nothing is under the key, and the mutation keeps the key, so the create succeeds
    refine ((create_spec env kind o _).unless fun h => succeeds_create (hCalls h) ?_).conseq ?_
      fun _ h => ⟨trans_of Reads ⟨calls, rfl⟩ h.1, h.2⟩
    · rw [hNs, hName]
      exact hLookup
    rintro stored w' ⟨hFree, hGet, hSame⟩
    rw [← hNs, ← hName, ← hSame.ns, ← hSame.name]
    refine ⟨⟨lookup_append hGet hFree, fun x hx => ?_⟩, o, hM, hSame.toSameContent,
      hSame.ownerReferences⟩
    rw [hGet] at hx
    exact (List.mem_append.mp hx).imp_right List.mem_singleton.mp
  | some existing =>
    have hExisting : hasKey blank.metadata.ns blank.metadata.name existing = true :=
      List.find?_some hLookup
    rw [hLookup] at hm
    refine .bind ((hm existing hExisting).mono (fun _ h => h ▸ hw1) (fun _ _ h => h)
      fun _ h => ⟨h.1, fun hC => h.2 ⟨hC, rfl⟩⟩) fun o => .of_each ?_
    rintro _ ⟨⟨hM, hStatus, hKey⟩, calls, rfl⟩
    -- an unchanged object is not written
    split
    · next hSame =>
      refine .ret ?_
      exact ⟨⟨hSame ▸ hLookup, fun _ => Or.inl⟩, o, hM, .refl o, rfl⟩
    · obtain ⟨hNs, hName⟩ := hasKey_iff.mp hKey
      refine ((update_spec env kind o _).unless fun h => succeeds_update (hCalls h) ?_).conseq ?_
        fun _ h => ⟨trans_of Reads ⟨calls, rfl⟩ h.1, h.2⟩
      · rw [hNs, hName]
        exact Option.isSome_of_eq_some hLookup
      rintro stored w' ⟨old, hOld, rfl, hGet⟩
      rw [hNs, hName] at hGet hOld
      -- what the update replaces is what was read
      have hOld' : existing = old := Option.some.inj (hLookup.symm.trans hOld)
      refine ⟨⟨?_, fun x hx => ?_⟩, o, hM, ⟨rfl, rfl, rfl, rfl, (hOld' ▸ hStatus).symm⟩, rfl⟩
      · exact (lookup_write hGet fun _ _ => hKey).trans (congrArg (Option.map _) hOld)
      · rw [hGet] at hx
        obtain ⟨y, hy, rfl⟩ := List.mem_map.mp hx
        split
        · exact Or.inr rfl
        · exact Or.inl hy

end Pass

end ClusterAgent
