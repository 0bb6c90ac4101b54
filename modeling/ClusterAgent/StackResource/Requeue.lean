import ClusterAgent.StackResource.TLSClocks

/-!
# Cluster agent — when a pass asks to be run again

A sub-reconciler may let the chain go on and ask for another pass later. The
chain keeps the interval of the last one that asked, whatever the earlier ones
were: while a certificate is awaited, a port dial or a rollout that wants to be
seen again in seconds waits for the certificate's deadline.

* `deferrals` — the intervals the sub-reconcilers of a pass ask for;
* `deferred_of_ranToEnd` — the chain keeps the last of them.

Main result: `requeues_by_smallest_iff`.
-/

namespace ClusterAgent.StackResourceController

open Effect

def deferrals (env : Env) : List SubReconciler → World → List Int
  | [], _ => []
  | step :: rest, w =>
    match step.reconcile env w with
    | .ok (.deferredRequeue t) w' => t :: deferrals env rest w'
    | .ok _ w' => deferrals env rest w'
    | .error _ _ => []

theorem deferred_of_ranToEnd {env : Env} {steps : List SubReconciler} {before after : Option Int}
    {w w' : World} (h : runChain env steps before w = .ok (.ranToEnd after) w') :
    after = (deferrals env steps w).getLast?.or before := by
  induction steps generalizing before w with
  | nil =>
    cases h
    rfl
  | cons step rest ih =>
    obtain ⟨result, w1, hStep, h⟩ := bind_ok h
    unfold deferrals
    rw [hStep]
    cases result with
    | nil => exact ih h
    | deferredRequeue t =>
      rw [ih h, List.getLast?_cons]
      cases (deferrals env rest w1).getLast? <;> rfl
    | stop => cases h
    | requeue => cases h
    | requeueAfter t => cases h

/-- No earlier interval is shorter than the last. -/
def LastSmallest (intervals : List Int) : Prop :=
  ∀ last ∈ intervals.getLast?, ∀ t ∈ intervals, last ≤ t

instance (intervals : List Int) : Decidable (LastSmallest intervals) :=
  inferInstanceAs (Decidable (∀ last ∈ intervals.getLast?, ∀ t ∈ intervals, last ≤ t))

/-- **When no interval is postponed.** A pass that runs to the end asks to be run again by the
end of every interval its sub-reconcilers asked for, if and only if the last of these is the
smallest. -/
theorem requeues_by_smallest_iff {env : Env} {ns name : String} {w w' : World} {r : StackResource}
    {deferred : Option Int} (hLookup : lookupResource w.cluster ns name = some r)
    (h : reconcile env ns name w = .ok (some (.ranToEnd deferred)) w') :
    (∀ t ∈ deferrals env subReconcilers (started w r), ∃ after ∈ deferred, after ≤ t) ↔
      LastSmallest (deferrals env subReconcilers (started w r)) := by
  obtain ⟨r', w1, hLookup', hChain, -⟩ := reconcile_inv env h
  cases hLookup.symm.trans hLookup'
  rw [deferred_of_ranToEnd hChain, Option.or_none]
  constructor
  · intro hBy last hLast t ht
    obtain ⟨after, hAfter, hLe⟩ := hBy t ht
    cases hLast.symm.trans hAfter
    exact hLe
  · intro hSmallest t ht
    cases hLast : (deferrals env subReconcilers (started w r)).getLast? with
    | none =>
      rw [List.getLast?_eq_none_iff.mp hLast] at ht
      cases ht
    | some last => exact ⟨last, rfl, hSmallest last hLast t ht⟩

def rollingShop : World :=
  { uncertifiedShop with
    cluster.deployments := uncertifiedShop.cluster.deployments.map fun d =>
      { d with status.updatedReplicas := 0 } }

/-- The rollout asks to be seen again in ten seconds, the certificate in two minutes; the pass
asks for two minutes. -/
theorem rollout_waits_for_certificate :
    lookupResource rollingShop.cluster "shop" "front" = some rollingShop.resource ∧
      deferrals (frontEnv 5) subReconcilers (started rollingShop rollingShop.resource) =
        [10 * second, 2 * minute] ∧
      value (reconcile (frontEnv 5) "shop" "front" rollingShop) =
        some (some (.ranToEnd (some (2 * minute)))) := by
  decide +kernel

def clockedFront : StackResource :=
  { rollingShop.resource with
    status.certManagerTLS := some { waitingSince := some ⟨5 * second, none⟩ } }

def clockedShop : World := { rollingShop with cluster.stackResources := [clockedFront] }

theorem requeues_by_smallest_iff_settled :
    deferrals (frontEnv 120) subReconcilers (started clockedShop clockedFront) =
        [10 * second, 5 * second] ∧
      ∀ t ∈ deferrals (frontEnv 120) subReconcilers (started clockedShop clockedFront),
        ∃ after ∈ some (5 * second), after ≤ t := by
  have hRun : value (reconcile (frontEnv 120) "shop" "front" clockedShop) =
      some (some (.ranToEnd (some (5 * second)))) := by decide +kernel
  have hLookup : lookupResource clockedShop.cluster "shop" "front" = some clockedFront := by
    decide +kernel
  exact ⟨by decide +kernel,
    (requeues_by_smallest_iff hLookup (eq_ok_of_value hRun)).mpr (by decide +kernel)⟩

end ClusterAgent.StackResourceController
