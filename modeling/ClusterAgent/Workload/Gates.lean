import Mathlib.Data.List.Perm.Subperm
import ClusterAgent.Workload.Reconciler

/-!
# Cluster agent — the gate on dependencies

The gate counts the existing resources among those listed in `dependsOn` and takes any other
number than the length of the list for an error. A name listed twice, of no resource or of
the resource itself so fails the pass, which then stores no status at all, where a dependency
that is merely not available closes the gate with a message.

Main result: `dependencies_gated_iff`.
-/

namespace ClusterAgent.Workload

open Pass Effect Dependencies

def siblingsIn (c : Cluster) (resource : StackResource) : List StackResource :=
  (c.stackResources.filter fun sr => decide (sr.metadata.ns = resource.metadata.ns)).filter
    fun sr => decide (sr.name ≠ resource.name)

/-- Every listed name is another resource that is available at its generation. -/
def AllAvailable (c : Cluster) (resource : StackResource) : Prop :=
  ∀ name ∈ resource.spec.dependsOn, ∃ dep ∈ siblingsIn c resource,
    dep.name = name ∧ stackResourceAvailable dep = true

/-- No name is listed twice, and each is another resource of the namespace. -/
def EachListedOnce (c : Cluster) (resource : StackResource) : Prop :=
  resource.spec.dependsOn.Nodup ∧
    ∀ name ∈ resource.spec.dependsOn, name ∈ (siblingsIn c resource).map (·.name)

/-- The gate opens exactly when all dependencies are available; otherwise it answers with a
message, and the step reports the resource as not ready. -/
structure DependenciesGated (env : Env) (w : World) : Prop where
  opens : (∃ message w', dependenciesAvailable env w.resource w = .ok (true, message) w') ↔
    AllAvailable w.cluster w.resource
  closes : ¬ AllAvailable w.cluster w.resource → ∃ message w', message ≠ "" ∧
    dependenciesAvailable env w.resource w = .ok (false, message) w'
  reported : ¬ AllAvailable w.cluster w.resource → ∃ result w',
    reconcile env w = .ok result w' ∧ w'.verdicts.notReady ≠ none

/-- Of a list without repetition, as many elements are listed as the list of names is long
exactly when the names are not repeated and all of them occur. -/
theorem length_filter_listed {α : Type} {name : α → String} {xs : List α}
    (hUnique : (xs.map name).Nodup) {names : List String} :
    (xs.filter fun x => decide (name x ∈ names)).length = names.length ↔
      names.Nodup ∧ ∀ n ∈ names, n ∈ xs.map name := by
  have hListed : (xs.filter fun x => decide (name x ∈ names)).map name =
      (xs.map name).filter fun n => decide (n ∈ names) := by
    rw [List.filter_map]
    rfl
  rw [← List.length_map name, hListed]
  have hNodup := hUnique.filter fun n => decide (n ∈ names)
  constructor
  · intro hLength
    have hPerm : ((xs.map name).filter fun n => decide (n ∈ names)).Perm names :=
      (hNodup.subperm fun n hn => of_decide_eq_true (List.mem_filter.mp hn).2).perm_of_length_le
        hLength.ge
    exact ⟨hPerm.nodup_iff.mp hNodup, fun n hn => (List.mem_filter.mp (hPerm.mem_iff.mpr hn)).1⟩
  · rintro ⟨hNames, hOccur⟩
    refine ((List.perm_ext_iff_of_nodup hNodup hNames).mpr fun n => ?_).length_eq
    rw [List.mem_filter, decide_eq_true_iff]
    exact ⟨And.right, fun hn => ⟨hOccur n hn, hn⟩⟩

variable {env : Env} {w : World} {resource : StackResource}

def listedSiblings (c : Cluster) (resource : StackResource) : List StackResource :=
  (siblingsIn c resource).filter fun sr => decide (sr.name ∈ resource.spec.dependsOn)

theorem getDependencies_eq (hAnswered : env.fault w.calls = none)
    (hSome : resource.spec.dependsOn ≠ []) :
    getDependencies env resource w =
      if (listedSiblings w.cluster resource).length ≠ resource.spec.dependsOn.length then
        .error { message := "missing workspace resource deps" } { w with calls := w.calls + 1 }
      else .ok (listedSiblings w.cluster resource) { w with calls := w.calls + 1 } := by
  have hFiltered : listedSiblings w.cluster resource =
      (w.cluster.stackResources.filter fun sr =>
        decide (sr.metadata.ns = resource.metadata.ns)).filter fun sr =>
          decide (sr.name ≠ resource.name) && decide (sr.name ∈ resource.spec.dependsOn) := by
    unfold listedSiblings siblingsIn
    rw [List.filter_filter]
    exact List.filter_congr fun sr _ => Bool.and_comm ..
  unfold getDependencies
  rw [if_neg (by simpa using hSome), bind_of_ok (call_eq_ok hAnswered), hFiltered, get_bind]
  split <;> rfl

theorem dependenciesAvailable_missing (hAnswered : env.fault w.calls = none)
    (hMissing : ¬ EachListedOnce w.cluster resource)
    (hUnique : ((siblingsIn w.cluster resource).map (·.name)).Nodup) :
    dependenciesAvailable env resource w =
      .error { message := "missing workspace resource deps" } { w with calls := w.calls + 1 } := by
  have hSome : resource.spec.dependsOn ≠ [] := by
    intro hNone
    exact hMissing (by simp [EachListedOnce, hNone])
  have hLength := mt (length_filter_listed hUnique).mp hMissing
  unfold dependenciesAvailable
  rw [if_neg (by simpa using hSome)]
  exact bind_of_error ((getDependencies_eq hAnswered hSome).trans (if_pos hLength))

/-- With every name listed once, the gate answers by the first dependency not available. -/
theorem dependenciesAvailable_listed (hAnswered : env.fault w.calls = none)
    (hListed : EachListedOnce w.cluster resource)
    (hUnique : ((siblingsIn w.cluster resource).map (·.name)).Nodup) :
    (AllAvailable w.cluster resource ∧
        ∃ w', dependenciesAvailable env resource w = .ok (true, "") w') ∨
      (¬ AllAvailable w.cluster resource ∧ ∃ (dep : StackResource) (w' : World),
        dependenciesAvailable env resource w =
          .ok (false, "Dependent resource '" ++ dep.name ++ "' not yet available") w') := by
  have hLength : ¬ (listedSiblings w.cluster resource).length ≠ resource.spec.dependsOn.length :=
    not_not.mpr ((length_filter_listed hUnique).mpr hListed)
  unfold dependenciesAvailable
  by_cases hNone : resource.spec.dependsOn = []
  · rw [if_pos (by simp [hNone])]
    exact .inl ⟨by simp [AllAvailable, hNone], w, rfl⟩
  rw [if_neg (by simpa using hNone),
    bind_of_ok ((getDependencies_eq hAnswered hNone).trans (if_neg hLength)), if_neg hLength]
  cases hFound : (listedSiblings w.cluster resource).find? fun dep =>
      !stackResourceAvailable dep with
  | none =>
    refine .inl ⟨fun name hName => ?_, _, rfl⟩
    obtain ⟨dep, hDep, rfl⟩ := List.mem_map.mp (hListed.2 name hName)
    have hAvailable := List.find?_eq_none.mp hFound dep
      (List.mem_filter.mpr ⟨hDep, decide_eq_true hName⟩)
    exact ⟨dep, hDep, rfl, by simpa using hAvailable⟩
  | some dep =>
    refine .inr ⟨fun hAll => ?_, dep, _, rfl⟩
    -- Names are unique, so the available dependency of that name is the one found.
    obtain ⟨hDep, hName⟩ := List.mem_filter.mp (List.mem_of_find?_eq_some hFound)
    obtain ⟨other, hOther, hSame, hAvailable⟩ := hAll _ (of_decide_eq_true hName)
    rw [List.inj_on_of_nodup_map hUnique hOther hDep hSame] at hAvailable
    have hUnavailable := List.find?_some hFound
    simp [hAvailable] at hUnavailable

/-- A list that is refused does not gate: the step ends with an error whatever is available. -/
theorem eachListedOnce_of_gated (hAnswered : env.fault w.calls = none)
    (hUnique : ((siblingsIn w.cluster w.resource).map (·.name)).Nodup)
    (hGated : DependenciesGated env w) : EachListedOnce w.cluster w.resource := by
  by_contra hMissing
  have hError := dependenciesAvailable_missing hAnswered hMissing hUnique
  have hUnavailable : ¬ AllAvailable w.cluster w.resource := by
    intro hAll
    obtain ⟨message, w', hOpen⟩ := hGated.opens.mpr hAll
    cases hOpen.symm.trans hError
  obtain ⟨message, w', -, hClosed⟩ := hGated.closes hUnavailable
  cases hClosed.symm.trans hError

/-- **The gate on dependencies answers for lists without a repeated or unknown name, and for no
others**: on those the step ends with an error. -/
theorem dependencies_gated_iff (hAnswered : env.fault w.calls = none)
    (hUnique : ((siblingsIn w.cluster w.resource).map (·.name)).Nodup) :
    DependenciesGated env w ↔ EachListedOnce w.cluster w.resource := by
  refine ⟨eachListedOnce_of_gated hAnswered hUnique, ?_⟩
  intro hListed
  rcases dependenciesAvailable_listed hAnswered hListed hUnique with
    ⟨hAll, w', hOpen⟩ | ⟨hUnavailable, dep, w', hClosed⟩
  · exact ⟨⟨fun _ => hAll, fun _ => ⟨_, _, hOpen⟩⟩, fun h => absurd hAll h,
      fun h => absurd hAll h⟩
  · refine ⟨⟨?_, fun hAll => absurd hAll hUnavailable⟩, fun _ => ⟨_, _, ?_, hClosed⟩,
      fun _ => ?_⟩
    · rintro ⟨message, w'', hOpen⟩
      cases hOpen.symm.trans hClosed
    · intro hEmpty
      simpa using congrArg String.length hEmpty
    · refine ⟨_, _, (bind_of_ok rfl).trans (bind_of_ok hClosed), ?_⟩
      show (w'.verdicts.reportNotReady _ _).notReady ≠ none
      rw [VerdictCollector.notReady_reportNotReady]
      exact nofun

def dependent (names : List String) : World :=
  let database : StackResource :=
    { metadata := { name := "db", ns := "team", generation := 1 }
      spec := {}
      status.conditions :=
        [{ type := .summary .available
           status := .conditionTrue, observedGeneration := 1
           reason := "Ready", message := "" }] }
  let resource : StackResource :=
    { metadata := { name := "web", ns := "team" }, spec.dependsOn := names }
  { cluster := { stackResources := [database, resource] }, resource := resource }

theorem dependent_on_database : DependenciesGated ObjectPass.quietEnv (dependent ["db"]) :=
  (dependencies_gated_iff rfl (by decide +kernel)).mpr (by
    constructor
    · decide
    · decide +kernel)

/-- An available database listed twice fails the pass, as does a dependency not yet created. -/
theorem listed_twice_or_missing :
    AllAvailable (dependent ["db", "db"]).cluster (dependent ["db", "db"]).resource ∧
      ¬ DependenciesGated ObjectPass.quietEnv (dependent ["db", "db"]) ∧
      ¬ AllAvailable (dependent ["cache"]).cluster (dependent ["cache"]).resource ∧
      ¬ DependenciesGated ObjectPass.quietEnv (dependent ["cache"]) := by
  refine ⟨?_, fun hGated => ?_, ?_, fun hGated => ?_⟩
  · unfold AllAvailable
    decide +kernel
  · exact absurd (eachListedOnce_of_gated rfl (by decide +kernel) hGated).1 (by decide +kernel)
  · unfold AllAvailable
    decide +kernel
  · exact absurd (eachListedOnce_of_gated rfl (by decide +kernel) hGated).2 (by decide +kernel)

end ClusterAgent.Workload
