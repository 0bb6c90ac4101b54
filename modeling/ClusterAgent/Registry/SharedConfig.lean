import ClusterAgent.Lib.Runs

/-!
# Cluster agent — the shared registries configuration

The registries of the cluster are listed in one ConfigMap. Registry passes edit the
list, and the config reconciler on each node reads it. Over any sequence of edits the
list is a finite map from endpoints to addresses.

* `lastAdded` — the map the edits stand for;
* `entriesOf_edited` — an edit changes the list as it changes the map.

Main result: `configuration_of_edits`.
-/

namespace ClusterAgent

structure Registry where
  serviceIp : String
  endpoint : String
  deriving DecidableEq, Repr, Inhabited

structure RegistryConfig where
  registries : List Registry := []
  deriving DecidableEq, Repr, Inhabited

namespace RegistryConfig

def hasEndpoint (r : RegistryConfig) (ep : String) : Bool :=
  r.registries.any fun registry => registry.endpoint = ep

def hasEndpointWithServiceIP (r : RegistryConfig) (ep serviceIP : String) : Bool :=
  r.registries.any fun registry => registry.endpoint = ep && registry.serviceIp = serviceIP

def validRegistries (r : RegistryConfig) : List Registry :=
  r.registries.filter fun registry => !(registry.serviceIp = "" || registry.endpoint = "")

/-- The source edits the list in place and reports whether it did. -/
def removeRegistryEndpointEntry (r : RegistryConfig) (ep : String) : RegistryConfig × Bool :=
  if r.hasEndpoint ep then
    ({ registries := r.registries.filter fun registry => registry.endpoint ≠ ep }, true)
  else (r, false)

def addRegistry (r : RegistryConfig) (serviceIP endpoint : String) : RegistryConfig × Bool :=
  if r.hasEndpointWithServiceIP endpoint serviceIP then (r, false)
  else
    let others := (r.removeRegistryEndpointEntry endpoint).1
    ({ registries := others.registries ++ [{ serviceIp := serviceIP, endpoint := endpoint }] },
      true)

def entriesOf (r : RegistryConfig) (ep : String) : List Registry :=
  r.registries.filter fun registry => registry.endpoint = ep

/-! ## Sequences of edits -/

inductive Edit
  | add (serviceIP endpoint : String)
  | remove (endpoint : String)

def Edit.endpoint : Edit → String
  | .add _ endpoint | .remove endpoint => endpoint

def Edit.address : Edit → Option String
  | .add serviceIP _ => some serviceIP
  | .remove _ => none

def Edit.apply (r : RegistryConfig) : Edit → RegistryConfig × Bool
  | .add serviceIP endpoint => r.addRegistry serviceIP endpoint
  | .remove endpoint => r.removeRegistryEndpointEntry endpoint

def edited (r : RegistryConfig) (edit : Edit) : RegistryConfig := (edit.apply r).1

def readdressed (ep : String) (address : Option String) (edit : Edit) : Option String :=
  if edit.endpoint = ep then edit.address else address

def lastAdded (edits : List Edit) (ep : String) : Option String :=
  Runs.run (readdressed ep) none edits

def untouched (edits : List Edit) (registry : Registry) : Bool :=
  edits.all fun edit => edit.endpoint ≠ registry.endpoint

variable {r : RegistryConfig} {edit : Edit} {ep : String}

theorem registries_removed :
    (r.removeRegistryEndpointEntry ep).1.registries =
      r.registries.filter fun registry => registry.endpoint ≠ ep := by
  unfold removeRegistryEndpointEntry
  split
  · rfl
  · next hNone =>
    refine (List.filter_eq_self.mpr fun registry hMem => ?_).symm
    simp only [hasEndpoint, List.any_eq_true, decide_eq_true_eq, not_exists, not_and] at hNone
    simpa using hNone registry hMem

/-- **An edit returns `false` exactly if it changes nothing.** -/
theorem apply_eq_false_iff : (edit.apply r).2 = false ↔ r.edited edit = r := by
  unfold edited
  cases edit with
  | add serviceIP endpoint =>
    dsimp only [Edit.apply]
    unfold addRegistry
    split
    · simp
    · next hNew =>
      refine ⟨nofun, fun hSame => absurd ?_ hNew⟩
      rw [← hSame]
      simp [hasEndpointWithServiceIP]
  | remove endpoint =>
    dsimp only [Edit.apply]
    unfold removeRegistryEndpointEntry
    split
    · next hThere =>
      refine ⟨nofun, fun hSame => ?_⟩
      rw [← hSame] at hThere
      simp [hasEndpoint] at hThere
    · simp

theorem filter_edited {p : Registry → Bool} (hp : ∀ registry, p registry = true →
    edit.endpoint ≠ registry.endpoint) :
    (r.edited edit).registries.filter p = r.registries.filter p := by
  have hKept : ∀ endpoint, edit.endpoint = endpoint →
      ((r.removeRegistryEndpointEntry endpoint).1.registries).filter p = r.registries.filter p := by
    rintro _ rfl
    rw [registries_removed, List.filter_filter]
    refine List.filter_congr fun registry _ => ?_
    cases hReg : p registry with
    | false => rfl
    | true => simpa using (hp registry hReg).symm
  cases edit with
  | remove endpoint => exact hKept endpoint rfl
  | add serviceIP endpoint =>
    unfold edited
    dsimp only [Edit.apply]
    unfold addRegistry
    split
    · rfl
    · have hNot : p ⟨serviceIP, endpoint⟩ = false := by
        by_contra hp'
        exact hp _ (by simpa using hp') rfl
      simp [List.filter_append, hNot, hKept endpoint rfl]

theorem entriesOf_edited {address : Option String}
    (h : r.entriesOf ep = address.toList.map (Registry.mk · ep)) :
    (r.edited edit).entriesOf ep =
      (readdressed ep address edit).toList.map (Registry.mk · ep) := by
  unfold readdressed
  split
  · next hSame =>
    have hGone : (r.removeRegistryEndpointEntry ep).1.entriesOf ep = [] := by
      unfold entriesOf
      rw [registries_removed, List.filter_filter]
      simp
    cases edit with
    | remove endpoint =>
      obtain rfl : endpoint = ep := hSame
      exact hGone
    | add serviceIP endpoint =>
      obtain rfl : endpoint = ep := hSame
      unfold edited
      dsimp only [Edit.apply]
      unfold addRegistry
      split
      · next hThere =>
        -- the only entry of the endpoint has the address already
        simp only [hasEndpointWithServiceIP, List.any_eq_true, Bool.and_eq_true,
          decide_eq_true_eq] at hThere
        obtain ⟨registry, hMem, hEndpoint, rfl⟩ := hThere
        have hIn : registry ∈ r.entriesOf endpoint := by simp [entriesOf, hMem, hEndpoint]
        rw [h] at hIn ⊢
        cases address with
        | none => cases hIn
        | some ip => simp_all [Edit.address]
      · unfold entriesOf at hGone ⊢
        rw [List.filter_append, hGone]
        simp [Edit.address]
  · next hOther =>
    rw [← h]
    refine filter_edited fun registry hEndpoint => ?_
    rwa [of_decide_eq_true hEndpoint]

/-- **Over any sequence of edits of an empty configuration**, the entries of every endpoint are
the one of its last `AddRegistry`, or none if it was removed since; the entries that later
edits do not touch keep their order; and an edit returns `false` exactly if it changes
nothing. -/
theorem configuration_of_edits (edits : List Edit) :
    (∀ ep, ((Runs.run edited {} edits).entriesOf ep).length ≤ 1) ∧
    (∀ ep, (Runs.run edited {} edits).entriesOf ep =
      (lastAdded edits ep).toList.map (Registry.mk · ep)) ∧
    (∀ rest, (Runs.run edited {} (edits ++ rest)).registries.filter (untouched rest) =
      (Runs.run edited {} edits).registries.filter (untouched rest)) ∧
    ∀ edit : Edit, (edit.apply (Runs.run edited {} edits)).2 = false ↔
      (edit.apply (Runs.run edited {} edits)).1 = Runs.run edited {} edits := by
  have hRun : ∀ ep r address, entriesOf r ep = (Option.toList address).map (Registry.mk · ep) →
      (Runs.run edited r edits).entriesOf ep =
        (Runs.run (readdressed ep) address edits).toList.map (Registry.mk · ep) := by
    intro ep
    induction edits with
    | nil => exact fun _ _ h => h
    | cons edit rest ih => exact fun r address h => ih _ _ (entriesOf_edited h)
  have hAll : ∀ ep, (Runs.run edited {} edits).entriesOf ep =
      (lastAdded edits ep).toList.map (Registry.mk · ep) := fun ep => hRun ep {} none rfl
  refine ⟨fun ep => ?_, hAll, fun rest => ?_, fun _ => apply_eq_false_iff⟩
  · rw [hAll, List.length_map]
    cases lastAdded edits ep <;> simp
  · rw [Runs.run_append]
    -- each later edit keeps what none of them touches
    refine Runs.run_preserves (I := fun r : RegistryConfig => r.registries.filter
      (untouched rest) = _)
      (fun r edit hMem h => ?_) (fun _ h => h) rfl
    rw [← h]
    refine filter_edited fun registry hUntouched => ?_
    simpa using List.all_eq_true.mp hUntouched edit hMem

end RegistryConfig

end ClusterAgent
