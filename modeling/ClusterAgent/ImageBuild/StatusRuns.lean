import ClusterAgent.Lib.Runs
import ClusterAgent.Controller.ObjectPass
import ClusterAgent.ImageBuild.Pass
import ClusterAgent.StackResource.ImageBuilds

/-!
# Cluster agent — an ImageBuild's status over whole runs

Three packages ask a build whether it is done, and each looks at another field:
the phase, the first Available condition, or any terminal condition. They agree
because the status always shows one and the same ending in its conditions, its
phase and its image reference, or in none of them.

* `Shows` — what it means that a status shows an ending;
* `shows_statusChange` — every exit of the build keeps the status showing one;
* `BuildEvent`, `buildStep` — runs of passes, edits and changes elsewhere;
* `kept_buildStep`, `fixed_buildStep` — the invariant, and that an ending stays.

Main result: `imageBuild_status_coherent`.
-/

namespace ClusterAgent.ImageBuildController

open Pass Effect Conditions

/-! ## Conditions that are True -/

section

variable {now : Int} {conds : List (Condition BuildStatusCondition)}
  {cond : Condition BuildStatusCondition} {t : BuildStatusCondition}

theorem conditionIsTrue_set_same :
    conditionIsTrue (setStatusCondition now conds cond) cond.type =
      decide (cond.status = .conditionTrue) := by
  have hFind := find_set_same now conds cond
  obtain ⟨c, hc, hClear⟩ := Option.map_eq_some_iff.mp hFind
  have hStatus := congrArg Condition.status hClear
  rw [clearTime_status, clearTime_status] at hStatus
  unfold conditionIsTrue
  rw [hc, ← hStatus]

theorem conditionIsTrue_set_other (h : cond.type ≠ t) :
    conditionIsTrue (setStatusCondition now conds cond) t = conditionIsTrue conds t := by
  unfold conditionIsTrue
  rw [find_set_other h]

theorem conditionIsTrue_storedStatus (s : ImageBuildStatus) (t : BuildStatusCondition) :
    conditionIsTrue (storedStatus s).conditions t = conditionIsTrue s.conditions t := by
  unfold conditionIsTrue storedStatus
  dsimp only
  rw [findStatusCondition_map]
  · cases findStatusCondition s.conditions t <;> rfl
  · exact fun _ => rfl

end

theorem storedStatus_storedStatus (s : ImageBuildStatus) :
    storedStatus (storedStatus s) = storedStatus s := by
  unfold storedStatus
  simp [storedTime_storedTime]

variable {s : ImageBuildStatus} {b : ImageBuild} {H : String → Prop}

theorem nodup_storedStatus (h : (s.conditions.map Condition.type).Nodup) :
    ((storedStatus s).conditions.map Condition.type).Nodup := by
  unfold storedStatus
  rw [List.map_map]
  exact h

/-! ## The ending a status shows -/

/-- Conditions, phase and image reference all show the ending `o`, or that there is none. -/
structure Shows (s : ImageBuildStatus) (o : Option Ending) : Prop where
  condition : ∀ e : Ending, conditionIsTrue s.conditions e.condition = true ↔ o = some e
  phase : ∀ e : Ending, s.phase = e.phase ↔ o = some e
  imageUrl : s.imageUrl ≠ "" ↔ o = some .success

theorem Ending.condition_injective {e e' : Ending} (h : e.condition = e'.condition) : e = e' := by
  revert h
  cases e <;> cases e' <;> decide

theorem Ending.phase_injective {e e' : Ending} (h : e.phase = e'.phase) : e = e' := by
  revert h
  cases e <;> cases e' <;> decide

theorem Shows.terminal {o : Option Ending} (h : Shows b.status o) :
    imageBuildInTerminalState b = true ↔ ∃ e, o = some e := by
  unfold imageBuildInTerminalState
  rw [Bool.or_eq_true, Bool.or_eq_true]
  constructor
  · rintro ((hTrue | hTrue) | hTrue)
    · exact ⟨.success, (h.condition .success).mp hTrue⟩
    · exact ⟨.failure, (h.condition .failure).mp hTrue⟩
    · exact ⟨.cancellation, (h.condition .cancellation).mp hTrue⟩
  · rintro ⟨e, he⟩
    cases e with
    | success => exact Or.inl (Or.inl ((h.condition .success).mpr he))
    | failure => exact Or.inl (Or.inr ((h.condition .failure).mpr he))
    | cancellation => exact Or.inr ((h.condition .cancellation).mpr he)

theorem Shows.stored {o : Option Ending} (h : Shows s o) :
    Shows (storedStatus s) o where
  condition e := by rw [conditionIsTrue_storedStatus]; exact h.condition e
  phase := h.phase
  imageUrl := h.imageUrl

/-- **The exits.** A change of a status without an ending leaves one that shows the ending
it made, or none. -/
theorem shows_statusChange (h : Shows b.status none) (hChange : StatusChange H b s) :
    ∃ o, Shows s o := by
  cases hChange with
  | kept hConds hPhase hUrl =>
    refine ⟨none, fun e => ?_, fun e => ?_, ?_⟩
    · rw [hConds]
      exact h.condition e
    · rw [hPhase]
      exact h.phase e
    · rw [hUrl]
      exact h.imageUrl
  | underWay now cond hOpen hConds hPhase hUrl =>
    refine ⟨none, fun e => ?_, fun e => ?_, ?_⟩
    · rw [hConds]
      -- the condition written here is not one of an ending that holds
      by_cases hType : cond.type = e.condition
      · have hStatus : cond.status ≠ .conditionTrue := by
          rcases hOpen with hCreated | hStatus
          · rw [hCreated] at hType
            cases e <;> cases hType
          · exact hStatus
        rw [← hType, conditionIsTrue_set_same]
        simpa using hStatus
      · rw [conditionIsTrue_set_other hType]
        exact h.condition e
    · rw [hPhase]
      exact h.phase e
    · rw [hUrl]
      exact h.imageUrl
  -- the ending's own condition becomes true and the others were false
  | ended now cond ending hType hTrue hConds hPhase hUrl =>
    refine ⟨some ending, fun e => ?_, fun e => ?_, ?_⟩
    · rw [hConds]
      by_cases he : e = ending
      · subst he
        rw [← hType, conditionIsTrue_set_same]
        simpa using hTrue
      · have hOther : cond.type ≠ e.condition := by
          rw [hType]
          exact fun hSame => he (Ending.condition_injective hSame).symm
        rw [conditionIsTrue_set_other hOther, h.condition e]
        simpa using fun hSame => he hSame.symm
    · rw [hPhase]
      constructor
      · intro hSame
        rw [Ending.phase_injective hSame]
      · intro hSame
        rw [Option.some.inj hSame]
    -- only success records an image
    · generalize s.imageUrl = url at hUrl
      cases hUrl with
      | success host _ => simpa using imageAt_ne_empty host b
      | failure => simpa using h.imageUrl
      | cancellation => simpa using h.imageUrl

theorem nodup_statusChange (h : (b.status.conditions.map Condition.type).Nodup)
    (hChange : StatusChange H b s) :
    (s.conditions.map Condition.type).Nodup := by
  cases hChange with
  | kept hConds _ _ =>
    rw [hConds]
    exact h
  | underWay now cond _ hConds _ _ =>
    rw [hConds]
    exact nodup_setStatusCondition h now cond
  | ended now cond _ _ _ hConds _ _ =>
    rw [hConds]
    exact nodup_setStatusCondition h now cond

structure StatusKept (s : ImageBuildStatus) : Prop where
  shows : ∃ o, Shows s o
  nodup : (s.conditions.map Condition.type).Nodup
  stored : storedStatus s = s

theorem statusKept_statusChange (h : StatusKept b.status)
    (hOpen : imageBuildInTerminalState b = false) (hChange : StatusChange H b s) :
    StatusKept (storedStatus s) := by
  obtain ⟨o, ho⟩ := h.shows
  have hNone : o = none := by
    cases o with
    | none => rfl
    | some e =>
      rw [ho.terminal.mpr ⟨e, rfl⟩] at hOpen
      cases hOpen
  subst hNone
  obtain ⟨o', ho'⟩ := shows_statusChange ho hChange
  exact ⟨⟨o', ho'.stored⟩, nodup_storedStatus (nodup_statusChange h.nodup hChange),
    storedStatus_storedStatus s⟩

/-! ## The readers -/

theorem conditionIsTrue_iff {conds : List (Condition BuildStatusCondition)}
    (h : (conds.map Condition.type).Nodup) (t : BuildStatusCondition) :
    conditionIsTrue conds t = true ↔ ∃ c ∈ conds, c.type = t ∧ c.status = .conditionTrue := by
  unfold conditionIsTrue
  constructor
  · intro hTrue
    cases hFind : findStatusCondition conds t with
    | none =>
      rw [hFind] at hTrue
      cases hTrue
    | some c =>
      rw [hFind] at hTrue
      exact ⟨c, List.mem_of_find?_eq_some hFind, type_of_findStatusCondition hFind,
        of_decide_eq_true hTrue⟩
  · rintro ⟨c, hc, rfl, hStatus⟩
    rw [find_of_mem h hc]
    exact decide_eq_true hStatus

theorem isImageBuildTerminal_eq (h : (b.status.conditions.map Condition.type).Nodup) :
    ImageBuilds.isImageBuildTerminal b = imageBuildInTerminalState b := by
  rw [Bool.eq_iff_iff]
  unfold ImageBuilds.isImageBuildTerminal imageBuildInTerminalState
  rw [List.any_eq_true, Bool.or_eq_true, Bool.or_eq_true, conditionIsTrue_iff h,
    conditionIsTrue_iff h, conditionIsTrue_iff h]
  constructor
  · rintro ⟨c, hc, hTerminal⟩
    simp only [Bool.and_eq_true, Bool.or_eq_true, decide_eq_true_eq] at hTerminal
    obtain ⟨(hType | hType) | hType, hStatus⟩ := hTerminal
    · exact Or.inl (Or.inl ⟨c, hc, hType, hStatus⟩)
    · exact Or.inl (Or.inr ⟨c, hc, hType, hStatus⟩)
    · exact Or.inr ⟨c, hc, hType, hStatus⟩
  · rintro ((⟨c, hc, hType, hStatus⟩ | ⟨c, hc, hType, hStatus⟩) | ⟨c, hc, hType, hStatus⟩)
    all_goals exact ⟨c, hc, by simp [hType, hStatus]⟩

/-- A status in which everything says the same, for every reader of it. -/
structure Coherent (b : ImageBuild) : Prop where
  atMostOne : ∀ e e' : Ending, conditionIsTrue b.status.conditions e.condition = true →
    conditionIsTrue b.status.conditions e'.condition = true → e = e'
  success : b.status.phase = .success ↔ conditionIsTrue b.status.conditions .available = true
  image : b.status.imageUrl ≠ "" ↔ conditionIsTrue b.status.conditions .available = true
  failure : b.status.phase = .failed ↔ conditionIsTrue b.status.conditions .failed = true
  cancellation :
    b.status.phase = .cancelled ↔ conditionIsTrue b.status.conditions .cancelled = true
  isImageBuildComplete :
    ImageBuilds.isImageBuildComplete b = conditionIsTrue b.status.conditions .available
  imageBuildComplete :
    Workload.imageBuildComplete b = conditionIsTrue b.status.conditions .available
  imageBuildFailed :
    ImageBuilds.imageBuildFailed b = conditionIsTrue b.status.conditions .failed
  isImageBuildTerminal : ImageBuilds.isImageBuildTerminal b = imageBuildInTerminalState b

theorem StatusKept.coherent (h : StatusKept b.status) : Coherent b := by
  obtain ⟨o, ho⟩ := h.shows
  have hPhase : ∀ e : Ending,
      b.status.phase = e.phase ↔ conditionIsTrue b.status.conditions e.condition = true :=
    fun e => (ho.phase e).trans (ho.condition e).symm
  refine
    { atMostOne := fun e e' he he' => ?_
      success := hPhase .success
      image := ho.imageUrl.trans (ho.condition .success).symm
      failure := hPhase .failure
      cancellation := hPhase .cancellation
      isImageBuildComplete := ?_
      imageBuildComplete := rfl
      imageBuildFailed := ?_
      isImageBuildTerminal := isImageBuildTerminal_eq h.nodup }
  · exact Option.some.inj (((ho.condition e).mp he).symm.trans ((ho.condition e').mp he'))
  · unfold ImageBuilds.isImageBuildComplete
    rw [Bool.eq_iff_iff, decide_eq_true_iff]
    exact hPhase .success
  · unfold ImageBuilds.imageBuildFailed
    rw [Bool.eq_iff_iff, decide_eq_true_iff]
    exact hPhase .failure

/-! ## A pass, seen from the stored build -/

inductive StatusAfter (H : String → Prop) (b : ImageBuild) (s : ImageBuildStatus) : Prop
  | same (h : s = b.status)
  | rewritten (h : s = storedStatus b.status)
  | changed (status : ImageBuildStatus) (hOpen : imageBuildInTerminalState b = false)
      (hChange : StatusChange H b status) (h : s = storedStatus status)

theorem StatusKept.after (h : StatusKept b.status) (hAfter : StatusAfter H b s) : StatusKept s := by
  cases hAfter with
  | same hs =>
    rw [hs]
    exact h
  | rewritten hs =>
    rw [hs, h.stored]
    exact h
  | changed status hOpen hChange hs =>
    rw [hs]
    exact statusKept_statusChange h hOpen hChange

theorem StatusAfter.imageUrl (h : StatusAfter H b s) :
    s.imageUrl = b.status.imageUrl ∨ ∃ host, H host ∧ s.imageUrl = imageAt host b := by
  cases h with
  | same hs => exact Or.inl (by rw [hs])
  | rewritten hs => exact Or.inl (by rw [hs]; rfl)
  | changed status _ hChange hs =>
    have hStored : s.imageUrl = status.imageUrl := by
      rw [hs]
      rfl
    cases hChange with
    | kept _ _ hUrl => exact Or.inl (hStored.trans hUrl)
    | underWay _ _ _ _ _ hUrl => exact Or.inl (hStored.trans hUrl)
    | ended _ _ ending _ _ _ _ hUrl =>
      rw [← hStored] at hUrl
      generalize s.imageUrl = url at hUrl
      cases hUrl with
      | success host hHost => exact Or.inr ⟨host, hHost, rfl⟩
      | failure => exact Or.inl rfl
      | cancellation => exact Or.inl rfl

theorem StatusKept.fixed (h : StatusKept b.status)
    (hTerminal : imageBuildInTerminalState b = true) (hAfter : StatusAfter H b s) :
    s = b.status := by
  cases hAfter with
  | same hs => exact hs
  | rewritten hs => rw [hs, h.stored]
  | changed status hOpen =>
    rw [hTerminal] at hOpen
    cases hOpen

section

variable {ns name : String}

structure BuildAfter (env : Env) (c : Cluster) (b b' : ImageBuild) : Prop where
  spec : b'.spec = b.spec
  deletionTimestamp : b'.metadata.deletionTimestamp = b.metadata.deletionTimestamp
  finalizers : b.metadata.deletionTimestamp = none →
    b.metadata.finalizers ⊆ b'.metadata.finalizers
  status : StatusAfter (PushesTo env c b) b b'.status

theorem BuildAfter.refl (env : Env) (c : Cluster) (b : ImageBuild) : BuildAfter env c b b :=
  ⟨rfl, rfl, fun _ => List.Subset.refl _, .same rfl⟩

theorem buildPassed_lookup {env : Env} {s s' : Session BuildOwn}
    (h : BuildPassed env ns name s s')
    {b' : ImageBuild} (hLookup' : lookup .imageBuild s'.world.cluster ns name = some b') :
    ∃ b, lookup .imageBuild s.world.cluster ns name = some b ∧
      BuildAfter env s.world.cluster b b' := by
  have hSame : s'.world.cluster.imageBuilds = s.world.cluster.imageBuilds →
      ∃ b, lookup .imageBuild s.world.cluster ns name = some b ∧
        BuildAfter env s.world.cluster b b' := by
    intro hBuilds
    exact ⟨b', (lookup_congr hBuilds).symm.trans hLookup', .refl _ _ _⟩
  -- a write under the key is what the lookup finds
  have hWrite : ∀ {b : ImageBuild} {f : ImageBuild → ImageBuild},
      lookup .imageBuild s.world.cluster ns name = some b →
      s'.world.cluster.imageBuilds = Keyed.write (hasKey ns name) f s.world.cluster.imageBuilds →
      (∀ x, hasKey ns name x = true → hasKey ns name (f x) = true) → b' = f b := by
    intro b f hLookup hBuilds hf
    have hEq := hLookup'.symm.trans (lookup_write hBuilds hf)
    rw [hLookup] at hEq
    exact Option.some.inj hEq
  cases h with
  | kept hBuilds _ => exact hSame hBuilds
  | cleaned b hLookup hDeleting _ _ hBuilds =>
    rcases hBuilds with hBuilds | hBuilds
    · exact hSame hBuilds
    · unfold releasedBuilds at hBuilds
      split at hBuilds
      · have hNone : lookup .imageBuild s'.world.cluster ns name = none := lookup_without hBuilds
        rw [hNone] at hLookup'
        cases hLookup'
      · have hKey : hasKey ns name b = true := List.find?_some hLookup
        rw [hWrite hLookup hBuilds fun _ _ => hKey]
        refine ⟨b, hLookup, rfl, rfl, fun hLive => ?_, .same rfl⟩
        rw [hLive] at hDeleting
        cases hDeleting
  | guarded b hLookup hLive hBuilds _ =>
    have hKey : hasKey ns name b = true := List.find?_some hLookup
    rw [hWrite hLookup hBuilds fun _ _ => hKey]
    exact ⟨b, hLookup, rfl, rfl, fun _ => List.subset_append_left _ _, .same rfl⟩
  | reported b status hLookup hLive hStatus hBuilds _ =>
    rw [hWrite hLookup hBuilds fun _ h => h]
    refine ⟨b, hLookup, rfl, rfl, fun _ => List.Subset.refl _, ?_⟩
    split at hStatus
    · rw [hStatus]
      exact .rewritten rfl
    · next hOpen =>
      refine .changed status ?_ hStatus rfl
      simpa using hOpen

/-! ## Runs -/

inductive BuildEvent where
  | pass (env : Env)
  | edit (metadata : ObjectMeta) (spec : ImageBuildSpec)
  | remove
  | elsewhere (cluster : Cluster) (images : List String)

def editedBuild (metadata : ObjectMeta) (spec : ImageBuildSpec) (b : ImageBuild) : ImageBuild :=
  { b with
    metadata := { metadata with name := b.metadata.name, ns := b.metadata.ns }
    spec := spec }

variable (ns name) in
def buildStep (s : Session BuildOwn) : BuildEvent → Session BuildOwn
  | .pass env => finalState (reconcile env ns name s)
  | .edit metadata spec =>
    { s with
      world.cluster.imageBuilds :=
        Keyed.write (hasKey ns name) (editedBuild metadata spec) s.world.cluster.imageBuilds }
  | .remove =>
    { s with
      world.cluster.imageBuilds := s.world.cluster.imageBuilds.filter fun x => !hasKey ns name x }
  | .elsewhere cluster images =>
    let builds := Keyed.keeping (hasKey ns name) cluster.imageBuilds s.world.cluster.imageBuilds
    { s with
      world.cluster := { cluster with imageBuilds := builds }
      own.images := images }

structure NewBuild (b : ImageBuild) : Prop where
  conditions : b.status.conditions = []
  phase : b.status.phase = .unset ∨ b.status.phase = .pending
  imageUrl : b.status.imageUrl = ""

theorem NewBuild.statusKept (h : NewBuild b) : StatusKept b.status := by
  refine ⟨⟨none, fun e => ?_, fun e => ?_, ?_⟩, ?_, ?_⟩
  · rw [h.conditions]
    simp [conditionIsTrue, findStatusCondition]
  · rcases h.phase with hPhase | hPhase
    · rw [hPhase]
      cases e <;> decide
    · rw [hPhase]
      cases e <;> decide
  · simp [h.imageUrl]
  · rw [h.conditions]
    exact List.nodup_nil
  · unfold storedStatus
    rw [h.conditions, List.map_nil, ← h.conditions]

theorem buildStep_lookup (s : Session BuildOwn) (event : BuildEvent) {b' : ImageBuild}
    (hLookup' : lookup .imageBuild (buildStep ns name s event).world.cluster ns name = some b') :
    ∃ H b, lookup .imageBuild s.world.cluster ns name = some b ∧ StatusAfter H b b'.status := by
  cases event with
  | pass env =>
    obtain ⟨b, hLookup, hAfter⟩ :=
      buildPassed_lookup (passed_reconcile env ns name s).builds hLookup'
    exact ⟨_, b, hLookup, hAfter.status⟩
  | edit metadata spec =>
    have hFind : lookup .imageBuild (buildStep ns name s (.edit metadata spec)).world.cluster
        ns name = (lookup .imageBuild s.world.cluster ns name).map (editedBuild metadata spec) :=
      lookup_write rfl fun _ h => h
    obtain ⟨b, hb, rfl⟩ := Option.map_eq_some_iff.mp (hFind.symm.trans hLookup')
    exact ⟨fun _ => True, b, hb, .same rfl⟩
  | remove =>
    have hNone : lookup .imageBuild (buildStep ns name s .remove).world.cluster ns name = none :=
      lookup_without rfl
    rw [hNone] at hLookup'
    cases hLookup'
  | elsewhere cluster images =>
    have hFind := Keyed.find?_keeping (p := hasKey ns name) cluster.imageBuilds
      s.world.cluster.imageBuilds
    exact ⟨fun _ => True, b', hFind.symm.trans hLookup', .same rfl⟩

def BuildKept (ns name : String) (s : Session BuildOwn) : Prop :=
  ∀ b, lookup .imageBuild s.world.cluster ns name = some b → StatusKept b.status

theorem kept_buildStep (s : Session BuildOwn) (event : BuildEvent)
    (h : BuildKept ns name s) : BuildKept ns name (buildStep ns name s event) := by
  intro b' hLookup'
  obtain ⟨H, b, hLookup, hAfter⟩ := buildStep_lookup s event hLookup'
  exact (h b hLookup).after hAfter

def BuildFixed (ns name : String) (status : ImageBuildStatus) (s : Session BuildOwn) : Prop :=
  ∀ b, lookup .imageBuild s.world.cluster ns name = some b →
    StatusKept b.status ∧ imageBuildInTerminalState b = true ∧ b.status = status

theorem fixed_buildStep {status : ImageBuildStatus} (s : Session BuildOwn) (event : BuildEvent)
    (h : BuildFixed ns name status s) :
    BuildFixed ns name status (buildStep ns name s event) := by
  intro b' hLookup'
  obtain ⟨H, b, hLookup, hAfter⟩ := buildStep_lookup s event hLookup'
  obtain ⟨hKept, hTerminal, hStatus⟩ := h b hLookup
  have hSame : b'.status = b.status := hKept.fixed hTerminal hAfter
  refine ⟨hKept.after hAfter, ?_, hSame.trans hStatus⟩
  unfold imageBuildInTerminalState at hTerminal ⊢
  rw [hSame]
  exact hTerminal

/-- **Status coherence.** In every run from a new build, with arbitrary passes, edits and
changes elsewhere, conditions, phase and image reference of the stored build show the same
ending, every reader sees it, and once there is an ending it stays. -/
theorem imageBuild_status_coherent (s : Session BuildOwn)
    (hNew : ∀ b, lookup .imageBuild s.world.cluster ns name = some b → NewBuild b)
    (events : List BuildEvent) {b : ImageBuild}
    (hLookup : lookup .imageBuild (Runs.run (buildStep ns name) s events).world.cluster ns name =
      some b) :
    Coherent b ∧
      (imageBuildInTerminalState b = true → ∀ (later : List BuildEvent) (b' : ImageBuild),
        lookup .imageBuild (Runs.run (buildStep ns name) s (events ++ later)).world.cluster
            ns name = some b' →
          b'.status.conditions = b.status.conditions ∧ b'.status.phase = b.status.phase ∧
            b'.status.imageUrl = b.status.imageUrl) := by
  have hStart : BuildKept ns name s := fun b hb => (hNew b hb).statusKept
  have hKept : BuildKept ns name (Runs.run (buildStep ns name) s events) :=
    Runs.run_invariant kept_buildStep hStart events
  refine ⟨(hKept b hLookup).coherent, fun hTerminal later b' hLookup' => ?_⟩
  have hFixed : BuildFixed ns name b.status (Runs.run (buildStep ns name) s events) := by
    intro x hx
    cases hLookup.symm.trans hx
    exact ⟨hKept b hLookup, hTerminal, rfl⟩
  rw [Runs.run_append] at hLookup'
  obtain ⟨-, -, hStatus⟩ := Runs.run_invariant fixed_buildStep hFixed later b' hLookup'
  rw [hStatus]
  exact ⟨rfl, rfl, rfl⟩

end

def buildEnv : Env :=
  { ObjectPass.quietEnv with
    clock := { wall := 7 * second, monotonic := 0 }
    buildInputsHash := fun _ => "hash"
    jobInputsHash := fun spec => spec.buildContext.dockerfilePath
    urlHost := fun _ => .ok "zot:5000" }

def zotRegistry : ClusterRegistry where
  metadata := { name := "zot" }
  spec := {}
  status :=
    { conditions := [{ type := .ready, status := .conditionTrue, observedGeneration := 1
                       reason := "Ready", message := "" }]
      internalURL := "http://zot:5000" }

def gitBuild (name dockerfile : String) (commit : String := "abc123") : ImageBuild where
  metadata := { name := name, ns := "shop", uid := name, generation := 1 }
  spec :=
    { resourceName := "api"
      sourceRevision := { gitRepo := some { branch := "main", commit := commit } }
      buildContext :=
        { dockerfilePath := dockerfile
          contextPath := "."
          contextSource := some { git := some { repoUrl := "git.example/shop/api" } } }
      repository := { clusterRegistryRef := some "zot", repository := "shop/api" } }
  status := {}

def buildCluster (builds : List ImageBuild) : Cluster :=
  { clusterRegistries := [zotRegistry], imageBuilds := builds }

def buildSession (builds : List ImageBuild) : Session BuildOwn where
  world :=
    { cluster := buildCluster builds
      resource := { metadata := { name := "api", ns := "shop" }, spec := {}, status := {} } }
  own := { build := gitBuild "" "" }

def completeJob (b : ImageBuild) : Job where
  metadata := { name := buildJobName buildEnv.jobInputsHash b, ns := "shop" }
  spec := { template := {} }
  status := { conditions := [{ type := .complete, status := .conditionTrue }] }

def successEvents : List BuildEvent :=
  [.pass buildEnv, .pass buildEnv,
    .elsewhere { buildCluster [] with jobs := [completeJob (gitBuild "api-1" "Dockerfile")] }
      ["zot:5000/shop/api:abc123"],
    .pass buildEnv]

def successRun : Session BuildOwn :=
  Runs.run (buildStep "shop" "api-1") (buildSession [gitBuild "api-1" "Dockerfile"]) successEvents

theorem imageBuild_status_coherent_success :
    ∃ b, lookup .imageBuild successRun.world.cluster "shop" "api-1" = some b ∧
      b.status.imageUrl = "zot:5000/shop/api:abc123" ∧ Coherent b := by
  obtain ⟨b, hLookup, hUrl⟩ : ∃ b ∈ lookup .imageBuild successRun.world.cluster "shop" "api-1",
      b.status.imageUrl = "zot:5000/shop/api:abc123" := by
    decide +kernel
  have hNew : ∀ b, lookup .imageBuild (buildSession [gitBuild "api-1" "Dockerfile"]).world.cluster
      "shop" "api-1" = some b → NewBuild b := by
    intro x hx
    have hStart : x = gitBuild "api-1" "Dockerfile" := by
      refine Option.some.inj (hx.symm.trans ?_)
      decide +kernel
    rw [hStart]
    exact ⟨rfl, Or.inl rfl, rfl⟩
  rw [Option.mem_def] at hLookup
  refine ⟨b, hLookup, hUrl, ?_⟩
  unfold successRun at hLookup
  exact (imageBuild_status_coherent _ hNew successEvents hLookup).1

end ClusterAgent.ImageBuildController
