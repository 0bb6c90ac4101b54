import ClusterAgent.Volume.ArtifactSyncRuns

/-!
# Cluster agent — the gate of a volume with build artifacts

The volume controller records the build of every source under the source's name, by the
first seven characters of its revision. The gate of a resource that mounts the volume
asks for the record of the mounting resource, and compares it with the whole revision in
that resource's own status.

The volumes of the mounts are those that exist among the ones named, and the build id comes from
the status of an earlier pass.

Main results: `artifact_gate_iff`, `mount_gate_sound_iff`.
-/

namespace ClusterAgent.VolumeController

open Pass Dependencies Effect

/-- Every source is recorded as synced at its current build. -/
def AllSourcesSynced (hash : StackResourceBuildSpec → String) (c : Cluster) (v : Volume) : Prop :=
  ∀ a ∈ artifactsListed v, ∃ w ∈ wanted hash c v a.buildSource,
    entryOf v.status a.buildSource = some (syncedEntry w)

instance (hash : StackResourceBuildSpec → String) (c : Cluster) (v : Volume) :
    Decidable (AllSourcesSynced hash c v) :=
  inferInstanceAs (Decidable (∀ a ∈ artifactsListed v, ∃ w ∈ wanted hash c v a.buildSource,
    entryOf v.status a.buildSource = some (syncedEntry w)))

/-- The status of the resource names an available build whose whole revision is an id recorded for
the resource: for a source that of its current build, otherwise one left from when it was one. -/
def OwnBuildRecorded (hash : StackResourceBuildSpec → String) (c : Cluster) (v : Volume)
    (resource : StackResource) : Prop :=
  ∃ build, resource.status.currentBuild = some build ∧ build.available = true ∧
    if isArtifactSource v resource.name then
      (wanted hash c v resource.name).map Wanted.buildID = some build.sourceRevision
    else
      entryOf v.status resource.name =
        some { buildID := build.sourceRevision, status := .completed }

/-- What the gate asks of the other kinds of sources, which it looks at first. -/
def OpensFor (hash : StackResourceBuildSpec → String) (c : Cluster) (v : Volume)
    (source : VolumeSource) (resource : StackResource) : Prop :=
  match source.remoteDir, source.gitRepo with
  | some dir, _ => localDirSyncedToVolume v dir.currentDirectoryHash = true
  | none, some git => gitRepoSyncedToVolume v git.revision = true
  | none, none => OwnBuildRecorded hash c v resource

theorem upToDate_iff {info : BuildArtifactSyncInfo} {buildID : String} :
    buildSyncCompletedAndUptoDate info buildID = true ↔
      info = { buildID := buildID, status := .completed } := by
  obtain ⟨recorded, status⟩ := info
  unfold buildSyncCompletedAndUptoDate BuildArtifactSyncInfo.completed
  simp [and_comm]

theorem buildArtifactsSynced_iff {v : Volume} {resource : StackResource} :
    (buildArtifactsSynced v resource).1 = true ↔
      ∃ build, resource.status.currentBuild = some build ∧ build.available = true ∧
        entryOf v.status resource.name =
          some { buildID := build.sourceRevision, status := .completed } := by
  unfold buildArtifactsSynced entryOf
  cases resource.status.currentBuild with
  | none => simp
  | some build =>
    cases hAvailable : build.available with
    | false => simp [hAvailable]
    | true =>
      cases v.status.buildArtifactSyncs.lookup resource.name with
      | none => simp [hAvailable]
      | some info =>
        have hGate : (if buildSyncCompletedAndUptoDate info build.sourceRevision = true then
            (true, "") else (false, "Volume sync from build not yet complete")).1 = true ↔
            info = { buildID := build.sourceRevision, status := .completed } := by
          rw [← upToDate_iff]
          split <;> simp_all
        simpa [hAvailable] using hGate

/-- **The gate opens for a resource only through its own record**, also when every source is
recorded as synced at its current build. -/
theorem artifact_gate_iff (hash : StackResourceBuildSpec → String) (c : Cluster) (v : Volume)
    (source : VolumeSource) (resource : StackResource) (hSource : v.spec.source = some source)
    (hArtifacts : source.buildArtifacts.isSome = true) (hAll : AllSourcesSynced hash c v) :
    (isVolumeReady v resource).1 = true ↔ OpensFor hash c v source resource := by
  obtain ⟨artifacts, hArtifacts⟩ := Option.isSome_iff_exists.mp hArtifacts
  unfold isVolumeReady OpensFor
  rw [hSource]
  dsimp only
  rw [hArtifacts]
  cases source.remoteDir with
  | some dir =>
    cases hSynced : localDirSyncedToVolume v dir.currentDirectoryHash <;> simp [hSynced]
  | none =>
    cases source.gitRepo with
    | some git => cases hSynced : gitRepoSyncedToVolume v git.revision <;> simp [hSynced]
    | none =>
      refine buildArtifactsSynced_iff.trans (exists_congr fun build => ?_)
      refine and_congr_right fun _ => and_congr_right fun _ => ?_
      split
      · next hListed =>
        obtain ⟨a, ha, hName⟩ := List.any_eq_true.mp hListed
        obtain ⟨w, hWanted, hEntry⟩ := hAll a ha
        rw [of_decide_eq_true hName] at hWanted hEntry
        rw [hEntry, Option.mem_def.mp hWanted]
        unfold syncedEntry
        simp
      · rfl

def mounting (commit name : String) : StackResource :=
  { shopResource commit name with
    spec.volumeMounts := [{ sourceVolume := "assets", destination := "/srv" }]
    status.currentBuild := some
      { name := imageBuildName shopHash name (shopSpec commit)
        sourceRevision := commit
        available := true } }

def recordedVolume (buildID : String) : Volume :=
  { assetsVolume ["api"] with
    status.buildArtifactSyncs := [("api", { buildID := buildID, status := .completed })] }

theorem artifact_gate_iff_short :
    (isVolumeReady (recordedVolume "v1.4") (mounting "v1.4" "api")).1 = true ∧
      OpensFor shopHash (shopCluster "v1.4" ["api"]) (recordedVolume "v1.4")
        { buildArtifacts := some
            [{ buildSource := "api", sourcePath := "/dist", destinationPath := "api" }] }
        (mounting "v1.4" "api") := by
  have hOpen : (isVolumeReady (recordedVolume "v1.4") (mounting "v1.4" "api")).1 = true := by
    decide +kernel
  exact ⟨hOpen, (artifact_gate_iff shopHash (shopCluster "v1.4" ["api"]) (recordedVolume "v1.4") _
    (mounting "v1.4" "api") rfl rfl (by decide +kernel)).mp hOpen⟩

/-- The gate stays closed for a source whose revision has more than seven characters: the record
holds the short revision, and the gate compares with the full one. -/
theorem recorded_sources_still_gated :
    ¬ (∀ (hash : StackResourceBuildSpec → String) (c : Cluster) (v : Volume)
      (source : VolumeSource) (resource : StackResource), v.spec.source = some source →
      source.buildArtifacts.isSome = true → AllSourcesSynced hash c v →
      v.name ∈ resource.spec.volumeMounts.map VolumeMount.sourceVolume →
      (isVolumeReady v resource).1 = true) := by
  intro h
  have hOpen := h shopHash (shopCluster "0a1b2c3d4e" ["api"]) (recordedVolume "0a1b2c3") _
    (mounting "0a1b2c3d4e" "api") rfl rfl (by decide +kernel) (by decide +kernel)
  revert hOpen
  decide +kernel

/-! ## The mounts of a resource -/

/-- The sources of the volume are synced at the revisions of the current specs. -/
def SyncedAtSpecs (hash : StackResourceBuildSpec → String) (c : Cluster) (v : Volume) : Prop :=
  ∀ source ∈ v.spec.source,
    (∀ dir ∈ source.remoteDir, v.status.lastRemoteSyncHash = dir.currentDirectoryHash) ∧
    (∀ git ∈ source.gitRepo,
      v.status.lastSyncedGitReference = git.revision.getGitRevisionString) ∧
    AllSourcesSynced hash c v

def MountsSynced (hash : StackResourceBuildSpec → String) (c : Cluster)
    (resource : StackResource) : Prop :=
  ∀ m ∈ resource.spec.volumeMounts,
    ∃ v ∈ lookup .volume c resource.metadata.ns m.sourceVolume, SyncedAtSpecs hash c v

/-- What the gate does not look at holds: sources beside the first kind and artifacts of other
resources are synced, and the build in the status is that of the current build spec. -/
def GateInformed (hash : StackResourceBuildSpec → String) (c : Cluster)
    (resource : StackResource) (v : Volume) : Prop :=
  ∀ source ∈ v.spec.source,
    (source.remoteDir.isSome = true → ∀ git ∈ source.gitRepo,
      v.status.lastSyncedGitReference = git.revision.getGitRevisionString) ∧
    ∀ a ∈ artifactsListed v, ∃ w ∈ wanted hash c v a.buildSource,
      if source.remoteDir = none ∧ source.gitRepo = none ∧ a.buildSource = resource.name then
        ∃ build ∈ resource.status.currentBuild, build.sourceRevision = w.buildID
      else entryOf v.status a.buildSource = some (syncedEntry w)

/-- The gate opens only over volumes that are there and synced. -/
def MountGateSound (env : Env) (resource : StackResource) (w : World) : Prop :=
  ∀ message w', volumeMountsReadyForUse env resource w = .ok (true, message) w' →
    MountsSynced env.buildInputsHash w.cluster resource

/-- Every mounted volume that exists passes the check. -/
def FoundMountsReady (c : Cluster) (resource : StackResource) : Prop :=
  ∀ m ∈ resource.spec.volumeMounts, ∀ v ∈ lookup .volume c resource.metadata.ns m.sourceVolume,
    (isVolumeReady v resource).1 = true

theorem mem_uniqueByName {v : Volume} {volumes : List Volume} :
    v ∈ uniqueByName volumes ↔ volumes.find? (fun u => decide (u.name = v.name)) = some v := by
  induction volumes with
  | nil => simp [uniqueByName]
  | cons u rest ih =>
    unfold uniqueByName
    rw [List.mem_cons, List.mem_filter, decide_eq_true_iff, ih, List.find?_cons]
    by_cases hName : u.name = v.name
    · simp [hName, eq_comm]
    · have hOther : v ≠ u := fun h => hName (h ▸ rfl)
      simp [hName, hOther, Ne.symm hName]

variable {env : Env} {w : World} {resource : StackResource} {v : Volume}

def mountedIn (c : Cluster) (resource : StackResource) : List Volume :=
  uniqueByName ((c.volumes.filter fun o => decide (o.metadata.ns = resource.metadata.ns) &&
    ([] : StringMap).all fun e => decide (o.metadata.labels.get? e.1 = some e.2)).filter
      fun u => decide (u.name ∈ resource.spec.volumeMounts.map VolumeMount.sourceVolume))

theorem mem_mountedIn {c : Cluster} : v ∈ mountedIn c resource ↔
    v.name ∈ resource.spec.volumeMounts.map VolumeMount.sourceVolume ∧
      lookup .volume c resource.metadata.ns v.name = some v := by
  unfold mountedIn
  rw [mem_uniqueByName, List.find?_filter, List.find?_filter]
  by_cases hRef : v.name ∈ resource.spec.volumeMounts.map VolumeMount.sourceVolume
  · refine (Eq.congr_left (congrArg (c.volumes.find? ·) (funext fun o => ?_))).trans
      (and_iff_right hRef).symm
    rw [Bool.eq_iff_iff]
    unfold hasKey
    simp only [List.all_nil, Bool.and_true, decide_eq_true_eq, Bool.and_eq_true]
    exact and_congr_right fun _ => and_iff_right_of_imp fun hName => hName ▸ hRef
  · refine iff_of_false (fun hFound => hRef ?_) fun h => hRef h.1
    have hv := List.find?_some hFound
    simp only [decide_eq_true_eq] at hv
    exact hv.2.1

theorem synced_iff_informed {hash : StackResourceBuildSpec → String} {c : Cluster}
    (hReady : (isVolumeReady v resource).1 = true) :
    SyncedAtSpecs hash c v ↔ GateInformed hash c resource v := by
  unfold SyncedAtSpecs GateInformed AllSourcesSynced
  refine forall₂_congr fun source hSource => ?_
  unfold isVolumeReady at hReady
  rw [Option.mem_def.mp hSource] at hReady
  dsimp only at hReady
  -- the gate asks for the directory first, then for git, then for the artifacts
  cases hDir : source.remoteDir with
  | some dir =>
    cases hSynced : localDirSyncedToVolume v dir.currentDirectoryHash with
    | false => simp [hDir, hSynced] at hReady
    | true =>
      have hHash := of_decide_eq_true (Bool.and_eq_true_iff.mp hSynced).2
      simp [hHash]
  | none =>
    cases hGit : source.gitRepo with
    | some git =>
      cases hSynced : gitRepoSyncedToVolume v git.revision with
      | false => simp [hDir, hGit, hSynced] at hReady
      | true =>
        have hHash := of_decide_eq_true (Bool.and_eq_true_iff.mp hSynced).2
        simp [hHash]
    | none =>
      simp only [Option.not_mem_none, false_imp_iff, implies_true, true_and, Option.isSome_none,
        Bool.false_eq_true]
      -- of the artifacts the gate knows the build of the resource itself only
      refine forall₂_congr fun a ha => exists_congr fun w => and_congr_right fun _ => ?_
      have hArtifacts : ∃ artifacts, source.buildArtifacts = some artifacts := by
        unfold artifactsListed at ha
        rw [Option.mem_def.mp hSource] at ha
        cases hNone : source.buildArtifacts with
        | none => simp [hNone] at ha
        | some artifacts => exact ⟨artifacts, rfl⟩
      obtain ⟨artifacts, hArtifacts⟩ := hArtifacts
      rw [hDir, hGit, hArtifacts] at hReady
      obtain ⟨build, hBuild, -, hEntry⟩ := buildArtifactsSynced_iff.mp hReady
      -- its own source is synced by the gate; of the others nothing is known
      split
      · next hOwn => simp [hOwn, hEntry, hBuild, syncedEntry]
      · rfl

theorem found_ready_iff {c : Cluster} : FoundMountsReady c resource ↔
    ∀ v ∈ mountedIn c resource, (isVolumeReady v resource).1 = true := by
  constructor
  · intro hReady v hv
    obtain ⟨hRef, hFound⟩ := mem_mountedIn.mp hv
    obtain ⟨m, hm, hName⟩ := List.mem_map.mp hRef
    exact hReady m hm v (hName ▸ hFound)
  · intro hReady m hm v hFound
    have hName : v.name = m.sourceVolume := by
      have hKey := List.find?_some hFound
      exact of_decide_eq_true (Bool.and_eq_true_iff.mp hKey).2
    exact hReady v (mem_mountedIn.mpr ⟨hName ▸ List.mem_map_of_mem hm, hName ▸ hFound⟩)

theorem mount_gate_opens (hAnswered : env.fault w.calls = none) :
    (∃ message w', volumeMountsReadyForUse env resource w = .ok (true, message) w') ↔
      FoundMountsReady w.cluster resource := by
  -- the volumes are listed by one call
  have hListed : getVolumes env resource w =
      .ok (mountedIn w.cluster resource) { w with calls := w.calls + 1 } := by
    have hCall : call env w = .ok () { w with calls := w.calls + 1 } := by
      unfold call
      rw [hAnswered]
    unfold getVolumes listObjects
    rw [bind_assoc, bind_of_ok hCall]
    rfl
  rw [found_ready_iff]
  unfold volumeMountsReadyForUse
  split
  -- no mounts: the gate is open without a call
  · next hNone =>
    have hEmpty : mountedIn w.cluster resource = [] := by
      unfold mountedIn
      rw [List.eq_nil_of_length_eq_zero hNone]
      simp [uniqueByName]
    rw [hEmpty]
    exact iff_of_true ⟨_, _, rfl⟩ fun v hv => absurd hv List.not_mem_nil
  · rw [bind_of_ok (attempt_of_ok hListed)]
    dsimp only
    -- the first volume that is not ready closes the gate
    cases hFound : (mountedIn w.cluster resource).find? fun v =>
        !(isVolumeReady v resource).1 with
    | none =>
      refine iff_of_true ⟨_, _, rfl⟩ fun v hv => ?_
      simpa using List.find?_eq_none.mp hFound v hv
    | some v =>
      refine iff_of_false ?_ fun hReady => ?_
      · rintro ⟨message, w', hOpen⟩
        cases (Prod.mk.inj (EStateM.Result.ok.inj hOpen).1).1
      have hClosed := List.find?_some hFound
      simp [hReady v (List.mem_of_find?_eq_some hFound)] at hClosed

theorem mountGateSound_iff (hAnswered : env.fault w.calls = none) :
    MountGateSound env resource w ↔ (FoundMountsReady w.cluster resource →
      MountsSynced env.buildInputsHash w.cluster resource) := by
  rw [← mount_gate_opens hAnswered]
  exact ⟨fun h ⟨message, w', hOpen⟩ => h message w' hOpen,
    fun h message w' hOpen => h ⟨message, w', hOpen⟩⟩

/-- **The gate on mounts is sound where every mounted volume exists and the gate overlooks none
of its sources**, and nowhere else. -/
theorem mount_gate_sound_iff (hAnswered : env.fault w.calls = none) :
    MountGateSound env resource w ↔
      (FoundMountsReady w.cluster resource → ∀ m ∈ resource.spec.volumeMounts,
        ∃ v ∈ lookup .volume w.cluster resource.metadata.ns m.sourceVolume,
          GateInformed env.buildInputsHash w.cluster resource v) := by
  rw [mountGateSound_iff hAnswered]
  exact forall_congr' fun hReady => forall₂_congr fun m hm => exists_congr fun v =>
    and_congr_right fun hFound => synced_iff_informed (hReady m hm v hFound)

theorem mounting_current_build : MountGateSound shopEnv (mounting "v1.4" "api")
    (ObjectPass.worldOf { shopCluster "v1.4" ["api"] with volumes := [recordedVolume "v1.4"] }) :=
  (mount_gate_sound_iff rfl).mpr fun _ => by
    unfold GateInformed
    decide +kernel

/-- The gate opens over a volume that does not exist, and, in the pass after a change to a build
spec that was built before, over the artifacts of the build that the status still names. -/
theorem unsynced_mounts_pass :
    ¬ MountGateSound shopEnv (mounting "v1.4" "api")
      (ObjectPass.worldOf { shopCluster "v1.4" ["api"] with volumes := [] }) ∧
    ¬ MountGateSound shopEnv { mounting "v1.4" "api" with spec := (mounting "v1.5" "api").spec }
      (ObjectPass.worldOf
        { shopCluster "v1.5" ["api"] with volumes := [recordedVolume "v1.4"] }) := by
  rw [mountGateSound_iff rfl, mountGateSound_iff rfl]
  unfold FoundMountsReady MountsSynced SyncedAtSpecs
  constructor
  · decide +kernel
  · decide +kernel

end ClusterAgent.VolumeController
