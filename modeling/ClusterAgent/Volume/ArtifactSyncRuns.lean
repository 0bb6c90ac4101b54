import ClusterAgent.Volume.GitSyncRuns

/-!
# Cluster agent — artifact sync over whole runs

The name of an artifact sync Job holds the volume and seven characters of a revision.
Resources at one revision share it, so do builds of one revision and a build that is
rolled back to, and the Jobs are never removed. Besides the cluster, the state of a run
holds the sync Jobs of the volume in the order in which they completed.

* `SyncedBy` — a Job that copies what is wanted of a resource completed, and since then
  none for another build of that resource;
* `OwnCopies` — what a source is copied from changes only to something whose Job name
  is free, two sources never share a name, and Jobs of earlier builds do not complete
  late;
* `copyInv_step` — what every such step keeps.

Main result: `artifact_sync_sound`.
-/

namespace ClusterAgent.VolumeController

open Pass Session ObjectPass VolumeSync

/-! ## Runs -/

structure ArtifactRun where
  cluster : Cluster
  completed : List Job := []

def isSyncJobOf (ns name : String) (job : Job) : Bool :=
  decide (job.metadata.ns = ns) &&
    (artifactSyncJobName name "").toList.isPrefixOf job.metadata.name.toList

def resourceOf (job : Job) : Option String := job.metadata.labels.get? resourceNameLabel

def imageOf (job : Job) : Option String :=
  job.spec.template.spec.containers.head?.map Container.image

def newlyCompleted (ns name uid : String) (status : JobStatus) (c : Cluster) : List Job :=
  (c.jobs.filter fun job => isSyncJobOf ns name job && !jobCompleted job &&
    jobCompleted (withJobStatus uid status job)).map (withJobStatus uid status)

def artifactStep (ns name : String) (s : ArtifactRun) : SyncEvent → ArtifactRun
  | .edit spec => { s with cluster := editVolume ns name spec s.cluster }
  | .pass env own => { s with cluster := afterPass ns name env own s.cluster }
  | .jobStatus uid status =>
    { cluster := { s.cluster with jobs := s.cluster.jobs.map (withJobStatus uid status) }
      completed := newlyCompleted ns name uid status s.cluster ++ s.completed }
  | .elsewhere c => { s with cluster := c }

/-- The digest is one function, only this controller writes the status of the volume, and only
status writes complete Jobs. -/
def ArtifactFits (hash : StackResourceBuildSpec → String) (ns name : String) (s : ArtifactRun) :
    SyncEvent → Prop
  | .pass env _ => env.buildInputsHash = hash
  | .elsewhere c => lookup .volume c ns name = lookup .volume s.cluster ns name ∧
    ∀ job ∈ c.jobs, isSyncJobOf ns name job = true → jobCompleted job = true →
      job ∈ s.cluster.jobs
  | _ => True

/-- A Job that copies what is wanted of the resource completed, and no Job for another build of
the resource did so after it. -/
def SyncedBy (v : Volume) (resourceName : String) (w : Wanted) (completed : List Job) : Prop :=
  ∃ later job earlier, completed = later ++ job :: earlier ∧ CopyJob v resourceName w job ∧
    jobCompleted job = true ∧
    ∀ other ∈ later, resourceOf other = some resourceName → imageOf other = some w.image

def syncedEntry (w : Wanted) :
    BuildArtifactSyncInfo := { buildID := w.buildID, status := .completed }

/-- Where the current build of a source is recorded as synced, it is. -/
def ArtifactSyncSound (hash : StackResourceBuildSpec → String) (ns name : String)
    (s : ArtifactRun) : Prop :=
  ∀ v resourceName w, lookup .volume s.cluster ns name = some v →
    wanted hash s.cluster v resourceName = some w →
    entryOf v.status resourceName = some (syncedEntry w) → SyncedBy v resourceName w s.completed

/-- What a source is copied from changes to a build that is not yet recorded as synced, and that
has no Job under its name; where it stays, nobody else puts a Job under the name. -/
def FreeName (hash : StackResourceBuildSpec → String) (c c' : Cluster) (v v' : Volume)
    (resourceName : String) (w : Wanted) : Prop :=
  (wanted hash c v resourceName = some w ∨
    entryOf v'.status resourceName ≠ some (syncedEntry w)) ∧
  (w.available = true → artifactJobIn c' v' w.buildID = none ∨
    (wanted hash c v resourceName = some w ∧
      artifactJobIn c' v' w.buildID = artifactJobIn c v w.buildID))

def Switches (hash : StackResourceBuildSpec → String) (ns name : String) (c c' : Cluster) : Prop :=
  ∀ v ∈ lookup .volume c ns name, ∀ v' ∈ lookup .volume c' ns name,
    ∀ a ∈ artifactsListed v', ∀ w ∈ wanted hash c' v' a.buildSource,
      FreeName hash c c' v v' a.buildSource w

/-- Sources switch to free names only; a pass meets no two sources whose available builds share a
name; and a Job that completes is for the current build of its resource. -/
def OwnCopies (hash : StackResourceBuildSpec → String) (ns name : String) (s : ArtifactRun) :
    SyncEvent → Prop
  | .edit spec => Switches hash ns name s.cluster (editVolume ns name spec s.cluster)
  | .pass _ _ => ∀ v ∈ lookup .volume s.cluster ns name,
    ∀ a ∈ artifactsListed v, ∀ a' ∈ artifactsListed v,
    ∀ w ∈ wanted hash s.cluster v a.buildSource, ∀ w' ∈ wanted hash s.cluster v a'.buildSource,
      w.available = true → w'.available = true → w.buildID = w'.buildID →
        a.buildSource = a'.buildSource
  | .jobStatus uid status => ∀ v ∈ lookup .volume s.cluster ns name,
    ∀ job ∈ newlyCompleted ns name uid status s.cluster, ∀ resourceName ∈ resourceOf job,
    ∀ w ∈ wanted hash s.cluster v resourceName, imageOf job = some w.image
  | .elsewhere c => Switches hash ns name s.cluster c

structure NewArtifacts (ns name : String) (s : ArtifactRun) : Prop where
  completed : s.completed = []
  entries : ∀ v, lookup .volume s.cluster ns name = some v → v.status.buildArtifactSyncs = []
  jobs : ∀ job ∈ s.cluster.jobs, isSyncJobOf ns name job = false

/-! ## What is wanted -/

variable {c : Cluster} {v v' : Volume} {resourceName : String} {w : Wanted}

theorem listed_of_wanted {hash : StackResourceBuildSpec → String}
    (h : wanted hash c v resourceName = some w) :
    ∃ a ∈ artifactsListed v, a.buildSource = resourceName := by
  unfold wanted at h
  split at h
  · next hListed =>
    obtain ⟨a, ha, hName⟩ := List.any_eq_true.mp hListed
    exact ⟨a, ha, of_decide_eq_true hName⟩
  · cases h

theorem wanted_congr {hash : StackResourceBuildSpec → String} {c' : Cluster}
    (hNs : v'.metadata.ns = v.metadata.ns) (hSpec : v'.spec = v.spec)
    (hResources : c'.stackResources = c.stackResources) (hBuilds : c'.imageBuilds = c.imageBuilds)
    (resourceName : String) : wanted hash c' v' resourceName = wanted hash c v resourceName := by
  have hCurrent : currentBuildOf hash c' v'.metadata.ns resourceName =
      currentBuildOf hash c v.metadata.ns resourceName := by
    have hGet : Kind.imageBuild.get c' = Kind.imageBuild.get c := hBuilds
    unfold currentBuildOf StackResourceController.lookupResource
    rw [hNs, hResources]
    simp only [lookup_congr hGet]
  unfold wanted isArtifactSource artifactsListed
  rw [hCurrent, hSpec]

theorem CopyJob.congr {job : Job} (hNs : v'.metadata.ns = v.metadata.ns)
    (hName : v'.metadata.name = v.metadata.name) (h : CopyJob v resourceName w job) :
    CopyJob v' resourceName w job := by
  have hName : v'.name = v.name := hName
  exact ⟨h.ns.trans hNs.symm, by rw [hName]; exact h.name,
    h.label, by rw [hName]; exact h.containers⟩

theorem SyncedBy.congr {completed : List Job} (hNs : v'.metadata.ns = v.metadata.ns)
    (hName : v'.metadata.name = v.metadata.name) (h : SyncedBy v resourceName w completed) :
    SyncedBy v' resourceName w completed := by
  obtain ⟨later, job, earlier, hSplit, hCopy, hRest⟩ := h
  exact ⟨later, job, earlier, hSplit, hCopy.congr hNs hName, hRest⟩

theorem SyncedBy.append {completed new : List Job} (h : SyncedBy v resourceName w completed)
    (hNew : ∀ other ∈ new, resourceOf other = some resourceName → imageOf other = some w.image) :
    SyncedBy v resourceName w (new ++ completed) := by
  obtain ⟨later, job, earlier, rfl, hCopy, hCompleted, hLater⟩ := h
  refine ⟨new ++ later, job, earlier, (List.append_assoc _ _ _).symm, hCopy, hCompleted,
    fun other hOther => ?_⟩
  rcases List.mem_append.mp hOther with hFirst | hSecond
  · exact hNew other hFirst
  · exact hLater other hSecond

theorem artifactJobIn_congr (hNs : v'.metadata.ns = v.metadata.ns)
    (hName : v'.metadata.name = v.metadata.name) (buildID : String) :
    artifactJobIn c v' buildID = artifactJobIn c v buildID := by
  unfold artifactJobIn Object.name
  rw [hNs, hName]

theorem artifactSyncJobName_inj {volumeName a b : String}
    (h : artifactSyncJobName volumeName a = artifactSyncJobName volumeName b) : a = b := by
  unfold artifactSyncJobName at h
  have hList := congrArg String.toList h
  simp only [String.toList_append] at hList
  exact String.toList_inj.mp (List.append_cancel_left hList)

theorem isSyncJobOf_found {ns name : String} {buildID : String} {job : Job}
    (hv : lookup .volume c ns name = some v) (hJob : artifactJobIn c v buildID = some job) :
    isSyncJobOf ns name job = true := by
  obtain ⟨hNs, hName⟩ := key_of_lookup hv
  obtain ⟨hJobNs, hJobName⟩ := key_of_lookup hJob
  unfold isSyncJobOf
  rw [hJobNs, hJobName, Bool.and_eq_true]
  refine ⟨decide_eq_true hNs, List.isPrefixOf_iff_prefix.mpr ?_⟩
  unfold Object.name artifactSyncJobName
  rw [hName]
  simp [String.toList_append]

/-! ## The invariant -/

/-- The Job under the name of an available build copies what is wanted, and if it is complete,
the build is synced; the records tell the truth. -/
structure CopyInv (hash : StackResourceBuildSpec → String) (ns name : String) (s : ArtifactRun) :
    Prop where
  jobs : ∀ v resourceName w job, lookup .volume s.cluster ns name = some v →
    wanted hash s.cluster v resourceName = some w → w.available = true →
    artifactJobIn s.cluster v w.buildID = some job → CopyJob v resourceName w job ∧
      (jobCompleted job = true → SyncedBy v resourceName w s.completed)
  sound : ArtifactSyncSound hash ns name s

theorem NewArtifacts.copyInv {hash : StackResourceBuildSpec → String} {ns name : String}
    {s : ArtifactRun} (h : NewArtifacts ns name s) : CopyInv hash ns name s where
  jobs v resourceName w job hv _ _ hJob := by
    have hSync := isSyncJobOf_found hv hJob
    rw [h.jobs job (List.mem_of_find?_eq_some hJob)] at hSync
    cases hSync
  sound v resourceName w hv _ hEntry := by
    unfold entryOf at hEntry
    rw [h.entries v hv] at hEntry
    cases hEntry

section

variable {hash : StackResourceBuildSpec → String} {ns name : String} {s : ArtifactRun}

theorem copyInv_switch {c' : Cluster} (h : CopyInv hash ns name s)
    (hSwitch : Switches hash ns name s.cluster c')
    (hVolume : ∀ v', lookup .volume c' ns name = some v' →
      ∃ v, lookup .volume s.cluster ns name = some v ∧ v'.status = v.status) :
    CopyInv hash ns name { s with cluster := c' } := by
  -- the Volume keeps its name, by which its Jobs are found
  have hKeys : ∀ v v', lookup .volume s.cluster ns name = some v →
      lookup .volume c' ns name = some v' →
      v'.metadata.ns = v.metadata.ns ∧ v'.metadata.name = v.metadata.name := by
    intro v v' hv hv'
    obtain ⟨hNs, hName⟩ := key_of_lookup hv
    obtain ⟨hNs', hName'⟩ := key_of_lookup hv'
    exact ⟨hNs'.trans hNs.symm, hName'.trans hName.symm⟩
  refine ⟨fun v' resourceName w job hv' hWanted hAvailable hJob => ?_,
    fun v' resourceName w hv' hWanted hEntry => ?_⟩
  · obtain ⟨v, hv, -⟩ := hVolume v' hv'
    obtain ⟨hNs, hName⟩ := hKeys v v' hv hv'
    obtain ⟨a, ha, rfl⟩ := listed_of_wanted hWanted
    -- the switch leads to no Job, or to the one it had before
    rcases (hSwitch v hv v' hv' a ha w hWanted).2 hAvailable with hNone | ⟨hBefore, hSame⟩
    · exact absurd (hNone.symm.trans hJob) nofun
    · obtain ⟨hCopy, hSynced⟩ := h.jobs v a.buildSource w job hv hBefore hAvailable
        (hSame.symm.trans hJob)
      exact ⟨hCopy.congr hNs hName, fun hCompleted => (hSynced hCompleted).congr hNs hName⟩
  · obtain ⟨v, hv, hStatus⟩ := hVolume v' hv'
    obtain ⟨hNs, hName⟩ := hKeys v v' hv hv'
    obtain ⟨a, ha, rfl⟩ := listed_of_wanted hWanted
    -- an entry of another build is not a synced one
    rcases (hSwitch v hv v' hv' a ha w hWanted).1 with hBefore | hNot
    · exact (h.sound v a.buildSource w hv hBefore (hStatus ▸ hEntry)).congr hNs hName
    · exact absurd hEntry hNot

theorem copyInv_edit {spec : VolumeSpec} (h : CopyInv hash ns name s)
    (hOwn : OwnCopies hash ns name s (.edit spec)) :
    CopyInv hash ns name (artifactStep ns name s (.edit spec)) := by
  refine copyInv_switch h hOwn fun v' hv' => ?_
  rw [lookup_editVolume] at hv'
  obtain ⟨v, hv, rfl⟩ := Option.map_eq_some_iff.mp hv'
  exact ⟨v, hv, rfl⟩

theorem artifactJobIn_jobStatus {buildID : String} (uid : String) (status : JobStatus) :
    artifactJobIn { c with jobs := c.jobs.map (withJobStatus uid status) } v buildID =
      (artifactJobIn c v buildID).map (withJobStatus uid status) :=
  lookup_jobStatus uid status

theorem CopyJob.withJobStatus {job : Job} (h : CopyJob v resourceName w job) (uid : String)
    (status : JobStatus) :
    CopyJob v resourceName w (withJobStatus uid status job) := by
  have hMetadata := metadata_withJobStatus uid status job
  have hSpec := spec_withJobStatus uid status job
  exact ⟨by rw [hMetadata]; exact h.ns, by rw [hMetadata]; exact h.name,
    by rw [hMetadata]; exact h.label, by rw [hSpec]; exact h.containers⟩

theorem copyInv_jobStatus {uid : String} {status : JobStatus} (h : CopyInv hash ns name s)
    (hOwn : OwnCopies hash ns name s (.jobStatus uid status)) :
    CopyInv hash ns name (artifactStep ns name s (.jobStatus uid status)) := by
  have hNew : ∀ v resourceName w, lookup .volume s.cluster ns name = some v →
      wanted hash s.cluster v resourceName = some w →
      ∀ other ∈ newlyCompleted ns name uid status s.cluster,
        resourceOf other = some resourceName → imageOf other = some w.image :=
    fun v resourceName w hv hWanted other hOther hResource =>
      hOwn v hv other hOther resourceName hResource w hWanted
  refine ⟨fun v resourceName w job hv hWanted hAvailable hJob => ?_,
    fun v resourceName w hv hWanted hEntry =>
      (h.sound v resourceName w hv hWanted hEntry).append (hNew v resourceName w hv hWanted)⟩
  have hv : lookup .volume s.cluster ns name = some v := hv
  have hWanted : wanted hash s.cluster v resourceName = some w := hWanted
  obtain ⟨old, hOld, rfl⟩ := Option.map_eq_some_iff.mp
    ((artifactJobIn_jobStatus uid status).symm.trans hJob)
  obtain ⟨hCopy, hSynced⟩ := h.jobs v resourceName w old hv hWanted hAvailable hOld
  refine ⟨hCopy.withJobStatus uid status, fun hCompleted => ?_⟩
  -- a Job already complete was counted before; one completed now is in the new part
  cases hBefore : jobCompleted old with
  | true => exact (hSynced hBefore).append (hNew v resourceName w hv hWanted)
  | false =>
    have hMem : withJobStatus uid status old ∈ newlyCompleted ns name uid status s.cluster := by
      refine List.mem_map_of_mem (List.mem_filter.mpr ⟨List.mem_of_find?_eq_some hOld, ?_⟩)
      rw [isSyncJobOf_found hv hOld, hBefore, hCompleted]
      rfl
    obtain ⟨later, earlier, hSplit⟩ := List.append_of_mem hMem
    refine ⟨later, _, earlier ++ s.completed, ?_, hCopy.withJobStatus uid status, hCompleted,
      fun other hOther => hNew v resourceName w hv hWanted other ?_⟩
    · exact (congrArg (· ++ s.completed) hSplit).trans (List.append_assoc _ _ _)
    · rw [hSplit]
      exact List.mem_append_left _ hOther

theorem copyInv_pass {c' : Cluster} (h : CopyInv hash v.metadata.ns v.metadata.name s)
    (hv : lookup .volume s.cluster v.metadata.ns v.metadata.name = some v)
    (hPass : ArtifactPass hash v s.cluster c')
    (hOne : ∀ a ∈ artifactsListed v, ∀ a' ∈ artifactsListed v,
      ∀ w ∈ wanted hash s.cluster v a.buildSource, ∀ w' ∈ wanted hash s.cluster v a'.buildSource,
        w.available = true → w'.available = true → w.buildID = w'.buildID →
          a.buildSource = a'.buildSource) :
    CopyInv hash v.metadata.ns v.metadata.name { s with cluster := c' } := by
  obtain ⟨v', hv', hMetadata, hSpec, hEntries⟩ := hPass.volume
  obtain ⟨new, hJobs, hNew⟩ := hPass.jobs
  have hNs : v'.metadata.ns = v.metadata.ns := by rw [hMetadata]
  have hName : v'.metadata.name = v.metadata.name := by rw [hMetadata]
  have hIs : ∀ v'', lookup .volume c' v.metadata.ns v.metadata.name = some v'' → v' = v'' :=
    fun _ hv'' => Option.some.inj (hv'.symm.trans hv'')
  -- a pass writes neither the resources nor the builds, so it wants what it wanted
  have hWantedSame : ∀ r, wanted hash c' v' r = wanted hash s.cluster v r :=
    wanted_congr hNs hSpec hPass.resources hPass.builds
  refine ⟨fun v'' resourceName w job hv'' hWanted hAvailable hJob => ?_,
    fun v'' resourceName w hv'' hWanted hEntry => ?_⟩
  · obtain rfl := hIs v'' hv''
    have hWanted : wanted hash s.cluster v resourceName = some w :=
      (hWantedSame resourceName).symm.trans hWanted
    suffices hFound : CopyJob v resourceName w job ∧
        (jobCompleted job = true → SyncedBy v resourceName w s.completed) from
      ⟨hFound.1.congr hNs hName, fun hCompleted => (hFound.2 hCompleted).congr hNs hName⟩
    have hFind : artifactJobIn c' v' w.buildID = (artifactJobIn s.cluster v w.buildID).or
        (new.find? (hasKey v.metadata.ns (artifactSyncJobName v.name w.buildID))) := by
      rw [artifactJobIn_congr hNs hName]
      exact (congrArg (List.find? _) hJobs).trans List.find?_append
    -- a Job of an earlier pass, or one this pass has started
    cases hBefore : artifactJobIn s.cluster v w.buildID with
    | some old =>
      rw [hBefore, Option.some_or] at hFind
      obtain rfl : old = job := Option.some.inj (hFind.symm.trans hJob)
      exact h.jobs v resourceName w old hv hWanted hAvailable hBefore
    | none =>
      rw [hBefore, Option.none_or] at hFind
      have hStarted := hFind.symm.trans hJob
      have hJob := hNew job (List.mem_of_find?_eq_some hStarted)
      have hJobName := (hasKey_iff.mp (List.find?_some hStarted)).2
      obtain ⟨resourceName', w', hWanted', hAvailable', hCopy⟩ :=
        hJob.copies.resolve_left fun hOther => hOther w.buildID hJobName
      obtain ⟨a, ha, rfl⟩ := listed_of_wanted hWanted
      obtain ⟨a', ha', rfl⟩ := listed_of_wanted hWanted'
      -- the Job's name holds the build, and no two artifacts share one
      have hID : w.buildID = w'.buildID := artifactSyncJobName_inj (hJobName.symm.trans hCopy.name)
      have hSource := hOne a ha a' ha' w hWanted w' hWanted' hAvailable hAvailable' hID
      rw [← hSource] at hWanted' hCopy
      obtain rfl : w = w' := Option.some.inj (hWanted.symm.trans hWanted')
      refine ⟨hCopy, fun hCompleted => ?_⟩
      rw [hJob.running] at hCompleted
      cases hCompleted
  · obtain rfl := hIs v'' hv''
    have hWanted : wanted hash s.cluster v resourceName = some w :=
      (hWantedSame resourceName).symm.trans hWanted
    refine SyncedBy.congr hNs hName ?_
    have hFrom := hEntries resourceName
    rw [hEntry] at hFrom
    generalize hEq : some (syncedEntry w) = entry at hFrom
    -- where the entry of the status comes from
    cases hFrom with
    | kept => exact h.sound v resourceName w hv hWanted hEq.symm
    | notSynced hNot =>
      rw [← hEq] at hNot
      cases hNot
    -- the pass has seen the Job complete, and the Job copies this build
    | @synced w' job hWanted' hAvailable hFound hCompleted =>
      obtain rfl : w = w' := Option.some.inj (hWanted.symm.trans hWanted')
      exact (h.jobs v resourceName w job hv hWanted hAvailable hFound).2 hCompleted

theorem copyInv_step {event : SyncEvent} (h : CopyInv hash ns name s)
    (hFits : ArtifactFits hash ns name s event) (hOwn : OwnCopies hash ns name s event) :
    CopyInv hash ns name (artifactStep ns name s event) := by
  cases event with
  | edit spec => exact copyInv_edit h hOwn
  | jobStatus uid status => exact copyInv_jobStatus h hOwn
  | elsewhere c =>
    exact copyInv_switch h hOwn fun v' hv' => ⟨v', hFits.1.symm.trans hv', rfl⟩
  | pass env own =>
    obtain rfl : env.buildInputsHash = hash := hFits
    cases hLookup : lookup .volume s.cluster ns name with
    | none =>
      have hSame : afterPass ns name env own s.cluster = s.cluster :=
        reconcile_none (s := ⟨worldOf s.cluster, own⟩) hLookup rfl
      have hStep : artifactStep ns name s (.pass env own) = s :=
        congrArg (fun c => { s with cluster := c }) hSame
      rw [hStep]
      exact h
    | some v =>
      obtain ⟨rfl, rfl⟩ := key_of_lookup hLookup
      exact copyInv_pass h hLookup
        (passed_reconcile env (s := ⟨worldOf s.cluster, own⟩) hLookup).2 (hOwn v hLookup)

end

/-- **A build that is recorded as synced is the one that was copied last**, in every run in
which every copy has a Job name of its own and no Job of an earlier build completes late. -/
theorem artifact_sync_sound (hash : StackResourceBuildSpec → String) (ns name : String)
    (s : ArtifactRun) (events : List SyncEvent) (hNew : NewArtifacts ns name s)
    (hFits : Runs.Admitted (artifactStep ns name) (ArtifactFits hash ns name) s events)
    (hOwn : Runs.Admitted (artifactStep ns name) (OwnCopies hash ns name) s events) :
    ArtifactSyncSound hash ns name (Runs.run (artifactStep ns name) s events) :=
  (Runs.run_admitted (I := CopyInv hash ns name)
    (fun _ _ hEvent h => copyInv_step h hEvent.1 hEvent.2)
    (Runs.admitted_and hFits hOwn) hNew.copyInv).sound

/-! ## Two resources at one revision -/

instance (hash : StackResourceBuildSpec → String) (c c' : Cluster) (v v' : Volume)
    (resourceName : String) (w : Wanted) : Decidable (FreeName hash c c' v v' resourceName w) :=
  inferInstanceAs (Decidable ((_ ∨ _ ≠ _) ∧ (_ → _ ∨ _)))

instance (hash : StackResourceBuildSpec → String) (ns name : String) (c c' : Cluster) :
    Decidable (Switches hash ns name c c') :=
  inferInstanceAs (Decidable (∀ v ∈ lookup .volume c ns name,
    ∀ v' ∈ lookup .volume c' ns name, ∀ a ∈ artifactsListed v',
    ∀ w ∈ wanted hash c' v' a.buildSource, FreeName hash c c' v v' a.buildSource w))

instance (hash : StackResourceBuildSpec → String) (ns name : String) (s : ArtifactRun)
    (event : SyncEvent) : Decidable (OwnCopies hash ns name s event) :=
  match event with
  | .edit spec =>
    inferInstanceAs (Decidable (Switches hash ns name s.cluster
      (editVolume ns name spec s.cluster)))
  | .pass _ _ => by unfold OwnCopies; infer_instance
  | .jobStatus _ _ => by unfold OwnCopies; infer_instance
  | .elsewhere c => inferInstanceAs (Decidable (Switches hash ns name s.cluster c))

def shopHash : StackResourceBuildSpec → String := fun _ => "0"

def shopEnv : Env := { quietEnv with buildInputsHash := shopHash }

def shopSpec (commit : String) : StackResourceBuildSpec where
  sourceRevision := { gitRepo := some { commit := commit } }
  repository := { repository := "shop" }

def shopResource (commit name : String) : StackResource where
  metadata := { name := name, ns := "shop" }
  spec := { buildSpec := some (shopSpec commit) }

def shopBuild (commit name image : String) : ImageBuild where
  metadata := { name := imageBuildName shopHash name (shopSpec commit), ns := "shop" }
  spec :=
    { resourceName := name
      sourceRevision := (shopSpec commit).sourceRevision
      buildContext := {}
      repository := (shopSpec commit).repository }
  status :=
    { conditions :=
        [{ type := .available, status := .conditionTrue, observedGeneration := 1
           reason := "BuildSucceeded", message := "" }]
      buildSourceRevision := commit
      imageUrl := image }

def assetsVolume (sources : List String) : Volume where
  metadata := { name := "assets", ns := "shop", uid := "uid-assets", generation := 1 }
  spec :=
    { source := some
        { buildArtifacts := some (sources.map fun name =>
            { buildSource := name, sourcePath := "/dist", destinationPath := name }) } }
  status := {}

def shopCluster (commit : String) (sources : List String) : Cluster where
  volumes := [assetsVolume sources]
  persistentVolumeClaims :=
    [{ metadata := { name := "assets", ns := "shop" }, spec := {}, status := () }]
  stackResources := [shopResource commit "api", shopResource commit "web"]
  imageBuilds :=
    [shopBuild commit "api" "registry.example/api:1",
      shopBuild commit "web" "registry.example/web:1"]

def shopRun (sources : List String) : ArtifactRun := { cluster := shopCluster "0a1b2c3d4e" sources }

theorem shopRun_new {sources : List String} : NewArtifacts "shop" "assets" (shopRun sources) := by
  refine ⟨rfl, fun v hv => ?_, fun _ h => absurd h List.not_mem_nil⟩
  obtain rfl : assetsVolume sources = v := Option.some.inj hv
  rfl

def firstCopy : List SyncEvent :=
  [.pass shopEnv (assetsVolume []), .jobStatus "uid-0" complete, .pass shopEnv (assetsVolume [])]

theorem firstCopy_fits {s : ArtifactRun} :
    Runs.Admitted (artifactStep "shop" "assets") (ArtifactFits shopHash "shop" "assets") s
      firstCopy := ⟨rfl, trivial, rfl, trivial⟩

theorem artifact_sync_sound_first :
    (∃ v ∈ lookup .volume (Runs.run (artifactStep "shop" "assets") (shopRun ["api"])
      firstCopy).cluster "shop" "assets", entryOf v.status "api" =
        some { buildID := "0a1b2c3", status := .completed }) ∧
      ArtifactSyncSound shopHash "shop" "assets"
        (Runs.run (artifactStep "shop" "assets") (shopRun ["api"]) firstCopy) :=
  ⟨by decide +kernel, artifact_sync_sound shopHash "shop" "assets" (shopRun ["api"]) firstCopy
    shopRun_new firstCopy_fits (by decide +kernel)⟩

/-- The Job that copied from `api` counts for `web`, of which nothing was copied: the Job's name
holds the revision of the build and not the resource. -/
theorem other_resources_job_counts :
    ¬ ∀ (hash : StackResourceBuildSpec → String) (ns name : String) (s : ArtifactRun)
      (events : List SyncEvent), NewArtifacts ns name s →
      Runs.Admitted (artifactStep ns name) (ArtifactFits hash ns name) s events →
      ArtifactSyncSound hash ns name (Runs.run (artifactStep ns name) s events) := by
  intro h
  have hRun := h shopHash "shop" "assets" (shopRun ["api", "web"]) firstCopy shopRun_new
    firstCopy_fits
  have hWeb : ∃ v ∈ lookup .volume (Runs.run (artifactStep "shop" "assets")
      (shopRun ["api", "web"]) firstCopy).cluster "shop" "assets",
      ∃ w ∈ wanted shopHash (Runs.run (artifactStep "shop" "assets") (shopRun ["api", "web"])
        firstCopy).cluster v "web", entryOf v.status "web" = some (syncedEntry w) := by
    decide +kernel
  have hNone : ∀ job ∈ (Runs.run (artifactStep "shop" "assets") (shopRun ["api", "web"])
      firstCopy).completed, resourceOf job ≠ some "web" := by decide +kernel
  obtain ⟨v, hv, w, hWanted, hEntry⟩ := hWeb
  obtain ⟨later, job, earlier, hSplit, hCopy, -⟩ := hRun v "web" w hv hWanted hEntry
  refine hNone job ?_ hCopy.label
  rw [hSplit]
  exact List.mem_append_right _ List.mem_cons_self

end ClusterAgent.VolumeController
