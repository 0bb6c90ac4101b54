import ClusterAgent.Volume.GitSync

/-!
# Cluster agent — what a pass over a volume does

For every resource that the volume's spec copies from, a pass looks up the build that
the resource asks for and, once it is available, the sync Job under a name made of the
volume's name and seven characters of the revision. It creates the Job if there is none
and records the build as synced if the Job is complete, whatever that Job copied.

* `wanted` — what a source is to be copied from in a cluster;
* `EntryFrom` — where a recorded entry comes from;
* `StartedJob` — the Jobs a pass creates;
* `ArtifactPass` — what a pass leaves behind, whatever API call fails;
* `BeforeGit`, `AfterGit` — what holds in the course of a pass, of both kinds of sources.

Main result: `passed_reconcile`.
-/

namespace ClusterAgent.VolumeController

open Pass Effect Session ObjectPass VolumeSync

/-! ## What is to be copied -/

def currentBuildOf (hash : StackResourceBuildSpec → String) (c : Cluster)
    (ns resourceName : String) : Option ImageBuild :=
  (StackResourceController.lookupResource c ns resourceName).bind fun resource =>
    resource.spec.buildSpec.bind fun buildSpec =>
      lookup .imageBuild c ns (imageBuildName hash resource.name buildSpec)

/-- What a source is copied from: its artifacts, the image of its build, the id that is recorded
for the build, and whether the build is available. -/
structure Wanted where
  artifacts : List BuildArtifactSource
  image : String
  buildID : String
  available : Bool
  deriving DecidableEq, Repr

def artifactsListed (v : Volume) : List BuildArtifactSource :=
  (v.spec.source.bind VolumeSource.buildArtifacts).getD []

def isArtifactSource (v : Volume) (resourceName : String) : Bool :=
  (artifactsListed v).any fun a => decide (a.buildSource = resourceName)

def wanted (hash : StackResourceBuildSpec → String) (c : Cluster) (v : Volume)
    (resourceName : String) : Option Wanted :=
  if isArtifactSource v resourceName then
    (currentBuildOf hash c v.metadata.ns resourceName).map fun build =>
      { artifacts := (artifactsListed v).filter fun a => decide (a.buildSource = resourceName)
        image := build.status.imageUrl
        buildID := shortBuildSrcRevisionFromStatus build
        available := buildAvailable build }
  else none

def entryOf (status : VolumeStatus) (resourceName : String) : Option BuildArtifactSyncInfo :=
  status.buildArtifactSyncs.lookup resourceName

theorem entryOf_set (resourceName buildID : String) (syncStatus : BuildArtifactSyncStatus)
    (status : VolumeStatus) (other : String) :
    entryOf (setBuildArtifactSyncStatus resourceName buildID syncStatus status) other =
      if other = resourceName then some { buildID := buildID, status := syncStatus }
      else entryOf status other := by
  unfold entryOf setBuildArtifactSyncStatus
  dsimp only
  rw [List.lookup_cons]
  by_cases hName : other = resourceName
  · simp [hName]
  · rw [if_neg hName, beq_eq_false_iff_ne.mpr hName]
    dsimp only
    induction status.buildArtifactSyncs with
    | nil => rfl
    | cons entry rest ih =>
      rw [List.filter_cons]
      split
      · rw [List.lookup_cons, List.lookup_cons, ih]
      · next hSame =>
        have hEntry : entry.1 = resourceName := by simpa using hSame
        rw [ih, List.lookup_cons, hEntry, beq_eq_false_iff_ne.mpr hName]

/-! ## What a pass leaves behind -/

def artifactJobIn (c : Cluster) (v : Volume) (buildID : String) : Option Job :=
  lookup .job c v.metadata.ns (artifactSyncJobName v.name buildID)

/-- An entry after a pass is the one before, or does not say that a build is synced, or says so
of the current build because the Job under its name is complete. -/
inductive EntryFrom (hash : StackResourceBuildSpec → String) (v : Volume) (c : Cluster)
    (resourceName : String) : Option BuildArtifactSyncInfo → Prop
  | kept : EntryFrom hash v c resourceName (entryOf v.status resourceName)
  | notSynced {entry : Option BuildArtifactSyncInfo}
      (h : entry.any BuildArtifactSyncInfo.completed = false) :
      EntryFrom hash v c resourceName entry
  | synced {w : Wanted} {job : Job} (hWanted : wanted hash c v resourceName = some w)
      (hAvailable : w.available = true)
      (hFound : artifactJobIn c v w.buildID = some job) (hCompleted : jobCompleted job = true) :
      EntryFrom hash v c resourceName (some { buildID := w.buildID, status := .completed })

/-- The Job copies what is wanted of a resource into the volume. -/
structure CopyJob (v : Volume) (resourceName : String) (w : Wanted) (job : Job) : Prop where
  ns : job.metadata.ns = v.metadata.ns
  name : job.metadata.name = artifactSyncJobName v.name w.buildID
  label : job.metadata.labels.get? resourceNameLabel = some resourceName
  containers : job.spec.template.spec.containers = [copyContainer v.name w.artifacts w.image]

structure StartedJob (hash : StackResourceBuildSpec → String) (v : Volume) (c : Cluster)
    (job : Job) : Prop where
  running : jobCompleted job = false
  copies : (∀ buildID, job.metadata.name ≠ artifactSyncJobName v.name buildID) ∨
    ∃ resourceName w, wanted hash c v resourceName = some w ∧ w.available = true ∧
      CopyJob v resourceName w job

/-- What a pass over the volume leaves behind: every entry of the status is the old one, says that
the build is not synced, or stands on a complete Job; the new Jobs copy available builds or fetch
the git source; and what the builds are looked up in is not written. -/
structure ArtifactPass (hash : StackResourceBuildSpec → String) (v : Volume) (c c' : Cluster) :
    Prop where
  volume : ∃ v', lookup .volume c' v.metadata.ns v.metadata.name = some v' ∧
    v'.metadata = v.metadata ∧ v'.spec = v.spec ∧
    ∀ resourceName, EntryFrom hash v c resourceName (entryOf v'.status resourceName)
  jobs : ∃ new, c'.jobs = c.jobs ++ new ∧ ∀ job ∈ new, StartedJob hash v c job
  resources : c'.stackResources = c.stackResources
  builds : c'.imageBuilds = c.imageBuilds

def StartedCopy (hash : StackResourceBuildSpec → String) (v : Volume) (c : Cluster) (job : Job) :
    Prop :=
  ArtifactJob v.name job ∧ StartedJob hash v c job

structure BeforeGit (hash : StackResourceBuildSpec → String) (v : Volume) (c : Cluster)
    (s : Session Volume) : Prop where
  progress : Progress v s.own
  git : gitState s.own = gitState v
  entries : ∀ resourceName, EntryFrom hash v c resourceName (entryOf s.own.status resourceName)
  volumes : s.world.cluster.volumes = c.volumes
  resources : s.world.cluster.stackResources = c.stackResources
  builds : s.world.cluster.imageBuilds = c.imageBuilds
  jobs : ∃ new, s.world.cluster.jobs = c.jobs ++ new ∧ ∀ job ∈ new, StartedCopy hash v c job

structure AfterGit (env : Env) (v : Volume) (c : Cluster) (s : Session Volume) : Prop where
  progress : Progress v s.own
  entries : ∀ resourceName,
    EntryFrom env.buildInputsHash v c resourceName (entryOf s.own.status resourceName)
  resources : s.world.cluster.stackResources = c.stackResources
  builds : s.world.cluster.imageBuilds = c.imageBuilds
  stored : ∃ v' artifacts new,
    (lookup .volume s.world.cluster v.metadata.ns v.metadata.name = some v' ∧ Progress v v' ∧
      ∀ resourceName, EntryFrom env.buildInputsHash v c resourceName
        (entryOf v'.status resourceName)) ∧
    s.world.cluster.jobs = c.jobs ++ artifacts ++ new ∧
    (∀ job ∈ artifacts, StartedCopy env.buildInputsHash v c job) ∧
    GitOutcome env.gitRevisionHash v c new (gitState s.own) ∧
    GitOutcome env.gitRevisionHash v c new (gitState v')

variable {hash : StackResourceBuildSpec → String} {s s' : Session Volume} {resourceName : String}
  {build : ImageBuild} {source : VolumeSource} {v : Volume} {c : Cluster}

theorem BeforeGit.start (v : Volume) (w : World) : BeforeGit hash v w.cluster ⟨w, v⟩ where
  progress := .refl v
  git := rfl
  entries _ := .kept
  volumes := rfl
  resources := rfl
  builds := rfl
  jobs := ⟨[], (List.append_nil _).symm, fun _ h => absurd h List.not_mem_nil⟩

theorem BeforeGit.name (h : BeforeGit hash v c s) : s.own.name = v.name :=
  congrArg ObjectMeta.name h.progress.metadata

theorem BeforeGit.touched {fp : Footprint} {J : List Job} (h : BeforeGit hash v c s)
    (hTouches : Touches fp s.world s'.world)
    (hKinds : ObjectKind.volume ∉ fp.objects ∧ ObjectKind.imageBuild ∉ fp.objects)
    (hJobs : s'.world.cluster.jobs = s.world.cluster.jobs ++ J)
    (hNew : ∀ job ∈ J, StartedCopy hash v c job) (hOwn : s'.own = s.own) :
    BeforeGit hash v c s' := by
  obtain ⟨old, hOldJobs, hOld⟩ := h.jobs
  have hVolumes : s'.world.cluster.volumes = s.world.cluster.volumes :=
    hTouches.objects .volume hKinds.1
  have hBuilds : s'.world.cluster.imageBuilds = s.world.cluster.imageBuilds :=
    hTouches.objects .imageBuild hKinds.2
  refine
    { progress := hOwn ▸ h.progress
      git := hOwn ▸ h.git
      entries := hOwn ▸ h.entries
      volumes := hVolumes.trans h.volumes
      resources := hTouches.stackResources.trans h.resources
      builds := hBuilds.trans h.builds
      jobs := ⟨old ++ J, ?_, fun job hJob => (List.mem_append.mp hJob).elim (hOld job) (hNew job)⟩ }
  rw [hJobs, hOldJobs, List.append_assoc]

theorem BeforeGit.kept (h : BeforeGit hash v c s)
    (hTouches : Touches { objects := [.persistentVolumeClaim] } s.world s'.world)
    (hOwn : s'.own = s.own) : BeforeGit hash v c s' := by
  have hJobs : s'.world.cluster.jobs = s.world.cluster.jobs := hTouches.objects .job (by decide)
  exact h.touched (J := []) hTouches (by decide) (hJobs.trans (List.append_nil _).symm)
    (fun _ h => absurd h List.not_mem_nil) hOwn

theorem BeforeGit.read {w : World} (h : BeforeGit hash v c s) (hReads : Reads s.world w) :
    BeforeGit hash v c { s with world := w } := h.kept hReads.touches rfl

theorem before_onCluster {α : Type} {m : Pass α}
    (h : Has { objects := [.persistentVolumeClaim] } m) :
    Ensures (BeforeGit hash v c) (onCluster m) (BeforeGit hash v c) :=
  (within_onCluster h).triple fun _ _ hStep hs => hs.kept hStep.1 hStep.2

theorem before_reads {α : Type} {m : Pass α} (h : ReadsOnly m) :
    Ensures (BeforeGit hash v c) (onCluster m) (BeforeGit hash v c) :=
  before_onCluster (Has.of_reads h)

theorem BeforeGit.modify {f : VolumeStatus → VolumeStatus} (h : BeforeGit hash v c s)
    (hProgress : Progress s.own { s.own with status := f s.own.status })
    (hGit : gitState { s.own with status := f s.own.status } = gitState s.own)
    (hEntries : ∀ resourceName, EntryFrom hash v c resourceName
      (entryOf (f s.own.status) resourceName)) :
    BeforeGit hash v c { s with own := { s.own with status := f s.own.status } } :=
  { h with
    progress := h.progress.trans hProgress
    git := hGit.trans h.git
    entries := hEntries }

theorem BeforeGit.status {f : VolumeStatus → VolumeStatus} (h : BeforeGit hash v c s)
    (hProgress : Progress s.own { s.own with status := f s.own.status })
    (hGit : gitState { s.own with status := f s.own.status } = gitState s.own)
    (hEntries : (f s.own.status).buildArtifactSyncs = s.own.status.buildArtifactSyncs) :
    Ensures (· = s) (modifyStatus f) (BeforeGit hash v c) := by
  refine .modify ?_
  rintro s rfl
  refine h.modify hProgress hGit fun r => ?_
  unfold entryOf
  rw [hEntries]
  exact h.entries r

theorem BeforeGit.create (env : Env) {job : Job} (h : BeforeGit hash v c s)
    (hJob : ∀ stored, AsCreated job stored → StartedCopy hash v c stored) :
    Ensures (· = s) (onCluster (create env .job job)) (BeforeGit hash v c) := by
  refine (createJob_spec job s).conseq (fun stored s' hs' => ?_) fun s' hs' => ?_
  · obtain ⟨-, hAppend, hCreated, hTouches, hOwn⟩ := hs'
    refine h.touched hTouches (by decide) hAppend (fun job' hJob' => ?_) hOwn
    obtain rfl := List.mem_singleton.mp hJob'
    exact hJob job' hCreated
  · exact
      { h with
        progress := hs'.2 ▸ h.progress
        git := hs'.2 ▸ h.git
        entries := hs'.2 ▸ h.entries
        volumes := by rw [hs'.1]; exact h.volumes
        resources := by rw [hs'.1]; exact h.resources
        builds := by rw [hs'.1]; exact h.builds
        jobs := by rw [hs'.1]; exact h.jobs }

/-! ## The steps before the git source -/

section

variable (env : Env)

/-- Every step before the git source keeps what was done so far. -/
abbrev Syncs {α : Type} (v : Volume) (c : Cluster) (m : VolumePass α) : Prop :=
  Ensures (BeforeGit env.buildInputsHash v c) m (BeforeGit env.buildInputsHash v c)

theorem syncs_reportVolumeProvisioned : Syncs env v c (reportVolumeProvisioned env) := by
  refine .of_each fun s hs => bind_getOwn (hs.status ?_ ?_ rfl)
  · exact .of_status (fun _ => rfl) (conditionOf_setCondition_other (by decide)) rfl
  · exact congrArg (·, s.own.status.lastSyncedGitReference)
      (conditionOf_setCondition_other (by decide))

theorem syncs_reconcilePVC : Syncs env v c (reconcilePVC env) := by
  refine .of_each fun s hs => bind_getOwn (.pre ?_ fun _ h => h ▸ hs)
  split
  · exact .fail
  · refine .bind (before_reads (reads_controlledBy).attempt) fun ref => ?_
    cases ref with
    | error e => exact .fail
    | ok desired =>
      refine .bind (before_reads reads_getObject) fun existing => ?_
      cases existing with
      | none =>
        exact .bind (before_onCluster (has_create List.mem_cons_self)) fun _ => .skip
      | some _ => exact syncs_reportVolumeProvisioned env

theorem syncs_reconcileLocalVolumeSource (hSource : v.spec.source = some source) :
    Syncs env v c (reconcileLocalVolumeSource env source) := by
  unfold reconcileLocalVolumeSource
  split
  · exact .skip
  · next dir hDir =>
    refine .of_each fun s hs => bind_getOwn ?_
    split
    · refine .bind (hs.status (progress_remoteDir ?_ hDir) ?_ rfl) fun _ => .skip
      · rw [hs.progress.spec]
        exact hSource
      · exact congrArg (·, s.own.status.lastSyncedGitReference)
          (conditionOf_setCondition_other (by decide))
    · exact .ret hs

def CurrentBuilds (hash : StackResourceBuildSpec → String) (v : Volume) (c : Cluster)
    (builds : List (String × ImageBuild)) : Prop :=
  ∀ resourceName build, builds.lookup resourceName = some build →
    currentBuildOf hash c v.metadata.ns resourceName = some build

theorem CurrentBuilds.cons {builds : List (String × ImageBuild)}
    (h : CurrentBuilds hash v c builds)
    (hBuild : currentBuildOf hash c v.metadata.ns resourceName = some build) :
    CurrentBuilds hash v c ((resourceName, build) :: builds) := by
  intro other build' hLookup
  rw [List.lookup_cons] at hLookup
  by_cases hName : other = resourceName
  · obtain rfl := hName
    rw [beq_self_eq_true] at hLookup
    exact hLookup ▸ hBuild
  · rw [beq_eq_false_iff_ne.mpr hName] at hLookup
    exact h other build' hLookup

theorem attempt_getStackResource (ns name : String) (w : World) :
    Achieves (· = w) (attempt (getStackResource env ns name))
      (fun r w' => Reads w w' ∧
        ∀ found, r = .ok found → found = StackResourceController.lookupResource w.cluster ns
          name) := by
  have hGet : Triple (· = w) (getStackResource env ns name)
      (fun found w' => Reads w w' ∧
        found = StackResourceController.lookupResource w.cluster ns name) (Reads w) := by
    refine .bind (call_spec w) fun _ => ?_
    rintro _ rfl
    dsimp only [bind, EStateM.bind, get, getThe, MonadStateOf.get, EStateM.get, pure, EStateM.pure]
    exact ⟨⟨_, rfl⟩, rfl⟩
  refine hGet.attempt.post fun r w' h => ?_
  cases r with
  | error e =>
    refine ⟨h, fun _ hFound => ?_⟩
    cases hFound
  | ok found =>
    refine ⟨h.1, fun _ hFound => ?_⟩
    obtain rfl := Except.ok.inj hFound
    exact h.2

theorem syncs_getImageBuilds (artifacts : List BuildArtifactSource)
    (res : List (String × ImageBuild)) (hRes : CurrentBuilds env.buildInputsHash v c res) :
    Triple (BeforeGit env.buildInputsHash v c) (getImageBuildsForResources env artifacts res)
      (fun found s => BeforeGit env.buildInputsHash v c s ∧
        ∀ builds, found = some builds → CurrentBuilds env.buildInputsHash v c builds)
      (BeforeGit env.buildInputsHash v c) := by
  -- over the artifacts; the builds found so far are all current
  induction artifacts generalizing res with
  | nil => exact .pure fun _ h => ⟨h, fun _ hBuilds => Option.some.inj hBuilds ▸ hRes⟩
  | cons artifact rest ih =>
    unfold getImageBuildsForResources
    refine .of_each fun s hs => bind_getOwn ?_
    refine .bind ((onCluster_spec (attempt_getStackResource env s.own.metadata.ns
      artifact.buildSource s.world) s.own).onError
      fun _ h => h.1.elim) fun found => .of_each ?_
    rintro ⟨w1, own⟩ ⟨⟨hReads, hFound⟩, rfl⟩
    have hs1 := hs.read hReads
    -- the resource may be unreadable, not there yet, or without a build
    split
    · exact .err hs1
    · exact .pure fun _ h => ⟨h ▸ hs1, nofun⟩
    · next resource =>
      split
      · exact .err hs1
      · next buildSpec hSpec =>
        have hResource : StackResourceController.lookupResource c v.metadata.ns
            artifact.buildSource = some resource := by
          refine Eq.trans ?_ (hFound _ rfl).symm
          rw [hs.progress.metadata]
          exact congrArg (List.find? _) hs.resources.symm
        refine bind_attempt_getObject (fun e w2 hw2 => ?_) fun w2 hw2 => ?_
        · exact .err (hs1.read hw2)
        · have hs2 := hs1.read hw2
          -- likewise the build it names
          split
          · next hCase => cases hCase
          · exact .pure fun _ h => ⟨h ▸ hs2, nofun⟩
          · next imageBuild hBuild =>
            -- what was found in this state is what the cluster held at the start
            have hCurrent : currentBuildOf env.buildInputsHash c v.metadata.ns
                artifact.buildSource = some imageBuild := by
              have hSame : Kind.imageBuild.get w1.cluster = Kind.imageBuild.get c := hs1.builds
              unfold currentBuildOf
              rw [hResource, Option.bind_some, hSpec, Option.bind_some, ← lookup_congr hSame,
                ← hs.progress.metadata]
              exact Except.ok.inj hBuild
            exact (ih _ (hRes.cons hCurrent)).start hs2

theorem syncs_setEntry {buildID : String} {syncStatus : BuildArtifactSyncStatus}
    (hEntry : EntryFrom env.buildInputsHash v c resourceName
      (some { buildID := buildID, status := syncStatus })) :
    Syncs env v c (modifyStatus (setBuildArtifactSyncStatus resourceName buildID syncStatus)) := by
  refine .modify fun s h => h.modify (.of_status id rfl rfl) rfl fun other => ?_
  rw [entryOf_set]
  split
  · next hName => exact hName ▸ hEntry
  · exact h.entries other

theorem syncs_reportBuildNotSynced {resourceName : String} {imageBuild : ImageBuild} :
    Syncs env v c (reportBuildNotSynced resourceName imageBuild) := by
  refine syncs_setEntry env (.notSynced ?_)
  split
  · rfl
  · rfl

theorem BeforeGit.artifactJob {job : Job} (h : BeforeGit hash v c s)
    {buildID : String} (hJob : artifactJobIn s.world.cluster v buildID = some job)
    (hCompleted : jobCompleted job = true) :
    artifactJobIn c v buildID = some job := by
  obtain ⟨new, hJobs, hNew⟩ := h.jobs
  have hFind : artifactJobIn s.world.cluster v buildID =
      (artifactJobIn c v buildID).or (new.find? (hasKey v.metadata.ns
        (artifactSyncJobName v.name buildID))) :=
    (congrArg (List.find? _) hJobs).trans List.find?_append
  cases hBefore : artifactJobIn c v buildID with
  | some old =>
    rw [hBefore, Option.some_or] at hFind
    exact hFind.symm.trans hJob
  | none =>
    rw [hBefore, Option.none_or] at hFind
    have hMem := List.mem_of_find?_eq_some (hFind.symm.trans hJob)
    rw [(hNew job hMem).2.running] at hCompleted
    cases hCompleted

theorem wanted_eq (hSource : v.spec.source = some source)
    (hListed : isArtifactSource v resourceName = true)
    (hBuild : currentBuildOf hash c v.metadata.ns resourceName = some build) :
    wanted hash c v resourceName =
      some
        { artifacts := artifactsOf source resourceName
          image := build.status.imageUrl
          buildID := shortBuildSrcRevisionFromStatus build
          available := buildAvailable build } := by
  unfold wanted artifactsListed
  rw [if_pos hListed, hBuild, hSource]
  rfl

theorem ns_of_currentBuild {ns : String} (h : currentBuildOf hash c ns resourceName = some build) :
    build.metadata.ns = ns := by
  obtain ⟨resource, -, hRest⟩ := Option.bind_eq_some_iff.mp h
  obtain ⟨buildSpec, -, hLookup⟩ := Option.bind_eq_some_iff.mp hRest
  exact (key_of_lookup hLookup).1

theorem syncs_forResource (hSource : v.spec.source = some source)
    (hListed : isArtifactSource v resourceName = true)
    (hBuild : currentBuildOf env.buildInputsHash c v.metadata.ns resourceName = some build) :
    Syncs env v c (reconcileBuildArtifactsSrcsForResource env resourceName build
      (artifactsOf source resourceName)) := by
  unfold reconcileBuildArtifactsSrcsForResource
  -- a build that is not available is reported as not synced
  split
  · next hAvailable =>
    have hWanted := wanted_eq hSource hListed hBuild
    refine .of_each fun s hs => bind_getOwn (bind_controlledBy hs fun refs => ?_)
    have hName := hs.name
    have hNs := ns_of_currentBuild hBuild
    refine bind_attempt_getObject (fun e w hw => ?_) fun w hw => ?_
    · exact .err (hs.read hw)
    · have hs1 := hs.read hw
      have hLookup : lookup .job s.world.cluster build.metadata.ns
          (artifactSyncJobName s.own.name (shortBuildSrcRevisionFromStatus build)) =
            artifactJobIn s.world.cluster v (shortBuildSrcRevisionFromStatus build) := by
        unfold artifactJobIn
        rw [hName, hNs]
      -- an unreadable Job, none yet, one there
      split
      · next hCase => cases hCase
      -- the new Job: its name, that it is running, what it copies and from where
      · refine .bind (hs1.create env fun stored hCreated => ?_) fun _ => .skip
        have hJobName : stored.metadata.name =
            artifactSyncJobName v.name (shortBuildSrcRevisionFromStatus build) := by
          rw [← hName]
          exact hCreated.name
        refine ⟨⟨⟨_, hJobName⟩, ?_⟩, ?_, Or.inr ⟨resourceName, _, hWanted, hAvailable, ?_, hJobName,
          ?_, ?_⟩⟩
        · unfold isGitSync
          rw [hCreated.spec]
          rfl
        · unfold jobCompleted
          rw [hCreated.status]
          rfl
        · exact hCreated.ns.trans hNs
        · rw [hCreated.labels]
          exact List.lookup_cons_self
        · rw [hCreated.spec, ← hName]
          rfl
      · next existingJob hCase =>
        split
        · next hCompleted =>
          have hFound := hs.artifactJob (hLookup.symm.trans (Except.ok.inj hCase)) hCompleted
          exact (syncs_setEntry env (.synced hWanted hAvailable hFound hCompleted)).pre
            fun _ h => h ▸ hs1
        · exact (syncs_reportBuildNotSynced env).start hs1
  · exact syncs_reportBuildNotSynced env

theorem syncs_eachResource (hSource : v.spec.source = some source)
    {builds : List (String × ImageBuild)} (hBuilds : CurrentBuilds env.buildInputsHash v c builds)
    {resourceRefs : List String}
    (hListed : ∀ resourceRef ∈ resourceRefs, isArtifactSource v resourceRef = true) :
    Syncs env v c (reconcileEachResource env source builds resourceRefs) := by
  induction resourceRefs with
  | nil => exact .skip
  | cons resourceRef rest ih =>
    unfold reconcileEachResource
    split
    · exact .fail
    · next build hBuild =>
      exact .bind (syncs_forResource env hSource (hListed _ List.mem_cons_self)
        (hBuilds _ _ hBuild)) fun _ => ih fun r hr => hListed r (List.mem_cons_of_mem _ hr)

theorem syncs_reconcileBuildArtifactsSources (hSource : v.spec.source = some source) :
    Syncs env v c (reconcileBuildArtifactsSources env source) := by
  unfold reconcileBuildArtifactsSources
  split
  · exact .skip
  · next artifacts hArtifacts =>
    have hListed : ∀ r ∈ env.nameOrder (artifacts.map BuildArtifactSource.buildSource).dedup,
        isArtifactSource v r = true := by
      intro r hr
      have hr := List.mem_dedup.mp ((env.nameOrder_perm _).mem_iff.mp hr)
      obtain ⟨a, ha, hName⟩ := List.mem_map.mp hr
      unfold isArtifactSource artifactsListed
      rw [hSource, Option.bind_some, hArtifacts]
      exact List.any_eq_true.mpr ⟨a, ha, decide_eq_true hName⟩
    have hNone : CurrentBuilds env.buildInputsHash v c [] := by
      intro _ _ hLookup
      cases hLookup
    refine .bind (syncs_getImageBuilds env artifacts [] hNone) fun found => ?_
    cases found with
    | none => exact .pure fun _ h => h.1
    | some builds =>
      refine .of_each fun s hs => .bind ((syncs_eachResource env hSource
        (hs.2 builds rfl) hListed).start hs.1) fun _ => .skip

/-! ## The git source -/

variable {env} {git : VolumeGitRepoSource} {job : Job}

theorem GitJob.started (h : GitJob env.gitRevisionHash v git job) :
    StartedJob env.buildInputsHash v c job := by
  refine ⟨?_, Or.inl fun buildID hSame => ?_⟩
  · unfold jobCompleted
    rw [h.new]
    rfl
  · rw [h.name] at hSame
    exact artifactSyncJobName_ne env.gitRevisionHash v.name buildID _ hSame.symm

theorem AfterGit.passed (h : AfterGit env v c s) :
    GitPass env.gitRevisionHash v c s.world.cluster ∧
      ArtifactPass env.buildInputsHash v c s.world.cluster := by
  obtain ⟨v', artifacts, new, ⟨hStored, hProgress, hEntries⟩, hJobs, hArtifacts, -, hOutcome⟩ :=
    h.stored
  refine ⟨⟨v', artifacts, new, hStored, hProgress, hJobs, fun job hJob => (hArtifacts job hJob).1,
    hOutcome⟩, ⟨v', hStored, hProgress.metadata, hProgress.spec, hEntries⟩, ⟨artifacts ++ new, ?_,
    fun job hJob => ?_⟩, h.resources, h.builds⟩
  · rw [hJobs, List.append_assoc]
  · rcases List.mem_append.mp hJob with hArtifact | hGit
    · exact (hArtifacts job hArtifact).2
    · generalize gitState v' = state at hOutcome
      cases hOutcome with
      | kept => cases hGit
      | started _ _ hMade =>
        obtain rfl := List.mem_singleton.mp hGit
        exact hMade.started
      | reported => cases hGit

theorem BeforeGit.after {fp : Footprint} {J : List Job}
    (hStored : lookup .volume c v.metadata.ns v.metadata.name = some v)
    (h : BeforeGit env.buildInputsHash v c s) (hTouches : Touches fp s.world s'.world)
    (hKinds : ObjectKind.volume ∉ fp.objects ∧ ObjectKind.imageBuild ∉ fp.objects)
    (hJobs : s'.world.cluster.jobs = s.world.cluster.jobs ++ J)
    (hProgress : Progress s.own s'.own)
    (hEntries : s'.own.status.buildArtifactSyncs = s.own.status.buildArtifactSyncs)
    (hOwn : GitOutcome env.gitRevisionHash v c J (gitState s'.own))
    (hOutcome : GitOutcome env.gitRevisionHash v c J (gitState v)) : AfterGit env v c s' := by
  obtain ⟨artifacts, hBefore, hArtifacts⟩ := h.jobs
  have hSame : s'.world.cluster.volumes = s.world.cluster.volumes :=
    hTouches.objects .volume hKinds.1
  have hVolumes : Kind.volume.get s'.world.cluster = Kind.volume.get c := hSame.trans h.volumes
  have hBuilds : s'.world.cluster.imageBuilds = s.world.cluster.imageBuilds :=
    hTouches.objects .imageBuild hKinds.2
  refine ⟨h.progress.trans hProgress, fun r => ?_, hTouches.stackResources.trans h.resources,
    hBuilds.trans h.builds, v, artifacts, J,
    ⟨(lookup_congr hVolumes).trans hStored, .refl v, fun _ => .kept⟩, ?_, hArtifacts, hOwn,
    hOutcome⟩
  · unfold entryOf
    rw [hEntries]
    exact h.entries r
  · rw [hJobs, hBefore]

theorem BeforeGit.ends (hStored : lookup .volume c v.metadata.ns v.metadata.name = some v)
    (h : BeforeGit env.buildInputsHash v c s) : AfterGit env v c s :=
  h.after (J := []) hStored (Touches.refl {} _) (by decide) (List.append_nil _).symm (.refl _) rfl
    (h.git ▸ .kept) .kept

theorem AfterGit.store (h : AfterGit env v c s) :
    Ensures (· = s) (onCluster (storeStatus env .volume storedStatus s.own))
      (AfterGit env v c) := by
  obtain ⟨v', artifacts, new, ⟨hStored, hProgress, hEntries⟩, hJobs, hArtifacts, hOwn, hOutcome⟩ :=
    h.stored
  have hHas : Has { objects := [.volume] } (storeStatus env .volume storedStatus s.own) :=
    has_storeStatus List.mem_cons_self
  refine ((storeVolume_spec s).and
    ((within_onCluster hHas).leads s)).conseq (fun _ s' hs' => ?_) fun s' hs' => ?_
  -- the write replaces the stored Volume by the one in hand, whose key and spec are its
  · obtain ⟨⟨hSame, hSameJobs, hLookup⟩, hTouches, -⟩ := hs'
    have hIs : { v' with status := storedStatus s.own.status } =
        { s.own with status := storedStatus s.own.status } := by
      dsimp only
      rw [hProgress.metadata, hProgress.spec, h.progress.metadata, h.progress.spec]
    have hBuilds : s'.world.cluster.imageBuilds = s.world.cluster.imageBuilds :=
      hTouches.objects .imageBuild (by decide)
    rw [h.progress.metadata, hStored, Option.map_some, hIs] at hLookup
    refine ⟨hSame ▸ h.progress, hSame ▸ h.entries, hTouches.stackResources.trans h.resources,
      hBuilds.trans h.builds, _, artifacts, new,
      ⟨hLookup, h.progress.trans progress_stored, h.entries⟩, hSameJobs.trans hJobs, hArtifacts,
      hSame ▸ hOwn, ?_⟩
    rw [gitState_stored]
    exact hOwn
  -- a lost write leaves the cluster and the Volume in hand
  · obtain ⟨⟨hCluster, hSame⟩, -⟩ := hs'
    refine ⟨hSame ▸ h.progress, hSame ▸ h.entries, hCluster ▸ h.resources, hCluster ▸ h.builds, v',
      artifacts, new, ⟨hCluster ▸ hStored, hProgress, hEntries⟩, hCluster ▸ hJobs, hArtifacts,
      hSame ▸ hOwn, hOutcome⟩

theorem AfterGit.modify {f : VolumeStatus → VolumeStatus} (h : AfterGit env v c s)
    (hProgress : Progress s.own { s.own with status := f s.own.status })
    (hGit : gitState { s.own with status := f s.own.status } = gitState s.own)
    (hEntries : (f s.own.status).buildArtifactSyncs = s.own.status.buildArtifactSyncs) :
    AfterGit env v c { s with own := { s.own with status := f s.own.status } } := by
  obtain ⟨v', artifacts, new, hStored, hJobs, hArtifacts, hOwn, hOutcome⟩ := h.stored
  refine ⟨h.progress.trans hProgress, fun r => ?_, h.resources, h.builds, v', artifacts, new,
    hStored,
    hJobs, hArtifacts, hGit ▸ hOwn, hOutcome⟩
  unfold entryOf
  rw [hEntries]
  exact h.entries r

variable (env)

theorem after_reconcileGitSource
    (hStored : lookup .volume c v.metadata.ns v.metadata.name = some v)
    (hSource : v.spec.source = some source) :
    Ensures (BeforeGit env.buildInputsHash v c) (reconcileGitSource env source)
      (AfterGit env v c) := by
  unfold reconcileGitSource
  -- no Git source, or one already at the wanted revision: nothing to do
  split
  · exact .pure fun _ h => h.ends hStored
  · next git hRepo =>
    have hGit : gitSourceOf v = some git := by
      unfold gitSourceOf
      rw [hSource]
      exact hRepo
    refine .of_each fun s hs => bind_getOwn ?_
    split
    · exact .ret (hs.ends hStored)
    · refine desiredGitSyncJob_spec (hs.ends hStored) fun job hMade => ?_
      have hJob : GitJob env.gitRevisionHash v git job :=
        hMade.congr hs.progress.metadata.symm (.refl job)
      obtain ⟨artifacts, hJobs, hArtifacts⟩ := hs.jobs
      -- the Jobs of the artifacts have other names
      have hLookup : lookup .job s.world.cluster job.metadata.ns job.metadata.name =
          gitJobIn env.gitRevisionHash c v git := by
        rw [← gitJobIn_append hJobs fun job hJob => (hArtifacts job hJob).1]
        unfold gitJobIn
        rw [hJob.ns, hJob.name]
      refine bind_attempt_getObject (fun e w1 hw1 => ?_) fun w1 hw1 => ?_
      · exact .throw fun _ h => h ▸ (hs.read hw1).ends hStored
      · have hs1 := hs.read hw1
        rw [hLookup]
        -- none yet: the Job is created, and only its being there has changed
        cases hFound : gitJobIn env.gitRevisionHash c v git with
        | none =>
          refine .bind ((createJob_spec job { s with world := w1 }).conseq
            (fun stored s' h => ?_) fun s' h => ?_) fun _ => .skip
          · obtain ⟨-, hAppend, hSame, hTouches, hOwn⟩ := h
            have hStarted := GitOutcome.started hGit hFound (hJob.congr rfl hSame.toSameContent)
            refine hs1.after hStored hTouches (by decide) hAppend ?_ (by rw [hOwn]) ?_ hStarted
            · exact hOwn ▸ .refl _
            · rw [hOwn, hs.git]
              exact hStarted
          · obtain ⟨hCluster, hOwn⟩ := h
            obtain ⟨w', own⟩ := s'
            obtain rfl : own = s.own := hOwn
            exact { hs1.ends hStored with
              resources := hCluster ▸ hs1.resources
              builds := hCluster ▸ hs1.builds
              stored := hCluster ▸ (hs1.ends hStored).stored }
        -- the Job there is reported, and the report is stored
        | some existingJob =>
          refine bind_modifyOwn (bind_getOwn ?_)
          have hReported : AfterGit env v c
              { s with
                world := w1
                own.status := reportGitSync env s.own git existingJob s.own.status } := by
            refine hs1.after (J := []) hStored (Touches.refl {} _) (by decide)
              (List.append_nil _).symm progress_report ?_ ?_ .kept
            · unfold reportGitSync
              split <;> rfl
            · rw [gitState_report git existingJob hs.progress.metadata hs.git]
              exact .reported hGit hFound
          refine .bind hReported.store fun _ => ?_
          refine .of_each fun s2 hs2 => bind_modifyOwn (.ret ?_)
          exact hs2.modify progress_stored (gitState_stored _) rfl

theorem after_reconcileVolumeSource
    (hStored : lookup .volume c v.metadata.ns v.metadata.name = some v) :
    Ensures (BeforeGit env.buildInputsHash v c) (reconcileVolumeSource env)
      (AfterGit env v c) := by
  refine .of_each fun s hs => bind_getOwn ?_
  split
  · exact .ret (hs.ends hStored)
  · next source hSource =>
    have hSource : v.spec.source = some source := hs.progress.spec ▸ hSource
    -- a step of the chain that ends the pass leaves it where it is
    have hNext : ∀ {step : VolumePass StepResult}, Syncs env v c step →
        Triple (BeforeGit env.buildInputsHash v c) step
          (fun r s => if r = .nil then BeforeGit env.buildInputsHash v c s
            else AfterGit env v c s) (AfterGit env v c) := by
      refine fun h => h.conseq (fun r s hs => ?_) fun _ hs => hs.ends hStored
      split
      · exact hs
      · exact hs.ends hStored
    have hChain : Ensures (BeforeGit env.buildInputsHash v c) (runChain (subReconcilers env source))
        (AfterGit env v c) := by
      refine triple_runChain_cons (hNext (syncs_reconcileLocalVolumeSource env hSource))
        (triple_runChain_cons (hNext (syncs_reconcileBuildArtifactsSources env hSource)) ?_)
      exact triple_runChain_keep (after_reconcileGitSource env hStored hSource) .skip
    exact .bind (hChain.start hs) fun _ => .skip

/-- **A pass over a volume**, whatever API call fails. It creates a git sync Job only where it
finds none, and says of the git source only what the Job it finds tells; it creates a sync Job
for an artifact source only where it finds none, and records a build as synced only if the Job
under its name is complete. -/
theorem passed_reconcile
    (hStored : lookup .volume s.world.cluster v.metadata.ns v.metadata.name = some v) :
    GitPass env.gitRevisionHash v s.world.cluster
        (finalState (reconcile env v.metadata.ns v.metadata.name s)).world.cluster ∧
      ArtifactPass env.buildInputsHash v s.world.cluster
        (finalState (reconcile env v.metadata.ns v.metadata.name s)).world.cluster := by
  let w1 : World := { s.world with calls := s.world.calls + 1 }
  have hStart : BeforeGit env.buildInputsHash v s.world.cluster ⟨w1, v⟩ := .start v w1
  refine Triple.reached (P := (· = s))
    (I := fun s' => GitPass env.gitRevisionHash v s.world.cluster s'.world.cluster ∧
      ArtifactPass env.buildInputsHash v s.world.cluster s'.world.cluster) ?_ rfl
  refine bind_fetch hStored (fun s' hSame => ?_) fun _ => bind_modifyOwn ?_
  · rw [hSame]
    exact (hStart.ends hStored).passed
  · refine Triple.mono (Q := fun _ => AfterGit env v s.world.cluster)
      (E := AfterGit env v s.world.cluster) ?_ (fun _ h => h) (fun _ _ h => h.passed)
      fun _ h => h.passed
    refine Triple.bind (((syncs_reconcilePVC env).start hStart).onError
      fun _ h => h.ends hStored) fun _ => ?_
    refine Triple.bind (after_reconcileVolumeSource env hStored) fun _ => ?_
    refine Triple.of_each fun s2 hs2 => bind_modifyOwn (bind_getOwn ?_)
    have hHashed := hs2.modify (f := withStatusHash env) (.of_status id rfl rfl) rfl rfl
    exact Triple.bind hHashed.store fun _ => Triple.skip

end

end ClusterAgent.VolumeController
