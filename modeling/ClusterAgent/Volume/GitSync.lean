import ClusterAgent.Controller.Lookup
import ClusterAgent.Volume.Controller

/-!
# Cluster agent — what a pass does about the git source

A pass over a Volume looks for the git sync Job under the name it would give it. It
creates the Job if there is none, and otherwise reports in the status whether that
Job is complete. Nothing else it does bears on the git source.

* `gitState` — what the status says about the git source;
* `Progress` — what no pass takes back: the identity of the volume, and the sync of
  a client's directory;
* `GitPass` — the three ways a pass can end, whatever API call fails;
* `gitState_report` — what the status says once the Job was found.
-/

namespace ClusterAgent.VolumeController

open Pass Effect Conditions Session ObjectPass VolumeSync Dependencies

/-! ## The status -/

def conditionOf (status : VolumeStatus) (t : VolumeCondition) :
    Option (Condition VolumeCondition) :=
  (findStatusCondition status.conditions t).map Condition.clearTime

def gitState (v : Volume) : Option (Condition VolumeCondition) × String :=
  (conditionOf v.status .syncedFromGitSource, v.status.lastSyncedGitReference)

theorem conditionOf_stored {status : VolumeStatus} {t : VolumeCondition} :
    conditionOf (storedStatus status) t = conditionOf status t := by
  have hFind := findStatusCondition_map (f := fun c : Condition VolumeCondition =>
    { c with lastTransitionTime := storedTime c.lastTransitionTime }) (fun _ => rfl)
    status.conditions t
  exact (congrArg (Option.map Condition.clearTime) hFind).trans (Option.map_map _ _ _)

variable {v : Volume} {git : VolumeGitRepoSource} {source : VolumeSource} {s : Session Volume}
  {job : Job} {hash : String → String} {c : Cluster}

theorem conditionOf_setCondition_other {env : Env} {condType t : VolumeCondition} {ready : Bool}
    {reason message : String} {status : VolumeStatus} (h : condType ≠ t) :
    conditionOf (setCondition env v condType ready reason message status) t =
      conditionOf status t :=
  congrArg (Option.map Condition.clearTime) (find_set_other h)

theorem conditionOf_setCondition {env : Env} {v : Volume} {condType : VolumeCondition}
    {ready : Bool} {reason message : String} {status : VolumeStatus} :
    conditionOf (setCondition env v condType ready reason message status) condType =
      some (Condition.clearTime
        { type := condType
          status := .ofBool ready
          observedGeneration := v.generation
          reason := reason
          message := message }) :=
  find_set_same env.clock.wall status.conditions _

theorem volumeConditionTrue_iff {t : VolumeCondition} :
    volumeConditionTrue v t = true ↔
      (∃ c, conditionOf v.status t = some c ∧ c.status = .conditionTrue) ∧
        v.status.observedGeneration = v.generation := by
  unfold volumeConditionTrue conditionOf
  cases findStatusCondition v.status.conditions t with
  | none => simp
  | some c => simp [Condition.clearTime]

/-- No pass renames or edits the volume, forgets that it has seen the generation, or takes the
sync of a client's directory back. -/
structure Progress (v v' : Volume) : Prop where
  metadata : v'.metadata = v.metadata
  spec : v'.spec = v.spec
  generation : v.status.observedGeneration = v.generation →
    v'.status.observedGeneration = v.generation
  localDir : ∀ source dir, v.spec.source = some source → source.remoteDir = some dir →
    localDirSyncedToVolume v dir.currentDirectoryHash = true →
      localDirSyncedToVolume v' dir.currentDirectoryHash = true

theorem Progress.refl (v : Volume) : Progress v v := ⟨rfl, rfl, id, fun _ _ _ _ h => h⟩

theorem Progress.trans {v1 v' : Volume} (h : Progress v v1) (h' : Progress v1 v') :
    Progress v v' where
  metadata := h'.metadata.trans h.metadata
  spec := h'.spec.trans h.spec
  generation hSeen := by
    have hGeneration : v1.generation = v.generation := congrArg ObjectMeta.generation h.metadata
    rw [← hGeneration]
    exact h'.generation ((h.generation hSeen).trans hGeneration.symm)
  localDir source dir hSource hDir hSynced :=
    h'.localDir source dir (h.spec ▸ hSource) hDir (h.localDir source dir hSource hDir hSynced)

theorem Progress.of_status {status : VolumeStatus}
    (hGeneration : v.status.observedGeneration = v.generation →
      status.observedGeneration = v.generation)
    (hCondition : conditionOf status .syncedFromRemote = conditionOf v.status .syncedFromRemote)
    (hHash : status.lastRemoteSyncHash = v.status.lastRemoteSyncHash) :
    Progress v { v with status := status } := by
  refine ⟨rfl, rfl, hGeneration, fun _ dir _ _ hSynced => ?_⟩
  unfold localDirSyncedToVolume at hSynced ⊢
  rw [Bool.and_eq_true, volumeConditionTrue_iff] at hSynced ⊢
  obtain ⟨⟨hTrue, hSeen⟩, hSame⟩ := hSynced
  exact ⟨⟨hCondition ▸ hTrue, hGeneration hSeen⟩, by rwa [hHash]⟩

theorem progress_stored {v : Volume} : Progress v { v with status := storedStatus v.status } :=
  .of_status id conditionOf_stored rfl

theorem gitState_stored (v : Volume) :
    gitState { v with status := storedStatus v.status } = gitState v :=
  congrArg (·, v.status.lastSyncedGitReference) conditionOf_stored

/-! ## The gate -/

def gitSourceOf (v : Volume) : Option VolumeGitRepoSource := v.spec.source.bind VolumeSource.gitRepo

def HoldsCommit (git : VolumeGitRepoSource)
    (state : Option (Condition VolumeCondition) × String) : Prop :=
  (∃ c, state.1 = some c ∧ c.status = .conditionTrue) ∧
    state.2 = git.revision.getGitRevisionString

theorem gitRepoSynced_iff :
    gitRepoSyncedToVolume v git.revision = true ↔
      HoldsCommit git (gitState v) ∧ v.status.observedGeneration = v.generation := by
  unfold gitRepoSyncedToVolume HoldsCommit gitState
  rw [Bool.and_eq_true, volumeConditionTrue_iff, decide_eq_true_iff]
  tauto

theorem isVolumeReady_git (hSource : v.spec.source = some source)
    (hGit : source.gitRepo = some git) (resource : StackResource) :
    (isVolumeReady v resource).1 =
      match source.remoteDir with
      | some dir => localDirSyncedToVolume v dir.currentDirectoryHash
      | none => gitRepoSyncedToVolume v git.revision := by
  unfold isVolumeReady
  rw [hSource]
  dsimp only
  rw [hGit]
  cases source.remoteDir with
  | some dir => cases hSynced : localDirSyncedToVolume v dir.currentDirectoryHash <;> simp [hSynced]
  | none => cases hSynced : gitRepoSyncedToVolume v git.revision <;> simp [hSynced]

/-- The gate of a git-sourced volume stays open through a pass after which the volume still
holds the commit. -/
theorem ready_of_progress {v' : Volume} {resource : StackResource} (h : Progress v v')
    (hGit : gitSourceOf v = some git)
    (hHolds : HoldsCommit git (gitState v) → HoldsCommit git (gitState v'))
    (hReady : (isVolumeReady v resource).1 = true) : (isVolumeReady v' resource).1 = true := by
  obtain ⟨source, hSource, hGit⟩ := Option.bind_eq_some_iff.mp hGit
  have hGeneration : v'.generation = v.generation := congrArg ObjectMeta.generation h.metadata
  rw [isVolumeReady_git hSource hGit] at hReady
  rw [isVolumeReady_git (h.spec ▸ hSource) hGit]
  cases hDir : source.remoteDir with
  | some dir =>
    rw [hDir] at hReady
    exact h.localDir source dir hSource hDir hReady
  | none =>
    rw [hDir] at hReady
    obtain ⟨hHeld, hSeen⟩ := gitRepoSynced_iff.mp hReady
    exact gitRepoSynced_iff.mpr ⟨hHolds hHeld, (h.generation hSeen).trans hGeneration.symm⟩

/-! ## Job names -/

def isGitSync (job : Job) : Bool :=
  job.spec.template.spec.containers.any fun c => decide (c.name = "git-sync")

/-- The Job has the name of an artifact sync Job of the volume, and does not run git-sync. -/
structure ArtifactJob (volumeName : String) (job : Job) : Prop where
  name : ∃ revision, job.metadata.name = artifactSyncJobName volumeName revision
  notGit : isGitSync job = false

theorem gitSyncJobName_prefix (hash : String → String) (volumeName revision : String) :
    (gitSyncJobName hash volumeName revision).toList <+:
      "volume-".toList ++ volumeName.toList ++ "-git-sync-".toList ++ (hash revision).toList := by
  unfold gitSyncJobName
  dsimp only
  split
  · rw [String.toList_ofList]
    simpa [String.toList_append] using List.take_prefix _ _
  · simp [String.toList_append]

/-- Artifact sync Jobs and git sync Jobs of one volume never share a name: eight characters
after the length of the volume's name one has an `s` and the other a `g`. -/
theorem artifactSyncJobName_ne (hash : String → String)
    (volumeName shortRevision revision : String) :
    artifactSyncJobName volumeName shortRevision ≠ gitSyncJobName hash volumeName revision := by
  intro h
  obtain ⟨rest, hPrefix⟩ := gitSyncJobName_prefix hash volumeName revision
  rw [← h] at hPrefix
  have hChar := congrArg (fun l : List Char => l[volumeName.toList.length + 8]?) hPrefix
  simp [artifactSyncJobName, String.toList_append] at hChar

section

variable {env : Env}

theorem progress_remoteDir {dir : RemoteDirSource} (hSource : v.spec.source = some source)
    (hDir : source.remoteDir = some dir) {reason message : String} :
    Progress v { v with
      status := { setCondition env v .syncedFromRemote true reason message v.status with
        lastRemoteSyncHash := dir.currentDirectoryHash } } := by
  refine ⟨rfl, rfl, id, fun source' dir' hSource' hDir' hSynced => ?_⟩
  obtain rfl : source = source' := Option.some.inj (hSource.symm.trans hSource')
  obtain rfl : dir = dir' := Option.some.inj (hDir.symm.trans hDir')
  unfold localDirSyncedToVolume at hSynced ⊢
  rw [Bool.and_eq_true, volumeConditionTrue_iff] at hSynced ⊢
  exact ⟨⟨⟨_, conditionOf_setCondition, rfl⟩, hSynced.1.2⟩, decide_eq_true rfl⟩

theorem createJob_spec (job : Job) (s : Session Volume) :
    Triple (· = s) (onCluster (create env .job job))
      (fun stored s' => lookup .job s.world.cluster job.metadata.ns job.metadata.name = none ∧
        s'.world.cluster.jobs = s.world.cluster.jobs ++ [stored] ∧ AsCreated job stored ∧
        Touches { objects := [.job] } s.world s'.world ∧ s'.own = s.own)
      fun s' => s'.world.cluster = s.world.cluster ∧ s'.own = s.own := by
  have hHas : Has { objects := [.job] } (create env .job job) :=
    has_create List.mem_cons_self
  refine (onCluster_spec ((create_spec env .job job s.world).and (hHas.leads (.refl _ _)))
    s.own).conseq (fun stored s' h => ?_) fun s' h => ?_
  · obtain ⟨⟨⟨hNone, hGet, hCreated⟩, hTouches⟩, hOwn⟩ := h
    rw [hCreated.ns, hCreated.name] at hNone
    exact ⟨hNone, hGet, hCreated, hTouches, hOwn⟩
  · exact ⟨cluster_of_reads h.1.1, h.2⟩

end

/-! ## How a pass ends -/

def fetches (job : Job) (repoUrl commit : String) : Bool :=
  job.spec.template.spec.containers.any fun c =>
    decide ("--repo=" ++ repoUrl ∈ c.args) && decide ("--ref=" ++ commit ∈ c.args)

def gitJobIn (hash : String → String) (c : Cluster) (v : Volume) (git : VolumeGitRepoSource) :
    Option Job :=
  lookup .job c v.metadata.ns (gitSyncJobName hash v.name git.revision.getGitRevisionString)

structure GitJob (hash : String → String) (v : Volume) (git : VolumeGitRepoSource) (job : Job) :
    Prop where
  ns : job.metadata.ns = v.metadata.ns
  name : job.metadata.name = gitSyncJobName hash v.name git.revision.getGitRevisionString
  runsGit : isGitSync job = true
  new : job.status = {}
  fetches : fetches job git.repoUrl git.revision.getGitRevisionString = true

theorem GitJob.congr {v' : Volume} {job' : Job} (h : GitJob hash v git job)
    (hMetadata : v'.metadata = v.metadata) (hSame : SameContent job job') :
    GitJob hash v' git job' where
  ns := by rw [hSame.ns, h.ns, hMetadata]
  name := by
    rw [hSame.name, h.name]
    unfold Object.name
    rw [hMetadata]
  runsGit := by
    unfold isGitSync
    rw [hSame.spec]
    exact h.runsGit
  new := hSame.status.trans h.new
  fetches := by
    unfold VolumeController.fetches
    rw [hSame.spec]
    exact h.fetches

def reportedGit (v : Volume) (git : VolumeGitRepoSource) (job : Job) :
    Option (Condition VolumeCondition) × String :=
  gitState { v with status := reportGitSync quietEnv v git job v.status }

/-- What a pass that starts from the volume and the cluster does about the git source: the
Jobs it creates for it, and what the status says in the end. -/
inductive GitOutcome (hash : String → String) (v : Volume) (c : Cluster) :
    List Job → Option (Condition VolumeCondition) × String → Prop
  | kept : GitOutcome hash v c [] (gitState v)
  | started {git : VolumeGitRepoSource} {job : Job} (hGit : gitSourceOf v = some git)
      (hNone : gitJobIn hash c v git = none) (hJob : GitJob hash v git job) :
      GitOutcome hash v c [job] (gitState v)
  | reported {git : VolumeGitRepoSource} {job : Job} (hGit : gitSourceOf v = some git)
      (hFound : gitJobIn hash c v git = some job) :
      GitOutcome hash v c [] (reportedGit v git job)

/-- What a pass leaves behind: the volume, ahead of where it was only in what passes record, the
new Jobs, those for artifacts before the one for git, and the outcome for the git source. -/
structure GitPass (hash : String → String) (v : Volume) (c c' : Cluster) : Prop where
  outcome : ∃ v' artifacts new,
    lookup .volume c' v.metadata.ns v.metadata.name = some v' ∧ Progress v v' ∧
    c'.jobs = c.jobs ++ artifacts ++ new ∧ (∀ job ∈ artifacts, ArtifactJob v.name job) ∧
    GitOutcome hash v c new (gitState v')

theorem gitJobIn_append {c' : Cluster} {artifacts : List Job}
    (hJobs : c'.jobs = c.jobs ++ artifacts)
    (hArtifacts : ∀ job ∈ artifacts, ArtifactJob v.name job) :
    gitJobIn hash c' v git = gitJobIn hash c v git := by
  have hNone : artifacts.find? (hasKey v.metadata.ns
      (gitSyncJobName hash v.name git.revision.getGitRevisionString)) = none := by
    refine List.find?_eq_none.mpr fun job hJob hKey => ?_
    obtain ⟨build, hName⟩ := (hArtifacts job hJob).name
    exact artifactSyncJobName_ne hash v.name _ _ (hName.symm.trans (hasKey_iff.mp hKey).2)
  refine (congrArg (List.find? _) hJobs).trans ?_
  rw [List.find?_append, hNone, Option.or_none]
  rfl

theorem gitState_report {env : Env} {own : Volume} (git : VolumeGitRepoSource) (job : Job)
    (hMetadata : own.metadata = v.metadata) (hGit : gitState own = gitState v) :
    gitState { own with status := reportGitSync env own git job own.status } =
      reportedGit v git job := by
  have hGeneration : own.generation = v.generation := congrArg ObjectMeta.generation hMetadata
  have hReference : own.status.lastSyncedGitReference = v.status.lastSyncedGitReference :=
    congrArg Prod.snd hGit
  unfold reportedGit reportGitSync
  split
  · exact congrArg (·, git.revision.getGitRevisionString)
      ((conditionOf_setCondition).trans
        (hGeneration ▸ (conditionOf_setCondition).symm))
  · refine Prod.ext ?_ hReference
    exact (conditionOf_setCondition).trans
      (hGeneration ▸ (conditionOf_setCondition).symm)

theorem progress_report {env : Env} {v : Volume} {git : VolumeGitRepoSource} {job : Job} :
    Progress v { v with status := reportGitSync env v git job v.status } := by
  unfold reportGitSync
  split
  · exact .of_status id (conditionOf_setCondition_other (by decide)) rfl
  · exact .of_status id (conditionOf_setCondition_other (by decide)) rfl

section

variable {env : Env}

theorem desiredGitSyncJob_spec {α : Type} {f : Job → VolumePass α} {Q : α → Session Volume → Prop}
    {E : Session Volume → Prop} (hError : E s)
    (h : ∀ job, GitJob env.gitRevisionHash s.own git job → Triple (· = s) (f job) Q E) :
    Triple (· = s) (onCluster (desiredGitSyncJob env s.own git) >>= f) Q E := by
  have hThrow : ∀ e : GoError, Triple (· = s) (onCluster (throw e) >>= f) Q E := by
    rintro e s rfl
    exact hError
  -- the parameters or the Job may be refused; neither has an effect
  unfold desiredGitSyncJob buildGitSyncParams
  split
  · exact hThrow _
  · next params hParams =>
    split at hParams
    · cases hParams
    · obtain rfl := Except.ok.inj hParams
      unfold generateGitSyncJob
      dsimp only
      split
      · exact hThrow _
      · next job hJob =>
        split at hJob
        · cases hJob
        · obtain rfl := Except.ok.inj hJob
          refine bind_controlledBy hError fun refs => h _ ?_
          have hMade : GitJob env.gitRevisionHash s.own git
              { metadata := { name := gitSyncJobName env.gitRevisionHash s.own.name
                                git.revision.getGitRevisionString
                              ns := s.own.metadata.ns }
                spec := gitSyncJobSpec
                  { ns := s.own.metadata.ns
                    pvcName := s.own.status.pvcName
                    repoUrl := git.repoUrl
                    commit := git.revision.commit
                    auth := git.auth
                    destDir := destDirWithinVolume }
                status := {} } := by
            refine ⟨rfl, rfl, rfl, rfl, ?_⟩
            simp [fetches, gitSyncJobSpec, gitSyncContainer, gitSyncArgs,
              GitRepoRevision.getGitRevisionString]
          exact hMade.congr rfl ⟨rfl, rfl, rfl, rfl, rfl⟩

theorem storeVolume_spec (s : Session Volume) :
    Triple (· = s) (onCluster (storeStatus env .volume storedStatus s.own))
      (fun _ s' => s'.own = s.own ∧ s'.world.cluster.jobs = s.world.cluster.jobs ∧
        lookup .volume s'.world.cluster s.own.metadata.ns s.own.metadata.name =
          (lookup .volume s.world.cluster s.own.metadata.ns s.own.metadata.name).map
            fun x => { x with status := storedStatus s.own.status })
      fun s' => s'.world.cluster = s.world.cluster ∧ s'.own = s.own := by
  have hHas : Has { objects := [.volume] } (storeStatus env .volume storedStatus s.own) :=
    has_storeStatus List.mem_cons_self
  refine (onCluster_spec ((storeStatus_spec env .volume storedStatus s.own s.world).and
    (hHas.leads (.refl _ _))) s.own).conseq (fun _ s' h => ?_) fun s' h => ?_
  · exact ⟨h.2, h.1.2.objects .job (by decide), lookup_write h.1.1 fun _ hKey => hKey⟩
  · exact ⟨cluster_of_reads h.1.1, h.2⟩

end

end ClusterAgent.VolumeController
