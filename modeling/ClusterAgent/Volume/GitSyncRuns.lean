import ClusterAgent.Volume.ArtifactSync

/-!
# Cluster agent — git sync over whole runs

A git sync Job is found again by its name, which holds the volume's name and a digest
of the revision but not the repository, and is cut to 63 characters. A finished Job is
removed after half an hour. The state of a run holds, besides the cluster, the Jobs
that passes over the volume started.

* `SyncEvent`, `syncStep` — edits of the volume's spec, passes, what becomes of the
  Jobs, and anything else that leaves the volume alone;
* `OwnJobs` — an edit that asks for another commit or repository leads to a name under
  which there is no Job, nobody else puts a Job there, and a Job that is gone is not
  missed;
* `FinishedJobKept` — every pass still finds the Job, complete.

Main results: `git_sync_sound` (what the status says is what the newest Job did) and
`synced_stays` (a synced volume stays synced, and its gate open).
-/

namespace ClusterAgent.VolumeController

open Pass Effect Conditions Session ObjectPass VolumeSync Dependencies

/-! ## Runs -/

structure SyncRun where
  cluster : Cluster
  /-- The git sync Jobs started for the volume, the newest first, with the status each of them
  has by now. -/
  started : List Job := []

/-- What happens: an edit of the volume's spec, a pass over the volume that starts with some
object in memory, the Job controller writing the status of a Job, and a change by someone else,
such as the removal of a finished Job. -/
inductive SyncEvent
  | edit (spec : VolumeSpec)
  | pass (env : Env) (own : Volume)
  | jobStatus (uid : String) (status : JobStatus)
  | elsewhere (c : Cluster)

def withJobStatus (uid : String) (status : JobStatus) (job : Job) : Job :=
  if job.metadata.uid = uid ∧ jobCompleted job = false then { job with status := status } else job

def newGitJobs (c c' : Cluster) : List Job := (c'.jobs.drop c.jobs.length).filter isGitSync

def editVolume (ns name : String) (spec : VolumeSpec) (c : Cluster) : Cluster :=
  { c with
    volumes := Keyed.write (hasKey ns name) (fun v => updated v { v with spec := spec }) c.volumes }

def afterPass (ns name : String) (env : Env) (own : Volume) (c : Cluster) : Cluster :=
  (finalState (reconcile env ns name ⟨worldOf c, own⟩)).world.cluster

def SyncRun.passed (s : SyncRun) (c : Cluster) : SyncRun where
  cluster := c
  started := (newGitJobs s.cluster c).reverse ++ s.started

def syncStep (ns name : String) (s : SyncRun) : SyncEvent → SyncRun
  | .edit spec => { s with cluster := editVolume ns name spec s.cluster }
  | .pass env own => s.passed (afterPass ns name env own s.cluster)
  | .jobStatus uid status =>
    { cluster := { s.cluster with jobs := s.cluster.jobs.map (withJobStatus uid status) }
      started := s.started.map (withJobStatus uid status) }
  | .elsewhere c => { s with cluster := c }

/-- The digest is one function, and only this controller writes the status of the volume. -/
def Fits (hash : String → String) (ns name : String) (s : SyncRun) : SyncEvent → Prop
  | .pass env _ => env.gitRevisionHash = hash
  | .elsewhere c => lookup .volume c ns name = lookup .volume s.cluster ns name
  | _ => True

def SyncedNow (v : Volume) : Prop :=
  ∃ c, conditionOf v.status .syncedFromGitSource = some c ∧ c.status = .conditionTrue ∧
    c.observedGeneration = v.generation

/-- Where the status says that the volume holds a commit, the newest sync Job is complete and
fetched that commit from the repository of the spec. -/
def GitSyncSound (ns name : String) (s : SyncRun) : Prop :=
  ∀ v git, lookup .volume s.cluster ns name = some v → gitSourceOf v = some git →
    SyncedNow v → ∃ job, s.started.head? = some job ∧ jobCompleted job = true ∧
      fetches job git.repoUrl v.status.lastSyncedGitReference = true

def sameFetch (v : Volume) (git : VolumeGitRepoSource) : Bool :=
  (gitSourceOf v).any fun old =>
    decide (old.repoUrl = git.repoUrl) &&
      decide (old.revision.getGitRevisionString = git.revision.getGitRevisionString)

/-- A new fetch gets a Job name that no Job has, nobody else puts a Job under the current name,
and no pass finds the Job gone while the condition is True for the current generation. -/
def OwnJobs (hash : String → String) (ns name : String) (s : SyncRun) : SyncEvent → Prop
  | .edit spec => ∀ v git, lookup .volume s.cluster ns name = some v →
    spec.source.bind VolumeSource.gitRepo = some git → sameFetch v git = false →
      gitJobIn hash s.cluster v git = none
  | .pass _ _ => ∀ v git, lookup .volume s.cluster ns name = some v → gitSourceOf v = some git →
    gitJobIn hash s.cluster v git = none → ¬ SyncedNow v
  | .jobStatus _ _ => True
  | .elsewhere c => ∀ v git, lookup .volume s.cluster ns name = some v →
    gitSourceOf v = some git → gitJobIn hash c v git ≠ none →
      gitJobIn hash c v git = gitJobIn hash s.cluster v git

/-- A volume that no pass has looked at, with no Job under the name of its own. -/
structure NewVolume (hash : String → String) (ns name : String) (s : SyncRun) : Prop where
  started : s.started = []
  condition : ∀ v, lookup .volume s.cluster ns name = some v →
    conditionOf v.status .syncedFromGitSource = none
  jobs : ∀ v git, lookup .volume s.cluster ns name = some v → gitSourceOf v = some git →
    gitJobIn hash s.cluster v git = none

/-! ## One step -/

variable {hash : String → String} {c c' : Cluster} {v : Volume} {git : VolumeGitRepoSource}
  {job : Job}

theorem gitJobIn_congr {v' : Volume} (h : v'.metadata.ns = v.metadata.ns)
    (hName : v'.metadata.name = v.metadata.name) (git : VolumeGitRepoSource) :
    gitJobIn hash c v' git = gitJobIn hash c v git := by
  unfold gitJobIn Object.name
  rw [h, hName]

theorem newGitJobs_eq {artifacts new : List Job}
    {state : Option (Condition VolumeCondition) × String}
    (hJobs : c'.jobs = c.jobs ++ artifacts ++ new)
    (hArtifacts : ∀ job ∈ artifacts, ArtifactJob v.name job)
    (hOutcome : GitOutcome hash v c new state) : newGitJobs c c' = new := by
  have hNone : artifacts.filter isGitSync = [] :=
    List.filter_eq_nil_iff.mpr fun job hJob => by simp [(hArtifacts job hJob).notGit]
  unfold newGitJobs
  rw [hJobs, List.append_assoc, List.drop_left, List.filter_append, hNone, List.nil_append]
  cases hOutcome with
  | kept => rfl
  | started _ _ hJob => rw [List.filter_cons_of_pos hJob.runsGit, List.filter_nil]
  | reported => rfl

theorem gitJobIn_started {artifacts : List Job} (hJobs : c'.jobs = c.jobs ++ artifacts ++ [job])
    (hArtifacts : ∀ job ∈ artifacts, ArtifactJob v.name job)
    (hNone : gitJobIn hash c v git = none) (hJob : GitJob hash v git job) :
    gitJobIn hash c' v git = some job := by
  have hMiddle : gitJobIn hash { c with jobs := c.jobs ++ artifacts } v git = none :=
    (gitJobIn_append rfl hArtifacts).trans hNone
  have hKey : hasKey v.metadata.ns (gitSyncJobName hash v.name
      git.revision.getGitRevisionString) job = true := hasKey_iff.mpr ⟨hJob.ns, hJob.name⟩
  exact (congrArg (List.find? _) hJobs).trans (Keyed.find?_append_new hMiddle hKey)

theorem jobCompleted_withJobStatus {uid : String} {status : JobStatus}
    (h : jobCompleted job = true) : withJobStatus uid status job = job := by
  unfold withJobStatus
  rw [h]
  simp

theorem spec_withJobStatus (uid : String) (status : JobStatus) (job : Job) :
    (withJobStatus uid status job).spec = job.spec := by
  unfold withJobStatus
  split <;> rfl

theorem metadata_withJobStatus (uid : String) (status : JobStatus) (job : Job) :
    (withJobStatus uid status job).metadata = job.metadata := by
  unfold withJobStatus
  split <;> rfl

theorem lookup_jobStatus (uid : String) (status : JobStatus) {ns name : String} :
    lookup .job { c with jobs := c.jobs.map (withJobStatus uid status) } ns name =
      (lookup .job c ns name).map (withJobStatus uid status) := by
  have hKey : hasKey ns name ∘ withJobStatus uid status = hasKey ns name := by
    funext job
    exact congrArg (fun m : ObjectMeta => decide (m.ns = ns) && decide (m.name = name))
      (metadata_withJobStatus uid status job)
  refine List.find?_map.trans ?_
  rw [hKey]
  rfl

theorem sameFetch_iff :
    sameFetch v git = true ↔ ∃ old, gitSourceOf v = some old ∧ old.repoUrl = git.repoUrl ∧
      old.revision.getGitRevisionString = git.revision.getGitRevisionString := by
  unfold sameFetch
  cases gitSourceOf v with
  | none => simp
  | some old => simp

/-- What a run keeps: the condition is never ahead of the spec, the Job under the current name is
the newest one and does what the spec asks for, and the status tells the truth. -/
structure SyncInv (hash : String → String) (ns name : String) (s : SyncRun) : Prop where
  seen : ∀ v c, lookup .volume s.cluster ns name = some v →
    conditionOf v.status .syncedFromGitSource = some c → c.observedGeneration ≤ v.generation
  newest : ∀ v git job, lookup .volume s.cluster ns name = some v → gitSourceOf v = some git →
    gitJobIn hash s.cluster v git = some job → s.started.head? = some job ∧
      fetches job git.repoUrl git.revision.getGitRevisionString = true
  sound : GitSyncSound ns name s

theorem NewVolume.syncInv {ns name : String} {s : SyncRun} (h : NewVolume hash ns name s) :
    SyncInv hash ns name s where
  seen v c hv hc := by
    rw [h.condition v hv] at hc
    cases hc
  newest v git job hv hGit hJob := by
    rw [h.jobs v git hv hGit] at hJob
    cases hJob
  sound v git hv _ hSynced := by
    obtain ⟨c, hc, -⟩ := hSynced
    rw [h.condition v hv] at hc
    cases hc

section

variable {hash : String → String} {ns name : String} {s : SyncRun}

theorem lookup_editVolume (spec : VolumeSpec) (c : Cluster) :
    lookup .volume (editVolume ns name spec c) ns name =
      (lookup .volume c ns name).map fun v => updated v { v with spec := spec } :=
  lookup_write rfl fun _ hKey => hKey

theorem generation_updated (v : Volume) (spec : VolumeSpec) :
    (updated v { v with spec := spec }).generation =
      if v.spec = spec then v.generation else v.generation + 1 := rfl

theorem syncInv_edit {spec : VolumeSpec} (h : SyncInv hash ns name s)
    (hOwn : OwnJobs hash ns name s (.edit spec)) :
    SyncInv hash ns name (syncStep ns name s (.edit spec)) := by
  -- an edit of a missing Volume changes nothing
  cases hLookup : lookup .volume s.cluster ns name with
  | none =>
    have hNone : lookup .volume (editVolume ns name spec s.cluster) ns name = none := by
      rw [lookup_editVolume, hLookup]
      rfl
    exact ⟨fun v _ hv => absurd (hNone.symm.trans hv) nofun,
      fun v _ _ hv => absurd (hNone.symm.trans hv) nofun,
      fun v _ hv => absurd (hNone.symm.trans hv) nofun⟩
  | some v =>
    have hSome : ∀ v', lookup .volume (editVolume ns name spec s.cluster) ns name = some v' →
        v' = updated v { v with spec := spec } := by
      intro v' hv'
      rw [lookup_editVolume, hLookup] at hv'
      exact (Option.some.inj hv').symm
    refine ⟨fun v' c hv' hc => ?_, fun v' git job hv' hGit hJob => ?_,
      fun v' git hv' hGit hSynced => ?_⟩
    · obtain rfl := hSome v' hv'
      have hSeen := h.seen v c hLookup hc
      -- the generation goes up by one, unless the spec is the one stored
      rw [generation_updated]
      split
      · exact hSeen
      · exact hSeen.trans (Int.le_add_one le_rfl)
    · obtain rfl := hSome v' hv'
      have hJob : gitJobIn hash s.cluster v git = some job := hJob
      -- another revision gets another Job, which `OwnJobs` says is not there yet
      cases hFetch : sameFetch v git with
      | false =>
        rw [hOwn v git hLookup hGit hFetch] at hJob
        cases hJob
      | true =>
        obtain ⟨old, hOld, hRepo, hCommit⟩ := sameFetch_iff.mp hFetch
        rw [← hRepo, ← hCommit]
        refine h.newest v old job hLookup hOld ?_
        unfold gitJobIn at hJob ⊢
        rwa [hCommit]
    · obtain rfl := hSome v' hv'
      obtain ⟨c, hc, hTrue, hNow⟩ := hSynced
      have hSeen := h.seen v c hLookup hc
      -- a synced condition at the new generation means that the spec is the old one:
      -- the condition was written for an earlier one otherwise
      rw [generation_updated] at hNow
      split at hNow
      · next hSpec =>
        have hGit : gitSourceOf v = some git := by
          unfold gitSourceOf
          rw [hSpec]
          exact hGit
        exact h.sound v git hLookup hGit ⟨c, hc, hTrue, hNow⟩
      · omega

theorem syncInv_jobStatus {uid : String} {status : JobStatus} (h : SyncInv hash ns name s) :
    SyncInv hash ns name (syncStep ns name s (.jobStatus uid status)) where
  seen := h.seen
  newest v git job hv hGit hJob := by
    have hJob : (gitJobIn hash s.cluster v git).map (withJobStatus uid status) = some job :=
      (lookup_jobStatus uid status).symm.trans hJob
    obtain ⟨old, hOld, rfl⟩ := Option.map_eq_some_iff.mp hJob
    obtain ⟨hNewest, hFetches⟩ := h.newest v git old hv hGit hOld
    refine ⟨?_, ?_⟩
    · exact List.head?_map.trans (congrArg (Option.map _) hNewest)
    · unfold fetches
      rw [spec_withJobStatus]
      exact hFetches
  sound v git hv hGit hSynced := by
    obtain ⟨job, hNewest, hCompleted, hFetches⟩ := h.sound v git hv hGit hSynced
    refine ⟨job, ?_, hCompleted, hFetches⟩
    refine List.head?_map.trans ((congrArg (Option.map _) hNewest).trans ?_)
    exact congrArg some (jobCompleted_withJobStatus hCompleted)

theorem syncInv_elsewhere (h : SyncInv hash ns name s)
    (hFits : Fits hash ns name s (.elsewhere c)) (hOwn : OwnJobs hash ns name s (.elsewhere c)) :
    SyncInv hash ns name (syncStep ns name s (.elsewhere c)) where
  seen v cond hv hc := h.seen v cond (hFits.symm.trans hv) hc
  newest v git job hv hGit hJob := by
    have hv : lookup .volume s.cluster ns name = some v := hFits.symm.trans hv
    have hJob : gitJobIn hash c v git = some job := hJob
    refine h.newest v git job hv hGit ?_
    rw [← hOwn v git hv hGit (by rw [hJob]; exact Option.some_ne_none _)]
    exact hJob
  sound v git hv hGit hSynced := h.sound v git (hFits.symm.trans hv) hGit hSynced

/-- The condition that a pass reports is True only of a complete Job, for the generation the
pass saw. -/
theorem reportedGit_condition {c : Condition VolumeCondition}
    (h : (reportedGit v git job).1 = some c) :
    c.observedGeneration = v.generation ∧
      (c.status = .conditionTrue → jobCompleted job = true ∧
        (reportedGit v git job).2 = git.revision.getGitRevisionString) := by
  unfold reportedGit reportGitSync at h ⊢
  split at h
  · next hCompleted =>
    obtain rfl := Option.some.inj ((conditionOf_setCondition).symm.trans h)
    refine ⟨rfl, fun _ => ⟨hCompleted, ?_⟩⟩
    rw [if_pos hCompleted]
    rfl
  · obtain rfl := Option.some.inj ((conditionOf_setCondition).symm.trans h)
    exact ⟨rfl, nofun⟩

theorem syncInv_of_volume {s : SyncRun} (hv : lookup .volume s.cluster ns name = some v)
    (hSeen : ∀ c, conditionOf v.status .syncedFromGitSource = some c →
      c.observedGeneration ≤ v.generation)
    (hNewest : ∀ git job, gitSourceOf v = some git → gitJobIn hash s.cluster v git = some job →
      s.started.head? = some job ∧
        fetches job git.repoUrl git.revision.getGitRevisionString = true)
    (hSound : ∀ git, gitSourceOf v = some git → SyncedNow v →
      ∃ job, s.started.head? = some job ∧ jobCompleted job = true ∧
        fetches job git.repoUrl v.status.lastSyncedGitReference = true) :
    SyncInv hash ns name s := by
  have hOne : ∀ v', lookup .volume s.cluster ns name = some v' → v = v' :=
    fun _ hv' => Option.some.inj (hv.symm.trans hv')
  refine ⟨fun v' c hv' => ?_, fun v' git job hv' => ?_, fun v' git hv' => ?_⟩
  · obtain rfl := hOne v' hv'
    exact hSeen c
  · obtain rfl := hOne v' hv'
    exact hNewest git job
  · obtain rfl := hOne v' hv'
    exact hSound git

theorem passed_self (s : SyncRun) : s.passed s.cluster = s := by
  unfold SyncRun.passed newGitJobs
  rw [List.drop_length]
  rfl

/-- A pass that finds no Job starts one, which is then the newest; a pass that finds a Job
reports on the newest. -/
theorem syncInv_gitPass (h : SyncInv hash v.metadata.ns v.metadata.name s)
    (hv : lookup .volume s.cluster v.metadata.ns v.metadata.name = some v)
    (hPass : GitPass hash v s.cluster c')
    (hMissed : ∀ git, gitSourceOf v = some git → gitJobIn hash s.cluster v git = none →
      ¬ SyncedNow v) :
    SyncInv hash v.metadata.ns v.metadata.name (s.passed c') := by
  obtain ⟨v', artifacts, new, hv', hProgress, hJobs, hArtifacts, hOutcome⟩ := hPass.outcome
  have hStarted : (s.passed c').started = new.reverse ++ s.started :=
    congrArg (fun l => List.reverse l ++ s.started) (newGitJobs_eq hJobs hArtifacts hOutcome)
  have hSource : gitSourceOf v' = gitSourceOf v := by
    unfold gitSourceOf
    rw [hProgress.spec]
  have hGeneration : v'.generation = v.generation :=
    congrArg ObjectMeta.generation hProgress.metadata
  have hJobIn : ∀ git, gitJobIn hash c' v' git = gitJobIn hash c' v git := fun git =>
    gitJobIn_congr (by rw [hProgress.metadata]) (by rw [hProgress.metadata]) git
  generalize hState : gitState v' = state at hOutcome
  -- without a new Job the one found under the name is the one found before
  have hNewest : new = [] → ∀ git job, gitSourceOf v' = some git →
      gitJobIn hash c' v' git = some job → (s.passed c').started.head? = some job ∧
        fetches job git.repoUrl git.revision.getGitRevisionString = true := by
    rintro rfl git job hGit hJob
    rw [hStarted]
    rw [List.append_nil] at hJobs
    rw [hJobIn, gitJobIn_append hJobs hArtifacts] at hJob
    exact h.newest v git job hv (hSource ▸ hGit) hJob
  -- a status that says the same is as true as before
  have hSame : gitState v' = gitState v → SyncedNow v' → SyncedNow v := by
    rintro hSame ⟨c, hc, hTrue, hNow⟩
    exact ⟨c, (congrArg Prod.fst hSame).symm.trans hc, hTrue, hNow.trans hGeneration⟩
  have hSeen : gitState v' = gitState v → ∀ c,
      conditionOf v'.status .syncedFromGitSource = some c → c.observedGeneration ≤
        v'.generation := by
    intro hSame c hc
    rw [hGeneration]
    exact h.seen v c hv ((congrArg Prod.fst hSame).symm.trans hc)
  cases hOutcome with
  | kept =>
    refine syncInv_of_volume hv' (hSeen hState) (hNewest rfl) fun git hGit hSynced => ?_
    have hReference : v'.status.lastSyncedGitReference = v.status.lastSyncedGitReference :=
      congrArg Prod.snd hState
    rw [hStarted, hReference]
    exact h.sound v git hv (hSource ▸ hGit) (hSame hState hSynced)
  | @started git job hGit hNone hJob =>
    refine syncInv_of_volume hv' (hSeen hState) (fun git' job' hGit' hJob' => ?_)
      fun git' _ hSynced => absurd (hSame hState hSynced) (hMissed git hGit hNone)
    obtain rfl : git = git' := Option.some.inj (hGit.symm.trans (hSource.symm.trans hGit'))
    have hFound := gitJobIn_started hJobs hArtifacts hNone hJob
    obtain rfl : job = job' := Option.some.inj (hFound.symm.trans ((hJobIn git).symm.trans hJob'))
    rw [hStarted]
    exact ⟨rfl, hJob.fetches⟩
  | @reported git job hGit hFound =>
    refine syncInv_of_volume hv' (fun c hc => ?_) (hNewest rfl) fun git' hGit' hSynced => ?_
    · have hc := reportedGit_condition ((congrArg Prod.fst hState).symm.trans hc)
      exact (hc.1.trans hGeneration.symm).le
    · obtain ⟨c, hc, hTrue, -⟩ := hSynced
      obtain ⟨hCompleted, hCommit⟩ :=
        (reportedGit_condition ((congrArg Prod.fst hState).symm.trans hc)).2 hTrue
      obtain rfl : git = git' := Option.some.inj (hGit.symm.trans (hSource.symm.trans hGit'))
      obtain ⟨hHead, hFetches⟩ := h.newest v git job hv hGit hFound
      have hReference : v'.status.lastSyncedGitReference = git.revision.getGitRevisionString :=
        (congrArg Prod.snd hState).trans hCommit
      rw [hStarted, hReference]
      exact ⟨job, hHead, hCompleted, hFetches⟩

theorem syncInv_step {event : SyncEvent} (h : SyncInv hash ns name s)
    (hFits : Fits hash ns name s event) (hOwn : OwnJobs hash ns name s event) :
    SyncInv hash ns name (syncStep ns name s event) := by
  cases event with
  | edit spec => exact syncInv_edit h hOwn
  | jobStatus uid status => exact syncInv_jobStatus h
  | elsewhere c => exact syncInv_elsewhere h hFits hOwn
  | pass env own =>
    obtain rfl : env.gitRevisionHash = hash := hFits
    cases hLookup : lookup .volume s.cluster ns name with
    | none =>
      have hSame : afterPass ns name env own s.cluster = s.cluster :=
        reconcile_none (s := ⟨worldOf s.cluster, own⟩) hLookup rfl
      have hStep : syncStep ns name s (.pass env own) = s :=
        (congrArg s.passed hSame).trans (passed_self s)
      rw [hStep]
      exact h
    | some v =>
      obtain ⟨rfl, rfl⟩ := key_of_lookup hLookup
      exact syncInv_gitPass h hLookup
        (passed_reconcile env (s := ⟨worldOf s.cluster, own⟩) hLookup).1
          fun git => hOwn v git hLookup

/-- **What the status says about the git source is what the newest sync Job did**, in every run
in which a fetch finds no Job of another fetch under its name and no finished Job is missed. -/
theorem git_sync_sound (hash : String → String) (ns name : String) (s : SyncRun)
    (events : List SyncEvent) (hNew : NewVolume hash ns name s)
    (hFits : Runs.Admitted (syncStep ns name) (Fits hash ns name) s events)
    (hOwn : Runs.Admitted (syncStep ns name) (OwnJobs hash ns name) s events) :
    GitSyncSound ns name (Runs.run (syncStep ns name) s events) :=
  (Runs.run_admitted (I := SyncInv hash ns name)
    (fun _ _ hEvent h => syncInv_step h hEvent.1 hEvent.2)
    (Runs.admitted_and hFits hOwn) hNew.syncInv).sound

end

/-! ## The same name for another fetch -/

/-- What is asked of the values there may be is decided by looking. -/
instance decidableForallSome {α β : Type} {o : Option α} {f : α → Option β} {P : α → β → Prop}
    [∀ a b, Decidable (P a b)] : Decidable (∀ a b, o = some a → f a = some b → P a b) :=
  decidable_of_iff (∀ a ∈ o, ∀ b ∈ f a, P a b)
    ⟨fun h a b ha hb => h a ha b hb, fun h a ha b hb => h a b ha hb⟩

instance (v : Volume) : Decidable (SyncedNow v) :=
  inferInstanceAs (Decidable (∃ c ∈ conditionOf v.status .syncedFromGitSource, _ ∧ _))

instance (ns name : String) (s : SyncRun) : Decidable (GitSyncSound ns name s) :=
  have : ∀ (v : Volume) (git : VolumeGitRepoSource), Decidable (SyncedNow v →
      ∃ job ∈ s.started.head?, jobCompleted job = true ∧
        fetches job git.repoUrl v.status.lastSyncedGitReference = true) := inferInstance
  decidableForallSome

instance (hash : String → String) (ns name : String) (s : SyncRun) :
    DecidablePred (OwnJobs hash ns name s)
  | .edit _ => decidableForallSome
  | .pass _ _ => decidableForallSome
  | .jobStatus _ _ => instDecidableTrue
  | .elsewhere _ => decidableForallSome

def syncEnv : Env := { quietEnv with gitRevisionHash := id }

def fetchSpec (repoUrl commit : String) : VolumeSpec :=
  { source := some { gitRepo := some { repoUrl := repoUrl, revision := { commit := commit } } } }

def siteVolume : Volume where
  metadata := { name := "site", ns := "shop", uid := "uid-site", generation := 1 }
  spec := fetchSpec "https://git.example/site" "0a1b2c3d"
  status := {}

def siteRun : SyncRun := { cluster := { volumes := [siteVolume] } }

def complete : JobStatus := { conditions := [{ type := .complete, status := .conditionTrue }] }

def firstFetch : List SyncEvent :=
  [.pass syncEnv siteVolume, .pass syncEnv siteVolume, .jobStatus "uid-1" complete,
    .pass syncEnv siteVolume]

theorem siteRun_new : NewVolume id "shop" "site" siteRun := by
  have hOne : ∀ v, lookup .volume siteRun.cluster "shop" "site" = some v → siteVolume = v :=
    fun _ hv => Option.some.inj hv
  refine ⟨rfl, fun v hv => ?_, fun v git hv _ => ?_⟩
  · obtain rfl := hOne v hv
    rfl
  · obtain rfl := hOne v hv
    rfl

theorem firstFetch_fits : Runs.Admitted (syncStep "shop" "site") (Fits id "shop" "site") siteRun
    firstFetch := ⟨rfl, rfl, trivial, rfl, trivial⟩

theorem git_sync_sound_first :
    (∃ v ∈ lookup .volume (Runs.run (syncStep "shop" "site") siteRun firstFetch).cluster
      "shop" "site", SyncedNow v) ∧
      GitSyncSound "shop" "site" (Runs.run (syncStep "shop" "site") siteRun firstFetch) :=
  ⟨by decide +kernel, git_sync_sound id "shop" "site" siteRun firstFetch siteRun_new
    firstFetch_fits (by decide +kernel)⟩

def movedRepository : List SyncEvent :=
  firstFetch ++ [.edit (fetchSpec "https://git.example/fork" "0a1b2c3d"),
    .pass syncEnv siteVolume]

/-- The Job that fetched from the old repository counts for the new one: its name holds the commit
only. -/
theorem old_repository_reported :
    ¬ ∀ (hash : String → String) (ns name : String) (s : SyncRun) (events : List SyncEvent),
      NewVolume hash ns name s →
      Runs.Admitted (syncStep ns name) (Fits hash ns name) s events →
      GitSyncSound ns name (Runs.run (syncStep ns name) s events) := by
  intro h
  have hRun := h id "shop" "site" siteRun movedRepository siteRun_new
    ⟨rfl, rfl, trivial, rfl, trivial, rfl, trivial⟩
  revert hRun
  decide +kernel

/-! ## A synced volume stays synced -/

def SyncedFromGit (v : Volume) : Prop :=
  ∃ c, conditionOf v.status .syncedFromGitSource = some c ∧ c.status = .conditionTrue

def Unedited : SyncEvent → Prop
  | .edit _ => False
  | _ => True

instance : DecidablePred Unedited
  | .edit _ => instDecidableFalse
  | .pass _ _ => instDecidableTrue
  | .jobStatus _ _ => instDecidableTrue
  | .elsewhere _ => instDecidableTrue

/-- Every pass still finds the Job of the git source, complete. -/
def FinishedJobKept (hash : String → String) (ns name : String) (s : SyncRun) : SyncEvent → Prop
  | .pass _ _ => ∀ v git, lookup .volume s.cluster ns name = some v → gitSourceOf v = some git →
    (gitJobIn hash s.cluster v git).any jobCompleted = true
  | _ => True

/-- What has become of a volume that was synced: it still is, no Job was started, and no
workload that mounts it is gated again. -/
structure StillSynced (ns name : String) (s s' : SyncRun) : Prop where
  started : s'.started.length = s.started.length
  volume : ∀ v, lookup .volume s.cluster ns name = some v →
    ∃ v', lookup .volume s'.cluster ns name = some v' ∧ SyncedFromGit v' ∧
      ∀ resource, (isVolumeReady v resource).1 = true → (isVolumeReady v' resource).1 = true

/-- What carries over from pass to pass of a volume that stays synced. -/
structure KeptSynced (git : VolumeGitRepoSource) (v v' : Volume) : Prop where
  progress : Progress v v'
  synced : SyncedFromGit v'
  holds : HoldsCommit git (gitState v) → HoldsCommit git (gitState v')

section

variable {hash : String → String} {ns name : String} {s : SyncRun}

theorem reportedGit_completed (h : jobCompleted job = true) :
    HoldsCommit git (reportedGit v git job) := by
  unfold reportedGit reportGitSync
  rw [if_pos h]
  exact ⟨⟨_, conditionOf_setCondition, rfl⟩, rfl⟩

theorem keptSynced_gitPass {v1 : Volume} (h : KeptSynced git v v1)
    (hGit : gitSourceOf v1 = some git) (hPass : GitPass hash v1 s.cluster c')
    (hKept : (gitJobIn hash s.cluster v1 git).any jobCompleted = true) :
    (s.passed c').started = s.started ∧
      ∃ v', lookup .volume c' v1.metadata.ns v1.metadata.name = some v' ∧ KeptSynced git v v' := by
  obtain ⟨v', artifacts, new, hv', hProgress, hJobs, hArtifacts, hOutcome⟩ := hPass.outcome
  have hStarted : (s.passed c').started = new.reverse ++ s.started :=
    congrArg (fun l => List.reverse l ++ s.started) (newGitJobs_eq hJobs hArtifacts hOutcome)
  generalize hState : gitState v' = state at hOutcome
  cases hOutcome with
  | kept =>
    refine ⟨hStarted, v', hv', h.progress.trans hProgress, ?_, fun hHeld => hState ▸ h.holds hHeld⟩
    obtain ⟨c, hc, hTrue⟩ := h.synced
    exact ⟨c, (congrArg Prod.fst hState).trans hc, hTrue⟩
  | @started git' job hGit' hNone hJob =>
    obtain rfl : git = git' := Option.some.inj (hGit.symm.trans hGit')
    rw [hNone] at hKept
    cases hKept
  | @reported git' job hGit' hFound =>
    obtain rfl : git = git' := Option.some.inj (hGit.symm.trans hGit')
    rw [hFound] at hKept
    have hHolds : HoldsCommit git (gitState v') := hState ▸ reportedGit_completed hKept
    exact ⟨hStarted, v', hv', h.progress.trans hProgress, hHolds.1, fun _ => hHolds⟩

theorem keptSynced_step {v1 : Volume} {event : SyncEvent} (h : KeptSynced git v v1)
    (hGit : gitSourceOf v = some git) (hv1 : lookup .volume s.cluster ns name = some v1)
    (hFits : Fits hash ns name s event) (hUnedited : Unedited event)
    (hKept : FinishedJobKept hash ns name s event) :
    (syncStep ns name s event).started.length = s.started.length ∧
      ∃ v', lookup .volume (syncStep ns name s event).cluster ns name = some v' ∧
        KeptSynced git v v' := by
  cases event with
  | edit spec => exact hUnedited.elim
  | jobStatus uid status => exact ⟨List.length_map _, v1, hv1, h⟩
  | elsewhere c => exact ⟨rfl, v1, hFits.trans hv1, h⟩
  | pass env own =>
    obtain rfl : env.gitRevisionHash = hash := hFits
    obtain ⟨rfl, rfl⟩ := key_of_lookup hv1
    have hGit1 : gitSourceOf v1 = some git := by
      unfold gitSourceOf
      rw [h.progress.spec]
      exact hGit
    obtain ⟨hStarted, hAfter⟩ := keptSynced_gitPass h hGit1
      (passed_reconcile env (s := ⟨worldOf s.cluster, own⟩) hv1).1 (hKept v1 git hv1 hGit1)
    exact ⟨congrArg List.length hStarted, hAfter⟩

end

/-- **A synced volume stays synced**, without another Job and with its gate open, in every run in
which the spec is not edited and every pass still finds the finished Job. -/
theorem synced_stays (hash : String → String) (ns name : String) (s : SyncRun)
    (events : List SyncEvent) (v : Volume) (git : VolumeGitRepoSource)
    (hv : lookup .volume s.cluster ns name = some v) (hGit : gitSourceOf v = some git)
    (hSynced : SyncedFromGit v)
    (hFits : Runs.Admitted (syncStep ns name) (Fits hash ns name) s events)
    (hUnedited : ∀ event ∈ events, Unedited event)
    (hKept : Runs.Admitted (syncStep ns name) (FinishedJobKept hash ns name) s events) :
    StillSynced ns name s (Runs.run (syncStep ns name) s events) := by
  have hRun := Runs.run_admitted
    (I := fun s' => s'.started.length = s.started.length ∧
      ∃ v', lookup .volume s'.cluster ns name = some v' ∧ KeptSynced git v v')
    (fun s' event hEvent ⟨hLength, v1, hv1, h⟩ => by
      obtain ⟨hStep, hAfter⟩ := keptSynced_step h hGit hv1 hEvent.1 hEvent.2.1 hEvent.2.2
      exact ⟨hStep.trans hLength, hAfter⟩)
    (Runs.admitted_and hFits (Runs.admitted_and (Runs.admitted_of_forall hUnedited) hKept))
    ⟨rfl, v, hv, .refl v, hSynced, id⟩
  obtain ⟨hLength, v', hv', h⟩ := hRun
  refine ⟨hLength, fun v0 hv0 => ?_⟩
  obtain rfl : v = v0 := Option.some.inj (hv.symm.trans hv0)
  exact ⟨v', hv', h.synced, fun _ => ready_of_progress h.progress hGit h.holds⟩

instance (v : Volume) : Decidable (SyncedFromGit v) :=
  inferInstanceAs (Decidable (∃ c ∈ conditionOf v.status .syncedFromGitSource, _))

instance (hash : String → String) (ns name : String) (s : SyncRun) :
    DecidablePred (FinishedJobKept hash ns name s)
  | .pass _ _ => decidableForallSome
  | .edit _ => instDecidableTrue
  | .jobStatus _ _ => instDecidableTrue
  | .elsewhere _ => instDecidableTrue

def syncedRun : SyncRun := Runs.run (syncStep "shop" "site") siteRun firstFetch

def siteGit : VolumeGitRepoSource :=
  { repoUrl := "https://git.example/site", revision := { commit := "0a1b2c3d" } }

theorem syncedRun_volume : ∃ v, lookup .volume syncedRun.cluster "shop" "site" = some v ∧
    gitSourceOf v = some siteGit ∧ SyncedFromGit v := by
  have hSome : (lookup .volume syncedRun.cluster "shop" "site").isSome = true := by decide +kernel
  have hAll : ∀ v ∈ lookup .volume syncedRun.cluster "shop" "site",
      gitSourceOf v = some siteGit ∧ SyncedFromGit v := by decide +kernel
  obtain ⟨v, hv⟩ := Option.isSome_iff_exists.mp hSome
  exact ⟨v, hv, hAll v hv⟩

theorem synced_stays_twice :
    StillSynced "shop" "site" syncedRun (Runs.run (syncStep "shop" "site") syncedRun
      [.pass syncEnv siteVolume, .pass syncEnv siteVolume]) := by
  obtain ⟨v, hv, hGit, hSynced⟩ := syncedRun_volume
  exact synced_stays id "shop" "site" syncedRun _ v siteGit hv hGit hSynced ⟨rfl, rfl, trivial⟩
    (by decide +kernel) (by decide +kernel)

def expired (c : Cluster) : Cluster := { c with jobs := [] }

theorem lookup_expired {c : Cluster} {ns name : String} :
    lookup .volume (expired c) ns name = lookup .volume c ns name := rfl

def afterExpiry : List SyncEvent :=
  [.elsewhere (expired syncedRun.cluster), .pass syncEnv siteVolume, .pass syncEnv siteVolume]

/-- After the removal of the finished Job the next pass starts another one, whatever the status
says. -/
theorem expired_job_restarts :
    ¬ ∀ (hash : String → String) (ns name : String) (s : SyncRun) (events : List SyncEvent)
      (v : Volume) (git : VolumeGitRepoSource),
      lookup .volume s.cluster ns name = some v → gitSourceOf v = some git → SyncedFromGit v →
      Runs.Admitted (syncStep ns name) (Fits hash ns name) s events →
      (∀ event ∈ events, Unedited event) →
      StillSynced ns name s (Runs.run (syncStep ns name) s events) := by
  intro h
  obtain ⟨v, hv, hGit, hSynced⟩ := syncedRun_volume
  have hFits : Runs.Admitted (syncStep "shop" "site") (Fits id "shop" "site") syncedRun
      afterExpiry := ⟨lookup_expired, rfl, rfl, trivial⟩
  have hRun := h id "shop" "site" syncedRun afterExpiry v siteGit hv hGit hSynced hFits
    (by decide +kernel)
  obtain ⟨v', hv', hStill, -⟩ := hRun.volume v hv
  have hGone : ∀ v ∈ lookup .volume (Runs.run (syncStep "shop" "site") syncedRun
      afterExpiry).cluster "shop" "site", ¬ SyncedFromGit v := by decide +kernel
  exact hGone v' hv' hStill

end ClusterAgent.VolumeController
