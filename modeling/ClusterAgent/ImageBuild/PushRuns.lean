import ClusterAgent.ImageBuild.StatusRuns

/-!
# Cluster agent — pushed images over whole runs

The image of a build is pushed by the pod of its Job, at a time of the pod's
choosing; the agent records the reference once it sees the Job complete, and its
finalizer removes what is recorded. Push, completion, record and deletion are steps
of different parties and come in any order the Job and the user make. A Job is
deleted in the background, so its pod may push when the Job is gone.

* `PushState`, `pushStep` — runs of passes, pushes, reports, cancellation and
  deletion, with what every Job created so far pushes to, and the references pushed
  so far, as history;
* `Orderly` — nothing is pushed once deletion is requested, and what was pushed is
  recorded by the time the finalizer runs;
* `pushInv_pushStep` — what every orderly step keeps.

Main result: `pushed_images_removed`.
-/

namespace ClusterAgent.ImageBuildController

open Pass Effect

/-! ## Runs -/

/-- A cluster with its images, the references that the Jobs the build ever had push to, and
those pushed so far. -/
structure PushState where
  session : Session BuildOwn
  started : List String := []
  pushed : List String := []

inductive PushEvent where
  /-- A pass, at its own time, with its own API failures and its own answers of the registry. -/
  | pass (clock : Clock) (fault : Nat → Option GoError)
      (remoteDeleteError : String → Bool → String → String → Option GoError)
  /-- The pods of the Jobs created so far push their image, whether the Jobs are still there
  or not. -/
  | push
  | report (status : JobStatus)
  | dropJob
  | cancel
  | requestDeletion (time : Int)
  /-- Anything happens to everything else, but for the references the Job has pushed. -/
  | elsewhere (cluster : Cluster) (images : List String)

section

variable (env : Env) (b₀ : ImageBuild)

def pushEnv (clock : Clock) (fault : Nat → Option GoError)
    (remoteDeleteError : String → Bool → String → String → Option GoError) : Env :=
  { env with clock := clock, fault := fault, remoteDeleteError := remoteDeleteError }

def storedBuild (c : Cluster) : Option ImageBuild :=
  lookup .imageBuild c b₀.metadata.ns b₀.metadata.name

def isBuild (b : ImageBuild) : Bool := hasKey b₀.metadata.ns b₀.metadata.name b

def isBuildJob (job : Job) : Bool :=
  hasKey b₀.metadata.ns (buildJobName env.jobInputsHash b₀) job

def buildJobs (c : Cluster) : List Job := c.jobs.filter (isBuildJob env b₀)

def destinations (c : Cluster) : List String := (buildJobs env b₀ c).filterMap destinationOf

def marked (time : Int) (b : ImageBuild) : ImageBuild :=
  { b with metadata.deletionTimestamp := some (b.metadata.deletionTimestamp.getD time) }

def deletionRequested (time : Int) (builds : List ImageBuild) : List ImageBuild :=
  if ∃ b ∈ builds.find? (isBuild b₀), b.metadata.finalizers = [] then
    builds.filter fun b => !isBuild b₀ b
  else Keyed.write (isBuild b₀) (marked time) builds

/-- One event in the life of a build. A pod pushes what its Job was created for, and it does so
whether or not the Job is still stored: the Jobs of a cancelled build are deleted with background
propagation, so `started` keeps the destinations of all Jobs there ever were. -/
def pushStep (st : PushState) : PushEvent → PushState
  | .pass clock fault remoteDeleteError =>
    let session := finalState (reconcile (pushEnv env clock fault remoteDeleteError)
      b₀.metadata.ns b₀.metadata.name st.session)
    { st with
      session := session
      started := destinations env b₀ session.world.cluster ++ st.started }
  | .push =>
    { st with
      session.own.images := st.started ++ st.session.own.images
      pushed := st.started ++ st.pushed }
  | .report status =>
    { st with
      session.world.cluster.jobs := Keyed.write (isBuildJob env b₀)
        (fun job => { job with status := status }) st.session.world.cluster.jobs }
  | .dropJob =>
    { st with
      session.world.cluster.jobs :=
        st.session.world.cluster.jobs.filter fun job => !isBuildJob env b₀ job }
  | .cancel =>
    { st with
      session.world.cluster.imageBuilds := Keyed.write (isBuild b₀)
        (fun b => { b with spec.cancelled := true }) st.session.world.cluster.imageBuilds }
  | .requestDeletion time =>
    { st with
      session.world.cluster.imageBuilds :=
        deletionRequested b₀ time st.session.world.cluster.imageBuilds }
  | .elsewhere cluster images =>
    let builds := Keyed.keeping (isBuild b₀) cluster.imageBuilds
      st.session.world.cluster.imageBuilds
    let jobs := Keyed.keeping (isBuildJob env b₀) cluster.jobs st.session.world.cluster.jobs
    { st with
      session.world.cluster := { cluster with imageBuilds := builds, jobs := jobs }
      session.own.images :=
        Keyed.keeping (fun ref => st.pushed.contains ref) images st.session.own.images }

/-- The registry of the build is there and answers under this host. -/
def RegistryAt (host : String) (c : Cluster) (b : ImageBuild) : Prop :=
  ∃ ref ∈ b.spec.repository.clusterRegistryRef, ∃ reg ∈ lookup .clusterRegistry c "" ref,
    hostFromURL env reg.status.internalURL = .ok host

instance (host : String) (c : Cluster) (b : ImageBuild) : Decidable (RegistryAt env host c b) :=
  inferInstanceAs (Decidable (∃ ref ∈ b.spec.repository.clusterRegistryRef, _))

/-- Passes find the registry at one host; when they finalize the build, its Jobs have pushed
nothing or a success is recorded. Pods push only before deletion is requested. -/
def Orderly (host : String) (st : PushState) : PushEvent → Prop
  | .pass _ _ _ => ∀ b ∈ storedBuild b₀ st.session.world.cluster,
    RegistryAt env host st.session.world.cluster b ∧
      (b.metadata.deletionTimestamp.isSome = true →
        st.pushed = [] ∨ ImageBuilds.isImageBuildComplete b = true)
  | .push => ∃ b ∈ storedBuild b₀ st.session.world.cluster, b.metadata.deletionTimestamp = none
  | _ => True

instance (host : String) (st : PushState) : DecidablePred (Orderly env b₀ host st)
  | .pass _ _ _ =>
    inferInstanceAs (Decidable (∀ b ∈ storedBuild b₀ st.session.world.cluster, _))
  | .push => inferInstanceAs (Decidable (∃ b ∈ storedBuild b₀ st.session.world.cluster, _))
  | .report _ => instDecidableTrue
  | .dropJob => instDecidableTrue
  | .cancel => instDecidableTrue
  | .requestDeletion _ => instDecidableTrue
  | .elsewhere _ _ => instDecidableTrue

def guards (b : ImageBuild) : Bool := b.metadata.finalizers.contains imageBuildCleanupFinalizer

/-- The build is gone, or being deleted without the finalizer. -/
def Released (st : PushState) : Prop :=
  ∀ b ∈ storedBuild b₀ st.session.world.cluster,
    b.metadata.deletionTimestamp.isSome = true ∧ guards b = false

instance (st : PushState) : Decidable (Released b₀ st) :=
  inferInstanceAs (Decidable (∀ b ∈ storedBuild b₀ st.session.world.cluster, _))

/-! ## The invariant -/

/-- The build as it was created, but for being cancelled; a recorded reference is the one
at the host, and without the finalizer there was never a Job. -/
structure BuildInv (host : String) (st : PushState) (b : ImageBuild) : Prop where
  spec : b.spec = { b₀.spec with cancelled := b.spec.cancelled }
  kept : StatusKept b.status
  imageUrl : b.status.imageUrl ≠ "" → b.status.imageUrl = imageAt host b₀
  unguarded : b.metadata.deletionTimestamp = none → guards b = false →
    buildJobs env b₀ st.session.world.cluster = [] ∧ st.started = [] ∧ st.pushed = []

/-- What a run keeps: the build's record and the destinations of its Jobs all name the one
reference, everything pushed is that reference, and it is not in the registry once the build is
released. -/
structure PushInv (host : String) (st : PushState) : Prop where
  build : ∀ b ∈ storedBuild b₀ st.session.world.cluster, BuildInv env b₀ host st b
  jobs : ∀ job ∈ buildJobs env b₀ st.session.world.cluster,
    destinationOf job = some (imageAt host b₀)
  started : ∀ ref ∈ st.started, ref = imageAt host b₀
  pushed : ∀ ref ∈ st.pushed, ref = imageAt host b₀
  released : Released b₀ st → ∀ ref ∈ st.pushed, ref ∉ st.session.own.images

end

section

variable {env : Env} {b₀ : ImageBuild} {host : String} {st st' : PushState}

variable {b : ImageBuild}

theorem imageAt_uncancelled (h : b.spec = { b₀.spec with cancelled := b.spec.cancelled }) :
    imageAt host b = imageAt host b₀ := by
  unfold imageAt sourceRevision
  rw [h]

theorem hostAt_unique {c : Cluster} {host' : String} (hRegistry : RegistryAt env host c b)
    (h : HostAt env c b.spec.repository host') :
    host' = host := by
  obtain ⟨ref, hRef, reg, hReg, hHost⟩ := hRegistry
  unfold HostAt at h
  rw [Option.mem_def.mp hRef] at h
  obtain ⟨reg', hReg', hHost'⟩ := h
  cases (Option.mem_def.mp hReg).symm.trans hReg'
  exact Except.ok.inj (hHost'.symm.trans hHost)

/-- A step that pushes nothing and creates no Job: the build is at most cancelled, marked
or removed, and no pushed reference comes back. -/
theorem PushInv.quiet (h : PushInv env b₀ host st)
    (hBuild : ∀ b' ∈ storedBuild b₀ st'.session.world.cluster,
      ∃ b ∈ storedBuild b₀ st.session.world.cluster,
        b'.spec = { b.spec with cancelled := b'.spec.cancelled } ∧ b'.status = b.status ∧
          (b'.metadata.deletionTimestamp = none →
            b.metadata.deletionTimestamp = none ∧ guards b' = guards b))
    (hJobs : ∀ job' ∈ buildJobs env b₀ st'.session.world.cluster,
      ∃ job ∈ buildJobs env b₀ st.session.world.cluster, destinationOf job' = destinationOf job)
    (hStarted : st'.started = st.started) (hPushed : st'.pushed = st.pushed)
    (hImages : ∀ ref ∈ st.pushed, ref ∈ st'.session.own.images → ref ∈ st.session.own.images)
    (hReleased : Released b₀ st' → st.pushed = [] ∨ Released b₀ st) :
    PushInv env b₀ host st' where
  -- the build may only have been cancelled or marked
  build b' hb' := by
    obtain ⟨b, hb, hSpec, hStatus, hLive⟩ := hBuild b' hb'
    have hInv := h.build b hb
    refine ⟨?_, hStatus ▸ hInv.kept, hStatus ▸ hInv.imageUrl, fun hNone hUnguarded => ?_⟩
    · rw [hSpec, hInv.spec]
    · obtain ⟨hNone', hSame⟩ := hLive hNone
      obtain ⟨hNoJobs, hNever, hNoPush⟩ := hInv.unguarded hNone' (hSame ▸ hUnguarded)
      refine ⟨List.eq_nil_iff_forall_not_mem.mpr fun job' hJob' => ?_, hStarted.trans hNever,
        hPushed.trans hNoPush⟩
      obtain ⟨job, hJob, -⟩ := hJobs job' hJob'
      rw [hNoJobs] at hJob
      cases hJob
  jobs job' hJob' := by
    obtain ⟨job, hJob, hSame⟩ := hJobs job' hJob'
    rw [hSame]
    exact h.jobs job hJob
  started := by
    rw [hStarted]
    exact h.started
  pushed := by
    rw [hPushed]
    exact h.pushed
  -- what is released now either had pushed nothing or was released before
  released hAfter ref hRef hImage := by
    rw [hPushed] at hRef
    rcases hReleased hAfter with hNothing | hBefore
    · rw [hNothing] at hRef
      cases hRef
    · exact h.released hBefore ref hRef (hImages ref hRef hImage)

theorem guards_of_subset {b' : ImageBuild} (h : b.metadata.finalizers ⊆ b'.metadata.finalizers)
    (hGuards : guards b = true) : guards b' = true := by
  unfold guards at hGuards ⊢
  rw [List.contains_iff_mem] at hGuards ⊢
  exact h hGuards

/-! ## Passes -/

section

variable {clock : Clock} {fault : Nat → Option GoError}
  {remoteDeleteError : String → Bool → String → String → Option GoError} {s' : Session BuildOwn}

theorem buildJobs_passed
    (hPassed : Passed (pushEnv env clock fault remoteDeleteError) b₀.metadata.ns b₀.metadata.name
      st.session s') {job' : Job} (hJob' : job' ∈ buildJobs env b₀ s'.world.cluster) :
    (∃ job ∈ buildJobs env b₀ st.session.world.cluster, destinationOf job' = destinationOf job) ∨
      ∃ b ∈ storedBuild b₀ st.session.world.cluster, b.metadata.deletionTimestamp = none ∧
        guards b = true ∧ ∃ host, HostAt env st.session.world.cluster b.spec.repository host ∧
          destinationOf job' = some (imageAt host b) := by
  obtain ⟨hMem, hKey⟩ := List.mem_filter.mp hJob'
  rcases hPassed.jobs job' hMem with ⟨job, hJob, hSame⟩ | ⟨b, hLookup, hLive, hGuards, hNew⟩
  · refine Or.inl ⟨job, List.mem_filter.mpr ⟨hJob, ?_⟩, ?_⟩
    · unfold isBuildJob at hKey ⊢
      rw [hasKey_iff] at hKey ⊢
      exact ⟨hSame.ns.symm.trans hKey.1, hSame.name.symm.trans hKey.2⟩
    · unfold destinationOf
      rw [hSame.spec]
  · exact Or.inr ⟨b, hLookup, hLive, hGuards, hNew.destination⟩

theorem imagesWithout_recorded {c : Cluster} {images : List String}
    (hInv : BuildInv env b₀ host st b) (hRegistry : RegistryAt env host c b)
    (hDone : ImageBuilds.isImageBuildComplete b = true) :
    imageAt host b₀ ∉ imagesWithout c b images := by
  have hCoherent := hInv.kept.coherent
  have hUrl : b.status.imageUrl ≠ "" := by
    rw [hCoherent.image, ← hCoherent.isImageBuildComplete]
    exact hDone
  have hCleans : cleansUp c b = true := by
    obtain ⟨ref, hRef, reg, hReg, -⟩ := hRegistry
    unfold cleansUp
    rw [Option.mem_def.mp hRef]
    simp [hUrl, Option.mem_def.mp hReg]
  unfold imagesWithout
  rw [if_pos hCleans, hInv.imageUrl hUrl]
  simp

/-- What a pass that finalizes a build, or leaves it alone, has removed. -/
theorem released_passed (h : PushInv env b₀ host st)
    (hOrderly : Orderly env b₀ host st (.pass clock fault remoteDeleteError))
    (hPassed : BuildPassed (pushEnv env clock fault remoteDeleteError) b₀.metadata.ns
      b₀.metadata.name st.session s')
    (hReleased : ∀ b ∈ storedBuild b₀ s'.world.cluster,
      b.metadata.deletionTimestamp.isSome = true ∧ guards b = false) :
    ∀ ref ∈ st.pushed, ref ∉ s'.own.images := by
  -- a live build is not released
  have hLiveStays : ∀ {b : ImageBuild} {f : ImageBuild → ImageBuild},
      lookup .imageBuild st.session.world.cluster b₀.metadata.ns b₀.metadata.name = some b →
      s'.world.cluster.imageBuilds = Keyed.write (hasKey b₀.metadata.ns b₀.metadata.name) f
        st.session.world.cluster.imageBuilds →
      (∀ x, hasKey b₀.metadata.ns b₀.metadata.name x = true →
        hasKey b₀.metadata.ns b₀.metadata.name (f x) = true) →
      (f b).metadata.deletionTimestamp ≠ none := by
    intro b f hLookup hBuilds hf hLive
    have hFind : lookup .imageBuild s'.world.cluster b₀.metadata.ns b₀.metadata.name =
        (lookup .imageBuild st.session.world.cluster b₀.metadata.ns b₀.metadata.name).map f :=
      lookup_write hBuilds hf
    rw [hLookup] at hFind
    have hDeleting := (hReleased (f b) hFind).1
    rw [hLive] at hDeleting
    cases hDeleting
  cases hPassed with
  | kept hBuilds hImages =>
    rw [hImages]
    exact h.released fun b hb => hReleased b ((lookup_congr hBuilds).trans hb)
  | cleaned b hLookup hDeleting _ hImages _ =>
    intro ref hRef
    obtain ⟨hRegistry, hRecorded⟩ := hOrderly b hLookup
    rcases hRecorded hDeleting with hNothing | hDone
    · rw [hNothing] at hRef
      cases hRef
    · rw [h.pushed ref hRef, hImages]
      exact imagesWithout_recorded (h.build b hLookup) hRegistry hDone
  | guarded b hLookup hLive hBuilds _ =>
    have hKey : hasKey b₀.metadata.ns b₀.metadata.name b = true := List.find?_some hLookup
    exact absurd hLive (hLiveStays hLookup hBuilds fun _ _ => hKey)
  | reported b status hLookup hLive _ hBuilds _ =>
    exact absurd hLive (hLiveStays hLookup hBuilds fun _ hx => hx)

theorem destination_passed (h : PushInv env b₀ host st)
    (hOrderly : Orderly env b₀ host st (.pass clock fault remoteDeleteError))
    (hPassed : Passed (pushEnv env clock fault remoteDeleteError) b₀.metadata.ns b₀.metadata.name
      st.session s') {job' : Job} (hJob' : job' ∈ buildJobs env b₀ s'.world.cluster) :
    destinationOf job' = some (imageAt host b₀) := by
  rcases buildJobs_passed hPassed hJob' with ⟨job, hJob, hSame⟩ | ⟨b, hb, -, -, host', hHost, hTo⟩
  · rw [hSame]
    exact h.jobs job hJob
  · rw [hTo, hostAt_unique (hOrderly b hb).1 hHost, imageAt_uncancelled (h.build b hb).spec]

theorem mem_destinations {c : Cluster} {ref : String} (hRef : ref ∈ destinations env b₀ c) :
    ∃ job ∈ buildJobs env b₀ c, destinationOf job = some ref := List.mem_filterMap.mp hRef

theorem pushInv_pass (h : PushInv env b₀ host st)
    (hOrderly : Orderly env b₀ host st (.pass clock fault remoteDeleteError))
    (hPassed : Passed (pushEnv env clock fault remoteDeleteError) b₀.metadata.ns b₀.metadata.name
      st.session s') :
    PushInv env b₀ host
      { st with session := s', started := destinations env b₀ s'.world.cluster ++ st.started } where
  build b' hb' := by
    obtain ⟨b, hb, hAfter⟩ := buildPassed_lookup hPassed.builds hb'
    have hInv := h.build b hb
    refine ⟨hAfter.spec ▸ hInv.spec, hInv.kept.after hAfter.status, ?_, fun hNone hUnguarded => ?_⟩
    -- the reference stays, or the pass has recorded it at the one host
    · rcases hAfter.status.imageUrl with hUrl | ⟨host', hHost, hUrl⟩
      · rw [hUrl]
        exact hInv.imageUrl
      · intro _
        rw [hUrl, hostAt_unique (hOrderly b hb).1 hHost.2, imageAt_uncancelled hInv.spec]
    · -- without the finalizer the pass has created no Job
      have hLive : b.metadata.deletionTimestamp = none := hAfter.deletionTimestamp ▸ hNone
      have hBefore : guards b = false := by
        refine Bool.eq_false_iff.mpr fun hGuards => ?_
        rw [guards_of_subset (hAfter.finalizers hLive) hGuards] at hUnguarded
        cases hUnguarded
      obtain ⟨hNoJobs, hNever, hNoPush⟩ := hInv.unguarded hLive hBefore
      have hStill : buildJobs env b₀ s'.world.cluster = [] := by
        refine List.eq_nil_iff_forall_not_mem.mpr fun job' hJob' => ?_
        rcases buildJobs_passed hPassed hJob' with ⟨job, hJob, -⟩ | ⟨x, hx, -, hGuards, -⟩
        · rw [hNoJobs] at hJob
          cases hJob
        · cases (Option.mem_def.mp hx).symm.trans hb
          rw [hBefore] at hGuards
          cases hGuards
      refine ⟨hStill, ?_, hNoPush⟩
      unfold destinations
      rw [hStill, hNever]
      rfl
  jobs job' hJob' := destination_passed h hOrderly hPassed hJob'
  -- the new destinations are those of the Jobs after the pass
  started ref hRef := by
    rcases List.mem_append.mp hRef with hNew | hOld
    · obtain ⟨job, hJob, hTo⟩ := mem_destinations hNew
      exact Option.some.inj (hTo.symm.trans (destination_passed h hOrderly hPassed hJob))
    · exact h.started ref hOld
  pushed := h.pushed
  released hReleased := by
    have hRemoved := released_passed h hOrderly hPassed.builds hReleased
    exact hRemoved

end

/-! ## The other steps -/

theorem pushInv_push (h : PushInv env b₀ host st) (hOrderly : Orderly env b₀ host st .push) :
    PushInv env b₀ host (pushStep env b₀ st .push) := by
  obtain ⟨b, hb, hLive⟩ := hOrderly
  refine ⟨fun x hx => ?_, h.jobs, h.started, fun ref hRef => ?_, fun hReleased => ?_⟩
  · have hInv := h.build x hx
    refine ⟨hInv.spec, hInv.kept, hInv.imageUrl, fun hNone hUnguarded => ?_⟩
    obtain ⟨hNoJobs, hNever, hNoPush⟩ := hInv.unguarded hNone hUnguarded
    refine ⟨hNoJobs, hNever, ?_⟩
    change st.started ++ st.pushed = []
    rw [hNever, hNoPush]
    rfl
  · rcases List.mem_append.mp hRef with hNew | hOld
    · exact h.started ref hNew
    · exact h.pushed ref hOld
  · have hDeleting := (hReleased b hb).1
    rw [hLive] at hDeleting
    cases hDeleting

theorem storedBuild_requestDeletion (env : Env) (b₀ : ImageBuild) (st : PushState) (time : Int) :
    (storedBuild b₀ (pushStep env b₀ st (.requestDeletion time)).session.world.cluster = none ∧
        ∀ b ∈ storedBuild b₀ st.session.world.cluster, b.metadata.finalizers = []) ∨
      storedBuild b₀ (pushStep env b₀ st (.requestDeletion time)).session.world.cluster =
        (storedBuild b₀ st.session.world.cluster).map (marked time) := by
  unfold pushStep deletionRequested
  dsimp only
  split
  · next hFree =>
    obtain ⟨b, hb, hNone⟩ := hFree
    refine Or.inl ⟨lookup_without rfl, fun x hx => ?_⟩
    cases (Option.mem_def.mp hx).symm.trans hb
    exact hNone
  · exact Or.inr (lookup_write rfl fun _ hx => hx)

theorem PushInv.unguarded (h : PushInv env b₀ host st)
    (hUnguarded : ∀ b ∈ storedBuild b₀ st.session.world.cluster, guards b = false) :
    st.pushed = [] ∨ Released b₀ st := by
  cases hStored : storedBuild b₀ st.session.world.cluster with
  | none => exact Or.inr fun b hb => nomatch hStored.symm.trans hb
  | some b =>
    cases hTime : b.metadata.deletionTimestamp with
    | none => exact Or.inl ((h.build b hStored).unguarded hTime (hUnguarded b hStored)).2.2
    | some time =>
      refine Or.inr fun x hx => ?_
      cases hStored.symm.trans hx
      exact ⟨by rw [hTime]; rfl, hUnguarded b hStored⟩

theorem pushInv_pushStep (st : PushState) (event : PushEvent)
    (hOrderly : Orderly env b₀ host st event) (h : PushInv env b₀ host st) :
    PushInv env b₀ host (pushStep env b₀ st event) := by
  -- events that leave the Jobs, or the build, use these
  have hJobsSame : ∀ job ∈ buildJobs env b₀ st.session.world.cluster,
      ∃ job' ∈ buildJobs env b₀ st.session.world.cluster, destinationOf job = destinationOf job' :=
    fun job hJob => ⟨job, hJob, rfl⟩
  have hBuildSame : ∀ b ∈ storedBuild b₀ st.session.world.cluster,
      ∃ b' ∈ storedBuild b₀ st.session.world.cluster,
        b.spec = { b'.spec with cancelled := b.spec.cancelled } ∧ b.status = b'.status ∧
          (b.metadata.deletionTimestamp = none →
            b'.metadata.deletionTimestamp = none ∧ guards b = guards b') :=
    fun b hb => ⟨b, hb, rfl, rfl, fun hNone => ⟨hNone, rfl⟩⟩
  cases event with
  | pass clock fault remoteDeleteError =>
    exact pushInv_pass h hOrderly (passed_reconcile _ _ _ _)
  | push => exact pushInv_push h hOrderly
  | report status =>
    -- a report on the Job changes neither its name nor its destination
    refine h.quiet hBuildSame (fun job' hJob' => ?_) rfl rfl (fun _ _ hRef => hRef) Or.inr
    obtain ⟨job, hJob, rfl⟩ := Keyed.mem_filter_write hJob'
    exact ⟨job, hJob, rfl⟩
  | dropJob =>
    refine h.quiet hBuildSame (fun job' hJob' => ?_) rfl rfl (fun _ _ hRef => hRef) Or.inr
    -- the Job goes, but not what it was created to push: `started` stays
    have hNone : buildJobs env b₀ (pushStep env b₀ st .dropJob).session.world.cluster = [] :=
      Keyed.filter_without _
    rw [hNone] at hJob'
    cases hJob'
  | cancel =>
    have hStored : storedBuild b₀ (pushStep env b₀ st .cancel).session.world.cluster =
        (storedBuild b₀ st.session.world.cluster).map
          fun b => { b with spec.cancelled := true } := lookup_write rfl fun _ hx => hx
    -- cancelling changes nothing but the flag, which the invariant does not read
    refine h.quiet (fun b' hb' => ?_) hJobsSame rfl rfl (fun _ _ hRef => hRef) fun hAfter =>
      Or.inr fun b hb => ?_
    · rw [hStored] at hb'
      obtain ⟨b, hb, rfl⟩ := Option.map_eq_some_iff.mp hb'
      exact ⟨b, hb, rfl, rfl, fun hNone => ⟨hNone, rfl⟩⟩
    · refine hAfter { b with spec.cancelled := true } ?_
      rw [hStored, Option.mem_def.mp hb]
      rfl
  | requestDeletion time =>
    -- without finalizers the build is gone at once, and then it has pushed nothing
    have hRequested := storedBuild_requestDeletion env b₀ st time
    refine h.quiet (fun b' hb' => ?_) hJobsSame rfl rfl (fun _ _ hRef => hRef) fun hAfter =>
      h.unguarded fun b hb => ?_
    · rcases hRequested with ⟨hGone, -⟩ | hStored
      · rw [hGone] at hb'
        cases hb'
      · obtain ⟨b, hb, rfl⟩ := Option.map_eq_some_iff.mp (hStored.symm.trans hb')
        exact ⟨b, hb, rfl, rfl, fun hNone => nomatch hNone⟩
    · rcases hRequested with ⟨-, hFree⟩ | hStored
      · unfold guards
        rw [hFree b hb]
        rfl
      · rw [Option.mem_def.mp hb] at hStored
        exact (hAfter (marked time b) hStored).2
  | elsewhere cluster images =>
    have hStored : storedBuild b₀
          (pushStep env b₀ st (.elsewhere cluster images)).session.world.cluster =
        storedBuild b₀ st.session.world.cluster := Keyed.find?_keeping _ _
    have hJobs : buildJobs env b₀
          (pushStep env b₀ st (.elsewhere cluster images)).session.world.cluster =
        buildJobs env b₀ st.session.world.cluster := Keyed.filter_keeping _ _
    -- the rest of the cluster may change at will, but for the references the Jobs push
    refine h.quiet ?_ ?_ rfl rfl (fun ref hRef hImage => ?_) fun hAfter => Or.inr fun b hb => ?_
    · rw [hStored]
      exact hBuildSame
    · rw [hJobs]
      exact hJobsSame
    · rcases List.mem_append.mp hImage with hNew | hOld
      · have hOther := (List.mem_filter.mp hNew).2
        simp [hRef] at hOther
      · exact (List.mem_filter.mp hOld).1
    · exact hAfter b (hStored.trans hb)

/-- **Pushed images go with their build.** In every run from a new build whose steps are
orderly, whatever passes, pushes, cancellations and requests come in between, none of the
references its Jobs have pushed is in the registry once the build is released. -/
theorem pushed_images_removed (st : PushState) (hNew : NewBuild b₀)
    (hStored : storedBuild b₀ st.session.world.cluster = some b₀)
    (hNoJobs : buildJobs env b₀ st.session.world.cluster = []) (hNever : st.started = [])
    (hNothing : st.pushed = []) (events : List PushEvent)
    (hOrderly : Runs.Admitted (pushStep env b₀) (Orderly env b₀ host) st events)
    (hReleased : Released b₀ (Runs.run (pushStep env b₀) st events)) :
    ∀ ref ∈ (Runs.run (pushStep env b₀) st events).pushed,
      ref ∉ (Runs.run (pushStep env b₀) st events).session.own.images := by
  have hStart : PushInv env b₀ host st := by
    refine ⟨fun b hb => ?_, fun job hJob => ?_, fun ref hRef => ?_, fun ref hRef => ?_,
      fun _ ref hRef => ?_⟩
    · cases hStored.symm.trans hb
      exact ⟨rfl, hNew.statusKept, fun hUrl => absurd hNew.imageUrl hUrl,
        fun _ _ => ⟨hNoJobs, hNever, hNothing⟩⟩
    · rw [hNoJobs] at hJob
      cases hJob
    · rw [hNever] at hRef
      cases hRef
    · rw [hNothing] at hRef
      cases hRef
    · rw [hNothing] at hRef
      cases hRef
  exact (Runs.run_admitted pushInv_pushStep hOrderly hStart).released hReleased

end

def pushedBuild : ImageBuild := gitBuild "api-1" "Dockerfile"

def pushStart : PushState where
  session := buildSession [pushedBuild]

def plainPass : PushEvent := .pass buildEnv.clock buildEnv.fault buildEnv.remoteDeleteError

def pushRun (events : List PushEvent) : PushState :=
  Runs.run (pushStep buildEnv pushedBuild) pushStart events

def jobStarted : List PushEvent := [plainPass, plainPass]

def jobCompleted : PushEvent :=
  .report { conditions := [{ type := .complete, status := .conditionTrue }] }

def recordedFirst : List PushEvent :=
  jobStarted ++ [.push, jobCompleted, plainPass, .requestDeletion 9, plainPass]

theorem pushed_images_removed_recorded :
    storedBuild pushedBuild (pushRun recordedFirst).session.world.cluster = none ∧
      "zot:5000/shop/api:abc123" ∈ (pushRun recordedFirst).pushed ∧
      "zot:5000/shop/api:abc123" ∉ (pushRun recordedFirst).session.own.images := by
  have hNew : NewBuild pushedBuild := ⟨rfl, Or.inl rfl, rfl⟩
  have hOrderly : Runs.Admitted (pushStep buildEnv pushedBuild)
      (Orderly buildEnv pushedBuild "zot:5000") pushStart recordedFirst := by
    decide +kernel
  have hReleased : Released pushedBuild (pushRun recordedFirst) := by decide +kernel
  have hPushed : "zot:5000/shop/api:abc123" ∈ (pushRun recordedFirst).pushed := by decide +kernel
  have hStored : storedBuild pushedBuild pushStart.session.world.cluster = some pushedBuild := by
    decide +kernel
  refine ⟨by decide +kernel, hPushed, ?_⟩
  unfold pushRun at hPushed hReleased ⊢
  exact pushed_images_removed pushStart hNew hStored (by decide +kernel) rfl rfl recordedFirst
    hOrderly hReleased _ hPushed

/-- The build is gone, its registry is there, and so is an image its Job has pushed. -/
def Leaks (st : PushState) : Prop :=
  storedBuild pushedBuild st.session.world.cluster = none ∧
    RegistryAt buildEnv "zot:5000" st.session.world.cluster pushedBuild ∧
    ∃ ref ∈ st.pushed, ref ∈ st.session.own.images

instance (st : PushState) : Decidable (Leaks st) := inferInstanceAs (Decidable (_ ∧ _))

/-- An image stays behind when the build is deleted before its success is recorded, when it
is cancelled after the push, when its Job pushes after the finalizer ran, and when the pod of
a cancelled Job, which is gone by then, does. -/
theorem pushed_image_left_behind :
    Leaks (pushRun (jobStarted ++ [.push, jobCompleted, .requestDeletion 9, plainPass])) ∧
      Leaks (pushRun (jobStarted ++ [.push, .cancel, plainPass, .requestDeletion 9, plainPass])) ∧
      Leaks (pushRun (jobStarted ++ [.requestDeletion 9, plainPass, .push])) ∧
      Leaks (pushRun (jobStarted ++ [.cancel, plainPass, .requestDeletion 9, plainPass,
        .push])) := by
  decide +kernel

end ClusterAgent.ImageBuildController
