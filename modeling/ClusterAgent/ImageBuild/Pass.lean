import ClusterAgent.Controller.Lookup
import ClusterAgent.ImageBuild.Status

/-!
# Cluster agent — one pass over an ImageBuild

A pass reads the build and does one of three things: it adds the cleanup
finalizer, it follows the build and stores the status it arrived at, or, for a
build that is being deleted, it removes the recorded image and then the
finalizer.

* `BuildPassed` — everything a pass may do to the stored builds and the images;
* `Passed` — the same, with the frame: Jobs and builds, and nothing else;
* `passed_reconcile` — a whole pass, whatever its outcome.
-/

namespace ClusterAgent.ImageBuildController

open Pass Effect Session

/-! ## What it may do -/

def cleansUp (c : Cluster) (b : ImageBuild) : Bool :=
  match b.spec.repository.clusterRegistryRef with
  | none => false
  | some ref => decide (b.status.imageUrl ≠ "") && (lookup .clusterRegistry c "" ref).isSome

def imagesWithout (c : Cluster) (b : ImageBuild) (images : List String) : List String :=
  if cleansUp c b then images.filter fun ref => decide (ref ≠ b.status.imageUrl) else images

def unfinalized (b : ImageBuild) : ImageBuild :=
  { b with
    metadata.finalizers := b.metadata.finalizers.filter fun f =>
      decide (f ≠ imageBuildCleanupFinalizer) }

def finalized (b : ImageBuild) : ImageBuild :=
  { b with metadata.finalizers := b.metadata.finalizers ++ [imageBuildCleanupFinalizer] }

def releasedBuilds (ns name : String) (b : ImageBuild) (builds : List ImageBuild) :
    List ImageBuild :=
  if (unfinalized b).metadata.finalizers.isEmpty then builds.filter fun x => !hasKey ns name x
  else Keyed.write (hasKey ns name) (fun _ => updated b (unfinalized b)) builds

/-- Everything a pass may do to the stored builds and to the images: nothing; remove the image of
a build that is being deleted, and the finalizer with it if that write succeeds; add the
finalizer; or store a status that follows from the one before. -/
inductive BuildPassed (env : Env) (ns name : String) (s s' : Session BuildOwn) : Prop
  | kept (hBuilds : s'.world.cluster.imageBuilds = s.world.cluster.imageBuilds)
      (hImages : s'.own.images = s.own.images)
  | cleaned (b : ImageBuild) (hLookup : lookup .imageBuild s.world.cluster ns name = some b)
      (hDeleting : b.metadata.deletionTimestamp.isSome = true)
      (hGuarded : b.metadata.finalizers.contains imageBuildCleanupFinalizer = true)
      (hImages : s'.own.images = imagesWithout s.world.cluster b s.own.images)
      (hBuilds : s'.world.cluster.imageBuilds = s.world.cluster.imageBuilds ∨
        s'.world.cluster.imageBuilds = releasedBuilds ns name b s.world.cluster.imageBuilds)
  | guarded (b : ImageBuild) (hLookup : lookup .imageBuild s.world.cluster ns name = some b)
      (hLive : b.metadata.deletionTimestamp = none)
      (hBuilds : s'.world.cluster.imageBuilds =
        Keyed.write (hasKey ns name) (fun _ => updated b (finalized b)) s.world.cluster.imageBuilds)
      (hImages : s'.own.images = s.own.images)
  | reported (b : ImageBuild) (status : ImageBuildStatus)
      (hLookup : lookup .imageBuild s.world.cluster ns name = some b)
      (hLive : b.metadata.deletionTimestamp = none)
      (hStatus : if imageBuildInTerminalState b then status = b.status
        else StatusChange (PushesTo env s.world.cluster b) b status)
      (hBuilds : s'.world.cluster.imageBuilds =
        Keyed.write (hasKey ns name) (fun x => { x with status := storedStatus status })
          s.world.cluster.imageBuilds)
      (hImages : s'.own.images = s.own.images)

def passFootprint : Footprint where
  objects := [.job, .imageBuild]

/-- The Job was there before the pass, or was created for a build that is guarded. -/
def JobPassed (env : Env) (ns name : String) (c : Cluster) (job' : Job) : Prop :=
  (∃ job ∈ c.jobs, SameContent job job') ∨
    ∃ b, lookup .imageBuild c ns name = some b ∧ b.metadata.deletionTimestamp = none ∧
      b.metadata.finalizers.contains imageBuildCleanupFinalizer = true ∧ BuildJob env c b job'

structure Passed (env : Env) (ns name : String) (s s' : Session BuildOwn) : Prop where
  builds : BuildPassed env ns name s s'
  touches : Touches passFootprint s.world s'.world
  jobs : ∀ job' ∈ s'.world.cluster.jobs, JobPassed env ns name s.world.cluster job'

section

variable {env : Env} {ns name : String} {s s' : Session BuildOwn}

theorem Passed.of_touches (h : BuildPassed env ns name s s')
    (hTouches : Touches { objects := [.imageBuild] } s.world s'.world) :
      Passed env ns name s s' where
  builds := h
  touches := hTouches.widen
  jobs job hJob := by
    have hJobs : s'.world.cluster.jobs = s.world.cluster.jobs := hTouches.objects .job (by decide)
    rw [hJobs] at hJob
    exact Or.inl ⟨job, hJob, .refl job⟩

theorem Passed.of_reads (h : Reads s.world s'.world) (hImages : s'.own.images = s.own.images) :
    Passed env ns name s s' :=
  .of_touches (.kept (by rw [cluster_of_reads h]) hImages) h.touches

end

/-! ## The pass -/

section

variable (env : Env)

theorem cleanupImage_spec (w : World) {own : BuildOwn} :
    Triple (· = ⟨w, own⟩) (cleanupImage env)
      (fun _ s => Reads w s.world ∧
        s.own = { own with images := imagesWithout w.cluster own.build own.images })
      fun s => Reads w s.world ∧ s.own = own := by
  have hSame : Reads w w := refl_of Reads w
  have hNothing : cleansUp w.cluster own.build = false →
      own = { own with images := imagesWithout w.cluster own.build own.images } := by
    intro hNot
    unfold imagesWithout
    rw [hNot]
    rfl
  unfold cleanupImage
  refine .bind (R := fun b s => b = own.build ∧ s = ⟨w, own⟩) ?_ fun b => .of_each ?_
  · rintro _ rfl
    exact ⟨rfl, rfl⟩
  rintro _ ⟨rfl, rfl⟩
  -- three ways to have nothing to delete: no cluster registry, no recorded image,
  -- a registry that is gone
  cases hRef : own.build.spec.repository.clusterRegistryRef with
  | none =>
    refine .ret ?_
    exact ⟨hSame, hNothing (by unfold cleansUp; rw [hRef])⟩
  | some ref =>
    dsimp only
    split
    · next hEmpty =>
      refine .ret ?_
      exact ⟨hSame, hNothing (by unfold cleansUp; rw [hRef]; simp [hEmpty])⟩
    · next hUrl =>
      refine .bind (onCluster_spec (getObject_spec env .clusterRegistry "" ref w) own)
        fun reg => .of_each ?_
      rintro ⟨w1, own1⟩ ⟨⟨rfl, hReads⟩, hOwn⟩
      change own1 = own at hOwn
      subst own1
      cases hReg : lookup .clusterRegistry w.cluster "" ref with
      | none =>
        refine .ret ?_
        exact ⟨hReads, hNothing (by unfold cleansUp; rw [hRef]; simp [hReg])⟩
      | some reg =>
        have hCleans : cleansUp w.cluster own.build = true := by
          unfold cleansUp
          rw [hRef]
          simp [hReg, hUrl]
        have hCredentials : Ensures (· = w1) (registryCredentials env reg) (Reads w) :=
          ((reads_registryCredentials env reg).continues w).start hReads
        refine .bind (onCluster_spec hCredentials own) fun credentials => .of_each ?_
        rintro ⟨w2, own2⟩ ⟨hReads2, hOwn⟩
        change own2 = own at hOwn
        subst own2
        unfold deleteImage
        split
        -- a registry that cannot be reached or refuses leaves the image, and the pass fails
        · refine .err ?_
          exact ⟨hReads2, rfl⟩
        · split
          · refine .err ?_
            exact ⟨hReads2, rfl⟩
          · refine .modify ?_
            rintro _ rfl
            refine ⟨hReads2, ?_⟩
            unfold imagesWithout
            rw [hCleans]
            rfl

theorem passed_finalize {ns name : String} {s : Session BuildOwn} {w : World}
    {b : ImageBuild} (hReads : Reads s.world w)
    (hLookup : lookup .imageBuild s.world.cluster ns name = some b)
    (hDeleting : b.metadata.deletionTimestamp.isSome = true) :
    Ensures (· = ⟨w, { s.own with build := b }⟩) (finalize env) (Passed env ns name s) := by
  have hCluster : w.cluster = s.world.cluster := cluster_of_reads hReads
  unfold finalize
  refine .bind (R := fun x s' => x = b ∧ s' = ⟨w, { s.own with build := b }⟩) ?_
    fun x => .of_each ?_
  · rintro _ rfl
    exact ⟨rfl, rfl⟩
  rintro _ ⟨rfl, rfl⟩
  -- only the finalizer of this controller makes it clean up
  split
  · next hGuarded =>
    have hFailed : ∀ s', Reads w s'.world ∧ s'.own = { s.own with build := x } →
        Passed env ns name s s' := by
      rintro s' ⟨hs', hOwn⟩
      exact .of_reads (trans_of Reads hReads hs') (by rw [hOwn])
    refine .bind ((cleanupImage_spec env w).onError hFailed)
      fun _ => .of_each ?_
    rintro ⟨w1, own1⟩ ⟨hReads1, hOwn⟩
    have hReads1 : Reads s.world w1 := trans_of Reads hReads hReads1
    have hCluster1 : w1.cluster = s.world.cluster := cluster_of_reads hReads1
    have hImages : own1.images = imagesWithout s.world.cluster x s.own.images := by
      rw [show own1 = _ from hOwn, hCluster]
    have hKey : x.metadata.ns = ns ∧ x.metadata.name = name :=
      key_of_lookup hLookup
    have hHas : Has { objects := [.imageBuild] }
        (updateOrRelease env .imageBuild (unfinalized x)) := has_updateOrRelease env (by decide)
    have hUpdate := onCluster_spec ((updateOrRelease_spec env .imageBuild (unfinalized x) w1).and
      (hHas.leads hReads1.touches)) own1
    refine .bind (hUpdate.onError ?_) fun _ => .pure ?_
    -- the update failed: the image is gone, the build still has its finalizer
    · rintro ⟨w2, own2⟩ ⟨⟨hReads2, hTouches⟩, rfl⟩
      refine .of_touches (.cleaned x hLookup hDeleting hGuarded hImages (Or.inl ?_)) hTouches
      rw [show w2.cluster = _ from cluster_of_reads hReads2, hCluster1]
    -- it succeeded, so the stored build is the one the pass has read
    · rintro ⟨w2, own2⟩ ⟨⟨⟨old, hOld, hBuilds⟩, hTouches⟩, rfl⟩
      refine .of_touches (.cleaned x hLookup hDeleting hGuarded hImages (Or.inr ?_)) hTouches
      have hOld' : lookup .imageBuild s.world.cluster ns name = some old := by
        rw [← hCluster1, ← hKey.1, ← hKey.2]
        exact hOld
      cases hLookup.symm.trans hOld'
      have hGone : (updated x (unfinalized x)).metadata.deletionTimestamp.isSome = true :=
        hDeleting
      have hNs : (unfinalized x).metadata.ns = ns := hKey.1
      have hName : (unfinalized x).metadata.name = name := hKey.2
      rw [hGone, Bool.true_and, hNs, hName] at hBuilds
      unfold releasedBuilds
      rw [← show w1.cluster.imageBuilds = _ from congrArg Cluster.imageBuilds hCluster1]
      exact hBuilds
  · refine .ret ?_
    exact .of_reads hReads rfl

theorem passed_follow {ns name : String} {s : Session BuildOwn} {w : World} {b : ImageBuild}
    (hReads : Reads s.world w) (hLookup : lookup .imageBuild s.world.cluster ns name = some b)
    (hLive : b.metadata.deletionTimestamp = none)
    (hGuarded : b.metadata.finalizers.contains imageBuildCleanupFinalizer = true) :
    Ensures (· = ⟨w, { s.own with build := b }⟩) (do
        let res ← reconcileImageBuild env
        let build ← getBuild
        onCluster (storeStatus env .imageBuild storedStatus build)
        return res) (Passed env ns name s) := by
  have hKey : b.metadata.ns = ns ∧ b.metadata.name = name :=
    key_of_lookup hLookup
  -- no step before the status write touches the stored builds
  have hStep : ∀ {s'}, Follows env b ⟨s.world, { s.own with build := b }⟩ s' →
      s'.world.cluster.imageBuilds = s.world.cluster.imageBuilds := fun h =>
    h.world.touches.objects .imageBuild (by decide)
  have hJobs : ∀ {w'}, JobStep env b s.world w' → ∀ job' ∈ w'.cluster.jobs,
      JobPassed env ns name s.world.cluster job' := fun h job' hJob' =>
    (h.jobs job' hJob').imp_right fun hJob => ⟨b, hLookup, hLive, hGuarded, hJob⟩
  have hStart : ∀ s', s' = ⟨w, { s.own with build := b }⟩ →
      Holds env b ⟨s.world, { s.own with build := b }⟩ b s' := by
    rintro _ rfl
    exact ⟨rfl, jobStep_of_reads hReads, rfl⟩
  -- the pass may fail on the way, with Jobs created and nothing reported
  refine .bind (left_reconcileImageBuild.mono hStart (fun _ _ h => h) ?_)
    fun res => .of_each ?_
  · intro s' h
    exact ⟨.kept (hStep h) h.images, h.world.touches.widen, hJobs h.world⟩
  rintro s1 ⟨hs1, hChanged⟩
  refine .bind (R := fun x s' => s' = s1 ∧ x = s1.own.build) ?_ fun x => .of_each ?_
  · rintro _ rfl
    exact ⟨rfl, rfl⟩
  rintro s2 ⟨hs2, rfl⟩
  subst s2
  have hHas : Has { objects := [.imageBuild] }
      (storeStatus env .imageBuild storedStatus s1.own.build) := has_storeStatus
  have hFrame : ∀ {w'}, Touches { objects := [.imageBuild] } s1.world w' →
      Touches passFootprint s.world w' ∧
        ∀ job' ∈ w'.cluster.jobs, JobPassed env ns name s.world.cluster job' := by
    intro w' h
    refine ⟨(hs1.world.touches.widen).trans h.widen, fun job' hJob' => ?_⟩
    rw [show w'.cluster.jobs = s1.world.cluster.jobs from h.objects .job (by decide)] at hJob'
    exact hJobs hs1.world job' hJob'
  have hStored := onCluster_spec ((storeStatus_spec env .imageBuild storedStatus s1.own.build
    s1.world).and (hHas.leads (.refl _ _))) s1.own
  refine .bind (hStored.onError ?_) fun _ => .pure ?_
  -- a lost status write leaves the record as it was
  · rintro s' ⟨⟨hs', hTouches⟩, hOwn⟩
    refine ⟨.kept ?_ (by rw [hOwn, hs1.images]), (hFrame hTouches).1, (hFrame hTouches).2⟩
    rw [cluster_of_reads hs', hStep hs1]
  · rintro s' ⟨⟨hWritten, hTouches⟩, hOwn⟩
    refine ⟨.reported b s1.own.build.status hLookup hLive ?_ ?_ (by rw [hOwn, hs1.images]),
      (hFrame hTouches).1, (hFrame hTouches).2⟩
    -- an ended build writes back the status it had
    · split at hChanged
      · next hTerminal => rw [if_pos hTerminal, hChanged]
      · next hOpen =>
        rw [if_neg hOpen]
        exact hChanged.status
    · have hMetadata : s1.own.build.metadata = b.metadata := by
        split at hChanged
        · rw [hChanged]
        · exact hChanged.metadata
      rw [hMetadata, hKey.1, hKey.2] at hWritten
      refine Eq.trans hWritten ?_
      exact congrArg _ (hStep hs1)

theorem passed_reconcile (ns name : String) (s : Session BuildOwn) :
    Passed env ns name s (finalState (reconcile env ns name s)) := by
  refine Triple.reached (P := (· = s)) ?_ rfl
  refine Triple.bind ((onCluster_spec (getObject_spec env .imageBuild ns name s.world)
    s.own).onError fun s' h => .of_reads h.1 (by rw [h.2]))
    fun o => .of_each ?_
  rintro ⟨w, own⟩ ⟨⟨rfl, hReads⟩, rfl⟩
  have hCluster : w.cluster = s.world.cluster := cluster_of_reads hReads
  -- a deleted build, a marked one, a live one with the finalizer, a live one without
  cases hLookup : lookup .imageBuild s.world.cluster ns name with
  | none =>
    refine .ret ?_
    exact .of_reads hReads rfl
  | some b =>
    have hKey : b.metadata.ns = ns ∧ b.metadata.name = name :=
      key_of_lookup hLookup
    refine .bind (R := fun _ s' => s' = ⟨w, { s.own with build := b }⟩) ?_ fun _ => ?_
    · rintro _ rfl
      rfl
    split
    · next hDeleting => exact passed_finalize env hReads hLookup hDeleting
    · next hLive =>
      have hLive' : b.metadata.deletionTimestamp = none := by simpa using hLive
      split
      · next hGuarded => exact passed_follow env hReads hLookup hLive' hGuarded
      -- without the finalizer the pass adds it and does no more
      · have hHas : Has { objects := [.imageBuild] } (update env .imageBuild (finalized b)) :=
          has_update
        have hUpdate := onCluster_spec ((update_spec env .imageBuild (finalized b) w).and
          (hHas.leads hReads.touches)) { s.own with build := b }
        refine .bind (hUpdate.onError ?_)
          fun _ => .pure ?_
        · rintro s' ⟨⟨hReads', -⟩, hOwn⟩
          exact .of_reads (trans_of Reads hReads hReads') (by rw [hOwn])
        · rintro s' ⟨⟨⟨old, hOld, rfl, hBuilds⟩, hTouches⟩, hOwn⟩
          refine .of_touches (.guarded b hLookup hLive' ?_ (by rw [hOwn])) hTouches
          have hNs : (finalized b).metadata.ns = ns := hKey.1
          have hName : (finalized b).metadata.name = name := hKey.2
          rw [hNs, hName, hCluster] at hOld hBuilds
          cases hLookup.symm.trans hOld
          exact hBuilds

end

end ClusterAgent.ImageBuildController
