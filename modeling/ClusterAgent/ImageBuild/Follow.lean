import ClusterAgent.ImageBuild.Controller

/-!
# Cluster agent — what following a build touches

Following a build reads the cluster, creates or deletes the build's Jobs and
changes the in-memory build; images are pushed by the Job, not by the agent.

* `BuildJob` — the Job a pass creates for a build, with its destination;
* `JobStep` — a step on the cluster that touches Jobs in this way only;
* `Follows`, `Holds` — the same for a session, with the in-memory build, and the
  rules to peel off one step after the other.
-/

namespace ClusterAgent.ImageBuildController

open Pass Effect Session

/-! ## Jobs -/

def imageAt (host : String) (b : ImageBuild) : String :=
  ResolvedRepository.reference
    { host := host
      repository := b.spec.repository.repository
      tag := resolveTag b.spec.repository.fixedTag (sourceRevision b) }

structure BuildJob (env : Env) (c : Cluster) (b : ImageBuild) (job : Job) : Prop where
  ns : job.metadata.ns = b.metadata.ns
  name : job.metadata.name = buildJobName env.jobInputsHash b
  destination : ∃ host, HostAt env c b.spec.repository host ∧
    destinationOf job = some (imageAt host b)

def jobFootprint : Footprint where
  objects := [.job]

structure JobStep (env : Env) (b : ImageBuild) (w w' : World) : Prop where
  touches : Touches jobFootprint w w'
  jobs : ∀ job' ∈ w'.cluster.jobs,
    (∃ job ∈ w.cluster.jobs, SameContent job job') ∨ BuildJob env w.cluster b job'

section

variable {env : Env} {b : ImageBuild}

theorem BuildJob.sameContent {c : Cluster} {job job' : Job} (h : BuildJob env c b job)
    (hSame : SameContent job job') : BuildJob env c b job' := by
  refine ⟨hSame.ns.trans h.ns, hSame.name.trans h.name, ?_⟩
  unfold destinationOf
  rw [hSame.spec]
  exact h.destination

theorem BuildJob.congr {c c' : Cluster} {job : Job} (h : BuildJob env c b job)
    (hRegistries : c'.clusterRegistries = c.clusterRegistries) : BuildJob env c' b job := by
  obtain ⟨host, hHost, hDestination⟩ := h.destination
  exact ⟨h.ns, h.name, host, hHost.congr env hRegistries, hDestination⟩

theorem clusterRegistries_of_touches {w w' : World} (h : Touches jobFootprint w w') :
    w'.cluster.clusterRegistries = w.cluster.clusterRegistries :=
  h.objects .clusterRegistry (by decide)

instance : IsPreorder World (JobStep env b) where
  refl w := ⟨.refl _ w, fun job hJob => Or.inl ⟨job, hJob, .refl job⟩⟩
  trans := by
    intro w w' w'' h h'
    refine ⟨h.touches.trans h'.touches, fun job'' hJob'' => ?_⟩
    rcases h'.jobs job'' hJob'' with ⟨job', hJob', hSame'⟩ | hNew
    · rcases h.jobs job' hJob' with ⟨job, hJob, hSame⟩ | hNew
      · exact Or.inl ⟨job, hJob, hSame.trans hSame'⟩
      · exact Or.inr (hNew.sameContent hSame')
    · exact Or.inr (hNew.congr (clusterRegistries_of_touches h.touches).symm)

theorem jobStep_of_reads {w w' : World} (h : Reads w w') : JobStep env b w w' := by
  refine ⟨h.touches, fun job hJob => Or.inl ⟨job, ?_, .refl job⟩⟩
  obtain ⟨calls, rfl⟩ := h
  exact hJob

theorem jobStep_delete (job : Job) : Within (JobStep env b) (delete env .job job) := by
  intro w
  have hHas : Has jobFootprint (delete env .job job) := has_delete
  have hJobs := delete_spec env .job job w w rfl
  cases hr : delete env .job job w with
  | ok a w' =>
    rw [hr] at hJobs
    refine ⟨hHas.ok hr, fun job' hJob' => ?_⟩
    obtain ⟨x, hx, hSame, -⟩ := hJobs job' hJob'
    exact Or.inl ⟨x, hx, hSame⟩
  | error e w' =>
    rw [hr] at hJobs
    exact jobStep_of_reads hJobs

theorem jobStep_create {w : World} {job : Job} (hJob : BuildJob env w.cluster b job) :
    Ensures (· = w) (create env .job job) (JobStep env b w) := by
  have hHas : Has jobFootprint (create env .job job) := has_create
  refine ((create_spec env .job job w).and (hHas.leads (.refl _ w))).conseq ?_ ?_
  · rintro stored w' ⟨⟨-, hJobs, hSame⟩, hw'⟩
    refine ⟨hw', fun job' hJob' => ?_⟩
    rw [show w'.cluster.jobs = w.cluster.jobs ++ [stored] from hJobs] at hJob'
    rcases List.mem_append.mp hJob' with hOld | hNew
    · exact Or.inl ⟨job', hOld, .refl job'⟩
    · rw [List.mem_singleton.mp hNew]
      exact Or.inr (hJob.sameContent hSame.toSameContent)
  · rintro w' ⟨hReads, -⟩
    exact jobStep_of_reads hReads

end

/-! ## Sessions -/

/-- What a pass over `b` that started in `s₀` may have done: the Jobs of the build, and no
image. -/
structure Follows (env : Env) (b : ImageBuild) (s₀ s : Session BuildOwn) : Prop where
  world : JobStep env b s₀.world s.world
  images : s.own.images = s₀.own.images

def Holds (env : Env) (b : ImageBuild) (s₀ : Session BuildOwn) (b' : ImageBuild)
    (s : Session BuildOwn) : Prop :=
  s.own.build = b' ∧ Follows env b s₀ s

section

variable {env : Env} {s₀ : Session BuildOwn} {b b' : ImageBuild} {α β : Type}
  {Q : α → Session BuildOwn → Prop}

theorem throw_holds {e : GoError} :
    Triple (Holds env b s₀ b') (throw e : BuildPass α) Q (Follows env b s₀) :=
  .throw fun _ h => h.2

theorem bind_getBuild {f : ImageBuild → BuildPass α}
    (h : Triple (Holds env b s₀ b') (f b') Q (Follows env b s₀)) :
    Triple (Holds env b s₀ b') (getBuild >>= f) Q (Follows env b s₀) := by
  rintro s ⟨rfl, hs⟩
  exact h s ⟨rfl, hs⟩

theorem bind_modifyBuild {g : ImageBuild → ImageBuild} {f : Unit → BuildPass α}
    (h : Triple (Holds env b s₀ (g b')) (f ()) Q (Follows env b s₀)) :
    Triple (Holds env b s₀ b') (modifyBuild g >>= f) Q (Follows env b s₀) := by
  refine .bind (R := fun _ => Holds env b s₀ (g b')) ?_ fun _ => h
  rintro s ⟨rfl, hs⟩
  exact ⟨rfl, hs.world, hs.images⟩

theorem bind_jobStep {m : Pass β} {V : β → Prop} {f : β → BuildPass α}
    (hm : ∀ w, JobStep env b s₀.world w →
      Triple (· = w) m (fun a w' => V a ∧ JobStep env b w w') (JobStep env b w))
    (h : ∀ a, V a → Triple (Holds env b s₀ b') (f a) Q (Follows env b s₀)) :
    Triple (Holds env b s₀ b') (onCluster m >>= f) Q (Follows env b s₀) := by
  refine .bind (R := fun a s => V a ∧ Holds env b s₀ b' s) ?_ fun a => ?_
  · rintro ⟨w, own⟩ ⟨rfl, hs⟩
    refine (onCluster_spec (hm w hs.world) own).conseq ?_ ?_ _ rfl
    · rintro a s ⟨⟨ha, hw⟩, hOwn⟩
      refine ⟨ha, by rw [hOwn], trans_of (JobStep env b) hs.world hw, ?_⟩
      rw [hOwn]
      exact hs.images
    · rintro s ⟨hw, hOwn⟩
      refine ⟨trans_of (JobStep env b) hs.world hw, ?_⟩
      rw [hOwn]
      exact hs.images
  · rintro s ⟨ha, hs⟩
    exact h a ha s hs

theorem bind_within {m : Pass β} {f : β → BuildPass α} (hm : Within (JobStep env b) m)
    (h : ∀ a, Triple (Holds env b s₀ b') (f a) Q (Follows env b s₀)) :
    Triple (Holds env b s₀ b') (onCluster m >>= f) Q (Follows env b s₀) := by
  refine bind_jobStep (V := fun _ => True) (fun w _ => ?_) fun a _ => h a
  refine (hm.triple (P := JobStep env b w) fun _ _ h' h => trans_of (JobStep env b) h h').mono ?_
    (fun _ _ h => ⟨trivial, h⟩) fun _ h => h
  rintro _ rfl
  exact refl_of (JobStep env b) _

theorem bind_reads {m : Pass β} {f : β → BuildPass α} (hm : ReadsOnly m)
    (h : ∀ a, Triple (Holds env b s₀ b') (f a) Q (Follows env b s₀)) :
    Triple (Holds env b s₀ b') (onCluster m >>= f) Q (Follows env b s₀) :=
  bind_within (.mono hm fun _ _ => jobStep_of_reads) h

end

end ClusterAgent.ImageBuildController
