import ClusterAgent.ImageBuild.SharedImages
import ClusterAgent.StackResource.ServedPass

/-!
# Cluster agent — the running image over whole runs

Two controllers work on one list of builds: the resource's controller creates,
cancels and deletes them, each build's own controller follows it and, once it is
being deleted, removes its image. Retention goes by age and protects the current
name, and the workload may run neither the newest nor the current build.

* `ServedEvent`, `servedStep` — passes of both controllers in any order, with
  edits of the resource, new builds and cancellations in between;
* `Steady` — the running build is retained, and successes are not cancelled;
* `servedInv_servedStep` — what every steady step keeps.

Main result: `running_image_backed`.
-/

namespace ClusterAgent.StackResourceController

open Pass Effect ImageBuilds
open ImageBuildController (BuildOwn BuildPassed StatusKept NewBuild withBuild)

/-! ## Runs -/

inductive ServedEvent where
  | resourcePass (env : Env)
  | buildPass (env : Env) (buildNs buildName : String)
  /-- Someone creates a build; without a status, which only its controller writes. -/
  | createBuild (b : ImageBuild)
  | cancelBuild (buildNs buildName : String)
  /-- Anything happens to everything but the builds: the resource is edited, Jobs run and
  report, workloads are removed. -/
  | elsewhere (cluster : Cluster) (images : List String)

section

variable (ns name : String)

def servedStep (s : Session BuildOwn) : ServedEvent → Session BuildOwn
  | .resourcePass env => { s with world := finalState (reconcile env ns name s.world) }
  | .buildPass env buildNs buildName =>
    finalState (ImageBuildController.reconcile env buildNs buildName s)
  | .createBuild b => withBuild s b
  | .cancelBuild buildNs buildName =>
    { s with
      world.cluster.imageBuilds := Keyed.write (hasKey buildNs buildName)
        (fun b => { b with spec.cancelled := true }) s.world.cluster.imageBuilds }
  | .elsewhere cluster images =>
    { s with
      world.cluster := { cluster with imageBuilds := s.world.cluster.imageBuilds }
      own.images := images }

/-- Passes over the resource retain the running build, a success is not cancelled, no build
Job has the resource's name, and nobody else writes the workload's template. -/
def Steady (s : Session BuildOwn) : ServedEvent → Prop
  | .resourcePass env => Retains env ns name s.world.cluster
  | .buildPass env buildNs buildName =>
    ∀ b ∈ lookup .imageBuild s.world.cluster buildNs buildName,
      ¬ (buildNs = ns ∧ buildJobName env.jobInputsHash b = name)
  | .createBuild _ => True
  | .cancelBuild buildNs buildName =>
    ∀ b ∈ lookup .imageBuild s.world.cluster buildNs buildName, isImageBuildComplete b = false
  | .elsewhere cluster _ => ∀ t ∈ workloadTemplates ns name cluster,
    t ∈ workloadTemplates ns name s.world.cluster

instance (s : Session BuildOwn) : DecidablePred (Steady ns name s)
  | .resourcePass env => inferInstanceAs (Decidable (Retains env ns name s.world.cluster))
  | .buildPass _ buildNs buildName =>
    inferInstanceAs (Decidable (∀ b ∈ lookup .imageBuild s.world.cluster buildNs buildName, _))
  | .createBuild _ => instDecidableTrue
  | .cancelBuild buildNs buildName =>
    inferInstanceAs (Decidable (∀ b ∈ lookup .imageBuild s.world.cluster buildNs buildName, _))
  | .elsewhere cluster _ =>
    inferInstanceAs (Decidable (∀ t ∈ workloadTemplates ns name cluster, _))

end

/-! ## A pass over a build -/

section

variable {env : Env} {ns buildNs buildName : String} {s s' : Session BuildOwn}

theorem buildPassed_stays (h : BuildPassed env buildNs buildName s s') {b : ImageBuild}
    (hLookup : lookup .imageBuild s.world.cluster buildNs buildName = some b)
    (hLive : b.metadata.deletionTimestamp = none) :
    ∃ b', lookup .imageBuild s'.world.cluster buildNs buildName = some b' := by
  have hWrite : ∀ {f : ImageBuild → ImageBuild}, s'.world.cluster.imageBuilds =
        Keyed.write (hasKey buildNs buildName) f s.world.cluster.imageBuilds →
      (∀ x, hasKey buildNs buildName x = true → hasKey buildNs buildName (f x) = true) →
      ∃ b', lookup .imageBuild s'.world.cluster buildNs buildName = some b' := by
    intro f hBuilds hf
    have hFind : lookup .imageBuild s'.world.cluster buildNs buildName =
        (lookup .imageBuild s.world.cluster buildNs buildName).map f := lookup_write hBuilds hf
    rw [hLookup] at hFind
    exact ⟨f b, hFind⟩
  have hKey : hasKey buildNs buildName b = true := List.find?_some hLookup
  cases h with
  | kept hBuilds _ => exact ⟨b, (lookup_congr hBuilds).trans hLookup⟩
  | cleaned x hx hDeleting _ _ _ =>
    cases hLookup.symm.trans hx
    rw [hLive] at hDeleting
    cases hDeleting
  | guarded x hx _ hBuilds _ =>
    cases hLookup.symm.trans hx
    exact hWrite hBuilds fun _ _ => hKey
  | reported x status _ _ _ hBuilds _ => exact hWrite hBuilds fun _ hx => hx

theorem buildPassed_unique (h : BuildPassed env buildNs buildName s s')
    (hUnique : Unique .imageBuild s.world.cluster) : Unique .imageBuild s'.world.cluster := by
  cases h with
  | kept hBuilds _ => exact hUnique.congr hBuilds
  | cleaned b hLookup _ _ _ hBuilds =>
    have hKey : hasKey buildNs buildName b = true := List.find?_some hLookup
    rcases hBuilds with hBuilds | hBuilds
    · exact hUnique.congr hBuilds
    · unfold ImageBuildController.releasedBuilds at hBuilds
      split at hBuilds
      · exact hUnique.without hBuilds
      · exact hUnique.write hBuilds fun _ _ => hKey
  | guarded b hLookup _ hBuilds _ =>
    have hKey : hasKey buildNs buildName b = true := List.find?_some hLookup
    exact hUnique.write hBuilds fun _ _ => hKey
  | reported b status _ _ _ hBuilds _ => exact hUnique.write hBuilds fun _ hx => hx

theorem BuildsSound.changed {c c' : Cluster} (h : BuildsSound c) (hUnique : Unique .imageBuild c')
    (hOther : ∀ {ns' name'}, ¬ (ns' = buildNs ∧ name' = buildName) →
      lookup .imageBuild c' ns' name' = lookup .imageBuild c ns' name')
    (hOwn : ∀ b, lookup .imageBuild c' buildNs buildName = some b →
      StatusKept b.status ∧ (isImageBuildComplete b = true → b.spec.cancelled = false)) :
    BuildsSound c' := by
  refine ⟨hUnique, fun ns' name' b hb => ?_, fun ns' name' b hb hDone => ?_⟩
  · by_cases hSame : ns' = buildNs ∧ name' = buildName
    · obtain ⟨rfl, rfl⟩ := hSame
      exact (hOwn b hb).1
    · exact h.kept ns' name' b ((hOther hSame).symm.trans hb)
  · by_cases hSame : ns' = buildNs ∧ name' = buildName
    · obtain ⟨rfl, rfl⟩ := hSame
      exact (hOwn b hb).2 hDone
    · exact h.uncancelled ns' name' b ((hOther hSame).symm.trans hb) hDone

theorem BuildsSound.buildPassed (h : BuildsSound s.world.cluster)
    (hPassed : BuildPassed env buildNs buildName s s') : BuildsSound s'.world.cluster := by
  refine h.changed (buildPassed_unique hPassed h.unique)
    (ImageBuildController.buildPassed_other hPassed) fun b' hb' => ?_
  obtain ⟨b, hb, hAfter⟩ := ImageBuildController.buildPassed_lookup hPassed hb'
  have hKept := h.kept buildNs buildName b hb
  refine ⟨hKept.after hAfter.status, fun hDone => ?_⟩
  have hImage : ∀ {x : ImageBuild}, StatusKept x.status →
      (x.status.imageUrl ≠ "" ↔ isImageBuildComplete x = true) := by
    intro x hx
    rw [hx.coherent.image, ← hx.coherent.isImageBuildComplete]
  rw [hAfter.spec]
  rcases hAfter.status.imageUrl with hUrl | ⟨host, hPushes, -⟩
  · refine h.uncancelled buildNs buildName b hb ((hImage hKept).mp ?_)
    rw [← hUrl]
    exact (hImage (hKept.after hAfter.status)).mpr hDone
  · exact hPushes.1

theorem Backed.buildPassed {t : PodTemplateSpec} (h : Backed ns s.world.cluster t)
    (hSound : BuildsSound s.world.cluster) (hPassed : BuildPassed env buildNs buildName s s') :
    Backed ns s'.world.cluster t := by
  obtain ⟨name', b, hLookup, ⟨hDone, hLive⟩, hImage⟩ := h
  by_cases hSame : ns = buildNs ∧ name' = buildName
  · obtain ⟨rfl, rfl⟩ := hSame
    obtain ⟨b', hb'⟩ := buildPassed_stays hPassed hLookup hLive
    obtain ⟨x, hx, hAfter⟩ := ImageBuildController.buildPassed_lookup hPassed hb'
    cases hLookup.symm.trans hx
    have hKept := hSound.kept ns name' b hLookup
    have hTerminal : ImageBuildController.imageBuildInTerminalState b = true := by
      rw [← hKept.coherent.isImageBuildTerminal]
      exact isImageBuildTerminal_of_complete hKept hDone
    have hStatus : b'.status = b.status := hKept.fixed hTerminal hAfter.status
    refine ⟨name', b', hb', ⟨?_, hAfter.deletionTimestamp.trans hLive⟩, by rw [hStatus, hImage]⟩
    unfold isImageBuildComplete at hDone ⊢
    rw [hStatus]
    exact hDone
  · have hOther := ImageBuildController.buildPassed_other hPassed hSame
    exact ⟨name', b, hOther.trans hLookup, ⟨hDone, hLive⟩, hImage⟩

end

/-! ## Steps and runs -/

section

variable {ns name : String}

theorem servedInv_buildPass {env : Env} {buildNs buildName : String} {s : Session BuildOwn}
    (h : ServedInv ns name s.world.cluster)
    (hSteady : Steady ns name s (.buildPass env buildNs buildName)) :
    ServedInv ns name (servedStep ns name s (.buildPass env buildNs buildName)).world.cluster := by
  have hPassed := ImageBuildController.passed_reconcile env buildNs buildName s
  refine ⟨h.builds.buildPassed hPassed.builds, ?_⟩
  have hTemplates : TemplatesMeet ns name (Backed ns s.world.cluster)
      (finalState (ImageBuildController.reconcile env buildNs buildName s)).world := by
    refine AllTemplates.of_touches h.served hPassed.touches (Or.inl (by decide))
      (Or.inl (by decide)) (Or.inl (by decide)) (Or.inr fun job hJob => ?_)
    obtain ⟨hMem, hKey⟩ := List.mem_filter.mp hJob
    rcases hPassed.jobs job hMem with ⟨old, hOld, hSame⟩ | ⟨b, hLookup, -, -, hNew⟩
    · rw [hSame.spec]
      exact h.served.jobs old (List.mem_filter.mpr ⟨hOld, hSame.hasKey ns name ▸ hKey⟩)
    · -- a Job of the build has another name
      obtain ⟨hNs, hName⟩ := hasKey_iff.mp hKey
      have hBuildNs : b.metadata.ns = buildNs := (key_of_lookup hLookup).1
      refine absurd ⟨?_, hNew.name.symm.trans hName⟩ (hSteady b hLookup)
      rw [← hBuildNs, ← hNew.ns, hNs]
  exact hTemplates.mono fun t ht => ht.buildPassed h.builds hPassed.builds

theorem ServedInv.rebuilt {c : Cluster} {builds : List ImageBuild} {buildNs buildName : String}
    (h : ServedInv ns name c) (hUnique : Unique .imageBuild { c with imageBuilds := builds })
    (hOther : ∀ {ns' name'}, ¬ (ns' = buildNs ∧ name' = buildName) →
      lookup .imageBuild { c with imageBuilds := builds } ns' name' =
        lookup .imageBuild c ns' name')
    (hOwn : ∀ b, lookup .imageBuild { c with imageBuilds := builds } buildNs buildName = some b →
      StatusKept b.status ∧ (isImageBuildComplete b = true → b.spec.cancelled = false))
    (hOpen : ∀ b, lookup .imageBuild c buildNs buildName = some b →
      isImageBuildComplete b = false) :
    ServedInv ns name { c with imageBuilds := builds } := by
  have hTemplates : AllTemplates ns name (Backed ns c) { c with imageBuilds := builds } :=
    ⟨h.served.deployment, h.served.statefulSet, h.served.cronJob, h.served.jobs⟩
  refine ⟨h.builds.changed hUnique hOther hOwn, hTemplates.mono ?_⟩
  rintro t ⟨name', b, hLookup, hLives, hImage⟩
  refine ⟨name', b, (hOther ?_).trans hLookup, hLives, hImage⟩
  rintro ⟨rfl, rfl⟩
  exact absurd hLives.1 (Bool.eq_false_iff.mp (hOpen b hLookup))

theorem servedInv_createBuild {s : Session BuildOwn} (h : ServedInv ns name s.world.cluster)
    (b : ImageBuild) : ServedInv ns name (withBuild s b).world.cluster := by
  unfold withBuild
  split
  · exact h
  · next hFree =>
    have hNone : lookup .imageBuild s.world.cluster b.metadata.ns b.metadata.name = none := by
      simpa using hFree
    let blank : ImageBuild := { b with status := {} }
    have hBlank : NewBuild blank := ⟨rfl, Or.inl rfl, rfl⟩
    refine h.rebuilt (h.builds.unique.append (o := blank) rfl hNone)
      (fun hNot => lookup_append_other (o := blank) rfl hNot) (fun x hx => ?_)
      fun x hx => nomatch hNone.symm.trans hx
    cases (lookup_append (o := blank) rfl hNone).symm.trans hx
    exact ⟨hBlank.statusKept, nofun⟩

theorem servedInv_cancelBuild {buildNs buildName : String} {s : Session BuildOwn}
    (h : ServedInv ns name s.world.cluster)
    (hSteady : Steady ns name s (.cancelBuild buildNs buildName)) :
    ServedInv ns name (servedStep ns name s (.cancelBuild buildNs buildName)).world.cluster := by
  let cancel : ImageBuild → ImageBuild := fun b => { b with spec.cancelled := true }
  refine h.rebuilt (h.builds.unique.write (f := cancel) rfl fun _ hx => hx)
    (fun hNot => lookup_write_other (f := cancel) hNot rfl fun _ hx => hx) (fun x hx => ?_) hSteady
  obtain ⟨b, hb, rfl⟩ := Option.map_eq_some_iff.mp
    ((lookup_write (f := cancel) rfl fun _ hx => hx).symm.trans hx)
  exact ⟨h.builds.kept buildNs buildName b hb,
    fun hDone => absurd hDone (Bool.eq_false_iff.mp (hSteady b hb))⟩

theorem servedInv_servedStep (s : Session BuildOwn) (event : ServedEvent)
    (hSteady : Steady ns name s event) (h : ServedInv ns name s.world.cluster) :
    ServedInv ns name (servedStep ns name s event).world.cluster := by
  cases event with
  | resourcePass env => exact served_reconcile env hSteady h
  | buildPass env buildNs buildName => exact servedInv_buildPass h hSteady
  | createBuild b => exact servedInv_createBuild h b
  | cancelBuild buildNs buildName => exact servedInv_cancelBuild h hSteady
  | elsewhere cluster images =>
    refine ⟨h.builds.congr rfl, allTemplates_iff.mpr fun t ht => ?_⟩
    exact (allTemplates_iff.mp h.served t (hSteady t ht)).congr rfl

/-- **The running image is backed.** In every run from new builds and no workload whose
steps are steady, each template of the workload has the image of a build that exists and is
not being deleted. -/
theorem running_image_backed (s : Session BuildOwn) (hUnique : Unique .imageBuild s.world.cluster)
    (hNew : ∀ ns' name' b, lookup .imageBuild s.world.cluster ns' name' = some b → NewBuild b)
    (hNone : workloadTemplates ns name s.world.cluster = []) (events : List ServedEvent)
    (hSteady : Runs.Admitted (servedStep ns name) (Steady ns name) s events) :
    ∀ t ∈ workloadTemplates ns name (Runs.run (servedStep ns name) s events).world.cluster,
      Backed ns (Runs.run (servedStep ns name) s events).world.cluster t := by
  have hStart : ServedInv ns name s.world.cluster := by
    refine ⟨⟨hUnique, fun ns' name' b hb => (hNew ns' name' b hb).statusKept,
      fun ns' name' b hb hDone => ?_⟩, allTemplates_iff.mpr fun t ht => ?_⟩
    · have hPhase := (hNew ns' name' b hb).phase
      unfold isImageBuildComplete at hDone
      rw [decide_eq_true_iff] at hDone
      rcases hPhase with hPhase | hPhase
      · rw [hPhase] at hDone
        cases hDone
      · rw [hPhase] at hDone
        cases hDone
    · rw [hNone] at ht
      cases ht
  have hEnd : ServedInv ns name (Runs.run (servedStep ns name) s events).world.cluster :=
    Runs.run_admitted (I := fun s => ServedInv ns name s.world.cluster) servedInv_servedStep
      hSteady hStart
  exact allTemplates_iff.mp hEnd.served

end

def servedEnv (time : Int) : Env :=
  { ImageBuildController.buildEnv with
    clock := { wall := time * second, monotonic := 0 }
    buildInputsHash := fun spec => spec.sourceRevision.getSourceRevisionString
    historyLimit := 1 }

def servedResource (commit : String) : StackResource where
  metadata := { name := "api", ns := "shop", uid := "api", generation := 1 }
  spec :=
    { buildSpec := some
        { sourceContext := { git := some { repoUrl := "git.example/shop/api" } }
          buildContext := "."
          dockerFilePath := "Dockerfile"
          sourceRevision := { gitRepo := some { branch := "main", commit := commit } }
          repository := { clusterRegistryRef := some "zot", repository := "shop/api" } } }
  status := {}

def servedBuildName (commit : String) : String :=
  imageBuildName (servedEnv 0).buildInputsHash "api"
    ((servedResource commit).spec.buildSpec.get rfl)

def servedStart : Session BuildOwn where
  world :=
    { cluster :=
        { clusterRegistries := [ImageBuildController.zotRegistry]
          stackResources := [servedResource "abc123"] }
      resource := servedResource "abc123" }
  own := { build := ImageBuildController.gitBuild "" "" }

def servedRun (events : List ServedEvent) : Session BuildOwn :=
  Runs.run (servedStep "shop" "api") servedStart events

def jobsDone (s : Session BuildOwn) (images : List String) : ServedEvent :=
  .elsewhere
    { s.world.cluster with
      jobs := s.world.cluster.jobs.map fun job =>
        { job with status.conditions := [{ type := .complete, status := .conditionTrue }] } }
    images

def commitChanged (s : Session BuildOwn) (commit : String) : ServedEvent :=
  .elsewhere { s.world.cluster with stackResources := [servedResource commit] } s.own.images

def buildStarted : List ServedEvent :=
  [.resourcePass (servedEnv 7), .buildPass (servedEnv 7) "shop" (servedBuildName "abc123"),
    .buildPass (servedEnv 7) "shop" (servedBuildName "abc123")]

def firstDeployed : List ServedEvent :=
  buildStarted ++
    [jobsDone (servedRun buildStarted) ["zot:5000/shop/api:abc123"],
      .buildPass (servedEnv 8) "shop" (servedBuildName "abc123"), .resourcePass (servedEnv 9)]

def secondStarted : List ServedEvent :=
  firstDeployed ++
    [commitChanged (servedRun firstDeployed) "def456", .resourcePass (servedEnv 20)]

theorem running_image_backed_secondStarted :
    ∃ t ∈ workloadTemplates "shop" "api" (servedRun secondStarted).world.cluster,
      templateImages t = ["zot:5000/shop/api:abc123"] ∧
        Backed "shop" (servedRun secondStarted).world.cluster t := by
  have hSteady : Runs.Admitted (servedStep "shop" "api") (Steady "shop" "api") servedStart
      secondStarted := by
    decide +kernel
  obtain ⟨t, ht, hImage⟩ : ∃ t ∈ workloadTemplates "shop" "api"
      (servedRun secondStarted).world.cluster,
      templateImages t = ["zot:5000/shop/api:abc123"] := by
    decide +kernel
  have hUnique : Unique .imageBuild servedStart.world.cluster := fun _ hx => nomatch hx
  have hNew : ∀ ns' name' b, lookup .imageBuild servedStart.world.cluster ns' name' = some b →
      NewBuild b := fun _ _ _ hb => nomatch hb
  refine ⟨t, ht, hImage, ?_⟩
  unfold servedRun at ht ⊢
  exact running_image_backed servedStart hUnique hNew (by decide +kernel) secondStarted hSteady t ht

/-- The next pass deletes the only successful build, whose image the Deployment still has;
its finalizer then removes the image. -/
theorem running_build_pruned :
    let pruned := servedRun (secondStarted ++ [.resourcePass (servedEnv 21)])
    let finalized := servedRun (secondStarted ++ [.resourcePass (servedEnv 21),
      .buildPass (servedEnv 22) "shop" (servedBuildName "abc123")])
    (∃ t ∈ workloadTemplates "shop" "api" pruned.world.cluster,
      ¬ ∃ b ∈ pruned.world.cluster.imageBuilds,
        templateImages t = [b.status.imageUrl] ∧ b.metadata.deletionTimestamp = none) ∧
    ∃ t ∈ workloadTemplates "shop" "api" finalized.world.cluster,
      templateImages t = ["zot:5000/shop/api:abc123"] ∧
        "zot:5000/shop/api:abc123" ∉ finalized.own.images := by
  decide +kernel

end ClusterAgent.StackResourceController
