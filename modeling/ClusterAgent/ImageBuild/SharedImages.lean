import ClusterAgent.ImageBuild.StatusRuns

/-!
# Cluster agent — images of several ImageBuilds

The finalizer of a deleted build removes the reference in its status, and does
not ask whether another build has the same one. Builds are told apart by a hash
of everything they are built from; the reference is made of repository and
revision alone. So whether deletions are safe is a question about all pairs of
builds.

* `destination` — repository and tag, what a reference has besides its host;
* `BuildsEvent`, `buildsStep` — runs of all the builds of a cluster;
* `Apart` — the build that is finalized shares its destination with no live one;
* `recorded_buildsStep` — a success has the reference of its destination.

Main result: `live_image_survives`.
-/

namespace ClusterAgent.ImageBuildController

open Pass Effect

/-! ## References -/

def destination (b : ImageBuild) : String :=
  b.spec.repository.repository ++ ":" ++
    resolveTag b.spec.repository.fixedTag (sourceRevision b)

variable {b b' : ImageBuild}

theorem destination_congr (h : b'.spec = b.spec) :
    destination b' = destination b := by
  unfold destination sourceRevision
  rw [h]

theorem imageAt_eq (host : String) (b : ImageBuild) :
    imageAt host b = host ++ "/" ++ destination b := by
  unfold imageAt destination ResolvedRepository.reference
  simp only [String.append_assoc]

def PlainHost (host : String) : Prop := '/' ∉ host.toList

instance (host : String) : Decidable (PlainHost host) := inferInstanceAs (Decidable (_ ∉ _))

theorem dropWhile_plainHost {host : String} (h : PlainHost host) (rest : String) :
    (host ++ "/" ++ rest).toList.dropWhile (· != '/') = '/' :: rest.toList := by
  have hAll : ∀ c ∈ host.toList, (c != '/') = true := fun c hc => by
    rw [bne_iff_ne]
    rintro rfl
    exact h hc
  rw [String.toList_append, String.toList_append, List.append_assoc,
    List.dropWhile_append_of_pos hAll]
  rfl

theorem destination_of_imageAt {host host' : String} (hHost : PlainHost host)
    (hHost' : PlainHost host') (h : imageAt host b = imageAt host' b') :
    destination b = destination b' := by
  have hRest := congrArg (·.toList.dropWhile (· != '/')) h
  simp only [imageAt_eq, dropWhile_plainHost hHost, dropWhile_plainHost hHost'] at hRest
  exact String.toList_inj.mp (List.cons.inj hRest).2

/-- The host of a parsed URL is plain, as documented. -/
def PlainURLHosts (env : Env) : Prop :=
  ∀ raw host, env.urlHost raw = .ok host → PlainHost host

theorem plainHost_of_hostAt {env : Env} {c : Cluster} {spec : ImageRepositorySpec} {host : String}
    (hUrl : PlainURLHosts env) (hExternal : ∀ external ∈ spec.external, PlainHost external.host)
    (h : HostAt env c spec host) : PlainHost host := by
  unfold HostAt at h
  split at h
  · obtain ⟨reg, -, hHost⟩ := h
    exact hUrl _ host hHost
  · next external _ hSome =>
    rw [h]
    exact hExternal external hSome
  · cases h

/-! ## A pass, seen from the other builds -/

section

variable {env : Env} {ns name ns' name' : String} {s s' : Session BuildOwn}

theorem buildPassed_other (h : BuildPassed env ns name s s') (hKey : ¬ (ns' = ns ∧ name' = name)) :
    lookup .imageBuild s'.world.cluster ns' name' = lookup .imageBuild s.world.cluster ns'
      name' := by
  cases h with
  | kept hBuilds _ => exact lookup_congr hBuilds
  | cleaned b hLookup _ _ _ hBuilds =>
    have hOwn : hasKey ns name b = true := List.find?_some hLookup
    rcases hBuilds with hBuilds | hBuilds
    · exact lookup_congr hBuilds
    · unfold releasedBuilds at hBuilds
      split at hBuilds
      · exact lookup_without_other hKey hBuilds
      · exact lookup_write_other hKey hBuilds fun _ _ => hOwn
  | guarded b hLookup _ hBuilds _ =>
    have hOwn : hasKey ns name b = true := List.find?_some hLookup
    exact lookup_write_other hKey hBuilds fun _ _ => hOwn
  | reported b status _ _ _ hBuilds _ => exact lookup_write_other hKey hBuilds fun _ h => h

theorem buildPassed_images (h : BuildPassed env ns name s s') :
    s'.own.images = s.own.images ∨
      ∃ b, lookup .imageBuild s.world.cluster ns name = some b ∧
        b.metadata.deletionTimestamp.isSome = true ∧ b.status.imageUrl ≠ "" ∧
        s'.own.images = s.own.images.filter fun ref => decide (ref ≠ b.status.imageUrl) := by
  cases h with
  | kept _ hImages => exact Or.inl hImages
  | cleaned b hLookup hDeleting _ hImages _ =>
    unfold imagesWithout at hImages
    split at hImages
    · next hCleans =>
      have hUrl : b.status.imageUrl ≠ "" := by
        unfold cleansUp at hCleans
        split at hCleans
        · cases hCleans
        · simp only [Bool.and_eq_true, decide_eq_true_eq] at hCleans
          exact hCleans.1
      exact Or.inr ⟨b, hLookup, hDeleting, hUrl, hImages⟩
    · exact Or.inl hImages
  | guarded _ _ _ _ hImages => exact Or.inl hImages
  | reported _ _ _ _ _ _ hImages => exact Or.inl hImages

end

/-! ## Runs -/

inductive BuildsEvent where
  | pass (env : Env) (ns name : String)
  /-- A build is created; without a status, which only its controller writes. -/
  | create (b : ImageBuild)
  | edit (ns name : String) (metadata : ObjectMeta) (spec : ImageBuildSpec)
  | remove (ns name : String)
  | elsewhere (cluster : Cluster) (images : List String)

def withBuild (s : Session BuildOwn) (b : ImageBuild) : Session BuildOwn :=
  if (lookup .imageBuild s.world.cluster b.metadata.ns b.metadata.name).isSome then s
  else { s with
    world.cluster.imageBuilds := s.world.cluster.imageBuilds ++ [{ b with status := {} }] }

def buildsStep (s : Session BuildOwn) : BuildsEvent → Session BuildOwn
  | .pass env ns name => finalState (reconcile env ns name s)
  | .create b => withBuild s b
  | .edit ns name metadata spec =>
    { s with
      world.cluster.imageBuilds :=
        Keyed.write (hasKey ns name) (editedBuild metadata spec) s.world.cluster.imageBuilds }
  | .remove ns name =>
    { s with
      world.cluster.imageBuilds := s.world.cluster.imageBuilds.filter fun x => !hasKey ns name x }
  | .elsewhere cluster images =>
    { s with
      world.cluster := { cluster with imageBuilds := s.world.cluster.imageBuilds }
      own.images := images }

/-- No live, successful build has the destination of a build that is finalized, and the
destination of a build with an image is not edited. External hosts are plain. -/
def Apart (s : Session BuildOwn) : BuildsEvent → Prop
  | .pass _ ns name => ∀ b ∈ lookup .imageBuild s.world.cluster ns name,
    (∀ external ∈ b.spec.repository.external, PlainHost external.host) ∧
      (b.metadata.deletionTimestamp.isSome = true → ∀ b' ∈ s.world.cluster.imageBuilds,
        hasKey ns name b' = false → ImageBuilds.isImageBuildComplete b' = true →
          b'.metadata.deletionTimestamp = none → destination b' ≠ destination b)
  | .edit ns name metadata spec => ∀ b ∈ lookup .imageBuild s.world.cluster ns name,
    b.status.imageUrl ≠ "" → destination (editedBuild metadata spec b) = destination b
  | _ => True

instance (s : Session BuildOwn) : DecidablePred (Apart s)
  | .pass _ ns name =>
    inferInstanceAs (Decidable (∀ b ∈ lookup .imageBuild s.world.cluster ns name, _))
  | .edit ns name _ _ =>
    inferInstanceAs (Decidable (∀ b ∈ lookup .imageBuild s.world.cluster ns name, _))
  | .create _ => instDecidableTrue
  | .remove _ _ => instDecidableTrue
  | .elsewhere _ _ => instDecidableTrue

def BuildsEvent.PlainURLs : BuildsEvent → Prop
  | .pass env _ _ => PlainURLHosts env
  | _ => True

/-- A recorded reference is that of the destination, at a plain host. -/
def RecordsImage (b : ImageBuild) : Prop :=
  b.status.imageUrl ≠ "" → ∃ host, PlainHost host ∧ b.status.imageUrl = imageAt host b

theorem RecordsImage.congr (h : RecordsImage b) (hUrl : b'.status.imageUrl = b.status.imageUrl)
    (hDest : b.status.imageUrl ≠ "" → destination b' = destination b) : RecordsImage b' := by
  intro hSome
  rw [hUrl] at hSome ⊢
  obtain ⟨host, hHost, hImage⟩ := h hSome
  refine ⟨host, hHost, ?_⟩
  rw [hImage, imageAt_eq, imageAt_eq, hDest hSome]

theorem recordsImage_after {H : String → Prop} (h : RecordsImage b)
    (hPlain : ∀ host, H host → PlainHost host) (hSpec : b'.spec = b.spec)
    (hAfter : StatusAfter H b b'.status) : RecordsImage b' := by
  rcases hAfter.imageUrl with hUrl | ⟨host, hHost, hUrl⟩
  · exact h.congr hUrl fun _ => destination_congr hSpec
  · intro _
    refine ⟨host, hPlain host hHost, ?_⟩
    rw [hUrl, imageAt_eq, imageAt_eq, destination_congr hSpec]

def Recorded (s : Session BuildOwn) : Prop :=
  ∀ ns name b, lookup .imageBuild s.world.cluster ns name = some b →
    StatusKept b.status ∧ RecordsImage b

theorem NewBuild.recordsImage (h : NewBuild b) : RecordsImage b :=
  fun hSome => absurd h.imageUrl hSome

theorem recorded_buildsStep (s : Session BuildOwn) (event : BuildsEvent)
    (hUrl : event.PlainURLs) (hApart : Apart s event) (h : Recorded s) :
    Recorded (buildsStep s event) := by
  intro ns' name' b' hLookup'
  -- only a pass writes a status; every other event keeps it or starts with an empty one
  cases event with
  | pass env ns name =>
    have hPassed : BuildPassed env ns name s (finalState (reconcile env ns name s)) :=
      (passed_reconcile env ns name s).builds
    by_cases hKey : ns' = ns ∧ name' = name
    · obtain ⟨rfl, rfl⟩ := hKey
      obtain ⟨b, hLookup, hAfter⟩ := buildPassed_lookup hPassed hLookup'
      obtain ⟨hKept, hRecords⟩ := h ns' name' b hLookup
      have hPlain : ∀ host, PushesTo env s.world.cluster b host → PlainHost host :=
        fun host hPushes => plainHost_of_hostAt hUrl (hApart b hLookup).1 hPushes.2
      exact ⟨hKept.after hAfter.status,
        recordsImage_after hRecords hPlain hAfter.spec hAfter.status⟩
    · exact h ns' name' b' ((buildPassed_other hPassed hKey).symm.trans hLookup')
  | create b =>
    replace hLookup' : lookup .imageBuild (withBuild s b).world.cluster ns' name' = some b' :=
      hLookup'
    unfold withBuild at hLookup'
    -- a create with a taken name fails
    split at hLookup'
    · exact h ns' name' b' hLookup'
    · have hFind : (s.world.cluster.imageBuilds ++ [({ b with status := {} } : ImageBuild)]).find?
          (hasKey ns' name') = some b' := hLookup'
      rw [List.find?_append] at hFind
      rcases Option.or_eq_some_iff.mp hFind with hOld | ⟨-, hNew⟩
      · exact h ns' name' b' hOld
      · have hBlank : NewBuild b' := by
          have hMem := List.mem_of_find?_eq_some hNew
          rw [List.mem_singleton.mp hMem]
          exact ⟨rfl, Or.inl rfl, rfl⟩
        exact ⟨hBlank.statusKept, hBlank.recordsImage⟩
  -- an edit leaves the status, and `Apart` keeps the image the record stands for
  | edit ns name metadata spec =>
    by_cases hKey : ns' = ns ∧ name' = name
    · obtain ⟨rfl, rfl⟩ := hKey
      have hFind : lookup .imageBuild (buildsStep s (.edit ns' name' metadata spec)).world.cluster
          ns' name' = (lookup .imageBuild s.world.cluster ns' name').map
            (editedBuild metadata spec) :=
        lookup_write rfl fun _ h => h
      obtain ⟨b, hb, rfl⟩ := Option.map_eq_some_iff.mp (hFind.symm.trans hLookup')
      obtain ⟨hKept, hRecords⟩ := h ns' name' b hb
      exact ⟨hKept, hRecords.congr rfl (hApart b hb)⟩
    · have hFind : lookup .imageBuild (buildsStep s (.edit ns name metadata spec)).world.cluster
          ns' name' = lookup .imageBuild s.world.cluster ns' name' :=
        lookup_write_other (f := editedBuild metadata spec) hKey rfl fun _ h => h
      exact h ns' name' b' (hFind.symm.trans hLookup')
  -- a removed build has no record to keep
  | remove ns name =>
    by_cases hKey : ns' = ns ∧ name' = name
    · obtain ⟨rfl, rfl⟩ := hKey
      have hNone : lookup .imageBuild (buildsStep s (.remove ns' name')).world.cluster
          ns' name' = none := lookup_without rfl
      rw [hNone] at hLookup'
      cases hLookup'
    · have hFind : lookup .imageBuild (buildsStep s (.remove ns name)).world.cluster ns' name' =
          lookup .imageBuild s.world.cluster ns' name' := lookup_without_other hKey rfl
      exact h ns' name' b' (hFind.symm.trans hLookup')
  | elsewhere cluster images => exact h ns' name' b' hLookup'

/-- A pass that meets the condition leaves the images of all live, successful builds. -/
theorem image_survives_pass {s : Session BuildOwn} {env : Env} {ns name ns' name' : String}
    (h : Recorded s) (hApart : Apart s (.pass env ns name))
    (hLookup' : lookup .imageBuild s.world.cluster ns' name' = some b')
    (hDone : ImageBuilds.isImageBuildComplete b' = true)
    (hLive : b'.metadata.deletionTimestamp = none) (hImage : b'.status.imageUrl ∈ s.own.images) :
    b'.status.imageUrl ∈ (buildsStep s (.pass env ns name)).own.images := by
  have hPassed : BuildPassed env ns name s (finalState (reconcile env ns name s)) :=
    (passed_reconcile env ns name s).builds
  rcases buildPassed_images hPassed with hSame | ⟨b, hLookup, hDeleting, hUrl, hImages⟩
  · show _ ∈ (finalState (reconcile env ns name s)).own.images
    rw [hSame]
    exact hImage
  · show _ ∈ (finalState (reconcile env ns name s)).own.images
    rw [hImages]
    refine List.mem_filter.mpr ⟨hImage, decide_eq_true fun hShared => ?_⟩
    -- the reference determines the destination, which is the finalized build's alone
    obtain ⟨hKept', hRecords'⟩ := h ns' name' b' hLookup'
    obtain ⟨host, hHost, hRecorded⟩ := (h ns name b hLookup).2 hUrl
    obtain ⟨host', hHost', hRecorded'⟩ := hRecords' (hShared ▸ hUrl)
    have hDest : destination b' = destination b := by
      refine destination_of_imageAt hHost' hHost ?_
      rw [← hRecorded', ← hRecorded, hShared]
    have hOther : hasKey ns name b' = false := by
      cases hSame : hasKey ns name b' with
      | false => rfl
      | true =>
        -- under the same key it would be the build that is being deleted
        obtain ⟨rfl, rfl⟩ := hasKey_iff.mp hSame
        obtain ⟨rfl, rfl⟩ := key_of_lookup hLookup'
        cases hLookup.symm.trans hLookup'
        rw [hLive] at hDeleting
        cases hDeleting
    exact (hApart b hLookup).2 hDeleting b' (List.mem_of_find?_eq_some hLookup') hOther hDone
      hLive hDest

/-- **Deletions are safe between builds that are apart.** In every run from new builds whose
steps meet the condition, no pass removes the image of a build that is successful and not
being deleted. -/
theorem live_image_survives (s : Session BuildOwn)
    (hNew : ∀ ns name b, lookup .imageBuild s.world.cluster ns name = some b → NewBuild b)
    (events : List BuildsEvent) (env : Env) (ns name : String)
    (hUrls : ∀ event ∈ events, event.PlainURLs)
    (hApart : Runs.Admitted buildsStep Apart s (events ++ [.pass env ns name]))
    {ns' name' : String} {b' : ImageBuild}
    (hLookup' : lookup .imageBuild (Runs.run buildsStep s events).world.cluster ns' name' = some b')
    (hDone : ImageBuilds.isImageBuildComplete b' = true)
    (hLive : b'.metadata.deletionTimestamp = none)
    (hImage : b'.status.imageUrl ∈ (Runs.run buildsStep s events).own.images) :
    b'.status.imageUrl ∈ (Runs.run buildsStep s (events ++ [.pass env ns name])).own.images := by
  obtain ⟨hFront, hLast⟩ := Runs.admitted_append hApart
  have hStart : Recorded s := fun ns name b hb =>
    ⟨(hNew ns name b hb).statusKept, (hNew ns name b hb).recordsImage⟩
  have hRecorded : Recorded (Runs.run buildsStep s events) :=
    Runs.run_admitted (fun s event hStep => recorded_buildsStep s event hStep.2 hStep.1)
      (Runs.admitted_and hFront (Runs.admitted_of_forall hUrls)) hStart
  rw [Runs.run_append]
  exact image_survives_pass hRecorded hLast.1 hLookup' hDone hLive hImage

def finishing (b : ImageBuild) (images : List String) : List BuildsEvent :=
  [.pass buildEnv "shop" b.name, .pass buildEnv "shop" b.name,
    .elsewhere { buildCluster [] with jobs := [completeJob b] } images,
    .pass buildEnv "shop" b.name]

def secondOutlives (first second : ImageBuild) : List BuildsEvent :=
  finishing first ["zot:5000/shop/api:abc123"] ++
    finishing second ["zot:5000/shop/api:abc123", "zot:5000/shop/api:def456"] ++
    [.edit "shop" first.name
      { first.metadata with
        finalizers := [imageBuildCleanupFinalizer], deletionTimestamp := some 9 } first.spec]

def apiBuild : ImageBuild := gitBuild "api-1" "Dockerfile"

def nextBuild : ImageBuild := gitBuild "api-2" "Dockerfile" "def456"

def slimBuild : ImageBuild := gitBuild "api-2" "Dockerfile.slim"

theorem live_image_survives_next :
    "zot:5000/shop/api:def456" ∈ (Runs.run buildsStep (buildSession [apiBuild, nextBuild])
      (secondOutlives apiBuild nextBuild ++ [.pass buildEnv "shop" "api-1"])).own.images := by
  have hNew : ∀ ns name b,
      lookup .imageBuild (buildSession [apiBuild, nextBuild]).world.cluster ns name = some b →
        NewBuild b := by
    intro ns name b hb
    have hMem : b ∈ [apiBuild, nextBuild] := List.mem_of_find?_eq_some hb
    rcases List.mem_pair.mp hMem with rfl | rfl
    · exact ⟨rfl, Or.inl rfl, rfl⟩
    · exact ⟨rfl, Or.inl rfl, rfl⟩
  have hUrls : ∀ event ∈ secondOutlives apiBuild nextBuild, event.PlainURLs := by
    have hPlain : PlainURLHosts buildEnv := by
      rintro raw _ ⟨rfl⟩
      decide
    simp [secondOutlives, finishing, BuildsEvent.PlainURLs, hPlain]
  have hApart : Runs.Admitted buildsStep Apart (buildSession [apiBuild, nextBuild])
      (secondOutlives apiBuild nextBuild ++ [.pass buildEnv "shop" "api-1"]) := by
    decide +kernel
  obtain ⟨b, hLookup, hDone, hLive, hUrl, hImage⟩ : ∃ b ∈ lookup .imageBuild
      (Runs.run buildsStep (buildSession [apiBuild, nextBuild])
        (secondOutlives apiBuild nextBuild)).world.cluster "shop" "api-2",
      ImageBuilds.isImageBuildComplete b = true ∧ b.metadata.deletionTimestamp = none ∧
      b.status.imageUrl = "zot:5000/shop/api:def456" ∧
      b.status.imageUrl ∈ (Runs.run buildsStep (buildSession [apiBuild, nextBuild])
        (secondOutlives apiBuild nextBuild)).own.images := by
    decide +kernel
  rw [Option.mem_def] at hLookup
  rw [← hUrl]
  exact live_image_survives _ hNew _ buildEnv "shop" "api-1" hUrls hApart hLookup hDone hLive hImage

/-- Two builds of one commit have the same reference, and finalizing one of them removes it
from the other, which is successful and stays. -/
theorem shared_image_deleted :
    let s := Runs.run buildsStep (buildSession [apiBuild, slimBuild])
      (secondOutlives apiBuild slimBuild)
    let s' := buildsStep s (.pass buildEnv "shop" "api-1")
    ∃ b ∈ lookup .imageBuild s.world.cluster "shop" "api-2",
      ImageBuilds.isImageBuildComplete b = true ∧ b.metadata.deletionTimestamp = none ∧
      b.status.imageUrl ∈ s.own.images ∧ b.status.imageUrl ∉ s'.own.images ∧
      lookup .imageBuild s'.world.cluster "shop" "api-2" = some b := by
  decide +kernel

end ClusterAgent.ImageBuildController
