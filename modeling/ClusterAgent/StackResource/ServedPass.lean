import ClusterAgent.StackResource.Retention
import ClusterAgent.StackResource.ServedImage

/-!
# Cluster agent — the build behind the pod template

A workload built from source runs the recorded image of a build. The image is
there as long as the build is: the build's finalizer removes it. So the build
should outlive every template with its image.

* `Backed` — a template has the image of a build that exists and stays;
* `ServedInv` — all templates of the resource are backed, and builds are sound;
* `Retains` — what retention must leave alone in a pass;
* `served_reconcile` — a pass that retains the running build keeps the invariant.
-/

namespace ClusterAgent.StackResourceController

open Pass Effect ImageBuilds
open ImageBuildController (StatusKept NewBuild)
open Workload (imageFor)

/-! ## The invariant -/

def Lives (b : ImageBuild) : Prop :=
  isImageBuildComplete b = true ∧ b.metadata.deletionTimestamp = none

instance (b : ImageBuild) : Decidable (Lives b) := inferInstanceAs (Decidable (_ ∧ _))

/-- The template runs the image of a build that exists and is not being deleted. -/
def Backed (ns : String) (c : Cluster) (t : PodTemplateSpec) : Prop :=
  ∃ buildName b, lookup .imageBuild c ns buildName = some b ∧ Lives b ∧
    templateImages t = [b.status.imageUrl]

/-- One build under a key, statuses that show one ending, and no success that is
cancelled. -/
structure BuildsSound (c : Cluster) : Prop where
  unique : Unique .imageBuild c
  kept : ∀ ns name b, lookup .imageBuild c ns name = some b → StatusKept b.status
  uncancelled : ∀ ns name b, lookup .imageBuild c ns name = some b →
    isImageBuildComplete b = true → b.spec.cancelled = false

/-- What every state of a run keeps: the builds are sound, and each template of the workload has
the image of a successful build that is there and stays. -/
structure ServedInv (ns name : String) (c : Cluster) : Prop where
  builds : BuildsSound c
  served : AllTemplates ns name (Backed ns c) c

section

variable {ns name : String} {c c' : Cluster}

theorem Backed.congr {t : PodTemplateSpec} (h : Backed ns c t)
    (hSame : c'.imageBuilds = c.imageBuilds) : Backed ns c' t := by
  obtain ⟨buildName, b, hLookup, hLives⟩ := h
  exact ⟨buildName, b, (lookup_congr hSame).trans hLookup, hLives⟩

theorem BuildsSound.congr (h : BuildsSound c) (hSame : c'.imageBuilds = c.imageBuilds) :
    BuildsSound c' where
  unique := h.unique.congr hSame
  kept ns name b hb := h.kept ns name b ((lookup_congr hSame).symm.trans hb)
  uncancelled ns name b hb := h.uncancelled ns name b ((lookup_congr hSame).symm.trans hb)

theorem AllTemplates.mono {P Q : PodTemplateSpec → Prop} (h : AllTemplates ns name P c)
    (hPQ : ∀ t, P t → Q t) : AllTemplates ns name Q c :=
  ⟨fun o ho => hPQ _ (h.deployment o ho), fun o ho => hPQ _ (h.statefulSet o ho),
    fun o ho => hPQ _ (h.cronJob o ho), fun o ho => hPQ _ (h.jobs o ho)⟩

variable {fp : Footprint} {w : World}

theorem ServedInv.of_touches {w' : World} (h : ServedInv ns name w.cluster)
    (hTouches : Touches fp w w') (hBuild : .imageBuild ∉ fp.objects)
    (hDeployment : .deployment ∉ fp.objects) (hStatefulSet : .statefulSet ∉ fp.objects)
    (hCronJob : .cronJob ∉ fp.objects) (hJob : .job ∉ fp.objects) :
    ServedInv ns name w'.cluster := by
  have hSame : w'.cluster.imageBuilds = w.cluster.imageBuilds := hTouches.objects .imageBuild hBuild
  have hServed : AllTemplates ns name (Backed ns w.cluster) w'.cluster :=
    TemplatesMeet.outside h.served hTouches hDeployment hStatefulSet hCronJob hJob
  exact ⟨h.builds.congr hSame, hServed.mono fun t ht => ht.congr hSame⟩

theorem isImageBuildTerminal_of_complete {b : ImageBuild} (hKept : StatusKept b.status)
    (hDone : isImageBuildComplete b = true) : isImageBuildTerminal b = true := by
  have hCoherent := hKept.coherent
  rw [hCoherent.isImageBuildComplete] at hDone
  rw [hCoherent.isImageBuildTerminal]
  unfold ImageBuildController.imageBuildInTerminalState
  rw [hDone]
  rfl

theorem BuildsSound.thinned {current : String} {spared : String → Prop} (h : BuildsSound c)
    (hThinned : Thinned ns current spared c c') : BuildsSound c' := by
  have hBlank : ∀ {b : ImageBuild}, b.status = {} → NewBuild b := by
    intro b hb
    refine ⟨?_, Or.inl ?_, ?_⟩ <;> rw [hb]
  refine ⟨hThinned.unique, fun ns' name' b hb => ?_, fun ns' name' b hb hDone => ?_⟩
  · rcases hThinned.stored ns' name' b hb with ⟨b0, hb0, hStatus, -⟩ | hNew
    · exact hStatus ▸ h.kept ns' name' b0 hb0
    · exact (hBlank hNew).statusKept
  · rcases hThinned.stored ns' name' b hb with ⟨b0, hb0, hStatus, hSpec⟩ | hNew
    · have hDone0 : isImageBuildComplete b0 = true := by
        unfold isImageBuildComplete at hDone ⊢
        rw [← hStatus]
        exact hDone
      rw [hSpec (isImageBuildTerminal_of_complete (h.kept ns' name' b0 hb0) hDone0)]
      exact h.uncancelled ns' name' b0 hb0 hDone0
    · unfold isImageBuildComplete at hDone
      rw [hNew] at hDone
      cases hDone

end

/-! ## The pass -/

/-- The resource is built from source; its current build, if it is a success, is not being
deleted; and a build whose image a template runs is the current one or within the history
limit. -/
def Retains (env : Env) (ns name : String) (c : Cluster) : Prop :=
  ∀ r ∈ lookupResource c ns name, ∃ buildSpec ∈ r.spec.buildSpec,
    (∀ b ∈ lookup .imageBuild c ns (generateImageBuildName env r buildSpec),
      isImageBuildComplete b = true → b.metadata.deletionTimestamp = none) ∧
    ∀ t ∈ workloadTemplates ns name c, ∀ b ∈ c.imageBuilds, b.metadata.ns = ns → Lives b →
      templateImages t = [b.status.imageUrl] →
        Spared env r (generateImageBuildName env r buildSpec) c b.metadata.name

instance (env : Env) (ns name : String) (c : Cluster) : Decidable (Retains env ns name c) :=
  inferInstanceAs (Decidable (∀ r ∈ lookupResource c ns name, _))

/-- Where the workload step starts: a success under the current name stays. -/
structure Gated (ns name current : String) (r : StackResource) (w : World) : Prop where
  metadata : w.resource.metadata = r.metadata
  spec : w.resource.spec = r.spec
  inv : ServedInv ns name w.cluster
  current : ∀ b, lookup .imageBuild w.cluster ns current = some b →
    isImageBuildComplete b = true → b.metadata.deletionTimestamp = none

section

variable (env : Env) {ns name current : String} {r : StackResource} {fp : Footprint} {w : World}
  {buildSpec : StackResourceBuildSpec}

def ServedIn (ns name : String) (w : World) : Prop := ServedInv ns name w.cluster

theorem Gated.of_touches {w' : World} (h : Gated ns name current r w) (hTouches : Touches fp w w')
    (hNone : fp.objects = []) : Gated ns name current r w' where
  metadata := hTouches.metadata.trans h.metadata
  spec := hTouches.spec.trans h.spec
  inv := by
    refine h.inv.of_touches hTouches ?_ ?_ ?_ ?_ ?_ <;> (rw [hNone]; exact List.not_mem_nil)
  current b hb := by
    have hNot : .imageBuild ∉ fp.objects := hNone ▸ List.not_mem_nil
    exact h.current b ((lookup_same .imageBuild (hTouches.objects _ hNot)).symm.trans hb)

theorem Gated.of_reads {w' : World} (h : Gated ns name current r w) (hReads : Reads w w') :
    Gated ns name current r w' := by
  obtain ⟨calls, rfl⟩ := hReads
  exact ⟨h.metadata, h.spec, h.inv, h.current⟩

theorem gated_of_has {α : Type} {m : Pass α} (h : Has fp m) (hNone : fp.objects = []) :
    Triple (Gated ns name current r) m (fun _ => Gated ns name current r) (ServedIn ns name) :=
  (h.triple fun _ _ hTouches hw => Gated.of_touches hw hTouches hNone).onError fun _ h => h.inv

theorem spared_congr {r' : StackResource} {c c' : Cluster} (h : r'.metadata = r.metadata)
    (hSame : c'.imageBuilds = c.imageBuilds) {buildName : String} :
    Spared env r' current c' buildName ↔ Spared env r current c buildName := by
  have hName : r'.name = r.name := congrArg ObjectMeta.name h
  unfold Spared beyondLimit listedBuilds
  rw [h, hName, hSame]

theorem generateImageBuildName_congr {r' : StackResource} (h : r'.metadata = r.metadata) :
    generateImageBuildName env r' buildSpec = generateImageBuildName env r buildSpec := by
  have hName : r'.name = r.name := congrArg ObjectMeta.name h
  unfold generateImageBuildName
  rw [hName]

theorem gated_imageBuild (hMetadata : w.resource.metadata = r.metadata)
    (hSpec : w.resource.spec = r.spec) (hBuildSpec : r.spec.buildSpec = some buildSpec)
    (hNs : r.metadata.ns = ns) (hCurrent : generateImageBuildName env r buildSpec = current)
    (hInv : ServedInv ns name w.cluster)
    (hLive : ∀ b, lookup .imageBuild w.cluster ns current = some b →
      isImageBuildComplete b = true → b.metadata.deletionTimestamp = none)
    (hSpared : ∀ t ∈ workloadTemplates ns name w.cluster, ∀ b ∈ w.cluster.imageBuilds,
      b.metadata.ns = ns → Lives b → templateImages t = [b.status.imageUrl] →
        Spared env r current w.cluster b.metadata.name) :
    Triple (· = w) (ImageBuilds.reconcile env) (fun _ => Gated ns name current r)
      (ServedIn ns name) := by
  have hName : generateImageBuildName env w.resource buildSpec = current :=
    (generateImageBuildName_congr env hMetadata).trans hCurrent
  have hNs' : w.resource.metadata.ns = ns := by rw [hMetadata, hNs]
  -- the step cancels, thins out and creates; what it spares is what runs
  have hThinned := thinned_reconcile env w rfl (hSpec ▸ hBuildSpec) hInv.builds.unique
    fun b hb => hInv.builds.uncancelled _ _ b hb
  rw [hName, hNs'] at hThinned
  have hAfter : ∀ w', ThinnedTo ns current (Spared env w.resource current w.cluster) w.cluster w' ∧
      Touches ImageBuilds.footprint w w' → Gated ns name current r w' := by
    rintro w' ⟨hThin, hTouches⟩
    -- the templates are not touched
    have hThere : TemplatesMeet ns name (· ∈ workloadTemplates ns name w.cluster) w' :=
      TemplatesMeet.outside (allTemplates_iff.mpr fun t ht => ht) hTouches (by decide) (by decide)
        (by decide) (by decide)
    refine ⟨hTouches.metadata.trans hMetadata, hTouches.spec.trans hSpec,
      ⟨hInv.builds.thinned hThin, ?_⟩, fun b hb hDone => hLive b (hThin.current b hb hDone) hDone⟩
    refine hThere.mono fun t ht => ?_
    obtain ⟨buildName, b, hLookup, hLives, hImage⟩ := allTemplates_iff.mp hInv.served t ht
    obtain ⟨hOwnNs, hOwnName⟩ := key_of_lookup hLookup
    -- the build of a running template has succeeded, so it is an ended one
    have hTerminal := isImageBuildTerminal_of_complete
      (hInv.builds.kept ns buildName b hLookup) hLives.1
    have hKept := hSpared t ht b (List.mem_of_find?_eq_some hLookup) hOwnNs hLives hImage
    rw [hOwnName] at hKept
    exact ⟨buildName, b, hThin.spared buildName b hLookup hTerminal
      (hInv.builds.uncancelled ns buildName b hLookup hLives.1)
      ((spared_congr env hMetadata rfl).mpr hKept), hLives, hImage⟩
  exact (hThinned.and ((ImageBuilds.has_reconcile env).leads (.refl _ w))).conseq
    (fun _ w' h => hAfter w' h) fun w' h => (hAfter w' h).inv

theorem served_kind {build : ImageBuild} (hw : Gated ns name current r w)
    (hKey : isResource ns name r = true) (hBuildSpec : r.spec.buildSpec = some buildSpec)
    (hCurrent : generateImageBuildName env r buildSpec = current)
    (hBuild : lookup .imageBuild w.cluster ns current = some build)
    (hDone : isImageBuildComplete build = true) :
    Ensures (· = w) (Workload.reconcileKind env r.spec.workloadType) (ServedIn ns name) := by
  have hResource : isResource ns name w.resource = true := isResource_congr hw.metadata hKey
  -- a template applied now runs the image of the current build
  have hNew : ∀ image, imageFor env w.resource w.cluster = some image →
      ∀ t, templateImages t = [image] → Backed ns w.cluster t := by
    intro image hImage t ht
    have hName : generateImageBuildName env w.resource buildSpec = current :=
      (generateImageBuildName_congr env hw.metadata).trans hCurrent
    have hNs : w.resource.metadata.ns = ns := (isResource_iff.mp hResource).1
    unfold imageFor at hImage
    rw [hw.spec, hBuildSpec] at hImage
    dsimp only at hImage
    rw [hName, hNs, hBuild] at hImage
    cases hImage
    exact ⟨current, build, hBuild, ⟨hDone, hw.current build hBuild hDone⟩, ht⟩
  -- the builds are not touched
  have hAfter : ∀ w', TemplatesMeet ns name (Backed ns w.cluster) w' ∧
      Touches Workload.kindFootprint w w' → ServedIn ns name w' := by
    rintro w' ⟨hTemplates, hTouches⟩
    have hSame : w'.cluster.imageBuilds = w.cluster.imageBuilds :=
      hTouches.objects .imageBuild (by decide)
    exact ⟨hw.inv.builds.congr hSame, hTemplates.mono fun t ht => ht.congr hSame⟩
  rw [← hw.spec]
  exact ((templates_kind env hResource hw.inv.served hNew).and
    ((Workload.has_reconcileKind _).leads (.refl _ w))).conseq
    (fun _ w' h => hAfter w' h) fun w' h => hAfter w' h

theorem served_of_has {α : Type} {m : Pass α} (h : Has fp m) (hNone : fp.objects = []) :
    Ensures (Gated ns name current r) m (ServedIn ns name) :=
  (gated_of_has h hNone).post fun _ _ h => h.inv

def gateFootprint : Footprint where
  conditions := [.dependenciesReady, .buildReady]
  reasons := ["DependenciesNotReady", "VolumeMountsNotReady", "ApplicationBuildNotYetReady"]

theorem served_buildGate {resource : StackResource} (hMetadata : resource.metadata = r.metadata)
    (hSpec : resource.spec = r.spec) (hKey : isResource ns name r = true)
    (hBuildSpec : r.spec.buildSpec = some buildSpec)
    (hCurrent : generateImageBuildName env r buildSpec = current) :
    Ensures (Gated ns name current r) (Workload.buildGate env resource) (ServedIn ns name) := by
  have hNs : resource.metadata.ns = ns := by
    rw [hMetadata]
    exact (isResource_iff.mp hKey).1
  have hName : generateImageBuildName env resource buildSpec = current :=
    (generateImageBuildName_congr env hMetadata).trans hCurrent
  have hSet : ∀ status reason message, Has gateFootprint
      (setCondition env .buildReady status reason message) :=
    fun _ _ _ => has_setCondition
  unfold Workload.buildGate
  rw [hSpec, hBuildSpec]
  dsimp only
  refine .of_each fun w hw => ?_
  unfold Workload.getImageBuild
  rw [hNs, hName]
  refine .bind ((mustGet_spec env .imageBuild ns current w).onError fun w' h => (hw.of_reads h).inv)
    fun build => .of_each ?_
  rintro w1 ⟨hBuild, hReads⟩
  have hw1 : ∀ w', w' = w1 → Gated ns name current r w' := by
    rintro _ rfl
    exact hw.of_reads hReads
  split
  · have hClosed : Has gateFootprint (do
        setCondition env .buildReady false "BuildNotReady" "application build is not yet ready"
        reportNotReady "ApplicationBuildNotYetReady" "Application build is not yet ready"
        return SubReconcilerResult.stop) :=
      .bind (hSet _ _ _) fun _ => .bind has_reportNotReady fun _ =>
        .pure
    exact (served_of_has hClosed rfl).pre hw1
  · next hOpen =>
    have hDone : isImageBuildComplete build = true := by
      have hCoherent := (hw.inv.builds.kept ns current build hBuild).coherent
      rw [hCoherent.isImageBuildComplete, ← hCoherent.imageBuildComplete]
      simpa using hOpen
    -- the condition is all the gate changes, so the build is still there
    have hLeads := (hSet true "BuildReady" "application build complete").leads
      (Reads.touches hReads)
    refine .bind (hLeads.onError fun w' h =>
      (hw.of_touches h rfl).inv) fun _ => .of_each fun w2 hw2 => ?_
    exact served_kind env (hw.of_touches hw2 rfl) hKey hBuildSpec hCurrent
      ((lookup_same .imageBuild (hw2.objects _ (by decide))).trans hBuild) hDone

theorem served_workload (hKey : isResource ns name r = true)
    (hBuildSpec : r.spec.buildSpec = some buildSpec)
    (hCurrent : generateImageBuildName env r buildSpec = current) :
    Ensures (Gated ns name current r) (Workload.reconcile env) (ServedIn ns name) := by
  have hClose : ∀ {reason}, reason ∈ gateFootprint.reasons → ∀ message,
      Ensures (Gated ns name current r) (Workload.closeGate env reason message)
        (ServedIn ns name) := fun hr message =>
    served_of_has (Workload.has_closeGate (by decide) hr message) rfl
  have hReads : ∀ {α : Type} {m : Pass α}, ReadsOnly m →
      Triple (Gated ns name current r) m (fun _ => Gated ns name current r) (ServedIn ns name) :=
    fun h => (h.triple fun _ _ hReads hw => Gated.of_reads hw hReads).onError fun _ h => h.inv
  refine .of_each fun w hw => bind_resource ?_
  refine .pre (P := Gated ns name current r) ?_ fun _ h => h ▸ hw
  refine .bind (hReads Dependencies.reads_dependenciesAvailable) fun answer => ?_
  split
  · refine .bind (hReads Dependencies.reads_volumeMountsReadyForUse.attempt)
      fun mounted => ?_
    split
    · have hSet : Has gateFootprint (setCondition env .dependenciesReady true "DependenciesReady"
          "dependencies and volume mounts ready") := has_setCondition
      exact .bind (gated_of_has hSet rfl) fun _ =>
        served_buildGate env hw.metadata hw.spec hKey hBuildSpec hCurrent
    · exact hClose (by decide) _
    · exact hClose (by decide) _
  · exact hClose (by decide) _

theorem served_runChain (hRetains : Retains env ns name w.cluster)
    (hInv : ServedInv ns name w.cluster) (hLookup : lookupResource w.cluster ns name = some r) :
    Ensures (· = started w r) (runChain env subReconcilers none) (ServedIn ns name) := by
  have hKey : isResource ns name r = true := List.find?_some hLookup
  obtain ⟨buildSpec, hBuildSpec, hLive, hSpared⟩ := hRetains r hLookup
  set current := generateImageBuildName env r buildSpec with hCurrent
  have hNs : r.metadata.ns = ns := (isResource_iff.mp hKey).1
  have hStart : ServedIn ns name (started w r) := hInv
  have hOutside : ∀ {w1}, Touches RegistryAuth.footprint (started w r) w1 → ServedIn ns name w1 :=
    fun h => hStart.of_touches h (by decide) (by decide) (by decide) (by decide) (by decide)
  have hAuth := (RegistryAuth.has_reconcile env).leads (.refl _ (started w r))
  refine chain_cons env (hAuth.onError fun _ => hOutside)
    (fun _ _ _ => hOutside) fun _ _ _ => ?_
  -- the image-build step finds the builds and templates the pass started with
  have hImageBuild : Triple (Touches RegistryAuth.footprint (started w r))
      (ImageBuilds.reconcile env) (fun _ => Gated ns name current r) (ServedIn ns name) := by
    refine .of_each fun w1 hw1 => ?_
    have hSame : w1.cluster.imageBuilds = w.cluster.imageBuilds :=
      hw1.objects .imageBuild (by decide)
    have hThere : TemplatesMeet ns name (· ∈ workloadTemplates ns name w.cluster) w1 :=
      TemplatesMeet.outside (w := started w r) (allTemplates_iff.mpr fun t ht => ht) hw1 (by decide)
        (by decide) (by decide) (by decide)
    refine gated_imageBuild env hw1.metadata hw1.spec hBuildSpec hNs hCurrent.symm (hOutside hw1)
      (fun b hb => hLive b ((lookup_congr hSame).symm.trans hb))
      fun t ht b hb hOwn hLives hImage => ?_
    rw [hSame] at hb
    exact (spared_congr env rfl hSame).mpr
      (hSpared t (allTemplates_iff.mp hThere t ht) b hb hOwn hLives hImage)
  refine chain_cons env hImageBuild (fun _ _ _ h => h.inv) fun _ _ _ => ?_
  refine chain_cons env (served_workload env hKey hBuildSpec hCurrent.symm) (fun _ _ _ h => h)
    fun _ _ _ => ?_
  have hService : Ensures (ServedIn ns name) (Service.reconcile env) (ServedIn ns name) :=
    (Service.has_reconcile env).triple fun _ _ hTouches hw =>
      ServedInv.of_touches hw hTouches (by decide) (by decide) (by decide) (by decide) (by decide)
  exact chain_cons env hService (fun _ _ _ h => h) fun _ _ _ => .skip

theorem ServedInv.congr {c c' : Cluster} (h : ServedInv ns name c) (hSame : ∀ k, c.Same c' k) :
    ServedInv ns name c' := by
  have hBuilds : c'.imageBuilds = c.imageBuilds := hSame .imageBuild
  have hServed : AllTemplates ns name (Backed ns c) c' :=
    ⟨fun o ho => h.served.deployment o ((lookup_same .deployment (hSame _)).symm.trans ho),
      fun o ho => h.served.statefulSet o ((lookup_same .statefulSet (hSame _)).symm.trans ho),
      fun o ho => h.served.cronJob o ((lookup_same .cronJob (hSame _)).symm.trans ho),
      fun o ho => h.served.jobs o (jobsOf_eq_of_jobs (hSame .job) ns name ▸ ho)⟩
  exact ⟨h.builds.congr hBuilds, hServed.mono fun t ht => ht.congr hBuilds⟩

/-- **One pass.** A pass over a resource that retains its running build keeps the
invariant, whatever its outcome. -/
theorem served_reconcile (hRetains : Retains env ns name w.cluster)
    (hInv : ServedInv ns name w.cluster) :
    ServedInv ns name (finalState (reconcile env ns name w)).cluster := by
  rcases reconcile_objects env ns name w with hSame | ⟨r, hLookup, hObjects⟩
  · rw [hSame]
    exact hInv
  · have hChain : ServedIn ns name
        (finalState (runChain env subReconcilers none (started w r))) :=
      (served_runChain env hRetains hInv hLookup).reached rfl
    exact ServedInv.congr hChain hObjects

end

end ClusterAgent.StackResourceController
