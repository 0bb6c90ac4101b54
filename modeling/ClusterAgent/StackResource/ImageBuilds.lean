import ClusterAgent.Builds.Names

/-!
# Cluster agent — the image-build step

The second sub-reconciler of the chain. For a resource built from source it keeps
exactly one current ImageBuild, cancels builds that became stale, deletes builds
beyond the history limit, and ends the chain until the current build is done.

The source cancels and deletes concurrently, waits for all of them and then fails
if any failed; `forAll` does the same one after the other, in list order.
-/

namespace ClusterAgent.ImageBuilds

open Pass Effect

/-! ## Reading a build -/

def isImageBuildComplete (build : ImageBuild) : Bool := decide (build.status.phase = .success)

def imageBuildFailed (build : ImageBuild) : Bool := decide (build.status.phase = .failed)

def isImageBuildTerminal (build : ImageBuild) : Bool :=
  build.status.conditions.any fun cond =>
    (decide (cond.type = .available) || decide (cond.type = .failed) ||
      decide (cond.type = .cancelled)) && decide (cond.status = .conditionTrue)

def isOwnedByStackResource (build : ImageBuild) (resource : StackResource) : Bool :=
  build.metadata.ownerReferences.any fun ref => decide (ref.uid = resource.metadata.uid)

/-! ## The step -/

section

variable (env : Env)

def listImageBuilds (resource : StackResource) : Pass (List ImageBuild) := do
  match ← attempt (listObjects env .imageBuild resource.metadata.ns
      [("stackdome.io/part-of", resource.name), ("stackdome.io/component", "image-build")]) with
  | .ok builds => return builds
  | .error e => throw (e.wrap "failed to list ImageBuilds")

def cancelStaleImageBuilds (resource : StackResource) (currentBuildName : String)
    (builds : List ImageBuild) : Pass Unit :=
  let buildsToCancel := builds.filter fun build =>
    isOwnedByStackResource build resource && !build.spec.cancelled &&
      !isImageBuildTerminal build && decide (build.name ≠ currentBuildName)
  buildsToCancel |> forAll fun build => do
    match ← attempt (update env .imageBuild { build with spec.cancelled := true }) with
    | .ok _ => return ()
    | .error e => throw (e.wrap ("failed to cancel stale ImageBuild " ++ build.name))

/-- The builds newest first, as `sort.Slice` leaves them when creation times differ. -/
def newestFirst (builds : List ImageBuild) : List ImageBuild :=
  builds.insertionSort fun a b => b.metadata.creationTimestamp ≤ a.metadata.creationTimestamp

def enforceImageBuildRetention (resource : StackResource) (currentBuildName : String)
    (builds : List ImageBuild) : Pass Unit :=
  let builds := newestFirst builds
  if 0 < env.historyLimit ∧ env.historyLimit < builds.length then
    let old := (builds.drop env.historyLimit.toNat).filter fun build =>
      isImageBuildTerminal build && isOwnedByStackResource build resource &&
        decide (build.name ≠ currentBuildName)
    old |> forAll fun build => do
      match ← attempt (delete env .imageBuild build) with
      | .ok _ => return ()
      | .error e => throw (e.wrap ("failed to delete old ImageBuild " ++ build.name))
  else return ()

def createImageBuildLabels (resource : StackResource) : StringMap :=
  (resource.metadata.labels.set "stackdome.io/component" "image-build").set
    "stackdome.io/part-of" resource.name

/-- The verdict is mandatory: without it the pass would end with an empty collector. -/
def createImageBuild (resource : StackResource) (buildSpec : StackResourceBuildSpec) :
    Pass SubReconcilerResult := do
  let metadata : ObjectMeta :=
    { name := generateImageBuildName env resource buildSpec
      ns := resource.metadata.ns
      labels := createImageBuildLabels resource
      annotations := resource.metadata.annotations }
  match setOwnerReference resource.metadata "StackResource" metadata with
  | none => throw { message := "failed to set controller reference" }
  | some metadata =>
    match ← attempt (create env .imageBuild
        { metadata := metadata
          spec :=
            { resourceName := resource.name
              sourceRevision := buildSpec.sourceRevision
              buildContext :=
                { dockerfilePath := buildSpec.dockerFilePath
                  contextPath := buildSpec.buildContext
                  contextSource := some buildSpec.sourceContext }
              repository := buildSpec.repository
              buildArgs := buildSpec.buildArgs }
          status := {} }) with
    | .error e => throw (e.wrap "failed to create ImageBuild")
    | .ok _ =>
      reportNotReady "ImageBuildInProgress" "Image build created; waiting for completion"
      return .stop

def judgeImageBuild (resource : StackResource) (buildSpec : StackResourceBuildSpec)
    (build : ImageBuild) : Pass SubReconcilerResult :=
  if build.spec.cancelled then do
    -- cancelling cannot be undone, so the old record makes room for a fresh build
    match ← attempt (delete env .imageBuild build) with
    | .error e => throw (e.wrap ("failed to delete cancelled ImageBuild " ++ build.name))
    | .ok _ => createImageBuild env resource buildSpec
  else if imageBuildFailed build then do
    setCondition env .buildReady false reasonBuildFailed "application build failed terminally"
    reportFailed reasonBuildFailed
      ("ImageBuild " ++ build.name ++ " reached terminal Failed phase")
    return .stop
  else if isImageBuildComplete build then return .nil
  else do
    reportNotReady "ImageBuildInProgress" "Image build is still in progress"
    return .stop

def reconcile : Pass SubReconcilerResult := do
  let resource ← Pass.resource
  match resource.spec.buildSpec with
  | none => return .nil
  | some buildSpec =>
    let builds ← listImageBuilds env resource
    let name := generateImageBuildName env resource buildSpec
    cancelStaleImageBuilds env resource name builds
    enforceImageBuildRetention env resource name builds
    match ← attempt (getObject env .imageBuild resource.metadata.ns name) with
    | .error e => throw (e.wrap "failed to get ImageBuild")
    | .ok none => createImageBuild env resource buildSpec
    | .ok (some build) => judgeImageBuild env resource buildSpec build

/-! ## Footprint and exits -/

def footprint : Footprint where
  conditions := [.buildReady]
  objects := [.imageBuild]
  reasons := ["ImageBuildInProgress"]
  fails := true

/-- What it touches as long as the build has not failed: no condition at all. -/
def unfailedFootprint : Footprint where
  objects := [.imageBuild]
  reasons := ["ImageBuildInProgress"]

variable {env}

theorem reads_listImageBuilds {resource : StackResource} :
    ReadsOnly (listImageBuilds env resource) := by
  refine .bind (reads_listObjects).attempt fun result => ?_
  cases result with
  | ok builds => exact .pure
  | error e => exact .throw

variable {fp : Footprint}

theorem has_cancelStaleImageBuilds (h : .imageBuild ∈ fp.objects) {resource : StackResource}
    {currentBuildName : String} {builds : List ImageBuild} :
    Has fp (cancelStaleImageBuilds env resource currentBuildName builds) := by
  refine .forAll fun build => .bind (has_update h).attempt fun result => ?_
  cases result with
  | ok _ => exact .pure
  | error e => exact .throw

theorem has_enforceImageBuildRetention (h : .imageBuild ∈ fp.objects) {resource : StackResource}
    {currentBuildName : String} {builds : List ImageBuild} :
    Has fp (enforceImageBuildRetention env resource currentBuildName builds) := by
  unfold enforceImageBuildRetention
  dsimp only
  split
  · refine .forAll fun build => .bind (has_delete h).attempt fun result => ?_
    cases result with
    | ok _ => exact .pure
    | error e => exact .throw
  · exact .pure

theorem has_createImageBuild {resource : StackResource} {buildSpec : StackResourceBuildSpec} :
    Has unfailedFootprint (createImageBuild env resource buildSpec) := by
  unfold createImageBuild
  dsimp only
  split
  · exact .throw
  · refine .bind (has_create).attempt fun result => ?_
    cases result with
    | error e => exact .throw
    | ok _ => exact .bind has_reportNotReady fun _ => .pure

theorem has_judgeImageBuild {resource : StackResource} {buildSpec : StackResourceBuildSpec}
    {build : ImageBuild} : Has footprint (judgeImageBuild env resource buildSpec build) := by
  unfold judgeImageBuild
  split
  · refine .bind (has_delete).attempt fun result => ?_
    cases result with
    | error e => exact .throw
    | ok _ => exact has_createImageBuild.widen
  · split
    · exact .bind has_setCondition fun _ =>
        .bind (has_reportFailed rfl) fun _ => .pure
    · split
      · exact .pure
      · exact .bind has_reportNotReady fun _ => .pure

variable (env)

theorem has_reconcile : Has footprint (reconcile env) := by
  refine .bind has_resource fun resource => ?_
  split
  · exact .pure
  · refine .bind (Has.of_reads reads_listImageBuilds) fun builds =>
      .bind (has_cancelStaleImageBuilds (by decide)) fun _ =>
      .bind (has_enforceImageBuildRetention (by decide)) fun _ =>
      .bind (has_getObject).attempt fun result => ?_
    split
    · exact .throw
    · exact has_createImageBuild.widen
    · exact has_judgeImageBuild

/-- The step ended on a failed build, having reported nothing else. -/
def FailedBuild (w₀ : World) (r : SubReconcilerResult) (w : World) : Prop :=
  r.EndsChain ∧ w.verdicts.failed.isSome = true ∧ w.verdicts.notReady = w₀.verdicts.notReady

theorem judgeImageBuild_cases {resource : StackResource} {buildSpec : StackResourceBuildSpec}
    {build : ImageBuild} (w0 : World) :
    Returns (Touches { objects := [.imageBuild] } w0) (judgeImageBuild env resource buildSpec build)
      (fun r w => Touches unfailedFootprint w0 w ∨ FailedBuild w0 r w) := by
  have hWiden : ∀ w, Touches { objects := [.imageBuild] } w0 w → Touches unfailedFootprint w0 w :=
    fun _ h => h.widen
  unfold judgeImageBuild
  split
  · refine .bind (Has.extends (has_delete).attempt w0) fun result => ?_
    cases result with
    | error e => exact .throw fun _ _ => trivial
    | ok _ =>
      exact (has_createImageBuild.extends w0).mono hWiden (fun _ _ h => Or.inl h)
        fun _ h => h
  · split
    · intro w h
      refine Or.inr ⟨trivial, ?_, ?_⟩
      · exact (congrArg Option.isSome (VerdictCollector.failed_reportFailed _ _ _)).trans rfl
      · exact VerdictCollector.notReady_reportFailed.trans (h.notReady_eq rfl)
    · split
      · exact .pure fun w h => Or.inl (hWiden w h)
      · have hReport : ∀ msg, Has unfailedFootprint (reportNotReady "ImageBuildInProgress" msg) :=
          fun msg => has_reportNotReady
        exact .bind (((hReport _).extends w0).pre hWiden) fun _ =>
          .pure fun _ h => Or.inl h

/-- **Failed or quiet.** A step that did not find the build failed set no condition. -/
theorem reconcile_cases (w0 : World) :
    Returns (· = w0) (reconcile env)
      (fun r w => Touches unfailedFootprint w0 w ∨ FailedBuild w0 r w) := by
  have hStart : ∀ w, w = w0 → Touches { objects := [.imageBuild] } w0 w := by
    rintro w rfl
    exact Touches.refl _ w
  refine .pre (P := Touches { objects := [.imageBuild] } w0) ?_ hStart
  refine .bind (has_resource.extends w0) fun resource => ?_
  split
  · exact .pure fun w h => Or.inl h.widen
  · refine .bind (Has.extends (Has.of_reads reads_listImageBuilds) w0) fun builds =>
      .bind ((has_cancelStaleImageBuilds (by decide)).extends w0) fun _ =>
      .bind ((has_enforceImageBuildRetention (by decide)).extends w0) fun _ =>
      .bind (Has.extends (has_getObject).attempt w0) fun result => ?_
    split
    · exact .throw fun _ _ => trivial
    · exact (has_createImageBuild.extends w0).mono (fun _ h => h.widen)
        (fun _ _ h => Or.inl h) fun _ h => h
    · exact judgeImageBuild_cases env w0

theorem exits_createImageBuild {resource : StackResource} {buildSpec : StackResourceBuildSpec} :
    ExitsWithVerdict (createImageBuild env resource buildSpec) := by
  unfold createImageBuild
  dsimp only
  split
  · exact .throw
  · refine .bind fun result => ?_
    cases result with
    | error e => exact .throw
    | ok _ => exact .notReady _ _ _

theorem exits_judgeImageBuild {resource : StackResource} {buildSpec : StackResourceBuildSpec}
    {build : ImageBuild} : ExitsWithVerdict (judgeImageBuild env resource buildSpec build) := by
  unfold judgeImageBuild
  split
  · refine .bind fun result => ?_
    cases result with
    | error e => exact .throw
    | ok _ => exact exits_createImageBuild env
  · split
    · exact .bind fun _ => .failed _ _ _
    · split
      · exact .goOn id
      · exact .notReady _ _ _

theorem exits_reconcile : ExitsWithVerdict (reconcile env) := by
  refine .bind fun resource => ?_
  split
  · exact .goOn id
  · refine .bind fun builds => .bind fun _ => .bind fun _ => .bind fun result => ?_
    split
    · exact .throw
    · exact exits_createImageBuild env
    · exact exits_judgeImageBuild env

end

end ClusterAgent.ImageBuilds
