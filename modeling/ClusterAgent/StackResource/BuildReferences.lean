import ClusterAgent.ImageBuild.SharedImages

/-!
# Cluster agent — the references of changed builds

A StackResource is built again whenever anything in its build spec changes: the
name of the ImageBuild ends in a hash of the whole spec. The image is pushed
under a reference that has the source revision, and nothing else of the spec, in
it. The two encodings are compared here for any two build specs of one resource.

* `imageBuildName_hash` — the name determines the hash;
* `reference_eq_iff` — in one repository without a fixed tag, the reference is as
  good as the sanitised revision;
* `imageFor_built` — the pods of a resource run the reference its build recorded.

Main result: `changed_build_changes_image_iff`.
-/

namespace ClusterAgent.BuildReferences

open Pass Effect Workload

/-! ## Names -/

variable {spec : StackResourceBuildSpec}

theorem imageBuildName_hash {hash : StackResourceBuildSpec → String} {name : String}
    {spec' : StackResourceBuildSpec} (hLength : (hash spec).length = (hash spec').length)
    (h : imageBuildName hash name spec = imageBuildName hash name spec') :
    hash spec = hash spec' := by
  unfold imageBuildName at h
  have hChars := congrArg String.toList h
  simp only [String.toList_append] at hChars
  exact String.toList_inj.mp
    (List.append_inj' hChars (by simpa [String.length_toList] using hLength)).2

/-- A digest has a fixed length, and tells the two specs apart if they differ. -/
structure Distinguishes (hash : StackResourceBuildSpec → String)
    (spec spec' : StackResourceBuildSpec) : Prop where
  length : ∀ s, (hash s).length = buildInputsHashLen
  collisionFree : hash spec = hash spec' → spec = spec'

theorem Distinguishes.name_eq_iff {hash : StackResourceBuildSpec → String} {name : String}
    {spec' : StackResourceBuildSpec} (h : Distinguishes hash spec spec') :
    imageBuildName hash name spec = imageBuildName hash name spec' ↔ spec = spec' := by
  constructor
  · intro hName
    exact h.collisionFree (imageBuildName_hash (by rw [h.length, h.length]) hName)
  · rintro rfl
    rfl

/-! ## References -/

def NoFixedTag (spec : ImageRepositorySpec) : Prop := spec.fixedTag = none ∨ spec.fixedTag = some ""

instance (spec : ImageRepositorySpec) : Decidable (NoFixedTag spec) :=
  inferInstanceAs (Decidable (_ ∨ _))

theorem resolveTag_noFixedTag {spec : ImageRepositorySpec} (h : NoFixedTag spec)
    (revision : String) : resolveTag spec.fixedTag revision = sanitizeTag revision := by
  rcases h with h | h
  · rw [h, resolveTag]
  · rw [h, resolveTag, if_neg (by simp)]

theorem reference_eq_iff {r r' : ResolvedRepository} (hHost : r.host = r'.host)
    (hRepository : r.repository = r'.repository) :
    r.reference = r'.reference ↔ r.tag = r'.tag := by
  unfold ResolvedRepository.reference
  rw [hHost, hRepository]
  constructor
  · intro h
    have hChars := congrArg String.toList h
    simp only [String.toList_append] at hChars
    exact String.toList_inj.mp (List.append_cancel_left hChars)
  · intro h
    rw [h]

section

variable {env : Env}

/-- The repository of a build spec resolves to a location. -/
def ResolvesTo (env : Env) (ns : String) (spec : StackResourceBuildSpec) (r : ResolvedRepository) :
    Prop :=
  ∃ w, value (resolveImageRepository env ns spec.repository
    spec.sourceRevision.getSourceRevisionString w) = some r

theorem ResolvesTo.tag {ns : String} {r : ResolvedRepository} (h : ResolvesTo env ns spec r)
    (hTag : NoFixedTag spec.repository) :
    r.tag = sanitizeTag spec.sourceRevision.getSourceRevisionString := by
  obtain ⟨w, hValue⟩ := h
  have hSpec := (resolveImageRepository_spec env ns spec.repository w).of_ok rfl
    (eq_ok_of_value hValue)
  rw [hSpec.2.1, resolveTag_noFixedTag hTag]

def builtFrom (resource : StackResource) (spec : StackResourceBuildSpec) :
    StackResource :=
  { resource with spec.buildSpec := some spec }

/-- The ImageBuild of the spec is done, and its status has the reference it resolved. -/
def Recorded (env : Env) (c : Cluster) (resource : StackResource) (spec : StackResourceBuildSpec)
    (r : ResolvedRepository) : Prop :=
  ∃ b, lookup .imageBuild c resource.metadata.ns (generateImageBuildName env resource spec) =
    some b ∧ b.status.imageUrl = r.reference

theorem imageFor_built {w : World} {resource : StackResource} {r : ResolvedRepository}
    {image : String} (hRecorded : Recorded env w.cluster resource spec r)
    (h : value (getImageForResource env (builtFrom resource spec) w) = some image) :
    image = r.reference := by
  obtain ⟨b, hLookup, hUrl⟩ := hRecorded
  have hImage := ((getImageForResource_spec env (builtFrom resource spec) w).of_ok
    (refl_of Reads w) (eq_ok_of_value h)).1
  have hBuilt : imageFor env (builtFrom resource spec) w.cluster = some r.reference := by
    rw [← hUrl]
    exact congrArg (Option.map fun build : ImageBuild => build.status.imageUrl) hLookup
  exact Option.some.inj (hImage.symm.trans hBuilt)

/-- **A changed build changes the image exactly if it has another revision.** Two build specs
of one resource push to the same repository without a fixed tag. Different builds get
different references, and the pods different images, exactly if the revisions are still
different as tags; a build that differs in anything else replaces the image of the other. -/
theorem changed_build_changes_image_iff {resource : StackResource}
    {spec spec' : StackResourceBuildSpec} {r r' : ResolvedRepository} {w w' : World}
    {image image' : String} (hHash : Distinguishes env.buildInputsHash spec spec')
    (hResolves : ResolvesTo env resource.metadata.ns spec r)
    (hResolves' : ResolvesTo env resource.metadata.ns spec' r')
    (hHost : r.host = r'.host) (hRepository : r.repository = r'.repository)
    (hTag : NoFixedTag spec.repository) (hTag' : NoFixedTag spec'.repository)
    (hRecorded : Recorded env w.cluster resource spec r)
    (hRecorded' : Recorded env w'.cluster resource spec' r')
    (hImage : value (getImageForResource env (builtFrom resource spec) w) = some image)
    (hImage' : value (getImageForResource env (builtFrom resource spec') w') = some image') :
    (generateImageBuildName env resource spec ≠ generateImageBuildName env resource spec' →
        r.reference ≠ r'.reference ∧ image ≠ image') ↔
      (spec = spec' ∨ sanitizeTag spec.sourceRevision.getSourceRevisionString ≠
        sanitizeTag spec'.sourceRevision.getSourceRevisionString) := by
  have hNames : generateImageBuildName env resource spec =
      generateImageBuildName env resource spec' ↔ spec = spec' := hHash.name_eq_iff
  have hReferences : r.reference = r'.reference ↔
      sanitizeTag spec.sourceRevision.getSourceRevisionString =
        sanitizeTag spec'.sourceRevision.getSourceRevisionString := by
    rw [reference_eq_iff hHost hRepository, hResolves.tag hTag, hResolves'.tag hTag']
  rw [imageFor_built hRecorded hImage, imageFor_built hRecorded' hImage', and_self, ne_eq, ne_eq,
    hNames, hReferences, or_iff_not_imp_left]

end

/-! ## One commit, two Dockerfiles -/

def digestEnv : Env :=
  { ImageBuildController.buildEnv with
    buildInputsHash := fun spec =>
      if spec = commitSpec "abc123" "Dockerfile" then "0a1b2c3d" else "4e5f6a7b" }

def apiResource : StackResource where
  metadata := { name := "api", ns := "shop", uid := "api", generation := 1 }
  spec := {}
  status := {}

def commitBuild (commit dockerfile : String) : ImageBuild :=
  ImageBuildController.gitBuild
    (generateImageBuildName digestEnv apiResource (commitSpec commit dockerfile)) dockerfile commit

def builtOneByOne (first second : ImageBuild) : World :=
  (Runs.run ImageBuildController.buildsStep (ImageBuildController.buildSession [first, second])
    (ImageBuildController.finishing first [] ++ ImageBuildController.finishing second [])).world

def atZot (commit : String) : ResolvedRepository where
  host := "zot:5000"
  repository := "shop/api"
  tag := commit
  insecure := true
  authURL := "zot:5000"

theorem changed_build_changes_image_nextCommit :
    generateImageBuildName digestEnv apiResource (commitSpec "abc123" "Dockerfile") ≠
        generateImageBuildName digestEnv apiResource (commitSpec "def456" "Dockerfile") ∧
      (atZot "abc123").reference ≠ (atZot "def456").reference := by
  have hNames : generateImageBuildName digestEnv apiResource (commitSpec "abc123" "Dockerfile") ≠
      generateImageBuildName digestEnv apiResource (commitSpec "def456" "Dockerfile") := by
    decide +kernel
  have hHash : Distinguishes digestEnv.buildInputsHash (commitSpec "abc123" "Dockerfile")
      (commitSpec "def456" "Dockerfile") := by
    refine ⟨fun s => ?_, by decide +kernel⟩
    unfold digestEnv
    dsimp only
    split <;> rfl
  let built := builtOneByOne (commitBuild "abc123" "Dockerfile") (commitBuild "def456" "Dockerfile")
  have hResolves : ∀ commit ∈ ["abc123", "def456"],
      ResolvesTo digestEnv "shop" (commitSpec commit "Dockerfile") (atZot commit) := by
    have hValue : ∀ commit ∈ ["abc123", "def456"], value (resolveImageRepository digestEnv "shop"
        (commitSpec commit "Dockerfile").repository
        (commitSpec commit "Dockerfile").sourceRevision.getSourceRevisionString built) =
          some (atZot commit) := by
      decide +kernel
    exact fun commit hCommit => ⟨built, hValue commit hCommit⟩
  have hRecorded : ∀ commit ∈ ["abc123", "def456"],
      Recorded digestEnv built.cluster apiResource (commitSpec commit "Dockerfile")
        (atZot commit) := by
    have hDone : ∀ commit ∈ ["abc123", "def456"], ∃ b ∈ lookup .imageBuild built.cluster "shop"
        (generateImageBuildName digestEnv apiResource (commitSpec commit "Dockerfile")),
        b.status.imageUrl = (atZot commit).reference := by
      decide +kernel
    exact hDone
  have hImage : ∀ commit ∈ ["abc123", "def456"], value (getImageForResource digestEnv
      (builtFrom apiResource (commitSpec commit "Dockerfile")) built) =
        some (atZot commit).reference := by
    decide +kernel
  have hFirst : "abc123" ∈ ["abc123", "def456"] := by simp
  have hSecond : "def456" ∈ ["abc123", "def456"] := by simp
  exact ⟨hNames, ((changed_build_changes_image_iff hHash (hResolves _ hFirst)
    (hResolves _ hSecond) rfl rfl (by decide) (by decide) (hRecorded _ hFirst)
    (hRecorded _ hSecond) (hImage _ hFirst) (hImage _ hSecond)).mpr
      (Or.inr (by decide +kernel)) hNames).1⟩

/-- The same commit built with another Dockerfile is another ImageBuild; it is pushed to the
same reference, and the pods of the resource keep their image. -/
theorem changed_dockerfile_keeps_image :
    let spec := commitSpec "abc123" "Dockerfile"
    let spec' := commitSpec "abc123" "Dockerfile.slim"
    let built := builtOneByOne (commitBuild "abc123" "Dockerfile")
      (commitBuild "abc123" "Dockerfile.slim")
    generateImageBuildName digestEnv apiResource spec ≠
        generateImageBuildName digestEnv apiResource spec' ∧
      NoFixedTag spec.repository ∧ spec.repository = spec'.repository ∧
      value (resolveImageRepository digestEnv "shop" spec.repository
        spec.sourceRevision.getSourceRevisionString built) = some (atZot "abc123") ∧
      value (resolveImageRepository digestEnv "shop" spec'.repository
        spec'.sourceRevision.getSourceRevisionString built) = some (atZot "abc123") ∧
      value (getImageForResource digestEnv (builtFrom apiResource spec) built) =
        some "zot:5000/shop/api:abc123" ∧
      value (getImageForResource digestEnv (builtFrom apiResource spec') built) =
        some "zot:5000/shop/api:abc123" := by
  decide +kernel

end ClusterAgent.BuildReferences
