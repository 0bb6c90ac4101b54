import ClusterAgent.Controller.Footprint

/-!
# Cluster agent — names of builds and images

The text functions that turn a resource name and a source revision into the name
of an ImageBuild and the tag of the image it pushes, and the resolution of an
image repository. All text here is cut down to ASCII before it is measured, so
characters stand for the bytes the source counts.

* `imageBuildNames_differ_iff` — when two builds have different names.
-/

namespace ClusterAgent

/-! ## Text -/

/-- `unicode.ToLower` as far as it can produce an ASCII character: besides the ASCII
capitals these are the dotted capital I and the Kelvin sign. Every other character
stays outside ASCII. -/
def goToLower (c : Char) : Char :=
  if c = 'İ' then 'i' else if c = 'K' then 'k' else c.toLower

/-- Replace every maximal run of characters outside `keep` by one dash. -/
def dashRuns (keep : Char → Bool) : Bool → List Char → List Char
  | _, [] => []
  | inRun, c :: cs =>
    if keep c then c :: dashRuns keep false cs
    else if inRun then dashRuns keep true cs
    else '-' :: dashRuns keep true cs

def trimChars (cut : Char → Bool) (cs : List Char) : List Char :=
  ((cs.dropWhile cut).reverse.dropWhile cut).reverse

def trimDashSuffix (cs : List Char) : List Char :=
  if cs.getLast? = some '-' then cs.dropLast else cs

def isDNSLabelChar (c : Char) : Bool := c.isLower || c.isDigit

def isDNS1123Label (label : List Char) : Bool :=
  label.all (fun c => isDNSLabelChar c || c == '-') &&
    (match label.head? with | some c => isDNSLabelChar c | none => false) &&
    (match label.getLast? with | some c => isDNSLabelChar c | none => false)

/-! ## ImageBuild names -/

def sanitizeDNSLabel (s fallback : String) : String :=
  let cs := trimChars (· == '-') (dashRuns isDNSLabelChar false (s.toList.map goToLower))
  if cs.isEmpty then fallback else String.ofList cs

def imageBuildNameMaxLen : Nat := 100
def buildInputsHashLen : Nat := 8

/-- The readable part of an ImageBuild's name: the cleaned resource name and revision, cut
so that the hash still fits behind it. -/
def readablePart (resourceName revision : String) : String :=
  let cleanName := sanitizeDNSLabel resourceName "app"
  let cleanRev := sanitizeDNSLabel revision "rev"
  let name := cleanName ++ "-" ++ cleanRev
  let maxLen := imageBuildNameMaxLen - buildInputsHashLen - 1
  if maxLen < name.length then String.ofList (trimDashSuffix (name.toList.take maxLen)) else name

/-- The readable prefix carries the resource name and source revision; the trailing
hash digests the whole build spec. -/
def imageBuildName (buildInputsHash : StackResourceBuildSpec → String) (resourceName : String)
    (buildSpec : StackResourceBuildSpec) : String :=
  readablePart resourceName buildSpec.sourceRevision.getSourceRevisionString ++ "-" ++
    buildInputsHash buildSpec

def buildJobSuffix : String := "-build"
def maxLabelValueLen : Nat := 63
def maxResourceNameInJob : Nat := maxLabelValueLen - buildInputsHashLen - buildJobSuffix.length - 1

/-- The name of the build Job digests every input of the build; cancelling is not one. -/
def buildJobName (jobInputsHash : ImageBuildSpec → String) (build : ImageBuild) : String :=
  let cleanName := sanitizeDNSLabel build.spec.resourceName "app"
  let cleanName :=
    if maxResourceNameInJob < cleanName.length then
      String.ofList (trimDashSuffix (cleanName.toList.take maxResourceNameInJob))
    else cleanName
  cleanName ++ "-" ++ jobInputsHash { build.spec with cancelled := false } ++ buildJobSuffix

/-! ## Image references -/

def isTagChar (c : Char) : Bool :=
  c.isAlphanum || c == '_' || c == '.' || c == '-'

def sanitizeTag (s : String) : String :=
  let cs := dashRuns isTagChar false (s.toList.map goToLower)
  let cs := trimChars (fun c => c == '-' || c == '.' || c == '_') cs
  String.ofList (cs.take 128)

def resolveTag (fixedTag : Option String) (sourceRevision : String) : String :=
  match fixedTag with
  | some tag => if tag ≠ "" then tag else sanitizeTag sourceRevision
  | none => sanitizeTag sourceRevision

structure ResolvedRepository where
  host : String := ""
  repository : String
  tag : String
  insecure : Bool := false
  authURL : String := ""
  deriving DecidableEq, Repr

def ResolvedRepository.reference (r : ResolvedRepository) : String :=
  r.host ++ "/" ++ r.repository ++ ":" ++ r.tag

def authURLForHost (host : String) : String :=
  if host = "docker.io" ∨ host = "index.docker.io" then "https://index.docker.io/v1/" else host

def hasScheme : List Char → Bool
  | [] => false
  | c :: cs => (c :: cs).take 3 == [':', '/', '/'] || hasScheme cs

def quoted (s : String) : String := "\"" ++ s ++ "\""

section

variable (env : Env)

def hostFromURL (raw : String) : Except String String :=
  env.urlHost (if hasScheme raw.toList then raw else "http://" ++ raw)

/-- Resolve where an image is pushed to; the registry must be ready if it is one of the
cluster's own. A ClusterRegistry is cluster-scoped, so the namespace of the key is ignored. -/
def resolveImageRepository (_ns : String) (spec : ImageRepositorySpec) (sourceRevision : String) :
    Pass ResolvedRepository := do
  let out : ResolvedRepository :=
    { repository := spec.repository, tag := resolveTag spec.fixedTag sourceRevision }
  match spec.clusterRegistryRef, spec.external with
  | some ref, _ =>
    match ← Effect.attempt (Pass.getObject env .clusterRegistry "" ref) with
    | .error e => throw (e.wrap ("failed to get cluster registry " ++ quoted ref))
    | .ok none => throw { message := "cluster registry " ++ quoted ref ++ " not found" }
    | .ok (some reg) =>
      let ready := Conditions.findStatusCondition reg.status.conditions .ready
      if ready.any fun c => decide (c.status = .conditionTrue) then
        match hostFromURL env reg.status.internalURL with
        | .error e =>
          throw { message := "invalid cluster registry internalUrl " ++
            quoted reg.status.internalURL ++ ": " ++ e }
        | .ok host =>
          if host = "" then
            throw { message := "cluster registry " ++ quoted ref ++ " internalUrl " ++
              quoted reg.status.internalURL ++ " has no host" }
          else return { out with host := host, insecure := true, authURL := host }
      else
        throw { kind := .registryNotReady
                message := "cluster registry " ++ quoted ref ++ ": cluster registry not ready" }
  | none, some external =>
    return { out with
      host := external.host
      insecure := external.tlsInsecure.getD false
      authURL := authURLForHost external.host }
  | none, none =>
    throw { message := "image repository spec has neither clusterRegistryRef nor external" }

theorem reads_resolveImageRepository {ns : String} {spec : ImageRepositorySpec}
    {sourceRevision : String} : ReadsOnly (resolveImageRepository env ns spec sourceRevision) := by
  unfold resolveImageRepository
  dsimp only
  split
  · refine Effect.Within.bind (Pass.reads_getObject).attempt fun result => ?_
    split
    · exact Effect.Within.throw
    · exact Effect.Within.throw
    · split
      · split
        · exact Effect.Within.throw
        · split
          · exact Effect.Within.throw
          · exact Effect.Within.pure
      · exact Effect.Within.throw
  · exact Effect.Within.pure
  · exact Effect.Within.throw

/-- The host a repository is at: that of the cluster's own registry, or the external one. -/
def HostAt (c : Cluster) (spec : ImageRepositorySpec) (host : String) : Prop :=
  match spec.clusterRegistryRef, spec.external with
  | some ref, _ => ∃ reg, Pass.lookup .clusterRegistry c "" ref = some reg ∧
      hostFromURL env reg.status.internalURL = .ok host
  | none, some external => host = external.host
  | none, none => False

theorem HostAt.congr {c c' : Cluster} {spec : ImageRepositorySpec} {host : String}
    (h : HostAt env c spec host) (hRegistries : c'.clusterRegistries = c.clusterRegistries) :
    HostAt env c' spec host := by
  unfold HostAt Pass.lookup at h ⊢
  rw [show Kind.clusterRegistry.get c' = Kind.clusterRegistry.get c from hRegistries]
  exact h

theorem resolveImageRepository_spec (ns : String) (spec : ImageRepositorySpec)
    {sourceRevision : String} (w : World) :
    Effect.Triple (· = w) (resolveImageRepository env ns spec sourceRevision)
      (fun r _ => r.repository = spec.repository ∧
        r.tag = resolveTag spec.fixedTag sourceRevision ∧ HostAt env w.cluster spec r.host)
      fun _ => True := by
  unfold resolveImageRepository HostAt
  dsimp only
  split
  · next ref _ =>
    refine Effect.Triple.bind (Pass.getObject_spec env .clusterRegistry "" ref w).attempt
      fun result => ?_
    cases result with
    | error e => exact Effect.Triple.throw fun _ _ => trivial
    | ok found =>
      cases found with
      | none => exact Effect.Triple.throw fun _ _ => trivial
      | some reg =>
        dsimp only
        split
        · split
          · exact Effect.Triple.throw fun _ _ => trivial
          · next host hHost =>
            split
            · exact Effect.Triple.throw fun _ _ => trivial
            · exact Effect.Triple.pure fun _ h => ⟨rfl, rfl, reg, h.1.symm, hHost⟩
        · exact Effect.Triple.throw fun _ _ => trivial
  · exact Effect.Triple.pure fun _ _ => ⟨rfl, rfl, rfl⟩
  · exact Effect.Triple.throw fun _ _ => trivial

def generateImageBuildName (resource : StackResource) (buildSpec : StackResourceBuildSpec) :
    String :=
  imageBuildName env.buildInputsHash resource.name buildSpec

end

/-! ## The names of two builds -/

/-- **Two builds have different names** exactly if their specs differ or the readable parts do,
where the hash tells the two specs apart. The names of the resources are not hashed. -/
theorem imageBuildNames_differ_iff (hash : StackResourceBuildSpec → String) (name name' : String)
    (spec spec' : StackResourceBuildSpec) (hFree : hash spec = hash spec' → spec = spec')
    (hLength : (hash spec).length = (hash spec').length) :
    imageBuildName hash name spec ≠ imageBuildName hash name' spec' ↔
      spec ≠ spec' ∨ readablePart name spec.sourceRevision.getSourceRevisionString ≠
        readablePart name' spec.sourceRevision.getSourceRevisionString := by
  unfold imageBuildName
  rw [← not_and_or, not_iff_not]
  constructor
  · intro hSame
    -- the hashes are equally long, so the names split at the same place
    have hChars := congrArg String.toList hSame
    simp only [String.toList_append] at hChars
    obtain ⟨hParts, hHashes⟩ :=
      List.append_inj' hChars (by simpa only [String.length_toList] using hLength)
    obtain rfl := hFree (String.toList_inj.mp hHashes)
    exact ⟨rfl, String.toList_inj.mp (List.append_cancel_right hParts)⟩
  · rintro ⟨rfl, hParts⟩
    rw [hParts]

def commitSpec (commit dockerfile : String) : StackResourceBuildSpec where
  sourceContext := { git := some { repoUrl := "git.example/shop/api" } }
  buildContext := "."
  dockerFilePath := dockerfile
  sourceRevision := { gitRepo := some { branch := "main", commit := commit } }
  repository := { clusterRegistryRef := some "zot", repository := "shop/api" }

theorem web_and_worker_differ :
    imageBuildName (fun _ => "0a1b2c3d") "web" (commitSpec "abc" "Dockerfile") ≠
      imageBuildName (fun _ => "0a1b2c3d") "worker" (commitSpec "abc" "Dockerfile") := by
  refine (imageBuildNames_differ_iff _ _ _ _ _ (fun _ => rfl) rfl).mpr (Or.inr ?_)
  decide +kernel

/-- A dot and a dash are cleaned to the same name, so two resources with one spec share their
build. -/
theorem web_api_shared :
    imageBuildName (fun _ => "0a1b2c3d") "web.api" (commitSpec "abc" "Dockerfile") =
      imageBuildName (fun _ => "0a1b2c3d") "web-api" (commitSpec "abc" "Dockerfile") := by
  decide +kernel

end ClusterAgent
