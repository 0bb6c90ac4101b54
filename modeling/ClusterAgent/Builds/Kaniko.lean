import ClusterAgent.Builds.Names

/-!
# Cluster agent — the build Job

An image is built and pushed by a Kaniko Job. The source renders the Job from a
YAML template and completes it in memory; here it is built as a value, with the
decoder's error as a function of the environment.
-/

namespace ClusterAgent

/-! ## Paths -/

def splitSlash : List Char → List (List Char)
  | [] => [[]]
  | '/' :: cs => [] :: splitSlash cs
  | c :: cs =>
    match splitSlash cs with
    | [] => [[c]]
    | part :: rest => (c :: part) :: rest

/-- The elements of `filepath.Clean` of a rooted path; `acc` holds them in reverse. -/
def cleanRooted : List (List Char) → List (List Char) → List (List Char)
  | acc, [] => acc.reverse
  | acc, part :: rest =>
    if part = [] ∨ part = ['.'] then cleanRooted acc rest
    else if part = ['.', '.'] then cleanRooted acc.tail rest
    else cleanRooted (part :: acc) rest

/-- The elements of `filepath.Clean("/" + path)`. -/
def pathElements (path : String) : List (List Char) := cleanRooted [] (splitSlash path.toList)

def joinSlash (parts : List (List Char)) : String :=
  String.ofList (List.intercalate ['/'] parts)

def inWorkspace (path : String) : String :=
  "/" ++ joinSlash (pathElements ("workspace/" ++ path))

/-- A context path within the repository; its root yields an empty sub path. -/
def gitContextSubPath (contextPath : String) : String := joinSlash (pathElements contextPath)

/-- Re-base a path of the repository onto the sub path. Paths that do not lead into it,
as `filepath.Rel` sees it, are left untouched. -/
def dockerfileWithinSubPath (subPath dockerfilePath : String) : String :=
  let base := pathElements subPath
  let target := pathElements dockerfilePath
  if base = target then "."
  else if base.isPrefixOf target then
    let rel := target.drop base.length
    if (rel.headD []).take 2 = ['.', '.'] then dockerfilePath else joinSlash rel
  else dockerfilePath

theorem splitSlash_ne_nil (cs : List Char) : splitSlash cs ≠ [] := by
  fun_cases splitSlash cs <;> simp

theorem splitSlash_eq_splitOn (cs : List Char) : splitSlash cs = cs.splitOn '/' := by
  induction cs with
  | nil => rfl
  | cons c cs ih =>
    rw [List.splitOn, List.splitOnP_cons_eq_if_modifyHead, ← List.splitOn, ← ih]
    by_cases hSlash : c = '/'
    · subst hSlash
      rfl
    · -- a further character goes to the first part of what follows
      rw [splitSlash.eq_3 c cs hSlash, if_neg (by simpa using hSlash)]
      rcases hParts : splitSlash cs with _ | ⟨part, rest⟩
      · exact absurd hParts (splitSlash_ne_nil cs)
      · rfl

theorem splitSlash_append (front back : List Char) :
    splitSlash (front ++ '/' :: back) = splitSlash front ++ splitSlash back := by
  simp only [splitSlash_eq_splitOn]
  exact List.splitOnP_append_cons front back rfl

theorem slash_notMem_splitSlash (cs : List Char) : ∀ part ∈ splitSlash cs, '/' ∉ part := by
  fun_induction splitSlash cs <;> grind

/-! ## Parameters -/

structure ResolvedBuildArg where
  name : String
  value : String
  deriving DecidableEq, Repr

structure GitRepoBuildSource where
  repo : GitRepoSource
  revision : GitRepoRevision
  deriving DecidableEq, Repr

structure BuildVolumeSource where
  pvcName : String
  gitRepoPath : String
  deriving DecidableEq, Repr

structure BuildSource where
  volume : Option BuildVolumeSource := none
  gitRepo : Option GitRepoBuildSource := none
  deriving DecidableEq, Repr

structure BuildParams where
  jobName : String
  ns : String
  destination : String
  insecure : Bool
  dockerfilePath : String
  context : String
  source : BuildSource
  dockerConfigSecret : Option String
  dockerConfigSecretKey : String
  buildArgs : List ResolvedBuildArg
  deriving DecidableEq, Repr

def BuildParams.imageUrl (b : BuildParams) : String := b.destination

/-- The git context URL of Kaniko: the fetchable ref, and the commit to pin. -/
def buildGitContextUrl (repo : GitRepoSource) (revision : GitRepoRevision) : String :=
  let cs := repo.repoUrl.toList
  let gitUrl :=
    if "https://".toList.isPrefixOf cs then "git://" ++ String.ofList (cs.drop 8)
    else if "git://".toList.isPrefixOf cs then repo.repoUrl
    else "git://" ++ repo.repoUrl
  let gitUrl :=
    if revision.branch ≠ "" then gitUrl ++ "#refs/heads/" ++ revision.branch
    else if revision.tag ≠ "" then gitUrl ++ "#refs/tags/" ++ revision.tag
    else gitUrl
  if revision.commit ≠ "" then gitUrl ++ "#" ++ revision.commit else gitUrl

/-! ## The Job -/

def kanikoExecutorImage : String := "ghcr.io/osscontainertools/kaniko:v1.28.0"

def contextArgs (b : BuildParams) : List String :=
  match b.source.volume, b.source.gitRepo with
  | some _, _ =>
    ["--dockerfile=" ++ inWorkspace b.dockerfilePath, "--context=dir://" ++ inWorkspace b.context]
  | none, some git =>
    let sub := gitContextSubPath b.context
    let dockerfilePath :=
      if sub ≠ "" then dockerfileWithinSubPath sub b.dockerfilePath else b.dockerfilePath
    ["--dockerfile=" ++ dockerfilePath, "--context=" ++ buildGitContextUrl git.repo git.revision,
      "--git=single-branch=true", "--git=depth=10"] ++
      if sub ≠ "" then ["--context-sub-path=" ++ sub] else []
  | none, none => ["--dockerfile=" ++ b.dockerfilePath, "--context=dir://" ++ b.context]

def insecureArgs (insecure : Bool) : List String :=
  if insecure then ["--insecure-registry=true", "--insecure=true", "--insecure-pull=true"] else []

def kanikoArgs : List String :=
  ["--cache=true", "--cache-copy-layers=true", "--cache-run-layers=true", "--cache-ttl=336h",
    "--cleanup=true", "--ignore-path=/product_uuid", "--snapshot-mode=redo", "--use-new-run",
    "--skip-unused-stages=true", "--compressed-caching=false"]

def gitAuthEnv (source : BuildSource) : List EnvVar :=
  match source.volume, source.gitRepo with
  | none, some git =>
    match git.repo.auth with
    | none => []
    | some auth =>
      let creds := auth.usernamePasswordAuthRef <|> auth.personalAccessTokenRef
      let secretName := (creds.map fun c => c.secretRef.name).getD ""
      [{ name := "GIT_USERNAME"
         secretKeyRef := some ⟨secretName, (creds.map fun c => c.usernameKey).getD ""⟩ },
       { name := "GIT_PASSWORD"
         secretKeyRef := some ⟨secretName, (creds.map fun c => c.passwordKey).getD ""⟩ }]
  | _, _ => []

def buildVolumes (b : BuildParams) : List (ContainerVolumeMount × PodVolume) :=
  (b.source.volume.map fun v =>
    ({ name := v.pvcName, mountPath := "/workspace", subPath := v.gitRepoPath },
      { name := v.pvcName, claimName := v.pvcName })).toList ++
  (b.dockerConfigSecret.map fun secretName =>
    ({ name := "dockerconfig", mountPath := "/kaniko/.docker", readOnly := true },
      { name := "dockerconfig"
        secret := some ⟨secretName, b.dockerConfigSecretKey, "config.json"⟩ })).toList

def kanikoContainer (b : BuildParams) : Container where
  name := "kaniko"
  image := kanikoExecutorImage
  imagePullPolicy := ""
  terminationMessagePolicy := "FallbackToLogsOnError"
  args := contextArgs b ++ ["--destination=" ++ b.imageUrl] ++ insecureArgs b.insecure ++
    kanikoArgs ++ b.buildArgs.map fun arg => "--build-arg=" ++ arg.name ++ "=" ++ arg.value
  env := { name := "GODEBUG", value := "http2client=0" } :: gitAuthEnv b.source
  volumeMounts := (buildVolumes b).map Prod.fst
  resources := [("requests.cpu", "200m"), ("requests.memory", "200Mi")]

def generateImageBuildJob (env : Env) (b : BuildParams) : Except GoError Job :=
  let job : Job :=
    { metadata := { name := b.jobName, ns := b.ns }
      spec :=
        { ttlSecondsAfterFinished := some 1800
          backoffLimit := some 3
          template.spec :=
            { containers := [kanikoContainer b]
              restartPolicy := "Never"
              volumes := (buildVolumes b).map Prod.snd } }
      status := {} }
  match env.jobYAMLError job with
  | some e => .error { message := "failed to decode Job YAML: " ++ e }
  | none => .ok job

/-! ## Where it pushes to -/

def afterPrefix (start text : String) : Option String :=
  if start.toList.isPrefixOf text.toList then
    some (String.ofList (text.toList.drop start.toList.length))
  else none

theorem afterPrefix_append (start text : String) :
    afterPrefix start (start ++ text) = some text := by
  unfold afterPrefix
  rw [String.toList_append, if_pos (List.isPrefixOf_iff_prefix.mpr (List.prefix_append _ _)),
    List.drop_left, String.ofList_toList]

theorem afterPrefix_other {start other : String} (text : String)
    (h : start.toList.isPrefixOf other.toList = false)
    (h' : other.toList.isPrefixOf start.toList = false) :
    afterPrefix start (other ++ text) = none := by
  unfold afterPrefix
  refine if_neg fun hStart => ?_
  rw [String.toList_append, List.isPrefixOf_iff_prefix] at hStart
  rcases List.prefix_or_prefix_of_prefix hStart (List.prefix_append _ _) with hShort | hLong
  · rw [List.isPrefixOf_iff_prefix.mpr hShort] at h
    cases h
  · rw [List.isPrefixOf_iff_prefix.mpr hLong] at h'
    cases h'

/-- The reference the Job's container pushes to. -/
def destinationOf (job : Job) : Option String :=
  (job.spec.template.spec.containers.flatMap Container.args).findSome?
    (afterPrefix "--destination=")

theorem afterPrefix_contextArgs (b : BuildParams) {arg : String} (h : arg ∈ contextArgs b) :
    afterPrefix "--destination=" arg = none := by
  have hDockerfile : ∀ text, afterPrefix "--destination=" ("--dockerfile=" ++ text) = none :=
    fun text => afterPrefix_other text rfl rfl
  have hContext : ∀ text, afterPrefix "--destination=" ("--context=" ++ text) = none :=
    fun text => afterPrefix_other text rfl rfl
  have hDirectory : ∀ text, afterPrefix "--destination=" ("--context=dir://" ++ text) = none :=
    fun text => afterPrefix_other text rfl rfl
  have hSubPath : ∀ text, afterPrefix "--destination=" ("--context-sub-path=" ++ text) = none :=
    fun text => afterPrefix_other text rfl rfl
  have hGit : ∀ arg ∈ ["--git=single-branch=true", "--git=depth=10"],
      afterPrefix "--destination=" arg = none := by
    decide +kernel
  unfold contextArgs at h
  split at h
  · rcases List.mem_pair.mp h with rfl | rfl
    · exact hDockerfile _
    · exact hDirectory _
  · rcases List.mem_append.mp h with hFixed | hSub
    · rcases List.mem_cons.mp hFixed with rfl | hFixed
      · exact hDockerfile _
      · rcases List.mem_cons.mp hFixed with rfl | hFixed
        · exact hContext _
        · exact hGit arg hFixed
    · split at hSub
      · rw [List.mem_singleton.mp hSub]
        exact hSubPath _
      · cases hSub
  · rcases List.mem_pair.mp h with rfl | rfl
    · exact hDockerfile _
    · exact hDirectory _

theorem destination_kanikoContainer (b : BuildParams) :
    (kanikoContainer b).args.findSome? (afterPrefix "--destination=") = some b.imageUrl := by
  have hBefore : (contextArgs b).findSome? (afterPrefix "--destination=") = none :=
    List.findSome?_eq_none_iff.mpr fun _ => afterPrefix_contextArgs b
  unfold kanikoContainer
  simp [List.findSome?_append, hBefore, afterPrefix_append]

theorem generateImageBuildJob_spec {env : Env} {b : BuildParams} {job : Job}
    (h : generateImageBuildJob env b = .ok job) :
    job.metadata = { name := b.jobName, ns := b.ns } ∧ destinationOf job = some b.imageUrl := by
  unfold generateImageBuildJob at h
  dsimp only at h
  split at h
  · cases h
  · cases h
    refine ⟨rfl, ?_⟩
    unfold destinationOf
    dsimp only
    rw [List.flatMap_singleton]
    exact destination_kanikoContainer b

end ClusterAgent
