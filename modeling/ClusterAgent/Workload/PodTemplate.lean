import ClusterAgent.Builds.Names

/-!
# Cluster agent — building a workload's pod template

Everything a workload kind needs to turn a StackResource into a pod template:
labels, environment, probes, volumes, pull policy and the restart stamp. The
template is built from scratch in every pass; only the restart stamp depends on
the time, and only when a restart is due.
-/

namespace ClusterAgent.Workload

open Pass Effect

/-! ## Labels -/

def getWorkloadNameForResource (resource : StackResource) : String := resource.name

def getWorkloadLabelForResource (resource : StackResource) : StringMap :=
  [("resource", getWorkloadNameForResource resource)]

def identityLabels (resource : StackResource) : StringMap :=
  [labelManagedBy, labelStackName, labelStackID, labelResourceName, labelResourceID].filterMap
    fun key => (resource.metadata.labels.get? key).map fun val => (key, val)

def mergeLabels (base extra : StringMap) : StringMap :=
  extra.foldl (fun m e => m.set e.1 e.2) base

/-! ## Environment and probes -/

def buildEnvVars (resource : StackResource) : List EnvVar :=
  resource.spec.environmentVariables.map fun env =>
    match env.valueFrom with
    | some ref => { name := env.name, secretKeyRef := some ref }
    | none => { name := env.name, value := env.value }

structure ProbeSet where
  readiness : Option ContainerProbe := none
  liveness : Option ContainerProbe := none
  startup : Option ContainerProbe := none
  deriving DecidableEq, Repr

def portNumberByName (name : String) (ports : List Port) : Option Int :=
  (ports.find? fun p => decide (p.name = name)).map Port.number

/-- The port the kubelet probe guards: the first public one, else the first. -/
def primaryProbePort (ports : List Port) : Option Int :=
  match ports.find? Port.exposeToPublic with
  | some p => some p.number
  | none => ports.head?.map Port.number

/-- The TCP readiness probe of a workload with ports that declares none of its own. -/
def defaultReadinessProbe (resource : StackResource) : Option ContainerProbe :=
  if resource.spec.workloadType = .service ∨ resource.spec.workloadType = .statefulService then
    (primaryProbePort resource.spec.ports).map fun port =>
      { handler := .tcpSocket port
        initialDelaySeconds := 5
        periodSeconds := 10
        timeoutSeconds := 3
        failureThreshold := 30 }
  else none

def unknownPort (name : String) : String := "probe references unknown port " ++ quoted name

def buildProbe (p : Option Probe) (ports : List Port) : Except String (Option ContainerProbe) :=
  match p with
  | none => .ok none
  | some p =>
    let probe : ContainerProbe :=
      { initialDelaySeconds := p.initialDelaySeconds
        periodSeconds := p.periodSeconds
        failureThreshold := p.failureThreshold
        timeoutSeconds := p.timeoutSeconds }
    match p.httpGet, p.tcpSocket with
    | some get, _ =>
      match portNumberByName get.portName ports with
      | some number => .ok (some { probe with handler := .httpGet get.path number })
      | none => .error (unknownPort get.portName)
    | none, some portName =>
      match portNumberByName portName ports with
      | some number => .ok (some { probe with handler := .tcpSocket number })
      | none => .error (unknownPort portName)
    | none, none =>
      if 0 < p.command.length then .ok (some { probe with handler := .exec p.command })
      else .ok (some probe)

def buildProbes (resource : StackResource) : Except String ProbeSet :=
  match resource.spec.healthChecks with
  | none => .ok { readiness := defaultReadinessProbe resource }
  | some hc =>
    match buildProbe hc.readiness resource.spec.ports with
    | .error e => .error ("readiness probe: " ++ e)
    | .ok readiness =>
      match buildProbe hc.liveness resource.spec.ports with
      | .error e => .error ("liveness probe: " ++ e)
      | .ok liveness =>
        match buildProbe hc.startup resource.spec.ports with
        | .error e => .error ("startup probe: " ++ e)
        | .ok startup =>
          .ok { readiness := readiness.or (defaultReadinessProbe resource)
                liveness := liveness
                startup := startup }

/-! ## Containers and volumes -/

def containerPorts (resource : StackResource) : List ContainerPort :=
  resource.spec.ports.map fun port => { name := port.name, containerPort := port.number }

def afterLastColon : List Char → Option (List Char)
  | [] => none
  | c :: cs =>
    match afterLastColon cs with
    | some tag => some tag
    | none => if c = ':' then some cs else none

/-- An explicit policy, else Always for an untagged or `latest` reference. -/
def resolveImagePullPolicy (resource : StackResource) (image : String) : String :=
  let explicit := (resource.spec.imageSpec.map ImageSpec.imagePullPolicy).getD ""
  if explicit ≠ "" then explicit
  else
    match afterLastColon image.toList with
    | none => "Always"
    | some tag => if String.ofList tag = "latest" then "Always" else "IfNotPresent"

def trimSlash (s : String) : String :=
  match s.toList with
  | '/' :: rest => String.ofList rest
  | _ => s

def volumeMountList (resource : StackResource) : List ContainerVolumeMount :=
  resource.spec.volumeMounts.map fun mount =>
    { name := mount.sourceVolume
      mountPath := mount.destination
      readOnly := mount.readOnly
      subPath := trimSlash mount.sourceSubPath }

abbrev VolumeInfo := List (String × Volume)

def volumesList (resource : StackResource) (volumeInfo : VolumeInfo) : List PodVolume :=
  let names := (resource.spec.volumeMounts.map VolumeMount.sourceVolume).reverse.dedup.reverse
  names.map fun name =>
    { name := name
      claimName := ((volumeInfo.lookup name).map fun v => v.status.pvcName).getD "" }

def hardenedContext : SecurityContext :=
  { allowPrivilegeEscalation := false, dropCapabilities := ["ALL"] }

def applySecurityDefaults (podSpec : PodSpec) (hardened : Option Bool) : PodSpec :=
  if hardened = some true then
    { podSpec with
      securityContext := some { runAsNonRoot := true, seccompProfile := "RuntimeDefault" }
      containers := podSpec.containers.map fun c =>
        { c with securityContext := some hardenedContext }
      initContainers := podSpec.initContainers.map fun c =>
        { c with securityContext := some hardenedContext } }
  else podSpec

/-! ## The template -/

structure PodTemplateConfig where
  resource : StackResource
  image : String
  envVars : List EnvVar
  probes : ProbeSet := {}
  volumeMountInfo : VolumeInfo
  restartPolicy : String := ""
  needsRestart : Bool := false

def fallbackToLogsOnError : String := "FallbackToLogsOnError"

def mainContainer (cfg : PodTemplateConfig) : Container :=
  { name := cfg.resource.name
    image := cfg.image
    imagePullPolicy := resolveImagePullPolicy cfg.resource cfg.image
    terminationMessagePolicy := fallbackToLogsOnError
    command := cfg.resource.spec.command
    args := cfg.resource.spec.args
    ports := containerPorts cfg.resource
    env := cfg.envVars
    volumeMounts := volumeMountList cfg.resource
    readinessProbe := cfg.probes.readiness
    livenessProbe := cfg.probes.liveness
    startupProbe := cfg.probes.startup
    resources := cfg.resource.spec.resources.getD [] }

def initContainer (cfg : PodTemplateConfig) (init : InitSpec) : Container :=
  let image := (init.imageSpec.map ImageSpec.image).getD cfg.image
  { name := cfg.resource.initContainerName
    image := image
    imagePullPolicy := resolveImagePullPolicy cfg.resource image
    terminationMessagePolicy := fallbackToLogsOnError
    command := init.command
    args := init.args
    env := cfg.envVars
    volumeMounts := volumeMountList cfg.resource }

def basePodTemplateSpec (cfg : PodTemplateConfig) : PodTemplateSpec :=
  let resource := cfg.resource
  let spec : PodSpec :=
    { containers := [mainContainer cfg]
      initContainers := (resource.spec.init.map (initContainer cfg)).toList
      restartPolicy := cfg.restartPolicy
      volumes := volumesList resource cfg.volumeMountInfo
      terminationGracePeriodSeconds := resource.spec.terminationGracePeriodSeconds }
  { labels := mergeLabels (getWorkloadLabelForResource resource) (identityLabels resource)
    spec := applySecurityDefaults spec resource.spec.hardenedSecurityDefaults }

section

variable (env : Env)

def buildPodTemplateSpec (cfg : PodTemplateConfig) : PodTemplateSpec :=
  let tmpl := basePodTemplateSpec cfg
  if cfg.needsRestart then
    { tmpl with
      annotations := tmpl.annotations.set restartResourceAnnotationKey
        (env.timeString env.clock.wall) }
  else tmpl

/-! ## Lookups -/

def getImageBuild (resource : StackResource) (buildSpec : StackResourceBuildSpec) :
    Pass ImageBuild :=
  mustGet env .imageBuild resource.metadata.ns (generateImageBuildName env resource buildSpec)

def getImageForResource (resource : StackResource) : Pass String := do
  match resource.spec.buildSpec, resource.spec.imageSpec with
  | some buildSpec, _ =>
    let build ← getImageBuild env resource buildSpec
    return build.status.imageUrl
  | none, some imageSpec => return imageSpec.image
  | none, none => throw nilDereference

/-- The volumes named by the mounts; the last entry of a repeated name wins, as all
entries of one name are the same volume. -/
def getVolumeMountInfoMap (resource : StackResource) : List VolumeMount → Pass VolumeInfo
  | [] => return []
  | mount :: rest => do
    match ← attempt (mustGet env .volume resource.metadata.ns mount.sourceVolume) with
    | .error e =>
      throw (e.wrap ("failed to get the referenced volume '" ++ mount.sourceVolume ++
        "' in resource '" ++ resource.name ++ "'"))
    | .ok volume =>
      let others ← getVolumeMountInfoMap resource rest
      return (mount.sourceVolume, volume) :: others

def imagePullSecretRef (resource : StackResource) : Except GoError String :=
  match resource.spec.buildSpec with
  | some buildSpec =>
    match buildSpec.repository.auth with
    | none => .error { message := "build spec has no repository auth" }
    | some auth =>
      match auth.dockerConfig, auth.basic with
      | some dockerConfig, _ =>
        match dockerConfig.secretRef with
        | some ref => .ok ref.name
        | none => .error nilDereference
      | none, some _ => .ok resource.synthesizedDockerConfigSecretName
      | none, none => .error { message := "build spec has no valid auth credentials" }
  | none =>
    match resource.spec.imageSpec.bind ImageSpec.pullAuth with
    | none => .error { message := "image spec has no pull auth" }
    | some pullAuth =>
      match pullAuth.dockerConfigAuth with
      | none => .error { message := "image spec has no pull auth" }
      | some dockerConfig =>
        match dockerConfig.secretRef with
        | some ref => .ok ref.name
        | none => .error nilDereference

def resolveImagePullSecretName (resource : StackResource) : Pass String := do
  match imagePullSecretRef resource with
  | .error e => throw e
  | .ok secretRef =>
    match ← attempt (getObject env .secret resource.metadata.ns secretRef) with
    | .error e => throw (e.wrap "failed to get docker config secret")
    | .ok none => throw ((notFound Kind.secret secretRef).wrap "docker config secret not found")
    | .ok (some secret) => return secret.name

def resolveAndSetImagePullSecret (resource : StackResource) (tmpl : PodTemplateSpec) :
    Pass PodTemplateSpec := do
  if resource.needsPullSecret then
    let secretName ← resolveImagePullSecretName env resource
    return { tmpl with spec.imagePullSecrets := [secretName] }
  else return tmpl

-- Looking things up has no footprint at all.

theorem reads_getImageForResource {resource : StackResource} :
    ReadsOnly (getImageForResource env resource) := by
  unfold getImageForResource
  split
  · exact .bind reads_mustGet fun _ => .pure
  · exact .pure
  · exact .throw

def imageFor (resource : StackResource) (c : Cluster) : Option String :=
  match resource.spec.buildSpec, resource.spec.imageSpec with
  | some buildSpec, _ =>
    (lookup .imageBuild c resource.metadata.ns (generateImageBuildName env resource buildSpec)).map
      fun build => build.status.imageUrl
  | none, some imageSpec => some imageSpec.image
  | none, none => none

theorem getImageForResource_spec (resource : StackResource) (w : World) :
    Triple (Reads w) (getImageForResource env resource)
      (fun image w' => imageFor env resource w.cluster = some image ∧ Reads w w') (Reads w) := by
  refine .of_each ?_
  rintro _ ⟨calls, rfl⟩
  unfold getImageForResource imageFor
  split
  · refine .bind ((mustGet_spec env .imageBuild _ _ _).onError
      fun _ => trans_of Reads ⟨calls, rfl⟩) fun build => .pure ?_
    rintro w' ⟨hLookup, hReads⟩
    exact ⟨congrArg (Option.map _) hLookup, trans_of Reads ⟨calls, rfl⟩ hReads⟩
  · refine .ret ?_
    exact ⟨rfl, calls, rfl⟩
  · refine .err ?_
    exact ⟨calls, rfl⟩

theorem reads_getVolumeMountInfoMap {resource : StackResource} {mounts : List VolumeMount} :
    ReadsOnly (getVolumeMountInfoMap env resource mounts) := by
  induction mounts with
  | nil => exact .pure
  | cons mount rest ih =>
    refine .bind (reads_mustGet).attempt fun result => ?_
    split
    · exact .throw
    · exact .bind ih fun _ => .pure

theorem reads_resolveAndSetImagePullSecret (resource : StackResource) (tmpl : PodTemplateSpec) :
    ReadsOnly (resolveAndSetImagePullSecret env resource tmpl) := by
  have hName : ReadsOnly (resolveImagePullSecretName env resource) := by
    unfold resolveImagePullSecretName
    split
    · exact .throw
    · refine .bind (reads_getObject).attempt fun result => ?_
      split
      · exact .throw
      · exact .throw
      · exact .pure
  unfold resolveAndSetImagePullSecret
  split
  · exact .bind hName fun _ => .pure
  · exact .pure

end

/-- A restart is due when one is requested and none was processed since. -/
def requiresRestart (resource : StackResource) : Bool :=
  match resource.spec.restartRequest, resource.status.lastRestartRequestProcessedAt with
  | some _, none => true
  | some request, some processed => decide (processed.wall < request)
  | none, _ => false

def imageBuildComplete (build : ImageBuild) : Bool :=
  match Conditions.findStatusCondition build.status.conditions .available with
  | none => false
  | some c => decide (c.status = .conditionTrue)

end ClusterAgent.Workload
