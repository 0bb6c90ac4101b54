import ClusterAgent.Workload.PodTemplate

/-!
# Cluster agent — why a workload is not ready

Two diagnoses end up in `status.lastFailureDetails`: the state of a crashing
container, read from the pods, and a declared port nobody listens on, read from
the port verifier. A crash is the more specific one and wins.

Every lookup here only informs the diagnosis: an API error is logged by the
source and the pass goes on, which `attempt` models.
-/

namespace ClusterAgent.Workload

open Pass Effect

def deploymentRevisionAnnotationKey : String := "deployment.kubernetes.io/revision"

/-! ## Crashing containers -/

def crashReasons : List String :=
  ["CrashLoopBackOff", "ImagePullBackOff", "ErrImagePull", "CreateContainerError", "OOMKilled",
    "Error"]

def isCrashState (cs : ContainerStatus) : Bool :=
  (match cs.waiting with
    | some waiting => decide (waiting.reason ∈ crashReasons)
    | none => false) ||
  (match cs.terminated with
    | some terminated => decide (terminated.exitCode ≠ 0)
    | none => false)

/-- Drop one `ESC [ digits m` sequence at a time, and every carriage return. The first
argument bounds the number of steps. -/
def stripEscapes : Nat → List Char → List Char
  | 0, cs => cs
  | _, [] => []
  | n + 1, c :: cs =>
    if c = '\x1b' then
      match cs with
      | '[' :: rest =>
        match rest.dropWhile fun d => d.isDigit || d == ';' with
        | 'm' :: after => stripEscapes n after
        | _ => c :: stripEscapes n cs
      | _ => c :: stripEscapes n cs
    else if c = '\r' then stripEscapes n cs
    else c :: stripEscapes n cs

def sanitizeTerminationMessage (msg : String) : String :=
  String.ofList (stripEscapes msg.length msg.toList)

def getTerminatedState (cs : ContainerStatus) : Option ContainerStateTerminated :=
  cs.terminated.or cs.lastTerminated

def buildLastFailureDetail (cs : ContainerStatus) : LastFailureDetail :=
  let detail : LastFailureDetail :=
    { type := failureTypeRuntimeCrash, containerName := cs.name, restartCount := cs.restartCount }
  match getTerminatedState cs, cs.waiting with
  | some terminated, _ =>
    { detail with
      lastTerminationExitCode := some terminated.exitCode
      lastTerminationReason := terminated.reason
      lastTerminationMessage := sanitizeTerminationMessage terminated.message }
  | none, some waiting =>
    { detail with
      lastTerminationReason := waiting.reason
      lastTerminationMessage := sanitizeTerminationMessage waiting.message }
  | none, none => detail

def hasAnyCrashingContainer (pod : Pod) : Bool :=
  pod.status.containerStatuses.any isCrashState || pod.status.initContainerStatuses.any isCrashState

/-- The crash details of the newest crashing pod, with the release they were observed on. -/
def crashDetails (resource : StackResource) (pods : List Pod) : List LastFailureDetail :=
  let newestFirst := pods.insertionSort fun a b =>
    b.metadata.creationTimestamp ≤ a.metadata.creationTimestamp
  match newestFirst.find? hasAnyCrashingContainer with
  | none => []
  | some pod =>
    ((pod.status.initContainerStatuses ++ pod.status.containerStatuses).filter isCrashState).map
      fun cs => { buildLastFailureDetail cs with releaseID := resource.releaseID }

section

variable (env : Env)

/-- The pods of the ReplicaSet of a Deployment revision; none if there is no such
ReplicaSet or it has no template hash. -/
def replicaSetPods (resource : StackResource) (deploymentRevision : String) :
    Pass (Option (List Pod)) := do
  let replicaSets ← listObjects env .replicaSet resource.metadata.ns
    (getWorkloadLabelForResource resource)
  match replicaSets.find? fun rs =>
      decide (rs.metadata.annotations.get deploymentRevisionAnnotationKey = deploymentRevision) with
  | none => return none
  | some replicaSet =>
    match replicaSet.metadata.labels.get? "pod-template-hash" with
    | none => return none
    | some podTemplateHash =>
      let pods ← listObjects env .pod resource.metadata.ns
        (replicaSet.spec.selector ++ [("pod-template-hash", podTemplateHash)])
      return some pods

/-- `captureLastFailureDetails` of a Deployment revision; empty when a lookup failed. -/
def captureLastFailureDetails (resource : StackResource) (deploymentRevision : String) :
    Pass (List LastFailureDetail) := do
  match ← attempt (replicaSetPods env resource deploymentRevision) with
  | .ok (some pods) => return crashDetails resource pods
  | .ok none => return []
  | .error _ => return []

/-- `capturePodFailureDetails` over all pods of the workload. -/
def capturePodFailureDetails (resource : StackResource) : Pass (List LastFailureDetail) := do
  match ← attempt (listObjects env .pod resource.metadata.ns
      (getWorkloadLabelForResource resource)) with
  | .ok pods => return crashDetails resource pods
  | .error _ => return []

def recordFailureDetails (key : String) (details : List LastFailureDetail) : Pass Unit :=
  modifyStatus fun s =>
    { s with
      lastFailureDetails := details
      lastFailureDeploymentRevision :=
        if 0 < details.length then key else s.lastFailureDeploymentRevision }

def captureFailureDetailsOnce (deploymentRevision : String) : Pass Unit := do
  let resource ← Pass.resource
  if resource.status.lastFailureDeploymentRevision = deploymentRevision then return ()
  else
    let details ← captureLastFailureDetails env resource deploymentRevision
    recordFailureDetails deploymentRevision details

/-- Record crash details once for each key; shared by StatefulSet, Job and CronJob. -/
def capturePodFailureDetailsOnce (failureKey : String) : Pass Unit := do
  let resource ← Pass.resource
  if failureKey = "" ∨ resource.status.lastFailureDeploymentRevision = failureKey then return ()
  else
    let details ← capturePodFailureDetails env resource
    recordFailureDetails failureKey details

def clearFailureDetails : Pass Unit :=
  modifyStatus fun s => { s with lastFailureDetails := [], lastFailureDeploymentRevision := "" }

/-! ## Port checks -/

def defaultPortCheckGrace : Int := 3 * minute
def portCheckRequeueInterval : Int := 30 * second
def minPortRetryInterval : Int := minute
def maxPortRetryInterval : Int := 10 * minute

def portCheckGrace : Int :=
  if env.portCheckGrace ≤ 0 then defaultPortCheckGrace else env.portCheckGrace

def timeSince (t : Timestamp) : Int := env.clock.wall - t.wall

def declaredPortNumbers (resource : StackResource) : List Int := resource.spec.ports.map Port.number

/-- A crash detail keeps `lastFailureDetails`; the port verdict may not own it then. -/
def portDiagnosisAllowed (resource : StackResource) : Bool :=
  match resource.status.lastFailureDetails with
  | [] => true
  | d :: _ => decide (d.type = failureTypeReadinessFailure)

/-- When the grace clock of this revision started, if it is running. -/
def graceClockStart (pc : Option PortCheckStatus) (revision : String) : Option Timestamp :=
  match pc with
  | none => none
  | some pc => if pc.revision ≠ revision then none else pc.failingSince

/-- The status already holds a failed verdict for this revision past its grace period. -/
def portAlreadyFailed (pc : Option PortCheckStatus) (revision : String) : Bool :=
  match graceClockStart pc revision, pc with
  | some started, some pc =>
    decide (0 < pc.failingPortNumbers.length) && decide (portCheckGrace env ≤ timeSince env started)
  | _, _ => false

/-- The wait before a failed port is dialed again: the length of the outage, within
bounds. -/
def portRetryAfter (pc : Option PortCheckStatus) : Int :=
  match pc.bind PortCheckStatus.failingSince with
  | none => minPortRetryInterval
  | some since =>
    min (max (timeSince env since - portCheckGrace env) minPortRetryInterval) maxPortRetryInterval

/-- Running with an IP is dialable even if not Ready. -/
def firstDialablePodIP (pods : List Pod) : Option String :=
  (pods.find? fun pod => pod.status.running && decide (pod.status.podIP ≠ "")).map
    fun pod => pod.status.podIP

def deploymentPodIP (resource : StackResource) (deploymentRevision : String) :
    Pass (Option String) := do
  match ← attempt (replicaSetPods env resource deploymentRevision) with
  | .ok (some pods) => return firstDialablePodIP pods
  | .ok none => return none
  | .error _ => return none

def statefulSetPodIP (resource : StackResource) (controllerRevision : String) :
    Pass (Option String) := do
  if controllerRevision = "" then return none
  else
    match ← attempt (listObjects env .pod resource.metadata.ns
        (getWorkloadLabelForResource resource ++
          [("controller-revision-hash", controllerRevision)])) with
    | .ok pods => return firstDialablePodIP pods
    | .error _ => return none

def representativePodIP (resource : StackResource) (revision : String) : Pass (Option String) :=
  if resource.spec.workloadType = .statefulService then statefulSetPodIP env resource revision
  else deploymentPodIP env resource revision

def onVerifier {α : Type} (f : PortCheck.Verifier → α × PortCheck.Verifier) (default : α) :
    Pass α := fun w =>
  match w.verifier with
  | none => .ok default w
  | some v => .ok (f v).1 { w with verifier := some (f v).2 }

/-- Queue a dial; whether a pod to dial was found, and whether an answer is coming. -/
def schedulePortCheck (resource : StackResource) (key : PortCheck.Key) : Pass (Bool × Bool) := do
  match ← representativePodIP env resource key.revision with
  | none => return (false, false)
  | some podIP =>
    let accepted ← onVerifier
      (fun v =>
        let (queued, v) := v.enqueue key podIP (declaredPortNumbers resource)
        (queued || v.isPending key, v)) false
    return (true, accepted)

def judgeClosedPorts (key : PortCheck.Key) (result : PortCheck.Result) : Pass (Bool × Int) := do
  let resource ← Pass.resource
  let clockStartedAt :=
    (graceClockStart resource.status.portCheck key.revision).getD env.clock.now
  let failure : PortCheckStatus :=
    { revision := key.revision
      status := .failure
      failingPortNumbers := result.closedPorts
      failingSince := some clockStartedAt }
  modifyStatus fun s => { s with portCheck := some failure }
  -- the answer just judged is dropped, or no fresh dial could be queued
  onVerifier (fun v => ((), v.forget key)) ()
  if timeSince env clockStartedAt < portCheckGrace env then
    return (false, portCheckRequeueInterval)
  else return (true, 0)

/-- Whether a declared port is known to be closed, and how long to wait for more. -/
def verifyPorts (revision : String) : Pass (Bool × Int) := do
  let resource ← Pass.resource
  match (← get).verifier with
  | none =>
    modifyStatus fun s => { s with portCheck := none }
    return (false, 0)
  | some verifier =>
    if resource.spec.ports.length = 0 then
      modifyStatus fun s => { s with portCheck := none }
      return (false, 0)
    else
      let key : PortCheck.Key :=
        { ns := resource.metadata.ns, name := resource.name, revision := revision }
      match verifier.get key with
      | none =>
        let (podsFound, accepted) ← schedulePortCheck env resource key
        -- no answer yet: repeat the verdict on status while the dial is in flight
        let failed := portAlreadyFailed env resource.status.portCheck revision
        return (failed, if accepted || podsFound then portCheckRequeueInterval else 0)
      | some result =>
        if result.allOpen then
          let success : PortCheckStatus := { revision := revision, status := .success }
          modifyStatus fun s => { s with portCheck := some success }
          return (false, 0)
        else judgeClosedPorts env key result

/-- The detail of a failed verdict, rendered from what the status says is failing. -/
def portFailureDetail (resource : StackResource) (failing : List Int) : LastFailureDetail :=
  let dial : PortCheck.Result :=
    { ports := resource.spec.ports.map fun p =>
        { port := p.number, «open» := !decide (p.number ∈ failing) } }
  { type := failureTypeReadinessFailure
    containerName := resource.name
    lastTerminationReason := reasonPortNotListening
    lastTerminationMessage := dial.message }

/-- Render the verdict on status into the detail the hub shows; the result is its text. -/
def recordPortFailure : Pass String := do
  let resource ← Pass.resource
  match resource.status.portCheck with
  | none => throw nilDereference
  | some pc =>
    let detail := portFailureDetail resource pc.failingPortNumbers
    modifyStatus fun s => { s with lastFailureDetails := [detail] }
    return detail.lastTerminationMessage

/-- The failure rides WorkloadConverged and the Failed verdict, never WorkloadAvailable. -/
def reportPortNotListening (msg : String) : Pass Unit := do
  setCondition env .workloadConverged false reasonPortNotListening msg
  reportFailed reasonPortNotListening msg

/-- Run the port verdict for one status branch; the result is how long to wait before the
next pass, zero when there is nothing to wait for. -/
def checkPorts (revision : String) (serving : Bool) : Pass Int := do
  let resource ← Pass.resource
  if !portDiagnosisAllowed resource then
    modifyStatus fun s => { s with portCheck := none }
    return 0
  else
    let (failed, requeueAfter) ← verifyPorts env revision
    if !failed then
      modifyStatus fun s => { s with lastFailureDetails := [] }
      return requeueAfter
    else
      let msg ← recordPortFailure
      reportPortNotListening env msg
      let resource ← Pass.resource
      if serving then
        return (if 0 < requeueAfter then requeueAfter
          else portRetryAfter env resource.status.portCheck)
      else return 0

/-! ## Footprint -/

variable {fp : Footprint}

variable {env}

theorem reads_replicaSetPods {resource : StackResource} {deploymentRevision : String} :
    ReadsOnly (replicaSetPods env resource deploymentRevision) := by
  refine .bind reads_listObjects fun replicaSets => ?_
  split
  · exact .pure
  · split
    · exact .pure
    · exact .bind reads_listObjects fun _ => .pure

theorem reads_captureLastFailureDetails {resource : StackResource} {deploymentRevision : String} :
    ReadsOnly (captureLastFailureDetails env resource deploymentRevision) := by
  refine .bind reads_replicaSetPods.attempt fun result => ?_
  split
  · exact .pure
  · exact .pure
  · exact .pure

theorem reads_capturePodFailureDetails {resource : StackResource} :
    ReadsOnly (capturePodFailureDetails env resource) := by
  refine .bind (reads_listObjects).attempt fun result => ?_
  split
  · exact .pure
  · exact .pure

theorem has_captureFailureDetailsOnce (h : fp.failureDetails = true) {revision : String} :
    Has fp (captureFailureDetailsOnce env revision) := by
  refine .bind has_resource fun resource => ?_
  split
  · exact .pure
  · exact .bind (Has.of_reads reads_captureLastFailureDetails) fun _ =>
      has_modifyStatus (d := .inl h)

theorem has_capturePodFailureDetailsOnce (h : fp.failureDetails = true) {failureKey : String} :
    Has fp (capturePodFailureDetailsOnce env failureKey) := by
  refine .bind has_resource fun resource => ?_
  split
  · exact .pure
  · exact .bind (Has.of_reads reads_capturePodFailureDetails) fun _ =>
      has_modifyStatus (d := .inl h)

theorem has_clearFailureDetails (h : fp.failureDetails = true) : Has fp clearFailureDetails :=
  has_modifyStatus (d := .inl h)

theorem has_setPortCheck {pc : Option PortCheckStatus} :
    Has fp (modifyStatus fun s => { s with portCheck := pc }) :=
  has_modifyStatus

theorem has_onVerifier {α : Type} {f : PortCheck.Verifier → α × PortCheck.Verifier} {default : α} :
    Has fp (onVerifier f default) := by
  intro w
  unfold onVerifier
  split
  · exact Touches.refl fp w
  · exact ⟨rfl, rfl, .refl _, fun _ => Or.inl, fun _ => rfl, fun _ _ => rfl, fun _ => rfl,
      fun _ => rfl, fun _ => rfl, fun k _ => .refl _ k, rfl⟩

theorem reads_representativePodIP {resource : StackResource} {revision : String} :
    ReadsOnly (representativePodIP env resource revision) := by
  unfold representativePodIP
  split
  · unfold statefulSetPodIP
    split
    · exact .pure
    · refine .bind (reads_listObjects).attempt fun result => ?_
      split
      · exact .pure
      · exact .pure
  · refine .bind reads_replicaSetPods.attempt fun result => ?_
    split
    · exact .pure
    · exact .pure
    · exact .pure

theorem has_schedulePortCheck {resource : StackResource} {key : PortCheck.Key} :
    Has fp (schedulePortCheck env resource key) := by
  refine .bind (Has.of_reads reads_representativePodIP) fun podIP => ?_
  split
  · exact .pure
  · exact .bind has_onVerifier fun _ => .pure

theorem has_judgeClosedPorts {key : PortCheck.Key} {result : PortCheck.Result} :
    Has fp (judgeClosedPorts env key result) := by
  refine .bind has_resource fun resource => .bind has_setPortCheck fun _ =>
    .bind has_onVerifier fun _ => ?_
  split
  · exact .pure
  · exact .pure

theorem has_verifyPorts {revision : String} : Has fp (verifyPorts env revision) := by
  refine .bind has_resource fun resource => .bind .get fun w => ?_
  split
  · exact .bind has_setPortCheck fun _ => .pure
  · split
    · exact .bind has_setPortCheck fun _ => .pure
    · dsimp only
      split
      · exact .bind has_schedulePortCheck fun _ => .pure
      · split
        · exact .bind has_setPortCheck fun _ => .pure
        · exact has_judgeClosedPorts

theorem has_checkPorts (hc : .workloadConverged ∈ fp.conditions) (hf : fp.failureDetails = true)
    (hv : fp.fails = true) {revision : String} {serving : Bool} :
      Has fp (checkPorts env revision serving) := by
  have hRecord : Has fp recordPortFailure := by
    refine .bind has_resource fun resource => ?_
    split
    · exact .throw
    · exact .bind (has_modifyStatus (d := .inl hf)) fun _ => .pure
  refine .bind has_resource fun resource => ?_
  split
  · exact .bind has_setPortCheck fun _ => .pure
  · refine .bind has_verifyPorts fun answer => ?_
    dsimp only
    split
    · exact .bind (has_modifyStatus (d := .inl hf)) fun _ => .pure
    · refine .bind hRecord fun msg => .bind ?_ fun _ =>
        .bind has_resource fun resource => ?_
      · exact .bind (has_setCondition hc) fun _ => has_reportFailed hv
      · split
        · exact .pure
        · exact .pure

end

end ClusterAgent.Workload
