import ClusterAgent.Workload.PodTemplate

/-!
# Cluster agent — the service step

The last sub-reconciler of the chain: the Service in front of the workload, the
Ingresses for its public ports, and the two ways a public port gets TLS — a
certificate issued by cert-manager, or a Secret replicated from the platform
namespace. A port waits for TLS for at most a grace period and then falls back
to HTTP; the step never ends the chain.
-/

namespace ClusterAgent.Service

open Pass Effect Conditions

/-! ## TLS stages -/

inductive TLSStage where
  | none
  | waiting
  | ready
  | unavailable
  deriving DecidableEq, Repr

structure TLSState where
  stage : TLSStage := .none
  reason : String := ""
  message : String := ""
  retryAfter : Int := 0
  deriving DecidableEq, Repr

def reasonTLSReady : String := "TLSReady"
def reasonTLSWaiting : String := "CertificateIssuing"
def reasonTLSSecretUnavailable : String := "TLSSecretUnavailable"
def tlsGracePeriod : Int := 2 * minute
def tlsSecretSourceLabel : String := "core.stackdome.io/tls-secret-source"

/-- What is left of the waiting window; an unset start is a fresh window. -/
def remainingTLSGracePeriod (pendingSince : Option Timestamp) (now : Int) : Int :=
  match pendingSince with
  | none => tlsGracePeriod
  | some since => max 0 (tlsGracePeriod - (now - since.wall))

def orDefault (s fallback : String) : String := if s = "" then fallback else s

def findCertCondition (cert : Certificate) (condType : CertificateConditionType) :
    Option CertificateCondition :=
  cert.status.conditions.find? fun c => decide (c.type = condType)

def condMessage (c : Option CertificateCondition) : String :=
  (c.map CertificateCondition.message).getD ""

/-- The stage of a certificate that is not there, or there but not ready and not failed. -/
def classifyPending (issuingMsg : String) (pendingSince : Option Timestamp) (now : Int) :
    TLSState :=
  let pendingMsg := orDefault issuingMsg "waiting for cert-manager to issue the certificate"
  let remaining := remainingTLSGracePeriod pendingSince now
  if remaining = 0 then
    { stage := .unavailable
      reason := "CertificateTimedOut"
      message := "no certificate after 2m0s: " ++ pendingMsg }
  else
    { stage := .waiting, reason := reasonTLSWaiting, message := pendingMsg
      retryAfter := remaining }

def classifyCertificate (cert : Option Certificate) (pendingSince : Option Timestamp) (now : Int) :
    TLSState :=
  match cert with
  | none => classifyPending "" pendingSince now
  | some cert =>
    let ready := findCertCondition cert .ready
    if ready.any fun c => decide (c.status = .conditionTrue) then
      { stage := .ready, reason := reasonTLSReady
        message := orDefault (condMessage ready) "certificate issued" }
    else
      let issuingMsg := condMessage (findCertCondition cert .issuing)
      let attempts := cert.status.failedIssuanceAttempts.getD 0
      if 0 < attempts then
        { stage := .unavailable
          reason := "CertificateFailed"
          message := orDefault issuingMsg "certificate issuance failed" ++
            " (" ++ toString attempts ++ " failed attempts)" }
      else classifyPending issuingMsg pendingSince now

/-! ## Routes -/

abbrev PortMap := List (Int × String)

def PortMap.set (m : PortMap) (port : Int) (fqdn : String) : PortMap :=
  m.filter (fun e => decide (e.1 ≠ port)) ++ [(port, fqdn)]

def splitDots : List Char → List (List Char)
  | [] => [[]]
  | c :: cs =>
    match splitDots cs with
    | [] => [[c]]
    | label :: rest => if c = '.' then [] :: label :: rest else (c :: label) :: rest

/-- `validation.IsDNS1123Subdomain` has nothing to complain about. -/
def isDNS1123Subdomain (s : String) : Bool :=
  decide (s.length ≤ 253) && (splitDots s.toList).all isDNS1123Label

/-- The Secret a TLS port refers to; an invalid name falls through to cert-manager. -/
def portReferencedTLSSecretRef (port : Port) : Option String :=
  if port.tls && isDNS1123Subdomain port.tlsSecretRef then some port.tlsSecretRef else none

structure ExposedPortRoutes where
  allFQDNs : PortMap := []
  certManagerIngressFQDNs : PortMap := []
  certManagerHosts : List String := []
  referencedTLSSecretRef : String := ""
  referencedTLSFQDNs : PortMap := []
  referencedTLSHosts : List String := []
  deriving DecidableEq, Repr

def conflictingRefs (ref ref' : String) : GoError where
  message := "conflicting referenced TLS Secret refs " ++ quoted ref ++ " and " ++ quoted ref'

def addRoute (routes : ExposedPortRoutes) (port : Port) : Except GoError ExposedPortRoutes :=
  if !port.exposeToPublic then .ok routes
  else
    let routes := { routes with allFQDNs := routes.allFQDNs.set port.number port.fqdn }
    match portReferencedTLSSecretRef port with
    | some ref =>
      if routes.referencedTLSSecretRef ≠ "" ∧ routes.referencedTLSSecretRef ≠ ref then
        .error (conflictingRefs routes.referencedTLSSecretRef ref)
      else
        .ok { routes with
          referencedTLSSecretRef := ref
          referencedTLSFQDNs := routes.referencedTLSFQDNs.set port.number port.fqdn
          referencedTLSHosts := routes.referencedTLSHosts ++ [port.fqdn] }
    | none =>
      .ok { routes with
        certManagerHosts :=
          if port.tls then routes.certManagerHosts ++ [port.fqdn] else routes.certManagerHosts
        certManagerIngressFQDNs := routes.certManagerIngressFQDNs.set port.number port.fqdn }

def collectExposedPortRoutes (resource : StackResource) : Except GoError ExposedPortRoutes :=
  resource.spec.ports.foldlM addRoute {}

def buildIngressRules (portFqdnMap : PortMap) (serviceName : String) : List IngressRule :=
  (portFqdnMap.insertionSort fun a b => a.1 ≤ b.1).map fun e =>
    { host := e.2, path := "/", pathType := "Prefix", serviceName := serviceName
      servicePort := e.1 }

def buildReferencedTLSConfig (ref : String) (hosts : List String) (stage : TLSStage) :
    List IngressTLS :=
  if ref = "" ∨ stage ≠ .ready then []
  else [{ hosts := hosts.reverse.dedup.reverse, secretName := ref }]

def httpProxyNameForResource (resourceName : String) : String := resourceName ++ "-http-proxy"

def referencedTLSIngressNameForResource (resourceName : String) : String :=
  resourceName ++ "-wildcard"

def certificateNameForResource (resourceName : String) : String := resourceName ++ "-tls"

/-! ## Ingress TLS annotations -/

def certManagerClusterIssuerAnnotationKey : String := "cert-manager.io/cluster-issuer"
def traefikEntrypointsAnnotationKey : String := "traefik.ingress.kubernetes.io/router.entrypoints"
def traefikMiddlewaresAnnotationKey : String := "traefik.ingress.kubernetes.io/router.middlewares"
def redirectMiddlewareName : String := "redirect-https"

def managedAnnotations : List String :=
  [certManagerClusterIssuerAnnotationKey, traefikEntrypointsAnnotationKey,
    traefikMiddlewaresAnnotationKey]

def traefikAnnotations (ns : String) : StringMap :=
  [(traefikEntrypointsAnnotationKey, "web,websecure"),
    (traefikMiddlewaresAnnotationKey, ns ++ "-" ++ redirectMiddlewareName ++ "@kubernetescrd")]

def buildTLSConfig (issuerName : String) (tlsHosts : List String) (ns tlsSecretName : String) :
    StringMap × List IngressTLS :=
  if issuerName = "" ∨ tlsHosts.length = 0 then ([], [])
  else
    ((traefikAnnotations ns).set certManagerClusterIssuerAnnotationKey issuerName,
      [{ hosts := tlsHosts.reverse.dedup.reverse, secretName := tlsSecretName }])

def ingressNeedsUpdate (desired existing : Ingress) : Bool :=
  decide (desired.spec ≠ existing.spec) ||
    managedAnnotations.any fun key =>
      decide (desired.metadata.annotations.get key ≠ existing.metadata.annotations.get key)

/-- Copy the managed annotations, deleting those that are empty in `desired`. -/
def syncManagedAnnotations (annotations desired : StringMap) : StringMap :=
  managedAnnotations.foldl
    (fun m key =>
      let value := desired.get key
      if value ≠ "" then m.set key value else m.delete key)
    annotations

/-! ## The Service object -/

def buildServicePorts (resource : StackResource) : List ServicePort :=
  resource.spec.ports.map fun p => { name := p.name, port := p.number, targetPort := p.name }

def isHeadlessService (resource : StackResource) (ports : List ServicePort) : Bool :=
  decide (resource.spec.workloadType = .statefulService) || decide (ports.length = 0)

def buildDesiredService (resource : StackResource) : Service :=
  let ports := buildServicePorts resource
  let headless := isHeadlessService resource ports
  { metadata :=
      { name := resource.name
        ns := resource.metadata.ns
        labels := Workload.identityLabels resource }
    spec :=
      { selector := Workload.getWorkloadLabelForResource resource
        ports := ports
        clusterIP := if headless then "None" else ""
        type := if headless then "" else "ClusterIP" }
    status := () }

/-- `equality.Semantic.DeepDerivative` on texts: an unset one matches anything. -/
def derivativeText (desired existing : String) : Bool :=
  decide (desired = "") || decide (desired = existing)

/-- `DeepDerivative` on ports, node ports aside: a desired list matches a longer one that
starts like it. -/
def derivativePorts : List ServicePort → List ServicePort → Bool
  | [], _ => true
  | _ :: _, [] => false
  | d :: ds, e :: es =>
    derivativeText d.name e.name && (decide (d.port = 0) || decide (d.port = e.port)) &&
      derivativeText d.targetPort e.targetPort && derivativePorts ds es

def areServicesEqual (desired existing : Service) : Bool :=
  (desired.spec.selector.all fun e =>
    match existing.spec.selector.get? e.1 with
    | some v => derivativeText e.2 v
    | none => false) &&
  derivativePorts desired.spec.ports existing.spec.ports &&
  derivativeText desired.spec.clusterIP existing.spec.clusterIP &&
  derivativeText desired.spec.type existing.spec.type

section

variable (env : Env)

def ensureService (resource : StackResource) : Pass Service := do
  let desired ← controlled (buildDesiredService resource)
  match ← getObject env .service desired.metadata.ns desired.metadata.name with
  | none => create env .service desired
  | some existing =>
    if areServicesEqual desired existing then return existing else update env .service desired

/-! ## Ingress objects -/

def deleteChildIngress (resource : StackResource) (name : String) : Pass Unit := do
  match ← getObject env .ingress resource.metadata.ns name with
  | none => return ()
  | some stale =>
    if isControlledBy stale.metadata resource.metadata then delete env .ingress stale
    else return ()

def buildDesiredIngress (resource : StackResource) (name : String) (rules : List IngressRule)
    (annotations : StringMap) (tls : List IngressTLS) : Ingress :=
  { metadata := { name := name, ns := resource.metadata.ns, annotations := annotations }
    spec := { tls := tls, rules := rules }
    status := () }

def applyIngress (desired : Ingress) (annotations : StringMap) : Pass Unit := do
  match ← getObject env .ingress desired.metadata.ns desired.metadata.name with
  | none =>
    let _ ← create env .ingress desired
  | some existing =>
    if ingressNeedsUpdate desired existing then
      let _ ← update env .ingress { existing with
        spec := desired.spec
        metadata.annotations := syncManagedAnnotations existing.metadata.annotations annotations }
    else return ()

def reconcileIngressCR (resource : StackResource) (name : String) (rules : List IngressRule)
    (annotations : StringMap) (tls : List IngressTLS) : Pass Unit := do
  if rules.length = 0 then deleteChildIngress env resource name
  else
    let desired ← controlled (buildDesiredIngress resource name rules annotations tls)
    applyIngress env desired annotations

def ensureRedirectMiddleware (ns : String) : Pass Unit := do
  let spec : MiddlewareSpec := { scheme := "https", permanent := false }
  match ← getObject env .middleware ns redirectMiddlewareName with
  | none =>
    let _ ← create env .middleware
      { metadata := { name := redirectMiddlewareName, ns := ns }, spec := spec, status := () }
  | some existing =>
    if existing.spec = spec then return ()
    else
      let _ ← update env .middleware { existing with spec := spec }

/-! ## TLS by cert-manager -/

/-- The issuer named by the annotation, or the reason and message why there is none. -/
def resolveClusterIssuer (annotations : StringMap) : Pass (Except (String × String) String) := do
  let issuerName := annotations.get clusterIssuerAnnotationKey
  if issuerName = "" then
    return .error ("ClusterIssuerNotConfigured",
      "Missing annotation " ++ clusterIssuerAnnotationKey)
  else
    match ← attempt (getObject env .clusterIssuer "" issuerName) with
    | .error e =>
      return .error ("ClusterIssuerLookupFailed",
        "Failed to look up ClusterIssuer " ++ quoted issuerName ++ ": " ++ e.message)
    | .ok none =>
      return .error ("ClusterIssuerNotFound",
        "ClusterIssuer " ++ quoted issuerName ++ " does not exist")
    | .ok (some _) => return .ok issuerName

def certManagerTLSPendingSince (resource : StackResource) : Option Timestamp :=
  resource.status.certManagerTLS.bind CertManagerTLSStatus.waitingSince

/-- Keep the start of the waiting window until TLS is ready or not in use. -/
def updateCertManagerTLSStatus (status : TLSState) : Pass Unit :=
  modifyStatus fun s =>
    if status.stage = .none ∨ status.stage = .ready then { s with certManagerTLS := none }
    else
      match s.certManagerTLS.bind CertManagerTLSStatus.waitingSince with
      | some _ => s
      | none => { s with certManagerTLS := some { waitingSince := some env.clock.now } }

def getCertManagerTLSState (resource : StackResource) : Pass TLSState := do
  let cert ← getObject env .certificate resource.metadata.ns
    (certificateNameForResource resource.name)
  return classifyCertificate cert (certManagerTLSPendingSince resource) env.clock.wall

def reconcileCertManagerIngress (resource : StackResource) (svc : Service)
    (routes : ExposedPortRoutes) : Pass TLSState := do
  let rules := buildIngressRules routes.certManagerIngressFQDNs svc.name
  let name := httpProxyNameForResource resource.name
  if routes.certManagerHosts.length = 0 then
    updateCertManagerTLSStatus env {}
    reconcileIngressCR env resource name rules [] []
    return {}
  else
    match ← resolveClusterIssuer env resource.metadata.annotations with
    | .error (reason, message) =>
      updateCertManagerTLSStatus env {}
      reconcileIngressCR env resource name rules [] []
      return { stage := .unavailable, reason := reason, message := message }
    | .ok issuerName =>
      let status ← getCertManagerTLSState env resource
      updateCertManagerTLSStatus env status
      let (annotations, tls) := buildTLSConfig issuerName routes.certManagerHosts
        resource.metadata.ns (certificateNameForResource resource.name)
      let annotations :=
        if status.stage ≠ .ready then annotations.delete traefikMiddlewaresAnnotationKey
        else annotations
      reconcileIngressCR env resource name rules annotations tls
      return status

/-! ## TLS by a referenced Secret -/

def referencedTLSSecretPendingSince (resource : StackResource) (tlsSecretRef : String) :
    Option Timestamp :=
  match resource.status.referencedTLSSecret with
  | none => none
  | some status => if status.reference ≠ tlsSecretRef then none else status.waitingSince

def referencedTLSStatusWhileBlocked (resource : StackResource) (tlsSecretRef message : String) :
    TLSState :=
  let remaining := remainingTLSGracePeriod (referencedTLSSecretPendingSince resource tlsSecretRef)
    env.clock.wall
  if remaining = 0 then
    { stage := .unavailable
      reason := reasonTLSSecretUnavailable
      message := "TLS secret unavailable after 2m0s: " ++ message }
  else
    { stage := .waiting, reason := reasonTLSWaiting, message := message
      retryAfter := remaining }

/-- The waiting window belongs to one Secret reference. -/
def updateReferencedTLSSecretStatus (tlsSecretRef : String) (status : TLSState) : Pass Unit :=
  modifyResource fun r =>
    let waitingSince :=
      if status.stage = .ready then none
      else some ((referencedTLSSecretPendingSince r tlsSecretRef).getD env.clock.now)
    { r with
      status.referencedTLSSecret :=
        some { reference := tlsSecretRef, waitingSince := waitingSince } }

def deleteManagedWrongTypeReplica (existing : Secret) : Pass Unit :=
  match existing.metadata.labels.get? tlsSecretSourceLabel with
  | none => return ()
  | some _ => delete env .secret existing

def refreshedReplica (source replica : Secret) : Secret :=
  { replica with
    spec := { type := secretTypeTLS, data := source.spec.data }
    metadata.labels := replica.metadata.labels.set tlsSecretSourceLabel source.metadata.ns
    metadata.ownerReferences := [] }

/-- Create or refresh the copy of a TLS Secret; whether it is in place. -/
def ensureReferencedTLSSecretReplica (targetNamespace : String) (source : Secret) : Pass Bool := do
  match ← getObject env .secret targetNamespace source.name with
  | none =>
    let blank : Secret :=
      { metadata := { name := source.name, ns := targetNamespace }, spec := {}, status := () }
    let _ ← create env .secret (refreshedReplica source blank)
    return true
  | some existing =>
    if existing.spec.type ≠ secretTypeTLS then
      deleteManagedWrongTypeReplica env existing
      return false
    else
      let replica := refreshedReplica source existing
      if existing = replica then return true
      else
        let _ ← update env .secret replica
        return true

def mirrorTLSSecret (resource : StackResource) (tlsSecretRef sourceNamespace : String) :
    Pass (Bool × String) := do
  match ← getObject env .secret sourceNamespace tlsSecretRef with
  | none => return (false, "waiting for referenced TLS Secret " ++ tlsSecretRef)
  | some source =>
    if source.spec.data.get tlsCertKey = "" ∨ source.spec.data.get tlsPrivateKeyKey = "" then
      return (false, "waiting for a certificate and private key in referenced TLS Secret " ++
        tlsSecretRef)
    else
      let replicaReady ← ensureReferencedTLSSecretReplica env resource.metadata.ns source
      if replicaReady then return (true, "referenced TLS Secret replicated")
      else
        return (false, "waiting for referenced TLS Secret replica " ++ tlsSecretRef ++
          " to be recreated")

def reconcileReferencedTLSSecret (resource : StackResource) (tlsSecretRef : String) :
    Pass TLSState := do
  if tlsSecretRef = "" then
    modifyStatus fun s => { s with referencedTLSSecret := none }
    return {}
  else if !isDNS1123Subdomain tlsSecretRef then
    return { stage := .unavailable
             reason := reasonTLSSecretUnavailable
             message := "invalid referenced TLS Secret name" }
  else
    let sourceNamespace :=
      if env.platformTLSNamespace = "" then "stackdome-control-plane" else env.platformTLSNamespace
    let (ready, message) ← mirrorTLSSecret env resource tlsSecretRef sourceNamespace
    let status : TLSState :=
      if ready then { stage := .ready, reason := reasonTLSReady, message := message }
      else referencedTLSStatusWhileBlocked env resource tlsSecretRef message
    updateReferencedTLSSecretStatus env tlsSecretRef status
    return status

def reconcileReferencedTLSIngress (resource : StackResource) (svc : Service)
    (routes : ExposedPortRoutes) : Pass TLSState := do
  let status ← reconcileReferencedTLSSecret env resource routes.referencedTLSSecretRef
  let annotations := if status.stage = .ready then traefikAnnotations resource.metadata.ns else []
  let tls := buildReferencedTLSConfig routes.referencedTLSSecretRef routes.referencedTLSHosts
    status.stage
  reconcileIngressCR env resource (referencedTLSIngressNameForResource resource.name)
    (buildIngressRules routes.referencedTLSFQDNs svc.name) annotations tls
  return status

/-! ## The step -/

/-- TLSConfigured over both paths: whichever is not ready wins. -/
def setTLSConfigured (cert refs : TLSState) : Pass Unit :=
  match [refs, cert].find? fun s => decide (s.stage ≠ .none) && decide (s.stage ≠ .ready) with
  | some s => setCondition env .tlsConfigured false s.reason s.message
  | none =>
    if cert.stage = .ready then setCondition env .tlsConfigured true cert.reason cert.message
    else if refs.stage = .ready then setCondition env .tlsConfigured true refs.reason refs.message
    else return ()

def ensureRedirect (ns : String) (cert refs : TLSState) : Pass Unit :=
  if cert.stage = .ready ∨ refs.stage = .ready then ensureRedirectMiddleware env ns else return ()

def reconcileIngress (resource : StackResource) (svc : Service) (routes : ExposedPortRoutes) :
    Pass (TLSState × TLSState) := do
  let cert ← reconcileCertManagerIngress env resource svc routes
  let refs ← reconcileReferencedTLSIngress env resource svc routes
  ensureRedirect env resource.metadata.ns cert refs
  setTLSConfigured env cert refs
  return (cert, refs)

def cleanupIngress (resource : StackResource) : Pass Unit := do
  deleteChildIngress env resource (httpProxyNameForResource resource.name)
  deleteChildIngress env resource (referencedTLSIngressNameForResource resource.name)
  modifyStatus fun s =>
    { s with
      referencedTLSSecret := none
      certManagerTLS := none
      conditions := removeStatusCondition
        (removeStatusCondition s.conditions (.domain .tlsConfigured)) (.domain .ingressReady) }

def buildExternalAddress (resource : StackResource) (cert refs : TLSStage) (port : Int)
    (fqdn : String) : Option ExternalAddress :=
  match resource.getPort port with
  | none => none
  | some portSpec =>
    if !portSpec.exposeToPublic then none
    else if !portSpec.tls then some { targetPort := port, address := "http://" ++ fqdn }
    else
      match (if (portReferencedTLSSecretRef portSpec).isSome then refs else cert) with
      | .ready => some { targetPort := port, address := "https://" ++ fqdn }
      | .unavailable => some { targetPort := port, address := "http://" ++ fqdn }
      | .none | .waiting => none

def buildExternalAddresses (resource : StackResource) (portFQDNs : PortMap) (cert refs : TLSStage) :
    List ExternalAddress :=
  (env.mapOrder (portFQDNs.map Prod.fst)).filterMap fun port =>
    (portFQDNs.lookup port).bind (buildExternalAddress resource cert refs port)

def earliestRetry (statuses : List TLSState) : Int :=
  statuses.foldl
    (fun earliest s =>
      if 0 < s.retryAfter ∧ (earliest = 0 ∨ s.retryAfter < earliest) then s.retryAfter
      else earliest) 0

/-- A path that still waits holds back convergence. -/
def reportWaiting (s : TLSState) : Pass Unit :=
  if s.stage = .waiting then reportNotReady s.reason s.message else return ()

def publish (resource : StackResource) (svc : Service) (routes : ExposedPortRoutes) :
    Pass SubReconcilerResult := do
  let (cert, refs) ← reconcileIngress env resource svc routes
  let addresses := buildExternalAddresses env resource routes.allFQDNs cert.stage refs.stage
  modifyStatus fun s => { s with externalAddress := addresses }
  setCondition env .ingressReady true "IngressConfigured"
    "ingress routes configured for public ports"
  reportWaiting cert
  reportWaiting refs
  let retryAfter := earliestRetry [cert, refs]
  if 0 < retryAfter then return .deferredRequeue retryAfter else return .nil

def reconcileRoutes (resource : StackResource) (routes : ExposedPortRoutes) :
    Pass SubReconcilerResult := do
  let svc ← ensureService env resource
  modifyStatus fun s => { s with internalAddress := some svc.name }
  if !resource.spec.hasExposedPort then
    cleanupIngress env resource
    modifyStatus fun s => { s with externalAddress := [] }
    return .nil
  else publish env resource svc routes

def reconcile : Pass SubReconcilerResult := do
  let resource ← Pass.resource
  match resource.spec.workloadType with
  | .worker | .job | .cronJob => return .nil
  | .unset | .service | .statefulService | .unknown _ =>
    match collectExposedPortRoutes resource with
    | .error e => throw e
    | .ok routes => reconcileRoutes env resource routes

/-! ## Footprint -/

def footprint : Footprint where
  conditions := [.tlsConfigured, .ingressReady]
  routes := true
  objects := [.service, .ingress, .middleware, .secret]
  reasons := [reasonTLSWaiting]

variable {env}

theorem has_ensureService {fp : Footprint} (h : .service ∈ fp.objects)
    (resource : StackResource) :
    Has fp (ensureService env resource) := by
  refine .bind has_controlled fun desired =>
    .bind has_getObject fun existing => ?_
  split
  · exact has_create h
  · split
    · exact .pure
    · exact has_update h

theorem has_deleteChildIngress {fp : Footprint} (h : .ingress ∈ fp.objects)
    {resource : StackResource} {name : String} :
    Has fp (deleteChildIngress env resource name) := by
  refine .bind has_getObject fun stale => ?_
  split
  · exact .pure
  · split
    · exact has_delete h
    · exact .pure

theorem has_reconcileIngressCR {fp : Footprint} (h : .ingress ∈ fp.objects)
    {resource : StackResource} {name : String} {rules : List IngressRule}
    {annotations : StringMap} {tls : List IngressTLS} :
    Has fp (reconcileIngressCR env resource name rules annotations tls) := by
  unfold reconcileIngressCR
  split
  · exact has_deleteChildIngress h
  · refine .bind has_controlled fun desired =>
      .bind has_getObject fun existing => ?_
    split
    · exact .bind (has_create h) fun _ => .pure
    · split
      · exact .bind (has_update h) fun _ => .pure
      · exact .pure

theorem has_ensureRedirectMiddleware {fp : Footprint} (h : .middleware ∈ fp.objects)
    {ns : String} :
    Has fp (ensureRedirectMiddleware env ns) := by
  refine .bind has_getObject fun existing => ?_
  split
  · exact .bind (has_create h) fun _ => .pure
  · split
    · exact .pure
    · exact .bind (has_update h) fun _ => .pure

theorem has_updateCertManagerTLSStatus {status : TLSState} :
    Has footprint (updateCertManagerTLSStatus env status) := by
  -- whichever branch is taken, only `certManagerTLS` is written
  have h : ∀ s : StackResourceStatus, ∃ t,
      (if status.stage = .none ∨ status.stage = .ready then { s with certManagerTLS := none }
      else
        match s.certManagerTLS.bind CertManagerTLSStatus.waitingSince with
        | some _ => s
        | none => { s with certManagerTLS := some { waitingSince := some env.clock.now } }) =
      { s with certManagerTLS := t } := by
    intro s
    split
    · exact ⟨none, rfl⟩
    · split
      · exact ⟨s.certManagerTLS, rfl⟩
      · exact ⟨_, rfl⟩
  refine has_modifyStatus (fun s t _ => ?_) (Or.inr fun s => ?_) (Or.inr fun s => ?_) (Or.inl rfl)
  all_goals
    obtain ⟨_, hs⟩ := h s
    rw [hs]

theorem has_resolveClusterIssuer {fp : Footprint} {annotations : StringMap} :
    Has fp (resolveClusterIssuer env annotations) := by
  unfold resolveClusterIssuer
  dsimp only
  split
  · exact .pure
  · refine .bind (has_getObject).attempt fun issuer => ?_
    split
    · exact .pure
    · exact .pure
    · exact .pure

theorem has_reconcileCertManagerIngress (resource : StackResource) (svc : Service)
    (routes : ExposedPortRoutes) :
    Has footprint (reconcileCertManagerIngress env resource svc routes) := by
  unfold reconcileCertManagerIngress
  dsimp only
  split
  · exact .bind has_updateCertManagerTLSStatus fun _ =>
      .bind (has_reconcileIngressCR (by decide)) fun _ => .pure
  · refine .bind has_resolveClusterIssuer fun issuer => ?_
    split
    · exact .bind has_updateCertManagerTLSStatus fun _ =>
        .bind (has_reconcileIngressCR (by decide)) fun _ => .pure
    · exact .bind (.bind has_getObject fun _ => .pure) fun _ =>
        .bind has_updateCertManagerTLSStatus fun _ =>
        .bind (has_reconcileIngressCR (by decide)) fun _ => .pure

theorem has_ensureReferencedTLSSecretReplica {fp : Footprint} (h : .secret ∈ fp.objects)
    {targetNamespace : String} {source : Secret} :
    Has fp (ensureReferencedTLSSecretReplica env targetNamespace source) := by
  refine .bind has_getObject fun existing => ?_
  split
  · exact .bind (has_create h) fun _ => .pure
  · split
    · refine .bind ?_ fun _ => .pure
      unfold deleteManagedWrongTypeReplica
      split
      · exact .pure
      · exact has_delete h
    · dsimp only
      split
      · exact .pure
      · exact .bind (has_update h) fun _ => .pure

theorem has_mirrorTLSSecret {fp : Footprint} (h : .secret ∈ fp.objects)
    {resource : StackResource} {tlsSecretRef sourceNamespace : String} :
    Has fp (mirrorTLSSecret env resource tlsSecretRef sourceNamespace) := by
  refine .bind has_getObject fun source => ?_
  split
  · exact .pure
  · split
    · exact .pure
    · refine .bind (has_ensureReferencedTLSSecretReplica h) fun ready => ?_
      split
      · exact .pure
      · exact .pure

theorem has_reconcileReferencedTLSSecret {fp : Footprint} (h : .secret ∈ fp.objects)
    (hRoutes : fp.routes = true) {resource : StackResource} {tlsSecretRef : String} :
    Has fp (reconcileReferencedTLSSecret env resource tlsSecretRef) := by
  unfold reconcileReferencedTLSSecret
  split
  · exact .bind (has_modifyStatus (a := .inl hRoutes)) fun _ => .pure
  · split
    · exact .pure
    · refine .bind (has_mirrorTLSSecret h) fun answer =>
        .bind ?_ fun _ => .pure
      intro w
      exact ⟨rfl, rfl, .refl _, fun _ => Or.inl, fun _ => rfl, fun _ _ => rfl, fun _ => rfl,
        fun _ => rfl, fun h => absurd (hRoutes.symm.trans h) nofun, fun k _ => .refl _ k, rfl⟩

theorem has_reconcileReferencedTLSIngress {resource : StackResource} {svc : Service}
    {routes : ExposedPortRoutes} :
    Has footprint (reconcileReferencedTLSIngress env resource svc routes) :=
  .bind (has_reconcileReferencedTLSSecret (by decide) rfl) fun _ =>
    .bind (has_reconcileIngressCR (by decide)) fun _ => .pure

theorem has_setTLSConfigured {fp : Footprint} (h : .tlsConfigured ∈ fp.conditions)
    {cert refs : TLSState} : Has fp (setTLSConfigured env cert refs) := by
  unfold setTLSConfigured
  split
  · exact has_setCondition h
  · split
    · exact has_setCondition h
    · split
      · exact has_setCondition h
      · exact .pure

theorem has_reconcileIngress {resource : StackResource} {svc : Service}
    {routes : ExposedPortRoutes} : Has footprint (reconcileIngress env resource svc routes) := by
  refine .bind (has_reconcileCertManagerIngress _ _ _) fun cert =>
    .bind has_reconcileReferencedTLSIngress fun refs =>
    .bind ?_ fun _ =>
    .bind (has_setTLSConfigured (by decide)) fun _ => .pure
  unfold ensureRedirect
  split
  · exact has_ensureRedirectMiddleware (by decide)
  · exact .pure

theorem has_cleanupIngress {resource : StackResource} :
    Has footprint (cleanupIngress env resource) := by
  refine .bind (has_deleteChildIngress (by decide)) fun _ =>
    .bind (has_deleteChildIngress (by decide)) fun _ =>
    has_modifyStatus (fun s t ht => ?_) (a := .inl rfl)
  have hTLS : ResourceCondition.domain .tlsConfigured ≠ t := (ht _ (by decide)).symm
  have hIngress : ResourceCondition.domain .ingressReady ≠ t := (ht _ (by decide)).symm
  exact (find_remove_other hIngress).trans (find_remove_other hTLS)

/-! ## Waiting for TLS -/

variable (env)

/-- A TLS path that still waits says so with one reason. -/
def Waits (s : TLSState) : Prop := s.stage = .waiting → s.reason = reasonTLSWaiting

theorem waits_classifyPending {issuingMsg : String} {pendingSince : Option Timestamp} {now : Int} :
    Waits (classifyPending issuingMsg pendingSince now) := by
  unfold classifyPending
  dsimp only
  split
  · exact fun h => nomatch h
  · exact fun _ => rfl

theorem waits_classifyCertificate {cert : Option Certificate} {pendingSince : Option Timestamp}
    {now : Int} : Waits (classifyCertificate cert pendingSince now) := by
  unfold classifyCertificate
  split
  · exact waits_classifyPending
  · dsimp only
    split
    · exact fun h => nomatch h
    · split
      · exact fun h => nomatch h
      · exact waits_classifyPending

theorem waits_referencedTLSStatusWhileBlocked {resource : StackResource}
    {tlsSecretRef message : String} :
    Waits (referencedTLSStatusWhileBlocked env resource tlsSecretRef message) := by
  unfold referencedTLSStatusWhileBlocked
  dsimp only
  split
  · exact fun h => nomatch h
  · exact fun _ => rfl

/-- The TLS state a step returns waits for the one reason. -/
def ReturnsWaits (m : Pass TLSState) : Prop :=
  Triple (fun _ => True) m (fun s _ => Waits s) fun _ => True

theorem waits_reconcileCertManagerIngress (resource : StackResource) (svc : Service)
    (routes : ExposedPortRoutes) :
    ReturnsWaits (reconcileCertManagerIngress env resource svc routes) := by
  unfold reconcileCertManagerIngress
  dsimp only
  split
  · exact .bind_any fun _ => .bind_any fun _ => .pure fun _ _ h => nomatch h
  · refine .bind_any fun issuer => ?_
    split
    · exact .bind_any fun _ => .bind_any fun _ => .pure fun _ _ h => nomatch h
    · refine .bind (R := fun status _ => Waits status) ?_ fun status => ?_
      · exact .bind_any fun cert => .pure fun _ _ => waits_classifyCertificate
      · exact .of_pre fun hWaits => .bind_any fun _ => .bind_any fun _ =>
          .pure fun _ _ => hWaits

theorem waits_reconcileReferencedTLSSecret (resource : StackResource) {tlsSecretRef : String} :
    ReturnsWaits (reconcileReferencedTLSSecret env resource tlsSecretRef) := by
  unfold reconcileReferencedTLSSecret
  split
  · exact .bind_any fun _ => .pure fun _ _ h => nomatch h
  · split
    · exact .pure fun _ _ h => nomatch h
    · refine .bind_any fun answer => .bind_any fun _ => .pure fun _ _ => ?_
      split
      · exact fun h => nomatch h
      · exact waits_referencedTLSStatusWhileBlocked env

theorem has_reportWaiting {s : TLSState} (h : Waits s) : Has footprint (reportWaiting s) := by
  unfold reportWaiting
  split
  · next hs =>
    refine has_reportNotReady ?_
    rw [h hs]
    decide
  · exact .pure

theorem waits_reconcileIngress {resource : StackResource} {svc : Service}
    {routes : ExposedPortRoutes} :
    Returns (fun _ => True) (reconcileIngress env resource svc routes)
      (fun states _ => Waits states.1 ∧ Waits states.2) := by
  refine .bind (waits_reconcileCertManagerIngress env resource svc routes) fun cert =>
    .of_pre fun hCert => ?_
  refine .bind (R := fun refs _ => Waits refs) ?_ fun refs => .of_pre fun hRefs => ?_
  · refine .bind (waits_reconcileReferencedTLSSecret env resource) fun status =>
      .of_pre fun hStatus => ?_
    exact .bind_any fun _ => .pure fun _ _ => hStatus
  · exact .bind_any fun _ => .bind_any fun _ => .pure fun _ _ => ⟨hCert, hRefs⟩

theorem has_publish {resource : StackResource} {svc : Service} {routes : ExposedPortRoutes} :
    Has footprint (publish env resource svc routes) := by
  refine .bind_of has_reconcileIngress (waits_reconcileIngress env)
    fun states hStates => ?_
  obtain ⟨hCert, hRefs⟩ := hStates
  refine .bind (has_modifyStatus (a := .inl rfl)) fun _ =>
    .bind has_setCondition fun _ =>
    .bind (has_reportWaiting hCert) fun _ =>
    .bind (has_reportWaiting hRefs) fun _ => ?_
  dsimp only
  split
  · exact .pure
  · exact .pure

theorem has_reconcileRoutes {resource : StackResource} {routes : ExposedPortRoutes} :
    Has footprint (reconcileRoutes env resource routes) := by
  refine .bind (has_ensureService (by decide) _) fun svc =>
    .bind (has_modifyStatus (a := .inl rfl)) fun _ => ?_
  split
  · exact .bind has_cleanupIngress fun _ =>
      .bind (has_modifyStatus (a := .inl rfl)) fun _ => .pure
  · exact has_publish env

theorem has_reconcile : Has footprint (reconcile env) := by
  refine .bind has_resource fun resource => ?_
  split
  case h_1 | h_2 | h_3 => exact .pure
  all_goals
    split
    · exact .throw
    · exact has_reconcileRoutes env

theorem goesOn_reconcileRoutes {resource : StackResource} {routes : ExposedPortRoutes} :
    Returns (fun _ => True) (reconcileRoutes env resource routes) (fun r _ => ¬ r.EndsChain) := by
  refine .bind_any fun svc => .bind_any fun _ => ?_
  split
  · exact .bind_any fun _ => .bind_any fun _ => .pure fun _ _ => id
  · refine .bind_any fun states => .bind_any fun _ => .bind_any fun _ =>
      .bind_any fun _ => .bind_any fun _ => ?_
    dsimp only
    split
    · exact .pure fun _ _ => id
    · exact .pure fun _ _ => id

/-- The step never ends the chain. -/
theorem goesOn_reconcile :
    Returns (fun _ => True) (reconcile env) (fun r _ => ¬ r.EndsChain) := by
  refine .bind_any fun resource => ?_
  split
  case h_1 | h_2 | h_3 => exact .pure fun _ _ => id
  all_goals
    split
    · exact .throw fun _ _ => trivial
    · exact goesOn_reconcileRoutes env

end

end ClusterAgent.Service
