import Mathlib.Data.List.Dedup
import ClusterAgent.StackResource.ServicePorts

/-!
# Cluster agent — public ports and their Ingresses

The public ports of a resource are split between two Ingresses: one for the ports whose
TLS comes from a referenced Secret, one for all the others, with and without TLS. The
address of a port is decided for the port, the redirect to HTTPS for the whole Ingress:
a port without TLS that shares the Ingress with one whose certificate is ready gets an
`http://` address behind the redirect. And an Ingress that is there under the name is
written whoever controls it, though it is deleted only if the resource does.

* `Collected` — the split of the ports;
* `reconcileIngressCR_spec` — what is stored under the name of an Ingress;
* `StagedIngress`, `Staged` — the two Ingresses and the stages of their TLS;
* `mem_buildExternalAddresses` — which addresses are published.

Main result: `wellRouted_iff`.
-/

namespace ClusterAgent.Service

open Pass Effect

/-! ## The split of the ports -/

def viaReference (p : Port) : Bool := (portReferencedTLSSecretRef p).isSome

def bucket (reference : Bool) (ports : List Port) : List Port :=
  ports.filter fun p => p.exposeToPublic && (viaReference p == reference)

def portRoute (p : Port) : Int × String := (p.number, p.fqdn)

structure Collected (acc routes : ExposedPortRoutes) (ports : List Port) : Prop where
  all : routes.allFQDNs = acc.allFQDNs ++ (ports.filter Port.exposeToPublic).map portRoute
  shared : routes.certManagerIngressFQDNs =
    acc.certManagerIngressFQDNs ++ (bucket false ports).map portRoute
  certHosts : routes.certManagerHosts =
    acc.certManagerHosts ++ ((bucket false ports).filter Port.tls).map Port.fqdn
  referenced : routes.referencedTLSFQDNs =
    acc.referencedTLSFQDNs ++ (bucket true ports).map portRoute
  refHosts : routes.referencedTLSHosts = acc.referencedTLSHosts ++ (bucket true ports).map Port.fqdn
  ref : routes.referencedTLSSecretRef = "" ↔ acc.referencedTLSSecretRef = "" ∧
    bucket true ports = []

theorem portMap_set_fresh {m : PortMap} {port : Int} (h : ∀ e ∈ m, e.1 ≠ port) (fqdn : String) :
    m.set port fqdn = m ++ [(port, fqdn)] := by
  unfold PortMap.set
  rw [List.filter_eq_self.mpr fun e he => decide_eq_true (h e he)]

theorem reference_ne_empty {p : Port} {ref : String} (h : portReferencedTLSSecretRef p = some ref) :
    ref ≠ "" := by
  unfold portReferencedTLSSecretRef at h
  split at h
  · next hValid =>
    cases h
    intro hEmpty
    rw [hEmpty] at hValid
    simp [isDNS1123Subdomain, splitDots, isDNS1123Label] at hValid
  · cases h

section

variable {acc routes : ExposedPortRoutes} {p : Port} {done ports : List Port}

theorem collected_addRoute (hDone : Collected {} acc done) (hNew : ∀ q ∈ done, q.number ≠ p.number)
    (h : addRoute acc p = .ok routes) : Collected {} routes (done ++ [p]) := by
  obtain ⟨hAll, hShared, hCertHosts, hReferenced, hRefHosts, hEmpty⟩ := hDone
  -- the maps are keyed by port number, and `p` has a new one
  have hSet : ∀ {m : PortMap} {f : Port → Bool}, m = [] ++ (done.filter f).map portRoute →
      ∀ fqdn, m.set p.number fqdn = (done.filter f).map portRoute ++ [(p.number, fqdn)] := by
    rintro m f rfl
    refine portMap_set_fresh fun e he => ?_
    obtain ⟨q, hq, rfl⟩ := List.mem_map.mp he
    exact hNew q (List.mem_filter.mp hq).1
  unfold addRoute at h
  -- a private port, one with a Secret reference, one left to cert-manager
  cases hExposed : p.exposeToPublic with
  | false =>
    rw [hExposed] at h
    cases h
    constructor <;> simp_all [bucket]
  | true =>
    rw [hExposed] at h
    dsimp only [Bool.not_true] at h
    rw [if_neg (by decide)] at h
    cases hRef : portReferencedTLSSecretRef p with
    | some ref =>
      have hVia : viaReference p = true := by rw [viaReference, hRef]; rfl
      rw [hRef] at h
      dsimp only at h
      -- a second reference beside another one is refused
      split at h
      · cases h
      · cases h
        constructor
        · simp [hSet hAll, hExposed, portRoute]
        · simp [hShared, bucket, hVia]
        · simp [hCertHosts, bucket, hVia]
        · simp [hSet hReferenced, bucket, hVia, hExposed, portRoute]
        · simp [hRefHosts, bucket, hVia, hExposed]
        · simp [bucket, hVia, hExposed, reference_ne_empty hRef]
    | none =>
      have hVia : viaReference p = false := by rw [viaReference, hRef]; rfl
      rw [hRef] at h
      cases h
      constructor
      · simp [hSet hAll, hExposed, portRoute]
      · simp [hSet hShared, bucket, hVia, hExposed, portRoute]
      · cases hTLS : p.tls <;> simp [hCertHosts, bucket, hVia, hExposed, hTLS]
      · simp [hReferenced, bucket, hVia]
      · simp [hRefHosts, bucket, hVia]
      · simp [hEmpty, bucket, hVia]

theorem collected_foldlM (hNumbers : ((done ++ ports).map Port.number).Nodup)
    (hDone : Collected {} acc done) (h : ports.foldlM addRoute acc = .ok routes) :
    Collected {} routes (done ++ ports) := by
  induction ports generalizing acc done with
  | nil =>
    cases h
    rwa [List.append_nil]
  | cons p rest ih =>
    rw [List.foldlM_cons] at h
    cases hAdd : addRoute acc p with
    | error e =>
      rw [hAdd] at h
      cases h
    | ok mid =>
      rw [hAdd] at h
      rw [List.append_cons] at hNumbers ⊢
      refine ih hNumbers (collected_addRoute hDone (fun q hq hSame => ?_) hAdd) h
      rw [List.append_assoc, List.map_append, List.nodup_append] at hNumbers
      exact hNumbers.2.2 _ (List.mem_map_of_mem hq) _ (by simp) hSame

/-- **The routes of a resource whose ports have different numbers.** -/
theorem collected_routes {resource : StackResource}
    (hNumbers : (resource.spec.ports.map Port.number).Nodup)
    (h : collectExposedPortRoutes resource = .ok routes) :
    Collected {} routes resource.spec.ports :=
  @collected_foldlM {} routes [] _ hNumbers ⟨rfl, rfl, rfl, rfl, rfl, by simp [bucket]⟩ h

end

/-! ## One Ingress -/

def ownIngress (resource : StackResource) (i : Ingress) : Bool :=
  isControlledBy i.metadata resource.metadata && i.metadata.deletionTimestamp.isNone

def resourceRef (resource : StackResource) : OwnerReference where
  kind := "StackResource"
  name := resource.metadata.name
  uid := resource.metadata.uid
  controller := true

def freeOrOwn (resource : StackResource) (c : Cluster) (name : String) : Bool :=
  (lookup .ingress c resource.metadata.ns name).all (ownIngress resource)

structure Applied (resource : StackResource) (name : String) (rules : List IngressRule)
    (annotations : StringMap) (tls : List IngressTLS) (c : Cluster) (i : Ingress) : Prop where
  rules : i.spec.rules = rules
  tls : i.spec.tls = tls
  annotations : ∀ key ∈ managedAnnotations,
    i.metadata.annotations.get key = annotations.get key
  own : ownIngress resource i = freeOrOwn resource c name

/-- What becomes of the Ingress of a name: without rules it is gone, unless it is somebody
else's; with rules it has the content. -/
structure IngressOutcome (resource : StackResource) (name : String) (rules : List IngressRule)
    (annotations : StringMap) (tls : List IngressTLS) (c c' : Cluster) : Prop where
  gone : rules = [] → ∀ i, lookup .ingress c' resource.metadata.ns name = some i →
    ownIngress resource i = false
  applied : rules ≠ [] → ∃ i, lookup .ingress c' resource.metadata.ns name = some i ∧
    Applied resource name rules annotations tls c i

def OthersKept (resource : StackResource) (name : String) (c c' : Cluster) : Prop :=
  ∀ other ≠ name, lookup .ingress c' resource.metadata.ns other =
    lookup .ingress c resource.metadata.ns other

theorem IngressOutcome.congr {resource : StackResource} {name : String} {rules : List IngressRule}
    {annotations : StringMap} {tls : List IngressTLS} {c c1 c' c2 : Cluster}
    (h : IngressOutcome resource name rules annotations tls c1 c')
    (hBefore : lookup .ingress c1 resource.metadata.ns name =
      lookup .ingress c resource.metadata.ns name)
    (hAfter : lookup .ingress c2 resource.metadata.ns name =
      lookup .ingress c' resource.metadata.ns name) :
    IngressOutcome resource name rules annotations tls c c2 := by
  refine ⟨?_, fun hRules => ?_⟩
  · rw [hAfter]
    exact h.gone
  · obtain ⟨i, hStored, hApplied⟩ := h.applied hRules
    have hFree : freeOrOwn resource c1 name = freeOrOwn resource c name := by
      unfold freeOrOwn
      rw [hBefore]
    exact ⟨i, hAfter.trans hStored, hApplied.rules, hApplied.tls, hApplied.annotations,
      hApplied.own.trans hFree⟩

theorem get?_managed (d : StringMap) (keys : List String) (m : StringMap) (k : String) :
    StringMap.get? (keys.foldl (fun m key =>
        if d.get key ≠ "" then m.set key (d.get key) else m.delete key) m) k =
      if k ∈ keys then if d.get k ≠ "" then some (d.get k) else none else m.get? k := by
  induction keys generalizing m with
  | nil => rfl
  | cons key rest ih =>
    rw [List.foldl_cons, ih]
    by_cases hRest : k ∈ rest
    · rw [if_pos hRest, if_pos (List.mem_cons_of_mem _ hRest)]
    · rw [if_neg hRest]
      by_cases hKey : k = key
      · subst hKey
        rw [if_pos (List.mem_cons_self : k ∈ k :: rest)]
        split
        · exact StringMap.get?_set_same _ _ _
        · exact StringMap.get?_delete_same _ _
      · rw [if_neg fun h => (List.mem_cons.mp h).elim hKey hRest]
        split
        · rw [StringMap.get?_set_other hKey]
        · rw [StringMap.get?_delete_other hKey]

theorem get_syncManagedAnnotations {annotations desired : StringMap} {key : String}
    (h : key ∈ managedAnnotations) :
    (syncManagedAnnotations annotations desired).get key = desired.get key := by
  unfold syncManagedAnnotations
  rw [StringMap.get, get?_managed, if_pos h]
  split
  · rfl
  · next hUnset => exact (not_ne_iff.mp hUnset).symm

theorem ingressNeedsUpdate_eq_false {desired existing : Ingress} :
    ingressNeedsUpdate desired existing = false ↔ desired.spec = existing.spec ∧
      ∀ key ∈ managedAnnotations,
        desired.metadata.annotations.get key = existing.metadata.annotations.get key := by
  simp [ingressNeedsUpdate]

section

variable (env : Env) {resource : StackResource} {name : String} {w : World}

theorem controlled_new {S T : Type} {o : Object S T}
    (hMeta : w.resource.metadata = resource.metadata)
    (hNs : o.metadata.ns = resource.metadata.ns) (hRefs : o.metadata.ownerReferences = []) :
    controlled o w = .ok { o with metadata.ownerReferences := [resourceRef resource] } w := by
  have hSet : setControllerReference w.resource.metadata "StackResource" o.metadata =
      some { o.metadata with ownerReferences := [resourceRef resource] } := by
    unfold setControllerReference getControllerOf resourceRef
    rw [hMeta, hRefs, ← hNs]
    simp [upsertOwnerRef]
  unfold controlled Pass.resource
  dsimp only [bind, EStateM.bind, get, getThe, MonadStateOf.get, EStateM.get, pure, EStateM.pure]
  rw [hSet]
  rfl

theorem deleteChildIngress_spec :
    Returns (· = w) (deleteChildIngress env resource name)
      (fun _ w' => (∀ i, lookup .ingress w'.cluster resource.metadata.ns name = some i →
          ownIngress resource i = false) ∧ OthersKept resource name w.cluster w'.cluster) := by
  refine bind_getObject (fun _ _ => trivial) fun w1 hReads => ?_
  have hCluster := cluster_of_reads hReads
  -- nothing to delete, an Ingress of the resource, somebody else's
  cases hFound : lookup .ingress w.cluster resource.metadata.ns name with
  | none =>
    refine .ret ?_
    rw [hCluster, hFound]
    exact ⟨nofun, fun _ _ => rfl⟩
  | some stale =>
    obtain ⟨hNs, hName⟩ := key_of_lookup hFound
    dsimp only
    split
    · refine (delete_revises env .ingress stale w1).conseq (fun _ w' hGet => ?_)
        fun _ _ => trivial
      rw [hCluster, hNs, hName] at hGet
      refine ⟨fun i hi => ?_, fun other hOther => ?_⟩
      · -- what is still there is marked
        have hMem : i ∈ Kind.ingress.get w'.cluster := List.mem_of_find?_eq_some hi
        rw [hGet] at hMem
        rcases Keyed.mem_revise hMem with ⟨x, -, -, hMarked⟩ | ⟨-, hKey⟩
        · unfold removedOrMarked at hMarked
          split at hMarked
          · cases hMarked
          · cases hMarked
            exact Bool.and_false _
        · rw [List.find?_some hi] at hKey
          cases hKey
      · exact lookup_revise_other (fun h => hOther h.2) hGet key_removedOrMarked
    · next hForeign =>
      refine .ret ?_
      rw [hCluster, hFound]
      refine ⟨fun i hi => ?_, fun _ _ => rfl⟩
      unfold ownIngress
      rw [← Option.some.inj hi, Bool.eq_false_iff.mpr hForeign, Bool.false_and]

theorem ownIngress_of_refs {i : Ingress} (hRefs :
    i.metadata.ownerReferences = [resourceRef resource])
    (hTime : i.metadata.deletionTimestamp = none) : ownIngress resource i = true := by
  unfold ownIngress isControlledBy getControllerOf
  rw [hRefs, hTime]
  exact Bool.and_eq_true_iff.mpr ⟨decide_eq_true rfl, rfl⟩

def sentIngress (resource : StackResource) (name : String) (rules : List IngressRule)
    (annotations : StringMap) (tls : List IngressTLS) : Ingress :=
  { buildDesiredIngress resource name rules annotations tls with
    metadata.ownerReferences := [resourceRef resource] }

/-- What is stored under the name of the desired Ingress passes the drift check; its owners are
those it had, or those of the desired one if it is new. -/
theorem applyIngress_spec (desired : Ingress) :
    Returns (· = w) (applyIngress env desired desired.metadata.annotations)
      (fun _ w' => (∃ i, lookup .ingress w'.cluster desired.metadata.ns desired.metadata.name =
          some i ∧ ingressNeedsUpdate desired i = false ∧ ∃ before, before =
            (lookup .ingress w.cluster desired.metadata.ns desired.metadata.name).getD desired ∧
            i.metadata.ownerReferences = before.metadata.ownerReferences ∧
            i.metadata.deletionTimestamp = before.metadata.deletionTimestamp) ∧
        ∀ other ≠ desired.metadata.name, lookup .ingress w'.cluster desired.metadata.ns other =
          lookup .ingress w.cluster desired.metadata.ns other) := by
  refine bind_getObject (fun _ _ => trivial) fun w1 hReads => ?_
  have hCluster := cluster_of_reads hReads
  -- a new Ingress is stored as it was sent; an existing one keeps its owner and its mark
  cases hFound : lookup .ingress w.cluster desired.metadata.ns desired.metadata.name with
  | none =>
    refine .bind (create_spec env .ingress desired w1).anyError fun stored => .pure fun w' h => ?_
    obtain ⟨hFree, hGet, hSame⟩ := h
    rw [← hCluster, ← hSame.ns, ← hSame.name]
    exact ⟨⟨stored, lookup_append hGet hFree, ingressNeedsUpdate_eq_false.mpr
        ⟨hSame.spec.symm, fun key _ => congrArg (StringMap.get · key) hSame.annotations.symm⟩,
        desired, rfl, hSame.ownerReferences, hSame.deletionTimestamp⟩,
      fun other hOther => lookup_append_other hGet fun h => hOther h.2⟩
  | some existing =>
    obtain ⟨hNs, hName⟩ := key_of_lookup hFound
    dsimp only
    split
    · refine .bind ((update_spec env .ingress _ w1).anyError) fun stored => .pure fun w' h => ?_
      obtain ⟨old, hOld, rfl, hGet⟩ := h
      dsimp only at hOld hGet
      rw [hCluster, hNs, hName] at hOld hGet
      obtain rfl : existing = old := Option.some.inj (hFound.symm.trans hOld)
      have hStored := (lookup_write hGet fun _ _ => hasKey_iff.mpr ⟨rfl, rfl⟩).trans
        (congrArg (Option.map _) hFound)
      exact ⟨⟨_, hStored, ingressNeedsUpdate_eq_false.mpr
          ⟨rfl, fun key hk => (get_syncManagedAnnotations hk).symm⟩, existing, rfl, rfl, rfl⟩,
        fun other hOther => lookup_write_other (fun h => hOther h.2) hGet fun _ _ =>
          hasKey_iff.mpr ⟨rfl, rfl⟩⟩
    -- an Ingress that needs no update is already the desired one
    · next hSettled =>
      refine .ret ?_
      rw [hCluster]
      exact ⟨⟨existing, hFound, Bool.eq_false_iff.mpr hSettled, existing, rfl, rfl, rfl⟩,
        fun _ _ => rfl⟩

/-- **The drift of an Ingress is corrected by one write.** With the desired spec copied and the
managed annotations synchronised it passes the drift check, it keeps its other annotations, and
to synchronise it again changes nothing; so after a successful pass over it every other one
leaves the cluster as it is. -/
theorem ingress_drift_settles (env env' : Env) (desired existing : Ingress) (w w' : World) :
    let synced := syncManagedAnnotations existing.metadata.annotations desired.metadata.annotations
    ingressNeedsUpdate desired
        { existing with spec := desired.spec, metadata.annotations := synced } = false ∧
      (∀ key ∉ managedAnnotations, synced.get? key = existing.metadata.annotations.get? key) ∧
      (∀ key, (syncManagedAnnotations synced desired.metadata.annotations).get? key =
        synced.get? key) ∧
      (applyIngress env desired desired.metadata.annotations w = .ok () w' →
        (finalState (applyIngress env' desired desired.metadata.annotations w')).cluster =
          w'.cluster) := by
  refine ⟨ingressNeedsUpdate_eq_false.mpr ⟨rfl, fun key hk => (get_syncManagedAnnotations hk).symm⟩,
    fun key hKey => ?_, fun key => ?_, fun hRun => ?_⟩
  · exact (get?_managed _ _ _ key).trans (if_neg hKey)
  · unfold syncManagedAnnotations
    rw [get?_managed, get?_managed]
    split <;> rfl
  -- after the first run the stored Ingress needs no update, so the second one only reads
  · obtain ⟨⟨i, hStored, hSettled, -⟩, -⟩ := (applyIngress_spec env desired).of_ok rfl hRun
    have hQuiet : Ensures (· = w') (applyIngress env' desired desired.metadata.annotations)
        (fun w2 => w2.cluster = w'.cluster) := by
      refine bind_getObject (fun _ hReads => cluster_of_reads hReads) fun w1 hReads => ?_
      rw [hStored]
      dsimp only
      rw [hSettled, if_neg Bool.false_ne_true]
      exact .ret (cluster_of_reads hReads)
    exact hQuiet.reached rfl

theorem reconcileIngressCR_spec (hMeta : w.resource.metadata = resource.metadata)
    {rules : List IngressRule} {annotations : StringMap} {tls : List IngressTLS} :
    Returns (· = w) (reconcileIngressCR env resource name rules annotations tls)
      (fun _ w' => IngressOutcome resource name rules annotations tls w.cluster w'.cluster ∧
        OthersKept resource name w.cluster w'.cluster) := by
  unfold reconcileIngressCR
  -- without rules the Ingress is removed, with rules it is applied
  split
  · next hLength =>
    have hNone : rules = [] := List.length_eq_zero_iff.mp hLength
    exact (deleteChildIngress_spec env).post fun _ _ h =>
      ⟨⟨fun _ => h.1, fun hSome => absurd hNone hSome⟩, h.2⟩
  · next hLength =>
    have hSome : rules ≠ [] := fun h => hLength (List.length_eq_zero_iff.mpr h)
    refine .after (controlled_new hMeta rfl rfl) ?_
    refine (applyIngress_spec env (sentIngress resource name rules annotations tls)).post
      fun _ _ h => ⟨⟨fun hNone => absurd hNone hSome, fun _ => ?_⟩, h.2⟩
    obtain ⟨⟨i, hStored, hSettled, before, hBefore, hRefs, hTime⟩, -⟩ := h
    obtain ⟨hSpec, hAnnotations⟩ := ingressNeedsUpdate_eq_false.mp hSettled
    refine ⟨i, hStored, congrArg IngressSpec.rules hSpec.symm,
      congrArg IngressSpec.tls hSpec.symm, fun key hk => (hAnnotations key hk).symm, ?_⟩
    have hBefore : before = (lookup .ingress w.cluster resource.metadata.ns name).getD
      (sentIngress resource name rules annotations tls) := hBefore
    unfold freeOrOwn
    -- a new Ingress belongs to the resource; an old one is as free as it was
    cases hFound : lookup .ingress w.cluster resource.metadata.ns name with
    | none =>
      rw [hFound] at hBefore
      exact ownIngress_of_refs (hRefs.trans (hBefore ▸ rfl)) (hTime.trans (hBefore ▸ rfl))
    | some existing =>
      obtain rfl : before = existing := by
        rw [hBefore, hFound]
        rfl
      unfold ownIngress isControlledBy getControllerOf
      rw [hRefs, hTime]
      rfl

end

/-- The Ingress goes with the stage of its TLS: once that is ready, it redirects and has a TLS
block for the hosts; before, it does not redirect. -/
def StagedIngress (resource : StackResource) (name : String) (rules : List IngressRule)
    (hosts : List String) (stage : TLSStage) (c c' : Cluster) : Prop :=
  ∃ annotations tls, IngressOutcome resource name rules annotations tls c c' ∧
    (annotations.get traefikMiddlewaresAnnotationKey ≠ "" ↔ stage = .ready) ∧
    (stage = .ready → ∀ host ∈ hosts, host ∈ tls.flatMap IngressTLS.hosts)

def ingressName (resource : StackResource) (reference : Bool) : String :=
  if reference then referencedTLSIngressNameForResource resource.name
  else httpProxyNameForResource resource.name

def ingressRoutes (routes : ExposedPortRoutes) (reference : Bool) : PortMap :=
  if reference then routes.referencedTLSFQDNs else routes.certManagerIngressFQDNs

def ingressHosts (routes : ExposedPortRoutes) (reference : Bool) : List String :=
  if reference then routes.referencedTLSHosts else routes.certManagerHosts

/-- One of the two Ingresses goes with the stage of its TLS: it has the rules of its ports,
redirects exactly if the stage is ready, and then names the hosts in its TLS block. -/
def Staged (resource : StackResource) (serviceName : String) (routes : ExposedPortRoutes)
    (reference : Bool) (stage : TLSStage) (c c' : Cluster) : Prop :=
  StagedIngress resource (ingressName resource reference)
    (buildIngressRules (ingressRoutes routes reference) serviceName)
    (ingressHosts routes reference) stage c c'

theorem middleware_ne_empty (ns : String) :
    ns ++ "-" ++ redirectMiddlewareName ++ "@kubernetescrd" ≠ "" := by
  intro h
  have hLength := congrArg String.length h
  rw [String.length_append] at hLength
  have hSuffix : "@kubernetescrd".length = 14 := rfl
  have hEmpty : "".length = 0 := rfl
  omega

theorem mem_uniqueHosts {host : String} {hosts : List String} (h : host ∈ hosts) {secret : String} :
    host ∈ [({ hosts := hosts.reverse.dedup.reverse, secretName := secret } : IngressTLS)].flatMap
      IngressTLS.hosts := by
  simp only [List.flatMap_cons, List.flatMap_nil, List.append_nil, List.mem_reverse, List.mem_dedup]
  exact h

/-! ## The Ingress shared by plain ports and issued certificates -/

def issuerFound (resource : StackResource) (c : Cluster) : Bool :=
  let issuerName := resource.metadata.annotations.get clusterIssuerAnnotationKey
  decide (issuerName ≠ "") && (lookup .clusterIssuer c "" issuerName).isSome

def certReady (cert : Option Certificate) : Bool :=
  cert.any fun cert => (findCertCondition cert .ready).any fun c =>
    decide (c.status = .conditionTrue)

def storedCertificate (resource : StackResource) (c : Cluster) : Option Certificate :=
  lookup .certificate c resource.metadata.ns (certificateNameForResource resource.name)

/-- Some port needs a certificate, the issuer is found and the certificate is issued. -/
def Certified (env : Env) (resource : StackResource) (routes : ExposedPortRoutes) (w : World) :
    Prop :=
  routes.certManagerHosts ≠ [] ∧
    (issuerFound resource w.cluster = true ∧ env.fault w.calls = none) ∧
    certReady (storedCertificate resource w.cluster) = true

theorem stage_classifyPending_ne {issuingMsg : String} {pendingSince : Option Timestamp}
    {now : Int} : (classifyPending issuingMsg pendingSince now).stage ≠ .ready := by
  unfold classifyPending
  dsimp only
  split
  · nofun
  · nofun

theorem stage_classifyCertificate {cert : Option Certificate} {pendingSince : Option Timestamp}
    {now : Int} :
    (classifyCertificate cert pendingSince now).stage = .ready ↔ certReady cert = true := by
  unfold classifyCertificate certReady
  cases cert with
  | none => exact iff_of_false stage_classifyPending_ne (by simp)
  | some cert =>
    dsimp only [Option.any_some]
    split
    · next hReady => exact iff_of_true rfl hReady
    · next hNot =>
      refine iff_of_false ?_ hNot
      split
      · nofun
      · exact stage_classifyPending_ne

section

variable {env : Env} {resource : StackResource} {w : World}

/-- The issuer is resolved if it exists and the lookup does not fail; there is an answer in any
case. -/
theorem resolveClusterIssuer_spec :
    Achieves (· = w) (resolveClusterIssuer env resource.metadata.annotations)
      (fun r w' => Reads w w' ∧
        (∀ name, r = .ok name → name ≠ "" ∧ issuerFound resource w.cluster = true ∧
          env.fault w.calls = none) ∧
        ∀ e, r = .error e → ¬ (issuerFound resource w.cluster = true ∧
          env.fault w.calls = none)) := by
  rintro w rfl
  unfold resolveClusterIssuer issuerFound
  dsimp only
  -- no annotation, a failed lookup, no such issuer
  by_cases hName : resource.metadata.annotations.get clusterIssuerAnnotationKey = ""
  · rw [if_pos hName]
    exact ⟨⟨_, rfl⟩, nofun, fun _ _ h => by simp [hName] at h⟩
  · rw [if_neg hName]
    cases hFault : env.fault w.calls with
    | some e =>
      rw [bind_of_ok (attempt_of_error (getObject_eq_error hFault .clusterIssuer "" _))]
      exact ⟨⟨_, rfl⟩, nofun, fun _ _ h => nomatch h.2⟩
    | none =>
      rw [bind_of_ok (attempt_of_ok (getObject_eq_ok hFault .clusterIssuer "" _))]
      cases hFound : lookup .clusterIssuer w.cluster ""
          (resource.metadata.annotations.get clusterIssuerAnnotationKey) with
      | none => exact ⟨⟨_, rfl⟩, nofun, fun _ _ h => by simp at h⟩
      | some issuer =>
        refine ⟨⟨_, rfl⟩, fun name hEq => ?_, nofun⟩
        cases hEq
        exact ⟨hName, by simp [hName], rfl⟩

theorem updateCertManagerTLSStatus_spec (status : TLSState) :
    Achieves (· = w) (updateCertManagerTLSStatus env status)
      (fun _ w' => w'.cluster = w.cluster ∧ w'.resource.metadata = w.resource.metadata) := by
  rintro w rfl
  exact ⟨rfl, rfl⟩

theorem reconcileCertManagerIngress_spec (hMeta : w.resource.metadata = resource.metadata)
    (svc : Service) (routes : ExposedPortRoutes) :
    Returns (· = w) (reconcileCertManagerIngress env resource svc routes)
      (fun cert w' => (cert.stage = .ready ↔ Certified env resource routes w) ∧
        Staged resource svc.name routes false cert.stage w.cluster w'.cluster ∧
        OthersKept resource (ingressName resource false) w.cluster w'.cluster) := by
  unfold reconcileCertManagerIngress
  dsimp only
  -- without TLS for any port, or without an issuer
  have hPlain : ∀ {w1 : World} (cert : TLSState), w1.cluster = w.cluster →
      w1.resource.metadata = resource.metadata → cert.stage ≠ .ready →
      Returns (· = w1) (do
          updateCertManagerTLSStatus env {}
          reconcileIngressCR env resource (httpProxyNameForResource resource.name)
            (buildIngressRules routes.certManagerIngressFQDNs svc.name) [] []
          return cert)
        (fun cert' w' => cert' = cert ∧
          Staged resource svc.name routes false cert.stage w.cluster w'.cluster ∧
          OthersKept resource (ingressName resource false) w.cluster w'.cluster) := by
    intro w1 cert hCluster hMeta1 hStage
    refine .bind ((updateCertManagerTLSStatus_spec {}).onError fun _ h => h.elim) fun _ =>
      .of_each fun w2 ⟨hCluster2, hMeta2⟩ => ?_
    refine .bind (reconcileIngressCR_spec env (hMeta2.trans hMeta1)) fun _ =>
      .pure fun w' hResult => ?_
    rw [hCluster2, hCluster] at hResult
    exact ⟨rfl, ⟨[], [], hResult.1, iff_of_false (fun h => h rfl) hStage,
      fun h => absurd h hStage⟩, hResult.2⟩
  split
  · next hLength =>
    have hNone : routes.certManagerHosts = [] := List.length_eq_zero_iff.mp hLength
    refine (hPlain {} rfl hMeta nofun).post fun cert w' h => ?_
    obtain ⟨rfl, hStaged⟩ := h
    exact ⟨iff_of_false nofun fun h => h.1 hNone, hStaged⟩
  · next hLength =>
    have hSome : routes.certManagerHosts ≠ [] := fun h => hLength (List.length_eq_zero_iff.mpr h)
    refine .bind resolveClusterIssuer_spec.anyError fun issuer =>
      .of_each fun w1 ⟨hReads, hFound, hNot⟩ => ?_
    have hCluster := cluster_of_reads hReads
    have hMeta1 : w1.resource.metadata = resource.metadata := by
      obtain ⟨calls, rfl⟩ := hReads
      exact hMeta
    cases issuer with
    | error e =>
      obtain ⟨reason, message⟩ := e
      refine (hPlain { stage := .unavailable, reason := reason, message := message } hCluster
        hMeta1 nofun).post fun cert w' h => ?_
      obtain ⟨rfl, hStaged⟩ := h
      exact ⟨iff_of_false nofun fun h => hNot _ rfl h.2.1, hStaged⟩
    | ok issuerName =>
      obtain ⟨hName, hIssuer⟩ := hFound issuerName rfl
      have hState : Returns (· = w1) (getCertManagerTLSState env resource)
          (fun cert w2 => (cert.stage = .ready ↔
            certReady (storedCertificate resource w.cluster) = true) ∧ w2.cluster = w.cluster ∧
              w2.resource.metadata = resource.metadata) := by
        refine bind_getObject (fun _ _ => trivial) fun w2 hReads2 => ?_
        refine .ret ?_
        rw [hCluster]
        obtain ⟨calls, rfl⟩ := hReads2
        exact ⟨stage_classifyCertificate, hCluster, hMeta1⟩
      refine .bind hState fun cert => .of_each fun w2 ⟨hStage, hCluster2, hMeta2⟩ => ?_
      refine .bind ((updateCertManagerTLSStatus_spec cert).onError fun _ h => h.elim) fun _ =>
        .of_each fun w3 ⟨hCluster3, hMeta3⟩ => ?_
      have hConfig : buildTLSConfig issuerName routes.certManagerHosts resource.metadata.ns
          (certificateNameForResource resource.name) = (_, _) :=
        if_neg fun h => h.elim hName hLength
      rw [hConfig]
      dsimp only
      refine .bind (reconcileIngressCR_spec env (hMeta3.trans hMeta2)) fun _ =>
        .pure fun w' hResult => ?_
      rw [hCluster3, hCluster2] at hResult
      refine ⟨?_, ⟨_, _, hResult.1, ?_, fun _ host hHost => mem_uniqueHosts hHost⟩, hResult.2⟩
      · rw [hStage]
        exact ⟨fun h => ⟨hSome, hIssuer, h⟩, fun h => h.2.2⟩
      · by_cases hReady : cert.stage = .ready
        · rw [if_neg (not_ne_iff.mpr hReady)]
          exact iff_of_true (middleware_ne_empty resource.metadata.ns) hReady
        · rw [if_pos hReady]
          refine iff_of_false (fun h => h ?_) hReady
          rw [StringMap.get, StringMap.get?_delete_same]
          rfl

end

/-! ## The Ingress for referenced Secrets -/

section

variable {env : Env} {resource : StackResource} {w : World}

theorem reconcileReferencedTLSSecret_ready (ref : String) :
    Returns (· = w) (reconcileReferencedTLSSecret env resource ref)
      (fun refs _ => refs.stage = .ready → ref ≠ "") := by
  by_cases hRef : ref = ""
  · unfold reconcileReferencedTLSSecret
    rw [if_pos hRef]
    exact .bind_any fun _ => .pure fun _ _ => nofun
  · exact .any fun _ _ _ => hRef

theorem reconcileReferencedTLSIngress_spec (hMeta : w.resource.metadata = resource.metadata)
    (svc : Service) (routes : ExposedPortRoutes) :
    Returns (· = w) (reconcileReferencedTLSIngress env resource svc routes)
      (fun refs w' =>
        Staged resource svc.name routes true refs.stage w.cluster w'.cluster ∧
        OthersKept resource (ingressName resource true) w.cluster w'.cluster) := by
  have hHas : Has { routes := true, objects := [.secret] }
      (reconcileReferencedTLSSecret env resource routes.referencedTLSSecretRef) :=
    has_reconcileReferencedTLSSecret List.mem_cons_self rfl
  refine Triple.bind (((Within.leads hHas w).and (reconcileReferencedTLSSecret_ready
    routes.referencedTLSSecretRef)).anyError)
    fun refs => Triple.of_each fun w1 ⟨hTouches, hRef⟩ => ?_
  -- replicating the Secret touches no Ingress
  have hSame : ∀ name, lookup .ingress w1.cluster resource.metadata.ns name =
      lookup .ingress w.cluster resource.metadata.ns name :=
    fun name => lookup_same .ingress (hTouches.objects _ (by decide))
  refine Triple.bind (reconcileIngressCR_spec env (hTouches.metadata.trans hMeta)) fun _ =>
    Triple.pure fun w' hResult => ?_
  obtain ⟨hOutcome, hOthers⟩ := hResult
  refine ⟨⟨_, _, hOutcome.congr (hSame _) rfl, ?_, fun hReady host hHost => ?_⟩,
    fun other hOther => (hOthers other hOther).trans (hSame other)⟩
  -- the redirect is asked for exactly when the Secret is ready
  · split
    · next hReady => exact iff_of_true (middleware_ne_empty resource.metadata.ns) hReady
    · next hNot => exact iff_of_false (fun h => h rfl) hNot
  · rw [buildReferencedTLSConfig, if_neg fun h => h.elim (hRef hReady) fun h => h hReady]
    exact mem_uniqueHosts hHost

theorem ingressNames_ne (resource : StackResource) :
    ingressName resource true ≠ ingressName resource false := by
  unfold ingressName referencedTLSIngressNameForResource httpProxyNameForResource
  rw [if_pos rfl, if_neg Bool.false_ne_true, Ne, String.append_right_inj]
  decide

theorem concludePaths_spec (cert refs : TLSState) :
    Returns (· = w) (do
        ensureRedirect env resource.metadata.ns cert refs
        setTLSConfigured env cert refs
        return (cert, refs))
      (fun r w' => Touches { objects := [.middleware], conditions := [.tlsConfigured] } w w' ∧
        r = (cert, refs)) := by
  have hRedirect : Has { objects := [.middleware], conditions := [.tlsConfigured] }
      (ensureRedirect env resource.metadata.ns cert refs) := by
    unfold ensureRedirect
    split
    · exact has_ensureRedirectMiddleware List.mem_cons_self
    · exact .pure
  refine .bind ((Within.leads hRedirect w).anyError) fun _ => ?_
  exact .bind (((has_setTLSConfigured List.mem_cons_self).continues w).anyError) fun _ =>
    .pure fun _ h => ⟨h, rfl⟩

/-- **Both Ingresses after the step**, each with the stage of its TLS. -/
theorem reconcileIngress_spec (hMeta : w.resource.metadata = resource.metadata) (svc : Service)
    (routes : ExposedPortRoutes) :
    Returns (· = w) (reconcileIngress env resource svc routes)
      (fun r w' => (r.1.stage = .ready ↔ Certified env resource routes w) ∧ ∀ reference,
        Staged resource svc.name routes reference (if reference then r.2.stage else r.1.stage)
          w.cluster w'.cluster) := by
  refine Triple.bind (((Within.leads (has_reconcileCertManagerIngress resource svc routes) w).and
    (reconcileCertManagerIngress_spec hMeta svc routes)).anyError) fun cert =>
      Triple.of_each fun w1 ⟨hTouches1, hStage, hCert, hOthers1⟩ => ?_
  refine Triple.bind (reconcileReferencedTLSIngress_spec (hTouches1.metadata.trans hMeta) svc
    routes) fun refs => Triple.of_each fun w2 ⟨hRefs, hOthers2⟩ => ?_
  refine (concludePaths_spec cert refs).conseq (fun r w' h => ?_)
    fun _ h => h
  obtain ⟨hTouches, rfl⟩ := h
  have hSame : ∀ name, lookup .ingress w'.cluster resource.metadata.ns name =
      lookup .ingress w2.cluster resource.metadata.ns name :=
    fun name => lookup_same .ingress (hTouches.objects _ (by decide))
  -- the two Ingresses have different names, so neither step undoes the other
  have hNames := ingressNames_ne resource
  refine ⟨hStage, fun reference => ?_⟩
  -- the first Ingress is kept by the second step, the second one by the first
  cases reference with
  | false =>
    obtain ⟨annotations, tls, hOutcome, hRest⟩ := hCert
    exact ⟨annotations, tls, hOutcome.congr rfl ((hSame _).trans (hOthers2 _ hNames.symm)), hRest⟩
  | true =>
    obtain ⟨annotations, tls, hOutcome, hRest⟩ := hRefs
    exact ⟨annotations, tls, hOutcome.congr (hOthers1 _ hNames) (hSame _), hRest⟩

end

/-! ## Published addresses -/

def httpsAddress (p : Port) : ExternalAddress :=
  { targetPort := p.number, address := "https://" ++ p.fqdn }

def httpAddress (p : Port) : ExternalAddress :=
  { targetPort := p.number, address := "http://" ++ p.fqdn }

def stageOf (cert refs : TLSStage) (p : Port) : TLSStage := if viaReference p then refs else cert

section

variable (env : Env) {resource : StackResource} {cert refs : TLSStage} {p : Port}

/-- A public port of a resource whose ports have different numbers. -/
structure PublicPort (resource : StackResource) (p : Port) : Prop where
  numbers : (resource.spec.ports.map Port.number).Nodup
  mem : p ∈ resource.spec.ports
  exposed : p.exposeToPublic = true

theorem eq_of_number {ports : List Port} (hNumbers : (ports.map Port.number).Nodup) {q : Port}
    (hp : p ∈ ports) (hq : q ∈ ports) (h : q.number = p.number) : q = p :=
  List.inj_on_of_nodup_map hNumbers hq hp h

theorem getPort_number (hNumbers : (resource.spec.ports.map Port.number).Nodup)
    (hp : p ∈ resource.spec.ports) : resource.getPort p.number = some p := by
  unfold StackResource.getPort
  cases hFound : resource.spec.ports.find? fun q => decide (q.number = p.number) with
  | none =>
    have hNot := List.find?_eq_none.mp hFound p hp
    simp at hNot
  | some q =>
    have hNumber : q.number = p.number := by simpa using List.find?_some hFound
    rw [eq_of_number hNumbers hp (List.mem_of_find?_eq_some hFound) hNumber]

theorem lookup_portRoute {ports : List Port} (hNumbers : (ports.map Port.number).Nodup)
    (hp : p ∈ ports) (hExposed : p.exposeToPublic = true) :
    ((ports.filter Port.exposeToPublic).map portRoute).lookup p.number = some p.fqdn := by
  obtain ⟨before, after, hSplit⟩ := List.append_of_mem (List.mem_filter.mpr ⟨hp, hExposed⟩)
  have hNodup := hNumbers.sublist
    ((List.filter_sublist (p := Port.exposeToPublic)).map Port.number)
  rw [hSplit, List.map_append, List.map_cons] at hNodup ⊢
  refine List.lookup_eq_some_iff.mpr ⟨_, _, rfl, fun e he => ?_⟩
  obtain ⟨q, hq, rfl⟩ := List.mem_map.mp he
  have hNe := (List.nodup_append.mp hNodup).2.2 _ (List.mem_map_of_mem hq) _ List.mem_cons_self
  exact bne_iff_ne.mpr hNe.symm

theorem mem_buildExternalAddresses {routes : PortMap} {address : ExternalAddress}
    (hPort : PublicPort resource p)
    (hRoutes : routes = (resource.spec.ports.filter Port.exposeToPublic).map portRoute)
    (hTarget : address.targetPort = p.number) :
    address ∈ buildExternalAddresses env resource routes cert refs ↔
      buildExternalAddress resource cert refs p.number p.fqdn = some address := by
  have hLookup : routes.lookup p.number = some p.fqdn :=
    hRoutes ▸ lookup_portRoute hPort.numbers hPort.mem hPort.exposed
  unfold buildExternalAddresses
  rw [List.mem_filterMap]
  -- the map of routes is walked in any order: only membership counts
  constructor
  · rintro ⟨port, -, hBuilt⟩
    rw [Option.bind_eq_some_iff] at hBuilt
    obtain ⟨fqdn, hFound, hBuilt⟩ := hBuilt
    have hBuiltFor : address.targetPort = port := by
      unfold buildExternalAddress at hBuilt
      repeat' split at hBuilt
      all_goals cases hBuilt
      all_goals rfl
    rw [← hBuiltFor, hTarget] at hFound hBuilt
    rw [hLookup] at hFound
    rw [Option.some.inj hFound]
    exact hBuilt
  · intro hBuilt
    refine ⟨p.number, (env.mapOrder_perm _).mem_iff.mpr ?_, ?_⟩
    · rw [hRoutes, List.map_map]
      exact List.mem_map.mpr ⟨p, List.mem_filter.mpr ⟨hPort.mem, hPort.exposed⟩, rfl⟩
    · rw [hLookup]
      exact hBuilt

/-- **When an `https://` address is published**, and when an `http://` one. -/
theorem buildExternalAddress_eq (hPort : PublicPort resource p) :
    buildExternalAddress resource cert refs p.number p.fqdn =
      if p.tls = false then some (httpAddress p)
      else match stageOf cert refs p with
        | .ready => some (httpsAddress p)
        | .unavailable => some (httpAddress p)
        | .none | .waiting => none := by
  unfold buildExternalAddress
  rw [getPort_number hPort.numbers hPort.mem]
  dsimp only
  rw [hPort.exposed]
  cases hTLS : p.tls with
  | false => rfl
  | true => rfl

theorem httpAddress_ne (p : Port) : httpsAddress p ≠ httpAddress p := by
  intro h
  have hText : "https://" ++ p.fqdn = "http://" ++ p.fqdn := congrArg ExternalAddress.address h
  rw [String.append_left_inj] at hText
  exact absurd hText (by decide)

theorem https_published (hPort : PublicPort resource p)
    (h : buildExternalAddress resource cert refs p.number p.fqdn = some (httpsAddress p)) :
    p.tls = true ∧ stageOf cert refs p = .ready := by
  rw [buildExternalAddress_eq hPort] at h
  split at h
  · exact absurd (Option.some.inj h).symm (httpAddress_ne p)
  · next hTLS =>
    refine ⟨by simpa using hTLS, ?_⟩
    split at h
    · assumption
    · exact absurd (Option.some.inj h).symm (httpAddress_ne p)
    · cases h
    · cases h

theorem http_published_iff (hPort : PublicPort resource p) :
    buildExternalAddress resource cert refs p.number p.fqdn = some (httpAddress p) ↔
      p.tls = false ∨ stageOf cert refs p = .unavailable := by
  rw [buildExternalAddress_eq hPort]
  split
  · next hTLS => exact iff_of_true rfl (Or.inl hTLS)
  · next hTLS =>
    split
    · next hStage =>
      refine iff_of_false (fun h => httpAddress_ne p (Option.some.inj h)) ?_
      rw [hStage]
      exact fun h => h.elim hTLS nofun
    · next hStage => exact iff_of_true rfl (Or.inr hStage)
    · next hStage =>
      rw [hStage]
      exact iff_of_false nofun fun h => h.elim hTLS nofun
    · next hStage =>
      rw [hStage]
      exact iff_of_false nofun fun h => h.elim hTLS nofun

end

/-! ## Who routes a port -/

def ingressNames (resource : StackResource) : List String :=
  [httpProxyNameForResource resource.name, referencedTLSIngressNameForResource resource.name]

def ingressOf (resource : StackResource) (p : Port) : String :=
  if viaReference p then referencedTLSIngressNameForResource resource.name
  else httpProxyNameForResource resource.name

def routesTo (resource : StackResource) (p : Port) (i : Ingress) : Bool :=
  i.spec.rules.any fun rule => decide (rule.host = p.fqdn) &&
    (decide (rule.serviceName = resource.name) && decide (rule.servicePort = p.number))

def servingUnder (resource : StackResource) (p : Port) (c : Cluster) (name : String) :
    Option Ingress :=
  (lookup .ingress c resource.metadata.ns name).filter fun i =>
    ownIngress resource i && routesTo resource p i

def routedBy (resource : StackResource) (p : Port) (c : Cluster) : List Ingress :=
  (ingressNames resource).filterMap (servingUnder resource p c)

def tlsHosts (i : Ingress) : List String := i.spec.tls.flatMap IngressTLS.hosts

def redirects (i : Ingress) : Bool :=
  decide (i.metadata.annotations.get traefikMiddlewaresAnnotationKey ≠ "")

/-- One Ingress routes the port, and it fits the published address: it has a TLS block for an
`https://` one, and no redirect for an `http://` one. -/
def WellRouted (resource : StackResource) (w : World) (p : Port) : Prop :=
  ∃ i, routedBy resource p w.cluster = [i] ∧
    (httpsAddress p ∈ w.resource.status.externalAddress → p.fqdn ∈ tlsHosts i) ∧
    (httpAddress p ∈ w.resource.status.externalAddress → redirects i = false)

section

variable {resource : StackResource} {p : Port} {c c' : Cluster}

theorem mem_bucket {reference : Bool} {ports : List Port} :
    p ∈ bucket reference ports ↔
      p ∈ ports ∧ p.exposeToPublic = true ∧ viaReference p = reference := by
  unfold bucket
  rw [List.mem_filter, Bool.and_eq_true, beq_iff_eq]

theorem routesTo_bucket {reference : Bool} {i : Ingress} (hPort : PublicPort resource p)
    (hRules : i.spec.rules = buildIngressRules
      ((bucket reference resource.spec.ports).map portRoute) resource.name) :
    routesTo resource p i = (viaReference p == reference) := by
  unfold routesTo
  rw [hRules, Bool.eq_iff_iff, List.any_eq_true, beq_iff_eq]
  unfold buildIngressRules
  constructor
  · rintro ⟨rule, hRule, hMatch⟩
    obtain ⟨e, he, rfl⟩ := List.mem_map.mp hRule
    rw [List.mem_insertionSort] at he
    obtain ⟨q, hq, rfl⟩ := List.mem_map.mp he
    obtain ⟨hMem, -, hVia⟩ := mem_bucket.mp hq
    simp only [portRoute, Bool.and_eq_true, decide_eq_true_eq] at hMatch
    rw [← eq_of_number hPort.numbers hPort.mem hMem (of_decide_eq_true hMatch.2.2)]
    exact hVia
  · intro hVia
    refine ⟨{ host := p.fqdn, path := "/", pathType := "Prefix", serviceName := resource.name
              servicePort := p.number }, List.mem_map.mpr ⟨portRoute p, ?_, rfl⟩, by simp⟩
    rw [List.mem_insertionSort]
    exact List.mem_map_of_mem (mem_bucket.mpr ⟨hPort.mem, hPort.exposed, hVia⟩)

theorem buildIngressRules_eq_nil {m : PortMap} {serviceName : String} :
    buildIngressRules m serviceName = [] ↔ m = [] := by
  unfold buildIngressRules
  rw [List.map_eq_nil_iff, ← List.length_eq_zero_iff, List.length_insertionSort,
    List.length_eq_zero_iff]

theorem tls_of_viaReference (h : viaReference p = true) : p.tls = true := by
  unfold viaReference portReferencedTLSSecretRef at h
  split at h
  · next hRef => exact (Bool.and_eq_true_iff.mp hRef).1
  · cases h

section

variable {routes : ExposedPortRoutes} {reference : Bool} {stage : TLSStage}
  (hPort : PublicPort resource p) (hCollected : Collected {} routes resource.spec.ports)

include hCollected

theorem ingressRoutes_eq :
    ingressRoutes routes reference = (bucket reference resource.spec.ports).map portRoute := by
  cases reference with
  | false => exact hCollected.shared
  | true => exact hCollected.referenced

include hPort

theorem mem_ingressHosts (hTLS : p.tls = true) :
    p.fqdn ∈ ingressHosts routes (viaReference p) := by
  unfold ingressHosts
  cases hVia : viaReference p with
  | false =>
    rw [if_neg Bool.false_ne_true, hCollected.certHosts]
    exact List.mem_map_of_mem (List.mem_filter.mpr
      ⟨mem_bucket.mpr ⟨hPort.mem, hPort.exposed, hVia⟩, hTLS⟩)
  | true =>
    rw [if_pos rfl, hCollected.refHosts]
    exact List.mem_map_of_mem (mem_bucket.mpr ⟨hPort.mem, hPort.exposed, hVia⟩)

variable (hStaged : Staged resource resource.name routes reference stage c c')

include hStaged

theorem servingUnder_own (hVia : viaReference p = reference) :
    ∃ i, servingUnder resource p c' (ingressName resource reference) =
        (if freeOrOwn resource c (ingressName resource reference) then some i else none) ∧
      (redirects i = true ↔ stage = .ready) ∧
      (stage = .ready → ∀ host ∈ ingressHosts routes reference, host ∈ tlsHosts i) := by
  obtain ⟨annotations, tls, hOutcome, hRedirect, hHosts⟩ := hStaged
  rw [ingressRoutes_eq hCollected] at hOutcome
  have hRules : buildIngressRules ((bucket reference resource.spec.ports).map portRoute)
      resource.name ≠ [] := by
    rw [Ne, buildIngressRules_eq_nil, List.map_eq_nil_iff]
    exact List.ne_nil_of_mem (mem_bucket.mpr ⟨hPort.mem, hPort.exposed, hVia⟩)
  obtain ⟨i, hStored, hApplied⟩ := hOutcome.applied hRules
  refine ⟨i, ?_, ?_, ?_⟩
  · have hRoutes := routesTo_bucket hPort hApplied.rules
    unfold servingUnder
    rw [hStored, Option.filter_some, hApplied.own, hRoutes, hVia, beq_self_eq_true, Bool.and_true]
  · unfold redirects
    rw [decide_eq_true_iff, hApplied.annotations _ (by decide), hRedirect]
  · unfold tlsHosts
    rw [hApplied.tls]
    exact hHosts

theorem servingUnder_other (hVia : viaReference p ≠ reference) :
    servingUnder resource p c' (ingressName resource reference) = none := by
  obtain ⟨annotations, tls, hOutcome, -, -⟩ := hStaged
  rw [ingressRoutes_eq hCollected] at hOutcome
  unfold servingUnder
  cases hStored : lookup .ingress c' resource.metadata.ns (ingressName resource reference) with
  | none => rfl
  | some i =>
    rw [Option.filter_some, if_neg]
    intro hServes
    obtain ⟨hOwn, hRoutes⟩ := Bool.and_eq_true_iff.mp hServes
    by_cases hRules : buildIngressRules ((bucket reference resource.spec.ports).map portRoute)
        resource.name = []
    · rw [hOutcome.gone hRules i hStored] at hOwn
      cases hOwn
    · obtain ⟨j, hFound, hApplied⟩ := hOutcome.applied hRules
      obtain rfl : i = j := Option.some.inj (hStored.symm.trans hFound)
      rw [routesTo_bucket hPort hApplied.rules, beq_iff_eq] at hRoutes
      exact hVia hRoutes

end

/-- A port is well routed if its Ingress is free to be the resource's and does not redirect an
`http://` address. -/
theorem wellRouted_iff_of_routed {env : Env} {w : World} {routes : PortMap} {cert refs : TLSStage}
    {i : Ingress} {free : Bool} (hPort : PublicPort resource p)
    (hRoutes : routes = (resource.spec.ports.filter Port.exposeToPublic).map portRoute)
    (hAddresses : w.resource.status.externalAddress =
      buildExternalAddresses env resource routes cert refs)
    (hRouted : routedBy resource p w.cluster = if free then [i] else [])
    (hRedirect : redirects i = true ↔ stageOf cert refs p = .ready)
    (hHosts : stageOf cert refs p = .ready → p.tls = true → p.fqdn ∈ tlsHosts i) :
    WellRouted resource w p ↔ free = true ∧ ¬ (p.tls = false ∧ stageOf cert refs p = .ready) := by
  have hHttp : httpAddress p ∈ w.resource.status.externalAddress ↔
      p.tls = false ∨ stageOf cert refs p = .unavailable := by
    rw [hAddresses, mem_buildExternalAddresses env hPort hRoutes rfl]
    exact http_published_iff hPort
  constructor
  -- a plain port behind a redirecting Ingress is published and not served
  · rintro ⟨j, hOnly, -, hPlain⟩
    rw [hRouted] at hOnly
    cases free with
    | false => cases hOnly
    | true =>
      cases hOnly
      refine ⟨rfl, fun ⟨hTLS, hReady⟩ => ?_⟩
      have hNot := hPlain (hHttp.mpr (Or.inl hTLS))
      rw [hRedirect.mpr hReady] at hNot
      cases hNot
  · rintro ⟨rfl, hNot⟩
    refine ⟨i, hRouted, fun hPublished => ?_, fun hPublished => ?_⟩
    · rw [hAddresses, mem_buildExternalAddresses env hPort hRoutes rfl] at hPublished
      obtain ⟨hTLS, hReady⟩ := https_published hPort hPublished
      exact hHosts hReady hTLS
    -- plain http is published for a port without TLS, or while the path is unavailable
    · rw [Bool.eq_false_iff, Ne, hRedirect]
      intro hReady
      rcases hHttp.mp hPublished with hTLS | hUnavailable
      · exact hNot ⟨hTLS, hReady⟩
      · rw [hReady] at hUnavailable
        cases hUnavailable

end

/-! ## The step -/

def certClock (w : World) : Option Timestamp := certManagerTLSPendingSince w.resource

def tracking (w : World) : Option ReferencedTLSSecretStatus :=
  w.resource.status.referencedTLSSecret

def announce (env : Env) (resource : StackResource) (routes : ExposedPortRoutes)
    (states : TLSState × TLSState) : Pass SubReconcilerResult := do
  let addresses := buildExternalAddresses env resource routes.allFQDNs states.1.stage states.2.stage
  modifyStatus fun s => { s with externalAddress := addresses }
  setCondition env .ingressReady true "IngressConfigured"
    "ingress routes configured for public ports"
  reportWaiting states.1
  reportWaiting states.2
  let retryAfter := earliestRetry [states.1, states.2]
  if 0 < retryAfter then return .deferredRequeue retryAfter else return .nil

/-- The API call that looks for the issuer: the Service was read before and, unless it passed
for equal, written. -/
def issuerCall (resource : StackResource) (w : World) : Nat :=
  if (lookup .service w.cluster resource.metadata.ns resource.name).any
      (areServicesEqual (buildDesiredService resource)) then w.calls + 1
  else w.calls + 2

/-- The certificate of the shared Ingress is ready: a port needs one, the issuer is found and
the certificate is issued. -/
def sharedReady (env : Env) (resource : StackResource) (w : World) : Bool :=
  (resource.spec.ports.any fun p => p.exposeToPublic && (p.tls && !viaReference p)) &&
    (issuerFound resource w.cluster && (env.fault (issuerCall resource w)).isNone) &&
      certReady (storedCertificate resource w.cluster)

section

variable (env : Env) {resource : StackResource} {w : World} {routes : ExposedPortRoutes}

section

variable {S T α : Type} {kind : Kind S T}

theorem bind_getObject_counted {ns name : String} {f : Option (Object S T) → Pass α}
    {Q : α → World → Prop}
    (h : Returns (· = { w with calls := w.calls + 1 }) (f (lookup kind w.cluster ns name)) Q) :
    Returns (· = w) (getObject env kind ns name >>= f) Q := by
  cases hFault : env.fault w.calls with
  | some e =>
    rintro w rfl
    rw [bind_of_error (getObject_eq_error hFault kind ns name)]
    trivial
  | none => exact .after (getObject_eq_ok hFault kind ns name) h

theorem create_calls {o : Object S T} :
    Returns (· = w) (create env kind o) (fun _ w' => w'.calls = w.calls + 1) := by
  refine .bind ((call_spec w).anyError)
    fun _ => ?_
  rintro _ rfl
  rw [get_bind]
  cases lookup kind w.cluster o.metadata.ns o.metadata.name with
  | some _ => trivial
  | none => rfl

theorem update_calls [DecidableEq S] {o : Object S T} :
    Returns (· = w) (update env kind o) (fun _ w' => w'.calls = w.calls + 1) := by
  refine .bind ((call_spec w).anyError)
    fun _ => ?_
  rintro _ rfl
  rw [get_bind]
  cases lookup kind w.cluster o.metadata.ns o.metadata.name with
  | none => trivial
  | some _ => rfl

end

variable {env}

theorem ensureService_calls (hMeta : w.resource.metadata = resource.metadata) :
    Returns (· = w) (ensureService env resource)
      (fun _ w' => w'.calls = issuerCall resource w) := by
  refine .after (controlled_new hMeta rfl rfl) (bind_getObject_counted env ?_)
  unfold issuerCall
  have hKey : lookup .service w.cluster (buildDesiredService resource).metadata.ns
      (buildDesiredService resource).metadata.name =
      lookup .service w.cluster resource.metadata.ns resource.name := rfl
  dsimp only
  rw [hKey]
  cases lookup .service w.cluster resource.metadata.ns resource.name with
  | none => exact create_calls env
  | some existing =>
    have hSame : areServicesEqual { buildDesiredService resource with
        metadata.ownerReferences := [resourceRef resource] } existing =
        areServicesEqual (buildDesiredService resource) existing := rfl
    dsimp only [Option.any_some]
    rw [hSame]
    split
    · exact .pure fun _ h => by rw [h]
    · exact update_calls env

theorem ensureService_frame :
    Returns (· = w) (ensureService env resource)
      (fun _ w' => w'.resource.metadata = w.resource.metadata ∧
        w'.cluster.ingresses = w.cluster.ingresses ∧
        w'.cluster.clusterIssuers = w.cluster.clusterIssuers ∧
        w'.cluster.certificates = w.cluster.certificates) := by
  have hHas : Has { objects := [.service] } (ensureService env resource) :=
    has_ensureService List.mem_cons_self resource
  exact (Within.leads hHas w).conseq
    (fun _ _ h => ⟨h.metadata, h.objects .ingress (by decide), h.objects .clusterIssuer (by decide),
      h.objects .certificate (by decide)⟩) fun _ _ => trivial

theorem announce_spec (states : TLSState × TLSState) :
    Returns (· = w) (announce env resource routes states)
      (fun _ w' => w'.cluster = w.cluster ∧ certClock w' = certClock w ∧ tracking w' = tracking w ∧
        w'.resource.status.externalAddress = buildExternalAddresses env resource routes.allFQDNs
          states.1.stage states.2.stage) := by
  let Announced (w' : World) : Prop :=
    w'.cluster = w.cluster ∧ certClock w' = certClock w ∧ tracking w' = tracking w ∧
    w'.resource.status.externalAddress = buildExternalAddresses env resource routes.allFQDNs
      states.1.stage states.2.stage
  have hWaiting : ∀ s, Returns Announced (reportWaiting s) (fun _ => Announced) := by
    intro s
    unfold reportWaiting
    split
    · exact .modify fun _ h => h
    · exact .skip
  refine .bind (R := fun _ => Announced) (.modify fun _ h => h ▸ ⟨rfl, rfl, rfl, rfl⟩)
    fun _ => .bind (R := fun _ => Announced) (.modify fun _ h => h) fun _ =>
    .bind (hWaiting states.1) fun _ => .bind (hWaiting states.2) fun _ => ?_
  dsimp only
  split
  · exact .skip
  · exact .skip

theorem publish_spec (hMeta : w.resource.metadata = resource.metadata) (svc : Service) :
    Returns (· = w) (publish env resource svc routes)
      (fun _ w' => ∃ cert refs : TLSStage, (cert = .ready ↔ Certified env resource routes w) ∧
        (∀ reference, Staged resource svc.name routes reference
          (if reference then refs else cert) w.cluster w'.cluster) ∧
        w'.resource.status.externalAddress =
          buildExternalAddresses env resource routes.allFQDNs cert refs) := by
  refine .bind (reconcileIngress_spec hMeta svc routes) fun states =>
    .of_each fun w1 ⟨hStage, hStaged⟩ => ?_
  refine (announce_spec states).post fun _ w' ⟨hCluster, _, _, hAddresses⟩ => ?_
  exact ⟨states.1.stage, states.2.stage, hStage, hCluster ▸ hStaged, hAddresses⟩

theorem routedBy_eq {p : Port} {c : Cluster} {free : Bool} {i : Ingress}
    (hOwn : servingUnder resource p c (ingressName resource (viaReference p)) =
      if free then some i else none)
    (hOther : servingUnder resource p c (ingressName resource !viaReference p) = none) :
    routedBy resource p c = if free then [i] else [] := by
  have hNames : ingressNames resource = [ingressName resource false, ingressName resource true] :=
    rfl
  unfold routedBy
  rw [hNames]
  cases hVia : viaReference p with
  | false =>
    rw [hVia] at hOwn hOther
    cases free <;> simp_all
  | true =>
    rw [hVia] at hOwn hOther
    cases free <;> simp_all

theorem certHosts_ne_nil (hCollected : Collected {} routes resource.spec.ports) :
    routes.certManagerHosts ≠ [] ↔
      (resource.spec.ports.any fun p => p.exposeToPublic && (p.tls && !viaReference p)) = true := by
  have hHosts : routes.certManagerHosts =
      ((bucket false resource.spec.ports).filter Port.tls).map Port.fqdn := hCollected.certHosts
  rw [hHosts, Ne, List.map_eq_nil_iff, List.any_eq_true, List.filter_eq_nil_iff]
  constructor
  · intro hSome
    by_contra hNone
    refine hSome fun p hp hTLS => hNone ⟨p, (mem_bucket.mp hp).1, ?_⟩
    simp [(mem_bucket.mp hp).2, hTLS]
  · rintro ⟨p, hp, hPort⟩ hNone
    simp only [Bool.and_eq_true, Bool.not_eq_true'] at hPort
    exact hNone p (mem_bucket.mpr ⟨hp, hPort.1, hPort.2.2⟩) hPort.2.1

/-- **Which ports are well routed after the step.** -/
theorem reconcileRoutes_spec (hMeta : w.resource.metadata = resource.metadata)
    (hNumbers : (resource.spec.ports.map Port.number).Nodup)
    (hRoutes : collectExposedPortRoutes resource = .ok routes) :
    Returns (· = w) (reconcileRoutes env resource routes)
      (fun _ w' => ∀ p ∈ resource.spec.ports, p.exposeToPublic = true →
        (WellRouted resource w' p ↔
          freeOrOwn resource w.cluster (ingressOf resource p) = true ∧
            ¬ (p.tls = false ∧ sharedReady env resource w = true))) := by
  have hCollected := collected_routes hNumbers hRoutes
  refine .bind ((((ensureService_spec resource w).and (ensureService_calls hMeta)).and
    ensureService_frame).anyError) fun svc =>
      .of_each fun w1 ⟨⟨⟨hStored, _⟩, hCalls⟩, hMeta1, hIngresses, hIssuers, hCerts⟩ => ?_
  obtain ⟨-, hName⟩ := key_of_lookup hStored
  have hName : svc.name = resource.name := hName
  -- the status update in between leaves the cluster
  let w2 : World := { w1 with resource := { w1.resource with
    status := { w1.resource.status with internalAddress := some svc.name } } }
  refine .bind (R := fun _ => (· = w2)) (.modify fun _ h => h ▸ rfl) fun _ => ?_
  split
  · next hNone =>
    refine .mono (P := fun _ => True) (Q := fun _ _ => True) (E := fun _ => True)
      (.any fun _ _ => trivial) (fun _ _ => trivial) (fun _ w' _ p hp hExposed => ?_)
      fun _ _ => trivial
    have hSome : resource.spec.hasExposedPort = true := List.any_eq_true.mpr ⟨p, hp, hExposed⟩
    rw [hSome] at hNone
    cases hNone
  · refine (publish_spec (w := w2) (hMeta1.trans hMeta) svc).post fun _ w' h p hp hExposed => ?_
    obtain ⟨cert, refs, hReady, hStaged, hAddresses⟩ := h
    have hPort : PublicPort resource p := ⟨hNumbers, hp, hExposed⟩
    have hFree : ∀ name,
        freeOrOwn resource w2.cluster name = freeOrOwn resource w.cluster name := by
      intro name
      unfold freeOrOwn
      rw [lookup_congr (c := w.cluster) hIngresses]
    have hShared : cert = .ready ↔ sharedReady env resource w = true := by
      have hIssuer : issuerFound resource w2.cluster = issuerFound resource w.cluster := by
        unfold issuerFound
        dsimp only
        rw [lookup_same (c := w.cluster) .clusterIssuer hIssuers]
      have hCertificate : storedCertificate resource w2.cluster =
        storedCertificate resource w.cluster := lookup_congr hCerts
      have hFault : w2.calls = issuerCall resource w := hCalls
      unfold sharedReady
      rw [hReady, Certified, certHosts_ne_nil hCollected, hIssuer, hCertificate, hFault,
        Bool.and_eq_true,
        Bool.and_eq_true, Bool.and_eq_true, Option.isNone_iff_eq_none]
      exact and_assoc.symm
    rw [hName] at hStaged
    obtain ⟨i, hServing, hRedirect, hHosts⟩ :=
      servingUnder_own hPort hCollected (hStaged (viaReference p)) rfl
    have hOther := servingUnder_other hPort hCollected (hStaged !viaReference p)
      (Bool.eq_not_self _).mp
    rw [hFree] at hServing
    have hIff := wellRouted_iff_of_routed hPort hCollected.all hAddresses
      (routedBy_eq hServing hOther) hRedirect fun hReady hTLS =>
        hHosts hReady _ (mem_ingressHosts hPort hCollected hTLS)
    refine hIff.trans (and_congr_right fun _ => not_congr (and_congr_right fun hPlain => ?_))
    -- a port without TLS is on the shared path
    have hVia : viaReference p = false := by
      cases hVia : viaReference p with
      | false => rfl
      | true => exact absurd (tls_of_viaReference hVia) (hPlain ▸ Bool.false_ne_true)
    rw [stageOf, hVia]
    exact hShared

end

def servesTraffic : WorkloadType → Bool
  | .worker | .job | .cronJob => false
  | .unset | .service | .statefulService | .unknown _ => true

theorem reconcile_run (env : Env) (w : World) :
    reconcile env w =
      if servesTraffic w.resource.spec.workloadType then
        match collectExposedPortRoutes w.resource with
        | .error e => .error e w
        | .ok routes => reconcileRoutes env w.resource routes w
      else .ok .nil w := by
  unfold reconcile
  rw [bind_of_ok (rfl : Pass.resource w = .ok w.resource w)]
  cases w.resource.spec.workloadType <;> cases collectExposedPortRoutes w.resource <;> rfl

/-- A public port without TLS shares its Ingress with one whose certificate is ready. -/
def redirectsPlain (env : Env) (w : World) : Bool :=
  (w.resource.spec.ports.any fun p => p.exposeToPublic && !p.tls) && sharedReady env w.resource w

/-- **When every public port is well routed.** After the Service step each public port is
routed by one Ingress of the resource that fits its published address, if and only if the
Ingresses of the public ports were free or the resource's own, and no public port without
TLS shares one whose certificate is ready. -/
theorem wellRouted_iff (env : Env) (w w' : World) (result : SubReconcilerResult)
    (hRun : reconcile env w = .ok result w')
    (hServes : w.resource.spec.workloadType ∉ [.worker, .job, .cronJob])
    (hNumbers : (w.resource.spec.ports.map Port.number).Nodup) :
    (∀ p ∈ w.resource.spec.ports, p.exposeToPublic = true → WellRouted w.resource w' p) ↔
      (∀ p ∈ w.resource.spec.ports, p.exposeToPublic = true →
        freeOrOwn w.resource w.cluster (ingressOf w.resource p) = true) ∧
      redirectsPlain env w = false := by
  have hTraffic : servesTraffic w.resource.spec.workloadType = true := by
    cases hType : w.resource.spec.workloadType <;> simp [hType, servesTraffic] at hServes ⊢
  -- a run that succeeds has collected its routes
  obtain ⟨routes, hCollect, hStep⟩ : ∃ routes, collectExposedPortRoutes w.resource = .ok routes ∧
      reconcileRoutes env w.resource routes w = .ok result w' := by
    rw [reconcile_run, if_pos hTraffic] at hRun
    cases hCollect : collectExposedPortRoutes w.resource with
    | error e =>
      rw [hCollect] at hRun
      cases hRun
    | ok routes =>
      rw [hCollect] at hRun
      exact ⟨routes, rfl, hRun⟩
  have hPorts := (reconcileRoutes_spec rfl hNumbers hCollect).of_ok rfl hStep
  have hPlain : redirectsPlain env w = true ↔ (∃ p ∈ w.resource.spec.ports,
      p.exposeToPublic = true ∧ p.tls = false) ∧ sharedReady env w.resource w = true := by
    unfold redirectsPlain
    simp only [Bool.and_eq_true, List.any_eq_true, Bool.not_eq_true']
  -- one Ingress serves all the ports of a path, so one plain port spoils it
  constructor
  · intro hAll
    refine ⟨fun p hp hExposed => ((hPorts p hp hExposed).mp (hAll p hp hExposed)).1, ?_⟩
    rw [Bool.eq_false_iff, Ne, hPlain]
    rintro ⟨⟨p, hp, hExposed, hTLS⟩, hReady⟩
    exact ((hPorts p hp hExposed).mp (hAll p hp hExposed)).2 ⟨hTLS, hReady⟩
  · rintro ⟨hFree, hNot⟩ p hp hExposed
    refine (hPorts p hp hExposed).mpr ⟨hFree p hp hExposed, fun ⟨hTLS, hReady⟩ => ?_⟩
    rw [hPlain.mpr ⟨⟨p, hp, hExposed, hTLS⟩, hReady⟩] at hNot
    cases hNot

/-! ## Two ports on one Ingress -/

def plainPort : Port :=
  { name := "http", number := 80, exposeToPublic := true, fqdn := "plain.example" }

def securePort : Port :=
  { name := "app", number := 8080, exposeToPublic := true, fqdn := "secure.example", tls := true }

def publicWorld (ports : List Port) (ingresses : List Ingress) : World where
  cluster :=
    { clusterIssuers := [{ metadata := { name := "issuer" }, spec := (), status := () }]
      certificates :=
        [{ metadata := { name := "web-tls", ns := "apps" }
           spec := ()
           status :=
             { conditions := [{ type := .ready, status := .conditionTrue, message := "" }] } }]
      ingresses := ingresses }
  resource :=
    { metadata :=
        { name := "web", ns := "apps", uid := "r1"
          annotations := [(clusterIssuerAnnotationKey, "issuer")] }
      spec := { ports := ports } }

def published (w : World) : World := finalState (reconcile ObjectPass.quietEnv w)

def foreignIngress : Ingress where
  metadata := { name := "web-http-proxy", ns := "apps", uid := "i1" }
  spec := {}
  status := ()

/-- The `http://` address of a port without TLS leads to a redirect, because the port shares the
Ingress with one that has a certificate; and an Ingress that was there before is written but
not taken over. -/
theorem ports_not_wellRouted :
    ((value (reconcile ObjectPass.quietEnv (publicWorld [plainPort, securePort] []))).isSome ∧
      ¬ WellRouted (publicWorld [plainPort, securePort] []).resource
        (published (publicWorld [plainPort, securePort] [])) plainPort) ∧
    (value (reconcile ObjectPass.quietEnv (publicWorld [plainPort] [foreignIngress]))).isSome ∧
      ¬ WellRouted (publicWorld [plainPort] [foreignIngress]).resource
        (published (publicWorld [plainPort] [foreignIngress])) plainPort := by
  refine ⟨⟨by decide +kernel, ?_⟩, by decide +kernel, ?_⟩
  · have hRedirects : ∀ i ∈ routedBy (publicWorld [plainPort, securePort] []).resource plainPort
        (published (publicWorld [plainPort, securePort] [])).cluster, redirects i = true := by
      decide +kernel
    rintro ⟨i, hRouted, -, hPlain⟩
    have hNot := hPlain (by decide +kernel)
    rw [hRedirects i (hRouted ▸ List.mem_cons_self)] at hNot
    cases hNot
  · have hNone : routedBy (publicWorld [plainPort] [foreignIngress]).resource plainPort
        (published (publicWorld [plainPort] [foreignIngress])).cluster = [] := by
      decide +kernel
    rintro ⟨i, hRouted, -⟩
    rw [hNone] at hRouted
    cases hRouted

def consolePort : Port :=
  { name := "console", number := 8443, exposeToPublic := true, fqdn := "console.example"
    tls := true }

theorem wellRouted_iff_secure :
    let w := publicWorld [securePort, consolePort] []
    WellRouted w.resource (published w) securePort ∧
      WellRouted w.resource (published w) consolePort := by
  intro w
  have hReturns : (value (reconcile ObjectPass.quietEnv w)).isSome := by decide +kernel
  obtain ⟨result, hValue⟩ := Option.isSome_iff_exists.mp hReturns
  have hRouted := (wellRouted_iff ObjectPass.quietEnv w _ result (eq_ok_of_value hValue)
    (by decide +kernel) (by decide +kernel)).mpr ⟨by decide +kernel, by decide +kernel⟩
  exact ⟨hRouted securePort List.mem_cons_self rfl,
    hRouted consolePort (List.mem_cons_of_mem _ List.mem_cons_self) rfl⟩

end ClusterAgent.Service
