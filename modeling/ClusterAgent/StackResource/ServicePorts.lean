import ClusterAgent.Controller.Lookup
import ClusterAgent.Controller.ObjectPass
import ClusterAgent.StackResource.Service

/-!
# Cluster agent — the ports of the Service

The Service step updates an existing Service only if the desired one is not a derivative
of it, and a list of ports is a derivative of every list that starts like it. A port that
is removed from the end of the declared list therefore stays in the Service.

* `derivativePorts_eq_iff` — when a derivative has the same ports;
* `ensureService_spec` — the Service is kept as it is, or has the declared ports.

Main result: `serves_declared_ports_iff`.
-/

namespace ClusterAgent.Service

open Pass Effect

/-- What a port of a Service is for: its name, its number and its target. -/
def portEntry (p : ServicePort) : String × Int × String := (p.name, p.port, p.targetPort)

def declaredPorts (resource : StackResource) : List (String × Int × String) :=
  resource.spec.ports.map fun p => (p.name, p.number, p.name)

/-- The desired port leaves a field unset that the existing one has. -/
def hidesDifference (desired existing : ServicePort) : Bool :=
  (decide (desired.name = "") && decide (existing.name ≠ "")) ||
    (decide (desired.port = 0) && decide (existing.port ≠ 0)) ||
      (decide (desired.targetPort = "") && decide (existing.targetPort ≠ ""))

/-- `AreServicesEqual` holds of an existing Service that has more ports, or a field more. -/
def passesForEqual (resource : StackResource) (prior : Service) : Bool :=
  areServicesEqual (buildDesiredService resource) prior &&
    (decide (resource.spec.ports.length < prior.spec.ports.length) ||
      ((buildServicePorts resource).zip prior.spec.ports).any fun e => hidesDifference e.1 e.2)

theorem declaredPorts_eq (resource : StackResource) :
    (buildServicePorts resource).map portEntry = declaredPorts resource := by
  unfold buildServicePorts declaredPorts
  rw [List.map_map]
  rfl

theorem derivativeText_eq_iff {desired existing : String}
    (h : derivativeText desired existing = true) :
    existing = desired ↔ ¬ (desired = "" ∧ existing ≠ "") := by
  unfold derivativeText at h
  rw [Bool.or_eq_true, decide_eq_true_iff, decide_eq_true_iff] at h
  rcases h with rfl | rfl
  · simp
  · simp

theorem portEntry_eq_iff {d e : ServicePort} (hName : derivativeText d.name e.name = true)
    (hPort : d.port = 0 ∨ d.port = e.port)
    (hTarget : derivativeText d.targetPort e.targetPort = true) :
    portEntry e = portEntry d ↔ hidesDifference d e = false := by
  have hNumber : e.port = d.port ↔ ¬ (d.port = 0 ∧ e.port ≠ 0) := by omega
  unfold portEntry hidesDifference
  rw [Prod.mk.injEq, Prod.mk.injEq, derivativeText_eq_iff hName, derivativeText_eq_iff hTarget,
    hNumber]
  simp only [Bool.or_eq_false_iff, ← Bool.decide_and, decide_eq_false_iff_not, and_assoc]

/-- **When a derivative list has the same ports**: if it has as many, and no unset field hides
a difference. -/
theorem derivativePorts_eq_iff {ds es : List ServicePort} (h : derivativePorts ds es = true) :
    es.map portEntry = ds.map portEntry ↔
      ¬ ds.length < es.length ∧ (ds.zip es).any (fun e => hidesDifference e.1 e.2) = false := by
  induction ds generalizing es with
  | nil =>
    cases es with
    | nil => simp
    | cons e es => simp
  | cons d ds ih =>
    cases es with
    | nil => cases h
    | cons e es =>
      unfold derivativePorts at h
      simp only [Bool.and_eq_true, Bool.or_eq_true, decide_eq_true_eq] at h
      obtain ⟨⟨⟨hName, hPort⟩, hTarget⟩, hRest⟩ := h
      rw [List.map_cons, List.map_cons, List.cons.injEq, ih hRest,
        portEntry_eq_iff hName hPort hTarget, List.zip_cons_cons, List.any_cons,
        Bool.or_eq_false_iff, List.length_cons, List.length_cons, Nat.add_lt_add_iff_right]
      tauto

theorem areServicesEqual_congr {desired desired' : Service} (h : desired'.spec = desired.spec)
    (existing : Service) : areServicesEqual desired' existing = areServicesEqual desired
      existing := by
  unfold areServicesEqual
  rw [h]

/-! ## The step -/

/-- What `ensureService` returns is what is stored: the Service that was there and passed for
equal, or one with the declared ports where none passed. -/
theorem ensureService_spec {env : Env} (resource : StackResource) (w : World) :
    Returns (· = w) (ensureService env resource)
      (fun svc w' =>
        lookup .service w'.cluster resource.metadata.ns resource.name = some svc ∧
          ((lookup .service w.cluster resource.metadata.ns resource.name = some svc ∧
              areServicesEqual (buildDesiredService resource) svc = true) ∨
            (∀ prior, lookup .service w.cluster resource.metadata.ns resource.name = some prior →
              areServicesEqual (buildDesiredService resource) prior = false) ∧
              svc.spec.ports = buildServicePorts resource)) := by
  refine .bind ((controlled_spec (buildDesiredService resource) w).mono
    (fun _ h => h ▸ refl_of Reads w) (fun _ _ h => h) fun _ _ => trivial) fun desired =>
      .of_each fun w1 ⟨hSame, hReads1⟩ => ?_
  have hNs : desired.metadata.ns = resource.metadata.ns := hSame.ns
  have hName : desired.metadata.name = resource.name := hSame.name
  have hPorts : desired.spec.ports = buildServicePorts resource :=
    congrArg ServiceSpec.ports hSame.spec
  rw [← cluster_of_reads hReads1, ← hNs, ← hName]
  refine bind_getObject (fun _ _ => trivial) fun w2 hReads2 => ?_
  have hCluster := cluster_of_reads hReads2
  -- a new Service has the ports of the spec
  cases hFound : lookup .service w1.cluster desired.metadata.ns desired.metadata.name with
  | none =>
    refine (create_spec env .service desired w2).conseq (fun svc w' h => ?_)
      fun _ _ => trivial
    obtain ⟨hFree, hGet, hContent⟩ := h
    rw [← hContent.ns, ← hContent.name]
    exact ⟨lookup_append hGet hFree, Or.inr ⟨nofun, (congrArg _ hContent.spec).trans hPorts⟩⟩
  | some existing =>
    dsimp only
    rw [areServicesEqual_congr hSame.spec]
    -- one that passes for equal is left as it is, any other is replaced
    split
    · next hEqual =>
      refine .pure fun w' h => ⟨?_, Or.inl ⟨rfl, hEqual⟩⟩
      rw [h, hCluster]
      exact hFound
    · next hDiffers =>
      refine (update_spec env .service desired w2).conseq (fun svc w' h => ?_)
        fun _ _ => trivial
      obtain ⟨old, hOld, rfl, hGet⟩ := h
      refine ⟨?_, Or.inr ⟨fun prior hPrior => ?_, hPorts⟩⟩
      · rw [lookup_write hGet fun _ _ => hasKey_self (updated old desired), hOld]
        rfl
      · rw [← Option.some.inj hPrior]
        exact Bool.eq_false_iff.mpr hDiffers

/-- **Which Services are kept with ports that are not declared.** After `ensureService` the
stored Service has exactly the declared ports, unless there was one before that passed for
equal although it has more ports, or a field where the declared port has none. -/
theorem serves_declared_ports_iff (env : Env) (resource : StackResource) (w w' : World)
    (svc : Service) (hRun : ensureService env resource w = .ok svc w') :
    (lookup .service w'.cluster resource.metadata.ns resource.name).map
        (fun stored => stored.spec.ports.map portEntry) = some (declaredPorts resource) ↔
      ∀ prior ∈ lookup .service w.cluster resource.metadata.ns resource.name,
        passesForEqual resource prior = false := by
  obtain ⟨hStored, hOutcome⟩ := (ensureService_spec resource w).of_ok rfl hRun
  rw [hStored, Option.map_some, Option.some.injEq]
  rcases hOutcome with ⟨hPrior, hEqual⟩ | ⟨hDiffer, hPorts⟩
  · have hDerivative : derivativePorts (buildServicePorts resource) svc.spec.ports = true := by
      unfold areServicesEqual at hEqual
      simp only [Bool.and_eq_true] at hEqual
      exact hEqual.1.1.2
    have hLength : (buildServicePorts resource).length = resource.spec.ports.length :=
      List.length_map _
    rw [← declaredPorts_eq, derivativePorts_eq_iff hDerivative, hPrior, hLength]
    simp [passesForEqual, hEqual]
  · rw [hPorts, declaredPorts_eq]
    refine iff_of_true rfl fun prior hPrior => ?_
    unfold passesForEqual
    rw [hDiffer prior hPrior]
    rfl

/-! ## A port that was removed -/

def httpPort : Port := { name := "http", number := 80 }
def adminPort : Port := { name := "admin", number := 8080 }

def webResource (ports : List Port) : StackResource where
  metadata := { name := "web", ns := "apps", uid := "r1" }
  spec := { ports := ports }

def ensureIn (ports : List Port) (c : Cluster) : EStateM.Result GoError World Service :=
  ensureService ObjectPass.quietEnv (webResource ports)
    { cluster := c, resource := webResource ports }

def withService (ports : List Port) (c : Cluster) : Cluster :=
  (finalState (ensureIn ports c)).cluster

def servedPorts (c : Cluster) : Option (List (String × Int × String)) :=
  (lookup .service c "apps" "web").map fun stored => stored.spec.ports.map portEntry

/-- Without its second port the resource keeps the Service of both: a desired list of ports passes
for equal to a longer one that starts like it. -/
theorem removed_port_stays_served :
    (value (ensureIn [httpPort] (withService [httpPort, adminPort] {}))).isSome ∧
      servedPorts (withService [httpPort] (withService [httpPort, adminPort] {})) =
        some (declaredPorts (webResource [httpPort, adminPort])) ∧
      declaredPorts (webResource [httpPort]) ≠
        declaredPorts (webResource [httpPort, adminPort]) := by
  decide +kernel

theorem serves_declared_ports_after_update :
    servedPorts (withService [adminPort] (withService [httpPort, adminPort] {})) =
      some (declaredPorts (webResource [adminPort])) := by
  have hReturns : (value (ensureIn [adminPort] (withService [httpPort, adminPort] {}))).isSome := by
    decide +kernel
  obtain ⟨svc, hValue⟩ := Option.isSome_iff_exists.mp hReturns
  exact (serves_declared_ports_iff ObjectPass.quietEnv (webResource [adminPort]) _ _ svc
    (eq_ok_of_value hValue)).mpr (by decide +kernel)

end ClusterAgent.Service
