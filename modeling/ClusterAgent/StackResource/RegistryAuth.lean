import ClusterAgent.Lib.Runs
import ClusterAgent.Builds.Names
import ClusterAgent.Controller.ObjectPass

/-!
# Cluster agent — the registry-auth step

The first sub-reconciler of the chain. It makes sure the docker-config Secret a
resource pulls or pushes with exists, synthesizing it from basic credentials
where the spec gives those. A missing Secret or an unresolved repository ends
the chain with a not-ready verdict.

A docker-config Secret may serve several resources. The step sets the owner reference on its copy
and then asks the copy for it, so it never stores one (`shared_secret_owned_iff`).
-/

namespace ClusterAgent.RegistryAuth

open Pass Effect

section

variable (env : Env)

def reconcileDockerConfigAuth (dockerConfigAuth : Option DockerConfigAuth) :
    Pass SubReconcilerResult := do
  let stackResource ← resource
  match dockerConfigAuth.bind DockerConfigAuth.secretRef with
  | none => throw nilDereference
  | some secretRef =>
    match ← attempt (getObject env .secret stackResource.metadata.ns secretRef.name) with
    | .error e => throw (e.wrap "failed to get docker config json secret")
    | .ok none =>
      reportNotReady "DockerConfigJsonSecretNotFound" "Docker credentials secret not found"
      return .stop
    | .ok (some secret) =>
      let secret ← controlled secret
      if hasOwnerReference stackResource.metadata "StackResource" secret.metadata then return .nil
      else
        let _ ← update env .secret secret
        return .nil

/-- Build a docker-config Secret from a basic-auth Secret's credentials, and create it or
bring it up to date. -/
def synthesizeFromBasic (basic : BasicAuthCredentials) (authURL : String) :
    Pass SubReconcilerResult := do
  let sr ← resource
  match ← getObject env .secret sr.metadata.ns basic.secretRef.name with
  | none =>
    reportNotReady "RegistryCredentialsMissing" "image repository credentials secret not found"
    return .stop
  | some src =>
    let user := src.spec.data.get basic.usernameKey
    let pass := src.spec.data.get basic.passwordKey
    let raw := env.dockerConfigJSON authURL user pass
    let out : Secret :=
      { metadata := { name := sr.synthesizedDockerConfigSecretName, ns := sr.metadata.ns }
        spec := { type := secretTypeDockerConfigJson, data := [(dockerConfigJsonKey, raw)] }
        status := () }
    let out ← controlled out
    match ← getObject env .secret sr.metadata.ns sr.synthesizedDockerConfigSecretName with
    | none =>
      let _ ← create env .secret out
      return .nil
    | some existing =>
      if existing.spec.data.get dockerConfigJsonKey = out.spec.data.get dockerConfigJsonKey then
        return .nil
      else
        let _ ← update env .secret { existing with spec.data := out.spec.data }
        return .nil

def reconcileCredentials (buildSpec : StackResourceBuildSpec) (auth : RegistryCredentialsSpec) :
    Pass SubReconcilerResult := do
  let sr ← resource
  match auth.dockerConfig, auth.basic with
  | some dockerConfig, _ => reconcileDockerConfigAuth env (some dockerConfig)
  | none, some basic =>
    match ← attempt (resolveImageRepository env sr.metadata.ns buildSpec.repository
        buildSpec.sourceRevision.getSourceRevisionString) with
    | .error e =>
      reportNotReady "RepositoryResolveFailed" ("failed to resolve image repository: " ++ e.message)
      return .stop
    | .ok resolved => synthesizeFromBasic env basic resolved.authURL
  | none, none => return .nil

def reconcile : Pass SubReconcilerResult := do
  let stackResource ← resource
  match stackResource.spec.buildSpec, stackResource.spec.imageSpec with
  | some buildSpec, _ =>
    match buildSpec.repository.auth with
    | none => return .nil
    | some auth => reconcileCredentials env buildSpec auth
  | none, some imageSpec =>
    match imageSpec.pullAuth with
    | none => return .nil
    | some pullAuth => reconcileDockerConfigAuth env pullAuth.dockerConfigAuth
  | none, none => throw nilDereference

/-! ## Footprint and exits -/

def footprint : Footprint where
  objects := [.secret]
  reasons := ["DockerConfigJsonSecretNotFound", "RegistryCredentialsMissing",
    "RepositoryResolveFailed"]

theorem has_reconcileDockerConfigAuth {auth : Option DockerConfigAuth} :
    Has footprint (reconcileDockerConfigAuth env auth) := by
  refine .bind has_resource fun stackResource => ?_
  split
  · exact .throw
  · refine .bind (has_getObject).attempt fun result => ?_
    split
    · exact .throw
    · exact .bind has_reportNotReady fun _ => .pure
    · refine .bind has_controlled fun secret => ?_
      split
      · exact .pure
      · exact .bind has_update fun _ => .pure

theorem has_synthesizeFromBasic {basic : BasicAuthCredentials} {authURL : String} :
    Has footprint (synthesizeFromBasic env basic authURL) := by
  refine .bind has_resource fun sr => .bind has_getObject fun src => ?_
  split
  · exact .bind has_reportNotReady fun _ => .pure
  · refine .bind has_controlled fun out =>
      .bind has_getObject fun existing => ?_
    split
    · exact .bind has_create fun _ => .pure
    · split
      · exact .pure
      · exact .bind has_update fun _ => .pure

theorem has_reconcile : Has footprint (reconcile env) := by
  refine .bind has_resource fun stackResource => ?_
  split
  · split
    · exact .pure
    · unfold reconcileCredentials
      refine .bind has_resource fun sr => ?_
      split
      · exact has_reconcileDockerConfigAuth env
      · refine .bind (Has.of_reads
          (reads_resolveImageRepository env).attempt) fun result => ?_
        split
        · exact .bind has_reportNotReady fun _ => .pure
        · exact has_synthesizeFromBasic env
      · exact .pure
  · split
    · exact .pure
    · exact has_reconcileDockerConfigAuth env
  · exact .throw

theorem exits_reconcileDockerConfigAuth {auth : Option DockerConfigAuth} :
    ExitsWithVerdict (reconcileDockerConfigAuth env auth) := by
  refine .bind fun stackResource => ?_
  split
  · exact .throw
  · refine .bind fun result => ?_
    split
    · exact .throw
    · exact .notReady _ _ _
    · refine .bind fun secret => ?_
      split
      · exact .goOn id
      · exact .bind fun _ => .goOn id

theorem exits_synthesizeFromBasic {basic : BasicAuthCredentials} {authURL : String} :
    ExitsWithVerdict (synthesizeFromBasic env basic authURL) := by
  refine .bind fun sr => .bind fun src => ?_
  split
  · exact .notReady _ _ _
  · refine .bind fun out => .bind fun existing => ?_
    split
    · exact .bind fun _ => .goOn id
    · split
      · exact .goOn id
      · exact .bind fun _ => .goOn id

theorem exits_reconcile : ExitsWithVerdict (reconcile env) := by
  refine .bind fun stackResource => ?_
  split
  · split
    · exact .goOn id
    · refine .bind fun sr => ?_
      split
      · exact exits_reconcileDockerConfigAuth env
      · refine .bind fun result => ?_
        split
        · exact .notReady _ _ _
        · exact exits_synthesizeFromBasic env
      · exact .goOn id
  · split
    · exact .goOn id
    · exact exits_reconcileDockerConfigAuth env
  · exact .throw

end

/-! ## Owners of a shared Secret -/

def dockerConfigRef (r : StackResource) : Option String :=
  match r.spec.buildSpec, r.spec.imageSpec with
  | some buildSpec, _ =>
    ((buildSpec.repository.auth.bind (·.dockerConfig)).bind (·.secretRef)).map (·.name)
  | none, some imageSpec =>
    ((imageSpec.pullAuth.bind (·.dockerConfigAuth)).bind (·.secretRef)).map (·.name)
  | none, none => none

structure AuthPass where
  env : Env
  resource : StackResource

structure AuthRun where
  cluster : Cluster
  results : List (Option SubReconcilerResult) := []

def authStep (s : AuthRun) (p : AuthPass) : AuthRun :=
  let result := reconcile p.env { cluster := s.cluster, resource := p.resource }
  { cluster := (finalState result).cluster, results := value result :: s.results }

/-- The Secret has no controller, or the resource is it. -/
def controllerFree (r : StackResource) (secret : ObjectMeta) : Bool :=
  (getControllerOf secret).all fun ref =>
    decide (ref.kind = "StackResource") && decide (ref.name = r.metadata.name)

/-- Every pass went on, and the stored Secret names each of the resources as an owner. -/
def AllOwners (ns name : String) (passes : List AuthPass) (s : AuthRun) : Prop :=
  (∀ result ∈ s.results, result = some .nil) ∧
    ∀ secret, lookup .secret s.cluster ns name = some secret → ∀ p ∈ passes,
      hasOwnerReference p.resource.metadata "StackResource" secret.metadata = true

theorem any_upsertOwnerRef {ref : OwnerReference} (refs : List OwnerReference)
    {p : OwnerReference → Bool}
    (hp : p ref = true) : (upsertOwnerRef ref refs).any p = true := by
  induction refs with
  | nil => simp [upsertOwnerRef, hp]
  | cons r rest ih =>
    unfold upsertOwnerRef
    split
    · simp [hp]
    · simp [ih]

/-- The reference is set on the copy in memory, so the test that follows always finds it. -/
theorem setControllerReference_shared {r : StackResource} {secret : ObjectMeta}
    (hNs : secret.ns = r.metadata.ns) :
    (controllerFree r secret = true ∧ ∃ owned,
      setControllerReference r.metadata "StackResource" secret = some owned ∧
        hasOwnerReference r.metadata "StackResource" owned = true) ∨
    (controllerFree r secret = false ∧
      setControllerReference r.metadata "StackResource" secret = none) := by
  have hOwned : ∀ refs, hasOwnerReference r.metadata "StackResource"
      { secret with ownerReferences := upsertOwnerRef ⟨"StackResource", r.metadata.name,
        r.metadata.uid, true⟩ refs } = true :=
    fun refs => any_upsertOwnerRef refs (by simp [referSameObject])
  have hHere : (decide (r.metadata.ns ≠ "") && decide (r.metadata.ns ≠ secret.ns)) = false := by
    simp [hNs]
  unfold controllerFree setControllerReference
  dsimp only
  rw [hHere, if_neg Bool.false_ne_true]
  cases getControllerOf secret with
  | none => exact .inl ⟨rfl, _, rfl, hOwned _⟩
  | some existing =>
    cases hSame : (decide (existing.kind = "StackResource") &&
        decide (existing.name = r.metadata.name)) with
    | true => exact .inl ⟨hSame, _, if_pos hSame, hOwned _⟩
    | false => exact .inr ⟨hSame, if_neg (Bool.not_eq_true _ ▸ hSame)⟩

variable {ns name : String} {c : Cluster} {secret : Secret}

theorem reconcile_dockerConfig (env : Env) {w : World}
    (hRef : dockerConfigRef w.resource = some name) :
    ∃ auth ref, auth.bind DockerConfigAuth.secretRef = some ref ∧ ref.name = name ∧
      reconcile env w = reconcileDockerConfigAuth env auth w := by
  have hResource : Pass.resource w = .ok w.resource w := rfl
  unfold reconcile reconcileCredentials
  rw [bind_of_ok hResource]
  unfold dockerConfigRef at hRef
  split at hRef
  · next buildSpec hBuild =>
    simp only [Option.map_eq_some_iff, Option.bind_eq_some_iff] at hRef
    obtain ⟨ref, ⟨dockerConfig, ⟨auth, hAuth, hConfig⟩, hRef⟩, hName⟩ := hRef
    refine ⟨some dockerConfig, ref, hRef, hName, ?_⟩
    rw [hBuild]
    dsimp only
    rw [hAuth]
    dsimp only
    rw [bind_of_ok hResource, hConfig]
  · next imageSpec hBuild hImage =>
    simp only [Option.map_eq_some_iff, Option.bind_eq_some_iff] at hRef
    obtain ⟨ref, ⟨dockerConfig, ⟨auth, hAuth, hConfig⟩, hRef⟩, hName⟩ := hRef
    refine ⟨some dockerConfig, ref, hRef, hName, ?_⟩
    rw [hBuild, hImage]
    dsimp only
    rw [hAuth]
    dsimp only
    rw [hConfig]
  · cases hRef

/-- **A pass over a Secret that is there leaves it as it is**, and goes on exactly when the Secret
has no other controller. -/
theorem reconcile_shared {env : Env} {w : World} (hAnswered : env.fault w.calls = none)
    (hRef : dockerConfigRef w.resource = some name)
    (hSecret : lookup .secret w.cluster w.resource.metadata.ns name = some secret) :
    (finalState (reconcile env w)).cluster = w.cluster ∧
      (value (reconcile env w) = some .nil ↔
        controllerFree w.resource secret.metadata = true) := by
  obtain ⟨auth, ref, hAuth, rfl, hStep⟩ := reconcile_dockerConfig env hRef
  have hGet := getObject_eq_ok hAnswered .secret w.resource.metadata.ns ref.name
  have hResource : ∀ w : World, Pass.resource w = .ok w.resource w := fun _ => rfl
  rw [hSecret] at hGet
  rw [hStep]
  unfold reconcileDockerConfigAuth
  rw [bind_of_ok (hResource w), hAuth]
  dsimp only
  rw [bind_of_ok (attempt_of_ok hGet)]
  dsimp only
  unfold controlled
  rw [bind_assoc, bind_of_ok (hResource _)]
  rcases setControllerReference_shared (key_of_lookup hSecret).1 with
    ⟨hFree, owned, hSet, hOwned⟩ | ⟨hTaken, hSet⟩
  · rw [hSet, hFree]
    dsimp only
    rw [pure_bind, if_pos hOwned]
    exact ⟨rfl, iff_of_true rfl rfl⟩
  · rw [hSet, hTaken]
    exact ⟨rfl, iff_of_false nofun nofun⟩

/-- The passes are over the same Secret, and their calls are answered. -/
def SharesSecret (ns name : String) (p : AuthPass) : Prop :=
  p.env.fault 0 = none ∧ p.resource.metadata.ns = ns ∧ dockerConfigRef p.resource = some name

/-- **No run of passes changes the Secret.** -/
theorem run_shared (hSecret : lookup .secret c ns name = some secret) {passes : List AuthPass}
    (hPasses : ∀ p ∈ passes, SharesSecret ns name p) (results : List (Option SubReconcilerResult)) :
    (Runs.run authStep ⟨c, results⟩ passes).cluster = c ∧
      ((∀ result ∈ (Runs.run authStep ⟨c, results⟩ passes).results, result = some .nil) ↔
        (∀ result ∈ results, result = some .nil) ∧
          ∀ p ∈ passes, controllerFree p.resource secret.metadata = true) := by
  induction passes generalizing results with
  | nil => simp
  | cons p rest ih =>
    obtain ⟨hAnswered, hNs, hRef⟩ := hPasses p List.mem_cons_self
    obtain ⟨hSame, hGoesOn⟩ := reconcile_shared (w := { cluster := c, resource := p.resource })
      hAnswered hRef (hNs ▸ hSecret)
    have hNext : authStep ⟨c, results⟩ p = ⟨c, value (reconcile p.env
        { cluster := c, resource := p.resource }) :: results⟩ := by
      unfold authStep
      dsimp only
      rw [hSame]
    rw [Runs.run_cons, hNext]
    obtain ⟨hCluster, hAll⟩ := ih (fun q hq => hPasses q (List.mem_cons_of_mem _ hq)) _
    refine ⟨hCluster, hAll.trans ?_⟩
    rw [List.forall_mem_cons, List.forall_mem_cons, hGoesOn]
    tauto

/-- **Resources share a Secret exactly when it already names them all as owners and none of
them finds another controller on it**: the step never stores the reference it sets. -/
theorem shared_secret_owned_iff (hSecret : lookup .secret c ns name = some secret)
    {passes : List AuthPass} (hPasses : ∀ p ∈ passes, SharesSecret ns name p) :
    AllOwners ns name passes (Runs.run authStep { cluster := c } passes) ↔
      ∀ p ∈ passes, controllerFree p.resource secret.metadata = true ∧
        hasOwnerReference p.resource.metadata "StackResource" secret.metadata = true := by
  obtain ⟨hCluster, hAll⟩ := run_shared hSecret hPasses []
  unfold AllOwners
  rw [hCluster, hAll, hSecret]
  simp [forall_and]

def pullSecret (owners : List OwnerReference) : Secret where
  metadata := { name := "pull", ns := "shop", ownerReferences := owners }
  spec := { type := secretTypeDockerConfigJson }
  status := ()

def pulling (name : String) : AuthPass where
  env := ObjectPass.quietEnv
  resource :=
    { metadata := { name := name, ns := "shop", uid := name }
      spec.imageSpec := some
        { image := "shop"
          pullAuth := some
            { type := .dockerHub
              dockerConfigAuth := some { secretRef := some { name := "pull" } } } } }

theorem pulling_shares (name : String) :
    SharesSecret "shop" "pull" (pulling name) := ⟨rfl, rfl, rfl⟩

theorem shared_secret_owned_listed :
    AllOwners "shop" "pull" [pulling "web", pulling "api"] (Runs.run authStep { cluster :=
      { secrets := [pullSecret [⟨"StackResource", "web", "web", false⟩,
        ⟨"StackResource", "api", "api", false⟩]] } } [pulling "web", pulling "api"]) :=
  (shared_secret_owned_iff rfl (by simp [pulling_shares])).mpr (by decide +kernel)

/-- Nothing is stored on a Secret without owners, and the second resource fails on one that the
first controls. -/
theorem reference_never_stored :
    ¬ AllOwners "shop" "pull" [pulling "web"] (Runs.run authStep
      { cluster := { secrets := [pullSecret []] } } [pulling "web"]) ∧
    ¬ AllOwners "shop" "pull" [pulling "web", pulling "api"] (Runs.run authStep
      { cluster := { secrets := [pullSecret [⟨"StackResource", "web", "web", true⟩]] } }
      [pulling "web", pulling "api"]) := by
  constructor
  · intro h
    exact absurd (h.2 (pullSecret []) (by decide +kernel) _ List.mem_cons_self) (by decide +kernel)
  · intro h
    exact absurd (h.1 none (by decide +kernel)) (by decide)

end ClusterAgent.RegistryAuth
