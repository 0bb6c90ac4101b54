import ClusterAgent.Postgres.DatabaseFrame

/-!
# Cluster agent — the credentials a PostgresCluster publishes

When the operator's Cluster is ready, the pass lists the Secrets of the namespace and
puts three kinds of them into the outputs: the superuser's and the CA, told by their
whole name, and one Secret for each user, told by its type and a prefix of its name.
Which cluster a Secret was made for is not looked at.

* `slotOf` — where in the outputs a Secret goes; of several for one place the last one stays;
* `publishes_own_iff` — when everything published was made for this cluster.
-/

namespace ClusterAgent.PostgresController

open Pass Effect Session ObjectPass Addons

/-! ## Places in the outputs -/

inductive Slot where
  | superuser
  | ca
  | user (name : String)
  deriving DecidableEq, Repr

def slotOf (clusterName : String) (secret : Secret) : Option Slot :=
  let basicAuth := decide (secret.spec.type = secretTypeBasicAuth)
  if basicAuth && decide (secret.name = clusterName ++ "-superuser") then some .superuser
  else if secret.name = clusterName ++ "-ca" then some .ca
  else if basicAuth && clusterName.toList.isPrefixOf secret.name.toList then
    some (.user (secret.spec.data.get "username"))
  else none

def published (outputs : PostgresClusterOutputs) : Slot → Option String
  | .superuser => outputs.superUserCredentialSecret
  | .ca => if outputs.clientCASecret = "" then none else some outputs.clientCASecret
  | .user name => outputs.userCredentialSecrets.get? name

theorem published_cons (clusterName : String) (outputs : PostgresClusterOutputs)
    (secret : Secret) (rest : List Secret) :
    ∃ outputs', publishSecrets clusterName outputs (secret :: rest) =
        publishSecrets clusterName outputs' rest ∧
      ∀ slot, published outputs' slot =
        if slotOf clusterName secret = some slot then some secret.name
        else published outputs slot := by
  refine ⟨_, rfl, fun slot => ?_⟩
  unfold slotOf
  dsimp only
  split
  · cases slot <;> simp [published]
  · split
    · rename_i hName
      cases slot <;> simp [published, hName]
    · split
      · cases slot with
        | superuser => simp [published]
        | ca => simp [published]
        | user name =>
          by_cases hUser : secret.spec.data.get "username" = name
          · subst hUser
            simp [published, StringMap.get?_set_same]
          · simp [published, hUser, StringMap.get?_set_other (Ne.symm hUser)]
      · simp

theorem published_publishSecrets (clusterName : String) (outputs : PostgresClusterOutputs)
    (secrets : List Secret) (slot : Slot) :
    published (publishSecrets clusterName outputs secrets) slot =
      ((secrets.reverse.find? fun secret => slotOf clusterName secret = some slot).map
        (·.name)).or (published outputs slot) := by
  induction secrets generalizing outputs with
  | nil => simp [publishSecrets]
  | cons secret rest ih =>
    obtain ⟨outputs', hStep, hSlots⟩ := published_cons clusterName outputs secret rest
    rw [hStep, ih, hSlots, List.reverse_cons, List.find?_append]
    cases hRest : rest.reverse.find? fun secret => slotOf clusterName secret = some slot with
    | some later => simp
    | none =>
      by_cases hSlot : slotOf clusterName secret = some slot
      · simp [hSlot]
      · simp [hSlot]

/-! ## Whose Secrets are published -/

section

-- The Cluster of the operator that a Secret of the namespace was made for, if any.
variable (madeFor : String → Option String)

def PublishesOwn (clusterName : String) (outputs : PostgresClusterOutputs) : Prop :=
  ∀ slot name, published outputs slot = some name → madeFor name = some clusterName

/-- A Secret that goes to the outputs and was not made for the cluster is listed before one
that was, for the same place. -/
def ForeignReplaced (clusterName : String) (secrets : List Secret) : Prop :=
  ∀ front secret back slot, secrets = front ++ secret :: back →
    slotOf clusterName secret = some slot → madeFor secret.name ≠ some clusterName →
      ∃ later ∈ back, slotOf clusterName later = some slot ∧
        madeFor later.name = some clusterName

theorem publishesOwn_publishSecrets {clusterName : String} {outputs : PostgresClusterOutputs}
    (hBlank : ∀ slot, published outputs slot = none) (secrets : List Secret) :
    PublishesOwn madeFor clusterName (publishSecrets clusterName outputs secrets) ↔
      ForeignReplaced madeFor clusterName secrets := by
  have hPublished : ∀ slot,
      published (publishSecrets clusterName outputs secrets) slot =
        (secrets.reverse.find? fun secret => slotOf clusterName secret = some slot).map
          (·.name) := by
    intro slot
    rw [published_publishSecrets, hBlank, Option.or_none]
  constructor
  · intro hOwn front secret back slot hSecrets hSlot hForeign
    have hLast := hPublished slot
    rw [hSecrets, List.reverse_append, List.reverse_cons, List.append_assoc,
      List.find?_append] at hLast
    -- the last Secret for the place is the one that is published
    rcases hBack : back.reverse.find? fun secret => slotOf clusterName secret = some slot with
      _ | later
    · -- no later one: the foreign Secret itself is published
      simp only [hBack, Option.none_or, List.singleton_append, List.find?_cons, hSlot,
        decide_true, Option.map_some] at hLast
      exact absurd (hOwn slot _ (hSecrets ▸ hLast)) hForeign
    -- a later one is, and it was made for the cluster
    · simp only [hBack, Option.some_or, Option.map_some] at hLast
      have hLater := List.find?_some hBack
      rw [decide_eq_true_iff] at hLater
      exact ⟨later, List.mem_reverse.mp (List.mem_of_find?_eq_some hBack), hLater,
        hOwn slot _ (hSecrets ▸ hLast)⟩
  · intro hReplaced slot name hName
    rw [hPublished, Option.map_eq_some_iff] at hName
    obtain ⟨secret, hFound, rfl⟩ := hName
    -- what is published has no later one, so a foreign one would be unreplaced
    obtain ⟨hSlot, after, before, hReverse, hAfter⟩ := List.find?_eq_some_iff_append.mp hFound
    rw [decide_eq_true_iff] at hSlot
    by_contra hForeign
    have hSecrets : secrets = before.reverse ++ secret :: after.reverse := by
      rw [← List.reverse_reverse secrets, hReverse]
      simp
    obtain ⟨later, hMem, hLater, -⟩ := hReplaced _ _ _ slot hSecrets hSlot hForeign
    have hNot := hAfter later (List.mem_reverse.mp hMem)
    simp [hLater] at hNot

variable (env : Env)

def blankOutputs (cluster : CnpgCluster) : PostgresClusterOutputs :=
  let writeServiceHost := serviceHost cluster.status.writeService cluster.metadata.ns
  { clusterName := cluster.name
    readService := serviceHost cluster.status.readService cluster.metadata.ns
    writeService := writeServiceHost
    clusterConnection := some { host := writeServiceHost, port := 5432, sslMode := "require" } }

theorem outputs_populateStatus (cluster : CnpgCluster) (s : Session PostgresCluster) :
    (finalState (populateStatus env cluster s)).own.status.outputs =
      some (match listObjects env .secret s.own.metadata.ns [] s.world with
        | .ok secrets _ => publishSecrets cluster.name (blankOutputs cluster) secrets
        | .error _ _ => blankOutputs cluster) := by
  refine Triple.reached (P := (· = s)) (m := populateStatus env cluster)
    (I := fun s' => s'.own.status.outputs = _) ?_ rfl
  refine bind_getOwn (bind_modifyOwn (bind_modifyOwn ?_))
  cases hList : listObjects env .secret s.own.metadata.ns [] s.world with
  | ok secrets w =>
    have hRun : ∀ own : PostgresCluster, onCluster (listObjects env .secret s.own.metadata.ns [])
        ⟨s.world, own⟩ = .ok secrets ⟨w, own⟩ := by
      intro own
      unfold onCluster
      rw [hList]
    refine Triple.after (attempt_of_ok (hRun _)) ?_
    exact Triple.modify fun _ h => by rw [h]; rfl
  | error e w =>
    have hRun : ∀ own : PostgresCluster, onCluster (listObjects env .secret s.own.metadata.ns [])
        ⟨s.world, own⟩ = .error e ⟨w, own⟩ := by
      intro own
      unfold onCluster
      rw [hList]
    refine Triple.after (attempt_of_error (hRun _)) ?_
    exact Triple.throw fun _ h => by rw [h]; rfl

/-- **Only own credentials.** Whatever Secrets there are in the namespace, the outputs have
only those that were made for this cluster exactly if each other Secret that they would
take (by type and a prefix of the name) is listed before one that was made for it and goes
to the same place. -/
theorem publishes_own_iff (cluster : CnpgCluster) (s : Session PostgresCluster) :
    (∀ outputs ∈ (finalState (populateStatus env cluster s)).own.status.outputs,
        PublishesOwn madeFor cluster.name outputs) ↔
      ∀ secrets w, listObjects env .secret s.own.metadata.ns [] s.world = .ok secrets w →
        ForeignReplaced madeFor cluster.name secrets := by
  have hBlank : ∀ slot, published (blankOutputs cluster) slot = none := by
    intro slot
    cases slot <;> rfl
  rw [outputs_populateStatus]
  cases hList : listObjects env .secret s.own.metadata.ns [] s.world with
  | ok secrets w =>
    simp only [Option.mem_def, Option.some.injEq, forall_eq', EStateM.Result.ok.injEq, and_imp]
    rw [publishesOwn_publishSecrets madeFor hBlank]
    constructor
    · rintro hReplaced _ _ rfl rfl
      exact hReplaced
    · intro h
      exact h secrets w rfl rfl
  | error e w =>
    constructor
    · intro _ _ _ h
      cases h
    · intro _ outputs hOutputs slot name hName
      obtain rfl := Option.some.inj hOutputs
      rw [hBlank] at hName
      cases hName

end

/-- What the operator appends, after a dash, to the name of a Cluster. -/
def cnpgSecretSuffixes : List String := ["superuser", "app", "ca", "server", "replication"]

/-- The Cluster a Secret was made for, by the operator's naming. -/
def madeByName (clusters : List PostgresCluster) (name : String) : Option String :=
  (clusters.map cnpgClusterName).find? fun cluster =>
    cnpgSecretSuffixes.any fun suffix => name = cluster ++ "-" ++ suffix

/-- A second PostgresCluster, whose name extends the name of the first one's Cluster. -/
def regionalCluster : PostgresCluster := teamCluster "shop-16-eu" "u3" "orders"

def appSecret (pg : PostgresCluster) : Secret where
  metadata := { name := cnpgClusterName pg ++ "-app", ns := "team" }
  spec := { type := secretTypeBasicAuth, data := [("username", "app")] }
  status := ()

def bothRegions : Cluster :=
  settled
    { postgresClusters := [shopCluster, regionalCluster]
      secrets := [appSecret shopCluster, appSecret regionalCluster] } shopCluster

/-- The pass of the first one publishes the credentials of the second: Secrets are told by a
prefix of their name, and the name of the second Cluster extends the name of the first. -/
theorem credentials_of_extending_cluster :
    (∀ secret ∈ bothRegions.secrets,
      (madeByName bothRegions.postgresClusters secret.name).isSome) ∧
    ¬ ∀ pg ∈ lookup .postgresCluster (finalState (reconcile calmEnv "team" "shop"
        ⟨worldOf bothRegions, shopCluster⟩)).world.cluster "team" "shop",
      ∀ outputs ∈ pg.status.outputs,
        PublishesOwn (madeByName bothRegions.postgresClusters) (cnpgClusterName shopCluster)
          outputs := by
  refine ⟨by decide +kernel, fun h => ?_⟩
  have hApp : ((lookup .postgresCluster (finalState (reconcile calmEnv "team" "shop"
      ⟨worldOf bothRegions, shopCluster⟩)).world.cluster "team" "shop").bind
        (·.status.outputs)).bind (published · (.user "app")) = some "shop-16-eu-16-app" := by
    decide +kernel
  obtain ⟨outputs, hOutputs, hName⟩ := Option.bind_eq_some_iff.mp hApp
  obtain ⟨pg, hPg, hOutputs⟩ := Option.bind_eq_some_iff.mp hOutputs
  have hOwn := h pg hPg outputs hOutputs _ _ hName
  revert hOwn
  decide +kernel

end ClusterAgent.PostgresController
