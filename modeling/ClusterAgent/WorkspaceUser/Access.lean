import ClusterAgent.WorkspaceUser.Namespaces

/-!
# Cluster agent — what a User may access

A RoleBinding gives the rights of the User's ClusterRole to the User's service account in
one namespace. Of a binding that exists, a pass looks at its owner only, so a binding with
the right name and any subjects and role will do. The service account is named after the
username and the binding after the User: once the username is edited, the bindings still
name the old account. And a pass that ends before its last step leaves the old condition.

* `appliesTo` — which subjects mean a service account;
* `AccessExact` — the bindings of the User, and no others, give it what its spec says;
* `Guarded` — nobody has meddled with its bindings, and the username stays.

Main result: `access_exact`.
-/

namespace ClusterAgent.WorkspaceUser

open Pass Effect Conditions Session ObjectPass

/-! ## Who a binding grants access to -/

structure Account where
  ns : String
  name : String
  deriving DecidableEq, Repr

def accountOf (user : User) : Account where
  ns := userConfigNamespace user
  name := serviceAccountName user

/-- A subject of a binding in `ns` means the service account: by its name, by the name it has
as a user, or as a member of a group. -/
def appliesTo (ns : String) (account : Account) (subject : Subject) : Bool :=
  if subject.kind = "ServiceAccount" then
    decide (subject.name = account.name) &&
      decide ((if subject.ns = "" then ns else subject.ns) = account.ns)
  else if subject.kind = "User" then
    decide (subject.name = "system:serviceaccount:" ++ account.ns ++ ":" ++ account.name)
  else if subject.kind = "Group" then
    decide (subject.name ∈ ["system:authenticated", "system:serviceaccounts",
      "system:serviceaccounts:" ++ account.ns])
  else false

def grants (accounts : List Account) (binding : RoleBinding) : Bool :=
  accounts.any fun account => binding.spec.subjects.any (appliesTo binding.metadata.ns account)

def userGrant (user : User) : RoleBindingSpec where
  subjects := [userSubject user]
  roleRef := userRoleRef user

/-- The accounts have exactly the access the spec of the User gives: one binding in each
namespace it lists, of its service account alone to its role, which has its rules. -/
structure AccessExact (user : User) (accounts : List Account) (c : Cluster) : Prop where
  listed : ∀ ns ∈ user.spec.namespaces,
    ∃! binding, binding ∈ c.roleBindings ∧ binding.metadata.ns = ns ∧ grants accounts binding = true
  only : ∀ binding ∈ c.roleBindings, grants accounts binding = true →
    binding.metadata.ns ∈ user.spec.namespaces ∧ binding.spec = userGrant user
  role : (lookup .clusterRole c "" (userRoleName user)).map (·.spec.rules) =
    some user.spec.accessRules

def available (status : UserStatus) : Bool :=
  (findStatusCondition status.conditions .available).any fun c => decide (c.status = .conditionTrue)

def availableIn (c : Cluster) (name : String) : Bool :=
  (lookup .user c "" name).any fun user => available user.status

/-- A pass has nothing to create and nothing to take over. -/
structure InPlace (user : User) (c : Cluster) : Prop where
  config : owns .kubeNamespace user c (configNamespace user) = true
  namespaces : ∀ o ∈ user.spec.namespaces.map (desiredNamespace user),
    owns .kubeNamespace user c o = true
  account : owns .serviceAccount user c (desiredServiceAccount user) = true
  role : (lookup .clusterRole c "" (userRoleName user)).any (fun role =>
    isControlledBy role.metadata user.metadata &&
      decide (role.spec.rules = user.spec.accessRules)) = true
  bindings : ∀ o ∈ user.spec.namespaces.map (desiredRoleBinding user),
    owns .roleBinding user c o = true
  secret : owns .secret user c (desiredSASecret user) = true

/-! ## Bindings nobody has meddled with -/

/-- The binding is as a pass over the User creates it. -/
structure AsEnsured (user : User) (binding : RoleBinding) : Prop where
  name : binding.name = userRoleBindingName user
  spec : binding.spec = userGrant user
  label : binding.metadata.labels.get? workspaceUserLabel = some user.name
  finalizers : binding.metadata.finalizers = []

/-- The binding has the name of the User's bindings or gives access to its service account. -/
def concerns (user : User) (binding : RoleBinding) : Bool :=
  decide (binding.name = userRoleBindingName user) || grants [accountOf user] binding

instance (user : User) (binding : RoleBinding) : Decidable (AsEnsured user binding) :=
  decidable_of_iff (binding.name = userRoleBindingName user ∧ binding.spec = userGrant user ∧
      binding.metadata.labels.get? workspaceUserLabel = some user.name ∧
      binding.metadata.finalizers = [])
    ⟨fun ⟨hName, hSpec, hLabel, hFinalizers⟩ => ⟨hName, hSpec, hLabel, hFinalizers⟩,
      fun h => ⟨h.name, h.spec, h.label, h.finalizers⟩⟩

/-- If the binding concerns the User, it is as a pass over the User creates it. -/
def Sound (user : User) (binding : RoleBinding) : Prop :=
  concerns user binding = true → AsEnsured user binding

structure SoundBindings (user : User) (c : Cluster) : Prop where
  unique : Unique .roleBinding c
  sound : ∀ binding ∈ c.roleBindings, Sound user binding

/-- All versions of the User have one username, and every binding that concerns the User is as
its passes create them. -/
structure Guarded (user : User) (c : Cluster) : Prop extends SoundBindings user c where
  users : ∀ now ∈ accounts c, now.name = user.name → now.spec.username = user.spec.username

/-- Two versions of a User with one service account. -/
structure SameAccount (user now : User) : Prop where
  name : now.name = user.name
  username : now.spec.username = user.spec.username

section

variable {user now : User} {c c' : Cluster}

theorem userRoleBindingName_congr (h : SameAccount user now) :
    userRoleBindingName now = userRoleBindingName user := by
  unfold userRoleBindingName userRoleName
  rw [h.name]

theorem accountOf_congr (h : SameAccount user now) : accountOf now = accountOf user := by
  unfold accountOf userConfigNamespace serviceAccountName
  rw [h.name, h.username]

theorem userGrant_congr (h : SameAccount user now) : userGrant now = userGrant user := by
  unfold userGrant userSubject userRoleRef userConfigNamespace serviceAccountName userRoleName
  rw [h.name, h.username]

theorem appliesTo_userSubject (ns : String) (account : Account) :
    appliesTo ns account (userSubject user) = decide (accountOf user = account) := by
  have hNs : userConfigNamespace user ≠ "" := by
    intro h
    have hLength := congrArg String.length h
    rw [userConfigNamespace, String.length_append] at hLength
    have hSuffix : "-config".length = 7 := rfl
    have hEmpty : "".length = 0 := rfl
    omega
  unfold appliesTo userSubject
  rw [if_pos rfl, if_neg hNs, Bool.eq_iff_iff, Bool.and_eq_true, decide_eq_true_iff,
    decide_eq_true_iff, decide_eq_true_iff]
  refine ⟨fun h => ?_, fun h => ⟨congrArg Account.name h, congrArg Account.ns h⟩⟩
  obtain ⟨hName, hNs⟩ := h
  cases account
  exact congr (congrArg _ hNs) hName

theorem grants_userGrant {binding : RoleBinding} (h : binding.spec = userGrant user)
    (accounts : List Account) : grants accounts binding = decide (accountOf user ∈ accounts) := by
  unfold grants userGrant at *
  rw [h]
  simp only [List.any_cons, List.any_nil, Bool.or_false, appliesTo_userSubject]
  rw [Bool.eq_iff_iff, List.any_eq_true, decide_eq_true_iff]
  constructor
  · rintro ⟨account, hMem, hEq⟩
    exact of_decide_eq_true hEq ▸ hMem
  · exact fun hMem => ⟨_, hMem, decide_eq_true rfl⟩

/-! ## Every pass leaves sound bindings -/

theorem sound_marked {time : Int} {x y : RoleBinding} (h : Sound user x)
    (hMarked : removedOrMarked time x = some y) : Sound user y := by
  unfold removedOrMarked at hMarked
  split at hMarked
  · cases hMarked
  · cases hMarked
    intro hConcerns
    obtain ⟨hName, hSpec, hLabel, hFinalizers⟩ := h hConcerns
    exact ⟨hName, hSpec, hLabel, hFinalizers⟩

theorem sound_adopted {x : RoleBinding} (h : Sound user x) :
    Sound user (updated x (ownedBy now x)) := by
  intro hConcerns
  obtain ⟨hName, hSpec, hLabel, hFinalizers⟩ := h hConcerns
  exact ⟨hName, hSpec, hLabel, hFinalizers⟩

/-- The bindings another User creates have another name and another service account. -/
theorem sound_created {ns : String} {stored : RoleBinding}
    (hUser : now.name = user.name → now.spec.username = user.spec.username)
    (hSame : AsCreated (ownedBy now (desiredRoleBinding now ns)) stored) : Sound user stored := by
  have hName : stored.name = userRoleBindingName now := hSame.name
  have hSpec : stored.spec = userGrant now := hSame.spec
  by_cases hNames : now.name = user.name
  · have hAccount : SameAccount user now := ⟨hNames, hUser hNames⟩
    refine fun _ => ⟨hName.trans (userRoleBindingName_congr hAccount),
      hSpec.trans (userGrant_congr hAccount), ?_, hSame.finalizers⟩
    rw [hSame.labels, ← hNames]
    rfl
  · intro hConcerns
    unfold concerns at hConcerns
    rw [hName, grants_userGrant hSpec, Bool.or_eq_true, decide_eq_true_iff, decide_eq_true_iff,
      List.mem_singleton] at hConcerns
    refine absurd ?_ hNames
    rcases hConcerns with hBinding | hAccount
    · unfold userRoleBindingName userRoleName at hBinding
      rwa [String.append_left_inj, String.append_left_inj] at hBinding
    · have hConfig : userConfigNamespace now = userConfigNamespace user :=
        congrArg Account.ns hAccount
      unfold userConfigNamespace at hConfig
      rwa [String.append_left_inj] at hConfig

theorem SoundBindings.congr (h : SoundBindings user c) (hSame : c'.roleBindings = c.roleBindings) :
    SoundBindings user c' :=
  ⟨h.unique.congr hSame, hSame ▸ h.sound⟩

theorem EnsuredEach.sound {w w' : World} {r : StepResult} (h : SoundBindings user w.cluster)
    (hUser : now.name = user.name → now.spec.username = user.spec.username)
    (hEach : EnsuredEach .roleBinding now (now.spec.namespaces.map (desiredRoleBinding now))
      w w' r) :
    SoundBindings user w'.cluster := by
  cases hEach with
  | owned all reads => exact h.congr (by rw [cluster_of_reads reads])
  | written o mem write =>
    obtain ⟨ns, -, rfl⟩ := List.mem_map.mp mem
    -- a new binding comes with a free key; an adopted one changes its owner only
    cases write with
    | created stored missing get same =>
      have hGet : w'.cluster.roleBindings = w.cluster.roleBindings ++ [stored] := get
      have hNone :
          lookup .roleBinding w.cluster stored.metadata.ns stored.metadata.name = none := by
        rw [same.ns, same.name]
        exact missing
      refine ⟨h.unique.append get hNone, fun b hb => ?_⟩
      rw [hGet] at hb
      rcases List.mem_append.mp hb with hOld | hNew
      · exact h.sound b hOld
      · rw [List.mem_singleton.mp hNew]
        exact sound_created hUser same
    | adopted existing found foreign get =>
      have hMem : existing ∈ w.cluster.roleBindings := List.mem_of_find?_eq_some found
      have hKey := List.find?_some found
      refine ⟨h.unique.write get fun _ _ => hKey, fun b hb => ?_⟩
      have hGet : w'.cluster.roleBindings = Keyed.write _ _ w.cluster.roleBindings := get
      rw [hGet] at hb
      obtain ⟨x, hx, rfl⟩ := List.mem_map.mp hb
      dsimp only
      -- the adopted binding, or one of another key
      split
      · exact sound_adopted (h.sound existing hMem)
      · exact h.sound x hx

variable (env : Env)

theorem sound_delete (o : RoleBinding) :
    Ensures (fun w => SoundBindings user w.cluster) (delete env .roleBinding o)
      (fun w => SoundBindings user w.cluster) := by
  have hUnique : Ensures (fun w => Holds .roleBinding (fun _ => False) w.cluster)
    (delete env .roleBinding o)
    (fun w => Holds .roleBinding (fun _ => False) w.cluster) :=
    holds_delete fun _ h => h.elim
  have hSound : Triple (fun w : World => ∀ b ∈ w.cluster.roleBindings, Sound user b)
      (delete env .roleBinding o) (fun _ w => ∀ b ∈ w.cluster.roleBindings, Sound user b ∧ _)
      fun w => ∀ b ∈ w.cluster.roleBindings, Sound user b :=
    delete_leaves env .roleBinding (fun _ _ _ => sound_marked) o
  refine .of_each fun w h => ((hUnique.pre ?_).and (hSound.pre ?_)).conseq
    (fun _ w' h => ⟨h.1.unique, fun b hb => (h.2 b hb).1⟩) fun w' h => ⟨h.1.unique, h.2⟩
  · rintro _ rfl
    exact ⟨h.unique, fun _ h => h.elim⟩
  · rintro _ rfl
    exact h.sound

theorem sound_removeUnwanted {wanted : RoleBinding → Bool} :
    Ensures (fun w => SoundBindings user w.cluster) (removeUnwanted env .roleBinding now wanted)
      (fun w => SoundBindings user w.cluster) := by
  refine Triple.bind (Within.triple (reads_listEverywhere .roleBinding) fun w w' hReads h => ?_)
    fun os => Triple.forM fun o _ => sound_delete env o
  exact h.congr (by rw [cluster_of_reads hReads])

/-! ## A pass that removes what is not listed -/

/-- What is left once the bindings outside the listed namespaces are deleted. -/
structure Trimmed (user : User) (c c' : Cluster) : Prop where
  kept : Holds .roleBinding
    (fun b => b ∈ c.roleBindings ∧ b.metadata.ns ∈ user.spec.namespaces) c'
  left : ∀ b ∈ c'.roleBindings, b.metadata.finalizers = [] → b ∈ c.roleBindings ∧
    (b.metadata.labels.get? workspaceUserLabel = some user.name →
      b.metadata.ns ∈ user.spec.namespaces)

theorem trimmed_removeUnwanted {w : World} (hUnique : Unique .roleBinding w.cluster) :
    Returns (· = w) (removeUnwanted env .roleBinding user fun b =>
        decide (b.metadata.ns ∈ user.spec.namespaces))
      (fun _ w' => Trimmed user w.cluster w'.cluster) := by
  refine .bind ((listEverywhere_spec .roleBinding w).anyError) fun os => .of_each ?_
  rintro w1 ⟨rfl, hReads⟩
  have hCluster := cluster_of_reads hReads
  let os := w.cluster.roleBindings.filter fun b =>
    [(workspaceUserLabel, user.name)].all fun e => decide (b.metadata.labels.get? e.1 = some e.2)
  let unwanted := os.filter fun b => !decide (b.metadata.ns ∈ user.spec.namespaces)
  let kept := fun b => b ∈ w.cluster.roleBindings ∧ b.metadata.ns ∈ user.spec.namespaces
  -- listed namespaces are spared, whatever labels their bindings have
  have hKept : Ensures (fun w => Holds .roleBinding kept w.cluster)
    (unwanted.forM (delete env .roleBinding))
    (fun w => Holds .roleBinding kept w.cluster) := by
    refine .forM fun o ho => holds_delete ?_
    rintro v ⟨-, hListed⟩ ⟨hNs, -⟩
    have hUnlisted := (List.mem_filter.mp ho).2
    rw [← hNs, decide_eq_true hListed] at hUnlisted
    cases hUnlisted
  -- what is left of the others has finalizers
  have hLeft := deleteEach_leaves (I := fun b => b.metadata.finalizers = [] →
    b ∈ w.cluster.roleBindings) env .roleBinding (fun _ _ _ _ hMarked hNone =>
      absurd hNone (finalizers_of_marked hMarked)) unwanted
  refine ((hKept.pre ?_).and (hLeft.pre ?_)).conseq (fun _ w' h => ⟨h.1, ?_⟩)
    fun _ _ => trivial
  · rintro _ rfl
    rw [hCluster]
    exact ⟨hUnique, fun b hb => hUnique b hb.1⟩
  · rintro _ rfl b hb -
    rw [hCluster] at hb
    exact hb
  · intro b hb hFinalizers
    obtain ⟨hOld, hGone⟩ := h.2 b hb
    -- a binding without finalizers that is still there was not deleted, so it was wanted
    refine ⟨hOld hFinalizers, fun hLabel => by_contra fun hUnlisted => ?_⟩
    refine hGone b (List.mem_filter.mpr ⟨List.mem_filter.mpr ⟨hOld hFinalizers, ?_⟩, ?_⟩)
      (hasKey_self b) hFinalizers
    · simp [hLabel]
    · simp [hUnlisted]

theorem accessExact_of_trimmed (hSound : SoundBindings user c') (hTrimmed : Trimmed user c c')
    (hThere : ∀ o ∈ user.spec.namespaces.map (desiredRoleBinding user), ∃ existing,
      lookup .roleBinding c o.metadata.ns o.metadata.name = some existing ∧
        isControlledBy existing.metadata user.metadata = true)
    (hRole : (lookup .clusterRole c' "" (userRoleName user)).map (·.spec.rules) =
      some user.spec.accessRules) : AccessExact user [accountOf user] c' := by
  have hEnsured : ∀ b ∈ c'.roleBindings, grants [accountOf user] b = true → AsEnsured user b := by
    intro b hb hGrants
    refine hSound.sound b hb ?_
    unfold concerns
    rw [hGrants, Bool.or_true]
  refine ⟨fun ns hListed => ?_, fun b hb hGrants => ?_, hRole⟩
  · obtain ⟨existing, hFound, -⟩ := hThere _ (List.mem_map.mpr ⟨ns, hListed, rfl⟩)
    have hOld : existing ∈ c.roleBindings := List.mem_of_find?_eq_some hFound
    obtain ⟨hNs, hName⟩ := key_of_lookup hFound
    have hNs : existing.metadata.ns = ns := hNs
    have hName : existing.name = userRoleBindingName user := hName
    have hStored := hTrimmed.kept.stored existing ⟨hOld, by rw [hNs]; exact hListed⟩
    have hMem : existing ∈ c'.roleBindings := List.mem_of_find?_eq_some hStored
    have hAs : AsEnsured user existing := by
      refine hSound.sound existing hMem ?_
      unfold concerns
      rw [decide_eq_true hName, Bool.true_or]
    refine ⟨existing, ⟨hMem, hNs, ?_⟩, ?_⟩
    · rw [grants_userGrant hAs.spec]
      exact decide_eq_true List.mem_cons_self
    · rintro b ⟨hb, hbNs, hGrants⟩
      -- the bindings of a User have one name, so there is one in a namespace
      have hbStored := hSound.unique b hb
      have hbName : b.metadata.name = existing.metadata.name :=
        (hEnsured b hb hGrants).name.trans hAs.name.symm
      rw [hbNs, ← hNs, hbName, hStored] at hbStored
      exact (Option.some.inj hbStored).symm
  · have hAs := hEnsured b hb hGrants
    exact ⟨(hTrimmed.left b hb hAs.finalizers).2 hAs.label, hAs.spec⟩

theorem AccessExact.congr {accounts : List Account} (h : AccessExact user accounts c)
    (hBindings : c'.roleBindings = c.roleBindings) (hRoles : c'.clusterRoles = c.clusterRoles) :
    AccessExact user accounts c' := by
  refine ⟨?_, ?_, ?_⟩
  · rw [hBindings]
    exact h.listed
  · rw [hBindings]
    exact h.only
  · rw [lookup_same .clusterRole hRoles]
    exact h.role

/-! ## The steps of a pass -/

/-- How the chain of a pass that started in `c` ends: if the condition is true, the access is
exact, or the condition is an old one and something had to be written. -/
def Outcome (user : User) (c : Cluster) (s : Session User) : Prop :=
  available s.own.status = true → AccessExact user [accountOf user] s.world.cluster ∨
    available user.status = true ∧ ¬ InPlace user c

/-- The pass is over the User, and the cluster is in a state `K`. -/
abbrev At (user : User) (K : Cluster → Prop) (s : Session User) : Prop :=
  s.own = user ∧ K s.world.cluster

/-- A step goes on in a state `K`, or ends the pass. -/
abbrev Goes (user : User) (c : Cluster) (K : Cluster → Prop) (r : StepResult) (s : Session User) :
    Prop :=
  if r = .nil then At user K s else Outcome user c s

variable {s : Session User}

theorem outcome_early (hOwn : s.own = user) (hNot : ¬ InPlace user c) :
    Outcome user c s := by
  intro hAvailable
  rw [hOwn] at hAvailable
  exact Or.inr ⟨hAvailable, hNot⟩

section

variable {S T : Type} [DecidableEq S] {kind : Kind S T} {wrap : GoError → GoError}
  {K L : Cluster → Prop} {os : User → List (Object S T)}
  (hUser : user.metadata.ns = "") (hNew : ∀ o ∈ os user, o.metadata.ownerReferences = [])
  (hInPlace : ∀ c', K c' → InPlace user c → ∀ o ∈ os user, owns kind user c' o = true)
include hUser hNew hInPlace

variable {env}

theorem ensures_step (hOwn : s.own = user) (hK : K s.world.cluster) :
    Returns (· = s) (onCluster (ensureEach env kind wrap user (os user)))
      (fun r s' => s'.own = user ∧ if r = .nil then s'.world.cluster = s.world.cluster ∧
          ∀ o ∈ os user, ∃ existing,
            lookup kind s.world.cluster o.metadata.ns o.metadata.name = some existing ∧
              isControlledBy existing.metadata user.metadata = true
        else Outcome user c s') := by
  refine (onCluster_spec (ensureEach_spec env hUser hNew s.world) s.own).conseq ?_
    fun _ _ => trivial
  rintro r s' ⟨hEach, hOwn'⟩
  refine ⟨hOwn'.trans hOwn, ?_⟩
  cases hEach with
  | owned all reads => exact (if_pos rfl).mpr ⟨cluster_of_reads reads, all⟩
  | written o mem write =>
    refine (if_neg nofun).mpr (outcome_early (hOwn'.trans hOwn) fun hPlace => ?_)
    obtain ⟨o, ho, hNot⟩ := (EnsuredEach.written o mem write).not_owned
    rw [hInPlace _ hK hPlace o ho] at hNot
    cases hNot

theorem ensure_step :
    Returns (At user K) (getOwn >>= fun u => onCluster (ensureEach env kind wrap u (os u)))
      (Goes user c K) := by
  refine .of_each fun s ⟨hOwn, hK⟩ => bind_getOwn ?_
  rw [hOwn]
  refine (ensures_step hUser hNew hInPlace hOwn hK).post fun r s' ⟨hOwn', hEnd⟩ => ?_
  by_cases hNil : r = .nil
  · rw [if_pos hNil] at hEnd
    exact (if_pos hNil).mpr ⟨hOwn', hEnd.1 ▸ hK⟩
  · exact (if_neg hNil).mpr ((if_neg hNil).mp hEnd)

theorem ensureAndRemove_step {wanted : User → Object S T → Bool}
    (hRemove : ∀ w : World, K w.cluster → (∀ o ∈ os user, ∃ existing,
        lookup kind w.cluster o.metadata.ns o.metadata.name = some existing ∧
          isControlledBy existing.metadata user.metadata = true) →
      Returns (· = w) (removeUnwanted env kind user (wanted user)) (fun _ w' => L w'.cluster)) :
    Returns (At user K)
      (do
        let u ← getOwn
        let result ← onCluster (ensureEach env kind wrap u (os u))
        if result ≠ .nil then return result
        else
          onCluster (removeUnwanted env kind u (wanted u))
          return .nil : UserPass StepResult)
      (Goes user c L) := by
  refine .of_each fun s ⟨hOwn, hK⟩ => bind_getOwn ?_
  rw [hOwn]
  refine .bind (ensures_step hUser hNew hInPlace hOwn hK) fun r =>
    .of_each fun s1 ⟨hOwn1, hEnd⟩ => ?_
  -- the removal runs only when every wanted object was there and owned
  by_cases hNil : r = .nil
  · rw [if_pos hNil] at hEnd
    obtain ⟨hCluster, hAll⟩ := hEnd
    rw [if_neg (not_ne_iff.mpr hNil)]
    rw [← hCluster] at hK hAll
    refine .bind ((onCluster_spec (hRemove s1.world hK hAll) s1.own).anyError) fun _ => .pure
      fun s' h => ?_
    exact (if_pos rfl).mpr ⟨h.2.trans hOwn1, h.1⟩
  · rw [if_neg hNil] at hEnd
    rw [if_pos hNil]
    exact .pure fun s' h => (if_neg hNil).mpr (h ▸ hEnd)

end

def Rest (c c' : Cluster) : Prop := ∀ k, k ≠ .kubeNamespace → c.Same c' k

def RoleExact (user : User) (c : Cluster) : Prop :=
  (lookup .clusterRole c "" (userRoleName user)).map (·.spec.rules) = some user.spec.accessRules

def Ruled (user : User) (c c' : Cluster) : Prop := Rest c c' ∧ RoleExact user c'

/-- The access is exact, and the Secrets are those of the start of the pass. -/
def Bound (user : User) (c c' : Cluster) : Prop :=
  c.Same c' .secret ∧ AccessExact user [accountOf user] c'

theorem owns_congr {S T : Type} (kind : Kind S T) (h : c.Same c' kind.id)
    (o : Object S T) : owns kind user c' o = owns kind user c o := by
  unfold owns
  rw [lookup_same kind h]

section

variable (hUser : user.metadata.ns = "")
include hUser

variable {env}

theorem config_step :
    Returns (At user (· = c)) (reconcileConfigNamespace env) (Goes user c (· = c)) := by
  refine ensure_step hUser (fun o ho => ?_) fun c' hSame hPlace o ho => ?_
  · exact List.mem_singleton.mp ho ▸ rfl
  · rw [List.mem_singleton.mp ho, hSame]
    exact hPlace.config

theorem namespaces_step :
    Returns (At user (· = c)) (reconcileNamespaces env) (Goes user c (Rest c)) := by
  refine ensureAndRemove_step hUser (fun o ho => ?_)
    (fun c' hSame hPlace o ho => ?_) fun w hSame _ => ?_
  · obtain ⟨ns, -, rfl⟩ := List.mem_map.mp ho
    rfl
  · rw [hSame]
    exact hPlace.namespaces o ho
  · have hHas : Has { objects := [.kubeNamespace] }
        (removeUnwanted env .kubeNamespace user fun ns =>
        decide (ns.name ∈ user.spec.namespaces)) := has_removeUnwanted List.mem_cons_self user _
    refine (Within.leads hHas w).conseq (fun _ w' hTouches k hk => ?_)
      fun _ _ => trivial
    rw [← hSame]
    exact hTouches.objects k fun h => hk (List.mem_singleton.mp h)

theorem account_step :
    Returns (At user (Rest c)) (reconcileSA env) (Goes user c (Rest c)) := by
  refine ensure_step hUser (fun o ho => ?_) fun c' hRest hPlace o ho => ?_
  · exact List.mem_singleton.mp ho ▸ rfl
  · rw [List.mem_singleton.mp ho, owns_congr .serviceAccount (hRest _ nofun)]
    exact hPlace.account

theorem role_step :
    Returns (At user (Rest c)) (reconcileRole env) (Goes user c (Ruled user c)) := by
  refine .of_each fun s ⟨hOwn, hRest⟩ => bind_getOwn ?_
  rw [hOwn, controlledBy_user hUser rfl, onCluster_pure, pure_bind]
  have hGet : Returns (· = s) (onCluster (getObject env .clusterRole "" (userRoleName user)))
      (fun found s1 => found = lookup .clusterRole c "" (userRoleName user) ∧ s1.own = user ∧
        s1.world.cluster = s.world.cluster) := by
    refine (onCluster_spec (getObject_spec env .clusterRole "" (userRoleName user) s.world)
      s.own).conseq ?_ fun _ _ => trivial
    rintro found s1 ⟨⟨hFound, hReads⟩, hOwn1⟩
    exact ⟨hFound.trans (lookup_same .clusterRole (hRest _ nofun)), hOwn1.trans hOwn,
      cluster_of_reads hReads⟩
  refine .bind hGet fun found => .of_each fun s1 ⟨hFound, hOwn1, hCluster⟩ => ?_
  -- a step that writes the role ends the pass, and the role was not in place
  have hWrite : ∀ {α : Type} (m : Pass α), ¬ InPlace user c →
      Returns (· = s1) (do let _ ← onCluster m; return .requeue : UserPass StepResult)
        (Goes user c (Ruled user c)) := by
    intro α m hNot
    refine .bind ((keeps_onCluster m (I := (· = user))).mono (fun _ h => h ▸ hOwn1)
      (fun _ _ h => h) fun _ _ => trivial) fun _ => .pure fun s' hOwn' => ?_
    exact (if_neg nofun).mpr (outcome_early hOwn' hNot)
  cases found with
  | none =>
    refine hWrite _ fun hPlace => ?_
    have hRole := hPlace.role
    rw [← hFound] at hRole
    cases hRole
  | some existing =>
    dsimp only
    rw [hasSameController_ownedBy]
    split
    · next hSame =>
      refine .pure fun s' h => (if_pos rfl).mpr ?_
      refine ⟨h ▸ hOwn1, ?_⟩
      rw [h, hCluster]
      refine ⟨hRest, ?_⟩
      unfold RoleExact
      rw [lookup_same .clusterRole (hRest _ nofun), ← hFound]
      exact congrArg some hSame.2.symm
    · next hDiffers =>
      refine hWrite _ fun hPlace => hDiffers ?_
      have hRole := hPlace.role
      rw [← hFound, Option.any_some, Bool.and_eq_true, decide_eq_true_iff] at hRole
      exact ⟨hRole.1, hRole.2.symm⟩

theorem binding_step (hSound : SoundBindings user c) :
    Returns (At user (Ruled user c)) (reconcileRoleBinding env) (Goes user c (Bound user c)) := by
  refine ensureAndRemove_step hUser (fun o ho => ?_)
    (fun c' hRest hPlace o ho => ?_) fun w hStart hAll => ?_
  · obtain ⟨ns, -, rfl⟩ := List.mem_map.mp ho
    rfl
  · rw [owns_congr .roleBinding (hRest.1 _ nofun)]
    exact hPlace.bindings o ho
  · obtain ⟨hRest, hRole⟩ := hStart
    have hStart : SoundBindings user w.cluster := hSound.congr (hRest .roleBinding nofun)
    have hHas : Has { objects := [.roleBinding] } (removeUnwanted env .roleBinding user fun b =>
        decide (b.metadata.ns ∈ user.spec.namespaces)) :=
          has_removeUnwanted List.mem_cons_self user _
    refine (((Within.leads hHas w).and (trimmed_removeUnwanted env hStart.unique)).and
      ((sound_removeUnwanted env).start hStart)).conseq ?_
        fun _ _ => trivial
    rintro - w' ⟨⟨hTouches, hTrimmed⟩, hSound'⟩
    refine ⟨(hRest .secret nofun).trans (hTouches.objects .secret (by decide)),
      accessExact_of_trimmed hSound' hTrimmed hAll ?_⟩
    rw [lookup_same .clusterRole (hTouches.objects _ (by decide))]
    exact hRole

theorem secret_step :
    Returns (At user (Bound user c)) (reconcileSASecret env) (Goes user c (Bound user c)) := by
  refine ensure_step hUser (fun o ho => ?_) fun c' hRest hPlace o ho => ?_
  · exact List.mem_singleton.mp ho ▸ rfl
  · rw [List.mem_singleton.mp ho, owns_congr .secret hRest.1]
    exact hPlace.secret

omit hUser in
theorem status_step :
    Returns (At user (Bound user c)) (statusReconciler env) (fun _ => Outcome user c) := by
  refine .of_each fun s hs => (alters_statusReconciler.leads s).conseq
    (fun _ s' hAlters _ => ?_) fun _ _ => trivial
  exact Or.inl (hs.2.2.congr (hAlters.objects .roleBinding List.not_mem_nil)
    (hAlters.objects .clusterRole List.not_mem_nil))

theorem outcome_subReconcilers (hSound : SoundBindings user c) :
    Returns (At user (· = c)) (runChain (subReconcilers env)) (fun _ => Outcome user c) :=
  triple_runChain_cons (config_step hUser) <|
    triple_runChain_cons (namespaces_step hUser) <|
    triple_runChain_cons (account_step hUser) <|
    triple_runChain_cons (role_step hUser) <|
    triple_runChain_cons (binding_step hUser hSound) <|
    triple_runChain_cons (secret_step hUser) <|
    triple_runChain_keep status_step (.skip)

end

theorem available_storedStatus (status : UserStatus) :
    available (storedStatus status) = available status := by
  have hTypes : ∀ c : Condition UserCondition,
      ({ c with lastTransitionTime := storedTime c.lastTransitionTime } :
        Condition UserCondition).type = c.type := fun _ => rfl
  unfold available storedStatus
  dsimp only
  rw [findStatusCondition_map hTypes]
  cases findStatusCondition status.conditions UserCondition.available with
  | none => rfl
  | some c => rfl

/-- **A pass over the User**: if it ends with the condition, the access is exact or the
condition is an old one and something had to be written. -/
theorem access_reconcile {name : String}
    (hFound : lookup .user s.world.cluster "" name = some user)
    (hSound : SoundBindings user s.world.cluster) :
    Returns (· = s) (reconcile env name)
      (fun _ s' => availableIn s'.world.cluster name = true →
        AccessExact user [accountOf user] s'.world.cluster ∨
          available user.status = true ∧ ¬ InPlace user s.world.cluster) := by
  obtain ⟨hUser, hName⟩ := key_of_lookup hFound
  refine bind_fetch hFound (fun _ _ => trivial) fun _ => bind_modifyOwn ?_
  let start : Session User :=
    { s with world := { s.world with calls := s.world.calls + 1 }, own := user }
  have hChain : Returns (· = start) (runChain (subReconcilers env))
      (fun _ s1 => Outcome user s.world.cluster s1) :=
    (outcome_subReconcilers hUser hSound).start ⟨rfl, rfl⟩
  refine Triple.bind ((((alters_subReconcilers env).leads start).and hChain).anyError) fun result =>
      Triple.of_each fun s1 ⟨hAlters, hOutcome⟩ => bind_getOwn ?_
  have hMetadata : s1.own.metadata = user.metadata := hAlters.metadata
  have hHas : Has { objects := [.user] } (storeStatus env .user storedStatus s1.own) :=
    has_storeStatus List.mem_cons_self
  refine Triple.bind ((onCluster_spec ((storeStatus_spec env .user storedStatus s1.own
    s1.world).and (Within.leads hHas s1.world)) s1.own).anyError) fun _ => Triple.pure
      fun s' h hAvailable => ?_
  obtain ⟨⟨hGet, hTouches⟩, -⟩ := h
  -- the stored User has the status of the one in memory
  have hStored : lookup .user s'.world.cluster "" name =
      some { user with status := storedStatus s1.own.status } := by
    rw [hMetadata, hUser, hName] at hGet
    have hKey : ∀ x : User, hasKey "" name x = true →
      hasKey "" name { x with status := storedStatus s1.own.status } = true := fun _ h => h
    have hLookup : lookup .user s1.world.cluster "" name = some user :=
      (lookup_same .user (hAlters.objects _ (by decide))).trans hFound
    rw [lookup_write hGet hKey, hLookup]
    rfl
  unfold availableIn at hAvailable
  rw [hStored, Option.any_some, available_storedStatus] at hAvailable
  refine (hOutcome hAvailable).imp_left fun hExact => ?_
  exact hExact.congr (hTouches.objects .roleBinding (by decide))
    (hTouches.objects .clusterRole (by decide))

/-! ## Every pass keeps the guard -/

/-- The pass is over a User with the username, if it is over this User. -/
structure GuardedPass (user : User) (s : Session User) : Prop extends
    SoundBindings user s.world.cluster where
  scope : s.own.metadata.ns = ""
  username : s.own.name = user.name → s.own.spec.username = user.spec.username

theorem GuardedPass.step {s' : Session User} (h : GuardedPass user s)
    (hSound : SoundBindings user s'.world.cluster) (hOwn : s'.own = s.own) : GuardedPass user s' :=
  ⟨hSound, by rw [hOwn]; exact h.scope, by rw [hOwn]; exact h.username⟩

theorem guardedPass_alters {α : Type} {kinds : List ObjectKind} {m : UserPass α}
    (h : Within (Alters kinds) m) (hKinds : .roleBinding ∉ kinds) :
    Ensures (GuardedPass user) m (GuardedPass user) := by
  refine h.triple fun s s' hAlters hs => ?_
  have hName : s'.own.name = s.own.name := congrArg ObjectMeta.name hAlters.metadata
  refine ⟨hs.toSoundBindings.congr (hAlters.objects .roleBinding hKinds), ?_, ?_⟩
  · rw [hAlters.metadata]
    exact hs.scope
  · rw [hName, hAlters.spec]
    exact hs.username

theorem guardedPass_reconcileRoleBinding :
    Ensures (GuardedPass user) (reconcileRoleBinding env) (GuardedPass user) := by
  refine .of_each fun s hs => bind_getOwn ?_
  let wanted := s.own.spec.namespaces.map (desiredRoleBinding s.own)
  have hNew : ∀ o ∈ wanted, o.metadata.ownerReferences = [] := by
    intro o ho
    obtain ⟨ns, -, rfl⟩ := List.mem_map.mp ho
    rfl
  refine .bind ((onCluster_spec (ensureEach_spec env hs.scope hNew s.world) s.own).conseq
    (fun _ s' h => hs.step (h.1.sound hs.toSoundBindings hs.username) h.2)
    fun s' h => hs.step (hs.toSoundBindings.congr (by rw [cluster_of_reads h.1])) h.2) fun r => ?_
  split
  · exact .skip
  · refine .bind (.of_each fun s1 hs1 => ?_) fun _ => .skip
    have hRemove : Ensures (· = s1.world) (removeUnwanted env .roleBinding s.own fun b =>
        decide (b.metadata.ns ∈ s.own.spec.namespaces)) (fun w => SoundBindings user w.cluster) :=
      (sound_removeUnwanted env).start hs1.toSoundBindings
    exact (onCluster_spec hRemove s1.own).conseq
      (fun _ _ h => hs1.step h.1 h.2) fun _ h => hs1.step h.1 h.2

theorem guardedPass_subReconcilers :
    Ensures (GuardedPass user) (runChain (subReconcilers env)) (GuardedPass user) := by
  refine triple_runChain_all fun step hMem => ?_
  unfold subReconcilers at hMem
  simp only [List.mem_cons, List.not_mem_nil, or_false] at hMem
  rcases hMem with rfl | rfl | rfl | rfl | rfl | rfl | rfl
  · exact guardedPass_alters alters_reconcileConfigNamespace (by decide)
  · exact guardedPass_alters alters_reconcileNamespaces (by decide)
  · exact guardedPass_alters alters_reconcileSA (by decide)
  · exact guardedPass_alters alters_reconcileRole (by decide)
  · exact guardedPass_reconcileRoleBinding env
  · exact guardedPass_alters alters_reconcileSASecret (by decide)
  · exact guardedPass_alters alters_statusReconciler List.not_mem_nil

theorem soundBindings_reconcile {name : String}
    (hFound : lookup .user s.world.cluster "" name = some now)
    (hUser : now.name = user.name → now.spec.username = user.spec.username)
    (hSound : SoundBindings user s.world.cluster) :
    Ensures (· = s) (reconcile env name) (fun s' => SoundBindings user s'.world.cluster) := by
  obtain ⟨hScope, -⟩ := key_of_lookup hFound
  refine ensures_reconcile env hFound (fun s' h => hSound.congr (by rw [h])) ?_ fun own => ?_
  · exact (guardedPass_subReconcilers env).mono (fun _ h => h ▸ ⟨hSound, hScope, hUser⟩)
      (fun _ _ h => h.toSoundBindings) fun _ h => h.toSoundBindings
  · exact (alters_storeStatus env own).triple fun _ _ hAlters hs =>
      hs.congr (hAlters.objects .roleBinding (by decide))

end

/-! ## Runs -/

/-- Whoever edits the User or any binding, the guard holds. -/
def KeepsGuard (user : User) (_ : Cluster) : UserEvent → Prop
  | .pass _ _ _ => True
  | .elsewhere c => Guarded user c

/-- The service account that the pass ensures, if it is one over the User `name`. -/
def ensuredAccount (name : String) (c : Cluster) : UserEvent → List Account
  | .pass _ passed _ =>
    if passed = name then ((lookup .user c "" name).map accountOf).toList else []
  | .elsewhere _ => []

def everEnsured (name : String) : Cluster → List UserEvent → List Account
  | _, [] => []
  | c, event :: rest => ensuredAccount name c event ++ everEnsured name (userStep c event) rest

section

variable {user : User} {c : Cluster}

theorem Guarded.username {name : String} {now : User} (h : Guarded user c)
    (hFound : lookup .user c "" name = some now) (hName : now.name = user.name) :
    now.spec.username = user.spec.username :=
  h.users { now with status := {} } (account_mem hFound) hName

theorem guarded_userStep {event : UserEvent} (hEvent : KeepsGuard user c event)
    (h : Guarded user c) : Guarded user (userStep c event) := by
  cases event with
  | elsewhere c' => exact hEvent
  | pass env name own =>
    cases hFound : lookup .user c "" name with
    | none =>
      have hSame : userStep c (.pass env name own) = c :=
        reconcile_none (s := ⟨worldOf c, own⟩) hFound rfl
      rw [hSame]
      exact h
    | some now =>
      have hAccounts : accounts (userStep c (.pass env name own)) = accounts c :=
        (accounts_reconcile env (s := ⟨worldOf c, own⟩) hFound).reached rfl
      exact ⟨(soundBindings_reconcile env (s := ⟨worldOf c, own⟩) hFound (h.username hFound)
        h.toSoundBindings).reached rfl, hAccounts ▸ h.users⟩

theorem everEnsured_eq {events : List UserEvent}
    (hEvents : Runs.Admitted userStep (KeepsGuard user) c events) (h : Guarded user c) :
    ∀ account ∈ everEnsured user.name c events, account = accountOf user := by
  induction events generalizing c with
  | nil => exact nofun
  | cons event rest ih =>
    intro account hMem
    rcases List.mem_append.mp hMem with hNow | hLater
    · cases event with
      | elsewhere c' => cases hNow
      | pass env name own =>
        dsimp only [ensuredAccount] at hNow
        split at hNow
        · rw [Option.mem_toList, Option.map_eq_some_iff] at hNow
          obtain ⟨now, hFound, rfl⟩ := hNow
          obtain ⟨-, hName⟩ := key_of_lookup hFound
          exact accountOf_congr ⟨hName, h.username hFound hName⟩
        · cases hNow
    · exact ih hEvents.2 (guarded_userStep hEvents.1 h) account hLater

theorem everEnsured_concat (name : String) (events : List UserEvent) (last : UserEvent) :
    everEnsured name c (events ++ [last]) =
      everEnsured name c events ++ ensuredAccount name (Runs.run userStep c events) last := by
  induction events generalizing c with
  | nil => exact List.append_nil _
  | cons event rest ih =>
    rw [List.cons_append, everEnsured, everEnsured, ih, List.append_assoc]
    rfl

theorem SoundBindings.version {now : User} (h : SoundBindings user c)
    (hAccount : SameAccount user now) : SoundBindings now c := by
  refine ⟨h.unique, fun b hb hConcerns => ?_⟩
  unfold concerns at hConcerns
  rw [userRoleBindingName_congr hAccount, accountOf_congr hAccount] at hConcerns
  obtain ⟨hName, hSpec, hLabel, hFinalizers⟩ := h.sound b hb hConcerns
  exact ⟨hName.trans (userRoleBindingName_congr hAccount).symm,
    hSpec.trans (userGrant_congr hAccount).symm, by rw [hAccount.name]; exact hLabel, hFinalizers⟩

theorem grants_of_all_eq {account : Account} {accounts : List Account}
    (hAll : ∀ x ∈ accounts, x = account) (hMem : account ∈ accounts) :
    grants accounts = grants [account] := by
  funext binding
  unfold grants
  rw [Bool.eq_iff_iff, List.any_eq_true, List.any_eq_true]
  constructor
  · rintro ⟨x, hx, hApplies⟩
    exact ⟨account, List.mem_cons_self, hAll x hx ▸ hApplies⟩
  · rintro ⟨x, hx, hApplies⟩
    exact ⟨account, hMem, List.mem_singleton.mp hx ▸ hApplies⟩

end

def endsAvailable (env : Env) (name : String) (own : User) (c : Cluster) : Bool :=
  (value (reconcile env name ⟨worldOf c, own⟩)).isSome &&
    availableIn (userStep c (.pass env name own)) name

/-- **Exact access.** In every run in which the username stays and nobody else touches the
bindings of the User: a pass over the User that ends with `UserAvailable` true leaves exactly
the access of the spec to all the service accounts the User ever had, unless the condition
was true before and the pass still had something to write. -/
theorem access_exact (user : User) (c : Cluster) (events : List UserEvent)
    (hStart : Guarded user c) (hEvents : Runs.Admitted userStep (KeepsGuard user) c events)
    (env : Env) (own now : User)
    (hFound : lookup .user (Runs.run userStep c events) "" user.name = some now)
    (hFresh : available now.status = true → InPlace now (Runs.run userStep c events))
    (hEnds : endsAvailable env user.name own (Runs.run userStep c events) = true) :
    AccessExact now (everEnsured user.name c (events ++ [.pass env user.name own]))
      (Runs.run userStep c (events ++ [.pass env user.name own])) := by
  obtain ⟨-, hName⟩ := key_of_lookup hFound
  have hGuard : Guarded user (Runs.run userStep c events) :=
    Runs.run_admitted (fun _ _ => guarded_userStep) hEvents hStart
  have hAccount : SameAccount user now := ⟨hName, hGuard.username hFound hName⟩
  unfold endsAvailable at hEnds
  rw [Bool.and_eq_true, Option.isSome_iff_exists] at hEnds
  obtain ⟨⟨result, hValue⟩, hAvailable⟩ := hEnds
  have hExact : AccessExact now [accountOf now]
      (userStep (Runs.run userStep c events) (.pass env user.name own)) := by
    rcases (access_reconcile env (s := ⟨worldOf (Runs.run userStep c events), own⟩) hFound
      (hGuard.toSoundBindings.version hAccount)).of_ok rfl (eq_ok_of_value hValue) hAvailable
      with hExact | ⟨hOld, hNot⟩
    · exact hExact
    · exact absurd (hFresh hOld) hNot
  -- over the whole run this is the only service account
  have hLast : ensuredAccount user.name (Runs.run userStep c events) (.pass env user.name own) =
      [accountOf now] := by
    dsimp only [ensuredAccount]
    rw [if_pos rfl, hFound]
    rfl
  have hGrants : grants (everEnsured user.name c (events ++ [.pass env user.name own])) =
      grants [accountOf now] := by
    rw [everEnsured_concat, hLast]
    refine grants_of_all_eq (fun x hx => ?_) (List.mem_append_right _ List.mem_cons_self)
    rcases List.mem_append.mp hx with hBefore | hNow
    · rw [everEnsured_eq hEvents hStart x hBefore, accountOf_congr hAccount]
    · exact List.mem_singleton.mp hNow
  rw [Runs.run_append, Runs.run_cons, Runs.run_nil]
  exact ⟨by rw [hGrants]; exact hExact.listed, by rw [hGrants]; exact hExact.only, hExact.role⟩

/-! ## A User with too much access, and one with too little -/

def ana : User := namedUser "ana" "u1" ["a"]

def withTokens (c : Cluster) : Cluster :=
  { c with secrets := c.secrets.map fun secret =>
      { secret with spec.data := [(serviceAccountTokenKey, "token")] } }

def editAna (c : Cluster) (spec : UserSpec) : Cluster :=
  { c with users := c.users.map fun user =>
      { user with metadata.generation := user.metadata.generation + 1, spec := spec } }

def setUp (c : Cluster) : List UserEvent :=
  let passes := List.replicate 6 anaPass
  passes ++ [.elsewhere (withTokens (Runs.run userStep c passes))]

def anaAlone : Cluster where
  users := [ana]

def anaReady : Cluster := Runs.run userStep anaAlone (setUp anaAlone ++ [anaPass])

def renameAna : List UserEvent :=
  let renamed := editAna anaReady { ana.spec with username := "anna" }
  [anaPass, .elsewhere renamed, anaPass, anaPass,
    .elsewhere (withTokens (Runs.run userStep renamed [anaPass, anaPass]))]

/-- Somebody gave everybody all rights in `a`, under the name of the User's binding. -/
def anaPreempted : Cluster where
  users := [ana]
  roleBindings :=
    [{ metadata := { name := "ana-role-rolebinding", ns := "a" }
       spec :=
         { subjects := [{ kind := "Group", name := "system:authenticated" }]
           roleRef :=
             { kind := "ClusterRole", name := "cluster-admin", apiGroup := rbacGroupName } }
       status := () }]

def listMore : List UserEvent :=
  [anaPass, .elsewhere (editAna anaReady { ana.spec with namespaces := ["a", "b"] })]

/-- The pass is over `ana` and ends with the condition, but the access is not that of the
spec. -/
def EndsInexact (c : Cluster) (events : List UserEvent) : Prop :=
  endsAvailable quietEnv "ana" (namedUser "ana" "" []) (Runs.run userStep c events) = true ∧
    ∃ now, lookup .user (Runs.run userStep c events) "" "ana" = some now ∧
      ¬ AccessExact now (everEnsured "ana" c (events ++ [anaPass]))
        (Runs.run userStep c (events ++ [anaPass]))

theorem endsInexact_of_binding {c : Cluster} {events : List UserEvent}
    (hEnds : endsAvailable quietEnv "ana" (namedUser "ana" "" [])
      (Runs.run userStep c events) = true)
    (hFound : (lookup .user (Runs.run userStep c events) "" "ana").isSome)
    (hBad : ∃ binding ∈ (Runs.run userStep c (events ++ [anaPass])).roleBindings,
      grants (everEnsured "ana" c (events ++ [anaPass])) binding = true ∧
        ∀ now ∈ lookup .user (Runs.run userStep c events) "" "ana", binding.spec ≠ userGrant now) :
    EndsInexact c events := by
  obtain ⟨now, hNow⟩ := Option.isSome_iff_exists.mp hFound
  obtain ⟨binding, hMem, hGrants, hSpec⟩ := hBad
  exact ⟨hEnds, now, hNow, fun hExact => hSpec now hNow (hExact.only binding hMem hGrants).2⟩

/-- **Access that is not what the spec says**: the binding of a renamed User still names the
old service account; a binding that was there before the User keeps its subjects and its role;
and a User with a new namespace counts as available before it has access to it. -/
theorem inexact_access :
    EndsInexact anaAlone (setUp anaAlone ++ renameAna) ∧
      EndsInexact anaPreempted (setUp anaPreempted) ∧
      EndsInexact anaAlone (setUp anaAlone ++ listMore) := by
  refine ⟨endsInexact_of_binding (by decide +kernel) (by decide +kernel) (by decide +kernel),
    endsInexact_of_binding (by decide +kernel) (by decide +kernel) (by decide +kernel),
    by decide +kernel, ?_⟩
  have hListed : ∃ now ∈ lookup .user
      (Runs.run userStep anaAlone (setUp anaAlone ++ listMore)) "" "ana",
      "b" ∈ now.spec.namespaces := by
    decide +kernel
  have hNone : ∀ binding ∈ (Runs.run userStep anaAlone
      (setUp anaAlone ++ listMore ++ [anaPass])).roleBindings, binding.metadata.ns ≠ "b" := by
    decide +kernel
  obtain ⟨now, hNow, hMem⟩ := hListed
  refine ⟨now, hNow, fun hExact => ?_⟩
  obtain ⟨binding, ⟨hBinding, hNs, -⟩, -⟩ := hExact.listed "b" hMem
  exact hNone binding hBinding hNs

def anaCreated : Cluster := Runs.run userStep anaAlone (List.replicate 6 anaPass)

theorem access_exact_ana :
    AccessExact ana (everEnsured "ana" anaAlone (setUp anaAlone ++ [anaPass]))
      (Runs.run userStep anaAlone (setUp anaAlone ++ [anaPass])) := by
  have hStart : Guarded ana anaAlone := ⟨⟨nofun, nofun⟩, by decide +kernel⟩
  have hCreated : Guarded ana (withTokens anaCreated) := by
    refine ⟨⟨?_, ?_⟩, by decide +kernel⟩
    · unfold Pass.Unique
      decide +kernel
    · unfold Sound
      decide +kernel
  exact access_exact ana anaAlone (setUp anaAlone) hStart
    ⟨trivial, trivial, trivial, trivial, trivial, trivial, hCreated, trivial⟩ quietEnv
    (namedUser "ana" "" []) ana (by decide +kernel) nofun (by decide +kernel)

end ClusterAgent.WorkspaceUser
