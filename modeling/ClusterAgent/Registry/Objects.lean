import ClusterAgent.Api.Objects
import ClusterAgent.Builds.Names

/-!
# Cluster agent — the objects of a registry

A ClusterRegistry is served by a StatefulSet and a Service of its own name, and by a
ConfigMap, a headless Service and an auth Secret whose names are the registry's with a
suffix, cut to the 63 characters of a label. A registry is cluster-scoped, so these
objects of all registries lie in one namespace. The Secret holds one htpasswd line.

* `truncateK8sName_suffix` — what the cut leaves of a suffix;
* `registries_apart_iff` — which two registries keep their objects apart;
* `htpasswd_entry_matches_iff` — which line matches the credentials it was built from.
-/

namespace ClusterAgent.Registry

/-! ## Names -/

/-- `strings.TrimRight(s, "-")`. -/
def trimRightDashes (cs : List Char) : List Char := (cs.reverse.dropWhile (· == '-')).reverse

def truncateK8sName (name : String) : String :=
  if name.length ≤ 63 then name else String.ofList (trimRightDashes (name.toList.take 63))

def registryConfigMapName (c : ClusterRegistry) : String := truncateK8sName (c.name ++ "-config")

def registryHeadlessServiceName (c : ClusterRegistry) : String :=
  truncateK8sName (c.name ++ "-headless")

def registryAuthSecretName (c : ClusterRegistry) : String := truncateK8sName (c.name ++ "-auth")

/-- A name a StatefulSet and a Service can have. -/
def ValidName (name : String) : Prop := name.length ≤ 63 ∧ isDNS1123Label name.toList = true

instance (name : String) : Decidable (ValidName name) := inferInstanceAs (Decidable (_ ∧ _))

/-- What follows the dash of a suffix. -/
def Word (u : List Char) : Prop := u ≠ [] ∧ u.all isDNSLabelChar = true

instance (u : List Char) : Decidable (Word u) := inferInstanceAs (Decidable (_ ∧ _))

/-- What the cut leaves of a suffix: its dash never ends the name. -/
def cutSuffix (n u : List Char) : List Char :=
  if n.length ≤ 61 then '-' :: u.take (62 - n.length) else []

theorem not_dash {c : Char} (hc : isDNSLabelChar c = true) : c ≠ '-' := by
  rintro rfl
  cases hc

theorem trimRightDashes_of_last {n : List Char} {c : Char} (hLast : n.getLast? = some c)
    (hc : isDNSLabelChar c = true) (k : Nat) :
    trimRightDashes (n ++ List.replicate k '-') = n := by
  obtain ⟨front, rfl⟩ := List.getLast?_eq_some_iff.mp hLast
  simp [trimRightDashes, not_dash hc]

theorem isDNS1123Label_iff {cs : List Char} : isDNS1123Label cs = true ↔
    (∀ c ∈ cs, isDNSLabelChar c = true ∨ c = '-') ∧
      (∃ c, cs.head? = some c ∧ isDNSLabelChar c = true) ∧
      ∃ c, cs.getLast? = some c ∧ isDNSLabelChar c = true := by
  unfold isDNS1123Label
  cases hHead : cs.head? <;> cases hLast : cs.getLast? <;> simp [and_assoc]

section

variable {n m u : List Char}

theorem Word.char (hWord : Word u) {c : Char} (hc : c ∈ u) : isDNSLabelChar c = true :=
  List.all_eq_true.mp hWord.2 c hc

theorem word_take (hWord : Word u) {k : Nat} (hk : 0 < k) : Word (u.take k) :=
  ⟨by simpa [hWord.1] using hk.ne',
    List.all_eq_true.mpr fun _ hc => hWord.char (List.mem_of_mem_take hc)⟩

theorem last_of_word (hWord : Word u) :
    ∃ c, (n ++ '-' :: u).getLast? = some c ∧ isDNSLabelChar c = true := by
  refine ⟨u.getLast hWord.1, ?_, hWord.char (List.getLast_mem hWord.1)⟩
  simp [List.getLast?_append, List.getLast?_cons, List.getLast?_eq_some_getLast hWord.1]

theorem isDNS1123Label_append (hLabel : isDNS1123Label n = true) (hWord : Word u) :
    isDNS1123Label (n ++ '-' :: u) = true := by
  obtain ⟨hChars, ⟨c, hHead, hc⟩, -⟩ := isDNS1123Label_iff.mp hLabel
  refine isDNS1123Label_iff.mpr ⟨fun d hd => ?_, ⟨c, by simp [hHead], hc⟩, last_of_word hWord⟩
  rcases List.mem_append.mp hd with hd | hd
  · exact hChars d hd
  · rcases List.mem_cons.mp hd with rfl | hd
    · exact .inr rfl
    · exact .inl (hWord.char hd)

/-- A word has no dash, so the last dash tells where the name ends. -/
theorem name_of_append_word {v : List Char} (hu : Word u) (hv : Word v)
    (hSame : n ++ '-' :: u = m ++ '-' :: v) : n = m := by
  have hApart : ∀ {w a b : List Char}, Word a → '-' :: a = w ++ '-' :: b → w = [] := by
    intro w a b ha hEq
    cases w with
    | nil => rfl
    | cons c w =>
      rw [List.cons_append, List.cons.injEq] at hEq
      exact absurd rfl (not_dash (ha.char (by simp [hEq.2])))
  rcases List.append_eq_append_iff.mp hSame with ⟨w, rfl, hEq⟩ | ⟨w, rfl, hEq⟩
  · simp [hApart hu hEq]
  · simp [hApart hv hEq]

end

section

variable {name full : String} {u : List Char}

theorem truncateK8sName_suffix (hName : ValidName name) (hWord : Word u)
    (hFull : full.toList = name.toList ++ '-' :: u) :
    (truncateK8sName full).toList = name.toList ++ cutSuffix name.toList u := by
  obtain ⟨hLength, hLabel⟩ := hName
  obtain ⟨-, -, c, hLast, hc⟩ := isDNS1123Label_iff.mp hLabel
  rw [← String.length_toList] at hLength
  have hPos : 0 < u.length := List.length_pos_of_ne_nil hWord.1
  unfold truncateK8sName cutSuffix
  rw [← String.length_toList, hFull, List.length_append, List.length_cons]
  by_cases hFits : name.toList.length + (u.length + 1) ≤ 63
  · rw [if_pos hFits, if_pos (by omega), hFull, List.take_of_length_le (by omega)]
  rw [if_neg hFits, String.toList_ofList, List.take_append, List.take_of_length_le hLength]
  by_cases hShort : name.toList.length ≤ 61
  · -- at least one character of the word is left, and ends the name
    have hCut : Word (u.take (62 - name.toList.length)) := word_take hWord (by omega)
    obtain ⟨d, hLast, hd⟩ := last_of_word (n := name.toList) hCut
    rw [if_pos hShort, show 63 - name.toList.length = 62 - name.toList.length + 1 by omega,
      List.take_succ_cons]
    simpa using trimRightDashes_of_last hLast hd 0
  · -- of the suffix at most the dash fits, and it is trimmed
    rw [if_neg hShort, List.append_nil]
    obtain h | h : name.toList.length = 62 ∨ name.toList.length = 63 := by omega
    · rw [h]
      exact trimRightDashes_of_last hLast hc 1
    · rw [h, Nat.sub_self, List.take_zero]
      exact trimRightDashes_of_last hLast hc 0

theorem truncateK8sName_valid (hName : ValidName name) (hWord : Word u)
    (hFull : full.toList = name.toList ++ '-' :: u) : ValidName (truncateK8sName full) := by
  have hLength := hName.1
  rw [← String.length_toList] at hLength
  rw [ValidName, ← String.length_toList, truncateK8sName_suffix hName hWord hFull]
  unfold cutSuffix
  split
  · refine ⟨?_, isDNS1123Label_append hName.2 (word_take hWord (by omega))⟩
    rw [List.length_append, List.length_cons, List.length_take]
    omega
  · rw [List.append_nil]
    exact ⟨hLength, hName.2⟩

/-- Short enough names can be read back from what was derived from them. -/
theorem truncateK8sName_inj {name' full' : String} (hName : ValidName name)
    (hName' : ValidName name') (hShort : name.length ≤ 61) (hShort' : name'.length ≤ 61)
    (hWord : Word u) (hFull : full.toList = name.toList ++ '-' :: u)
    (hFull' : full'.toList = name'.toList ++ '-' :: u)
    (hSame : truncateK8sName full = truncateK8sName full') : name = name' := by
  rw [← String.length_toList] at hShort hShort'
  have hLists := congrArg String.toList hSame
  rw [truncateK8sName_suffix hName hWord hFull, truncateK8sName_suffix hName' hWord hFull',
    cutSuffix, if_pos hShort, cutSuffix, if_pos hShort'] at hLists
  exact String.toList_inj.mp
    (name_of_append_word (word_take hWord (by omega)) (word_take hWord (by omega)) hLists)

end

/-! ## Two registries -/

/-- The derived names are names, none is that of a Service that is there already, and
none is shared. -/
structure Apart (c d : ClusterRegistry) : Prop where
  valid : ∀ r ∈ [c, d], ValidName (registryConfigMapName r) ∧
    ValidName (registryHeadlessServiceName r) ∧ ValidName (registryAuthSecretName r)
  own : registryHeadlessServiceName c ≠ c.name ∧ registryHeadlessServiceName d ≠ d.name
  services : registryHeadlessServiceName c ≠ d.name ∧ registryHeadlessServiceName d ≠ c.name
  configMaps : registryConfigMapName c ≠ registryConfigMapName d
  headless : registryHeadlessServiceName c ≠ registryHeadlessServiceName d
  secrets : registryAuthSecretName c ≠ registryAuthSecretName d

/-- `d` is called as `c` is, with `-headless` after it as far as 63 characters go. -/
def NamedHeadless (c d : ClusterRegistry) : Prop :=
  d.name.toList = (c.name ++ "-headless").toList.take 63

instance (c d : ClusterRegistry) : Decidable (NamedHeadless c d) :=
  inferInstanceAs (Decidable (_ = _))

theorem toList_headless {c : ClusterRegistry} (hc : ValidName c.name) :
    (registryHeadlessServiceName c).toList =
      c.name.toList ++ cutSuffix c.name.toList "headless".toList :=
  truncateK8sName_suffix hc (by decide) (String.toList_append ..)

theorem headless_eq_iff {c d : ClusterRegistry} (hc : ValidName c.name)
    (hShort : c.name.length ≤ 61) : registryHeadlessServiceName c = d.name ↔ NamedHeadless c d := by
  rw [← String.length_toList] at hShort
  have hTake : (c.name ++ "-headless").toList.take 63 =
      c.name.toList ++ cutSuffix c.name.toList "headless".toList := by
    rw [String.toList_append, List.take_append, List.take_of_length_le (by omega), cutSuffix,
      if_pos hShort, show 63 - c.name.toList.length = 62 - c.name.toList.length + 1 by omega]
    rfl
  rw [NamedHeadless, hTake, ← toList_headless hc, String.toList_inj]
  exact eq_comm

theorem headless_ne_own_iff {c : ClusterRegistry} (hc : ValidName c.name) :
    registryHeadlessServiceName c ≠ c.name ↔ c.name.length ≤ 61 := by
  rw [ne_eq, ← String.toList_inj, toList_headless hc, List.append_right_eq_self, cutSuffix,
    ← String.length_toList]
  split <;> simp [*]

/-- **Which registries are kept apart.** Two registries keep their objects apart exactly when
neither name is longer than 61 characters, so that something of the suffix is left, and neither is
the other's name with the suffix of its headless Service. -/
theorem registries_apart_iff (c d : ClusterRegistry) (hcName : ValidName c.name)
    (hdName : ValidName d.name) (hNe : c.name ≠ d.name) :
    Apart c d ↔ c.name.length ≤ 61 ∧ d.name.length ≤ 61 ∧
      ¬ NamedHeadless c d ∧ ¬ NamedHeadless d c := by
  constructor
  · rintro ⟨-, ⟨hc, hd⟩, ⟨hcd, hdc⟩, -⟩
    have hc61 := (headless_ne_own_iff hcName).mp hc
    have hd61 := (headless_ne_own_iff hdName).mp hd
    rw [ne_eq, headless_eq_iff hcName hc61] at hcd
    rw [ne_eq, headless_eq_iff hdName hd61] at hdc
    exact ⟨hc61, hd61, hcd, hdc⟩
  rintro ⟨hc61, hd61, hcd, hdc⟩
  have hValid : ∀ r ∈ [c, d], ValidName r.name := by simp [hcName, hdName]
  rw [← headless_eq_iff hcName hc61] at hcd
  rw [← headless_eq_iff hdName hd61] at hdc
  have hOwn := And.intro ((headless_ne_own_iff hcName).mpr hc61)
    ((headless_ne_own_iff hdName).mpr hd61)
  refine ⟨fun r hr => ?_, hOwn, ⟨hcd, hdc⟩, fun hSame => hNe ?_, fun hSame => hNe ?_,
    fun hSame => hNe ?_⟩
  · exact ⟨truncateK8sName_valid (hValid r hr) (by decide) (String.toList_append ..),
      truncateK8sName_valid (hValid r hr) (by decide) (String.toList_append ..),
      truncateK8sName_valid (hValid r hr) (by decide) (String.toList_append ..)⟩
  all_goals
    exact truncateK8sName_inj hcName hdName hc61 hd61 (by decide) (String.toList_append ..)
      (String.toList_append ..) hSame

private def registryNamed (name : String) : ClusterRegistry :=
  { metadata := { name := name }, spec := {}, status := {} }

theorem images_and_cache_apart : Apart (registryNamed "images") (registryNamed "cache") :=
  (registries_apart_iff _ _ (by decide) (by decide) (by decide)).mpr (by decide)

/-- The registry `images-headless` serves under the name of the headless Service of the
registry `images`. -/
theorem headless_of_images_taken :
    ValidName "images" ∧ ValidName "images-headless" ∧
      ¬ Apart (registryNamed "images") (registryNamed "images-headless") :=
  ⟨by decide, by decide, fun h => absurd h.services.1 (by decide)⟩

/-! ## The htpasswd line -/

/-- What the bcrypt library provides: the hash of a password, which differs from salt to
salt, is accepted for exactly that password. -/
structure Bcrypt where
  generateFromPassword : (salt password : String) → Except String String
  compareHashAndPassword : (hash password : String) → Bool
  accepts : ∀ salt password hash, generateFromPassword salt password = .ok hash →
    ∀ password', compareHashAndPassword hash password' = true ↔ password' = password

def htpasswordKey : String := "htpasswd"

def buildHTPasswordSecret (bcrypt : Bcrypt) (ns salt : String) (registry : ClusterRegistry)
    (username password : String) : Except String (Secret × String) :=
  if registry.spec.credentialsRef.isNone then .error "htpasswd credentials not provided"
  else
    match bcrypt.generateFromPassword salt password with
    | .error err => .error ("failed to generate bcrypt hash for htpasswd: " ++ err)
    | .ok htpasswdHash =>
      .ok ({ metadata := { name := registryAuthSecretName registry, ns := ns }
             spec := { data := [(htpasswordKey, username ++ ":" ++ htpasswdHash)] }
             status := () }, htpasswordKey)

/-- `strings.SplitN(storedEntry, ":", 2)` cuts at the first colon. -/
def htpasswdCredentialsMatch (bcrypt : Bcrypt) (storedEntry username password : String) : Bool :=
  match storedEntry.toList.dropWhile (· ≠ ':') with
  | [] => false
  | _ :: hash =>
    if String.ofList (storedEntry.toList.takeWhile (· ≠ ':')) ≠ username then false
    else bcrypt.compareHashAndPassword (String.ofList hash) password

def updateHtPasswordSecret (bcrypt : Bcrypt) (existing desired : Secret)
    (secretKey username password : String) : Option Secret :=
  if htpasswdCredentialsMatch bcrypt (existing.spec.data.get secretKey) username password then none
  else some { existing with spec := { existing.spec with data := desired.spec.data } }

theorem htpasswdCredentialsMatch_cut (bcrypt : Bcrypt) {entry username password : String}
    {user hash : List Char} (hEntry : entry.toList = user ++ ':' :: hash) (hUser : ':' ∉ user) :
    htpasswdCredentialsMatch bcrypt entry username password =
      (String.ofList user == username &&
        bcrypt.compareHashAndPassword (String.ofList hash) password) := by
  have hKeep : ∀ c ∈ user, decide (c ≠ ':') = true := by
    intro c hc
    exact decide_eq_true fun h => hUser (h ▸ hc)
  unfold htpasswdCredentialsMatch
  rw [hEntry, List.takeWhile_append_of_pos hKeep, List.dropWhile_append_of_pos hKeep]
  by_cases hName : String.ofList user = username <;> simp [hName]

theorem htpasswdCredentialsMatch_entry (bcrypt : Bcrypt) (username password hash : String) :
    htpasswdCredentialsMatch bcrypt (username ++ ":" ++ hash) username password = true ↔
      ':' ∉ username.toList ∧ bcrypt.compareHashAndPassword hash password = true := by
  have hEntry : (username ++ ":" ++ hash).toList = username.toList ++ ':' :: hash.toList := by simp
  by_cases hColon : ':' ∈ username.toList
  · -- the part before the first colon is shorter than the username
    obtain ⟨user, rest, hUsername, hUser⟩ := List.eq_append_cons_of_mem hColon
    have hNe : String.ofList user ≠ username := by
      intro h
      simp [← h] at hUsername
    rw [hUsername, List.append_assoc, List.cons_append] at hEntry
    simp [htpasswdCredentialsMatch_cut bcrypt hEntry hUser, hNe, hColon]
  · simp [htpasswdCredentialsMatch_cut bcrypt hEntry hColon, hColon]

/-- The line built for some credentials is found to match them, and is not written again,
exactly when the username has no colon. -/
theorem htpasswd_entry_matches_iff (bcrypt : Bcrypt) (ns salt key : String) (secret : Secret)
    (registry : ClusterRegistry) (username password : String)
    (hBuilt : buildHTPasswordSecret bcrypt ns salt registry username password = .ok (secret, key)) :
    (htpasswdCredentialsMatch bcrypt (secret.spec.data.get key) username password = true ∧
      ∀ desired, updateHtPasswordSecret bcrypt secret desired key username password = none) ↔
      ':' ∉ username.toList := by
  have hMatch : htpasswdCredentialsMatch bcrypt (secret.spec.data.get key) username password ↔
      ':' ∉ username.toList := by
    unfold buildHTPasswordSecret at hBuilt
    split at hBuilt
    · cases hBuilt
    split at hBuilt
    · cases hBuilt
    next hash hHash =>
      cases hBuilt
      have hAccepts := (bcrypt.accepts salt password hash hHash password).mpr rfl
      simp [StringMap.get, StringMap.get?, htpasswdCredentialsMatch_entry, hAccepts]
  constructor
  · intro h
    exact hMatch.mp h.1
  · intro h
    exact ⟨hMatch.mpr h, fun desired => if_pos (hMatch.mpr h)⟩

private def plainBcrypt : Bcrypt :=
  { generateFromPassword := fun _ password => .ok password
    compareHashAndPassword := fun hash password => password == hash
    accepts := by simp }

private def lockedRegistry : ClusterRegistry :=
  { metadata := { name := "images" }
    spec := { credentialsRef := some ⟨{ name := "logins" }, "user", "password"⟩ }
    status := {} }

private def lineOf (username : String) : Secret :=
  { metadata := { name := "images-auth", ns := "stackdome" }
    spec := { data := [("htpasswd", username ++ ":secret")] }, status := () }

theorem line_of_ops_kept :
    htpasswdCredentialsMatch plainBcrypt ((lineOf "ops").spec.data.get htpasswordKey)
      "ops" "secret" = true :=
  ((htpasswd_entry_matches_iff plainBcrypt "stackdome" "" htpasswordKey (lineOf "ops")
    lockedRegistry "ops" "secret" rfl).mpr (by decide)).1

/-- The line of a username with a colon is written again on every pass: it is cut at the first
colon when it is read back. -/
theorem line_with_colon_rewritten :
    buildHTPasswordSecret plainBcrypt "stackdome" "" lockedRegistry "team:ops" "secret" =
        .ok (lineOf "team:ops", htpasswordKey) ∧
      htpasswdCredentialsMatch plainBcrypt ((lineOf "team:ops").spec.data.get htpasswordKey)
        "team:ops" "secret" = false ∧
      updateHtPasswordSecret plainBcrypt (lineOf "team:ops") (lineOf "team:ops") htpasswordKey
        "team:ops" "secret" = some (lineOf "team:ops") :=
  ⟨rfl, by decide, by decide⟩

end ClusterAgent.Registry
