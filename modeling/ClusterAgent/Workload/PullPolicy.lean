import ClusterAgent.Workload.PodTemplate

/-!
# Cluster agent — the pull policy of an image

Without an explicit policy, an image whose reference has no tag or the tag `latest` is to be
pulled always, and any other only if it is not present. The code takes what follows the last
colon of the reference for the tag. A digest has a colon too, and so has a port.

* `ImageReference` — a reference by its parts, as the distribution grammar has them;
* `ImageReference.moving` — the references without a fixed version.

Main result: `pull_policy_follows_tag_iff`.
-/

namespace ClusterAgent.Workload

/-! ## References -/

/-- The digest of an image is written in hexadecimal digits. -/
structure ImageDigest where
  algorithm : String
  hex : String
  hex_digits : ∀ c ∈ hex.toList, c ∈ "0123456789abcdefABCDEF".toList

/-- A reference by its parts. The host is written with its port, if it has one; in the other parts
a colon stands only before a tag and before the digits of a digest. -/
structure ImageReference where
  host : Option String := none
  path : String
  tag : Option String := none
  digest : Option ImageDigest := none
  path_plain : ':' ∉ path.toList
  tag_plain : ∀ t ∈ tag, ':' ∉ t.toList

def ImageDigest.text (digest : ImageDigest) : String :=
  "@" ++ digest.algorithm ++ ":" ++ digest.hex

def ImageReference.text (r : ImageReference) : String :=
  (r.host.map (· ++ "/")).getD "" ++ r.path ++ (r.tag.map (":" ++ ·)).getD "" ++
    (r.digest.map ImageDigest.text).getD ""

/-- The host has a colon: it names a port, or it is an IPv6 address. -/
def ImageReference.colonInHost (r : ImageReference) : Bool :=
  r.host.any fun host => decide (':' ∈ host.toList)

/-- The reference has neither tag nor digest, or the tag `latest` and no digest: what it names may
be another image tomorrow. -/
def ImageReference.moving (r : ImageReference) : Bool :=
  r.digest.isNone && (r.tag.isNone || decide (r.tag = some "latest"))

/-! ## The last colon -/

theorem afterLastColon_append (l r : List Char) :
    afterLastColon (l ++ r) = (afterLastColon r).or ((afterLastColon l).map (· ++ r)) := by
  induction l with
  | nil => simp [afterLastColon]
  | cons c cs ih =>
    rw [List.cons_append, afterLastColon, afterLastColon, ih]
    cases afterLastColon r with
    | some tag => rfl
    | none =>
      cases afterLastColon cs with
      | some tag => rfl
      | none => by_cases hc : c = ':' <;> simp [hc]

@[simp]
theorem afterLastColon_eq_none_iff {l : List Char} : afterLastColon l = none ↔ ':' ∉ l := by
  induction l with
  | nil => simp [afterLastColon]
  | cons c cs ih =>
    rw [afterLastColon, List.mem_cons, not_or, ← ih]
    cases afterLastColon cs with
    | some tag => simp
    | none => simp [eq_comm]

theorem afterLastColon_colon {rest : String} (h : ':' ∉ rest.toList) (front : String) :
    afterLastColon (front ++ ":" ++ rest).toList = some rest.toList := by
  have hRest : afterLastColon (':' :: rest.toList) = some rest.toList := by
    rw [afterLastColon, afterLastColon_eq_none_iff.mpr h, if_pos rfl]
  have hText : (front ++ ":" ++ rest).toList = front.toList ++ ':' :: rest.toList := by simp
  rw [hText, afterLastColon_append, hRest, Option.some_or]

/-- Without an explicit policy the text after the last colon decides. -/
theorem resolveImagePullPolicy_eq {resource : StackResource} {image : String}
    (hDefault : (resource.spec.imageSpec.map ImageSpec.imagePullPolicy).getD "" = "") :
    resolveImagePullPolicy resource image =
      if ∀ tag ∈ afterLastColon image.toList, String.ofList tag = "latest" then "Always"
      else "IfNotPresent" := by
  unfold resolveImagePullPolicy
  dsimp only
  rw [hDefault, if_neg (not_not.mpr rfl)]
  cases afterLastColon image.toList <;> simp

/-! ## The policy -/

variable (r : ImageReference)

theorem not_hex_latest (d : ImageDigest) : d.hex ≠ "latest" := by
  intro h
  have hMem : 'l' ∈ d.hex.toList := by rw [h]; decide
  exact absurd (d.hex_digits 'l' hMem) (by decide)

theorem ImageReference.afterLastColon_digest {d : ImageDigest} (h : r.digest = some d) :
    afterLastColon r.text.toList = some d.hex.toList := by
  have hHex : ':' ∉ d.hex.toList := fun hMem => absurd (d.hex_digits _ hMem) (by decide)
  rw [text, h, Option.map_some, Option.getD_some, ImageDigest.text, ← String.append_assoc,
    ← String.append_assoc]
  exact afterLastColon_colon hHex _

theorem ImageReference.afterLastColon_tag {t : String} (hDigest : r.digest = none)
    (h : r.tag = some t) : afterLastColon r.text.toList = some t.toList := by
  rw [text, h, hDigest, Option.map_some, Option.getD_some, Option.map_none, Option.getD_none,
    String.append_empty, ← String.append_assoc]
  exact afterLastColon_colon (r.tag_plain t h) _

/-- With neither tag nor digest, what follows the last colon is the end of the host with the
path. -/
theorem ImageReference.afterLastColon_untagged (hDigest : r.digest = none) (hTag : r.tag = none) :
    afterLastColon r.text.toList =
      (r.host.bind fun host => afterLastColon host.toList).map (· ++ '/' :: r.path.toList) := by
  rw [text, hTag, hDigest, Option.map_none, Option.map_none, Option.getD_none,
    String.append_empty, String.append_empty]
  cases hHost : r.host with
  | none => simpa using r.path_plain
  | some host =>
    have hPath : afterLastColon ('/' :: r.path.toList) = none := by simp [r.path_plain]
    have hText : (host ++ "/" ++ r.path).toList = host.toList ++ '/' :: r.path.toList := by simp
    rw [Option.map_some, Option.getD_some, hText, afterLastColon_append, hPath, Option.none_or,
      Option.bind_some]

/-- **When the policy goes by the tag.** Without an explicit policy, exactly the references
without a fixed version are pulled always, unless one has neither tag nor digest and a colon in its
host: then the port is taken for a tag, and the image that is present stays in use. -/
theorem pull_policy_follows_tag_iff (resource : StackResource)
    (hDefault : (resource.spec.imageSpec.map ImageSpec.imagePullPolicy).getD "" = "") :
    resolveImagePullPolicy resource r.text = (if r.moving then "Always" else "IfNotPresent") ↔
      ¬ (r.colonInHost = true ∧ r.tag = none ∧ r.digest = none) := by
  rw [resolveImagePullPolicy_eq hDefault]
  cases hDigest : r.digest with
  | some d =>
    -- the digits of a digest are not `latest`
    rw [r.afterLastColon_digest hDigest]
    simp [ImageReference.moving, hDigest, not_hex_latest d]
  | none =>
    cases hTag : r.tag with
    | some t =>
      rw [r.afterLastColon_tag hDigest hTag]
      simp [ImageReference.moving, hDigest, hTag]
    | none =>
      rw [r.afterLastColon_untagged hDigest hTag]
      simp only [ImageReference.moving, ImageReference.colonInHost, hDigest, hTag]
      cases r.host with
      | none => simp
      | some host =>
        rw [Option.bind_some, Option.any_some]
        cases hColon : afterLastColon host.toList with
        | none => simp [afterLastColon_eq_none_iff.mp hColon]
        | some tail =>
          have hMem : ':' ∈ host.toList := by
            by_contra hPlain
            rw [afterLastColon_eq_none_iff.mpr hPlain] at hColon
            cases hColon
          -- a slash follows the host, so this is not `latest` either
          have hSlash : String.ofList tail ++ ("/" ++ r.path) ≠ "latest" := by
            intro h
            have hLatest : '/' ∈ "latest".toList := by simp [← h]
            exact absurd hLatest (by decide)
          simp [hMem, hSlash]

def taggedReference : ImageReference where
  host := some "registry:5000"
  path := "shop/api"
  tag := some "latest"
  path_plain := by decide
  tag_plain := by decide

theorem pull_policy_follows_tag_latest :
    resolveImagePullPolicy { metadata := { name := "api" } } "registry:5000/shop/api:latest" =
      "Always" :=
  (pull_policy_follows_tag_iff taggedReference { metadata := { name := "api" } } rfl).mpr nofun

/-- The same reference without its tag is pulled only if it is not present: the text after the
colon of the port is not `latest`. -/
theorem port_taken_for_tag :
    let r : ImageReference := { taggedReference with tag := none, tag_plain := nofun }
    r.text = "registry:5000/shop/api" ∧ r.moving = true ∧
      resolveImagePullPolicy { metadata := { name := "api" } } r.text = "IfNotPresent" :=
  ⟨rfl, rfl, rfl⟩

end ClusterAgent.Workload
