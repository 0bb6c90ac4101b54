import ClusterAgent.Builds.Kaniko
import ClusterAgent.Lib.Globstar

/-!
# Cluster agent — retention in the image registry

The agent runs Zot registries and writes their configuration. Two retention policies
are generated: layer caches keep a bounded number of tags, every other repository
keeps all of its tags. Zot applies the first policy with a glob that matches the
repository.

* `appliesTo` — Zot's side: the segments of the globs the agent writes are literals or `**`;
* `governed_apart_iff` — the images of a repository and its layer cache are kept apart
  unless the repository has a segment of its own that is named `cache`.
-/

namespace ClusterAgent.Registry

open Globstar

/-! ## The generated policies -/

structure KeepTagRule where
  mostRecentlyPushedCount : Option Int := none
  pulledWithin : String := ""
  deriving DecidableEq, Repr

structure RetentionPolicy where
  repositories : List String
  deleteUntagged : Bool
  deleteReferrers : Bool
  /-- No rule keeps every tag. -/
  keepTags : List KeepTagRule := []
  deriving DecidableEq, Repr

structure RetentionConfig where
  delay : String
  policies : List RetentionPolicy
  deriving DecidableEq, Repr

structure LayerCachingOpts where
  enabled : Bool
  repoGlobPatterns : List String
  tagsToKeep : Int
  pulledWithin : String

structure ZotRegistry where
  gcDelay : String
  layerCachingOpts : LayerCachingOpts

def defaultCacheTagsToKeep : Int := 10

def defaultCachePulledWithin : String := "168h"

def cachePolicy (opts : LayerCachingOpts) : RetentionPolicy where
  repositories := opts.repoGlobPatterns
  deleteUntagged := true
  deleteReferrers := true
  keepTags :=
    [{ mostRecentlyPushedCount :=
         some (if opts.tagsToKeep ≤ 0 then defaultCacheTagsToKeep else opts.tagsToKeep)
       pulledWithin :=
         if opts.pulledWithin = "" then defaultCachePulledWithin else opts.pulledWithin }]

def catchAllPolicy : RetentionPolicy where
  repositories := ["**"]
  deleteUntagged := true
  deleteReferrers := true

def buildRetentionConfig (z : ZotRegistry) : RetentionConfig where
  delay := z.gcDelay
  policies :=
    (if z.layerCachingOpts.enabled then [cachePolicy z.layerCachingOpts] else []) ++
      [catchAllPolicy]

def managerRegistry : ZotRegistry where
  gcDelay := "1h"
  layerCachingOpts :=
    { enabled := true
      repoGlobPatterns := ["**/cache", "**/cache/**"]
      tagsToKeep := 10
      pulledWithin := "168h" }

/-! ## Zot -/

def segmentsOf (path : String) : List (List Char) := splitSlash path.toList

def globOf (pattern : String) : List (Segment (List Char)) :=
  (segmentsOf pattern).map fun part => if part = ['*', '*'] then .star else .literal part

def RetentionPolicy.appliesTo (policy : RetentionPolicy) (repository : String) : Bool :=
  policy.repositories.any fun pattern => matchesGlob (globOf pattern) (segmentsOf repository)

def RetentionConfig.governing (config : RetentionConfig) (repository : String) :
    Option RetentionPolicy :=
  config.policies.find? (·.appliesTo repository)

/-! ## The repositories of a build -/

def isLowerAlphaNum (c : Char) : Bool := c.isLower || c.isDigit

/-- The CRD's pattern: `[a-z0-9]` at both ends, and also `.`, `_`, `/` and `-` between. -/
def validRepository (repository : String) : Bool :=
  let inner c := isLowerAlphaNum c || c == '.' || c == '_' || c == '/' || c == '-'
  match repository.toList with
  | [] => false
  | [c] => isLowerAlphaNum c
  | first :: second :: rest =>
    isLowerAlphaNum first && (first :: second :: rest).all inner &&
      isLowerAlphaNum ((second :: rest).getLast (List.cons_ne_nil _ _))

/-- The repository the layers of a build are cached in: Kaniko's default for an image
that is pushed to `repository`. -/
def cacheRepository (repository : String) : String := repository ++ "/cache"

def cacheSegment : List Char := ['c', 'a', 'c', 'h', 'e']

def GovernedApart (config : RetentionConfig) (opts : LayerCachingOpts) (repository : String) :
    Prop :=
  config.governing repository = some catchAllPolicy ∧
    config.governing (cacheRepository repository) = some (cachePolicy opts)

instance (config : RetentionConfig) (opts : LayerCachingOpts) (repository : String) :
    Decidable (GovernedApart config opts repository) :=
  inferInstanceAs (Decidable (_ ∧ _))

/-! ## Which policy governs -/

theorem segmentsOf_cacheRepository (repository : String) :
    segmentsOf (cacheRepository repository) = segmentsOf repository ++ [cacheSegment] := by
  have hChars : (cacheRepository repository).toList =
      repository.toList ++ '/' :: cacheSegment := by
    simp [cacheRepository, cacheSegment]
  rw [segmentsOf, hChars, splitSlash_append]
  rfl

theorem globOf_cacheEnd : globOf "**/cache" = [.star, .literal cacheSegment] := by
  decide +kernel

theorem globOf_cacheWithin :
    globOf "**/cache/**" = [.star, .literal cacheSegment, .star] := by
  decide +kernel

theorem cachePolicy_appliesTo (repository : String) :
    (cachePolicy managerRegistry.layerCachingOpts).appliesTo repository = true ↔
      cacheSegment ∈ segmentsOf repository := by
  simp only [RetentionPolicy.appliesTo, cachePolicy, managerRegistry, List.any_cons,
    List.any_nil, Bool.or_false, Bool.or_eq_true, globOf_cacheEnd, globOf_cacheWithin]
  rw [matchesGlob_ends, matchesGlob_contains]
  constructor
  · intro h
    rcases h with ⟨front, hEnds⟩ | hWithin
    · simp [hEnds]
    · exact hWithin
  · intro h
    exact Or.inr h

theorem catchAllPolicy_appliesTo (repository : String) :
    catchAllPolicy.appliesTo repository = true := by
  have hGlob : globOf "**" = [.star] := by decide +kernel
  simp only [RetentionPolicy.appliesTo, catchAllPolicy, List.any_cons, hGlob,
    matchesGlob_all, Bool.true_or]

theorem governing_manager (repository : String) :
    (buildRetentionConfig managerRegistry).governing repository =
      some (if cacheSegment ∈ segmentsOf repository
        then cachePolicy managerRegistry.layerCachingOpts else catchAllPolicy) := by
  have hCache := cachePolicy_appliesTo repository
  have hPolicies : (buildRetentionConfig managerRegistry).policies =
      [cachePolicy managerRegistry.layerCachingOpts, catchAllPolicy] := rfl
  rw [RetentionConfig.governing, hPolicies, List.find?_cons]
  by_cases hSegment : cacheSegment ∈ segmentsOf repository
  · rw [hCache.mpr hSegment, if_pos hSegment]
  · have hNot : (cachePolicy managerRegistry.layerCachingOpts).appliesTo repository = false :=
      Bool.eq_false_iff.mpr fun h => hSegment (hCache.mp h)
    simp [hNot, if_neg hSegment, catchAllPolicy_appliesTo repository]

/-- **Images and layers are kept apart.** The images of a repository keep all their tags
and its layer cache a bounded number exactly if no segment of the repository's own name
is `cache`: the second glob of the cache policy matches everything below such a segment. -/
theorem governed_apart_iff (repository : String) :
    GovernedApart (buildRetentionConfig managerRegistry) managerRegistry.layerCachingOpts
        repository ↔
      cacheSegment ∉ segmentsOf repository := by
  have hApart : catchAllPolicy ≠ cachePolicy managerRegistry.layerCachingOpts := by decide
  have hCache : cacheSegment ∈ segmentsOf (cacheRepository repository) := by
    simp [segmentsOf_cacheRepository]
  rw [GovernedApart, governing_manager, governing_manager, if_pos hCache]
  constructor
  · intro ⟨hImages, _⟩ hSegment
    rw [if_pos hSegment, Option.some.injEq] at hImages
    exact hApart hImages.symm
  · intro hSegment
    rw [if_neg hSegment]
    exact ⟨rfl, rfl⟩

/-- A repository for the service that is itself called `cache`. Only its last ten tags
are kept, so an image that a rolled-back resource still runs is deleted. -/
theorem service_named_cache :
    ¬ ∀ repository, validRepository repository = true →
      GovernedApart (buildRetentionConfig managerRegistry) managerRegistry.layerCachingOpts
        repository := by
  intro h
  have hShop := h "shop/cache" (by decide +kernel)
  revert hShop
  decide +kernel

end ClusterAgent.Registry
