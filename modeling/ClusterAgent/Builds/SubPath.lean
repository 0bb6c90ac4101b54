import ClusterAgent.Builds.Kaniko

/-!
# Cluster agent — the Dockerfile within a sub path

A git build gives Kaniko the sub path of its context and the path of its Dockerfile. The spec has
both as paths of the repository, and Kaniko looks for the Dockerfile under the sub path, so a path
that leads into the sub path is re-based onto it. Whether it does is tested on the text of the
relative path: one that starts with two dots is taken to lead out.

* `cleanRelative` — `filepath.Clean` of a relative path, which keeps what leads out of it;
* `pathElements_append` — the elements of two paths put together;
* `dockerfile_rebased_iff` — which paths within the sub path are re-based.
-/

namespace ClusterAgent

/-! ## Clean paths -/

/-- An element of a clean path. -/
structure Plain (part : List Char) : Prop where
  nonempty : part ≠ []
  dot : part ≠ ['.']
  dots : part ≠ ['.', '.']
  slash : '/' ∉ part

section

variable {acc parts : List (List Char)}

theorem cleanRooted_append (acc parts rest : List (List Char)) :
    cleanRooted acc (parts ++ rest) = cleanRooted (cleanRooted acc parts).reverse rest := by
  induction parts generalizing acc with
  | nil => rw [List.nil_append, cleanRooted, List.reverse_reverse]
  | cons part parts ih =>
    rw [List.cons_append, cleanRooted, cleanRooted]
    split
    · exact ih acc
    split
    · exact ih acc.tail
    · exact ih (part :: acc)

theorem cleanRooted_plain (hParts : ∀ part ∈ parts, Plain part) :
    cleanRooted acc parts = acc.reverse ++ parts := by
  induction parts generalizing acc with
  | nil => rw [cleanRooted, List.append_nil]
  | cons part parts ih =>
    obtain ⟨hPart, hRest⟩ := List.forall_mem_cons.mp hParts
    rw [cleanRooted, if_neg (not_or.mpr ⟨hPart.nonempty, hPart.dot⟩), if_neg hPart.dots, ih hRest]
    simp

theorem plain_cleanRooted (hAcc : ∀ part ∈ acc, Plain part) (hParts : ∀ part ∈ parts, '/' ∉ part) :
    ∀ part ∈ cleanRooted acc parts, Plain part := by
  induction parts generalizing acc with
  | nil => simpa [cleanRooted] using hAcc
  | cons part parts ih =>
    obtain ⟨hSlash, hRest⟩ := List.forall_mem_cons.mp hParts
    rw [cleanRooted]
    split
    · exact ih hAcc hRest
    split
    · exact ih (fun p hp => hAcc p (List.mem_of_mem_tail hp)) hRest
    · next hDot hDots =>
      obtain ⟨hNonempty, hDot⟩ := not_or.mp hDot
      exact ih (List.forall_mem_cons.mpr ⟨⟨hNonempty, hDot, hDots, hSlash⟩, hAcc⟩) hRest

theorem plain_pathElements (path : String) : ∀ part ∈ pathElements path, Plain part :=
  plain_cleanRooted nofun (slash_notMem_splitSlash path.toList)

/-- The text of a clean relative path; that of no elements is a dot. -/
def relativeText (parts : List (List Char)) : String :=
  if parts = [] then "." else joinSlash parts

theorem splitSlash_joinSlash (hParts : ∀ part ∈ parts, Plain part) (hNe : parts ≠ []) :
    splitSlash (joinSlash parts).toList = parts := by
  rw [joinSlash, String.toList_ofList, splitSlash_eq_splitOn]
  exact List.splitOn_intercalate '/' (fun part hPart => (hParts part hPart).slash) hNe

theorem pathElements_joinSlash (hParts : ∀ part ∈ parts, Plain part) :
    pathElements (joinSlash parts) = parts := by
  by_cases hNe : parts = []
  · rw [hNe]
    decide
  · rw [pathElements, splitSlash_joinSlash hParts hNe, cleanRooted_plain hParts]
    rfl

end

/-- The elements of a path put after another one are cleaned from where that one leads. -/
theorem pathElements_append (path rest : String) :
    pathElements (path ++ "/" ++ rest) =
      cleanRooted (pathElements path).reverse (splitSlash rest.toList) := by
  have hText : (path ++ "/" ++ rest).toList = path.toList ++ '/' :: rest.toList := by simp
  rw [pathElements, hText, splitSlash_append, cleanRooted_append]
  rfl

section

variable {parts : List (List Char)} (hParts : ∀ part ∈ parts, Plain part)
include hParts

theorem cleanRooted_relativeText (acc : List (List Char)) :
    cleanRooted acc (splitSlash (relativeText parts).toList) = acc.reverse ++ parts := by
  unfold relativeText
  split
  · next hNil =>
    -- a dot adds no element
    have hDot : splitSlash ".".toList = [['.']] := by decide
    rw [hNil, hDot, cleanRooted, if_pos (.inr rfl), cleanRooted, List.append_nil]
  · next hNe => rw [splitSlash_joinSlash hParts hNe, cleanRooted_plain hParts]

theorem pathElements_relativeText : pathElements (relativeText parts) = parts :=
  cleanRooted_relativeText hParts []

theorem pathElements_append_relativeText (path : String) :
    pathElements (path ++ "/" ++ relativeText parts) = pathElements path ++ parts := by
  rw [pathElements_append, cleanRooted_relativeText hParts, List.reverse_reverse]

end

/-! ## Relative paths -/

/-- The elements of `filepath.Clean` of a relative path; `acc` holds them in reverse. -/
def cleanRelative : List (List Char) → List (List Char) → List (List Char)
  | acc, [] => acc.reverse
  | acc, part :: rest =>
    if part = [] ∨ part = ['.'] then cleanRelative acc rest
    else if part = ['.', '.'] ∧ acc.head?.any (· ≠ ['.', '.']) then cleanRelative acc.tail rest
    else cleanRelative (part :: acc) rest

def relativeElements (path : String) : List (List Char) := cleanRelative [] (splitSlash path.toList)

/-- `filepath.Join(base, path)`, of a path that does not leave the base. -/
def joinPath (base path : String) : String := joinSlash (pathElements (base ++ "/" ++ path))

/-- A relative path that does not leave the directory it starts in. -/
structure StaysWithin (path : String) : Prop where
  relative : path.toList.head? ≠ some '/'
  within : ['.', '.'] ∉ relativeElements path

theorem dots_mem_cleanRelative {acc : List (List Char)} (hAcc : ['.', '.'] ∈ acc)
    (parts : List (List Char)) : ['.', '.'] ∈ cleanRelative acc parts := by
  induction parts generalizing acc with
  | nil => simpa [cleanRelative] using hAcc
  | cons part parts ih =>
    rw [cleanRelative]
    split
    · exact ih hAcc
    split
    · next hPop =>
      -- only a name is taken back
      cases acc with
      | nil => cases hAcc
      | cons top below =>
        have hTop : ['.', '.'] ≠ top := (of_decide_eq_true hPop.2).symm
        exact ih ((List.mem_cons.mp hAcc).resolve_left hTop)
    · exact ih (List.mem_cons_of_mem _ hAcc)

/-- A path that does not leave its directory is cleaned in the same way from any directory. -/
theorem cleanRooted_of_within {parts acc : List (List Char)} (base : List (List Char))
    (hWithin : ['.', '.'] ∉ cleanRelative acc parts) :
    cleanRooted (acc ++ base) parts = base.reverse ++ cleanRelative acc parts := by
  induction parts generalizing acc with
  | nil => rw [cleanRooted, cleanRelative, List.reverse_append]
  | cons part parts ih =>
    rw [cleanRelative] at hWithin ⊢
    rw [cleanRooted]
    split at hWithin
    · next hSkip =>
      rw [if_pos hSkip, if_pos hSkip]
      exact ih hWithin
    next hSkip =>
    rw [if_neg hSkip, if_neg hSkip]
    split at hWithin
    · next hPop =>
      rw [if_pos hPop.1, if_pos hPop]
      cases acc with
      | nil => cases hPop.2
      | cons top below => exact ih hWithin
    · next hPush =>
      have hName : part ≠ ['.', '.'] := by
        rintro rfl
        exact hWithin (dots_mem_cleanRelative List.mem_cons_self parts)
      rw [if_neg hName, if_neg hPush]
      exact ih hWithin

/-! ## The Dockerfile -/

section

variable {path : String} (h : StaysWithin path)
include h

theorem StaysWithin.pathElements_append (base : String) :
    pathElements (base ++ "/" ++ path) = pathElements base ++ relativeElements path := by
  rw [ClusterAgent.pathElements_append, ← List.nil_append (pathElements base).reverse,
    cleanRooted_of_within _ h.within, List.reverse_reverse]
  rfl

theorem StaysWithin.plain : ∀ part ∈ relativeElements path, Plain part := by
  have hRooted : pathElements path = relativeElements path :=
    cleanRooted_of_within [] h.within
  rw [← hRooted]
  exact plain_pathElements path

theorem StaysWithin.pathElements_joinPath (base : String) :
    pathElements (joinPath base path) = pathElements base ++ relativeElements path := by
  rw [joinPath, pathElements_joinSlash (plain_pathElements _), h.pathElements_append]

end

/-- What is made of a path that leads into the sub path: it is re-based unless it seems to lead
out. -/
theorem dockerfileWithinSubPath_under {subPath path : String} {rel : List (List Char)}
    (hUnder : pathElements path = pathElements subPath ++ rel) :
    dockerfileWithinSubPath subPath path =
      if (rel.headD []).take 2 = ['.', '.'] then path else relativeText rel := by
  unfold dockerfileWithinSubPath relativeText
  dsimp only
  rw [hUnder]
  by_cases hNil : rel = []
  · simp [hNil]
  · simp [hNil]

theorem dockerfileWithinSubPath_outside {subPath path : String}
    (h : ¬ pathElements subPath <+: pathElements path) :
    dockerfileWithinSubPath subPath path = path := by
  have hNe : pathElements subPath ≠ pathElements path := by
    intro hSame
    exact h (hSame ▸ List.prefix_refl _)
  unfold dockerfileWithinSubPath
  dsimp only
  rw [if_neg hNe, if_neg (by rwa [ List.isPrefixOf_iff_prefix])]

/-- A path that lies under a sub path is not what it is within it. -/
theorem joinPath_ne_relativeText {subPath path : String} (hSub : pathElements subPath ≠ [])
    (hWithin : StaysWithin path) :
    joinPath subPath path ≠ relativeText (relativeElements path) := by
  intro hSame
  have hElements := congrArg pathElements hSame
  rw [hWithin.pathElements_joinPath, pathElements_relativeText hWithin.plain] at hElements
  exact hSub (List.append_left_eq_self.mp hElements)

/-- **Which Dockerfiles are re-based.** For a path within the sub path, the result is the cleaned
path and names the same file there, unless its first name starts with two dots: it then is taken
for a path that leads out, and stays as it is. What does not lie under the sub path always does. -/
theorem dockerfile_rebased_iff (contextPath path : String)
    (hSub : gitContextSubPath contextPath ≠ "") (hWithin : StaysWithin path) :
    let subPath := gitContextSubPath contextPath
    let result := dockerfileWithinSubPath subPath (joinPath subPath path)
    (result = relativeText (relativeElements path) ∧
        joinPath subPath result = joinPath subPath path ↔
      ((relativeElements path).headD []).take 2 ≠ ['.', '.']) ∧
    ∀ dockerfilePath, ¬ pathElements subPath <+: pathElements dockerfilePath →
      dockerfileWithinSubPath subPath dockerfilePath = dockerfilePath := by
  intro subPath result
  have hElements : pathElements subPath = pathElements contextPath :=
    pathElements_joinSlash (plain_pathElements contextPath)
  have hNe : pathElements subPath ≠ [] := by
    intro hNil
    refine hSub ?_
    rw [gitContextSubPath, ← hElements, hNil]
    rfl
  have hResult : result = _ := dockerfileWithinSubPath_under (hWithin.pathElements_joinPath subPath)
  refine ⟨⟨?_, ?_⟩, fun _ => dockerfileWithinSubPath_outside⟩
  · rintro ⟨hClean, -⟩ hDots
    rw [hResult, if_pos hDots] at hClean
    exact joinPath_ne_relativeText hNe hWithin hClean
  · intro hDots
    rw [hResult, if_neg hDots]
    refine ⟨rfl, ?_⟩
    rw [joinPath, joinPath, pathElements_append_relativeText hWithin.plain,
      hWithin.pathElements_append]

theorem dockerfile_rebased_below :
    dockerfileWithinSubPath "services/api" "services/api/docker/Dockerfile" = "docker/Dockerfile" :=
  ((dockerfile_rebased_iff "./services/api/" "build/../docker/Dockerfile" (by decide +kernel)
    ⟨by decide, by decide +kernel⟩).1.mpr (by decide +kernel)).1

/-- A file whose own name starts with two dots is not found: Kaniko is given the path of the
repository, and looks for it under the sub path. -/
theorem dotted_name_not_rebased :
    StaysWithin "..docker" ∧ relativeText (relativeElements "..docker") = "..docker" ∧
      joinPath "services/api" "..docker" = "services/api/..docker" ∧
      dockerfileWithinSubPath "services/api" "services/api/..docker" = "services/api/..docker" :=
  ⟨⟨by decide, by decide +kernel⟩, by decide +kernel, by decide +kernel, by decide +kernel⟩

end ClusterAgent
