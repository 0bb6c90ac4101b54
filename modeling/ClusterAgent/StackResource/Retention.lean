import ClusterAgent.ImageBuild.StatusRuns

/-!
# Cluster agent — what the image-build step does to stored builds

The step cancels stale builds, deletes builds beyond the history limit, and sees
to the current build: it is created where there is none, and replaced if it was
cancelled. What a build has achieved it does not touch: statuses are written by
the build's own controller.

* `beyondLimit` — the builds retention is about;
* `Thinned` — everything the step may have done to the builds by any point;
* `thinned_reconcile` — the whole step, whatever its outcome.
-/

namespace ClusterAgent.ImageBuilds

open Pass Effect

/-! ## The builds of a resource -/

def listedBuilds (resource : StackResource) (c : Cluster) : List ImageBuild :=
  c.imageBuilds.filter fun o => decide (o.metadata.ns = resource.metadata.ns) &&
    [("stackdome.io/part-of", resource.name), ("stackdome.io/component", "image-build")].all
      fun e => decide (o.metadata.labels.get? e.1 = some e.2)

/-- The listed builds that are not among the newest ones. -/
def beyondLimit (env : Env) (resource : StackResource) (c : Cluster) : List ImageBuild :=
  if 0 < env.historyLimit then
    (newestFirst (listedBuilds resource c)).drop env.historyLimit.toNat
  else []

/-- No deletion of retention is about a build of this name. -/
def Spared (env : Env) (resource : StackResource) (current : String) (c : Cluster)
    (name : String) : Prop :=
  name = current ∨ ∀ x ∈ beyondLimit env resource c, x.name ≠ name

instance (env : Env) (resource : StackResource) (current : String) (c : Cluster) (name : String) :
    Decidable (Spared env resource current c name) :=
  inferInstanceAs (Decidable (_ ∨ ∀ x ∈ beyondLimit env resource c, _))

/-- What the step may have done to the builds. Statuses stay, and so do terminal specs;
spared successes are left alone, and a success under the current name was there before. -/
structure Thinned (ns current : String) (spared : String → Prop) (c₀ c : Cluster) : Prop where
  unique : Unique .imageBuild c
  stored : ∀ ns' name b, lookup .imageBuild c ns' name = some b →
    (∃ b₀, lookup .imageBuild c₀ ns' name = some b₀ ∧ b.status = b₀.status ∧
      (isImageBuildTerminal b₀ = true → b.spec = b₀.spec)) ∨ b.status = {}
  spared : ∀ name b, lookup .imageBuild c₀ ns name = some b → isImageBuildTerminal b = true →
    b.spec.cancelled = false → spared name → lookup .imageBuild c ns name = some b
  current : ∀ b, lookup .imageBuild c ns current = some b → isImageBuildComplete b = true →
    lookup .imageBuild c₀ ns current = some b

section

variable {ns current : String} {spared : String → Prop} {c₀ c c' : Cluster}

theorem Thinned.refl (h : Unique .imageBuild c₀) : Thinned ns current spared c₀ c₀ where
  unique := h
  stored _ _ b hb := Or.inl ⟨b, hb, rfl, fun _ => rfl⟩
  spared _ _ hb _ _ _ := hb
  current _ hb _ := hb

theorem Thinned.revise {name : String} {g : ImageBuild → Option ImageBuild}
    (h : Thinned ns current spared c₀ c)
    (hGet : c'.imageBuilds = Keyed.revise (hasKey ns name) g c.imageBuilds)
    (hKey : ∀ x y, hasKey ns name x = true → g x = some y → hasKey ns name y = true)
    (hStatus : ∀ x y, lookup .imageBuild c ns name = some x → g x = some y → y.status = x.status)
    (hSpec : ∀ x y b0, g x = some y → lookup .imageBuild c₀ ns name = some b0 →
      isImageBuildTerminal b0 = true → y.spec = x.spec)
    (hNotSpared : ∀ b0, lookup .imageBuild c₀ ns name = some b0 → isImageBuildTerminal b0 = true →
      b0.spec.cancelled = false → ¬ spared name)
    (hCurrent : name = current → ∀ b, lookup .imageBuild c ns current = some b →
      isImageBuildComplete b = false) :
    Thinned ns current spared c₀ c' := by
  have hOwn : lookup .imageBuild c' ns name = (lookup .imageBuild c ns name).bind g :=
    lookup_revise h.unique hGet hKey
  have hOther : ∀ {ns' name'}, ¬ (ns' = ns ∧ name' = name) →
      lookup .imageBuild c' ns' name' = lookup .imageBuild c ns' name' :=
    fun hNot => lookup_revise_other hNot hGet hKey
  refine ⟨h.unique.revise hGet hKey, fun ns' name' b hb => ?_, fun name' b hb ht hu hs => ?_,
    fun b hb hDone => ?_⟩
  -- what is stored: the build under the key came from one with its status
  · by_cases hSame : ns' = ns ∧ name' = name
    · obtain ⟨rfl, rfl⟩ := hSame
      rw [hOwn] at hb
      obtain ⟨x, hx, hxb⟩ := Option.bind_eq_some_iff.mp hb
      have hSame : b.status = x.status := hStatus x b hx hxb
      rcases h.stored ns' name' x hx with ⟨b0, hb0, hSameStatus, hSameSpec⟩ | hNew
      · refine Or.inl ⟨b0, hb0, hSame.trans hSameStatus, fun ht => ?_⟩
        rw [hSpec x b b0 hxb hb0 ht, hSameSpec ht]
      · exact Or.inr (hSame.trans hNew)
    · rw [hOther hSame] at hb
      exact h.stored ns' name' b hb
  -- what is spared: the build under the key is none of those
  · have hNot : ¬ (ns = ns ∧ name' = name) := by
      rintro ⟨-, rfl⟩
      exact hNotSpared b hb ht hu hs
    rw [hOther hNot]
    exact h.spared name' b hb ht hu hs
  -- the current build: one under the key has not succeeded
  · by_cases hSame : name = current
    · subst hSame
      rw [hOwn] at hb
      obtain ⟨x, hx, hxb⟩ := Option.bind_eq_some_iff.mp hb
      have hNotDone := hCurrent rfl x hx
      unfold isImageBuildComplete at hDone hNotDone
      rw [hStatus x b hx hxb, hNotDone] at hDone
      cases hDone
    · have hNot : ¬ (ns = ns ∧ current = name) := fun hBoth => hSame hBoth.2.symm
      rw [hOther hNot] at hb
      exact h.current b hb hDone

theorem Thinned.append {o : ImageBuild} (h : Thinned ns current spared c₀ c)
    (hGet : c'.imageBuilds = c.imageBuilds ++ [o])
    (hNone : lookup .imageBuild c o.metadata.ns o.metadata.name = none)
    (hName : o.metadata.name = current) (hNs : o.metadata.ns = ns) (hStatus : o.status = {}) :
    Thinned ns current spared c₀ c' := by
  have hOther : ∀ {ns' name'}, ¬ (ns' = o.metadata.ns ∧ name' = o.metadata.name) →
      lookup .imageBuild c' ns' name' = lookup .imageBuild c ns' name' :=
    fun hNot => lookup_append_other hGet hNot
  have hOwn : lookup .imageBuild c' o.metadata.ns o.metadata.name = some o :=
    lookup_append hGet hNone
  refine ⟨h.unique.append hGet hNone, fun ns' name' b hb => ?_, fun name' b hb ht hu hs => ?_,
    fun b hb hDone => ?_⟩
  · by_cases hSame : ns' = o.metadata.ns ∧ name' = o.metadata.name
    · obtain ⟨rfl, rfl⟩ := hSame
      cases hOwn.symm.trans hb
      exact Or.inr hStatus
    · rw [hOther hSame] at hb
      exact h.stored ns' name' b hb
  · have hKept := h.spared name' b hb ht hu hs
    by_cases hSame : ns = o.metadata.ns ∧ name' = o.metadata.name
    · rw [hSame.1, hSame.2, hNone] at hKept
      cases hKept
    · rw [hOther hSame]
      exact hKept
  · rw [← hNs, ← hName, hOwn] at hb
    cases hb
    unfold isImageBuildComplete at hDone
    rw [hStatus] at hDone
    cases hDone

end

/-! ## The step -/

section

variable (env : Env) {ns current : String} {spared : String → Prop} {c₀ : Cluster}

/-- The builds of the world are what the step may have made of those of `c₀`. -/
def ThinnedTo (ns current : String) (spared : String → Prop) (c₀ : Cluster) (w : World) : Prop :=
  Thinned ns current spared c₀ w.cluster

theorem thinnedTo_of_reads {w w' : World} (h : ThinnedTo ns current spared c₀ w)
    (hReads : Reads w w') : ThinnedTo ns current spared c₀ w' := by
  obtain ⟨calls, rfl⟩ := hReads
  exact h

theorem thinned_cancel {x : ImageBuild} (hUnique : Unique .imageBuild c₀) (hx : x ∈ c₀.imageBuilds)
    (hNs : x.metadata.ns = ns) (hOpen : isImageBuildTerminal x = false)
    (hStale : x.metadata.name ≠ current) :
    Ensures (ThinnedTo ns current spared c₀) (update env .imageBuild
      { x with spec.cancelled := true })
      (ThinnedTo ns current spared c₀) := by
  have hFound : lookup .imageBuild c₀ ns x.metadata.name = some x := hNs ▸ hUnique x hx
  refine .of_each fun w hw => ?_
  refine (update_spec env .imageBuild { x with spec.cancelled := true } w).conseq ?_
    fun _ => thinnedTo_of_reads hw
  rintro stored w' ⟨old, hOld, rfl, hGet⟩
  subst hNs
  rw [Keyed.write_eq_revise] at hGet
  -- what is cancelled was open at the start, so no clause about ended builds is touched
  have hOpen0 : ∀ b0, lookup .imageBuild c₀ x.metadata.ns x.metadata.name = some b0 →
      isImageBuildTerminal b0 = false := by
    intro b0 hb0
    cases hFound.symm.trans hb0
    exact hOpen
  refine hw.revise hGet ?_ ?_ ?_ ?_ fun hSame => absurd hSame hStale
  · rintro y _ - ⟨rfl⟩
    exact hasKey_iff.mpr ⟨rfl, rfl⟩
  · rintro y _ hy ⟨rfl⟩
    cases hOld.symm.trans hy
    rfl
  · intro _ _ b0 _ hb0 ht
    rw [hOpen0 b0 hb0] at ht
    cases ht
  · intro b0 hb0 ht
    rw [hOpen0 b0 hb0] at ht
    cases ht

theorem thinned_delete {x : ImageBuild} {w : World} (hw : ThinnedTo ns current spared c₀ w)
    (hNs : x.metadata.ns = ns)
    (hNotSpared : ∀ b0, lookup .imageBuild c₀ ns x.metadata.name = some b0 →
      isImageBuildTerminal b0 = true → b0.spec.cancelled = false → ¬ spared x.metadata.name)
    (hCurrent : x.metadata.name = current →
      ∀ b, lookup .imageBuild w.cluster ns current = some b → isImageBuildComplete b = false) :
    Ensures (· = w) (delete env .imageBuild x) (ThinnedTo ns current spared c₀) := by
  refine (delete_revises env .imageBuild x w).conseq ?_
    fun _ => thinnedTo_of_reads hw
  intro _ w' hGet
  subst hNs
  refine hw.revise hGet ?_ ?_ ?_ hNotSpared hCurrent
  · intro y y' hy hy'
    rw [(removedOrMarked_sameContent hy').1.hasKey]
    exact hy
  · exact fun y y' _ hy' => (removedOrMarked_sameContent hy').1.status
  · exact fun y y' _ hy' _ _ => (removedOrMarked_sameContent hy').1.spec

variable {resource : StackResource}

theorem thinned_cancelStaleImageBuilds {builds : List ImageBuild}
    (hUnique : Unique .imageBuild c₀)
    (hListed : ∀ x ∈ builds, x ∈ c₀.imageBuilds ∧ x.metadata.ns = ns) :
    Ensures (ThinnedTo ns current spared c₀) (cancelStaleImageBuilds env resource current builds)
      (ThinnedTo ns current spared c₀) := by
  refine .forAll fun x hx => ?_
  obtain ⟨hMem, hStale⟩ := List.mem_filter.mp hx
  simp only [Bool.and_eq_true, Bool.not_eq_true', decide_eq_true_eq] at hStale
  obtain ⟨hStored, hNs⟩ := hListed x hMem
  refine .bind (.attempted (thinned_cancel env hUnique hStored hNs hStale.1.2 hStale.2))
    fun r => ?_
  cases r with
  | ok _ => exact .skip
  | error e => exact .fail

theorem thinned_enforceImageBuildRetention (hNs : resource.metadata.ns = ns) :
    Ensures (ThinnedTo ns current (Spared env resource current c₀) c₀)
      (enforceImageBuildRetention env resource current (listedBuilds resource c₀))
      (ThinnedTo ns current (Spared env resource current c₀) c₀) := by
  unfold enforceImageBuildRetention
  dsimp only
  split
  · next hLimit =>
    refine .forAll fun x hx => ?_
    obtain ⟨hDropped, hOld⟩ := List.mem_filter.mp hx
    simp only [Bool.and_eq_true, decide_eq_true_eq] at hOld
    -- a deletion is about a build beyond the limit
    have hBeyond : x ∈ beyondLimit env resource c₀ := by
      unfold beyondLimit
      rw [if_pos hLimit.1]
      exact hDropped
    have hOwnNs : x.metadata.ns = ns := by
      have hListed : x ∈ listedBuilds resource c₀ :=
        (List.mem_insertionSort _).mp (List.mem_of_mem_drop hDropped)
      have hKey := (List.mem_filter.mp hListed).2
      rw [Bool.and_eq_true, decide_eq_true_iff] at hKey
      exact hKey.1.trans hNs
    refine .bind (.attempted (.of_each fun w hw =>
      thinned_delete env hw hOwnNs ?_ ?_)) fun r => ?_
    -- such a build is neither the current one nor spared
    · rintro _ _ _ _ (hCurrent | hSpared)
      · exact hOld.2 hCurrent
      · exact hSpared x hBeyond rfl
    · exact fun hCurrent => absurd hCurrent hOld.2
    · cases r with
      | ok _ => exact .skip
      | error e => exact .fail
  · exact .skip

theorem thinned_createImageBuild {buildSpec : StackResourceBuildSpec}
    (hNs : resource.metadata.ns = ns)
    (hName : generateImageBuildName env resource buildSpec = current) :
    Ensures (ThinnedTo ns current spared c₀) (createImageBuild env resource buildSpec)
      (ThinnedTo ns current spared c₀) := by
  unfold createImageBuild
  dsimp only
  split
  · exact .fail
  · next metadata hOwner =>
    refine .bind (R := fun _ => ThinnedTo ns current spared c₀)
      (.attempted (.of_each fun w hw => ?_)) fun r => ?_
    · refine (create_spec env .imageBuild _ w).conseq ?_ fun _ => thinnedTo_of_reads hw
      rintro stored w' ⟨hFree, hGet, hSame⟩
      obtain ⟨refs, rfl⟩ := setOwnerReference_eq hOwner
      exact hw.append hGet hFree (hSame.name.trans hName) (hSame.ns.trans hNs) hSame.status
    · cases r with
      | error e => exact .fail
      | ok _ =>
        refine .bind (R := fun _ => ThinnedTo ns current spared c₀) ?_ fun _ =>
          .skip
        exact .modify fun _ h => h

theorem thinned_judgeImageBuild {buildSpec : StackResourceBuildSpec} {build : ImageBuild}
    {w : World} (hNs : resource.metadata.ns = ns)
    (hName : generateImageBuildName env resource buildSpec = current)
    (hKept : ∀ b, lookup .imageBuild c₀ ns current = some b → isImageBuildComplete b = true →
      b.spec.cancelled = false) (hSpared : spared current) (hw : ThinnedTo ns current spared c₀ w)
    (hBuild : lookup .imageBuild w.cluster ns current = some build) :
    Ensures (· = w) (judgeImageBuild env resource buildSpec build)
      (ThinnedTo ns current spared c₀) := by
  have hSame : ∀ w', w' = w → ThinnedTo ns current spared c₀ w' := by
    rintro _ rfl
    exact hw
  obtain ⟨hBuildNs, hBuildName⟩ := key_of_lookup hBuild
  unfold judgeImageBuild
  split
  -- a cancelled build is deleted, and created again
  · next hCancelled =>
    refine .bind (.attempted (thinned_delete env hw hBuildNs ?_ ?_)) fun r => ?_
    · intro b0 hb0 ht hu _
      rw [hBuildName] at hb0
      cases hBuild.symm.trans (hw.spared current b0 hb0 ht hu hSpared)
      rw [hCancelled] at hu
      cases hu
    -- had it succeeded before, it would not be cancelled
    · intro _ b hb
      cases hBuild.symm.trans hb
      refine Bool.eq_false_iff.mpr fun hDone => ?_
      rw [hKept build (hw.current build hBuild hDone) hDone] at hCancelled
      cases hCancelled
    · cases r with
      | error e => exact .fail
      | ok _ => exact thinned_createImageBuild env hNs hName
  -- failed, complete, or still under way: only verdicts and conditions change
  · split
    · refine .bind (R := fun _ => ThinnedTo ns current spared c₀)
        (.modify hSame) fun _ => ?_
      refine .bind (R := fun _ => ThinnedTo ns current spared c₀)
        (.modify fun _ h => h) fun _ => .skip
    · split
      · exact .pure hSame
      · refine .bind (R := fun _ => ThinnedTo ns current spared c₀) ?_ fun _ =>
          .skip
        exact .modify hSame

theorem thinned_reconcile (w0 : World) {buildSpec : StackResourceBuildSpec}
    (hResource : w0.resource = resource) (hSpec : resource.spec.buildSpec = some buildSpec)
    (hUnique : Unique .imageBuild w0.cluster)
    (hKept : ∀ b, lookup .imageBuild w0.cluster resource.metadata.ns
        (generateImageBuildName env resource buildSpec) = some b →
      isImageBuildComplete b = true → b.spec.cancelled = false) :
    Ensures (· = w0) (reconcile env) (ThinnedTo resource.metadata.ns
      (generateImageBuildName env resource buildSpec)
        (Spared env resource (generateImageBuildName env resource buildSpec) w0.cluster)
        w0.cluster) := by
  set current := generateImageBuildName env resource buildSpec with hCurrent
  set spared := Spared env resource current w0.cluster with hSpared
  have hStart : ThinnedTo resource.metadata.ns current spared w0.cluster w0 := .refl hUnique
  -- listing the builds only reads
  have hList : Triple (· = w0) (listImageBuilds env resource)
      (fun builds w => builds = listedBuilds resource w0.cluster ∧
        ThinnedTo resource.metadata.ns current spared w0.cluster w)
      (ThinnedTo resource.metadata.ns current spared w0.cluster) := by
    refine .bind (listObjects_spec env .imageBuild _ _ w0).attempt fun r => ?_
    cases r with
    | ok builds =>
      refine .pure ?_
      rintro w ⟨rfl, hReads⟩
      exact ⟨rfl, thinnedTo_of_reads hStart hReads⟩
    | error e => exact .throw fun w hReads => thinnedTo_of_reads hStart hReads
  refine bind_resource ?_
  rw [hResource]
  split
  · next hNone => exact absurd (hSpec.symm.trans hNone) nofun
  · next spec hSome =>
    cases hSpec.symm.trans hSome
    refine .bind hList fun builds => .of_each ?_
    rintro w1 ⟨rfl, hw1⟩
    -- the list has the builds of this namespace
    have hListed : ∀ x ∈ listedBuilds resource w0.cluster,
        x ∈ w0.cluster.imageBuilds ∧ x.metadata.ns = resource.metadata.ns := by
      intro x hx
      obtain ⟨hMem, hKey⟩ := List.mem_filter.mp hx
      rw [Bool.and_eq_true, decide_eq_true_iff] at hKey
      exact ⟨hMem, hKey.1⟩
    refine .bind ((thinned_cancelStaleImageBuilds env hUnique hListed).start hw1)
      fun _ => .bind (thinned_enforceImageBuildRetention env rfl) fun _ =>
      .of_each fun w2 hw2 => ?_
    refine .bind (getObject_spec env .imageBuild _ _ w2).attempt fun r => ?_
    -- the current build may be there or not, after stale ones were cancelled and old ones deleted
    cases r with
    | error e => exact .throw fun w hReads => thinnedTo_of_reads hw2 hReads
    | ok found =>
      refine .of_each ?_
      rintro w3 ⟨hFound, hReads⟩
      have hw3 := thinnedTo_of_reads hw2 hReads
      cases found with
      | none => exact (thinned_createImageBuild env rfl hCurrent.symm).start hw3
      | some build =>
        refine thinned_judgeImageBuild env rfl hCurrent.symm hKept (Or.inl rfl) hw3 ?_
        rw [cluster_of_reads hReads]
        exact hFound.symm

end

end ClusterAgent.ImageBuilds
