import ClusterAgent.Controller.Holds
import ClusterAgent.Lib.Runs
import ClusterAgent.StackStorage.Controller

/-!
# Cluster agent — the Volumes of others

A Storage writes its Volumes by name and prunes them by label, and looks at the owner in
neither case. A Volume of an ObjectStorage or one made by hand is therefore taken over if
it has a listed name, and deleted if it has the label.

* `touches` — the Volumes a pass may change;
* `holds_reconcile` — a pass leaves all others, whatever API call fails;
* `StorageEvent`, `storageStep` — passes over any Storages of a namespace, with anything in
  between.

Main result: `run_spares_volumes`.
-/

namespace ClusterAgent.StackStorage

open Pass Effect Session ObjectPass

/-! ## What a pass may change -/

/-- A Volume under a listed name with another spec, or one with the label of the Storage that
the spec does not list. -/
def touches (storage : Storage) (v : Volume) : Bool :=
  decide (v.metadata.ns = storage.metadata.ns) &&
    match storage.spec.volumeSpecs.lookup v.name with
    | some volumeSpec => decide (v.spec ≠ desiredVolumeSpec volumeSpec)
    | none => decide (v.metadata.labels.get? storageNameLabel = some storage.name)

structure Keeping (storage : Storage) (kept : Volume → Prop) (s : Session Storage) : Prop where
  same : Over storage s
  holds : Holds .volume kept s.world.cluster

variable {name : String} {kinds : List ObjectKind}

theorem lookup_eq_none_of_not_contains {storage : Storage}
    (h : containsVolume storage name = false) : storage.spec.volumeSpecs.lookup name = none := by
  unfold containsVolume at h
  refine List.lookup_eq_none_iff.mpr fun v hv => ?_
  have hNe : ¬ v.1 = name := fun hEq => List.any_eq_false.mp h v hv (decide_eq_true hEq)
  exact bne_iff_ne.mpr fun hEq => hNe hEq.symm

section

variable (env : Env) {storage : Storage} {kept : Volume → Prop}

theorem Keeping.alters {s s' : Session Storage} (h : Keeping storage kept s)
    (hAlters : Alters kinds s s') (hKinds : .volume ∉ kinds) :
    Keeping storage kept s' :=
  ⟨h.same.alters hAlters, h.holds.congr (hAlters.objects .volume hKinds)⟩

theorem keeping_step {α : Type} {m : StoragePass α} (h : Within (Alters kinds) m)
    (hKinds : .volume ∉ kinds) :
    Ensures (Keeping storage kept) m (Keeping storage kept) :=
  h.triple fun _ _ hAlters hs => hs.alters hAlters hKinds

theorem keeping_onCluster {α : Type} {m : Pass α}
    (h : Ensures (fun w => Holds .volume kept w.cluster) m
      (fun w => Holds .volume kept w.cluster)) :
    Ensures (Keeping storage kept) (onCluster m) (Keeping storage kept) := by
  refine .of_each fun s hs => ?_
  refine (onCluster_spec (h.pre fun _ hw => hw ▸ hs.holds) s.own).conseq ?_ ?_
  · rintro a s' ⟨hHolds, hOwn⟩
    exact ⟨⟨by rw [hOwn]; exact hs.same.metadata, by rw [hOwn]; exact hs.same.spec⟩, hHolds⟩
  · rintro s' ⟨hHolds, hOwn⟩
    exact ⟨⟨by rw [hOwn]; exact hs.same.metadata, by rw [hOwn]; exact hs.same.spec⟩, hHolds⟩

variable {env}

theorem keeping_getObject (ns name : String) :
    Triple (Keeping storage kept) (onCluster (getObject env .volume ns name))
      (fun found s => Keeping storage kept s ∧ found = lookup .volume s.world.cluster ns name)
      (Keeping storage kept) := by
  refine .of_each fun s hs => ?_
  have hKeeping : Ensures (· = s) (onCluster (getObject env .volume ns name))
    (Keeping storage kept) :=
    (keeping_onCluster (holds_of_reads reads_getObject)).pre
      fun _ h => h ▸ hs
  refine (hKeeping.and (onCluster_spec (getObject_spec env .volume ns name s.world) s.own)).conseq
    (fun found s' h => ⟨h.1, ?_⟩) fun _ h => h.1
  rw [h.2.1.1, cluster_of_reads h.2.1.2]

theorem alters_reportStorageUnAvailable {reason message : String} :
    Within (Alters kinds) (reportStorageUnAvailable env reason message) :=
  .bind alters_getOwn fun _ => alters_modifyStatus

/-- Where the loop finds a Volume it would update, that Volume is none of the kept. -/
theorem Keeping.other_key {s : Session Storage} {volumeSpec : VolumeSpec} {existing : Volume}
    (hs : Keeping storage kept s) (hKept : ∀ v, kept v → touches storage v = false)
    (hSpec : storage.spec.volumeSpecs.lookup name = some volumeSpec)
    (hFound : lookup .volume s.world.cluster storage.metadata.ns name = some existing)
    (hDiffers : existing.spec ≠ desiredVolumeSpec volumeSpec) (v : Volume) (hv : kept v) :
    ¬ (v.metadata.ns = storage.metadata.ns ∧ v.metadata.name = name) := by
  rintro ⟨hNs, hName⟩
  have hStored := hs.holds.stored v hv
  rw [hNs, hName, hFound] at hStored
  obtain rfl := Option.some.inj hStored
  have hNot := hKept existing hv
  unfold touches Object.name at hNot
  rw [hNs, hName, hSpec] at hNot
  simp [hDiffers] at hNot

theorem keeping_reconcileVolume (hKept : ∀ v, kept v → touches storage v = false)
    {volumeSpec : VolumeSpec} (hSpec : storage.spec.volumeSpecs.lookup name = some volumeSpec) :
    Ensures (Keeping storage kept) (reconcileVolume env name volumeSpec)
      (Keeping storage kept) := by
  refine .of_each fun s hs => bind_getOwn ?_
  let named := desiredVolume s.own name volumeSpec
  -- the desired Volume has the name and the spec of the listed one, whatever its owner
  have hControlled : Triple (· = s) (onCluster (controlledBy s.own.metadata "Storage" named))
      (fun desired s1 => Keeping storage kept s1 ∧ SameContent named desired)
      (Keeping storage kept) := by
    have hContent := onCluster_spec ((controlledBy_content s.own.metadata "Storage" named).pre
      fun _ (_ : _ = s.world) => trivial) s.own
    have hKeeping : Ensures (· = s) (onCluster (controlledBy s.own.metadata "Storage" named))
      (Keeping storage kept) :=
      (keeping_onCluster (holds_of_reads reads_controlledBy)).start hs
    exact (hKeeping.and hContent).conseq (fun _ _ h => ⟨h.1, h.2.1⟩) fun _ h => h.1
  refine .bind hControlled fun desired => .of_each fun s1 ⟨hs1, hSame⟩ => ?_
  have hNs : desired.metadata.ns = storage.metadata.ns := by
    rw [hSame.ns, ← hs.same.metadata]
    rfl
  have hName : desired.metadata.name = name := hSame.name
  refine .bind ((keeping_getObject desired.metadata.ns desired.metadata.name).pre
    fun _ h => h ▸ hs1) fun found => .of_each fun s2 ⟨hs2, hFound⟩ => ?_
  have hReport : Ensures (Keeping storage kept) (reportStorageUnAvailable env "VolumeNotReady"
    ("Volume '" ++ name ++ "' not ready"))
    (Keeping storage kept) :=
    keeping_step alters_reportStorageUnAvailable List.not_mem_nil
  -- a missing Volume is created, which writes no Volume that is there
  cases found with
  | none =>
    exact .bind ((keeping_onCluster (holds_create desired)).start hs2)
      fun _ => .skip
  | some existing =>
    have hVerdict : Ensures (Keeping storage kept) (if volumeAvailable existing then
        return (.nil, some existing)
      else do
        reportStorageUnAvailable env "VolumeNotReady" ("Volume '" ++ name ++ "' not ready")
        return (.stop, some existing) :
          StoragePass (StepResult × Option Volume)) (Keeping storage kept) := by
      split
      · exact .skip
      · exact .bind hReport fun _ => .skip
    dsimp only
    split
    -- a Volume that differs is updated, and then it is one the pass touches
    · next hDiffers =>
      have hOther : ∀ v, kept v → ¬ (v.metadata.ns = desired.metadata.ns ∧
          v.metadata.name = desired.metadata.name) := by
        intro v hv
        rw [hNs, hName] at hFound ⊢
        rw [hSame.spec] at hDiffers
        exact hs2.other_key hKept hSpec hFound.symm hDiffers v hv
      exact .bind ((keeping_onCluster (holds_updateOrRelease hOther)).pre
        fun _ h => h ▸ hs2) fun _ => hVerdict
    · exact hVerdict.start hs2

theorem keeping_reconcileEachVolume (hKept : ∀ v, kept v → touches storage v = false)
    {names : List String} (existing : List Volume) :
    Ensures (Keeping storage kept) (reconcileEachVolume env names existing)
      (Keeping storage kept) := by
  induction names generalizing existing with
  | nil => exact .skip
  | cons name rest ih =>
    refine .of_each fun s hs => bind_getOwn ?_
    split
    · exact (ih existing).start hs
    · next volumeSpec hSpec =>
      rw [hs.same.spec] at hSpec
      refine .bind ((keeping_reconcileVolume hKept hSpec).start hs)
        fun r => ?_
      dsimp only
      split
      · exact .skip
      · exact ih _

theorem keeping_removeExtraVolumes (hKept : ∀ v, kept v → touches storage v = false) :
    Ensures (Keeping storage kept) (removeExtraVolumes env) (Keeping storage kept) := by
  refine .of_each fun s hs => bind_getOwn ?_
  -- the listed Volumes carry the label of the Storage
  have hList : Triple (· = s) (onCluster (listObjects env .volume s.own.metadata.ns
      [(storageNameLabel, s.own.name)]))
      (fun volumes s1 => Keeping storage kept s1 ∧ ∀ x ∈ volumes, x ∈ s1.world.cluster.volumes ∧
        x.metadata.ns = storage.metadata.ns ∧
        x.metadata.labels.get? storageNameLabel = some storage.name)
      (Keeping storage kept) := by
    have hKeeping : Ensures (· = s) (onCluster (listObjects env .volume s.own.metadata.ns
        [(storageNameLabel, s.own.name)])) (Keeping storage kept) :=
      (keeping_onCluster (holds_of_reads reads_listObjects)).pre
        fun _ h => h ▸ hs
    refine (hKeeping.and (onCluster_spec (listObjects_spec env .volume _ _ s.world) s.own)).conseq
      (fun volumes s1 h => ⟨h.1, fun x hx => ?_⟩) fun _ h => h.1
    rw [h.2.1.1, List.mem_filter] at hx
    obtain ⟨hMem, hLabel⟩ := hx
    rw [cluster_of_reads h.2.1.2]
    have hName : s.own.name = storage.name := congrArg ObjectMeta.name hs.same.metadata
    rw [hs.same.metadata, hName] at hLabel
    simp only [List.all_cons, List.all_nil, Bool.and_true, Bool.and_eq_true,
      decide_eq_true_eq] at hLabel
    exact ⟨hMem, hLabel⟩
  refine .bind hList fun volumes => .of_each fun s1 ⟨hs1, hListed⟩ => ?_
  have hContains : ∀ name, containsVolume s.own name = containsVolume storage name := by
    intro name
    unfold containsVolume
    rw [hs.same.spec]
  refine (keeping_onCluster (.forM fun x hx => holds_delete fun v hv hKey => ?_)).pre
    fun _ h => h ▸ hs1
  obtain ⟨hMem, hExtra⟩ := List.mem_filter.mp hx
  obtain ⟨hStored, hNs, hLabel⟩ := hListed x hMem
  -- a kept Volume under the key would be the extra one itself
  obtain rfl := hs1.holds.eq_of_key hStored hv hKey.1 hKey.2
  rw [hContains, Bool.not_eq_true'] at hExtra
  have hNot := hKept x hv
  unfold touches at hNot
  rw [lookup_eq_none_of_not_contains hExtra] at hNot
  simp [hNs, hLabel] at hNot

theorem keeping_reconcileVolumes (hKept : ∀ v, kept v → touches storage v = false) :
    Ensures (Keeping storage kept) (reconcileVolumes env) (Keeping storage kept) := by
  refine .of_each fun s hs => bind_getOwn ?_
  refine .bind ((keeping_reconcileEachVolume hKept []).start hs)
    fun r => ?_
  dsimp only
  have hStatus : Within (Alters []) (setVolumeStatus r.2) :=
    .bind alters_getOwn fun _ => alters_modifyStatus
  split
  · exact .skip
  · exact .bind (keeping_removeExtraVolumes hKept) fun _ =>
      .bind (keeping_step hStatus List.not_mem_nil) fun _ => .skip

/-! ## The ssh server writes no Volume -/

theorem alters_controlledBy {S T : Type} {owner : ObjectMeta} {o : Object S T} :
    Within (Alters kinds) (onCluster (controlledBy owner "Storage" o) : StoragePass (Object S T)) :=
  alters_reads reads_controlledBy

theorem alters_reconcileSSHKeySecret : Within (Alters [.secret]) (reconcileSSHKeySecret env) := by
  have hKind : ObjectKind.secret ∈ [ObjectKind.secret] := List.mem_cons_self
  refine .bind alters_getOwn fun storage => .bind alters_controlledBy
    fun desired => .bind (alters_reads reads_getObject) fun found => ?_
  cases found with
  | none =>
    exact .bind (alters_onCluster (has_create hKind)) fun _ => .pure
  | some existing =>
    dsimp only
    split
    · exact .bind (alters_onCluster (has_update hKind)) fun _ => .pure
    · exact .pure

theorem has_createOrUpdateSSHServer (storage : Storage) (definedVolumes : List Volume) :
    Has { objects := [.deployment] } (createOrUpdateSSHServer env storage definedVolumes) := by
  have hKind : ObjectKind.deployment ∈ [ObjectKind.deployment] := List.mem_cons_self
  have hMutate : ∀ deployment : Deployment, Has { objects := [.deployment] }
      (controlledBy storage.metadata "Storage"
        (mutateSSHServer storage definedVolumes deployment)) :=
    fun deployment => Has.of_reads reads_controlledBy
  refine .bind has_getObject fun existed => ?_
  cases existed with
  | none =>
    exact .bind (hMutate _) fun deployment =>
      .bind (has_create hKind) fun _ => .pure
  | some existing =>
    refine .bind (hMutate existing) fun deployment => ?_
    split
    · exact .pure
    · exact .bind (has_update hKind) fun _ => .pure

theorem alters_reconcileSSHServer : Within (Alters [.deployment]) (reconcileSSHServer env) := by
  have hVolumes : Within (Alters [.deployment]) (getVolumesDefined env) :=
    .bind alters_getOwn fun _ =>
      .bind (alters_reads reads_listObjects) fun _ => .pure
  refine .bind alters_getOwn fun storage => .bind hVolumes fun definedVolumes =>
    .bind (alters_onCluster (has_createOrUpdateSSHServer storage definedVolumes))
      fun r => ?_
  dsimp only
  split
  · exact .bind alters_reportStorageUnAvailable fun _ => .pure
  · split
    · exact .pure
    · exact .bind alters_reportStorageUnAvailable fun _ => .pure

theorem alters_reconcileService : Within (Alters [.service]) (reconcileService env) := by
  have hKind : ObjectKind.service ∈ [ObjectKind.service] := List.mem_cons_self
  refine .bind alters_getOwn fun storage => .bind alters_controlledBy
    fun desired => .bind (alters_reads reads_getObject) fun found => ?_
  cases found with
  | none =>
    exact .bind (alters_onCluster (has_create hKind)) fun _ => .pure
  | some existing =>
    dsimp only
    split
    · exact .bind (.bind alters_getOwn fun _ => alters_modifyStatus)
        fun _ => .pure
    · exact .bind (alters_onCluster (has_update hKind)) fun _ => .pure

/-! ## The pass -/

variable (env)

theorem keeping_subReconcilers (hKept : ∀ v, kept v → touches storage v = false) :
    Ensures (Keeping storage kept) (runChain (subReconcilers env)) (Keeping storage kept) := by
  refine triple_runChain_all fun step hStep => ?_
  unfold subReconcilers at hStep
  simp only [List.mem_cons, List.not_mem_nil, or_false] at hStep
  rcases hStep with rfl | rfl | rfl | rfl
  · exact keeping_reconcileVolumes hKept
  · exact keeping_step alters_reconcileSSHKeySecret (by decide)
  · exact keeping_step alters_reconcileSSHServer (by decide)
  · exact keeping_step alters_reconcileService (by decide)

theorem holds_reconcile {ns : String} {s : Session Storage}
    (hFound : lookup .storage s.world.cluster ns name = some storage)
    (hKept : ∀ v, kept v → touches storage v = false)
    (hStart : Holds .volume kept s.world.cluster) :
    Ensures (· = s) (reconcile env ns name) (fun s' => Holds .volume kept s'.world.cluster) := by
  refine bind_fetch hFound (fun _ h => h ▸ hStart) fun _ => bind_modifyOwn ?_
  have hChain := (keeping_subReconcilers env hKept).onError
    fun _ h => h.holds
  refine .bind (hChain.start ⟨⟨rfl, rfl⟩, hStart⟩) fun result =>
    .of_each fun s1 hs1 => bind_getOwn ?_
  have hStore : Within (Alters [.storage])
      (onCluster (storeStatus env .storage storedStatus s1.own) : StoragePass Unit) :=
    alters_onCluster (has_storeStatus List.mem_cons_self)
  refine .bind (((keeping_step hStore (by decide)).start hs1).conseq (fun _ _ h => h.holds)
    fun _ h => h.holds) fun _ => .skip

end

/-! ## Runs -/

/-- What happens in the namespace: a pass over one of its Storages, starting with some object
in memory, or a change by someone else. -/
inductive StorageEvent
  | pass (env : Env) (name : String) (own : Storage)
  | elsewhere (c : Cluster)

def storageStep (ns : String) (c : Cluster) : StorageEvent → Cluster
  | .pass env name own => (finalState (reconcile env ns name ⟨worldOf c, own⟩)).world.cluster
  | .elsewhere c' => c'

/-- The Storage owns every Volume its pass would change. A change by someone else may be any,
but the API server keeps one Volume under a key. -/
def OwnsTouched (ns : String) (c : Cluster) : StorageEvent → Prop
  | .pass _ name _ => ∀ storage, lookup .storage c ns name = some storage →
    ∀ v ∈ c.volumes, touches storage v = true → isControlledBy v.metadata storage.metadata = true
  | .elsewhere c' => Unique .volume c'

/-- The pass neither updates nor deletes a Volume that the Storage does not control. -/
def SparesVolumes (ns : String) (c : Cluster) : StorageEvent → Prop
  | .pass env name own => ∀ storage, lookup .storage c ns name = some storage →
    ∀ v ∈ c.volumes, isControlledBy v.metadata storage.metadata = false →
      lookup .volume (storageStep ns c (.pass env name own)) v.metadata.ns v.metadata.name = some v
  | .elsewhere _ => True

theorem unique_storageStep {ns : String} {c : Cluster} {event : StorageEvent}
    (hOwns : OwnsTouched ns c event) (hUnique : Unique .volume c) :
    Unique .volume (storageStep ns c event) := by
  cases event with
  | elsewhere c' => exact hOwns
  | pass env name own =>
    cases hFound : lookup .storage c ns name with
    | none =>
      have hSame : storageStep ns c (.pass env name own) = c :=
        reconcile_none (s := ⟨worldOf c, own⟩) hFound rfl
      exact hUnique.congr (congrArg Cluster.volumes hSame)
    | some storage =>
      have hNone : Holds .volume (fun _ => False) c := ⟨hUnique, fun _ h => h.elim⟩
      have hHolds := holds_reconcile env (s := ⟨worldOf c, own⟩) hFound (fun _ h => h.elim) hNone
      exact (hHolds.reached rfl).unique

/-- **No pass of the run changes a Volume of others**, in every run whose passes meet only own
Volumes where they would change one. -/
theorem run_spares_volumes (ns : String) (c : Cluster) (events : List StorageEvent)
    (hUnique : Unique .volume c)
    (hOwns : Runs.Admitted (storageStep ns) (OwnsTouched ns) c events) :
    Runs.Admitted (storageStep ns) (SparesVolumes ns) c events := by
  refine Runs.admitted_of_invariant (I := Unique .volume) (fun c event hEvent hUnique => ?_)
    hOwns hUnique
  refine ⟨unique_storageStep hEvent hUnique, ?_⟩
  cases event with
  | elsewhere c' => trivial
  | pass env name own =>
    intro storage hFound v hMem hForeign
    let kept : Volume → Prop := fun v => v ∈ c.volumes ∧ touches storage v = false
    have hStart : Holds .volume kept c := ⟨hUnique, fun v hv => hUnique v hv.1⟩
    have hHolds := holds_reconcile env (s := ⟨worldOf c, own⟩) hFound (fun _ h => h.2) hStart
    refine (hHolds.reached rfl).stored v ⟨hMem, ?_⟩
    -- a Volume that is touched is controlled by the Storage
    cases hTouches : touches storage v with
    | false => rfl
    | true => exact absurd (hEvent storage hFound v hMem hTouches) (by rw [hForeign]; decide)

/-! ## A Storage that takes over one Volume and deletes another -/

def dataStorage (volumeSpecs : List (String × VolumeSpec)) : Storage where
  metadata := { name := "data", ns := "team", uid := "u1", generation := 1 }
  spec := { volumeSpecs := volumeSpecs }
  status := {}

def bucketVolume : Volume where
  metadata :=
    { name := "bucket", ns := "team", uid := "u2", generation := 1
      ownerReferences :=
        [{ kind := "ObjectStorage", name := "bucket", uid := "u3", controller := true }] }
  spec := { size := "50Gi", accessMode := "ReadWriteOnce" }
  status := {}

/-- A Volume that somebody made for an ObjectStorage, with the label of the Storage. -/
def handMadeVolume : Volume where
  metadata :=
    { name := "scratch", ns := "team", uid := "u4", generation := 1
      labels := [(storageNameLabel, "data")]
      ownerReferences :=
        [{ kind := "ObjectStorage", name := "bucket", uid := "u3", controller := true }] }
  spec := { size := "1Gi", accessMode := "ReadWriteOnce" }
  status := {}

def takenName : Cluster where
  storages := [dataStorage [("bucket", { size := "1Gi", accessMode := "ReadWriteOnce" })]]
  volumes := [bucketVolume]

def labelledByHand : Cluster where
  storages := [dataStorage []]
  volumes := [handMadeVolume]

def dataPass : StorageEvent := .pass quietEnv "data" (dataStorage [])

/-- The pass takes over the Volume of the ObjectStorage with another size, and deletes the one
made by hand. -/
theorem pass_changes_volumes_of_others :
    isControlledBy bucketVolume.metadata (dataStorage []).metadata = false ∧
      ((lookup .volume (storageStep "team" takenName dataPass) "team" "bucket").map fun v =>
        (v.spec.size, isControlledBy v.metadata (dataStorage []).metadata)) = some ("1Gi", true) ∧
      isControlledBy handMadeVolume.metadata (dataStorage []).metadata = false ∧
      lookup .volume (storageStep "team" labelledByHand dataPass) "team" "scratch" = none := by
  decide +kernel

def sideBySide : Cluster where
  storages := [dataStorage [("cache", { size := "1Gi", accessMode := "ReadWriteOnce" })]]
  volumes := [bucketVolume]

theorem run_spares_volumes_sideBySide :
    Runs.Admitted (storageStep "team") (SparesVolumes "team") sideBySide [dataPass, dataPass] := by
  have hFirst : ∀ storage ∈ lookup .storage sideBySide "team" "data", ∀ v ∈ sideBySide.volumes,
      touches storage v = true → isControlledBy v.metadata storage.metadata = true := by
    decide +kernel
  have hSecond : ∀ storage ∈ lookup .storage (storageStep "team" sideBySide dataPass) "team" "data",
      ∀ v ∈ (storageStep "team" sideBySide dataPass).volumes,
      touches storage v = true → isControlledBy v.metadata storage.metadata = true := by
    decide +kernel
  have hUnique : Unique .volume sideBySide := by
    unfold Pass.Unique
    decide +kernel
  exact run_spares_volumes "team" sideBySide [dataPass, dataPass] hUnique
    ⟨hFirst, hSecond, trivial⟩

end ClusterAgent.StackStorage
