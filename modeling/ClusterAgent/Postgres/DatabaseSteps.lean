import ClusterAgent.Controller.Reliable
import ClusterAgent.Postgres.Controller

/-!
# Cluster agent — what the database step does

The removal loop works on the Databases that carry the label of the agent, whoever
they were made for. It asks for the removal of one after the other until it meets
one whose removal is under way; that one goes once the operator has dropped its
database, and the loop ends there.

* `condemned` — the Databases it acts on, as a function of the spec and of the list;
* `removeDatabases_spec` — nothing else changes, also when an API call fails, and these are
  all asked to go, if the loop succeeds;
* `grown_ensureDatabases` — the creation loop only adds Databases the spec lists.
-/

namespace ClusterAgent.PostgresController

open Pass Effect Session ObjectPass Addons

/-! ## The Databases the loop acts on -/

def listed (resource : PostgresCluster) (databases : List Database) : List Database :=
  databases.filter fun d =>
    decide (d.metadata.ns = resource.metadata.ns) &&
      decide (d.metadata.labels.get? createdByLabel = some createdByValue)

/-- Not the default database, and not in the spec. -/
def unwanted (desired : List String) (databases : List Database) : List Database :=
  databases.filter fun d =>
    decide (d.spec.name ≠ defaultDatabaseName) && decide (d.name ∉ desired)

/-- A `Delete` of the object changes it: it goes, or is marked. -/
def deletable (d : Database) : Bool :=
  d.metadata.finalizers.isEmpty || d.metadata.deletionTimestamp.isNone

/-- The Databases the removal loop acts on: all up to the first one whose removal is under
way, and that one if it can go. The loop waits there, so those behind it have to wait for a
later pass. -/
def removals : List Database → List Database
  | [] => []
  | d :: rest =>
    if d.spec.ensure = .absent then
      if databaseApplied d && deletable d then [d] else []
    else d :: removals rest

def desiredNames (resource : PostgresCluster) : List String :=
  resource.spec.databases.map DatabaseSpec.name

/-- The Databases a pass acts on that gets as far as the removal loop. They are looked for in the
whole namespace, whatever PostgresCluster they belong to. -/
def condemned (resource : PostgresCluster) (databases : List Database) : List Database :=
  removals (unwanted (desiredNames resource) (listed resource databases))

theorem removals_subset {databases : List Database} : removals databases ⊆ databases := by
  induction databases with
  | nil => exact List.Subset.refl _
  | cons d rest ih =>
    unfold removals
    split
    · split
      · exact List.cons_subset_cons d (List.nil_subset _)
      · exact List.nil_subset _
    · exact List.cons_subset_cons d ih

variable {d : Database} {rest databases targets : List Database} {resource : PostgresCluster}
  {w w' : World} {names : List String} {s : Session PostgresCluster}

theorem unwanted_cons_of_pos {desired : List String} (hName : d.spec.name ≠ defaultDatabaseName)
    (hListed : d.name ∉ desired) :
    unwanted desired (d :: rest) = d :: unwanted desired rest := by
  unfold unwanted
  rw [List.filter_cons_of_pos (by simp [hName, hListed])]

theorem unwanted_cons_of_neg {desired : List String}
    (h : d.spec.name = defaultDatabaseName ∨ d.name ∈ desired) :
    unwanted desired (d :: rest) = unwanted desired rest := by
  unfold unwanted
  rw [List.filter_cons_of_neg (by rcases h with h | h <;> simp [h])]

theorem mem_of_condemned (h : d ∈ condemned resource databases) : d ∈ databases :=
  List.mem_of_mem_filter (List.mem_of_mem_filter (removals_subset h))

theorem name_of_condemned (h : d ∈ condemned resource databases) :
    d.name ∉ desiredNames resource := by
  have hUnwanted := (List.mem_filter.mp (removals_subset h)).2
  rw [Bool.and_eq_true, decide_eq_true_iff, decide_eq_true_iff] at hUnwanted
  exact hUnwanted.2

theorem condemned_append {news : List Database} (h : ∀ d ∈ news, d.name ∈ desiredNames resource) :
    condemned resource (databases ++ news) = condemned resource databases := by
  have hNone : unwanted (desiredNames resource) (listed resource news) = [] := by
    refine List.filter_eq_nil_iff.mpr fun d hd => ?_
    have hName := h d (List.mem_of_mem_filter hd)
    simp [hName]
  unfold condemned listed at *
  rw [List.filter_append]
  unfold unwanted at *
  rw [List.filter_append, hNone, List.append_nil]

theorem listObjects_listed (resource : PostgresCluster) (databases : List Database) :
    databases.filter (fun o => decide (o.metadata.ns = resource.metadata.ns) &&
      [(createdByLabel, createdByValue)].all fun e =>
        decide (o.metadata.labels.get? e.1 = some e.2)) = listed resource databases := by
  unfold listed
  simp only [List.all_cons, List.all_nil, Bool.and_true]

theorem removedOrMarked_eq_self {time : Int} (h : deletable d = false) :
    removedOrMarked time d = some d := by
  unfold deletable at h
  rw [Bool.or_eq_false_iff] at h
  obtain ⟨hFinalizers, hDeleted⟩ := h
  unfold removedOrMarked
  rw [hFinalizers, if_neg Bool.false_ne_true]
  cases hTime : d.metadata.deletionTimestamp with
  | none =>
    rw [hTime] at hDeleted
    cases hDeleted
  | some t =>
    obtain ⟨metadata, spec, status⟩ := d
    obtain ⟨⟩ := metadata
    cases hTime
    rfl

theorem removedOrMarked_ne_self {time : Int} (h : deletable d = true) :
    removedOrMarked time d ≠ some d := by
  unfold deletable at h
  unfold removedOrMarked
  cases hFinalizers : d.metadata.finalizers.isEmpty with
  | true =>
    rw [if_pos rfl]
    exact nofun
  | false =>
    rw [hFinalizers, Bool.false_or] at h
    rw [if_neg Bool.false_ne_true]
    intro hSame
    have hTime := congrArg (fun x : Database => x.metadata.deletionTimestamp)
      (Option.some.inj hSame)
    dsimp only at hTime
    rw [← hTime] at h
    cases h

/-! ## The removal loop -/

structure KeptBut (targets : List Database) (w w' : World) : Prop where
  lookups : ∀ ns name, (∀ d ∈ targets, ¬ (ns = d.metadata.ns ∧ name = d.metadata.name)) →
    lookup .database w'.cluster ns name = lookup .database w.cluster ns name
  unique : Unique .database w'.cluster

theorem keptBut_of_reads (hUnique : Unique .database w.cluster) (h : Reads w w') :
    KeptBut targets w w' := by
  have hCluster := cluster_of_reads h
  exact ⟨fun ns name _ => by rw [hCluster], hCluster ▸ hUnique⟩

theorem KeptBut.trans {others : List Database} {w1 : World} (h : KeptBut [d] w w1)
    (h' : KeptBut others w1 w') (hMem : d ∈ targets) (hSub : others ⊆ targets) :
    KeptBut targets w w' where
  lookups ns name hKeys :=
    (h'.lookups ns name fun x hx => hKeys x (hSub hx)).trans
      (h.lookups ns name fun _ hx => List.mem_singleton.mp hx ▸ hKeys d hMem)
  unique := h'.unique

section

variable (env : Env)

/-- A call whose `NotFound` is ignored takes effect, or is lost because the API server was not
honest; it fails only if an API call does. -/
theorem ignoreNotFound_spec {α : Type} {m : Pass α} {Q : World → Prop}
    (hm : Triple (· = w) m (fun _ => Q) (Reads w))
    (hOk : env.fault w.calls = none → ∃ a w', m w = .ok a w')
    (hError : ∀ e, env.fault w.calls = some e → ∃ w', m w = .error e w') :
    Triple (· = w) (ignoreNotFound m) (fun _ w' => Q w' ∨ Reads w w' ∧ ¬ Honest env)
      fun w' => Reads w w' ∧ ¬ Reliable env := by
  rintro w rfl
  unfold ignoreNotFound
  cases hFault : env.fault w.calls with
  | none =>
    obtain ⟨a, w', hRun⟩ := hOk hFault
    rw [bind_of_ok (attempt_of_ok hRun)]
    exact Or.inl (hm.of_ok rfl hRun)
  | some e =>
    obtain ⟨w', hRun⟩ := hError e hFault
    have hReads := hm.of_error rfl hRun
    rw [bind_of_ok (attempt_of_error hRun)]
    dsimp only
    by_cases hKind : e.kind = .notFound
    · rw [if_pos hKind]
      exact Or.inr ⟨hReads, fun hHonest => hHonest _ _ hFault hKind⟩
    · rw [if_neg hKind]
      exact ⟨hReads, fun hReliable => nomatch (hReliable _).symm.trans hFault⟩

/-- Databases under one key are one Database. -/
def SameByKey (databases : List Database) : Prop :=
  ∀ x ∈ databases, ∀ y ∈ databases,
    x.metadata.ns = y.metadata.ns → x.metadata.name = y.metadata.name → x = y

theorem SameByKey.of_unique {c : Cluster} (h : Unique .database c)
    (hSub : databases ⊆ c.databases) : SameByKey databases := by
  intro x hx y hy hNs hName
  have hX := h x (hSub hx)
  rw [hNs, hName, h y (hSub hy)] at hX
  exact (Option.some.inj hX).symm

/-- The removal of the Database is asked for, and no other Database is written. -/
def AskedToGo (d : Database) (w w' : World) : Prop :=
  KeptBut [d] w w' ∧ ∃ e, lookup .database w'.cluster d.metadata.ns d.metadata.name = some e ∧
    e.spec = { d.spec with ensure := .absent }

theorem AskedToGo.isSome {x : Database} (h : AskedToGo d w w')
    (hx : (lookup .database w.cluster x.metadata.ns x.metadata.name).isSome) :
    (lookup .database w'.cluster x.metadata.ns x.metadata.name).isSome := by
  obtain ⟨hKept, e, hLookup, -⟩ := h
  by_cases hKey : x.metadata.ns = d.metadata.ns ∧ x.metadata.name = d.metadata.name
  · rw [hKey.1, hKey.2, hLookup]
    rfl
  · rw [hKept.lookups _ _ fun y hy => List.mem_singleton.mp hy ▸ hKey]
    exact hx

/-- The request stays on record while the loop goes on, if the loop does not come to the
Database once more. -/
theorem AskedToGo.stays {w1 : World} (h : AskedToGo d w w1) (hKept : KeptBut targets w1 w')
    (hSub : targets ⊆ rest) (hSame : SameByKey (d :: rest)) (hNot : d ∉ targets) :
    ∃ e, lookup .database w'.cluster d.metadata.ns d.metadata.name = some e ∧
      e.spec.ensure = .absent := by
  obtain ⟨-, e, hLookup, hSpec⟩ := h
  refine ⟨e, (hKept.lookups _ _ fun x hx hKey => hNot ?_).trans hLookup,
    congrArg Cnpg.DatabaseSpec.ensure hSpec⟩
  rwa [hSame d List.mem_cons_self x (List.mem_cons_of_mem _ (hSub hx)) hKey.1 hKey.2]

theorem ensureAbsent_spec (hUnique : Unique .database w.cluster)
    (hStored : (lookup .database w.cluster d.metadata.ns d.metadata.name).isSome) :
    Triple (· = w) (ignoreNotFound (update env .database { d with spec.ensure := .absent }))
      (fun _ w' => AskedToGo d w w' ∨ Reads w w' ∧ ¬ Honest env)
      fun w' => Reads w w' ∧ ¬ Reliable env := by
  obtain ⟨old, hOld⟩ := Option.isSome_iff_exists.mp hStored
  refine ignoreNotFound_spec env ((update_spec env .database _ w).post ?_)
    (fun hFault => ⟨_, update_eq_ok env hFault hOld⟩)
    fun e hFault => ⟨_, update_eq_error env hFault⟩
  rintro stored w' ⟨old, hOld, rfl, hGet⟩
  have hKey : ∀ x : Database, hasKey d.metadata.ns d.metadata.name x = true →
      hasKey d.metadata.ns d.metadata.name (updated old { d with spec.ensure := .absent }) = true :=
    fun _ _ => hasKey_iff.mpr ⟨rfl, rfl⟩
  have hLookup := lookup_write hGet hKey
  rw [hOld, Option.map_some] at hLookup
  refine ⟨⟨fun ns name hOther => ?_, hUnique.write hGet hKey⟩, _, hLookup, rfl⟩
  exact lookup_write_other (hOther d List.mem_cons_self) hGet hKey

/-- Nothing is left under the key of the Database but a request for its removal that was not
there before. -/
def Condemned (d : Database) (databases : List Database) : Prop :=
  ∀ e, databases.find? (hasKey d.metadata.ns d.metadata.name) = some e →
    e.spec.ensure = .absent ∧ e ≠ d

theorem condemned_delete (hUnique : Unique .database w.cluster)
    (hStored : lookup .database w.cluster d.metadata.ns d.metadata.name = some d)
    (hAbsent : d.spec.ensure = .absent) :
    Triple (· = w) (ignoreNotFound (delete env .database d))
      (fun _ w' => KeptBut (if deletable d then [d] else []) w w' ∧
        (Honest env → deletable d = true → Condemned d w'.cluster.databases))
      fun w' => Reads w w' ∧ ¬ Reliable env := by
  refine (ignoreNotFound_spec env (delete_revises env .database d w)
    (fun hFault => ⟨_, _, bind_of_ok (call_eq_ok hFault)⟩)
    fun e hFault => ⟨_, bind_of_error (call_eq_error hFault)⟩).post fun _ w' hw' => ?_
  rcases hw' with hGet | ⟨hReads, hNot⟩
  · have hLookup := lookup_revise hUnique hGet key_removedOrMarked
    rw [hStored, Option.bind_some] at hLookup
    refine ⟨⟨fun ns name hOther => ?_, hUnique.revise hGet key_removedOrMarked⟩,
      fun _ hDeletable e he => ?_⟩
    · by_cases hKey : ns = d.metadata.ns ∧ name = d.metadata.name
      · obtain ⟨rfl, rfl⟩ := hKey
        cases hDeletable : deletable d with
        | true =>
          rw [hDeletable, if_pos rfl] at hOther
          exact absurd ⟨rfl, rfl⟩ (hOther d List.mem_cons_self)
        | false => rw [hLookup, hStored, removedOrMarked_eq_self hDeletable]
      · exact lookup_revise_other hKey hGet key_removedOrMarked
    · have hLeft := hLookup.symm.trans he
      refine ⟨(removedOrMarked_sameContent hLeft).1.spec ▸ hAbsent, ?_⟩
      rintro rfl
      exact removedOrMarked_ne_self hDeletable hLeft
  · exact ⟨keptBut_of_reads hUnique hReads, fun hHonest => absurd hHonest hNot⟩

/-- What the loop relies on while it runs: one Database under a key, and those whose removal
is under way are still as they were listed. -/
structure Removing (rest : List Database) (w : World) : Prop where
  unique : Unique .database w.cluster
  sameByKey : SameByKey rest
  absent : ∀ d ∈ rest, d.spec.ensure = .absent →
    lookup .database w.cluster d.metadata.ns d.metadata.name = some d
  stored : ∀ d ∈ rest, (lookup .database w.cluster d.metadata.ns d.metadata.name).isSome

theorem Removing.tail (h : Removing (d :: rest) w) : Removing rest w where
  unique := h.unique
  sameByKey x hx y hy := h.sameByKey x (List.mem_cons_of_mem _ hx) y (List.mem_cons_of_mem _ hy)
  absent x hx := h.absent x (List.mem_cons_of_mem _ hx)
  stored x hx := h.stored x (List.mem_cons_of_mem _ hx)

theorem Removing.of_reads (h : Removing rest w) (hReads : Reads w w') : Removing rest w' := by
  obtain ⟨calls, rfl⟩ := hReads
  exact ⟨h.unique, h.sameByKey, h.absent, h.stored⟩

theorem Removing.next (h : Removing (d :: rest) w) (hPresent : d.spec.ensure ≠ .absent)
    (hAsked : AskedToGo d w w') :
    Removing rest w' where
  unique := hAsked.1.unique
  sameByKey := h.tail.sameByKey
  absent x hx hAbsent := by
    have hOther : ∀ y ∈ [d], ¬ (x.metadata.ns = y.metadata.ns ∧
        x.metadata.name = y.metadata.name) := by
      rintro y hy ⟨hNs, hName⟩
      rw [List.mem_singleton.mp hy] at hNs hName
      have hSame := h.sameByKey x (List.mem_cons_of_mem _ hx) d List.mem_cons_self hNs hName
      exact hPresent (hSame ▸ hAbsent)
    rw [hAsked.1.lookups _ _ hOther]
    exact h.tail.absent x hx hAbsent
  stored x hx := hAsked.isSome (h.tail.stored x hx)

/-- **The loop touches nothing but the removals**, whatever API call fails, and asks for all of
them if it succeeds; it does if no API call fails. -/
theorem removeDatabases_spec (desired : List String) {databases : List Database} (w : World)
    (h : Removing databases w) :
    Triple (· = w) (removeDatabases env desired databases)
      (fun _ w' => KeptBut (removals (unwanted desired databases)) w w' ∧ (Honest env →
        ∀ d ∈ removals (unwanted desired databases), Condemned d w'.cluster.databases))
      fun w' => KeptBut (removals (unwanted desired databases)) w w' ∧ ¬ Reliable env := by
  have hNothing : ∀ {databases w}, Removing databases w → ∀ w', w' = w →
      KeptBut [] w w' ∧ (Honest env → ∀ d ∈ [], Condemned d w'.cluster.databases) := by
    rintro databases w h _ rfl
    exact ⟨keptBut_of_reads h.unique (refl_of Reads _), fun _ _ hd => nomatch hd⟩
  induction databases generalizing w with
  | nil => exact .pure (hNothing h)
  | cons d rest ih =>
    unfold removeDatabases
    split
    · next hDefault =>
      rw [unwanted_cons_of_neg (Or.inl hDefault)]
      exact ih w h.tail
    · next hName =>
      split
      · next hListed =>
        rw [unwanted_cons_of_neg (Or.inr hListed)]
        exact ih w h.tail
      · next hListed =>
        rw [unwanted_cons_of_pos hName hListed, removals]
        split
        · next hAbsent =>
          -- the loop ends here
          cases databaseApplied d with
          | false => exact .pure (hNothing h)
          | true =>
            have hAt := h.absent d List.mem_cons_self hAbsent
            rw [Bool.true_and]
            refine (condemned_delete env h.unique hAt hAbsent).conseq
              (fun _ w' hw' => ⟨hw'.1, fun hHonest x hx => ?_⟩)
              fun _ hw' => ⟨keptBut_of_reads h.unique hw'.1, hw'.2⟩
            split at hx
            · next hDeletable => exact List.mem_singleton.mp hx ▸ hw'.2 hHonest hDeletable
            · cases hx
        · next hPresent =>
          -- the removal is asked for, and the loop goes on with the others
          refine .bind ((ensureAbsent_spec env h.unique (h.stored d List.mem_cons_self)).onError
            fun _ hw1 => ⟨keptBut_of_reads h.unique hw1.1, hw1.2⟩) fun _ => .of_each
              fun w1 hw1 => ?_
          have hFirst : KeptBut [d] w w1 :=
            hw1.elim (·.1) fun hLost => keptBut_of_reads h.unique hLost.1
          have hNext : Removing rest w1 :=
            hw1.elim (h.next hPresent) fun hLost => h.tail.of_reads hLost.1
          have hKept : ∀ w', KeptBut (removals (unwanted desired rest)) w1 w' →
              KeptBut (d :: removals (unwanted desired rest)) w w' :=
            fun _ hw' => hFirst.trans hw' List.mem_cons_self (List.subset_cons_self _ _)
          refine (ih w1 hNext).conseq (fun _ w' hw' => ⟨hKept w' hw'.1, fun hHonest x hx => ?_⟩)
            fun w' hw' => ⟨hKept w' hw'.1, hw'.2⟩
          by_cases hAgain : x ∈ removals (unwanted desired rest)
          · exact hw'.2 hHonest x hAgain
          · -- later writes go to other Databases
            obtain rfl : x = d := (List.mem_cons.mp hx).resolve_right hAgain
            have hSub : removals (unwanted desired rest) ⊆ rest :=
              fun _ hx => List.mem_of_mem_filter (removals_subset hx)
            have hAsked := hw1.resolve_right fun hLost => hLost.2 hHonest
            obtain ⟨e, hLookup, hEnsure⟩ := hAsked.stays hw'.1 hSub h.sameByKey hAgain
            intro e' he'
            obtain rfl : e' = e := Option.some.inj (he'.symm.trans hLookup)
            exact ⟨hEnsure, fun hSame => hPresent (hSame ▸ hEnsure)⟩

theorem removing_listed (hUnique : Unique .database w.cluster) (resource : PostgresCluster) :
    Removing (listed resource w.cluster.databases) w where
  unique := hUnique
  sameByKey := .of_unique hUnique (List.filter_subset_self _)
  absent d hd _ := hUnique d (List.mem_of_mem_filter hd)
  stored d hd := Option.isSome_of_eq_some (hUnique d (List.mem_of_mem_filter hd))

theorem reconcileUnWantedDatabases_spec (resource : PostgresCluster)
    (hUnique : Unique .database w.cluster) :
    Triple (· = w) (reconcileUnWantedDatabases env resource)
      (fun _ w' => KeptBut (condemned resource w.cluster.databases) w w' ∧ (Honest env →
        ∀ d ∈ condemned resource w.cluster.databases, Condemned d w'.cluster.databases))
      fun w' => KeptBut (condemned resource w.cluster.databases) w w' ∧ ¬ Reliable env := by
  refine .bind (((listObjects_spec env .database _ _ w).unless fun hReliable =>
    (listObjects_total hReliable .database _ w).post fun _ _ _ => trivial).onError
      fun _ h => ⟨keptBut_of_reads hUnique h.1, h.2⟩) fun databases => .of_each ?_
  rintro w1 ⟨hDatabases, hReads⟩
  obtain rfl : databases = listed resource w.cluster.databases :=
    hDatabases.trans (listObjects_listed resource w.cluster.databases)
  have hKept : ∀ w', KeptBut (condemned resource w.cluster.databases) w1 w' →
      KeptBut (condemned resource w.cluster.databases) w w' := by
    intro w' h
    refine ⟨fun ns name hOther => ?_, h.unique⟩
    rw [h.lookups ns name hOther, cluster_of_reads hReads]
  exact (removeDatabases_spec env (desiredNames resource) w1
    ((removing_listed hUnique resource).of_reads hReads)).conseq
    (fun _ w' h => ⟨hKept w' h.1, h.2⟩) fun w' h => ⟨hKept w' h.1, h.2⟩

/-! ## The creation loop -/

/-- Databases with these names were added; the operator has not seen them yet. -/
structure Grown (names : List String) (w w' : World) : Prop where
  added : ∃ news, w'.cluster.databases = w.cluster.databases ++ news ∧
    ∀ d ∈ news, d.name ∈ names ∧ d.status = {}
  unique : Unique .database w.cluster → Unique .database w'.cluster

instance (names : List String) : IsPreorder World (Grown names) where
  refl w := ⟨⟨[], (List.append_nil _).symm, nofun⟩, id⟩
  trans w w₁ w₂ h h' := by
    obtain ⟨news, hNews, hNames⟩ := h.added
    obtain ⟨news', hNews', hNames'⟩ := h'.added
    refine ⟨⟨news ++ news', ?_, fun d hd => ?_⟩, fun hUnique => h'.unique (h.unique hUnique)⟩
    · rw [hNews', hNews, List.append_assoc]
    · exact (List.mem_append.mp hd).elim (hNames d) (hNames' d)

theorem Grown.of_reads (h : Reads w w') :
    Grown names w w' := by
  obtain ⟨calls, rfl⟩ := h
  exact ⟨⟨[], (List.append_nil _).symm, nofun⟩, id⟩

theorem grown_of_reads {α : Type} {m : Pass α} (h : ReadsOnly m) :
    Within (Grown names) m :=
  h.mono fun _ _ => Grown.of_reads

theorem grown_create (hName : d.name ∈ names) (hStatus : d.status = {}) :
    Within (Grown names) (create env .database d) := by
  intro w
  refine Triple.reached (P := (· = w)) ((create_spec env .database d w).conseq
    ?_ fun _ => Grown.of_reads) rfl
  rintro stored w' ⟨hFree, hGet, hSame⟩
  refine ⟨⟨[stored], hGet, fun x hx => ?_⟩, fun hUnique => hUnique.append hGet hFree⟩
  rw [List.mem_singleton.mp hx]
  have hStored : stored.name = d.name := hSame.name
  exact ⟨hStored ▸ hName, hSame.status.trans hStatus⟩

theorem grown_ensureDatabase (resource : PostgresCluster) {dbSpec : DatabaseSpec}
    (hName : dbSpec.name ∈ names) :
    Within (Grown names) (ensureDatabase env resource dbSpec) := by
  refine .bind_of (grown_of_reads reads_controlledBy)
    (controlledBy_content _ _ _) fun desired hSame => ?_
  refine .bind (grown_of_reads reads_getObject) fun existing => ?_
  cases existing with
  | some _ => exact .pure
  | none =>
    have hDesired : desired.name = dbSpec.name := hSame.name
    exact .bind (grown_create env (hDesired ▸ hName) hSame.status) fun _ => .pure

theorem grown_ensureDatabases (resource : PostgresCluster) {databases : List DatabaseSpec}
    (hNames : ∀ dbSpec ∈ databases, dbSpec.name ∈ names) :
    Within (Grown names) (ensureDatabases env resource databases) := by
  induction databases with
  | nil => exact .pure
  | cons dbSpec rest ih =>
    exact .bind (grown_ensureDatabase env resource (hNames dbSpec List.mem_cons_self))
      fun _ => ih fun other hOther => hNames other (List.mem_cons_of_mem _ hOther)

theorem succeeds_ensureDatabase (hReliable : Reliable env) (resource : PostgresCluster)
    (dbSpec : DatabaseSpec) :
    Succeeds (fun _ => True) (ensureDatabase env resource dbSpec) := by
  refine .of_each fun w _ => ?_
  have hNs : (desiredDatabase resource dbSpec).metadata.ns = resource.metadata.ns := rfl
  refine .bind (controlledBy_new hNs rfl w) fun desired => .of_each ?_
  rintro w ⟨hSame, rfl⟩
  refine .bind (getObject_total hReliable .database _ _ w) fun existing =>
    .of_each ?_
  rintro w' ⟨rfl, hw'⟩
  cases hLookup : lookup .database w.cluster resource.metadata.ns dbSpec.name with
  | some _ => exact .pure fun _ _ => trivial
  | none =>
    have hNone : lookup .database w'.cluster desired.metadata.ns desired.metadata.name = none := by
      rw [cluster_of_reads hw', hSame.ns, hSame.name]
      exact hLookup
    exact .bind (succeeds_create hReliable hNone) fun _ => .skip

theorem succeeds_ensureDatabases (hReliable : Reliable env) (resource : PostgresCluster)
    {databases : List DatabaseSpec} :
    Succeeds (fun _ => True) (ensureDatabases env resource databases) := by
  induction databases with
  | nil => exact .skip
  | cons dbSpec rest ih =>
    exact .bind (succeeds_ensureDatabase env hReliable resource dbSpec) fun _ => ih

/-! ## The step -/

def Stored (d : Database) (databases : List Database) : Prop :=
  databases.find? (hasKey d.metadata.ns d.metadata.name) = some d

instance (d : Database) (databases : List Database) : Decidable (Stored d databases) :=
  inferInstanceAs (Decidable (_ = _))

theorem condemned_of_grown (h : Grown (desiredNames resource) w w') :
    condemned resource w'.cluster.databases = condemned resource w.cluster.databases := by
  obtain ⟨news, hNews, hNames⟩ := h.added
  rw [hNews]
  exact condemned_append fun d hd => (hNames d hd).1

theorem stored_of_grown (h : Grown names w w') (hUnique : Unique .database w.cluster)
    (hMem : d ∈ w.cluster.databases) : Stored d w'.cluster.databases := by
  obtain ⟨news, hNews, -⟩ := h.added
  refine h.unique hUnique d ?_
  change d ∈ w'.cluster.databases
  rw [hNews]
  exact List.mem_append_left _ hMem

theorem stored_of_keptBut (h : KeptBut targets w w') (hTargets : targets ⊆ w.cluster.databases)
    (hUnique : Unique .database w.cluster) (hMem : d ∈ w.cluster.databases) (hNot : d ∉ targets) :
    Stored d w'.cluster.databases := by
  refine (h.lookups _ _ fun x hx hKey => hNot ?_).trans (hUnique d hMem)
  have hX := hUnique x (hTargets hx)
  rw [← hKey.1, ← hKey.2, hUnique d hMem] at hX
  exact Option.some.inj hX ▸ hx

theorem mem_desiredNames :
    ∀ dbSpec ∈ resource.spec.databases, dbSpec.name ∈ desiredNames resource :=
  fun _ h => List.mem_map_of_mem h

variable {env}

theorem reads_firstNotApplied {resource : PostgresCluster} {databases : List DatabaseSpec} :
    ReadsOnly (firstNotApplied env resource databases) := by
  induction databases with
  | nil => exact .pure
  | cons dbSpec rest ih =>
    have hStatus : ReadsOnly (reconcileDatabaseStatus env resource dbSpec) := by
      refine .bind reads_mustGet fun existing => ?_
      split
      · exact .pure
      · split
        · exact .pure
        · exact .pure
    refine .bind hStatus fun result => ?_
    split
    · exact ih
    · exact .pure

theorem alters_setOutputDatabases {kinds : List ObjectKind} {names : List String} :
    Within (Alters kinds) (setOutputDatabases names) := by
  refine .bind alters_getOwn fun resource => ?_
  split
  · exact .throw
  · exact alters_modifyStatus

theorem has_ignoreNotFound {fp : Footprint} {α : Type} {m : Pass α} (h : Has fp m) :
    Has fp (ignoreNotFound m) := by
  refine .bind h.attempt fun result => ?_
  cases result with
  | ok a => exact .pure
  | error e =>
    dsimp only
    split
    · exact .pure
    · exact .throw

theorem has_ensureDatabases {resource : PostgresCluster} {databases : List DatabaseSpec} :
    Has { objects := [.database] } (ensureDatabases env resource databases) := by
  induction databases with
  | nil => exact .pure
  | cons dbSpec rest ih =>
    have hEnsure : Has { objects := [.database] } (ensureDatabase env resource dbSpec) := by
      refine .bind (Has.of_reads reads_controlledBy) fun desired => ?_
      refine .bind has_getObject fun existing => ?_
      cases existing with
      | some _ => exact .pure
      | none =>
        exact .bind (has_create List.mem_cons_self) fun _ => .pure
    exact .bind hEnsure fun _ => ih

theorem has_removeDatabases {desired : List String} {databases : List Database} :
    Has { objects := [.database] } (removeDatabases env desired databases) := by
  induction databases with
  | nil => exact .pure
  | cons d rest ih =>
    unfold removeDatabases
    split
    · exact ih
    · split
      · exact ih
      · split
        · split
          · exact has_ignoreNotFound (has_delete List.mem_cons_self)
          · exact .pure
        · exact .bind (has_ignoreNotFound (has_update List.mem_cons_self)) fun _ => ih

theorem alters_databasesVerdict {kinds : List ObjectKind} (resource : PostgresCluster) :
    Within (Alters kinds) (do
      match ← onCluster (firstNotApplied env resource resource.spec.databases) with
      | some msg =>
        setStatusCondition env .databasesApplied .conditionFalse "DatabasesNotApplied" msg
        return StepResult.stop
      | none =>
        setStatusCondition env .databasesApplied .conditionTrue "DatabasesApplied"
          "All databases and extensions applied successfully"
        setOutputDatabases
          (uniq (resource.spec.databases.map DatabaseSpec.name ++ [defaultDatabaseName]))
        return StepResult.nil) := by
  refine .bind (alters_reads reads_firstNotApplied) fun msg => ?_
  cases msg with
  | some msg => exact .bind alters_setStatusCondition fun _ => .pure
  | none =>
    exact .bind alters_setStatusCondition fun _ =>
      .bind alters_setOutputDatabases fun _ => .pure

theorem alters_reconcileDatabases :
    Within (Alters [.database]) (reconcileDatabases env) := by
  refine .bind alters_getOwn fun resource => ?_
  split
  · exact .pure
  · split
    · exact .bind alters_setOutputDatabases fun _ => .pure
    · refine .bind (alters_onCluster has_ensureDatabases) fun _ => ?_
      refine .bind (alters_onCluster (.bind (Has.of_reads reads_listObjects)
        fun _ => has_removeDatabases)) fun _ => ?_
      exact alters_databasesVerdict resource

theorem keeps_databases {α : Type} {kinds : List ObjectKind} {m : PostgresPass α}
    (h : Within (Alters kinds) m) (hKinds : .database ∉ kinds) {I : List Database → Prop} :
    Ensures (fun s => I s.world.cluster.databases) m (fun s => I s.world.cluster.databases) := by
  refine h.triple fun s s' hAlters hs => ?_
  have hSame : s'.world.cluster.databases = s.world.cluster.databases :=
    hAlters.objects .database hKinds
  rw [hSame]
  exact hs

theorem grown_ensure (s : Session PostgresCluster) :
    Ensures (· = s.world) (ensureDatabases env s.own s.own.spec.databases)
      (Grown (desiredNames s.own) s.world) := by
  refine ((grown_ensureDatabases env s.own mem_desiredNames).triple
    (P := Grown (desiredNames s.own) s.world) fun _ _ h h0 => trans_of (Grown _) h0 h).pre ?_
  rintro _ rfl
  exact refl_of (Grown _) _

theorem triple_reconcileDatabases (hReady : clusterReadyNow s.own = true)
    (hSome : s.own.spec.databases ≠ []) {I : List Database → Prop} {J : World → Prop}
    (hJ : ∀ w, I w.cluster.databases → J w)
    (hEnsure : Triple (· = s.world) (ensureDatabases env s.own s.own.spec.databases)
      (fun _ => Grown (desiredNames s.own) s.world) J)
    (hRemove : ∀ w, Grown (desiredNames s.own) s.world w →
      Triple (· = w) (reconcileUnWantedDatabases env s.own)
        (fun _ w' => I w'.cluster.databases) J) :
    Triple (· = s) (reconcileDatabases env) (fun _ s' => I s'.world.cluster.databases)
      fun s' => J s'.world := by
  have hNone : ObjectKind.database ∉ ([] : List ObjectKind) := List.not_mem_nil
  refine bind_getOwn ?_
  rw [hReady, if_neg (by decide), if_neg hSome]
  refine .bind ((onCluster_spec hEnsure s.own).onError
    fun _ h => h.1) fun _ => .of_each fun s1 hs1 => ?_
  refine .bind (R := fun _ s2 => I s2.world.cluster.databases)
    ((onCluster_spec (hRemove s1.world hs1.1) s1.own).conseq (fun _ _ h => h.1)
    fun _ h => h.1) fun _ => ?_
  exact (keeps_databases (alters_databasesVerdict s.own) hNone).onError fun s2 h => hJ s2.world h

/-- **The step leaves every Database but the condemned ones**, whatever API call fails. -/
theorem kept_reconcileDatabases (hUnique : Unique .database s.world.cluster)
    (hMem : d ∈ s.world.cluster.databases)
    (hNot : s.own.spec.databases ≠ [] → d ∉ condemned s.own s.world.cluster.databases) :
    Ensures (· = s) (reconcileDatabases env) (fun s' => Stored d s'.world.cluster.databases) := by
  have hStart : Stored d s.world.cluster.databases := hUnique d hMem
  have hNone : ObjectKind.database ∉ ([] : List ObjectKind) := List.not_mem_nil
  -- not ready, or nothing listed: the step ends before the Databases
  cases hReady : clusterReadyNow s.own with
  | false =>
    refine bind_getOwn ?_
    rw [hReady, if_pos (by decide)]
    exact .ret hStart
  | true =>
    by_cases hSome : s.own.spec.databases = []
    · refine bind_getOwn ?_
      rw [hReady, if_neg (by decide), if_pos hSome]
      exact (keeps_databases (.bind alters_setOutputDatabases fun _ => .pure)
        hNone).start hStart
    · refine triple_reconcileDatabases hReady hSome
        (J := fun w => Stored d w.cluster.databases) (fun _ h => h)
        ((grown_ensure s).onError
          fun w hw => stored_of_grown hw hUnique hMem) fun w hw => ?_
      -- the Databases that were added are behind those that were there
      have hMem' : d ∈ w.cluster.databases := by
        obtain ⟨news, hNews, -⟩ := hw.added
        rw [hNews]
        exact List.mem_append_left _ hMem
      -- none that was added is condemned
      have hSpared : ∀ w', KeptBut (condemned s.own w.cluster.databases) w w' →
          Stored d w'.cluster.databases := by
        intro w' hKept
        refine stored_of_keptBut hKept (fun _ => mem_of_condemned) (hw.unique hUnique) hMem' ?_
        rw [condemned_of_grown hw]
        exact hNot hSome
      exact (reconcileUnWantedDatabases_spec env s.own (hw.unique hUnique)).conseq
        (fun _ w' h => hSpared w' h.1) fun w' h => hSpared w' h.1

/-- **The step asks for the removal of the condemned Databases**, if it gets to run, and succeeds or
no API call fails. -/
theorem condemned_reconcileDatabases (hHonest : Honest env)
    (hUnique : Unique .database s.world.cluster) (hReady : clusterReadyNow s.own = true)
    (hSome : s.own.spec.databases ≠ [])
    (hCondemned : d ∈ condemned s.own s.world.cluster.databases) :
    Triple (· = s) (reconcileDatabases env) (fun _ s' => Condemned d s'.world.cluster.databases)
      fun s' => Reliable env → Condemned d s'.world.cluster.databases := by
  have hEnsure := (grown_ensure s).unless fun hReliable =>
    (succeeds_ensureDatabases env hReliable s.own).pre fun _ _ => trivial
  refine triple_reconcileDatabases hReady hSome (I := Condemned d)
    (J := fun w => Reliable env → Condemned d w.cluster.databases) (fun _ h _ => h)
    (hEnsure.onError fun _ h hReliable => absurd hReliable h.2) fun w hw => ?_
  refine (reconcileUnWantedDatabases_spec env s.own (hw.unique hUnique)).conseq
    (fun _ w' hw' => ?_) fun _ h hReliable => absurd hReliable h.2
  exact hw'.2 hHonest d (condemned_of_grown hw ▸ hCondemned)

end

end ClusterAgent.PostgresController
