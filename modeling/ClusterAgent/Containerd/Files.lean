import ClusterAgent.Containerd.Reconciler

/-!
# Cluster agent — the files a call of the containerd reconciler writes

Every TOML file is written next to its place and then renamed. A call that fails has
therefore replaced a file or left it as it was, and what lies around are temporary
files only.

* `Blind` — what is said of a node does not depend on one file, so writes to it keep it;
* `writeConfigTOML_spec` — up to the rename only the temporary file is touched;
* `hostsText` — what a list of registries asks for at a path: the last entry wins;
* `reconcileHostsConfig_files` — a success writes that and nothing else.
-/

namespace ClusterAgent.Containerd

open Effect

variable (prog : Program) (call : Call)

/-! ## Operations -/

/-- Only the position in the call moves. -/
def Advances (node node' : Node) : Prop := ∃ n, node' = { node with ops := n }

instance : IsPreorder Node Advances where
  refl node := ⟨node.ops, rfl⟩
  trans := by
    rintro a _ _ ⟨n, rfl⟩ ⟨m, rfl⟩
    exact ⟨m, rfl⟩

theorem operation_run (op : Op) (node : Node) :
    operation call op node =
      match call.fault node.ops op with
      | some e => .error e { node with ops := node.ops + 1 }
      | none => .ok ⟨⟩ { node with ops := node.ops + 1 } := by
  change (match call.fault node.ops op with
    | some e => (throw e : ReconcileM PUnit)
    | none => pure ⟨⟩) { node with ops := node.ops + 1 } = _
  cases call.fault node.ops op <;> rfl

theorem operation_advances (op : Op) : Within Advances (operation call op) := by
  intro node
  rw [operation_run]
  cases call.fault node.ops op <;> exact ⟨node.ops + 1, rfl⟩

section

variable {P : Node → Prop} (hOps : ∀ node n, P node → P { node with ops := n })

include hOps

theorem operation_keeps (op : Op) : Ensures P (operation call op) P := by
  refine (operation_advances call op).triple fun node _ hStep hP => ?_
  obtain ⟨n, rfl⟩ := hStep
  exact hOps node n hP

theorem notExist_spec {path : Path} :
    Triple P (notExist call path)
      (fun missing node => P node ∧ (missing = true → node.files path = none)) P := by
  refine .bind (operation_keeps call hOps _).attempted fun looked => ?_
  refine .bind (R := fun found node => found = node ∧ P node) (.get fun _ h => ⟨rfl, h⟩)
    fun found => ?_
  cases looked with
  | ok _ =>
    refine .pure fun node h => ⟨h.2, fun hMissing => ?_⟩
    rw [← h.1]
    exact Option.isNone_iff_eq_none.mp hMissing
  | error _ => exact .pure fun _ h => ⟨h.2, nofun⟩

theorem readFile_spec (path : Path) :
    Triple P (readFile call path) (fun data node => P node ∧ node.files path = some data) P := by
  refine .bind (operation_keeps call hOps _) fun _ => ?_
  refine .bind (R := fun found node => found = node ∧ P node) (.get fun _ h => ⟨rfl, h⟩)
    fun found => ?_
  cases hFile : found.files path with
  | none => exact .throw fun _ h => h.2
  | some contents =>
    refine .pure fun node h => ⟨h.2, ?_⟩
    rw [← h.1]
    exact hFile

end

theorem readRegistryConfig_spec (node : Node) :
    Triple (Advances node) (readRegistryConfig prog call)
      (fun config node' => Advances node node' ∧
        (node.files prog.flags.registryConfig).map prog.unmarshalRegistries = some (.ok config))
      (Advances node) := by
  have hOps : ∀ node' n, Advances node node' → Advances node { node' with ops := n } :=
    fun _ n h => trans_of Advances h ⟨n, rfl⟩
  refine .bind ((notExist_spec call hOps).post fun _ _ h => h.1) fun missing => ?_
  cases missing with
  | true => exact .fail
  | false =>
    refine .bind ((readFile_spec call hOps _).mapError) fun data => ?_
    cases hData : prog.unmarshalRegistries data with
    | error e => exact .throw fun _ h => h.1
    | ok config =>
      refine .pure fun node' h => ⟨h.1, ?_⟩
      obtain ⟨⟨n, rfl⟩, hFile⟩ := h
      rw [show node.files prog.flags.registryConfig = some data from hFile, Option.map_some, hData]

/-! ## Writing a file -/

structure Blind (path : Path) (P : Node → Prop) : Prop where
  ops : ∀ node n, P node → P { node with ops := n }
  put : ∀ node contents, P node → P (node.put prog path contents)

section

variable {prog} {path : Path} {P : Node → Prop}

theorem Blind.create (h : Blind prog path P) : Ensures P (create prog call path) P :=
  .bind (operation_keeps call h.ops _) fun _ => .modify fun node hP => h.put node _ hP

theorem Blind.remove (h : Blind prog path P) : Ensures P (remove prog call path) P :=
  .bind (operation_keeps call h.ops _) fun _ => .modify fun node hP => h.put node _ hP

theorem Blind.writeFile (h : Blind prog path P) (contents : String) :
    Ensures P (writeFile prog call path contents) P :=
  .bind (h.create call) fun _ => .bind (operation_keeps call h.ops _) fun _ =>
    .bind (R := fun _ => P) (.modify fun node hP => h.put node _ hP) fun _ =>
      operation_keeps call h.ops _

theorem Blind.encodeInto (h : Blind prog path P) (config : Table) :
    Triple P (encodeInto prog call path config)
      (fun _ node => P node ∧
        ∃ text, prog.encodeToml config = .ok text ∧ node.files path = some text) P := by
  unfold Containerd.encodeInto
  cases prog.encodeToml config with
  | error e => exact .fail
  | ok contents =>
    refine .bind (operation_keeps call h.ops _) fun _ => .modify fun node hP => ?_
    exact ⟨h.put node _ hP, contents, rfl, if_pos rfl⟩

theorem suffixed_ne (path : Path) {suffix : String} (hSuffix : suffix ≠ "") :
    path.suffixed suffix ≠ path := by
  intro h
  have hName : path.name ++ suffix = path.name := congrArg Path.name h
  exact hSuffix (String.append_eq_left_iff.mp hName)

/-- Up to the rename only the temporary file is touched. What fails after it is the change of
the permissions. -/
theorem writeConfigTOML_spec (config : Table) {R E : Node → Prop}
    (hP : Blind prog (path.suffixed ".tmp") P)
    (hWritten : ∀ node contents, P node → prog.encodeToml config = .ok contents →
      R ((node.put prog path (some contents)).put prog (path.suffixed ".tmp") none))
    (hOps : ∀ node n, R node → R { node with ops := n }) (hEarly : ∀ node, P node → E node)
    (hLate : (∃ n, call.fault n (.chmod path) ≠ none) → ∀ node, R node → E node) :
    Triple P (writeConfigTOML prog call path config) (fun _ => R) E := by
  refine .bind ((hP.create call).mapError.onError hEarly) fun _ => ?_
  refine .bind (hP.encodeInto call config).attempt fun encoded => ?_
  -- an encoder that fails leaves the target, and the temporary file is removed
  cases encoded with
  | error e =>
    exact .bind (operation_keeps call hP.ops _).attempted fun _ =>
      .bind (hP.remove call).attempted fun _ => .throw hEarly
  | ok _ =>
    -- from here on the temporary file holds the text
    let Encoded (node : Node) : Prop := P node ∧ ∃ text, prog.encodeToml config = .ok text ∧
      node.files (path.suffixed ".tmp") = some text
    have hEncoded : ∀ node n, Encoded node → Encoded { node with ops := n } :=
      fun node n h => ⟨hP.ops node n h.1, h.2⟩
    refine .bind (operation_keeps call hEncoded _).attempt fun closed => ?_
    cases closed with
    | error e => exact .bind ((hP.remove call).attempted.pre fun _ h => h.1) fun _ => .throw hEarly
    | ok _ =>
      -- the rename puts the text at the target, and the temporary file is gone
      have hRename : Triple Encoded (rename prog call (path.suffixed ".tmp") path)
          (fun _ => R) E := by
        refine .bind ((operation_keeps call hEncoded _).onError fun node h => hEarly node h.1)
          fun _ => .bind (R := fun found node => node = found ∧ Encoded node)
            (.get fun _ h => ⟨rfl, h⟩) fun found => .modify fun node h => ?_
        obtain ⟨rfl, hNode, contents, hText, hFile⟩ := h
        rw [hFile]
        exact hWritten node contents hNode hText
      refine .bind hRename.mapError fun _ => .mapError fun node hNode => ?_
      rw [operation_run]
      -- the mode is set last: if that fails, the target is written all the same
      cases hFault : call.fault node.ops (.chmod path) with
      | none => exact hOps node _ hNode
      | some e => exact hLate ⟨node.ops, by rw [hFault]; nofun⟩ _ (hOps node _ hNode)

end

/-! ## Hosts files -/

def hostsPath (hostsConfigDir : String) (registry : Registry) : Option Path :=
  (prog.urlHostname registry.endpoint).toOption.map fun host =>
    { dir := joinPath hostsConfigDir host, name := "hosts.toml" }

def askedAt (path : Path) (text : Option String) (p : Path) : Option String :=
  if p = path then text else none

def hostsText (hostsConfigDir : String) : List Registry → Path → Option String
  | [], _ => none
  | registry :: rest, p =>
    (hostsText hostsConfigDir rest p).or ((hostsPath prog hostsConfigDir registry).bind
      fun path => askedAt path (prog.encodeToml (hostsConfigOf registry)).toOption p)

/-- The files that are there to stay, not the temporary ones. -/
def Lasting (p : Path) : Prop :=
  ¬ (p.name = "hosts.toml" ++ ".tmp" ∨ p = prog.configPath.suffixed ".tmp")

def IsHosts (p : Path) : Prop := p.name = "hosts.toml"

def filled (text : Path → Option String) (files : Files) : Files := fun p => (text p).or (files p)

def Complete (hostsConfigDir : String) (registries : List Registry) : Prop :=
  ∀ registry ∈ registries, ∃ p text, hostsPath prog hostsConfigDir registry = some p ∧
    prog.encodeToml (hostsConfigOf registry) = .ok text

theorem append_ne_hosts {name : String} {suffix : String} {c : Char}
    (hLast : suffix.toList.getLast? = some c) (hc : c ≠ 'l') : name ++ suffix ≠ "hosts.toml" := by
  intro hName
  have hEnd := congrArg (fun s : String => s.toList.getLast?) hName
  simp only [String.toList_append, List.getLast?_append, hLast, Option.some_or] at hEnd
  exact hc (Option.some.inj hEnd)

theorem IsHosts.ne_config {p : Path} (h : IsHosts p) : p ≠ prog.configPath := by
  rintro rfl
  exact prog.flags.notHosts.1 h

theorem IsHosts.lasting {p : Path} (h : IsHosts p) : Lasting prog p := by
  rintro (hName | rfl)
  · rw [show p.name = "hosts.toml" from h] at hName
    exact absurd hName (by decide)
  · exact append_ne_hosts rfl (by decide) h

theorem lasting_configPath : Lasting prog prog.configPath := by
  rintro (hName | hTmp)
  · exact prog.flags.notHosts.2 hName
  · exact suffixed_ne prog.configPath (by decide) hTmp.symm

/-! ## A call on its way -/

/-- Neither the reload that is pending nor the one that is due changes. -/
structure Keeps (node node' : Node) : Prop where
  pending : node'.pendingReload = node.pendingReload
  unsignalled : node'.unsignalled = node.unsignalled

/-- Nothing to signal has happened since `node₀`, and the files in `S` are as in `files`. -/
structure Going (S : Path → Prop) (node₀ : Node) (files : Files) (node : Node) : Prop where
  keeps : Keeps node₀ node
  stands : ∀ p, S p → node.files p = files p

/-- The same of the files for which no text is asked. -/
structure Halted (S : Path → Prop) (node₀ : Node) (text : Path → Option String) (files : Files)
    (node : Node) : Prop where
  keeps : Keeps node₀ node
  spared : ∀ p, S p → text p = none → node.files p = files p

variable {prog} {node₀ : Node} {files : Files} {node : Node} {text : Path → Option String}
  {S : Path → Prop}

theorem Going.ops (node : Node) (n : Nat) (h : Going S node₀ files node) :
    Going S node₀ files { node with ops := n } := ⟨⟨h.keeps.pending, h.keeps.unsignalled⟩, h.stands⟩

theorem Going.halted (h : Going S node₀ files node) : Halted S node₀ text files node :=
  ⟨h.keeps, fun p hp _ => h.stands p hp⟩

theorem Going.filled (h : Going S node₀ (filled text files) node) :
    Halted S node₀ text files node := by
  refine ⟨h.keeps, fun p hp hNone => ?_⟩
  rw [h.stands p hp, Containerd.filled, hNone, Option.none_or]

theorem Going.blind {path : Path} (hPath : path ≠ prog.configPath) (h : ¬ S path) :
    Blind prog path (Going S node₀ files) where
  ops := Going.ops
  put node contents hGoing := by
    refine ⟨⟨hGoing.keeps.pending, ?_⟩, fun p hp => ?_⟩
    · simpa [Node.put, hPath] using hGoing.keeps.unsignalled
    · have hOther : p ≠ path := fun hEq => h (hEq ▸ hp)
      show (if p = path then contents else node.files p) = files p
      rw [if_neg hOther]
      exact hGoing.stands p hp

theorem ensureHostsConfig_files {path : Path} (hPath : IsHosts path) (registry : Registry) :
    Triple (Going (Lasting prog) node₀ files) (ensureHostsConfig prog call path registry)
      (fun _ node => (∃ contents, prog.encodeToml (hostsConfigOf registry) = .ok contents) ∧
        Going (Lasting prog) node₀ (filled (askedAt path
          (prog.encodeToml (hostsConfigOf registry)).toOption) files) node)
      (Halted (Lasting prog) node₀
        (askedAt path (prog.encodeToml (hostsConfigOf registry)).toOption) files) := by
  unfold ensureHostsConfig
  cases hText : prog.encodeToml (hostsConfigOf registry) with
  | error e => exact .throw fun _ h => h.halted
  | ok desired =>
    have hName : path.name = "hosts.toml" := hPath
    have hTmp : ¬ Lasting prog (path.suffixed ".tmp") :=
      not_not_intro (Or.inl (congrArg (· ++ ".tmp") hName))
    have hConfig := hPath.ne_config prog
    -- neither the hosts file nor its temporary one is the config file of containerd
    have hTmpConfig : path.suffixed ".tmp" ≠ prog.configPath := fun h =>
      prog.flags.notHosts.2 (hName ▸ (congrArg Path.name h).symm)
    have hAt : ∀ {p : Path}, p = path →
        filled (askedAt path (some desired)) files p = some desired := by
      rintro p rfl
      rw [filled, askedAt, if_pos rfl, Option.some_or]
    have hElse : ∀ {p : Path}, p ≠ path →
        filled (askedAt path (some desired)) files p = files p := by
      intro p hp
      rw [filled, askedAt, if_neg hp, Option.none_or]
    -- the write, if it comes to that
    have hWrite : Triple (Going (Lasting prog) node₀ files)
        (writeConfigTOML prog call path (hostsConfigOf registry))
        (fun _ => Going (Lasting prog) node₀ (filled (askedAt path (some desired)) files))
        (Halted (Lasting prog) node₀ (askedAt path (some desired)) files) := by
      refine writeConfigTOML_spec call _ (Going.blind hTmpConfig hTmp)
        (fun node contents h hContents => ⟨⟨h.keeps.pending, ?_⟩, fun p hp => ?_⟩) Going.ops
        (fun _ h => h.halted) fun _ _ h => h.filled
      · simpa [Node.put, hConfig, hTmpConfig] using h.keeps.unsignalled
      · cases hText.symm.trans hContents
        have hOther : p ≠ path.suffixed ".tmp" := fun hEq => hTmp (hEq ▸ hp)
        by_cases hp' : p = path
        · rw [hAt hp']
          rw [hp'] at hOther
          simp [Node.put, hOther, hp']
        · rw [hElse hp', ← h.stands p hp]
          simp [Node.put, hOther, hp']
    -- a hosts file that cannot be read is written anew; one with the desired text is left
    refine .bind (readFile_spec call Going.ops path).attempt fun existing => ?_
    cases existing with
    | error _ => exact hWrite.post fun _ _ h => ⟨⟨desired, rfl⟩, h⟩
    | ok contents =>
      dsimp only
      split
      · next hSame =>
        refine .pure fun node h => ⟨⟨desired, rfl⟩, h.1.keeps, fun p hp => ?_⟩
        dsimp only [Except.toOption]
        by_cases hp' : p = path
        · rw [hAt hp', hp', h.2, hSame]
        · rw [hElse hp', h.1.stands p hp]
      · exact (hWrite.pre fun _ h => h.1).post fun _ _ h => ⟨⟨desired, rfl⟩, h⟩

variable (node₀ files) in
theorem reconcileHostsConfig_files {hostsConfigDir : String} {registries : List Registry} :
    Triple (Going (Lasting prog) node₀ files)
      (reconcileHostsConfig prog call hostsConfigDir registries)
      (fun _ node => Complete prog hostsConfigDir registries ∧
        Going (Lasting prog) node₀ (filled (hostsText prog hostsConfigDir registries) files) node)
      (Halted (Lasting prog) node₀ (hostsText prog hostsConfigDir registries) files) := by
  -- over the registries; `files` is what stands when the loop comes to one
  induction registries generalizing files with
  | nil => exact .pure fun node h => ⟨nofun, h⟩
  | cons registry rest ih =>
    let asked : Path → Option String := fun p => (hostsPath prog hostsConfigDir registry).bind
      fun path => askedAt path (prog.encodeToml (hostsConfigOf registry)).toOption p
    have hFirst : Triple (Going (Lasting prog) node₀ files)
        (reconcileHostConfig prog call hostsConfigDir registry)
        (fun _ node => Complete prog hostsConfigDir [registry] ∧
          Going (Lasting prog) node₀ (filled asked files) node)
        (Halted (Lasting prog) node₀ asked files) := by
      unfold reconcileHostConfig asked Complete hostsPath
      cases hHost : prog.urlHostname registry.endpoint with
      | error e => exact .throw fun _ h => h.halted
      | ok host =>
        have hPath : IsHosts { dir := joinPath hostsConfigDir host, name := "hosts.toml" } := rfl
        refine .bind ((operation_keeps call Going.ops _).mapError.onError fun _ h => h.halted)
          fun _ => (ensureHostsConfig_files call hPath registry).post fun _ node h => ⟨?_, h.2⟩
        intro r hr
        rw [List.mem_singleton.mp hr]
        obtain ⟨contents, hContents⟩ := h.1
        refine ⟨{ dir := joinPath hostsConfigDir host, name := "hosts.toml" }, contents, ?_,
          hContents⟩
        rw [hHost]
        rfl
    -- a later registry of the same host overrides an earlier one
    have hOr : filled (hostsText prog hostsConfigDir (registry :: rest)) files =
        filled (hostsText prog hostsConfigDir rest) (filled asked files) := by
      funext p
      exact Option.or_assoc
    -- a failure spares the files that neither this registry nor the rest asks for
    refine .bind (hFirst.onError fun node h => ⟨h.keeps, fun p hp hNone => h.spared p hp ?_⟩)
      fun _ => .of_each fun node hNode => ?_
    · exact (Option.or_eq_none_iff.mp hNone).2
    · refine (ih (filled asked files)).mono ?_ (fun _ node' h => ?_)
        fun node' h => ⟨h.keeps, fun p hp hNone => ?_⟩
      · rintro _ rfl
        exact hNode.2
      · rw [hOr]
        refine ⟨fun r hr => ?_, h.2⟩
        rcases List.mem_cons.mp hr with rfl | hr
        · exact hNode.1 r List.mem_cons_self
        · exact h.1 r hr
      · obtain ⟨hRest, hAsked⟩ := Option.or_eq_none_iff.mp hNone
        rw [h.spared p hp hRest]
        show (asked p).or (files p) = files p
        rw [show asked p = none from hAsked, Option.none_or]

/-! ## The config file -/

variable (prog) in
/-- A write of the config file that fails has left no trace, unless the permissions cannot be
set. -/
def Unwritten (node₀ : Node) (node : Node) : Prop :=
  (∀ n, call.fault n (.chmod prog.configPath) = none) → Keeps node₀ node

theorem writeConfigTOML_config (config : Table) :
    Triple (Going IsHosts node₀ files) (writeConfigTOML prog call prog.configPath config)
      (fun _ node => node.pendingReload = node₀.pendingReload ∧
        (∀ p, IsHosts p → node.files p = files p) ∧ ∃ contents,
          prog.encodeToml config = .ok contents ∧ node.files prog.configPath = some contents)
      (fun node => Unwritten prog call node₀ node ∧
        ∀ p, IsHosts p → node.files p = files p) := by
  have hNotTmp : prog.configPath.suffixed ".tmp" ≠ prog.configPath :=
    suffixed_ne prog.configPath (by decide)
  have hTmp : ¬ IsHosts (prog.configPath.suffixed ".tmp") := append_ne_hosts rfl (by decide)
  refine writeConfigTOML_spec call config (Going.blind hNotTmp hTmp)
    (fun node contents h hText => ⟨h.keeps.pending, fun p hp => ?_, contents, hText, ?_⟩)
    (fun _ _ h => h) (fun _ h => ⟨fun _ => h.keeps, h.stands⟩)
    fun ⟨n, hn⟩ _ h => ⟨fun hChmod => absurd (hChmod n) hn, h.2.1⟩
  · have hOther : p ≠ prog.configPath.suffixed ".tmp" := fun hEq => hTmp (hEq ▸ hp)
    simp [Node.put, hOther, hp.ne_config prog, h.stands p hp]
  · simp [Node.put, hNotTmp.symm]

variable (prog) in
def hostsDirFor : Option String → Option String
  | none => some (joinPath prog.flags.configDir "certs.d")
  | some data =>
    (prog.decodeToml data).toOption.bind fun decoded =>
      (planUpdate prog decoded).toOption.map ConfigUpdate.hostsConfigDir

variable (prog) in
def hostsAsked (files : Files) (registries : List Registry) (p : Path) : Option String :=
  (hostsDirFor prog (files prog.configPath)).bind fun dir => hostsText prog dir registries p

theorem hostsAsked_eq {dir : String} (h : hostsDirFor prog (files prog.configPath) = some dir)
    (registries : List Registry) :
    hostsAsked prog files registries = hostsText prog dir registries := by
  funext p
  rw [hostsAsked, h, Option.bind_some]

variable (prog) in
structure Updated (files : Files) (registries : List Registry) (plan : ConfigUpdate)
    (changed : Bool) (node : Node) : Prop where
  changed : changed = plan.updated
  kept : plan.updated = false → ∀ p, Lasting prog p →
    node.files p = filled (hostsText prog plan.hostsConfigDir registries) files p
  written : plan.updated = true → ∃ contents,
    prog.encodeToml plan.config = .ok contents ∧ node.files prog.configPath = some contents

variable (prog) in
/-- What a successful update leaves: a change of the config file is reported, and the hosts
files are what the registries ask for. -/
structure UpdateLeft (node₀ : Node) (files : Files) (registries : List Registry) (changed : Bool)
    (node : Node) : Prop where
  pending : node.pendingReload = node₀.pendingReload
  unsignalled : changed = false → node.unsignalled = node₀.unsignalled
  complete : ∃ dir, hostsDirFor prog (files prog.configPath) = some dir ∧
    Complete prog dir registries
  hosts : ∀ p, IsHosts p → node.files p = filled (hostsAsked prog files registries) files p
  existing : ∀ data, files prog.configPath = some data → ∃ decoded plan,
    prog.decodeToml data = .ok decoded ∧ planUpdate prog decoded = .ok plan ∧
      Updated prog files registries plan changed node

variable (prog) in
structure UpdateFailed (node₀ : Node) (files : Files) (registries : List Registry) (node : Node) :
    Prop where
  unwritten : Unwritten prog call node₀ node
  hosts : ∀ p, IsHosts p → hostsAsked prog files registries p = none → node.files p = files p

theorem Halted.failed {dir : String} {registries : List Registry}
    (hDir : hostsDirFor prog (files prog.configPath) = some dir)
    (h : Halted (Lasting prog) node₀ (hostsText prog dir registries) files node) :
    UpdateFailed prog call node₀ files registries node :=
  ⟨fun _ => h.keeps, fun p hp hNone =>
    h.spared p (hp.lasting prog) (hostsAsked_eq hDir registries ▸ hNone)⟩

theorem Going.failed {registries : List Registry} (h : Going (Lasting prog) node₀ files node) :
    UpdateFailed prog call node₀ files registries node :=
  ⟨fun _ => h.keeps, fun p hp _ => h.stands p (hp.lasting prog)⟩

theorem writeConfigTOML_last {dir : String} {registries : List Registry} (config : Table)
    (hDir : hostsDirFor prog (files prog.configPath) = some dir) :
    Triple (Going IsHosts node₀ (filled (hostsText prog dir registries) files))
      (writeConfigTOML prog call prog.configPath config)
      (fun _ node => node.pendingReload = node₀.pendingReload ∧
        (∀ p, IsHosts p → node.files p = filled (hostsAsked prog files registries) files p) ∧
        ∃ contents, prog.encodeToml config = .ok contents ∧
          node.files prog.configPath = some contents)
      (UpdateFailed prog call node₀ files registries) := by
  rw [← hostsAsked_eq hDir]
  refine (writeConfigTOML_config call config).onError fun node h => ⟨h.1, fun p hp hNone => ?_⟩
  rw [h.2 p hp, filled, hNone, Option.none_or]

theorem updateExisting_files (registries : List Registry) {data : String}
    (hData : files prog.configPath = some data) :
    Triple (Going (Lasting prog) node₀ files) (updateExisting prog call registries data)
      (UpdateLeft prog node₀ files registries) (UpdateFailed prog call node₀ files registries) := by
  unfold updateExisting
  -- a config that cannot be decoded or planned for stops the update before any write
  cases hDecoded : prog.decodeToml data with
  | error e => exact .throw fun _ h => h.failed call
  | ok decoded =>
    dsimp only
    cases hPlan : planUpdate prog decoded with
    | error e => exact .throw fun _ h => h.failed call
    | ok plan =>
      have hDir : hostsDirFor prog (files prog.configPath) = some plan.hostsConfigDir := by
        simp [hData, hostsDirFor, hDecoded, hPlan, Except.toOption]
      have hExisting : ∀ {changed : Bool} {node : Node},
          Updated prog files registries plan changed node → ∀ data',
            files prog.configPath = some data' → ∃ decoded plan,
              prog.decodeToml data' = .ok decoded ∧ planUpdate prog decoded = .ok plan ∧
                Updated prog files registries plan changed node := by
        intro changed node hUpdated data' hData'
        cases hData.symm.trans hData'
        exact ⟨decoded, plan, hDecoded, hPlan, hUpdated⟩
      refine .bind ((reconcileHostsConfig_files call node₀ files).onError
        fun _ h => h.failed call hDir) fun _ => .of_each fun node ⟨hComplete, hGoing⟩ => ?_
      -- the hosts files stand before the config file is looked at
      have hHosts : Going IsHosts node₀
          (filled (hostsText prog plan.hostsConfigDir registries) files) node :=
        ⟨hGoing.keeps, fun p hp => hGoing.stands p (hp.lasting prog)⟩
      -- the backup is a courtesy: its failure is dropped
      by_cases hUpdated : plan.updated = true
      · rw [if_pos hUpdated]
        have hBackup : Blind prog (prog.configPath.suffixed ".bak")
            (Going IsHosts node₀ (filled (hostsText prog plan.hostsConfigDir registries) files)) :=
          Going.blind (suffixed_ne _ (by decide)) (append_ne_hosts rfl (by decide))
        refine .bind ((hBackup.writeFile call data).attempted.start hHosts) fun _ =>
          .bind (writeConfigTOML_last call plan.config hDir).mapError fun _ =>
            .pure fun node' h => ⟨h.1, nofun, ⟨_, hDir, hComplete⟩, h.2.1,
              hExisting ⟨hUpdated.symm, fun hNot => ?_, fun _ => h.2.2⟩⟩
        rw [hUpdated] at hNot
        cases hNot
      · rw [if_neg hUpdated]
        have hNot : plan.updated = false := by simpa using hUpdated
        refine .ret ?_
        refine ⟨hGoing.keeps.pending, fun _ => hGoing.keeps.unsignalled, ⟨_, hDir, hComplete⟩,
          hostsAsked_eq hDir registries ▸ hHosts.stands,
          hExisting ⟨hNot.symm, fun _ => hGoing.stands, fun hYes => ?_⟩⟩
        exact absurd hYes hUpdated

/-- **An update.** A success has written what the registries ask for, and a failure has written
no other hosts file. -/
theorem updateContainerdConfig_files (registries : List Registry) :
    Triple (Going (Lasting prog) node₀ files) (updateContainerdConfig prog call registries)
      (UpdateLeft prog node₀ files registries) (UpdateFailed prog call node₀ files registries) := by
  have hLasting := lasting_configPath prog
  refine .bind ((notExist_spec call Going.ops).onError fun _ h => h.failed call)
    fun missing => ?_
  cases missing with
  | true =>
    refine .of_each fun node ⟨hGoing, hMissing⟩ => ?_
    have hNone : files prog.configPath = none :=
      (hGoing.stands _ hLasting).symm.trans (hMissing rfl)
    have hDir : hostsDirFor prog (files prog.configPath) =
        some (joinPath prog.flags.configDir "certs.d") := by
      rw [hNone]
      rfl
    refine .bind ((reconcileHostsConfig_files call node₀ files).mono (fun _ h => h ▸ hGoing)
      (fun _ _ h => h) fun _ h => h.failed call hDir) fun _ =>
        .of_each fun node' ⟨hComplete, hGoing'⟩ => ?_
    refine .bind ((writeConfigTOML_last call _ hDir).pre ?_) fun _ =>
      .pure fun _ h => ⟨h.1, nofun, ⟨_, hDir, hComplete⟩, h.2.1, fun data hData => ?_⟩
    · rintro _ rfl
      exact ⟨hGoing'.keeps, fun p hp => hGoing'.stands p (hp.lasting prog)⟩
    · cases hNone.symm.trans hData
  | false =>
    refine .bind (((readFile_spec call Going.ops _).pre fun _ h => h.1).mapError.onError
      fun _ h => h.failed call) fun data => .of_each fun node ⟨hGoing, hData⟩ => ?_
    exact (updateExisting_files call registries
      ((hGoing.stands _ hLasting).symm.trans hData)).start hGoing

/-! ## What a configuration asks for -/

variable (prog) in
def configured (files : Files) : Option (List Registry) :=
  match (files prog.flags.registryConfig).map prog.unmarshalRegistries with
  | some (.ok config) => some config.validRegistries
  | _ => none

variable (prog) in
def hostsDirOf (files : Files) : Option String :=
  if prog.flags.runtimeType = "k3s" then
    some (joinPath (joinPath prog.flags.k3sHostsDir "containerd") "certs.d")
  else hostsDirFor prog (files prog.configPath)

variable (prog) in
def hostsWanted (files : Files) (p : Path) : Option String :=
  (configured prog files).bind fun registries =>
    (hostsDirOf prog files).bind fun dir => hostsText prog dir registries p

end ClusterAgent.Containerd
