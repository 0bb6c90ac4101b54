import ClusterAgent.Containerd.Hosts

/-!
# Cluster agent — what an update makes of the containerd config

An update sets `config_path` in the section of the CRI plugin and writes the document
back. The tables on the way to it are made where there are none.

* `Table.entry` — what a document holds at a path of keys;
* `AgreeOff` — documents that agree but for a path and the way to it;
* `Planned`, `planUpdate_planned` — what an update makes of a document, and that it leaves
  a document in which the entry is set;
* `updateContainerdConfig_calm` — without a fault, an update of such a document succeeds.

Main result: `config_path_set_once`.
-/

namespace ClusterAgent.Containerd

open Effect

/-! ## Documents -/

inductive Entry where
  | absent
  | table
  | value (v : Toml)

def Table.entry : List String → Table → Entry
  | [], _ => .table
  | key :: rest, t =>
    match t.get? key with
    | none => .absent
    | some (.table entries) => Table.entry rest entries
    | some v => if rest = [] then .value v else .absent

def AgreeOff (path : List String) (t t' : Table) : Prop :=
  ∀ p, ¬ p <+: path → Table.entry p t' = Table.entry p t

variable {t t' : Table} {key : String} {rest : List String}

theorem get?_set (t : Table) (key k : String) (v : Toml) :
    (t.set key v).get? k = if k = key then some v else t.get? k := by
  unfold Table.set Table.get?
  rw [List.find?_append, List.find?_filter]
  by_cases hKey : k = key
  · subst hKey
    rw [if_pos rfl, List.find?_eq_none.mpr (by simp)]
    simp
  · rw [if_neg hKey]
    have hSame : (fun e : String × Toml => decide (decide (e.1 ≠ key) = true ∧
        decide (e.1 = k) = true)) = fun e => decide (e.1 = k) := by
      funext e
      by_cases he : e.1 = k <;> simp [he, hKey]
    rw [hSame]
    simp [Ne.symm hKey]

theorem entry_ensureMapExists (t : Table) (key : String) (hRest : rest ≠ []) :
    Table.entry rest (ensureMapExists t key).1 = Table.entry (key :: rest) t := by
  obtain ⟨k, rest, rfl⟩ := List.exists_cons_of_ne_nil hRest
  rw [ensureMapExists]
  conv_rhs => rw [Table.entry]
  cases t.get? key with
  | none => rfl
  | some v => cases v <;> rfl

theorem agreeOff_set {v : Toml} (h : ∀ p, p ≠ [] → ¬ p <+: rest →
      Table.entry (key :: p) (t.set key v) = Table.entry (key :: p) t) :
    AgreeOff (key :: rest) t (t.set key v) := by
  intro p hp
  cases p with
  | nil => exact absurd List.nil_prefix hp
  | cons k p =>
    by_cases hKey : k = key
    · subst hKey
      have hOff : ¬ p <+: rest := fun h => hp (List.cons_prefix_cons.mpr ⟨rfl, h⟩)
      exact h p (fun hNil => hOff (hNil ▸ List.nil_prefix)) hOff
    · rw [Table.entry, get?_set, if_neg hKey, Table.entry]

theorem AgreeOff.set (h : AgreeOff rest (ensureMapExists t key).1 t') :
    AgreeOff (key :: rest) t (t.set key (.table t')) := by
  refine agreeOff_set fun p hNil hOff => ?_
  rw [← entry_ensureMapExists t key hNil, ← h p hOff, Table.entry, get?_set, if_pos rfl]

theorem AgreeOff.leaf {text : String} (hNone : t.get? key = none) :
    AgreeOff [key] t (t.set key (.string text)) := by
  refine agreeOff_set fun p hNil _ => ?_
  simp [Table.entry, get?_set, hNone, hNil]

theorem entry_value {v : Toml} (hTable : ∀ entries, v ≠ .table entries) :
    Table.entry [key] t = .value v ↔ t.get? key = some v := by
  rw [Table.entry]
  cases t.get? key with
  | none => simp
  | some v' => cases v' <;> simp [Table.entry, Ne.symm (hTable _)]

theorem ensureMapExists_new (h : (ensureMapExists t key).2 = true) :
    (ensureMapExists t key).1 = [] := by
  unfold ensureMapExists at *
  cases hGet : t.get? key with
  | none => rfl
  | some v =>
    rw [hGet] at h
    cases v with
    | table entries => cases h
    | _ => rfl

/-! ## The update -/

def configPathIn (plugin : String) : List String := ["plugins", plugin, "registry", "config_path"]

def pluginOf : Toml → Option String
  | .string version => (targetPlugin version).toOption
  | .other version => (targetPlugin version).toOption
  | _ => none

variable {prog : Program} {decoded : Table} {plan : ConfigUpdate} {version : Toml}
  {plugin : String}

theorem targetPlugin_of_pluginOf (hPlugin : pluginOf version = some plugin)
    (hInteger : version ≠ .other "3") :
    targetPlugin (match version with | .string s => s | _ => defaultConfigVersion) =
      .ok plugin := by
  have hOk : ∀ {s : String}, (targetPlugin s).toOption = some plugin →
      targetPlugin s = .ok plugin := by
    intro s hs
    cases hTarget : targetPlugin s with
    | error e =>
      rw [hTarget] at hs
      cases hs
    | ok p =>
      rw [hTarget] at hs
      exact congrArg _ (Option.some.inj hs)
  cases version with
  | string s => exact hOk hPlugin
  | other s =>
    have hTarget := hOk hPlugin
    have hTwo : s = "2" := by
      unfold targetPlugin at hTarget
      split at hTarget
      · assumption
      · split at hTarget
        · next hThree => exact absurd (congrArg Toml.other hThree) hInteger
        · cases hTarget
    exact hTwo ▸ hTarget
  | _ => cases hPlugin

structure Planned (plugin : String) (decoded : Table) (plan : ConfigUpdate) : Prop where
  set : Table.entry (configPathIn plugin) plan.config = .value (.string plan.hostsConfigDir)
  off : AgreeOff (configPathIn plugin) decoded plan.config
  idle : plan.updated = false ↔
    Table.entry (configPathIn plugin) decoded = .value (.string plan.hostsConfigDir)
  kept : ∀ dir, Table.entry (configPathIn plugin) decoded = .value (.string dir) →
    plan.hostsConfigDir = dir

theorem entry_configPathIn (plugin : String) (decoded : Table) (dir : String) :
    Table.entry (configPathIn plugin) decoded = .value (.string dir) ↔
      (ensureMapExists (ensureMapExists (ensureMapExists decoded "plugins").1 plugin).1
        "registry").1.get? "config_path" = some (.string dir) := by
  rw [← entry_value (v := .string dir) (by simp), entry_ensureMapExists _ _ (by simp),
    entry_ensureMapExists _ _ (by simp),
    entry_ensureMapExists _ _ (by simp)]
  rfl

theorem planUpdate_accepts {dir : String} (hVersion : decoded.get? "version" = some version)
    (hPlugin : pluginOf version = some plugin) (hInteger : version ≠ .other "3")
    (hSet : Table.entry (configPathIn plugin) decoded = .value (.string dir)) :
    ∃ plan, planUpdate prog decoded = .ok plan := by
  have hTarget := targetPlugin_of_pluginOf hPlugin hInteger
  rw [entry_configPathIn] at hSet
  unfold planUpdate
  rw [hVersion]
  cases version
  case string | other =>
    dsimp only at hTarget ⊢
    rw [hTarget]
    dsimp only [bind, Except.bind]
    rw [hSet]
    exact ⟨_, rfl⟩
  all_goals cases hPlugin

theorem planUpdate_planned (hVersion : decoded.get? "version" = some version)
    (hPlugin : pluginOf version = some plugin) (hInteger : version ≠ .other "3")
    (hPlan : planUpdate prog decoded = .ok plan) : Planned plugin decoded plan := by
  have hTarget := targetPlugin_of_pluginOf hPlugin hInteger
  -- the way down to the registry section, as `planUpdate` makes it
  let plugins := (ensureMapExists decoded "plugins").1
  let images := (ensureMapExists plugins plugin).1
  let registry := ensureMapExists images "registry"
  -- the entry before, and after a section `t` was put in place
  have hBefore : ∀ dir, Table.entry (configPathIn plugin) decoded = .value (.string dir) ↔
      registry.1.get? "config_path" = some (.string dir) := by
    exact entry_configPathIn plugin decoded
  have hAfter : ∀ {t : Table} {dir : String}, t.get? "config_path" = some (.string dir) →
      Table.entry (configPathIn plugin) (withRegistry decoded plugins plugin images t) =
        .value (.string dir) := by
    intro t dir hGet
    simp [configPathIn, withRegistry, Table.entry, get?_set, hGet]
  have hOff : ∀ {t : Table}, AgreeOff ["config_path"] registry.1 t →
      AgreeOff (configPathIn plugin) decoded (withRegistry decoded plugins plugin images t) :=
    fun h => h.set.set.set
  unfold planUpdate at hPlan
  rw [hVersion] at hPlan
  cases version
  case string | other =>
    dsimp only at hPlan hTarget
    rw [hTarget] at hPlan
    dsimp only [bind, Except.bind] at hPlan
    -- no entry: the default is set; a string: it is taken; anything else is an error
    split at hPlan
    · next hNone =>
      change registry.1.get? "config_path" = none at hNone
      cases hPlan
      refine ⟨hAfter (by rw [get?_set, if_pos rfl]), hOff (AgreeOff.leaf hNone), ?_, ?_⟩
      · rw [hBefore, hNone]
        exact ⟨nofun, nofun⟩
      · intro dir hDir
        rw [hBefore, hNone] at hDir
        cases hDir
    · next path hSome =>
      change registry.1.get? "config_path" = some (.string path) at hSome
      cases hPlan
      refine ⟨hAfter hSome, hOff fun _ _ => rfl, ?_, ?_⟩
      · rw [hBefore]
        refine ⟨fun _ => hSome, fun _ => ?_⟩
        -- a section that is new would have no entry
        by_contra hNew
        have hNil : registry.1 = [] := ensureMapExists_new (Bool.not_eq_false _ ▸ hNew)
        rw [hNil] at hSome
        cases hSome
      · intro dir hDir
        rw [hBefore, hSome] at hDir
        exact Toml.string.inj (Option.some.inj hDir)
    · cases hPlan
  all_goals cases hPlugin

/-! ## A call without a fault -/

/-- No operation of the call fails. -/
def Calm (call : Call) : Prop := ∀ n op, call.fault n op = none

section

variable {call : Call} (hCalm : Calm call)

include hCalm

theorem operation_calm (op : Op) (node : Node) :
    operation call op node = .ok ⟨⟩ { node with ops := node.ops + 1 } := by
  rw [operation_run, hCalm]

theorem operation_completes (op : Op) : Succeeds (fun _ => True) (operation call op) := by
  intro node _
  rw [operation_calm hCalm]
  trivial

theorem writeConfigTOML_completes (path : Path) {config : Table} {text : String}
    (hText : prog.encodeToml config = .ok text) :
    Succeeds (fun _ => True) (writeConfigTOML prog call path config) := by
  have hOp := operation_completes hCalm
  have hCreate : Succeeds (fun _ => True) (create prog call (path.suffixed ".tmp")) :=
    .bind (hOp _) fun _ => .modify fun _ _ => trivial
  have hEncode : Succeeds (fun _ => True) (encodeInto prog call (path.suffixed ".tmp") config) := by
    unfold encodeInto
    rw [hText]
    exact .bind (hOp _) fun _ => .modify fun _ _ => trivial
  have hRename : Succeeds (fun _ => True) (rename prog call (path.suffixed ".tmp") path) :=
    .bind (hOp _) fun _ => .bind (R := fun _ _ => True) (.get fun _ _ => trivial) fun _ =>
      .modify fun _ _ => trivial
  refine .bind hCreate.mapError fun _ => .bind hEncode.attempt fun encoded => ?_
  cases encoded with
  | error e => exact fun _ h => h.elim
  | ok _ =>
    refine .bind (hOp _).attempt fun closed => ?_
    cases closed with
    | error e => exact fun _ h => h.elim
    | ok _ => exact .bind hRename.mapError fun _ => (hOp _).mapError

theorem reconcileHostsConfig_completes {dir : String} {registries : List Registry}
    (h : Complete prog dir registries) :
    Succeeds (fun _ => True) (reconcileHostsConfig prog call dir registries) := by
  induction registries with
  | nil => exact .pure fun _ _ => trivial
  | cons registry rest ih =>
    obtain ⟨path, text, hPath, hText⟩ := h registry List.mem_cons_self
    obtain ⟨host, hHost, -⟩ := hostsPath_eq hPath
    refine .bind (R := fun _ _ => True) ?_ fun _ => ih fun r hr => h r (List.mem_cons_of_mem _ hr)
    unfold reconcileHostConfig
    rw [hHost]
    refine .bind (operation_completes hCalm _).mapError fun _ => ?_
    unfold ensureHostsConfig
    rw [hText]
    -- a hosts file that cannot be read is written anew
    have hRead : Ensures (fun _ => True)
        (readFile call { dir := joinPath dir host, name := "hosts.toml" }) fun _ => True :=
      .any fun _ _ => trivial
    refine .bind hRead.attempted fun existing => ?_
    cases existing with
    | error _ => exact writeConfigTOML_completes hCalm _ hText
    | ok contents =>
      dsimp only
      split
      · exact .pure fun _ _ => trivial
      · exact writeConfigTOML_completes hCalm _ hText

theorem updateContainerdConfig_calm {registries : List Registry} {node : Node} {data : String}
    (hData : node.files prog.configPath = some data) (hDecoded : prog.decodeToml data = .ok decoded)
    (hPlan : planUpdate prog decoded = .ok plan) (hIdle : plan.updated = false)
    (h : Complete prog plan.hostsConfigDir registries) :
    ∃ node', updateContainerdConfig prog call registries node = .ok false node' := by
  -- the file is there and is read, with two operations
  have hThere : notExist call prog.configPath node =
      .ok false { node with ops := node.ops + 1 } := by
    refine (bind_of_ok (attempt_of_ok (operation_calm hCalm _ node))).trans ?_
    exact congrArg (fun file => EStateM.Result.ok (Option.isNone file) _) hData
  have hRead : mapError ("error reading containerd config: " ++ ·) (readFile call prog.configPath)
      { node with ops := node.ops + 1 } = .ok data { node with ops := node.ops + 2 } := by
    have hOk : readFile call prog.configPath { node with ops := node.ops + 1 } =
        .ok data { node with ops := node.ops + 2 } := by
      refine (bind_of_ok (operation_calm hCalm _ _)).trans ?_
      rw [get_bind]
      dsimp only
      rw [hData]
      rfl
    unfold mapError
    rw [hOk]
  -- and the rest writes only hosts files
  have hRun : Triple (· = { node with ops := node.ops + 2 })
      (updateExisting prog call registries data) (fun changed _ => changed = false)
      fun _ => False := by
    unfold updateExisting
    rw [hDecoded]
    dsimp only
    rw [hPlan]
    dsimp only
    rw [hIdle]
    exact .bind ((reconcileHostsConfig_completes hCalm h).pre fun _ _ => trivial) fun _ =>
      .pure fun _ _ => rfl
  have hEq : updateContainerdConfig prog call registries node =
      updateExisting prog call registries data { node with ops := node.ops + 2 } :=
    (bind_of_ok hThere).trans (bind_of_ok hRead)
  cases hResult : updateExisting prog call registries data { node with ops := node.ops + 2 } with
  | ok changed node' => exact ⟨node', hEq.trans (hRun.of_ok rfl hResult ▸ hResult)⟩
  | error e node' => exact (hRun.of_error rfl hResult).elim

end

/-! ## Main result -/

/-- What is encoded is decoded with the same entries. -/
def RoundTrips (prog : Program) : Prop :=
  ∀ t text, prog.encodeToml t = .ok text →
    ∃ t', prog.decodeToml text = .ok t' ∧ ∀ p, Table.entry p t' = Table.entry p t

theorem hostsText_isHosts {dir : String} {registries : List Registry} {p : Path}
    (h : ¬ IsHosts p) : hostsText prog dir registries p = none := by
  by_contra hSome
  obtain ⟨r, -, hPath⟩ := hostsText_mem hSome
  obtain ⟨host, -, rfl⟩ := hostsPath_eq hPath
  exact h rfl

theorem update_planned {call : Call} {registries : List Registry} {node node' : Node}
    {changed : Bool} {data : String} (hData : node.files prog.configPath = some data)
    (hDecoded : prog.decodeToml data = .ok decoded)
    (hVersion : decoded.get? "version" = some version) (hPlugin : pluginOf version = some plugin)
    (hInteger : version ≠ .other "3")
    (hOk : updateContainerdConfig prog call registries node = .ok changed node') :
    ∃ plan, Planned plugin decoded plan ∧
      Updated prog node.files registries plan changed node' ∧
      (∀ p, IsHosts p →
        node'.files p = filled (hostsText prog plan.hostsConfigDir registries) node.files p) ∧
      Complete prog plan.hostsConfigDir registries := by
  have hLeft : UpdateLeft prog node node.files registries changed node' :=
    (updateContainerdConfig_files call registries).of_ok ⟨⟨rfl, rfl⟩, fun _ _ => rfl⟩ hOk
  obtain ⟨decoded', plan, hDecoded', hPlan, hUpdated⟩ := hLeft.existing data hData
  cases hDecoded.symm.trans hDecoded'
  have hDir : hostsDirFor prog (node.files prog.configPath) = some plan.hostsConfigDir := by
    simp [hData, hostsDirFor, hDecoded, hPlan, Except.toOption]
  obtain ⟨dir, hDir', hComplete⟩ := hLeft.complete
  cases hDir.symm.trans hDir'
  refine ⟨plan, planUpdate_planned hVersion hPlugin hInteger hPlan, hUpdated, ?_, hComplete⟩
  rw [← hostsAsked_eq hDir]
  exact hLeft.hosts

/-- **The config after an update.** `config_path` is set in the section of the declared version,
nothing else changes but the way to it, and the next update changes nothing; it succeeds if
no operation fails. A number is taken for version 2 whatever it is. -/
theorem config_path_set_once (prog : Program) (hRound : RoundTrips prog) (call : Call)
    (registries : List Registry) (node node' : Node) (changed : Bool) (data : String)
    (decoded : Table) (version : Toml) (plugin : String)
    (hData : node.files prog.configPath = some data) (hDecoded : prog.decodeToml data = .ok decoded)
    (hVersion : decoded.get? "version" = some version) (hPlugin : pluginOf version = some plugin)
    (hInteger : version ≠ .other "3")
    (hOk : updateContainerdConfig prog call registries node = .ok changed node') :
    (∃ text after dir, node'.files prog.configPath = some text ∧
      prog.decodeToml text = .ok after ∧
      Table.entry (configPathIn plugin) after = .value (.string dir) ∧
      ∀ p, ¬ p <+: configPathIn plugin → Table.entry p after = Table.entry p decoded) ∧
    (∀ call' changed' node'',
      updateContainerdConfig prog call' registries node' = .ok changed' node'' →
        changed' = false ∧ ∀ p, Lasting prog p → node''.files p = node'.files p) ∧
    ∀ call', Calm call' →
      ∃ node'', updateContainerdConfig prog call' registries node' = .ok false node'' := by
  obtain ⟨plan, hPlanned, hUpdated, hHosts, hComplete⟩ :=
    update_planned hData hDecoded hVersion hPlugin hInteger hOk
  obtain ⟨text, after, hText, hAfter, hSet, hOff⟩ : ∃ text after,
      node'.files prog.configPath = some text ∧ prog.decodeToml text = .ok after ∧
      Table.entry (configPathIn plugin) after = .value (.string plan.hostsConfigDir) ∧
      AgreeOff (configPathIn plugin) decoded after := by
    cases hWrites : plan.updated with
    | true =>
      obtain ⟨text, hText, hFile⟩ := hUpdated.written hWrites
      obtain ⟨after, hAfter, hSame⟩ := hRound _ _ hText
      exact ⟨text, after, hFile, hAfter, (hSame _).trans hPlanned.set,
        fun p hp => (hSame p).trans (hPlanned.off p hp)⟩
    | false =>
      refine ⟨data, decoded, ?_, hDecoded, hPlanned.idle.mp hWrites, fun _ _ => rfl⟩
      rw [hUpdated.kept hWrites _ (lasting_configPath prog), filled,
        hostsText_isHosts (p := prog.configPath) prog.flags.notHosts.1, Option.none_or, hData]
  refine ⟨⟨text, after, plan.hostsConfigDir, hText, hAfter, hSet, hOff⟩, ?_⟩
  -- the document says what the first update has made of it
  have hVersion' : after.get? "version" = some version := by
    have hValue : ∀ entries, version ≠ .table entries := by
      rintro entries rfl
      cases hPlugin
    rw [← entry_value hValue, hOff _ (by simp [configPathIn]), entry_value hValue, hVersion]
  have hIdle : ∀ plan', Planned plugin after plan' →
      plan'.hostsConfigDir = plan.hostsConfigDir ∧ plan'.updated = false := fun plan' h =>
    have hDir := h.kept _ hSet
    ⟨hDir, h.idle.mpr (hDir ▸ hSet)⟩
  constructor
  · intro call' changed' node'' hAgain
    obtain ⟨plan', hPlanned', hUpdated', -⟩ :=
      update_planned hText hAfter hVersion' hPlugin hInteger hAgain
    obtain ⟨hDir, hUnchanged⟩ := hIdle plan' hPlanned'
    refine ⟨hUpdated'.changed.trans hUnchanged, fun p hp => ?_⟩
    rw [hUpdated'.kept hUnchanged p hp, hDir, filled]
    by_cases hIs : IsHosts p
    · rw [hHosts p hIs, filled, ← Option.or_assoc, Option.or_self]
    · rw [hostsText_isHosts hIs, Option.none_or]
  · intro call' hCalm
    obtain ⟨plan', hPlan'⟩ := planUpdate_accepts hVersion' hPlugin hInteger hSet
    obtain ⟨hDir, hUnchanged⟩ :=
      hIdle plan' (planUpdate_planned hVersion' hPlugin hInteger hPlan')
    exact updateContainerdConfig_calm hCalm hText hAfter hPlan' hUnchanged (hDir ▸ hComplete)

namespace Fixture

def withPath (version : Toml) (plugin : String) : Table :=
  [("version", version), ("plugins", .table [(plugin, .table
    [("registry", .table [("config_path", .string "/etc/containerd/certs.d")])])])]

def stringVersion : String := "version = \"3\"\n"

def numberVersion : String := "version = 3\nplugins = 5\n"

def setText (version plugin : String) : String :=
  "version = " ++ version ++ "\n\n[plugins]\n  [plugins.\"" ++ plugin ++ "\"]\n" ++
    "    [plugins.\"" ++ plugin ++ "\".registry]\n" ++
    "      config_path = \"/etc/containerd/certs.d\"\n"

def stringVersionSet : String := setText "\"3\"" "io.containerd.cri.v1.images"

def numberVersionSet : String := setText "3" "io.containerd.grpc.v1.cri"

def configProgram : Program :=
  { program with
    decodeToml := fun text =>
      if text = stringVersion then .ok [("version", .string "3")]
      else if text = numberVersion then .ok [("version", .other "3"), ("plugins", .other "5")]
      else if text = stringVersionSet then
        .ok (withPath (.string "3") "io.containerd.cri.v1.images")
      else if text = numberVersionSet then .ok (withPath (.other "3") "io.containerd.grpc.v1.cri")
      else .error "another document"
    encodeToml := fun
      | [("version", .string "3"), ("plugins", .table [("io.containerd.cri.v1.images", .table
          [("registry", .table [("config_path", .string "/etc/containerd/certs.d")])])])] =>
        .ok stringVersionSet
      | [("version", .other "3"), ("plugins", .table [("io.containerd.grpc.v1.cri", .table
          [("registry", .table [("config_path", .string "/etc/containerd/certs.d")])])])] =>
        .ok numberVersionSet
      | _ => .error "another document" }

def configured (text : String) : Node :=
  { files := fun path => if path = configProgram.configPath then some text else none }

theorem decodeToml_stringVersionSet : configProgram.decodeToml stringVersionSet =
    .ok (withPath (.string "3") "io.containerd.cri.v1.images") := by
  have hString : stringVersionSet ≠ stringVersion := by decide +kernel
  have hNumber : stringVersionSet ≠ numberVersion := by decide +kernel
  simp [configProgram, hString, hNumber]

theorem decodeToml_numberVersionSet : configProgram.decodeToml numberVersionSet =
    .ok (withPath (.other "3") "io.containerd.grpc.v1.cri") := by
  have hString : numberVersionSet ≠ stringVersion := by decide +kernel
  have hNumber : numberVersionSet ≠ numberVersion := by decide +kernel
  have hSet : numberVersionSet ≠ stringVersionSet := by decide +kernel
  simp [configProgram, hString, hNumber, hSet]

theorem configProgram_roundTrips : RoundTrips configProgram := by
  intro t text hText
  dsimp only [configProgram] at hText
  split at hText
  · cases hText
    exact ⟨_, decodeToml_stringVersionSet, fun _ => rfl⟩
  · cases hText
    exact ⟨_, decodeToml_numberVersionSet, fun _ => rfl⟩
  · cases hText

end Fixture

theorem config_path_set_string :
    ∃ node', updateContainerdConfig Fixture.configProgram Fixture.calm []
        (Fixture.configured Fixture.stringVersion) = .ok true node' ∧
      (∃ text after dir, node'.files Fixture.configProgram.configPath = some text ∧
        Fixture.configProgram.decodeToml text = .ok after ∧
        Table.entry (configPathIn "io.containerd.cri.v1.images") after = .value (.string dir)) ∧
      ∃ node'', updateContainerdConfig Fixture.configProgram Fixture.calm [] node' =
        .ok false node'' := by
  obtain ⟨node', hRun⟩ : ∃ node', updateContainerdConfig Fixture.configProgram Fixture.calm []
      (Fixture.configured Fixture.stringVersion) = .ok true node' := ⟨_, rfl⟩
  obtain ⟨⟨text, after, dir, hText, hAfter, hSet, -⟩, -, hAgain⟩ :=
    config_path_set_once _ Fixture.configProgram_roundTrips _ _ _ node' true
      Fixture.stringVersion [("version", .string "3")] (.string "3")
      "io.containerd.cri.v1.images" rfl rfl rfl rfl nofun hRun
  exact ⟨node', hRun, ⟨text, after, dir, hText, hAfter, hSet⟩, hAgain _ fun _ _ => rfl⟩

/-- A number is taken for version 2: the section of version 3 is not made. A value in the place
of the plugins is replaced. -/
theorem config_path_set_elsewhere :
    ∃ node' text after, updateContainerdConfig Fixture.configProgram Fixture.calm []
        (Fixture.configured Fixture.numberVersion) = .ok true node' ∧
      node'.files Fixture.configProgram.configPath = some text ∧
      Fixture.configProgram.decodeToml text = .ok after ∧
      after.get? "version" = some (.other "3") ∧
      pluginOf (.other "3") = some "io.containerd.cri.v1.images" ∧
      Table.entry (configPathIn "io.containerd.cri.v1.images") after = .absent ∧
      Table.entry ["plugins"] [("version", .other "3"), ("plugins", .other "5")] =
        .value (.other "5") ∧
      Table.entry ["plugins"] after = .table :=
  ⟨_, _, _, rfl, rfl, Fixture.decodeToml_numberVersionSet, rfl, rfl, rfl, rfl, rfl⟩

end ClusterAgent.Containerd
