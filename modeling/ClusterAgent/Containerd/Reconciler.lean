import ClusterAgent.Lib.Effect
import ClusterAgent.Registry.SharedConfig

/-!
# Cluster agent — the containerd config reconciler

A DaemonSet runs this program on every node. It reads the shared registries
configuration, writes containerd's hosts files and its config file, and sends
containerd a SIGHUP when the config file has changed. Any operation on a file and
any signal may fail.

* `Path`, `Toml`, `Node` — the files, and the memory of the reconciler;
* `Call` — what one call meets: the operations that fail, and containerd's processes;
* `reconcile` — one call; `tick` — a call with the health it sets.
-/

namespace ClusterAgent.Containerd

open Effect

/-! ## Files -/

structure Path where
  dir : String
  name : String
  deriving DecidableEq, Repr

def Path.text (path : Path) : String := path.dir ++ "/" ++ path.name

def Path.suffixed (path : Path) (suffix : String) : Path :=
  { path with name := path.name ++ suffix }

abbrev Files := Path → Option String

/-- A decoded TOML value; the source looks into tables and strings only. -/
inductive Toml where
  | string (s : String)
  | boolean (b : Bool)
  | strings (xs : List String)
  | table (entries : List (String × Toml))
  | other (text : String)

abbrev Table := List (String × Toml)

def Table.get? (t : Table) (key : String) : Option Toml :=
  (t.find? fun entry => entry.1 = key).map (·.2)

def Table.set (t : Table) (key : String) (value : Toml) : Table :=
  (t.filter fun entry => entry.1 ≠ key) ++ [(key, value)]

/-! ## The program and its node -/

/-- The command line flags. The file at `configFile` is containerd's own. -/
structure Flags where
  configDir : String := "/etc/containerd"
  configFile : String := "config.toml"
  registryConfig : Path := { dir := "/config", name := "registries" }
  runtimeType : String := "containerd"
  k3sHostsDir : String := "/var/lib/rancher/k3s/agent/etc"
  notHosts : configFile ≠ "hosts.toml" ∧ configFile ≠ "hosts.toml" ++ ".tmp" := by decide

/-- The flags with the decoders and encoders the program is built with. -/
structure Program where
  flags : Flags
  unmarshalRegistries : String → Except String RegistryConfig
  decodeToml : String → Except String Table
  encodeToml : Table → Except String String
  urlHostname : String → Except String String

def Program.configPath (prog : Program) : Path :=
  { dir := prog.flags.configDir, name := prog.flags.configFile }

inductive Op where
  | stat (path : Path)
  | readFile (path : Path)
  | mkdirAll (dir : String)
  | create (path : Path)
  | write (path : Path)
  | close (path : Path)
  | rename (path target : Path)
  | chmod (path : Path)
  | remove (path : Path)
  | pidof
  | kill (pid : String)
  deriving DecidableEq, Repr

structure Call where
  /-- The error of an operation at its position in the call; `none` if it succeeds. -/
  fault : Nat → Op → Option String
  pids : List String

structure Node where
  files : Files
  ops : Nat := 0
  pendingReload : Bool := false
  isLastSuccess : Bool := false
  lastError : String := ""
  /-- The reconciler changed the contents of the config file and containerd has not been
  signalled since. The program does not see this. -/
  unsignalled : Bool := false

def Node.put (prog : Program) (node : Node) (path : Path) (contents : Option String) : Node :=
  { node with
    files := fun p => if p = path then contents else node.files p
    unsignalled :=
      node.unsignalled || (path = prog.configPath && node.files path ≠ contents) }

abbrev ReconcileM := EStateM String Node

variable (prog : Program) (call : Call)

/-! ## Operations -/

def operation (op : Op) : ReconcileM PUnit := do
  let node ← get
  set { node with ops := node.ops + 1 }
  match call.fault node.ops op with
  | some e => throw e
  | none => pure ⟨⟩

/-- `os.Stat` and `os.IsNotExist`: any other error does not say that the file is missing. -/
def notExist (path : Path) : ReconcileM Bool := do
  let looked ← attempt (operation call (.stat path))
  let node ← get
  match looked with
  | .ok _ => pure (node.files path).isNone
  | .error _ => pure false

def readFile (path : Path) : ReconcileM String := do
  operation call (.readFile path)
  let node ← get
  match node.files path with
  | some contents => pure contents
  | none => throw ("open " ++ path.text ++ ": no such file or directory")

def create (path : Path) : ReconcileM PUnit := do
  operation call (.create path)
  modify fun node => node.put prog path (some "")

/-- Encode into an open file. A write that fails leaves the file as it was created. -/
def encodeInto (path : Path) (config : Table) : ReconcileM PUnit :=
  match prog.encodeToml config with
  | .error e => throw e
  | .ok contents => do
    operation call (.write path)
    modify fun node => node.put prog path (some contents)

def remove (path : Path) : ReconcileM PUnit := do
  operation call (.remove path)
  modify fun node => node.put prog path none

def rename (path target : Path) : ReconcileM PUnit := do
  operation call (.rename path target)
  let node ← get
  modify fun node' => (node'.put prog target (node.files path)).put prog path none

def writeFile (path : Path) (contents : String) : ReconcileM PUnit := do
  create prog call path
  operation call (.write path)
  modify fun node => node.put prog path (some contents)
  operation call (.close path)

/-- `writeConfigTOML`: through a temporary file that replaces the target. -/
def writeConfigTOML (path : Path) (config : Table) : ReconcileM PUnit := do
  let tmpPath := path.suffixed ".tmp"
  mapError ("failed to create temporary file: " ++ ·) (create prog call tmpPath)
  let encoded ← attempt (encodeInto prog call tmpPath config)
  match encoded with
  | .error e => do
    let _ ← attempt (operation call (.close tmpPath))
    let _ ← attempt (remove prog call tmpPath)
    throw ("failed to encode TOML: " ++ e)
  | .ok _ => do
    let closed ← attempt (operation call (.close tmpPath))
    match closed with
    | .error e => do
      let _ ← attempt (remove prog call tmpPath)
      throw ("failed to close temporary file: " ++ e)
    | .ok _ => do
      mapError ("failed to rename temporary file: " ++ ·) (rename prog call tmpPath path)
      mapError ("failed to set permissions: " ++ ·) (operation call (.chmod path))

/-! ## Hosts files -/

def joinPath (dir element : String) : String := dir ++ "/" ++ element

def hostsConfigOf (registry : Registry) : Table :=
  [("server", .string registry.endpoint),
   ("host", .table
     [("http://" ++ registry.serviceIp, .table
       [("capabilities", .strings ["pull", "resolve"]), ("skip_verify", .boolean true)])])]

def ensureHostsConfig (path : Path) (registry : Registry) : ReconcileM PUnit :=
  match prog.encodeToml (hostsConfigOf registry) with
  | .error e => throw ("failed to encode hosts config: " ++ e)
  | .ok desired => do
    let existing ← attempt (readFile call path)
    match existing with
    | .ok contents =>
      if contents = desired then pure ⟨⟩
      else writeConfigTOML prog call path (hostsConfigOf registry)
    | .error _ => writeConfigTOML prog call path (hostsConfigOf registry)

def reconcileHostConfig (hostsConfigDir : String) (registry : Registry) : ReconcileM PUnit :=
  match prog.urlHostname registry.endpoint with
  | .error e => throw e
  | .ok host => do
    let currentHostDir := joinPath hostsConfigDir host
    mapError ("failed to create hosts config directory: " ++ ·)
      (operation call (.mkdirAll currentHostDir))
    ensureHostsConfig prog call { dir := currentHostDir, name := "hosts.toml" } registry

def reconcileHostsConfig (hostsConfigDir : String) (registries : List Registry) :
    ReconcileM PUnit :=
  registries.forM (reconcileHostConfig prog call hostsConfigDir)

def reconcileK3sRegistries (registries : List Registry) : ReconcileM PUnit :=
  reconcileHostsConfig prog call
    (joinPath (joinPath prog.flags.k3sHostsDir "containerd") "certs.d") registries

/-! ## The config file -/

def defaultConfigVersion : String := "2"

/-- `ensureMapExists`: the table at a key, and whether it had to be put there. The source
changes the parent in place; here `withRegistry` does when all nested tables are known. -/
def ensureMapExists (parent : Table) (key : String) : Table × Bool :=
  match parent.get? key with
  | none => ([], true)
  | some (.table entries) => (entries, false)
  | some _ => ([], true)

def targetPlugin (version : String) : Except String String :=
  if version = "2" then .ok "io.containerd.grpc.v1.cri"
  else if version = "3" then .ok "io.containerd.cri.v1.images"
  else .error ("unsupported containerd config version: " ++ version)

def withRegistry (config plugins : Table) (target : String) (imagesConfig registry : Table) :
    Table :=
  config.set "plugins" (.table (plugins.set target
    (.table (imagesConfig.set "registry" (.table registry)))))

structure ConfigUpdate where
  config : Table
  updated : Bool
  hostsConfigDir : String

def planUpdate (decoded : Table) : Except String ConfigUpdate := do
  let hostsConfigDir := joinPath prog.flags.configDir "certs.d"
  -- a version that is not a string counts as the default
  let (config, configVersion, versionUpdated) :=
    match decoded.get? "version" with
    | some (.string version) => (decoded, version, false)
    | some _ => (decoded, defaultConfigVersion, false)
    | none =>
      (decoded.set "version" (.string defaultConfigVersion), defaultConfigVersion, true)
  let target ← targetPlugin configVersion
  let plugins := (ensureMapExists config "plugins").1
  let imagesConfig := (ensureMapExists plugins target).1
  let (registry, modified) := ensureMapExists imagesConfig "registry"
  match registry.get? "config_path" with
  | none =>
    let registry := registry.set "config_path" (.string hostsConfigDir)
    .ok { config := withRegistry config plugins target imagesConfig registry
          updated := true
          hostsConfigDir := hostsConfigDir }
  | some (.string path) =>
    .ok { config := withRegistry config plugins target imagesConfig registry
          updated := versionUpdated || modified
          hostsConfigDir := path }
  | some _ => .error "invalid config_path type in containerd config"

def bootstrapConfig : Table :=
  [("version", .string defaultConfigVersion),
   ("plugins", .table
     [("io.containerd.grpc.v1.cri", .table
       [("registry", .table
         [("config_path", .string (joinPath prog.flags.configDir "certs.d"))])])])]

def createBootstrapConfig (registries : List Registry) : ReconcileM Bool := do
  reconcileHostsConfig prog call (joinPath prog.flags.configDir "certs.d") registries
  writeConfigTOML prog call prog.configPath (bootstrapConfig prog)
  pure true

def updateExisting (registries : List Registry) (data : String) : ReconcileM Bool :=
  match prog.decodeToml data with
  | .error e => throw ("error parsing containerd config: " ++ e)
  | .ok decoded =>
    match planUpdate prog decoded with
    | .error e => throw e
    | .ok plan => do
      reconcileHostsConfig prog call plan.hostsConfigDir registries
      if plan.updated then do
        -- a failed backup is only logged
        let _ ← attempt (writeFile prog call (prog.configPath.suffixed ".bak") data)
        mapError ("error writing updated config: " ++ ·)
          (writeConfigTOML prog call prog.configPath plan.config)
        pure true
      else pure false

def updateContainerdConfig (registries : List Registry) : ReconcileM Bool := do
  let missing ← notExist call prog.configPath
  if missing then createBootstrapConfig prog call registries
  else do
    let data ← mapError ("error reading containerd config: " ++ ·)
      (readFile call prog.configPath)
    updateExisting prog call registries data

/-! ## A call -/

def sendHUP (pid : String) : ReconcileM (Option String) := do
  let sent ← attempt (operation call (.kill pid))
  match sent with
  | .error e => pure (some ("failed to send SIGHUP to PID " ++ pid ++ ": " ++ e))
  | .ok _ => do
    modify fun node => { node with unsignalled := false }
    pure none

def signalAll : List String → Option String → ReconcileM (Option String)
  | [], lastErr => pure lastErr
  | pid :: rest, lastErr => do
    let err ← sendHUP call pid
    signalAll rest (err.or lastErr)

/-- `pidof` fails if there is no process of the name. -/
def reloadContainerd : ReconcileM PUnit := do
  mapError ("failed to find containerd process (is HostPID enabled?): " ++ ·) do
    operation call .pidof
    if call.pids = [] then throw "exit status 1"
  let lastErr ← signalAll call call.pids none
  match lastErr with
  | some e => throw e
  | none => pure ⟨⟩

def readRegistryConfig : ReconcileM RegistryConfig := do
  let missing ← notExist call prog.flags.registryConfig
  if missing then
    throw ("registry config file does not exist: " ++ prog.flags.registryConfig.text)
  else do
    let data ← mapError ("failed to read registry config: " ++ ·)
      (readFile call prog.flags.registryConfig)
    match prog.unmarshalRegistries data with
    | .error e => throw ("failed to parse registry config: " ++ e)
    | .ok config => pure config

/-- The end of a call: signal containerd if a change is pending. -/
def reloadIfPending (configChanged : Bool) : ReconcileM PUnit := do
  modify fun node => { node with pendingReload := node.pendingReload || configChanged }
  let node ← get
  if node.pendingReload then do
    reloadContainerd call
    modify fun node => { node with pendingReload := false }
  else pure ⟨⟩

def reconcile : ReconcileM PUnit := do
  let registryConf ← mapError ("failed to read registry config: " ++ ·)
    (readRegistryConfig prog call)
  let registries := registryConf.validRegistries
  -- "No registries defined, skipping update"
  if registries = [] then pure ⟨⟩
  else if prog.flags.runtimeType = "k3s" then reconcileK3sRegistries prog call registries
  else do
    let configChanged ← mapError ("failed to update containerd config: " ++ ·)
      (updateContainerdConfig prog call registries)
    reloadIfPending call configChanged

/-! ## The monitoring loop -/

def tick (node : Node) : Node :=
  match reconcile prog call { node with ops := 0 } with
  | .ok _ node' => { node' with isLastSuccess := true, lastError := "" }
  | .error e node' => { node' with isLastSuccess := false, lastError := e }

inductive Event where
  | tick (call : Call)
  | edit (change : Files → Files)
  | restart

def step (node : Node) : Event → Node
  | .tick call => tick prog call node
  | .edit change => { node with files := change node.files }
  | .restart => { node with pendingReload := false, isLastSuccess := false, lastError := "" }

end ClusterAgent.Containerd
