import ClusterAgent.Containerd.Files

/-!
# Cluster agent — containerd is signalled after a change

A healthy reconciler should mean that containerd runs with the config file as the
reconciler last wrote it. The change is remembered in `pendingReload` until a signal
has been delivered, but only if the call that made it gets to set the flag.

* `reloadIfPending_spec` — a change is followed by a signal, or it stays pending;
* `reconcile_spec` — a call, with what it does to the hosts files;
* `signalled_when_healthy` — over whole runs, with the conditions the program relies on.
-/

namespace ClusterAgent.Containerd

open Effect

variable (prog : Program) (call : Call)

/-! ## Signals -/

variable {node : Node}

theorem Advances.keeps {node' : Node} (h : Advances node node') : Keeps node node' := by
  obtain ⟨n, rfl⟩ := h
  exact ⟨rfl, rfl⟩

def Resting (pending : Bool) (files : Files) (node : Node) : Prop :=
  node.pendingReload = pending ∧ node.files = files

theorem sendHUP_spec (pid : String) (pending : Bool) (files : Files) :
    Triple (Resting pending files) (sendHUP call pid)
      (fun err node' => (err = none → node'.unsignalled = false) ∧ Resting pending files node')
      (Resting pending files) := by
  refine .bind (operation_keeps call (fun _ _ h => h) _).attempted fun sent => ?_
  cases sent with
  | error e => exact .pure fun _ h => ⟨nofun, h⟩
  | ok _ =>
    refine .bind
      (R := fun _ node => node.unsignalled = false ∧ Resting pending files node)
      (.modify fun _ h => ⟨rfl, h⟩) fun _ => ?_
    exact .pure fun _ h => ⟨fun _ => h.1, h.2⟩

/-- The invariant of the loop: no error so far means that the signal was delivered. -/
theorem signalAll_spec (pids : List String) (pending : Bool) (files : Files)
    (lastErr : Option String) :
    Triple (fun node => (lastErr = none → node.unsignalled = false) ∧ Resting pending files node)
      (signalAll call pids lastErr)
      (fun err node' => (err = none → node'.unsignalled = false) ∧ Resting pending files node')
      (Resting pending files) := by
  induction pids generalizing lastErr with
  | nil => exact .skip
  | cons pid rest ih =>
    refine .bind ((sendHUP_spec call pid pending files).pre fun _ h => h.2) fun err => ?_
    refine (ih (err.or lastErr)).pre fun node h => ⟨fun hNone => h.1 ?_, h.2⟩
    exact (Option.or_eq_none_iff.mp hNone).1

theorem reloadContainerd_spec (pending : Bool) (files : Files) :
    Triple (Resting pending files) (reloadContainerd call)
      (fun _ node' => node'.unsignalled = false ∧ node'.files = files) (Resting pending files) := by
  -- `pidof` names at least one process, and the first of them brings the loop's invariant
  refine .bind (R := fun _ node => call.pids ≠ [] ∧ Resting pending files node)
    (.mapError (.bind (operation_keeps call (fun _ _ h => h) .pidof) fun _ => ?_)) fun _ => ?_
  · by_cases hNone : call.pids = []
    · rw [if_pos hNone]
      exact .fail
    · rw [if_neg hNone]
      exact .pure fun _ h => ⟨hNone, h⟩
  · refine .bind
      (R := fun err node => (err = none → node.unsignalled = false) ∧ Resting pending files node)
      ?_ fun err => ?_
    · rcases hPids : call.pids with _ | ⟨pid, rest⟩
      · exact fun _ h => absurd rfl h.1
      · refine .bind ((sendHUP_spec call pid pending files).pre fun _ h => h.2) fun err => ?_
        refine (signalAll_spec call rest pending files (err.or none)).pre fun node h => ⟨?_, h.2⟩
        intro hErr
        exact h.1 (Option.or_eq_none_iff.mp hErr).1
    · cases err with
      | some e => exact .throw fun _ h => h.2
      | none => exact .pure fun _ h => ⟨h.1 rfl, h.2.2⟩

theorem reloadIfPending_spec (changed : Bool) (node : Node) :
    Triple (· = node) (reloadIfPending call changed)
      (fun _ node' => node'.files = node.files ∧ node'.pendingReload = false ∧
        ((node.unsignalled = true → node.pendingReload = true ∨ changed = true) →
          node'.unsignalled = false))
      (Resting true node.files) := by
  let flagged : Node := { node with pendingReload := node.pendingReload || changed }
  refine .bind (R := fun _ => (· = flagged)) (.modify fun _ h => h ▸ rfl) fun _ =>
    .bind (R := fun found node' => found = flagged ∧ node' = flagged) (.get fun _ h => ⟨h, h⟩)
      fun found => .of_each ?_
  rintro _ ⟨rfl, rfl⟩
  -- a change is flagged before the signal is sent, so a failed reload leaves it pending
  by_cases hPending : flagged.pendingReload = true
  · rw [if_pos hPending]
    refine .bind ((reloadContainerd_spec call true node.files).pre fun _ h => ?_) fun _ =>
      .modify fun _ h => ⟨h.2, rfl, fun _ => h.1⟩
    rw [h]
    exact ⟨hPending, rfl⟩
  · rw [if_neg hPending]
    refine .pure fun node' h => ?_
    rw [h]
    have hIdle : (node.pendingReload || changed) = false := Bool.eq_false_iff.mpr hPending
    refine ⟨rfl, hIdle, fun hDue => ?_⟩
    -- with nothing flagged, nothing was to be signalled
    cases hUnsignalled : node.unsignalled with
    | false => rfl
    | true =>
      rcases hDue hUnsignalled with hSet | hSet
      · simp [hSet] at hIdle
      · simp [hSet] at hIdle

/-! ## A call -/

def noRegistries (files : Files) : Bool :=
  match (files prog.flags.registryConfig).map prog.unmarshalRegistries with
  | some (.ok config) => config.validRegistries.isEmpty
  | _ => false

/-- What the program relies on in a call: the permissions of the config file can be set, and
the registries do not go away while a reload is pending. -/
structure CallOrderly (node : Node) : Prop where
  chmod : ∀ n, call.fault n (.chmod prog.configPath) = none
  listed : noRegistries prog node.files = true → node.pendingReload = false

/-- A change containerd has not been signalled for is pending; k3s needs no signal. -/
structure Tracked (node : Node) : Prop where
  due : node.unsignalled = true → node.pendingReload = true
  k3s : prog.flags.runtimeType = "k3s" → node.pendingReload = false

theorem Tracked.of_idle (h : Tracked prog node) (hIdle : node.pendingReload = false) :
    node.unsignalled = false := by
  cases hDue : node.unsignalled with
  | false => rfl
  | true => exact absurd (h.due hDue) (by simp [hIdle])

theorem Tracked.keeps {node' : Node} (h : Tracked prog node) (hKeeps : Keeps node node') :
    Tracked prog node' where
  due := by
    rw [hKeeps.unsignalled, hKeeps.pending]
    exact h.due
  k3s := by
    rw [hKeeps.pending]
    exact h.k3s

/-- A call that succeeds leaves nothing to signal, and the hosts files as the configuration
asks for them. -/
structure CallSucceeded (node node' : Node) : Prop where
  signalled : Tracked prog node → CallOrderly prog call node →
    Tracked prog node' ∧ node'.unsignalled = false
  hosts : ∀ p, IsHosts p → node'.files p = filled (hostsWanted prog node.files) node.files p
  complete : ∃ registries, configured prog node.files = some registries ∧
    (registries ≠ [] → ∃ dir, hostsDirOf prog node.files = some dir ∧ Complete prog dir registries)

/-- A call that fails leaves the signal pending, and hosts files nobody asked for alone. -/
structure CallFailed (node node' : Node) : Prop where
  tracked : Tracked prog node → CallOrderly prog call node → Tracked prog node'
  hosts : ∀ p, IsHosts p → hostsWanted prog node.files p = none → node'.files p = node.files p

theorem reconcile_spec (node : Node) :
    Triple (Advances node) (reconcile prog call) (fun _ => CallSucceeded prog call node)
      (CallFailed prog call node) := by
  refine .bind ((readRegistryConfig_spec prog call node).mapError.onError fun _ h =>
    ⟨fun hTracked _ => hTracked.keeps prog h.keeps, ?_⟩) fun config =>
      .of_each fun node1 ⟨hAdvances, hConfig⟩ => ?_
  -- the registries file can not be read: nothing was written
  · obtain ⟨n, rfl⟩ := h
    exact fun _ _ _ => rfl
  have hConfigured : configured prog node.files = some config.validRegistries := by
    rw [configured, hConfig]
  have hGoing : Going (Lasting prog) node node.files node1 := by
    refine ⟨hAdvances.keeps, ?_⟩
    obtain ⟨n, rfl⟩ := hAdvances
    exact fun _ _ => rfl
  dsimp only
  split
  -- no registries: the call succeeds without looking at the config file
  · next hEmpty =>
    refine .ret ?_
    refine ⟨fun hTracked hCall => ?_, fun p hp => ?_, _, hConfigured,
      fun hNot => absurd hEmpty hNot⟩
    · have hKept := hTracked.keeps prog hGoing.keeps
      refine ⟨hKept, hKept.of_idle prog ?_⟩
      rw [hGoing.keeps.pending]
      refine hCall.listed ?_
      rw [noRegistries, hConfig]
      exact List.isEmpty_iff.mpr hEmpty
    · have hNone : hostsWanted prog node.files p = none := by
        rw [hostsWanted, hConfigured, hEmpty]
        cases hostsDirOf prog node.files <;> rfl
      rw [hGoing.stands p (hp.lasting prog), filled, hNone, Option.none_or]
  split
  -- k3s: hosts files only, and no process to signal
  · next hK3s =>
    have hDir : hostsDirOf prog node.files =
        some (joinPath (joinPath prog.flags.k3sHostsDir "containerd") "certs.d") := if_pos hK3s
    have hWanted : hostsWanted prog node.files =
        hostsText prog (joinPath (joinPath prog.flags.k3sHostsDir "containerd") "certs.d")
          config.validRegistries := by
      funext p
      rw [hostsWanted, hConfigured, hDir, Option.bind_some, Option.bind_some]
    refine (reconcileHostsConfig_files call node node.files).mono (fun _ h => h ▸ hGoing)
      (fun _ node' h => ⟨fun hTracked _ => ?_, fun p hp => ?_, _, hConfigured,
        fun _ => ⟨_, hDir, h.1⟩⟩)
      fun node' h => ⟨fun hTracked _ => hTracked.keeps prog h.keeps, fun p hp hNone =>
        h.spared p (hp.lasting prog) (hWanted ▸ hNone)⟩
    · have hKept := hTracked.keeps prog h.2.keeps
      exact ⟨hKept, hKept.of_idle prog (hKept.k3s hK3s)⟩
    · rw [hWanted]
      exact h.2.stands p (hp.lasting prog)
  -- containerd: the config file as well, and a reload if it has changed
  · next hOther =>
    have hDirOf : hostsDirOf prog node.files = hostsDirFor prog (node.files prog.configPath) :=
      if_neg hOther
    have hWanted : hostsAsked prog node.files config.validRegistries =
        hostsWanted prog node.files := by
      funext p
      rw [hostsWanted, hConfigured, hDirOf]
      rfl
    refine .bind ((updateContainerdConfig_files call _).mapError.mono (fun _ h => h ▸ hGoing)
      (fun _ _ h => h) fun _ h => ⟨fun hTracked hCall => hTracked.keeps prog
        (h.unwritten hCall.chmod),
        fun p hp hNone => h.hosts p hp (hWanted ▸ hNone)⟩) fun changed =>
        .of_each fun node2 hLeft => ?_
    refine (reloadIfPending_spec call changed node2).conseq
      (fun _ node' h => ⟨fun hTracked _ => ?_, fun p hp => ?_, _, hConfigured, fun _ => ?_⟩)
      fun node' h => ⟨fun _ _ => ⟨fun _ => h.1, fun h3 => absurd h3 hOther⟩, fun p hp hNone => ?_⟩
    -- what is due was pending before the call, or is the change it made
    · have hSignalled := h.2.2 fun hDue => ?_
      · exact ⟨⟨fun hDue => absurd hDue (by simp [hSignalled]), fun _ => h.2.1⟩, hSignalled⟩
      cases changed with
      | true => exact Or.inr rfl
      | false =>
        rw [hLeft.unsignalled rfl] at hDue
        exact Or.inl (hLeft.pending.trans (hTracked.due hDue))
    · rw [h.1, hLeft.hosts p hp, hWanted]
    · rw [hDirOf]
      exact hLeft.complete
    · rw [h.2, hLeft.hosts p hp, hWanted, filled, hNone, Option.none_or]

/-! ## Runs -/

/-- The conditions on a run: those on each call, and no restart while a reload is pending. -/
def Orderly (node : Node) : Event → Prop
  | .tick call => CallOrderly prog call node
  | .edit _ => True
  | .restart => node.pendingReload = false

/-- Healthy means signalled. -/
structure Sound (node : Node) : Prop where
  tracked : Tracked prog node
  healthy : node.isLastSuccess = true → node.unsignalled = false

theorem tick_sound (hSound : Sound prog node) (hCall : CallOrderly prog call node) :
    Sound prog (tick prog call node) := by
  have hRun := reconcile_spec prog call node { node with ops := 0 } ⟨0, rfl⟩
  unfold tick
  cases hOutcome : reconcile prog call { node with ops := 0 } with
  | ok _ node' =>
    rw [hOutcome] at hRun
    obtain ⟨hTracked, hSignalled⟩ := hRun.signalled hSound.tracked hCall
    exact ⟨⟨hTracked.due, hTracked.k3s⟩, fun _ => hSignalled⟩
  | error e node' =>
    rw [hOutcome] at hRun
    have hTracked := hRun.tracked hSound.tracked hCall
    exact ⟨⟨hTracked.due, hTracked.k3s⟩, nofun⟩

theorem step_sound (node : Node) (event : Event) (hEvent : Orderly prog node event)
    (hSound : Sound prog node) : Sound prog (step prog node event) := by
  cases event with
  | tick call => exact tick_sound prog call hSound hEvent
  | edit change => exact ⟨⟨hSound.tracked.due, hSound.tracked.k3s⟩, hSound.healthy⟩
  | restart =>
    -- the flag that is lost was not set
    refine ⟨⟨fun hDue => ?_, fun _ => rfl⟩, nofun⟩
    exact absurd hDue (by simp [step, hSound.tracked.of_idle prog hEvent])

def started (files : Files) : Node := { files := files }

/-- **Healthy means signalled.** In every run of calls, changes to files by others and
restarts in which the config file's permissions can always be set and no pending reload is
dropped, whenever the last call succeeded, containerd has been signalled after the last
change the reconciler made to the contents of its config file. -/
theorem signalled_when_healthy (files : Files) (events : List Event)
    (hOrderly : Runs.Admitted (step prog) (Orderly prog) (started files) events)
    (hHealthy : (Runs.run (step prog) (started files) events).isLastSuccess = true) :
    (Runs.run (step prog) (started files) events).unsignalled = false := by
  have hStart : Sound prog (started files) := ⟨⟨nofun, fun _ => rfl⟩, nofun⟩
  exact (Runs.run_admitted (step_sound prog) hOrderly hStart).healthy hHealthy

namespace Fixture

def registry : Registry := { serviceIp := "10.0.0.7:5000", endpoint := "http://shop.local:5000" }

def program : Program where
  flags := {}
  unmarshalRegistries text :=
    .ok { registries := if text = "shop" then [registry] else [] }
  decodeToml _ := .ok
    [("version", .string "2"),
     ("plugins", .table [("io.containerd.grpc.v1.cri", .table
       [("registry", .table [("config_path", .string "/etc/containerd/certs.d")])])])]
  encodeToml table := .ok (if (table.get? "version").isSome then "bootstrap" else "hosts")
  urlHostname _ := .ok "shop.local"

def files (text : String) : Files := fun path =>
  if path = program.flags.registryConfig then some text else none

def calm : Call := { fault := fun _ _ => none, pids := ["412"] }

def noChmod : Call :=
  { calm with
    fault := fun _ op =>
      if op = .chmod program.configPath then some "input/output error" else none }

def noProcess : Call := { calm with pids := [] }

def emptied : Event := .edit fun before path =>
  if path = program.flags.registryConfig then some "" else before path

end Fixture

theorem signalled_when_healthy_bootstrap :
    (Runs.run (step Fixture.program) (started (Fixture.files "shop"))
      [.tick Fixture.calm]).unsignalled = false :=
  signalled_when_healthy Fixture.program (Fixture.files "shop") [.tick Fixture.calm]
    ⟨⟨fun _ => rfl, fun _ => rfl⟩, trivial⟩ (by decide +kernel)

/-- Two runs that end healthy without a signal. In the first the config file is renamed into
place and its permissions cannot be set: the call fails before it sets the flag, and the
next one finds the file in the expected state. In the second the signal fails, and the next
call has no registries and returns before it looks at the flag. -/
theorem healthy_without_signal :
    ¬ (∀ (prog : Program) (files : Files) (events : List Event),
      (Runs.run (step prog) (started files) events).isLastSuccess = true →
        (Runs.run (step prog) (started files) events).unsignalled = false) ∧
    (let node := Runs.run (step Fixture.program) (started (Fixture.files "shop"))
      [.tick Fixture.noProcess, Fixture.emptied, .tick Fixture.calm]
    node.isLastSuccess = true ∧ node.unsignalled = true) := by
  refine ⟨fun h => ?_, by decide +kernel⟩
  have hRun := h Fixture.program (Fixture.files "shop") [.tick Fixture.noChmod, .tick Fixture.calm]
  revert hRun
  decide +kernel

end ClusterAgent.Containerd
