import ClusterAgent.Containerd.Reload

/-!
# Cluster agent — hosts files over a history of configurations

A call visits the registries of the configuration it has read, and no others. The
hosts files of a registry that has left the configuration are not looked at again,
so what the node has depends on every configuration it has seen.

* `hostsText_own` — a registry that shares its host name with no other gets its own text;
* `tick_hosts` — a call writes what the configuration asks for, and no other hosts file;
* `Watched`, `watch` — runs that remember which hosts files calls have written.

Main result: `hosts_follow_configuration`.
-/

namespace ClusterAgent.Containerd

variable (prog : Program) (call : Call)

/-! ## What a list of registries asks for -/

section

variable {prog} {dir : String} {registries : List Registry} {p : Path}

theorem hostsText_mem (h : hostsText prog dir registries p ≠ none) :
    ∃ r ∈ registries, hostsPath prog dir r = some p := by
  induction registries with
  | nil => exact absurd rfl h
  | cons registry rest ih =>
    by_cases hRest : hostsText prog dir rest p = none
    · refine ⟨registry, List.mem_cons_self, ?_⟩
      rw [hostsText, hRest, Option.none_or] at h
      cases hPath : hostsPath prog dir registry with
      | none => exact absurd (by rw [hPath]; rfl) h
      | some path =>
        rw [hPath, Option.bind_some, askedAt] at h
        split at h
        · next hAt => rw [hAt]
        · exact absurd rfl h
    · obtain ⟨r, hr, hPath⟩ := ih hRest
      exact ⟨r, List.mem_cons_of_mem _ hr, hPath⟩

theorem hostsPath_eq {r : Registry} (h : hostsPath prog dir r = some p) :
    ∃ host, prog.urlHostname r.endpoint = .ok host ∧
      p = { dir := joinPath dir host, name := "hosts.toml" } := by
  unfold hostsPath at h
  cases hHost : prog.urlHostname r.endpoint with
  | error e =>
    rw [hHost] at h
    cases h
  | ok host =>
    rw [hHost] at h
    cases h
    exact ⟨host, rfl, rfl⟩

theorem hostsText_own {r : Registry} {text : String} (hr : r ∈ registries)
    (hPath : hostsPath prog dir r = some p) (hText : prog.encodeToml (hostsConfigOf r) = .ok text)
    (hOwn : ∀ r' ∈ registries, hostsPath prog dir r' = some p → r' = r) :
    hostsText prog dir registries p = some text := by
  induction registries with
  | nil => cases hr
  | cons registry rest ih =>
    by_cases hRest : r ∈ rest
    · rw [hostsText, ih hRest fun r' hr' => hOwn r' (List.mem_cons_of_mem _ hr'), Option.some_or]
    · obtain rfl : r = registry := (List.mem_cons.mp hr).resolve_right hRest
      have hNone : hostsText prog dir rest p = none := by
        by_contra hSome
        obtain ⟨r', hr', hPath'⟩ := hostsText_mem hSome
        exact hRest (hOwn r' (List.mem_cons_of_mem _ hr') hPath' ▸ hr')
      rw [hostsText, hNone, Option.none_or, hPath, hText, Option.bind_some, askedAt, if_pos rfl]
      rfl

end

/-! ## Runs -/

structure Watched where
  node : Node
  managed : Path → Bool := fun _ => false
  seen : List Path := []

def hostsPaths (files : Files) : Option (List Path) :=
  (configured prog files).bind fun registries =>
    if registries = [] then some []
    else (hostsDirOf prog files).map fun dir => registries.filterMap (hostsPath prog dir)

def watch (w : Watched) (event : Event) : Watched :=
  let node := step prog w.node event
  match event with
  | .tick _ =>
    { node := node
      managed := fun p =>
        w.managed p || (p.name = "hosts.toml" && node.files p ≠ w.node.files p)
      seen := (hostsPaths prog w.node.files).getD w.seen }
  | _ => { w with node := node }

/-- The condition on a call: no hosts file of the last configuration has left it, and no two
registries share a host name. -/
def Steady (w : Watched) : Event → Prop
  | .tick _ =>
    (∀ paths, hostsPaths prog w.node.files = some paths → w.seen ⊆ paths) ∧
      ∀ registries, configured prog w.node.files = some registries →
        ∀ r ∈ registries, ∀ r' ∈ registries, ∀ host, prog.urlHostname r.endpoint = .ok host →
          prog.urlHostname r'.endpoint = .ok host → r = r'
  | _ => True

/-- The hosts files that calls have written are those of the registries, each with the text
that maps the endpoint to the service address. -/
structure HostsExact (dir : Option String) (registries : List Registry) (w : Watched) : Prop where
  only : ∀ p, w.managed p = true → w.node.files p ≠ none →
    ∃ r ∈ registries, dir.bind (hostsPath prog · r) = some p
  each : ∀ r ∈ registries, ∃ p text, dir.bind (hostsPath prog · r) = some p ∧
    prog.encodeToml (hostsConfigOf r) = .ok text ∧ w.node.files p = some text

/-- Files that calls have written belong to the last configuration. -/
def Accounted (w : Watched) : Prop := ∀ p, w.managed p = true → p ∈ w.seen

theorem hostsPaths_wanted {files : Files} {p : Path} (h : hostsWanted prog files p ≠ none) :
    ∃ paths, hostsPaths prog files = some paths ∧ p ∈ paths := by
  unfold hostsWanted at h
  unfold hostsPaths
  cases hRegistries : configured prog files with
  | none => exact absurd (by rw [hRegistries]; rfl) h
  | some registries =>
    cases hDir : hostsDirOf prog files with
    | none => exact absurd (by rw [hRegistries, hDir]; rfl) h
    | some dir =>
      rw [hRegistries, hDir] at h
      obtain ⟨r, hr, hPath⟩ := hostsText_mem h
      rw [Option.bind_some, if_neg (List.ne_nil_of_mem hr)]
      exact ⟨_, rfl, List.mem_filterMap.mpr ⟨r, hr, hPath⟩⟩

theorem tick_hosts (call : Call) (node : Node) :
    (∀ p, IsHosts p → hostsWanted prog node.files p = none →
      (tick prog call node).files p = node.files p) ∧
    ((tick prog call node).isLastSuccess = true →
      (∀ p, IsHosts p →
        (tick prog call node).files p = filled (hostsWanted prog node.files) node.files p) ∧
      ∃ registries, configured prog node.files = some registries ∧
        (registries ≠ [] → ∃ dir, hostsDirOf prog node.files = some dir ∧
          Complete prog dir registries)) := by
  have hRun := reconcile_spec prog call node { node with ops := 0 } ⟨0, rfl⟩
  unfold tick
  cases hOutcome : reconcile prog call { node with ops := 0 } with
  | ok _ node' =>
    rw [hOutcome] at hRun
    refine ⟨fun p hp hNone => (hRun.hosts p hp).trans ?_, fun _ => ⟨hRun.hosts, hRun.complete⟩⟩
    rw [filled, hNone, Option.none_or]
  | error e node' =>
    rw [hOutcome] at hRun
    refine ⟨hRun.hosts, fun hSuccess => ?_⟩
    cases hSuccess

theorem watch_accounted (w : Watched) (event : Event) (hSteady : Steady prog w event)
    (h : Accounted w) : Accounted (watch prog w event) := by
  cases event with
  | tick call =>
    intro p hManaged
    have hOf : p ∈ w.seen ∨ ∃ paths, hostsPaths prog w.node.files = some paths ∧ p ∈ paths := by
      rcases Bool.or_eq_true_iff.mp hManaged with hOld | hNew
      · exact Or.inl (h p hOld)
      · rw [Bool.and_eq_true, decide_eq_true_eq, decide_eq_true_eq] at hNew
        refine Or.inr (hostsPaths_wanted prog fun hNone => hNew.2 ?_)
        exact (tick_hosts prog call w.node).1 p hNew.1 hNone
    show p ∈ (hostsPaths prog w.node.files).getD w.seen
    cases hPaths : hostsPaths prog w.node.files with
    | none =>
      rw [hPaths] at hOf
      exact hOf.resolve_right fun ⟨_, hSome, _⟩ => nomatch hSome
    | some paths =>
      rcases hOf with hSeen | ⟨paths', hSome, hMem⟩
      · exact hSteady.1 paths hPaths hSeen
      · cases hPaths.symm.trans hSome
        exact hMem
  | edit change => exact h
  | restart => exact h

def history (files : Files) (events : List Event) : Watched :=
  Runs.run (watch prog) { node := started files } events

/-- A call after a run leaves the hosts files of the configuration it reads. -/
def FollowsConfiguration (files : Files) (events : List Event) (call : Call) : Prop :=
  ∃ registries, configured prog (history prog files events).node.files = some registries ∧
    HostsExact prog (hostsDirOf prog (history prog files events).node.files) registries
      (history prog files (events ++ [.tick call]))

/-- **The hosts files follow the configuration.** In every run of calls, changes to files by
others and restarts in which no hosts file leaves the configuration and host names are not
shared, after every call that succeeds the hosts files the calls have written are exactly
those of the registries in the configuration, each with its current service address. -/
theorem hosts_follow_configuration (files : Files) (events : List Event) (call : Call)
    (hSteady : Runs.Admitted (watch prog) (Steady prog) { node := started files }
      (events ++ [.tick call]))
    (hSuccess : (history prog files (events ++ [.tick call])).node.isLastSuccess = true) :
    FollowsConfiguration prog files events call := by
  obtain ⟨hBefore, ⟨hKept, hOwn⟩, -⟩ := Runs.admitted_append hSteady
  have hAccounted := Runs.run_admitted (watch_accounted prog) hSteady nofun
  unfold FollowsConfiguration
  unfold history at hSuccess ⊢
  rw [Runs.run_append] at hSuccess hAccounted ⊢
  generalize Runs.run (watch prog) { node := started files } events = w
    at hKept hOwn hSuccess hAccounted ⊢
  obtain ⟨hHosts, registries, hConfigured, hComplete⟩ := (tick_hosts prog call w.node).2 hSuccess
  refine ⟨registries, hConfigured, fun p hManaged hFile => ?_, fun r hr => ?_⟩
  · have hSeen : p ∈ (hostsPaths prog w.node.files).getD w.seen := hAccounted p hManaged
    rw [hostsPaths, hConfigured, Option.bind_some] at hSeen
    split at hSeen
    · cases hSeen
    · next hSome =>
      obtain ⟨dir, hDir, -⟩ := hComplete hSome
      rw [hDir, Option.map_some, Option.getD_some] at hSeen
      obtain ⟨r, hr, hPath⟩ := List.mem_filterMap.mp hSeen
      exact ⟨r, hr, hDir ▸ hPath⟩
  · obtain ⟨dir, hDir, hAll⟩ := hComplete (List.ne_nil_of_mem hr)
    obtain ⟨p, text, hPath, hText⟩ := hAll r hr
    obtain ⟨host, hHost, hp⟩ := hostsPath_eq hPath
    refine ⟨p, text, hDir ▸ hPath, hText, ?_⟩
    have hWanted : hostsWanted prog w.node.files p = some text := by
      rw [hostsWanted, hConfigured, hDir, Option.bind_some, Option.bind_some]
      refine hostsText_own hr hPath hText fun r' hr' hPath' => ?_
      obtain ⟨host', hHost', hp'⟩ := hostsPath_eq hPath'
      -- the directories differ in the host name only
      have hSame : joinPath dir host' = joinPath dir host :=
        congrArg Path.dir (hp'.symm.trans hp)
      have hHosts : host' = host := String.append_right_inj _ |>.mp hSame
      exact hOwn registries hConfigured r' hr' r hr host (hHosts ▸ hHost') hHost
    have hIsHosts : IsHosts p := by
      rw [hp]
      rfl
    show (tick prog call w.node).files p = some text
    rw [hHosts p hIsHosts, filled, hWanted, Option.some_or]

namespace Fixture

def shopAt (ip port : String) : Registry :=
  { serviceIp := ip ++ ":5000", endpoint := "http://shop.local:" ++ port }

def hostsProgram : Program :=
  { program with
    unmarshalRegistries := fun text => .ok
      { registries :=
          if text = "shop" then [shopAt "10.0.0.7" "5000"]
          else if text = "moved" then [shopAt "10.0.0.8" "5000"]
          else if text = "shared" then [shopAt "10.0.0.7" "5000", shopAt "10.0.0.8" "6000"]
          else [] }
    encodeToml := fun table =>
      match table.get? "host" with
      | some (.table ((url, _) :: _)) => .ok url
      | _ => .ok "config" }

def reconfigured (text : String) : Event := .edit fun before path =>
  if path = program.flags.registryConfig then some text else before path

def shopHosts : Path := { dir := "/etc/containerd/certs.d/shop.local", name := "hosts.toml" }

end Fixture

theorem hosts_follow_configuration_moved :
    FollowsConfiguration Fixture.hostsProgram (Fixture.files "shop")
      [.tick Fixture.calm, Fixture.reconfigured "moved"] Fixture.calm := by
  -- one registry has no other to share its host name with
  have hOne : ∀ {w : Watched} {x : Registry},
      configured Fixture.hostsProgram w.node.files = some [x] → ∀ registries,
        configured Fixture.hostsProgram w.node.files = some registries →
          ∀ r ∈ registries, ∀ r' ∈ registries, ∀ host,
            Fixture.hostsProgram.urlHostname r.endpoint = .ok host →
              Fixture.hostsProgram.urlHostname r'.endpoint = .ok host → r = r' := by
    intro w x hx registries hRegistries r hr r' hr' _ _ _
    cases hx.symm.trans hRegistries
    rw [List.mem_singleton.mp hr, List.mem_singleton.mp hr']
  refine hosts_follow_configuration Fixture.hostsProgram (Fixture.files "shop")
    [.tick Fixture.calm, Fixture.reconfigured "moved"] Fixture.calm
    ⟨⟨fun _ _ => List.nil_subset _, hOne (x := Fixture.shopAt "10.0.0.7" "5000")
      (by decide +kernel)⟩,
      trivial, ⟨fun paths hPaths => ?_,
        hOne (x := Fixture.shopAt "10.0.0.8" "5000") (by decide +kernel)⟩, trivial⟩
    (by decide +kernel)
  have hAt : paths = [Fixture.shopHosts] := Option.some.inj (hPaths.symm.trans (by decide +kernel))
  rw [hAt]
  decide +kernel

/-- Two runs that end with a success and other hosts files. In the first the only registry is
removed, and the call returns before it looks at any file. In the second two endpoints differ
in the port only, and the file has the address of the last. -/
theorem hosts_left_behind :
    ¬ (∀ (prog : Program) (files : Files) (events : List Event) (call : Call),
      (history prog files (events ++ [.tick call])).node.isLastSuccess = true →
        FollowsConfiguration prog files events call) ∧
    (let node := step Fixture.hostsProgram (started (Fixture.files "shared")) (.tick Fixture.calm)
    node.isLastSuccess = true ∧
      node.files Fixture.shopHosts = some "http://10.0.0.8:5000") := by
  refine ⟨fun h => ?_, by decide +kernel⟩
  obtain ⟨registries, hConfigured, hExact⟩ := h Fixture.hostsProgram (Fixture.files "shop")
    [.tick Fixture.calm, Fixture.reconfigured ""] Fixture.calm (by decide +kernel)
  have hNone : registries = [] := Option.some.inj (hConfigured.symm.trans (by decide +kernel))
  obtain ⟨r, hr, -⟩ := hExact.only Fixture.shopHosts (by decide +kernel) (by decide +kernel)
  rw [hNone] at hr
  cases hr

end ClusterAgent.Containerd
