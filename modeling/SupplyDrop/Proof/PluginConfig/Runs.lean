import Mathlib
import SupplyDrop.Library.Run
import SupplyDrop.Proof.PluginConfig.Disk

namespace SupplyDrop.Proof.PluginConfig
open Library Plugin

/-! ## Calls -/

inductive Call where
  | addPlugin (hash : HashOrder) (spawned : Spawned) (config : ProcessPluginConfig)
  | removePlugin (hash : HashOrder) (name : String)
  | setEnabled (hash : HashOrder) (spawned : Spawned) (name : String) (enabled : Bool)
  -- a restart or an exit changes what runs, and no setting
  | elsewhere (name : String) (state : PluginState) (restartCount : Nat)
      (transport : Option ProcessId)

def Call.program : Call → ManagerM Unit
  | .addPlugin hash spawned config => Plugin.addPlugin hash spawned config
  | .removePlugin hash name => Plugin.removePlugin hash name
  | .setEnabled hash spawned name enabled => Plugin.setEnabled hash spawned name enabled
  | .elsewhere name state restartCount transport => setPlugins fun plugins =>
      plugins.modify name (fun m => { m with state, restartCount, transport }) fun _ => rfl

def step (call : Call) (s t : Manager) : Prop := call.program s = (.ok (), t)

/-- The drop-in files agree with the plugins the call leaves. -/
def Allowed : Call → Manager → Prop
  | .addPlugin _ spawned config, s => Small config ∧
      SettledOn (s.plugins.put (initPlugin spawned config s.disk.pluginsD.isSome)) s.disk
  | .removePlugin _ name, s => ∀ m, s.plugins.get? name = some m →
      SettledOn (s.plugins.erase name) (if m.fromPluginsD then deleteFile name s.disk else s.disk)
  | .setEnabled _ _ name true, s => ∀ m, s.plugins.get? name = some m →
      if m.transport.isNone ∧ m.state ≠ .starting then
        SettledOn (s.plugins.modify name (.setEnabled true) fun m => m.name_setEnabled true) s.disk
      else m.config.enabled = true
  | .setEnabled _ _ name false, s =>
      SettledOn (s.plugins.modify name (.setEnabled false) fun m => m.name_setEnabled false) s.disk
  | .elsewhere .., _ => True

/-! ## Tables that differ in what runs alone -/

section SameSettings
variable {p q : Plugins} {disk : Disk}

def SameSettings (p q : Plugins) : Prop :=
  ∀ name, (p.get? name).map (fun m => (m.config, m.fromPluginsD)) =
    (q.get? name).map fun m => (m.config, m.fromPluginsD)

theorem SameSettings.symm (same : SameSettings p q) : SameSettings q p := fun name =>
  (same name).symm

theorem SameSettings.get? (same : SameSettings p q) {name : String} {m : ManagedPlugin}
    (h : p.get? name = some m) :
    ∃ m', q.get? name = some m' ∧ m'.config = m.config ∧ m'.fromPluginsD = m.fromPluginsD := by
  have eq := same name
  rw [h, Option.map_some, eq_comm, Option.map_eq_some_iff] at eq
  obtain ⟨m', there, pair⟩ := eq
  exact ⟨m', there, congrArg Prod.fst pair, congrArg Prod.snd pair⟩

theorem SameSettings.mem (same : SameSettings p q) {m : ManagedPlugin} (h : m ∈ p.entries) :
    ∃ m' ∈ q.entries, m'.config = m.config ∧ m'.fromPluginsD = m.fromPluginsD := by
  obtain ⟨m', there, config, from_⟩ := same.get? (KeyedTable.mem_entries.mp h)
  exact ⟨m', (KeyedTable.get?_eq_some.mp there).1, config, from_⟩

theorem SameSettings.configOf (same : SameSettings p q) (name : String) :
    configOf p name = configOf q name := by
  have eq := congrArg (Option.map Prod.fst) (same name)
  rw [Option.map_map, Option.map_map] at eq
  exact eq

theorem SameSettings.restored (same : SameSettings p q) (h : Restored ⟨q, disk⟩) :
    Restored ⟨p, disk⟩ := by
  intro spawns
  obtain ⟨s', loaded, found⟩ := h spawns
  exact ⟨s', loaded, fun name => (found name).trans (same.configOf name).symm⟩

theorem SameSettings.writable (same : SameSettings p q) (h : Writable q disk) :
    Writable p disk where
  plain m mem dropIn := by
    obtain ⟨m', mem', config, from_⟩ := same.mem mem
    rw [ManagedPlugin.name, ← config]
    exact h.plain m' mem' (from_.trans dropIn)
  small m mem := by
    obtain ⟨m', mem', config, -⟩ := same.mem mem
    rw [← config]
    exact h.small m' mem'
  dropIns m mem dropIn := by
    obtain ⟨m', mem', -, from_⟩ := same.mem mem
    exact h.dropIns m' mem' (from_.trans dropIn)

theorem SameSettings.foreign (same : SameSettings p q) {file : PluginFile}
    (h : Foreign q file) : Foreign p file := by
  refine ⟨h.1, fun m mem dropIn => ?_⟩
  obtain ⟨m', mem', config, from_⟩ := same.mem mem
  rw [ManagedPlugin.name, ← config]
  exact h.2 m' mem' (from_.trans dropIn)

theorem SameSettings.settledOn (same : SameSettings p q) (h : SettledOn q disk) :
    SettledOn p disk := by
  intro dir here name file mem c foreign found last
  obtain ⟨m, there, agrees⟩ := h dir here name file mem c (same.symm.foreign foreign) found
    fun later hl foreign' => last later hl (same.foreign foreign')
  obtain ⟨m', there', config, from_⟩ := same.symm.get? there
  refine ⟨m', there', ?_⟩
  rwa [config, from_]

theorem sameSettings_modify (p : Plugins) (name : String) (f : ManagedPlugin → ManagedPlugin)
    (keeps : ∀ m, (f m).name = m.name)
    (same : ∀ m, (f m).config = m.config ∧ (f m).fromPluginsD = m.fromPluginsD) :
    SameSettings (p.modify name f keeps) p := by
  intro n
  rw [KeyedTable.get?_modify]
  split
  · rw [Option.map_map]
    refine congrArg (Option.map · _) (funext fun m => ?_)
    exact Prod.ext (same m).1 (same m).2
  · rfl

end SameSettings

/-! ## What each call does -/

section Calls
variable {s t : Manager} {hash : HashOrder} {spawned : Spawned}

/-- The table and the disk before the write, which ends the call. -/
def Writes (hash : HashOrder) (plugins : Plugins) (disk : Disk) (t : Manager) : Prop :=
  t = { plugins, disk := persistConfig (hash.order plugins.entries) disk }

theorem validatePluginName_plain {name : String} (h : validatePluginName name = .ok ()) :
    Plain name := by
  unfold validatePluginName at h
  split at h
  · cases h
  · next nonempty =>
    split at h
    · cases h
    · split at h
      · cases h
      · next valid =>
        simp only [Bool.not_eq_true', Bool.not_eq_false] at valid
        refine ⟨fun empty => nonempty (by rw [empty]; rfl), fun slash => ?_⟩
        have char := List.all_eq_true.mp valid '/' slash
        exact absurd char (by decide)

theorem validated_ok {r : Except RegistryError Unit} {u : Unit}
    (h : validated r s = (.ok u, t)) : r = .ok () ∧ t = s := by
  cases r with
  | ok u =>
      cases h
      exact ⟨rfl, rfl⟩
  | error e => cases h

theorem addPlugin_ok {config : ProcessPluginConfig} {u : Unit}
    (h : addPlugin hash spawned config s = (.ok u, t)) :
    Plain config.name ∧ ∃ placeholder : ManagedPlugin, placeholder.name = config.name ∧
      Writes hash ((s.plugins.put placeholder).put
        (initPlugin spawned config s.disk.pluginsD.isSome)) s.disk t := by
  obtain ⟨_, s₁, named, rest₁⟩ := Program.bind_eq_ok h
  obtain ⟨valid, rfl⟩ := validated_ok named
  obtain ⟨_, s₂, commanded, rest₂⟩ := Program.bind_eq_ok rest₁
  obtain ⟨-, rfl⟩ := validated_ok commanded
  obtain ⟨s₃, s₄, got, rest₃⟩ := Program.bind_eq_ok rest₂
  cases got
  split at rest₃
  · cases rest₃
  · cases rest₃
    exact ⟨validatePluginName_plain valid, _, rfl, rfl⟩

theorem removePlugin_ok {name : String} {u : Unit} (h : removePlugin hash name s = (.ok u, t)) :
    ∃ m, s.plugins.get? name = some m ∧ Writes hash (s.plugins.erase name)
      (if m.fromPluginsD then deleteFile name s.disk else s.disk) t := by
  obtain ⟨s₁, s₂, got, h⟩ := Program.bind_eq_ok h
  cases got
  cases there : s.plugins.get? name with
  | none =>
      rw [there] at h
      cases h
  | some m =>
      rw [there] at h
      refine ⟨m, rfl, ?_⟩
      by_cases dropIn : m.fromPluginsD = true
      · simp only [dropIn, if_true] at h ⊢
        cases h
        rfl
      · simp only [dropIn] at h ⊢
        cases h
        rfl

theorem setEnabled_ok {name : String} {enabled : Bool} {u : Unit}
    (h : setEnabled hash spawned name enabled s = (.ok u, t)) :
    ∃ m, s.plugins.get? name = some m ∧
      if enabled = true ∧ ¬ (m.transport.isNone ∧ m.state ≠ .starting) then
        t = { s with plugins := s.plugins.modify name (.setEnabled enabled) fun m => m.name_setEnabled enabled }
      else ∃ plugins, Writes hash plugins s.disk t ∧
        SameSettings plugins (s.plugins.modify name (.setEnabled enabled) fun m => m.name_setEnabled enabled) := by
  obtain ⟨s₁, s₂, got, h⟩ := Program.bind_eq_ok h
  cases got
  cases there : s.plugins.get? name with
  | none =>
      rw [there] at h
      cases h
  | some m =>
      rw [there] at h
      refine ⟨m, rfl, ?_⟩
      cases enabled with
      | false =>
          cases h
          exact ⟨_, rfl, sameSettings_modify _ name (.halt .disabled) (fun m => m.name_halt _) fun _ => ⟨rfl, rfl⟩⟩
      | true =>
          by_cases free : m.transport.isNone ∧ m.state ≠ .starting
          · rw [if_neg (fun both => both.2 free)]
            simp only [if_true, if_pos free] at h
            cases spawned with
            | error reason => cases h
            | ok id =>
                cases h
                exact ⟨_, rfl, sameSettings_modify _ name (.launch id) (fun m => m.name_launch id) fun _ => ⟨rfl, rfl⟩⟩
          · rw [if_pos ⟨rfl, free⟩]
            simp only [if_true, if_neg free] at h
            cases h
            rfl

end Calls

/-! ## Runs -/

section Runs
variable {s t : Manager} {disk : Disk} {configs : List ProcessPluginConfig} {name : String}
  {c : ProcessPluginConfig}

theorem small_of_mapM {entries : List TomlEntry} (h : entries.mapM TomlEntry.decode = some configs)
    (mem : c ∈ configs) : Small c := by
  induction entries generalizing configs with
  | nil =>
      cases h
      cases mem
  | cons e entries ih =>
      simp only [List.mapM_cons, Option.bind_eq_bind, Option.bind_eq_some_iff, Option.pure_def,
        Option.some.injEq] at h
      obtain ⟨d, first, rest, decoded, rfl⟩ := h
      rcases List.mem_cons.mp mem with rfl | mem
      · exact small_of_decode first
      · exact ih decoded mem

theorem small_of_parse {file : PluginFile} (mem : c ∈ parsePluginFile file) : Small c := by
  unfold parsePluginFile at mem
  cases decoded : file.entries.mapM TomlEntry.decode with
  | none =>
      rw [decoded] at mem
      cases mem
  | some configs =>
      rw [decoded] at mem
      exact small_of_mapM decoded mem

/-- What is read from the disk has a delay that TOML can hold. -/
theorem small_of_stored (decoded : disk.configToml.mapM TomlEntry.decode = some configs)
    (h : stored disk configs name = some c) : Small c := by
  unfold stored at h
  rcases Option.or_eq_some_iff.mp h with dropIn | ⟨-, legacy⟩
  · cases here : disk.pluginsD with
    | none =>
        rw [here] at dropIn
        cases dropIn
    | some dir =>
        rw [here] at dropIn
        obtain ⟨file, -, -, found, -⟩ := (lastOf_loadPluginsD dir).mp dropIn
        exact small_of_parse (List.mem_reverse.mp (List.mem_of_find?_eq_some found))
  · exact small_of_mapM decoded (List.mem_reverse.mp (List.mem_of_find?_eq_some legacy))

theorem small_of_restored (restored : Restored s) (h : configOf s.plugins name = some c) :
    Small c := by
  obtain ⟨configs, decoded, same⟩ := restored_iff.mp restored
  exact small_of_stored decoded ((same name).trans h)

theorem writes_restored {hash : HashOrder} {plugins : Plugins} (writes : Writes hash plugins disk t)
    (writable : Writable plugins disk) : Restored t ↔ SettledOn plugins disk := by
  rw [writes]
  exact persist_restored_iff hash writable

theorem writable_written {hash : HashOrder} {plugins : Plugins}
    (writes : Writes hash plugins disk t) (writable : Writable plugins disk) :
    Writable t.plugins t.disk := by
  rw [writes]
  refine ⟨writable.plain, writable.small, fun m mem dropIn => ?_⟩
  simp only [persistConfig, Option.isSome_map]
  exact writable.dropIns m mem dropIn

theorem mem_put {plugins : Plugins} {m a : ManagedPlugin} (h : m ∈ (plugins.put a).entries) :
    m = a ∨ m ∈ plugins.entries := by
  rcases List.mem_append.mp h with old | new
  · exact .inr (List.mem_of_mem_filter old)
  · exact .inl (List.mem_singleton.mp new)

theorem sameSettings_put_put (plugins : Plugins) {a b : ManagedPlugin} (same : a.name = b.name) :
    SameSettings ((plugins.put a).put b) (plugins.put b) := by
  intro n
  rw [KeyedTable.get?_put, KeyedTable.get?_put, KeyedTable.get?_put]
  split
  · rfl
  · next other =>
    rw [same, if_neg other]

theorem writable_put (writable : Writable s.plugins s.disk) {spawned : Spawned}
    (plain : Plain c.name) (small : Small c) :
    Writable (s.plugins.put (initPlugin spawned c s.disk.pluginsD.isSome)) s.disk where
  plain m mem dropIn := by
    rcases mem_put mem with rfl | old
    · rwa [initPlugin_name]
    · exact writable.plain m old dropIn
  small m mem := by
    rcases mem_put mem with rfl | old
    · rwa [initPlugin_config]
    · exact writable.small m old
  dropIns m mem dropIn := by
    rcases mem_put mem with rfl | old
    · rwa [initPlugin_fromPluginsD] at dropIn
    · exact writable.dropIns m old dropIn

theorem writable_erase (writable : Writable s.plugins s.disk) (m : ManagedPlugin) (name : String) :
    Writable (s.plugins.erase name)
      (if m.fromPluginsD then deleteFile name s.disk else s.disk) where
  plain m mem := writable.plain m (List.mem_of_mem_filter mem)
  small m mem := writable.small m (List.mem_of_mem_filter mem)
  dropIns m mem dropIn := by
    have there := writable.dropIns m (List.mem_of_mem_filter mem) dropIn
    split
    · simpa [deleteFile] using there
    · exact there

theorem writable_setEnabled (writable : Writable s.plugins s.disk) (name : String)
    (enabled : Bool) :
    Writable (s.plugins.modify name (.setEnabled enabled) fun m => m.name_setEnabled enabled) s.disk := by
  have from_ {m : ManagedPlugin}
      (mem : m ∈ (s.plugins.modify name (.setEnabled enabled) fun m => m.name_setEnabled enabled).entries) :
      ∃ m' ∈ s.plugins.entries, m.name = m'.name ∧ m.fromPluginsD = m'.fromPluginsD ∧
        m.config.restartDelaySecs = m'.config.restartDelaySecs := by
    obtain ⟨m', mem', rfl⟩ := List.mem_map.mp mem
    refine ⟨m', mem', ?_⟩
    split <;> exact ⟨rfl, rfl, rfl⟩
  constructor
  · intro m mem dropIn
    obtain ⟨m', mem', named, from', -⟩ := from_ mem
    rw [named]
    exact writable.plain m' mem' (from'.symm.trans dropIn)
  · intro m mem
    obtain ⟨m', mem', -, -, delay⟩ := from_ mem
    have small := writable.small m' mem'
    rwa [Small, ← delay] at small
  · intro m mem dropIn
    obtain ⟨m', mem', -, from', -⟩ := from_ mem
    exact writable.dropIns m' mem' (from'.symm.trans dropIn)

theorem addPlugin_step {hash : HashOrder} {spawned : Spawned} {u : Unit}
    (writable : Writable s.plugins s.disk) (h : addPlugin hash spawned c s = (.ok u, t)) :
    (Restored t ↔ Allowed (.addPlugin hash spawned c) s) ∧
      (Small c → Writable t.plugins t.disk) := by
  obtain ⟨plain, placeholder, named, writes⟩ := addPlugin_ok h
  have same := sameSettings_put_put s.plugins
    (named.trans (initPlugin_name (c := c) spawned s.disk.pluginsD.isSome).symm)
  have after (small : Small c) := same.writable (writable_put writable plain small)
  refine ⟨⟨fun restored => ?_, fun ⟨small, settled⟩ => ?_⟩, fun small =>
    writable_written writes (after small)⟩
  · have held : configOf t.plugins c.name = some c := by
      rw [writes, configOf_put, initPlugin_name, initPlugin_config, if_pos rfl]
    have small := small_of_restored restored held
    exact ⟨small, same.symm.settledOn ((writes_restored writes (after small)).mp restored)⟩
  · exact (writes_restored writes (after small)).mpr (same.settledOn settled)

theorem removePlugin_step {hash : HashOrder} {u : Unit} (writable : Writable s.plugins s.disk)
    (h : removePlugin hash name s = (.ok u, t)) :
    (Restored t ↔ Allowed (.removePlugin hash name) s) ∧ Writable t.plugins t.disk := by
  obtain ⟨m, there, writes⟩ := removePlugin_ok h
  have after := writable_erase writable m name
  refine ⟨?_, writable_written writes after⟩
  rw [writes_restored writes after]
  simp [Allowed, there]

theorem setEnabled_step {hash : HashOrder} {spawned : Spawned} {enabled : Bool} {u : Unit}
    (writable : Writable s.plugins s.disk) (restored : Restored s)
    (h : setEnabled hash spawned name enabled s = (.ok u, t)) :
    (Restored t ↔ Allowed (.setEnabled hash spawned name enabled) s) ∧
      Writable t.plugins t.disk := by
  obtain ⟨m, there, outcome⟩ := setEnabled_ok h
  have after := writable_setEnabled writable name enabled
  split at outcome
  · -- the plugin has a transport, and nothing is written
    next stays =>
    obtain ⟨rfl, busy⟩ := stays
    subst outcome
    refine ⟨?_, after⟩
    have allowed : Allowed (.setEnabled hash spawned name true) s ↔ m.config.enabled = true := by
      simp only [Allowed, there, Option.some.injEq, forall_eq', if_neg busy]
    rw [allowed]
    have now : configOf (s.plugins.modify name (.setEnabled true) fun m => m.name_setEnabled true) name =
        some { m.config with enabled := true } := by
      simp [configOf, KeyedTable.get?_modify, there, ManagedPlugin.setEnabled]
    constructor
    · intro restored'
      obtain ⟨configs, decoded, same⟩ := restored_iff.mp restored
      obtain ⟨configs', decoded', same'⟩ := restored_iff.mp restored'
      obtain rfl := Option.some.inj (decoded.symm.trans decoded')
      have eq := (same name).symm.trans ((same' name).trans now)
      rw [configOf, there, Option.map_some, Option.some.injEq] at eq
      rw [eq]
    · intro already
      refine SameSettings.restored (fun n => ?_) restored
      rw [KeyedTable.get?_modify]
      split
      · next here =>
        subst here
        rw [there, Option.map_some, Option.map_some, Option.map_some, ManagedPlugin.setEnabled,
          ← already]
      · rfl
  · next writesOut =>
    obtain ⟨plugins, writes, same⟩ := outcome
    have writable' := same.writable after
    refine ⟨?_, writable_written writes writable'⟩
    rw [writes_restored writes writable']
    have settled : SettledOn plugins s.disk ↔
        SettledOn (s.plugins.modify name (.setEnabled enabled) fun m => m.name_setEnabled enabled) s.disk :=
      ⟨same.symm.settledOn, same.settledOn⟩
    rw [settled]
    cases enabled with
    | false => rfl
    | true =>
        have free : m.transport.isNone ∧ m.state ≠ .starting := by
          by_contra busy
          exact writesOut ⟨rfl, busy⟩
        simp only [Allowed, there, Option.some.injEq, forall_eq', if_pos free]

theorem elsewhere_same (name : String) (state : PluginState) (restartCount : Nat)
    (transport : Option ProcessId) (plugins : Plugins) :
    SameSettings (plugins.modify name (fun m => { m with state, restartCount, transport })
      fun _ => rfl) plugins :=
  sameSettings_modify _ _ _ _ fun _ => ⟨rfl, rfl⟩

theorem call_step {call : Call} (writable : Writable s.plugins s.disk) (restored : Restored s)
    (h : step call s t) :
    (Restored t ↔ Allowed call s) ∧ (Allowed call s → Writable t.plugins t.disk) := by
  cases call with
  | addPlugin hash spawned config =>
      obtain ⟨iff, after⟩ := addPlugin_step writable h
      exact ⟨iff, fun allowed => after allowed.1⟩
  | removePlugin hash name =>
      obtain ⟨iff, after⟩ := removePlugin_step writable h
      exact ⟨iff, fun _ => after⟩
  | setEnabled hash spawned name enabled =>
      obtain ⟨iff, after⟩ := setEnabled_step writable restored h
      exact ⟨iff, fun _ => after⟩
  | elsewhere name state restartCount transport =>
      cases h
      have same := elsewhere_same name state restartCount transport s.plugins
      exact ⟨iff_of_true (same.restored restored) trivial, fun _ => same.writable writable⟩

end Runs

/-! ## Starting from the disk -/

section Start
variable {spawns : ProcessPluginConfig → Spawned} {disk : Disk} {s t : Manager}

theorem restored_new (loaded : Manager.new spawns disk = some s) : Restored s := by
  obtain ⟨configs, decoded, found⟩ := configOf_new loaded
  obtain ⟨_, _, eq⟩ := new_eq_some.mp loaded
  have here : s.disk = disk := by rw [eq]
  exact restored_iff.mpr ⟨configs, by rwa [here], fun name => by rw [here, found]⟩

theorem legacy_loadConfigToml (spawns : ProcessPluginConfig → Spawned)
    (configs : List ProcessPluginConfig) (plugins : Plugins)
    (before : ∀ m ∈ plugins.entries, m.fromPluginsD = false) :
    ∀ m ∈ (loadConfigToml spawns configs plugins).entries, m.fromPluginsD = false := by
  induction configs generalizing plugins with
  | nil => exact before
  | cons c configs ih =>
      apply ih
      intro m mem
      rcases mem_put mem with rfl | old
      · exact initPlugin_fromPluginsD _ _
      · exact before m old

theorem writable_new (loaded : Manager.new spawns disk = some s)
    (plain : ∀ m ∈ s.plugins.entries, m.fromPluginsD = true → Plain m.name) :
    Writable s.plugins s.disk where
  plain := plain
  small m mem := by
    have held : configOf s.plugins m.name = some m.config := by
      rw [configOf, KeyedTable.mem_entries.mp mem]
      rfl
    exact small_of_restored (restored_new loaded) held
  dropIns m mem dropIn := by
    obtain ⟨configs, -, rfl⟩ := new_eq_some.mp loaded
    cases here : disk.pluginsD with
    | some dir => rfl
    | none =>
        have legacy := legacy_loadConfigToml spawns configs .empty
          (by simp [KeyedTable.empty])
        simp only [here, Option.elim_none, loadDropIns, List.foldl_nil] at mem
        rw [legacy m mem] at dropIn
        cases dropIn

end Start

def telnet : TomlEntry :=
  ⟨"telnet", "/usr/local/bin/supply-drop-telnet", ["--bind", "0.0.0.0:2323"], true, true, 5⟩

def gateway : TomlEntry := ⟨"gateway", "/usr/local/bin/gateway", [], true, true, 5⟩

-- each drop-in plugin in a file of its own name
def ownFiles : Disk where
  configToml := [gateway]
  pluginsD := some ⟨[⟨"telnet.toml", [telnet]⟩], by simp⟩

def multi : PluginFile := ⟨"multi.toml", [telnet, gateway]⟩

def oneFile : Disk where
  configToml := []
  pluginsD := some ⟨[multi], by simp⟩

def spawnsAll (_ : ProcessPluginConfig) : Spawned := .ok 1

def started (disk : Disk) : Manager :=
  (Manager.new spawnsAll disk).getD ⟨.empty, disk⟩

def disableTelnet : Call := .setEnabled .same (.ok 1) "telnet" false

theorem step_of_ok {call : Call} {s : Manager} (h : (call.program s).1.isOk = true) :
    step call s (call.program s).2 := by
  unfold step
  rcases ran : call.program s with ⟨r, t⟩
  rw [ran] at h
  cases r with
  | ok u => rfl
  | error e => cases h

theorem disableTelnet_reaches :
    Reaches step Allowed (started ownFiles) (disableTelnet.program (started ownFiles)).2 := by
  have next : step disableTelnet (started ownFiles) (disableTelnet.program (started ownFiles)).2 :=
    step_of_ok (by decide +kernel)
  refine Reaches.start.step ?_ next
  intro dir here name file mem c foreign
  obtain rfl := Option.some.inj here
  obtain rfl := List.mem_singleton.mp mem
  have own : ∃ m ∈ ((started ownFiles).plugins.modify "telnet" (.setEnabled false)
      fun m => m.name_setEnabled false).entries,
      m.fromPluginsD = true ∧ "telnet.toml" = pluginFile m.name := by
    decide +kernel
  obtain ⟨m, there, dropIn, same⟩ := own
  exact absurd same (foreign.2 m there dropIn)

def removeTelnet : Call := .removePlugin .same "telnet"

end SupplyDrop.Proof.PluginConfig
