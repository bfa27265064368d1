import Mathlib
import SupplyDrop.Library.Program
import SupplyDrop.Library.Text
import SupplyDrop.Plugin.Types

namespace SupplyDrop.Plugin
open Library

/-! ## Configuration on disk -/

namespace TomlEntry

def decode (e : TomlEntry) : Option ProcessPluginConfig :=
  if 0 ≤ e.restartDelaySecs ∧ e.restartDelaySecs < 2 ^ 63 then
    some ⟨e.name, e.command, e.args, e.enabled, e.restartOnCrash,
      BitVec.ofInt 64 e.restartDelaySecs⟩
  else none

-- the delay as an `i64`
def ofConfig (c : ProcessPluginConfig) : TomlEntry :=
  ⟨c.name, c.command, c.args, c.enabled, c.restartOnCrash, c.restartDelaySecs.toInt⟩

/-- `toml` refuses to write a number above `i64::MAX`. -/
def serialise (c : ProcessPluginConfig) : Option TomlEntry :=
  if c.restartDelaySecs.toNat < 2 ^ 63 then some (ofConfig c) else none

end TomlEntry

/-- A drop-in file, with the entries its text stands for. -/
structure PluginFile where
  fileName : String
  entries : List TomlEntry
deriving DecidableEq

abbrev PluginsD := KeyedTable PluginFile.fileName

structure Disk where
  configToml : List TomlEntry
  -- `none` when there is no `plugins.d` directory
  pluginsD : Option PluginsD

def parsePluginFile (file : PluginFile) : List ProcessPluginConfig :=
  (file.entries.mapM TomlEntry.decode).getD []

-- a file name that is all extension has none
def hasTomlExtension (fileName : String) : Bool :=
  (Text.stripSuffix ".toml" fileName).any fun stem => !stem.isEmpty

def loadPluginsD (dir : PluginsD) : List ProcessPluginConfig :=
  let paths := dir.entries.filter fun file => hasTomlExtension file.fileName
  (paths.mergeSort fun a b => a.fileName ≤ b.fileName).flatMap parsePluginFile

def pluginFile (name : String) : String := name ++ ".toml"

def writePluginFile (dir : PluginsD) (cfg : ProcessPluginConfig) : PluginsD :=
  match TomlEntry.serialise cfg with
  | none => dir
  | some entry =>
      -- a path with a separator leads out of the directory
      if cfg.name.toList.contains '/' then dir
      else dir.put ⟨pluginFile cfg.name, [entry]⟩

/-! ## The manager -/

structure Manager where
  plugins : Plugins
  disk : Disk

abbrev ManagerM := Program Manager RegistryError

/-- How `spawn_transport` ended. -/
abbrev Spawned := Except String ProcessId

def initPlugin (spawned : Spawned) (config : ProcessPluginConfig) (fromPluginsD : Bool) :
    ManagedPlugin :=
  let stopped : ManagedPlugin :=
    { config, fromPluginsD, state := .disabled, restartCount := 0, transport := none }
  if config.enabled then
    match spawned with
    | .ok t => stopped.launch t
    | .error reason => stopped.halt (.crashed (spawnFailedText config.name reason))
  else stopped

def loadConfigToml (spawns : ProcessPluginConfig → Spawned) (configs : List ProcessPluginConfig)
    (plugins : Plugins) : Plugins :=
  configs.foldl (fun plugins cfg => plugins.put (initPlugin (spawns cfg) cfg false)) plugins

-- an entry of `config.toml` with the name is evicted before the drop-in one starts
def loadDropIns (spawns : ProcessPluginConfig → Spawned) (configs : List ProcessPluginConfig)
    (plugins : Plugins) : Plugins :=
  configs.foldl (fun plugins cfg =>
    (plugins.erase cfg.name).put (initPlugin (spawns cfg) cfg true)) plugins

/-- `None` when `config.toml` holds an entry that is no plugin configuration. -/
def Manager.new (spawns : ProcessPluginConfig → Spawned) (disk : Disk) : Option Manager := do
  let configs ← disk.configToml.mapM TomlEntry.decode
  let legacy := loadConfigToml spawns configs .empty
  pure { plugins := loadDropIns spawns (disk.pluginsD.elim [] loadPluginsD) legacy, disk }

/-- The order a `HashMap` iterates in. -/
structure HashOrder where
  order : List ManagedPlugin → List ManagedPlugin
  perm : ∀ l, (order l).Perm l

def HashOrder.same : HashOrder := ⟨id, List.Perm.refl⟩

def persistConfig (plugins : List ManagedPlugin) (disk : Disk) : Disk where
  configToml := (plugins.filter fun m => !m.fromPluginsD).map fun m => .ofConfig m.config
  pluginsD := disk.pluginsD.map fun dir =>
    (plugins.filter fun m => m.fromPluginsD).foldl (fun dir m => writePluginFile dir m.config) dir

def persist (hash : HashOrder) : ManagerM Unit :=
  Program.modify fun s => { s with disk := persistConfig (hash.order s.plugins.entries) s.disk }

def setPlugins (f : Plugins → Plugins) : ManagerM Unit :=
  Program.modify fun s => { s with plugins := f s.plugins }

def validated (r : Except RegistryError Unit) : ManagerM Unit :=
  match r with
  | .ok () => pure ()
  | .error e => Program.fail e

def addPlugin (hash : HashOrder) (spawned : Spawned) (config : ProcessPluginConfig) :
    ManagerM Unit := do
  validated (validatePluginName config.name)
  validated (validatePluginCommand config.command)
  let s ← Program.get
  if (s.plugins.get? config.name).isSome then Program.fail (.alreadyExists config.name)
  else do
    let toPluginsD := s.disk.pluginsD.isSome
    setPlugins fun plugins => plugins.put
      { config, fromPluginsD := toPluginsD, state := .starting, restartCount := 0,
        transport := none }
    setPlugins fun plugins => plugins.put (initPlugin spawned config toPluginsD)
    persist hash

def deleteFile (name : String) (disk : Disk) : Disk :=
  { disk with pluginsD := disk.pluginsD.map fun dir => dir.erase (pluginFile name) }

def removePlugin (hash : HashOrder) (name : String) : ManagerM Unit := do
  let s ← Program.get
  match s.plugins.get? name with
  | none => Program.fail (.notFound name)
  | some m => do
      setPlugins fun plugins => plugins.erase name
      if m.fromPluginsD then Program.modify fun s => { s with disk := deleteFile name s.disk }
      else pure ()
      persist hash

def setEnabled (hash : HashOrder) (spawned : Spawned) (name : String) (enabled : Bool) :
    ManagerM Unit := do
  let s ← Program.get
  match s.plugins.get? name with
  | none => Program.fail (.notFound name)
  | some m => do
      setPlugins fun plugins => plugins.modify name (.setEnabled enabled) fun m =>
        m.name_setEnabled enabled
      if enabled then
        if m.transport.isNone ∧ m.state ≠ .starting then
          match spawned with
          | .ok t => do
              setPlugins fun plugins => plugins.modify name (.launch t) fun m => m.name_launch t
              persist hash
          | .error reason => do
              setPlugins fun plugins => plugins.modify name (fun m => { m with state := .stopped })
                fun _ => rfl
              Program.fail (.spawnFailed name reason)
        else pure ()
      else do
        setPlugins fun plugins => plugins.modify name (.halt .disabled) fun m =>
          m.name_halt .disabled
        persist hash

end SupplyDrop.Plugin
