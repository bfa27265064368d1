import Mathlib
import SupplyDrop.Library.KeyedTable

namespace SupplyDrop.Plugin
open Library

/-- A `[[plugins.process]]` table, with the type its delay has. -/
structure PluginEntry (δ : Type) where
  name : String
  command : String
  args : List String
  enabled : Bool
  restartOnCrash : Bool
  restartDelaySecs : δ
deriving DecidableEq

-- a `u64` in memory, while an integer of TOML is an `i64`
abbrev ProcessPluginConfig := PluginEntry (BitVec 64)
abbrev TomlEntry := PluginEntry Int

inductive PluginState where
  | running
  | stopped
  | starting
  | crashed (reason : String)
  | disabled
deriving DecidableEq

inductive InvalidPlugin where
  | emptyName
  | leadingHyphen
  | invalidCharacters (name : String)
  | emptyCommand
deriving DecidableEq

inductive RegistryError where
  | notFound (name : String)
  | alreadyExists (name : String)
  | spawnFailed (name reason : String)
  | invalidConfig (why : InvalidPlugin)
deriving DecidableEq

def spawnFailedText (name reason : String) : String := s!"failed to spawn plugin '{name}': {reason}"

abbrev ProcessId := Nat

structure ManagedPlugin where
  config : ProcessPluginConfig
  fromPluginsD : Bool
  state : PluginState
  restartCount : Nat
  transport : Option ProcessId
deriving DecidableEq

namespace ManagedPlugin

def name (m : ManagedPlugin) : String := m.config.name

def setEnabled (enabled : Bool) (m : ManagedPlugin) : ManagedPlugin :=
  { m with config := { m.config with enabled } }

def launch (transport : ProcessId) (m : ManagedPlugin) : ManagedPlugin :=
  { m with transport := some transport, state := .running }

def halt (state : PluginState) (m : ManagedPlugin) : ManagedPlugin :=
  { m with transport := none, state }

@[simp] theorem name_setEnabled (m : ManagedPlugin) (enabled : Bool) :
    (m.setEnabled enabled).name = m.name := rfl

@[simp] theorem name_launch (m : ManagedPlugin) (t : ProcessId) : (m.launch t).name = m.name := rfl

@[simp] theorem name_halt (m : ManagedPlugin) (s : PluginState) : (m.halt s).name = m.name := rfl

end ManagedPlugin

abbrev Plugins := KeyedTable ManagedPlugin.name

/-! ## Names and commands -/

def isNameChar (c : Char) : Bool := c.isAlphanum || c = '_' || c = '-'

/-- The name becomes a file name, so it has neither separators nor dots. -/
def validatePluginName (name : String) : Except RegistryError Unit :=
  if name.isEmpty then .error (.invalidConfig .emptyName)
  else if name.toList.head? = some '-' then .error (.invalidConfig .leadingHyphen)
  else if !name.toList.all isNameChar then .error (.invalidConfig (.invalidCharacters name))
  else .ok ()

def validatePluginCommand (command : String) : Except RegistryError Unit :=
  if command.isEmpty then .error (.invalidConfig .emptyCommand) else .ok ()

end SupplyDrop.Plugin
