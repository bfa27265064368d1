import Mathlib
import SupplyDrop.Plugin.Manager

namespace SupplyDrop.Plugin

/-! ## Processes, exit loops and calls -/

inductive ExitEvent where
  | crash
  | stopped
deriving DecidableEq

/-- Where the exit loop is that watches a process. -/
inductive LoopStage where
  -- the loop that started the process has still to turn to it
  | unwatched
  | watching
  | delaying
  | respawning (config : ProcessPluginConfig)
  | reviving (spawned : Spawned)
  | over

/-- A process transport, its process and the loop on its exit events. -/
structure Process where
  restartOnCrash : Bool
  -- the loop's own flag, from the configuration it was first started with
  loopRestarts : Bool
  running : Bool
  toldToStop : Bool
  -- sent by the watcher, not yet received
  event : Option ExitEvent
  stage : LoopStage

inductive Purpose where
  | add (toPluginsD : Bool)
  | enable
  | restart

/-- What a call has still to do once it has released the lock. -/
inductive Call where
  | spawning (purpose : Purpose) (config : ProcessPluginConfig)
  | recording (purpose : Purpose) (config : ProcessPluginConfig) (spawned : Spawned)
  | removing (transport : Option ProcessId)

/-- Calls and exit loops find a plugin by its name, so what they share is kept name by name: the
entry in the manager's map, the calls under way and the processes started. -/
structure Slot where
  entry : Option ManagedPlugin
  calls : Nat → Option Call
  processes : ProcessId → Option Process
  next : ProcessId

namespace Slot

def empty : Slot where
  entry := none
  calls := fun _ => none
  processes := fun _ => none
  next := 0

def setEntry (m : ManagedPlugin) (s : Slot) : Slot := { s with entry := some m }

def setCall (id : Nat) (call : Option Call) (s : Slot) : Slot :=
  { s with calls := Function.update s.calls id call }

def setProcess (p : ProcessId) (x : Process) (s : Slot) : Slot :=
  { s with processes := Function.update s.processes p (some x) }

/-- `stop` of a transport, which the process may take any time to follow. -/
def stop (transport : Option ProcessId) (s : Slot) : Slot :=
  match transport with
  | none => s
  | some p => match s.processes p with
      | none => s
      | some x => s.setProcess p { x with toldToStop := true }

def launchProcess (config : ProcessPluginConfig) (loopRestarts : Bool) (stage : LoopStage)
    (s : Slot) : Slot :=
  { s.setProcess s.next
      { restartOnCrash := config.restartOnCrash, loopRestarts, running := config.enabled,
        toldToStop := false, event := none, stage } with
    next := s.next + 1 }

/-- A transport that is started while the plugin is disabled has no process. -/
def start (outcome : Except String Unit) (config : ProcessPluginConfig) (loopRestarts : Bool)
    (stage : LoopStage) (s : Slot) : Spawned × Slot :=
  match outcome with
  | .error why =>
      if config.enabled then (.error why, s)
      else (.ok s.next, s.launchProcess config loopRestarts stage)
  | .ok () => (.ok s.next, s.launchProcess config loopRestarts stage)

/-! ## The calls -/

/-- A plugin of the configuration files, when the manager is created. -/
def load (config : ProcessPluginConfig) (fromPluginsD : Bool) (outcome : Except String Unit)
    (s : Slot) : Option Slot :=
  if s.entry.isSome then none
  else if config.enabled then
    let (spawned, s) := s.start outcome config config.restartOnCrash .watching
    some (s.setEntry (initPlugin spawned config fromPluginsD))
  else some (s.setEntry (initPlugin (.error "") config fromPluginsD))

def addPlugin (id : Nat) (toPluginsD : Bool) (config : ProcessPluginConfig) (s : Slot) : Slot :=
  if s.entry.isSome then s
  else
    let placeholder : ManagedPlugin :=
      { config, fromPluginsD := toPluginsD, state := .starting, restartCount := 0,
        transport := none }
    (s.setEntry placeholder).setCall id <| some <|
      -- nothing is spawned for a plugin that is added disabled
      if config.enabled then .spawning (.add toPluginsD) config
      else .recording (.add toPluginsD) config (.error "")

def enable (id : Nat) (s : Slot) : Slot :=
  match s.entry with
  | none => s
  | some m =>
      let m := m.setEnabled true
      if m.transport.isNone ∧ m.state ≠ .starting then
        (s.setEntry { m with state := .starting }).setCall id (some (.spawning .enable m.config))
      else s.setEntry m

def disable (s : Slot) : Slot :=
  match s.entry with
  | none => s
  | some m => (s.stop m.transport).setEntry ((m.setEnabled false).halt .disabled)

def restartPlugin (id : Nat) (s : Slot) : Slot :=
  match s.entry with
  | none => s
  | some m => ((s.stop m.transport).setEntry (m.halt .stopped)).setCall id
      (some (.spawning .restart m.config))

def removePlugin (id : Nat) (s : Slot) : Slot :=
  match s.entry with
  | none => s
  | some m => { s with entry := none }.setCall id (some (.removing m.transport))

/-- `spawn_transport`, between the two times a call holds the lock. -/
def spawnTransport (id : Nat) (outcome : Except String Unit) (s : Slot) : Option Slot :=
  match s.calls id with
  | some (.spawning purpose config) =>
      let (spawned, s) := s.start outcome config config.restartOnCrash .watching
      some (s.setCall id (some (.recording purpose config spawned)))
  | _ => none

def recorded (purpose : Purpose) (config : ProcessPluginConfig) (spawned : Spawned)
    (entry : Option ManagedPlugin) : Option ManagedPlugin :=
  match purpose with
  | .add toPluginsD => some (initPlugin spawned config toPluginsD)
  | .enable => entry.map fun m => match spawned with
      | .ok p => m.launch p
      | .error _ => { m with state := .stopped }
  | .restart => entry.map fun m => match spawned with
      | .ok p => { m.launch p with restartCount := m.restartCount + 1 }
      | .error why => { m with state := .crashed (spawnFailedText config.name why) }

def record (id : Nat) (s : Slot) : Option Slot :=
  match s.calls id with
  | some (.recording purpose config spawned) =>
      some ({ s with entry := recorded purpose config spawned s.entry }.setCall id none)
  | _ => none

def finishRemoval (id : Nat) (s : Slot) : Option Slot :=
  match s.calls id with
  | some (.removing transport) => some ((s.stop transport).setCall id none)
  | _ => none

/-! ## Exits -/

def exit (p : ProcessId) (success : Bool) (s : Slot) : Option Slot :=
  match s.processes p with
  | some x =>
      if x.running then
        some (s.setProcess p { x with
          running := false
          event := some (if x.restartOnCrash && !success then .crash else .stopped) })
      else none
  | none => none

def haltRunning (m : ManagedPlugin) : ManagedPlugin :=
  if m.state = .running then m.halt .stopped else m

/-- The exit loop receives its process's event. -/
def receive (p : ProcessId) (s : Slot) : Option Slot :=
  match s.processes p with
  | some x => match x.stage, x.event with
      | .watching, some event =>
          if event = .crash ∧ x.loopRestarts then
            some (s.setProcess p { x with event := none, stage := .delaying })
          else
            some ({ s with entry := s.entry.map haltRunning }.setProcess p
              { x with event := none, stage := .over })
      | _, _ => none
  | none => none

/-- The delay is over: the loop looks for the plugin's configuration. -/
def wake (p : ProcessId) (s : Slot) : Option Slot :=
  match s.processes p with
  | some x => match x.stage, s.entry with
      | .delaying, none => some (s.setProcess p { x with stage := .over })
      | .delaying, some m => some (s.setProcess p { x with stage := .respawning m.config })
      | _, _ => none
  | none => none

def respawn (p : ProcessId) (outcome : Except String Unit) (s : Slot) : Option Slot :=
  match s.processes p with
  | some x => match x.stage with
      | .respawning config =>
          let (spawned, s) := s.start outcome config x.loopRestarts .unwatched
          some (s.setProcess p { x with stage := .reviving spawned })
      | _ => none
  | none => none

def watch (spawned : Spawned) (s : Slot) : Slot :=
  match spawned with
  | .error _ => s
  | .ok q => match s.processes q with
      | none => s
      | some y => s.setProcess q { y with stage := .watching }

def revived (spawned : Spawned) (m : ManagedPlugin) : ManagedPlugin :=
  match spawned with
  | .ok q => { m.launch q with restartCount := m.restartCount + 1 }
  | .error why => m.halt (.crashed why)

def revive (p : ProcessId) (s : Slot) : Option Slot :=
  match s.processes p with
  | some x => match x.stage with
      | .reviving spawned =>
          some (({ s with entry := s.entry.map (revived spawned) }.setProcess p
            { x with stage := .over }).watch spawned)
      | _ => none
  | none => none

end Slot

/-! ## Steps -/

/-- What happens between two releases of the lock. Each call has an id of its own. -/
inductive Act where
  | load (config : ProcessPluginConfig) (fromPluginsD : Bool) (outcome : Except String Unit)
  | add (id : Nat) (toPluginsD : Bool) (config : ProcessPluginConfig)
  | enable (id : Nat)
  | disable
  | restart (id : Nat)
  | remove (id : Nat)
  | spawn (id : Nat) (outcome : Except String Unit)
  | record (id : Nat)
  | finishRemoval (id : Nat)
  | exit (p : ProcessId) (success : Bool)
  | receive (p : ProcessId)
  | wake (p : ProcessId)
  | respawn (p : ProcessId) (outcome : Except String Unit)
  | revive (p : ProcessId)

def Slot.ifNew (id : Nat) (s : Slot) (next : Slot) : Option Slot :=
  if (s.calls id).isSome then none else some next

def Slot.step (act : Act) (s : Slot) : Option Slot :=
  match act with
  | .load config fromPluginsD outcome => s.load config fromPluginsD outcome
  | .add id toPluginsD config => s.ifNew id (s.addPlugin id toPluginsD config)
  | .enable id => s.ifNew id (s.enable id)
  | .disable => some s.disable
  | .restart id => s.ifNew id (s.restartPlugin id)
  | .remove id => s.ifNew id (s.removePlugin id)
  | .spawn id outcome => s.spawnTransport id outcome
  | .record id => s.record id
  | .finishRemoval id => s.finishRemoval id
  | .exit p success => s.exit p success
  | .receive p => s.receive p
  | .wake p => s.wake p
  | .respawn p outcome => s.respawn p outcome
  | .revive p => s.revive p

end SupplyDrop.Plugin
