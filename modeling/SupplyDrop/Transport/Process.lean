import Mathlib
import SupplyDrop.Library.KeyedTable
import SupplyDrop.Transport.Host

namespace SupplyDrop.Transport.Process
open Library Store Host

/-! ## Sessions of the plugin's connections -/

structure SessionEntry where
  -- the plugin's connection id, under which the entry is kept
  id : String
  sessionId : SessionId
  awaitingReply : Bool
deriving DecidableEq

structure SessionMap where
  byId : KeyedTable SessionEntry.id
  bySession : KeyedTable (Prod.fst : SessionId × String → SessionId)

namespace SessionMap

def new : SessionMap := ⟨.empty, .empty⟩

def opens (map : SessionMap) (id : String) (sessionId : SessionId) : SessionMap where
  byId := map.byId.put ⟨id, sessionId, false⟩
  bySession := map.bySession.put (sessionId, id)

def awaiting (map : SessionMap) (id : String) (awaitingReply : Bool) : SessionMap :=
  { map with byId := map.byId.modify id (fun e => { e with awaitingReply }) fun _ => rfl }

def closes (map : SessionMap) (entry : SessionEntry) : SessionMap where
  byId := map.byId.erase entry.id
  bySession := map.bySession.erase entry.sessionId

def sessionIds (map : SessionMap) : List SessionId := map.byId.entries.map (·.sessionId)

end SessionMap

/-! ## Messages -/

inductive PluginMsg where
  | ready (payloadLimit : Nat) (version : Option String)
  | open_ (id : String)
  | recv (id line : String)
  | close (id : String)
deriving DecidableEq

inductive HostMsg where
  | send (id text : String) (hideInput : Bool)
  | kick (id : String)
  | shutdown
deriving DecidableEq

structure Plugin where
  sessions : SessionMap
  payloadLimit : Nat
  pluginVersion : Option String
  -- what was written to the plugin
  stdin : List HostMsg

def Plugin.new : Plugin := ⟨.new, 0, none, []⟩

def Plugin.onSessions (f : SessionMap → SessionMap) (p : Plugin) : Plugin :=
  { p with sessions := f p.sessions }

def Plugin.write (msg : HostMsg) (p : Plugin) : Plugin := { p with stdin := p.stdin ++ [msg] }

/-- The characters that start before byte `cut`. -/
def startingBefore : List Char → Nat → List Char
  | [], _ => []
  | c :: rest, cut => if 0 < cut then c :: startingBefore rest (cut - c.utf8Size) else []

/-- The characters that end by byte `limit`. -/
def endingBy : List Char → Nat → List Char
  | [], _ => []
  | c :: rest, limit =>
      if c.utf8Size ≤ limit then c :: endingBy rest (limit - c.utf8Size) else []

def truncateToLimit (text : String) (limit : Nat) : String :=
  if limit = 0 ∨ text.utf8ByteSize ≤ limit then text
  else if limit < "…".utf8ByteSize then String.ofList (endingBy text.toList limit)
  else String.ofList (startingBefore text.toList (limit - "…".utf8ByteSize)) ++ "…"

example : truncateToLimit "hello world" 8 = "hello…" := by decide +kernel

/-! ## `handle_plugin_msg` -/

variable {σ : Type}

abbrev ProcessM (σ : Type) := TransportM Plugin σ Empty

def sendText (id text : String) (hideInput : Bool) : ProcessM σ Unit := do
  let limit ← looking (·.sessions.payloadLimit)
  onSessions (Plugin.write (.send id (truncateToLimit text limit) hideInput))

def hidesNextInput : Response → Bool
  | .prompt _ hideInput => hideInput
  | _ => false

def respond (id : String) (response : Response) : ProcessM σ Unit :=
  match response with
  | .multiText parts => parts.forM fun part => sendText id part (hidesNextInput response)
  | _ =>
      match response.render with
      | some text => sendText id text (hidesNextInput response)
      | none => pure ()

def answered (result : Except HostError Response) : Response :=
  match result with
  | .ok response => response
  | .error e => .error e.display

def handleOpen (host : HostApi σ) (transportName id : String) : ProcessM σ Unit := do
  let created ← ask (host.createSession transportName)
  match created with
  | .ok sessionId => onSessions (Plugin.onSessions (·.opens id sessionId))
  | .error _ => onSessions (Plugin.write (.kick id))

def handleRecv (host : HostApi σ) (id line : String) : ProcessM σ Unit := do
  let entry ← looking (·.sessions.sessions.byId.get? id)
  match entry with
  | none => pure ()
  | some e => do
      let result ← ask (host.processCommand e.sessionId (.parse line e.awaitingReply))
      let response := answered result
      onSessions (Plugin.onSessions (·.awaiting id response.setsAwaitingReply))
      respond id response

/-! ## Notifications -/

inductive Notification where
  | text (text : String)
  | mailWaiting (count : Nat)
  | systemEvent (text : String)
deriving DecidableEq

inductive NotifyOutcome where
  | delivered
  | queued
  | dropped
  | permanentFailure (reason : String)
deriving DecidableEq

def renderNotification : Notification → String
  | .text text => text
  | .mailWaiting count =>
      let plural := if count = 1 then "" else "s"
      s!"You have {count} unread message{plural}. Type 'mail' to read."
  | .systemEvent text => s!"[system] {text}"

/-- While the process runs: it is told as long as the session is one of its own. -/
def notify (session : SessionId) (payload : Notification) : ProcessM σ NotifyOutcome := do
  let pluginId ← looking (·.sessions.sessions.bySession.get? session)
  match pluginId with
  | none => pure .dropped
  | some (_, id) => do
      onSessions (Plugin.write (.send id (renderNotification payload) false))
      pure .delivered

/-! ## The end of a connection, and of the process -/

def endQuietly (host : HostApi σ) (session : SessionId) : ProcessM σ Unit := do
  let _ ← ask (host.endSession session)
  pure ()

def handleClose (host : HostApi σ) (id : String) : ProcessM σ Unit := do
  let entry ← looking (·.sessions.sessions.byId.get? id)
  match entry with
  | none => pure ()
  | some e => do
      onSessions (Plugin.onSessions (·.closes e))
      endQuietly host e.sessionId

/-- A line of the plugin, `none` when it is malformed. -/
def handlePluginMsg (host : HostApi σ) (transportName : String) :
    Option PluginMsg → ProcessM σ Unit
  | none => pure ()
  | some (.ready limit version) => onSessions fun p =>
      { p with payloadLimit := limit, pluginVersion := version.or p.pluginVersion }
  | some (.open_ id) => handleOpen host transportName id
  | some (.recv id line) => handleRecv host id line
  | some (.close id) => handleClose host id

/-- When the process exits. -/
def cleanUp (host : HostApi σ) : ProcessM σ Unit := do
  let sessionIds ← looking (·.sessions.sessions.sessionIds)
  onSessions (Plugin.onSessions fun _ => .new)
  sessionIds.forM (endQuietly host)

end SupplyDrop.Transport.Process
