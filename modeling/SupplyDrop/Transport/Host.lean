import Mathlib
import SupplyDrop.Host.System

namespace SupplyDrop.Transport
open Library Store Host

/-! ## What a radio transport asks of the host -/

structure HostApi (σ : Type) where
  createSession : String → Program σ HostError SessionId
  endSession : SessionId → Program σ HostError Unit
  processCommand : SessionId → Command → Program σ HostError Response
  meshNodeRestore : SessionId → PublicKey → Nat → Program σ HostError (Option Username)
  meshNodeBind : SessionId → PublicKey → Program σ HostError Unit
  meshNodeUnbind : PublicKey → Program σ HostError Unit
  -- whether `permission_ctx` names a user
  authenticated : SessionId → σ → Bool

/-- The host itself. -/
def bbsHost : HostApi BbsHost where
  createSession := Host.createSession
  endSession := Host.endSession
  processCommand := Host.processCommand
  meshNodeRestore := Host.meshNodeRestore
  meshNodeBind := Host.meshNodeBind
  meshNodeUnbind := Host.meshNodeUnbind
  authenticated session h := (h.sessions.get? session).any fun r => r.username.isSome

/-- The time a handler spends waiting for the host, and what others have the host do before the
credentials of the node are looked after. -/
structure Meanwhile (σ : Type) where
  beforeDedup : Nat
  beforeReply : Nat
  others : σ → σ

def secs (n : Nat) : Nat := n * 1000000000

/-! ## Commands -/

/-- `register <user>`, or `register <user> <password>` in one message. -/
def parseRegister (rest : Option String) : Command :=
  match rest with
  | some r =>
      match splitFirstWord r with
      | (name, some password) =>
          if name.isEmpty then .help (some "register") else .registerOneShot name password
      | (name, none) => if name.isEmpty then .help (some "register") else .register name
  | none => .help (some "register")

def parseLogin (rest : Option String) : Command :=
  match rest with
  | some r =>
      match splitFirstWord r with
      | (name, some password) =>
          match username? name with
          | some username => .loginOneShot username password
          | none => .help (some "login")
      | (name, none) =>
          match username? name with
          | some username => .login username
          | none => .help (some "login")
  | none => .help (some "login")

def parseSetLevel (rest : Option String) (level : PermissionLevel) : Command :=
  match rest.bind username? with
  | some username => .setUserLevel username level
  | none =>
      let topic := match level with
        | .aide => ".aide"
        | .sysop => ".sysop"
        | _ => ".user"
      .help (some topic)

/-- A line that is already trimmed. `commandPrefix` is the character commands must start with, and
`keywords` gives the command of a line, its first word and the rest. -/
def parseTrimmed (keywords : String → String → Option String → Command) (text : String)
    (commandPrefix : Option Char) (awaitingReply : Bool) : Option Command :=
  let lower := Text.toAsciiLowercase text
  if lower = "cancel" ∨ lower = "stop" then some .cancel
  else if awaitingReply then some (.workflowReply text)
  else
    let stripped := match commandPrefix with
      | some p => (Text.stripPrefix (String.singleton p) text).map Text.trimStart
      | none => some text
    stripped.map fun text =>
      if text.isEmpty then .unknown ""
      else
        let (word, rest) := splitFirstWord text
        keywords text (Text.toAsciiLowercase word) rest

/-! ## Handlers -/

/-- A handler over the sessions of a transport and the host. It may give up half-way. -/
structure Station (α σ : Type) where
  clock : Instant
  sessions : α
  host : σ

abbrev TransportM (α σ ε : Type) := Program (Station α σ) ε

variable {α σ ε β : Type}

/-- A call of the host, whose failure the handler looks at. -/
def ask (m : Program σ HostError β) : TransportM α σ ε (Except HostError β) :=
  Program.attempt (Program.zoom (·.host) (fun s host => { s with host }) m)

def onSessions (f : α → α) : TransportM α σ ε Unit :=
  Program.modify fun s => { s with sessions := f s.sessions }

def looking (f : Station α σ → β) : TransportM α σ ε β := Program.gets f

def wait (n : Nat) : TransportM α σ ε Unit :=
  Program.modify fun s => { s with clock := s.clock + n }

def letOthers (others : σ → σ) : TransportM α σ ε Unit :=
  Program.modify fun s => { s with host := others s.host }

end SupplyDrop.Transport
