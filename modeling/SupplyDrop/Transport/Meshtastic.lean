import Mathlib
import SupplyDrop.Transport.Host

namespace SupplyDrop.Transport.Meshtastic
open Library Store Host

/-! ## Sessions of the nodes -/

abbrev NodeNum := BitVec 32

def workflowReplyDedupSecs : Nat := 10

def messageDedupSecs : Nat := 10

structure SessionEntry where
  sessionId : SessionId
  awaitingReply : Bool
  lastWorkflowReply : Option (String × Instant)
  lastMessage : Option (String × Instant)
deriving DecidableEq

def SessionEntry.opened (sessionId : SessionId) : SessionEntry := ⟨sessionId, false, none, none⟩

namespace SessionEntry

def setAwaitingReply (value : Bool) (entry : SessionEntry) : SessionEntry :=
  { entry with awaitingReply := value }

def setLastWorkflowReply (text : String) (now : Instant) (entry : SessionEntry) : SessionEntry :=
  { entry with lastWorkflowReply := some (text, now) }

def isRecentWorkflowReply (text : String) (now : Instant) (entry : SessionEntry) : Bool :=
  entry.lastWorkflowReply.any fun (reply, at_) =>
    reply = text && now - at_ < secs workflowReplyDedupSecs

def isRecentMessage (text : String) (now : Instant) (entry : SessionEntry) : Bool :=
  entry.lastMessage.any fun (last, at_) => last = text && now - at_ < secs messageDedupSecs

def dedupMessage (text : String) (now : Instant) (entry : SessionEntry) : Bool × SessionEntry :=
  if entry.isRecentMessage text now then (true, entry)
  else (false, { entry with lastMessage := some (text, now) })

end SessionEntry

/-- The entry of each node that has one. -/
abbrev SessionState := NodeNum → Option SessionEntry

namespace SessionState

def getOrInsert (node : NodeNum) (newId : SessionId) (st : SessionState) : SessionState :=
  match st node with
  | some _ => st
  | none => Function.update st node (some (.opened newId))

def removeByNode (node : NodeNum) (st : SessionState) : SessionState :=
  Function.update st node none

/-- `if let Some(entry) = self.by_node.get_mut(&node_num)`. -/
def onEntry (node : NodeNum) (f : SessionEntry → SessionEntry) (st : SessionState) : SessionState :=
  Function.update st node ((st node).map f)

end SessionState

/-! ## `dispatch_message` -/

structure Config where
  commandPrefix : Option Char
  nodeCredentialTtlDays : Nat

/-- Why a message is not processed. -/
inductive Exit where
  -- `get_or_create_session` panics
  | noSession
  | duplicate
  | ignored
  | refreshFailed
deriving DecidableEq

structure Processed where
  -- the session the message came in on, and the one that processed the command in the end
  session : SessionId
  activeSession : SessionId
  response : Response
deriving DecidableEq

variable {σ : Type}

abbrev NodeM (σ : Type) := TransportM SessionState σ Exit

def onEntry (node : NodeNum) (f : SessionEntry → SessionEntry) : NodeM σ Unit :=
  onSessions fun st => st.onEntry node f

def entryOf (node : NodeNum) : NodeM σ (Option SessionEntry) := looking fun s => s.sessions node

/-- `MT`, the node's number and zeros, in place of a key. -/
def syntheticPubkey (node : NodeNum) : PublicKey := 0x4D54#16 ++ node ++ 0#208

def getOrCreateSession (host : HostApi σ) (node : NodeNum) : NodeM σ (SessionId × Bool) := do
  let entry ← entryOf node
  match entry with
  | some entry => pure (entry.sessionId, false)
  | none => do
      let created ← ask (host.createSession "meshtastic")
      match created with
      | .error _ => Program.fail .noSession
      | .ok newId => do
          onSessions fun st => st.getOrInsert node newId
          pure (newId, true)

def restore (host : HostApi σ) (cfg : Config) (session : SessionId) (node : NodeNum) :
    NodeM σ Unit :=
  if 0 < cfg.nodeCredentialTtlDays then do
    let _ ← ask (host.meshNodeRestore session (syntheticPubkey node) cfg.nodeCredentialTtlDays)
    pure ()
  else pure ()

def autoLogin (host : HostApi σ) (cfg : Config) (session : SessionId) (isNew : Bool)
    (node : NodeNum) : NodeM σ Unit :=
  if isNew then restore host cfg session node else pure ()

/-- Whether the message is a retransmission, and the entry that remembers it. -/
def SessionEntry.dedup (text : String) (awaitingReply : Bool) (now : Instant)
    (entry : SessionEntry) : Bool × SessionEntry :=
  match entry.dedupMessage text now with
  | (true, entry) => (true, entry)
  | (false, entry) => (!awaitingReply && entry.isRecentWorkflowReply text now, entry)

def deduplicate (node : NodeNum) (text : String) (awaitingReply : Bool) : NodeM σ Unit := do
  let clock ← looking (·.clock)
  let entry ← entryOf node
  onEntry node fun entry => (entry.dedup text awaitingReply clock).2
  if entry.any fun entry => (entry.dedup text awaitingReply clock).1 then Program.fail .duplicate
  else pure ()

def rememberReply (node : NodeNum) (text : String) (awaitingReply : Bool) : NodeM σ Unit := do
  let clock ← looking (·.clock)
  if awaitingReply then onEntry node (·.setLastWorkflowReply text clock) else pure ()

def parseKeyword (text keyword : String) (rest : Option String) : Command :=
  let unknown := Command.unknown text
  match keyword with
  | "h" | "help" | "?" => .help rest
  | "register" => parseRegister rest
  | "login" => parseLogin rest
  | "whoami" => .whoami
  | "k" => .listRooms
  | "g" => .goNextUnread
  | "c" => .changeRoom (rest.getD "")
  | "m" => .goMail
  | "n" => .readNew
  | "f" => .readForward (rest.bind Text.parseI64)
  | "r" => .readReverse
  | "s" => withName rest .searchUsers .scanMessages
  | ".ff" => .fastForward
  | "e" => .enterMessage (rest.filter fun s => !s.isEmpty)
  | "d" =>
      match rest.bind Text.parseI64 with
      | some id => .deleteMessage id
      | none => unknown
  | "q" | "quit" | "exit" | "bye" | "logout" => .quit
  | "cancel" | "stop" => .cancel
  | "w" => .whoIsOnline
  | "pending" => .listPending
  | "v" => withUsername rest .validateUser unknown
  | "b" => parseBlock rest unknown
  | "ban" => withUsername rest .banUser unknown
  | "unban" => withUsername rest .unbanUser unknown
  | "timeout" => parseTimeout rest unknown
  | "u" | "users" => .listUsers rest
  | "whois" => withUsername rest .userInfo unknown
  | "profile" => .editProfile
  | "passwd" => .changePassword
  | ".c" => withName rest .createRoom unknown
  | ".dr" => withName rest .deleteRoom unknown
  | ".er" => .editRoom
  | ".eu" => withUsername rest .editUser unknown
  | ".du" => withUsername rest .deleteUser unknown
  | ".pw" => withUsername rest .setUserPassword unknown
  | ".aide" => parseSetLevel rest .aide
  | ".sysop" => parseSetLevel rest .sysop
  | ".user" => parseSetLevel rest .user
  | "openaccess" => .openAccess
  | "closeaccess" => .closeAccess
  | "guestroom" => parseGuestRoom rest unknown
  | _ => unknown

def parseCommand (text : String) : Option Char → Bool → Option Command :=
  parseTrimmed parseKeyword (Text.trim text)

def answered (result : Except HostError Response) : Response :=
  match result with
  | .ok response => response
  | .error e => .error e.display

/-- The stale session is replaced and the command replayed. -/
def refresh (host : HostApi σ) (cfg : Config) (node : NodeNum) (cmd : Command) :
    NodeM σ (SessionId × Response) := do
  onSessions fun st => st.removeByNode node
  let created ← ask (host.createSession "meshtastic")
  match created with
  | .error _ => Program.fail .refreshFailed
  | .ok fresh => do
      onSessions fun st => st.getOrInsert node fresh
      restore host cfg fresh node
      let result ← ask (host.processCommand fresh cmd)
      pure (fresh, answered result)

def process (host : HostApi σ) (cfg : Config) (node : NodeNum) (session : SessionId)
    (cmd : Command) : NodeM σ (SessionId × Response) := do
  let result ← ask (host.processCommand session cmd)
  match result with
  | .error (.unknownSession _) => refresh host cfg node cmd
  | result => pure (session, answered result)

/-- The credential is bound for the session the message came in on. -/
def keepCredential (host : HostApi σ) (cfg : Config) (node : NodeNum) (session : SessionId)
    (response : Response) : NodeM σ Unit :=
  if 0 < cfg.nodeCredentialTtlDays then
    match response with
    | .loggedIn _ => do
        let _ ← ask (host.meshNodeBind session (syntheticPubkey node))
        pure ()
    | .loggedOut => do
        let _ ← ask (host.meshNodeUnbind (syntheticPubkey node))
        pure ()
    | _ => pure ()
  else pure ()

/-- A node that logged out has no session any more. -/
def leave (host : HostApi σ) (node : NodeNum) (response : Response) : NodeM σ Unit :=
  if response = .loggedOut then do
    let entry ← entryOf node
    onSessions fun st => st.removeByNode node
    match entry with
    | some entry => do
        let _ ← ask (host.endSession entry.sessionId)
        pure ()
    | none => pure ()
  else pure ()

/-- What is done with a message that is no retransmission. -/
def handle (host : HostApi σ) (cfg : Config) (meanwhile : Meanwhile σ) (node : NodeNum)
    (session : SessionId) (text : String) (awaitingReply : Bool) : NodeM σ Processed :=
  match parseCommand text cfg.commandPrefix awaitingReply with
  | none => Program.fail .ignored
  | some cmd => do
      rememberReply node text awaitingReply
      let (active, response) ← process host cfg node session cmd
      wait meanwhile.beforeReply
      letOthers meanwhile.others
      keepCredential host cfg node session response
      onEntry node (·.setAwaitingReply (response matches .prompt _ _))
      leave host node response
      pure ⟨session, active, response⟩

/-- The greeting and the reply that go back to the node change nothing here. -/
def dispatchMessage (host : HostApi σ) (cfg : Config) (meanwhile : Meanwhile σ) (node : NodeNum)
    (text : String) : NodeM σ Processed := do
  let (session, isNew) ← getOrCreateSession host node
  autoLogin host cfg session isNew node
  wait meanwhile.beforeDedup
  let entry ← entryOf node
  let awaitingReply := entry.any (·.awaitingReply)
  deduplicate node text awaitingReply
  handle host cfg meanwhile node session text awaitingReply

end SupplyDrop.Transport.Meshtastic
