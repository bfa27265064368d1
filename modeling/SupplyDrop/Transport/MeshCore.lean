import Mathlib
import SupplyDrop.Transport.Host

namespace SupplyDrop.Transport.MeshCore
open Library Store Host

/-! ## Sessions of the nodes -/

abbrev Sender := BitVec 48

def workflowReplyDedupSecs : Nat := 10

def messageDedupSecs : Nat := 10

def timestampDedupSecs : Nat := 120

def recentMsgCap : Nat := 16

structure RecentMsg where
  timestamp : BitVec 32
  text : String
  seen : Instant
deriving DecidableEq

structure SessionEntry where
  sessionId : SessionId
  awaitingReply : Bool
  awaitingReplySince : Option Instant
  lastPromptText : Option String
  lastWorkflowReply : Option (String × Instant)
  lastMessage : Option (String × Instant)
  -- oldest first
  recentMsgs : List RecentMsg
  fullPubkey : Option PublicKey
deriving DecidableEq

def SessionEntry.opened (sessionId : SessionId) : SessionEntry where
  sessionId
  awaitingReply := false
  awaitingReplySince := none
  lastPromptText := none
  lastWorkflowReply := none
  lastMessage := none
  recentMsgs := []
  fullPubkey := none

namespace SessionEntry

def updateAwaitingReply (promptText : Option String) (now : Instant) (entry : SessionEntry) :
    SessionEntry :=
  match promptText with
  | some text =>
      let entry := { entry with awaitingReply := true }
      if entry.lastPromptText = some text then entry
      else { entry with awaitingReplySince := some now, lastPromptText := some text }
  | none =>
      { entry with awaitingReply := false, awaitingReplySince := none, lastPromptText := none }

def awaitingReplyExpired (timeout : Nat) (now : Instant) (entry : SessionEntry) : Bool :=
  entry.awaitingReplySince.any fun since => timeout ≤ now - since

def setLastWorkflowReply (text : String) (now : Instant) (entry : SessionEntry) : SessionEntry :=
  { entry with lastWorkflowReply := some (text, now) }

def isRecentWorkflowReply (text : String) (now : Instant) (entry : SessionEntry) : Bool :=
  entry.lastWorkflowReply.any fun (reply, at_) =>
    reply = text && now - at_ < secs workflowReplyDedupSecs

def setFullPubkey (pubkey : PublicKey) (entry : SessionEntry) : SessionEntry :=
  { entry with fullPubkey := some pubkey }

def clearLastMessage (entry : SessionEntry) : SessionEntry := { entry with lastMessage := none }

/-- The identities that are still within the window. -/
def unexpired (now : Instant) (recent : List RecentMsg) : List RecentMsg :=
  recent.dropWhile fun m => secs timestampDedupSecs ≤ now - m.seen

/-- At most as many as the cap allows, the oldest going first. -/
def bounded (recent : List RecentMsg) : List RecentMsg :=
  if recentMsgCap < recent.length then recent.tail else recent

def dedupByTimestamp (timestamp : BitVec 32) (text : String) (now : Instant)
    (entry : SessionEntry) : Bool × SessionEntry :=
  if timestamp = 0 then (false, entry)
  else
    let recent := unexpired now entry.recentMsgs
    if recent.any fun m => m.timestamp = timestamp && m.text = text then
      (true, { entry with recentMsgs := recent })
    else (false, { entry with recentMsgs := bounded (recent ++ [⟨timestamp, text, now⟩]) })

def dedupMessage (text : String) (now : Instant) (entry : SessionEntry) : Bool × SessionEntry :=
  let repeated := entry.lastMessage.any fun (last, at_) =>
    last = text && now - at_ < secs messageDedupSecs
  if repeated then (true, entry) else (false, { entry with lastMessage := some (text, now) })

end SessionEntry

/-- The entry of each node that has one. -/
abbrev SessionState := Sender → Option SessionEntry

namespace SessionState

def getOrInsert (sender : Sender) (newId : SessionId) (st : SessionState) : SessionState :=
  match st sender with
  | some _ => st
  | none => Function.update st sender (some (.opened newId))

def removeByPrefix (sender : Sender) (st : SessionState) : SessionState :=
  Function.update st sender none

/-- `if let Some(entry) = self.by_prefix.get_mut(prefix)`. -/
def onEntry (sender : Sender) (f : SessionEntry → SessionEntry) (st : SessionState) :
    SessionState :=
  Function.update st sender ((st sender).map f)

end SessionState

/-! ## `dispatch_message` -/

structure Config where
  commandPrefix : Option Char
  nodeCredentialTtlDays : Nat
  workflowTimeoutSecs : Nat

/-- Why a message is not processed. -/
inductive Exit where
  | noSession
  | duplicate
  | ignored
  | refreshFailed
deriving DecidableEq

structure Processed where
  -- the session that processed the command, in the end
  session : SessionId
  refreshed : Bool
  response : Response
deriving DecidableEq

variable {σ : Type}

abbrev MeshM (σ : Type) := TransportM SessionState σ Exit

def onEntry (sender : Sender) (f : SessionEntry → SessionEntry) : MeshM σ Unit :=
  onSessions fun st => st.onEntry sender f

def entryOf (sender : Sender) : MeshM σ (Option SessionEntry) := looking fun s => s.sessions sender

/-- The key under which the advert bus knows a node. -/
abbrev AdvertKeys (σ : Type) := Sender → σ → Option PublicKey

def seedPubkey (adverts : AdvertKeys σ) (sender : Sender) : MeshM σ Unit := do
  let known ← looking fun s => adverts sender s.host
  match known with
  | some pubkey => onEntry sender (·.setFullPubkey pubkey)
  | none => pure ()

def getOrCreateSession (host : HostApi σ) (adverts : AdvertKeys σ) (sender : Sender) :
    MeshM σ (SessionId × Bool) := do
  let entry ← entryOf sender
  match entry with
  | some entry => pure (entry.sessionId, false)
  | none => do
      let created ← ask (host.createSession "meshcore")
      match created with
      | .error _ => Program.fail .noSession
      | .ok newId => do
          onSessions fun st => st.getOrInsert sender newId
          seedPubkey adverts sender
          pure (newId, true)

/-- Give up a workflow whose prompt was never answered in time. The answer is whether the message
is a reply all the same. -/
def expireWorkflow (host : HostApi σ) (cfg : Config) (sender : Sender) (session : SessionId) :
    MeshM σ Bool := do
  let entry ← entryOf sender
  let clock ← looking (·.clock)
  let awaitingReply := entry.any (·.awaitingReply)
  if awaitingReply && 0 < cfg.workflowTimeoutSecs &&
      entry.any (·.awaitingReplyExpired (secs cfg.workflowTimeoutSecs) clock) then do
    let _ ← ask (host.processCommand session .cancel)
    onEntry sender (·.updateAwaitingReply none clock)
    pure false
  else pure awaitingReply

def restore (host : HostApi σ) (cfg : Config) (session : SessionId)
    (fullPubkey : Option PublicKey) : MeshM σ Unit :=
  if 0 < cfg.nodeCredentialTtlDays then
    match fullPubkey with
    | some pubkey => do
        let _ ← ask (host.meshNodeRestore session pubkey cfg.nodeCredentialTtlDays)
        pure ()
    | none => pure ()
  else pure ()

/-- The part of the greeting that changes anything: a new session logs in by the node's stored
credential. -/
def autoLogin (host : HostApi σ) (cfg : Config) (session : SessionId) (isNew : Bool)
    (fullPubkey : Option PublicKey) (awaitingReply : Bool) : MeshM σ Unit := do
  let authenticated ← looking fun s => host.authenticated session s.host
  if !authenticated && !awaitingReply && isNew then restore host cfg session fullPubkey
  else pure ()

def SessionEntry.fallbackDedup (text : String) (awaitingReply : Bool) (now : Instant)
    (entry : SessionEntry) : Bool × SessionEntry :=
  match entry.dedupMessage text now with
  | (true, entry) => (true, entry)
  | (false, entry) => (!awaitingReply && entry.isRecentWorkflowReply text now, entry)

/-- Whether the message is a retransmission, and the entry that remembers it. -/
def SessionEntry.dedup (timestamp : BitVec 32) (text : String) (awaitingReply : Bool)
    (now : Instant) (entry : SessionEntry) : Bool × SessionEntry :=
  if timestamp = 0 then entry.fallbackDedup text awaitingReply now
  else entry.dedupByTimestamp timestamp text now

def deduplicate (sender : Sender) (timestamp : BitVec 32) (text : String) (awaitingReply : Bool) :
    MeshM σ Unit := do
  let clock ← looking (·.clock)
  let entry ← entryOf sender
  onEntry sender fun entry => (entry.dedup timestamp text awaitingReply clock).2
  if entry.any fun entry => (entry.dedup timestamp text awaitingReply clock).1 then
    Program.fail .duplicate
  else pure ()

def rememberReply (sender : Sender) (text : String) (awaitingReply : Bool) : MeshM σ Unit := do
  let clock ← looking (·.clock)
  if awaitingReply then onEntry sender (·.setLastWorkflowReply text clock) else pure ()

def parseKeyword (text keyword : String) (rest : Option String) : Command :=
  let unknown := Command.unknown text
  match keyword with
  | "h" | "help" | "?" => .help rest
  | "register" => parseRegister rest
  | "login" => parseLogin rest
  | "k" => .listRooms
  | "g" => .goNextUnread
  | "c" => .changeRoom (rest.getD "")
  | "m" => .goMail
  | "n" => .readNew
  | "f" => .readForward (rest.bind Text.parseI64)
  | "r" => .readReverse
  | "s" => withName rest .searchUsers .scanMessages
  | ".ff" => .fastForward
  | "e" => .enterMessage (rest.filter fun s => !s.isEmpty)
  | "d" =>
      match rest.bind Text.parseI64 with
      | some id => .deleteMessage id
      | none => unknown
  | "q" | "logout" | "quit" | "exit" | "bye" => .quit
  | "cancel" | "stop" => .cancel
  | "w" => .whoIsOnline
  | "pending" => .listPending
  | "v" => withUsername rest .validateUser unknown
  | "b" => parseBlock rest unknown
  | "ban" => withUsername rest .banUser unknown
  | "unban" => withUsername rest .unbanUser unknown
  | "timeout" => parseTimeout rest unknown
  | "u" | "users" => .listUsers rest
  | "whois" => withUsername rest .userInfo unknown
  | "whoami" => .whoami
  | "profile" => .editProfile
  | "passwd" => .changePassword
  | ".c" => withName rest .createRoom unknown
  | ".dr" => withName rest .deleteRoom unknown
  | ".er" => .editRoom
  | ".eu" => withUsername rest .editUser unknown
  | ".du" => withUsername rest .deleteUser unknown
  | ".pw" => withUsername rest .setUserPassword unknown
  | ".aide" => parseSetLevel rest .aide
  | ".sysop" => parseSetLevel rest .sysop
  | ".user" => parseSetLevel rest .user
  | "openaccess" => .openAccess
  | "closeaccess" => .closeAccess
  | "guestroom" => parseGuestRoom rest unknown
  | _ => unknown

/-- Some firmware ends its texts with a NUL. -/
def parseCommand (text : String) (commandPrefix : Option Char) (awaitingReply : Bool) :
    Option Command :=
  let trimmed := (Text.trim text).toList.dropWhile (· = '\x00')
  parseTrimmed parseKeyword (String.ofList (trimmed.rdropWhile (· = '\x00'))) commandPrefix
    awaitingReply

/-- A reply parsed for a workflow that the fresh session is not in is parsed anew. -/
def retryCommand (cfg : Config) (text : String) (cmd : Command) : Command :=
  match cmd with
  | .workflowReply _ => (parseCommand text cfg.commandPrefix false).getD cmd
  | cmd => cmd

def answered (result : Except HostError Response) : Response :=
  match result with
  | .ok response => response
  | .error e => .error e.display

/-- The stale session is replaced and the command replayed. -/
def refresh (host : HostApi σ) (adverts : AdvertKeys σ) (cfg : Config) (sender : Sender)
    (fullPubkey : Option PublicKey) (text : String) (cmd : Command) : MeshM σ Processed := do
  onSessions fun st => st.removeByPrefix sender
  let created ← ask (host.createSession "meshcore")
  match created with
  | .error _ => Program.fail .refreshFailed
  | .ok fresh => do
      onSessions fun st => st.getOrInsert sender fresh
      seedPubkey adverts sender
      restore host cfg fresh fullPubkey
      let result ← ask (host.processCommand fresh (retryCommand cfg text cmd))
      pure ⟨fresh, true, answered result⟩

def process (host : HostApi σ) (adverts : AdvertKeys σ) (cfg : Config) (sender : Sender)
    (session : SessionId) (fullPubkey : Option PublicKey) (text : String) (cmd : Command) :
    MeshM σ Processed := do
  let result ← ask (host.processCommand session cmd)
  match result with
  | .error (.unknownSession _) => refresh host adverts cfg sender fullPubkey text cmd
  | result => pure ⟨session, false, answered result⟩

def keepCredential (host : HostApi σ) (cfg : Config) (fullPubkey : Option PublicKey)
    (done : Processed) : MeshM σ Unit :=
  if 0 < cfg.nodeCredentialTtlDays then
    match fullPubkey, done.response with
    | some pubkey, .loggedIn _ => do
        let _ ← ask (host.meshNodeBind done.session pubkey)
        pure ()
    | some pubkey, .loggedOut => do
        let _ ← ask (host.meshNodeUnbind pubkey)
        pure ()
    | _, _ => pure ()
  else pure ()

def promptText : Response → Option String
  | .prompt text _ => some text
  | _ => none

def settle (sender : Sender) (response : Response) : MeshM σ Unit := do
  let clock ← looking (·.clock)
  onEntry sender fun entry =>
    let entry := entry.updateAwaitingReply (promptText response) clock
    if (promptText response).isSome then entry.clearLastMessage else entry

/-- What is done with a message that is no retransmission. The reply that goes back to the node is
the rendered response, and changes nothing here. -/
def handle (host : HostApi σ) (adverts : AdvertKeys σ) (cfg : Config) (meanwhile : Meanwhile σ)
    (sender : Sender) (session : SessionId) (fullPubkey : Option PublicKey) (text : String)
    (awaitingReply : Bool) : MeshM σ Processed :=
  match parseCommand text cfg.commandPrefix awaitingReply with
  | none => Program.fail .ignored
  | some cmd => do
      rememberReply sender text awaitingReply
      let done ← process host adverts cfg sender session fullPubkey text cmd
      wait meanwhile.beforeReply
      letOthers meanwhile.others
      keepCredential host cfg fullPubkey done
      settle sender done.response
      pure done

def dispatchMessage (host : HostApi σ) (adverts : AdvertKeys σ) (cfg : Config)
    (meanwhile : Meanwhile σ) (sender : Sender) (timestamp : BitVec 32) (text : String) :
    MeshM σ Processed := do
  let (session, isNew) ← getOrCreateSession host adverts sender
  let entry ← entryOf sender
  let fullPubkey := entry.bind (·.fullPubkey)
  let awaitingReply ← expireWorkflow host cfg sender session
  autoLogin host cfg session isNew fullPubkey awaitingReply
  wait meanwhile.beforeDedup
  deduplicate sender timestamp text awaitingReply
  handle host adverts cfg meanwhile sender session fullPubkey text awaitingReply

end SupplyDrop.Transport.MeshCore
