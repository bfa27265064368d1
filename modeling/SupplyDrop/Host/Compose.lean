import Mathlib
import SupplyDrop.Host.Parse
import SupplyDrop.Host.Reading

namespace SupplyDrop.Host
open Library Store

/-! ## E -/

def readOnlyFor (auth : Auth) (room : Room) : Option Response :=
  if room.readOnly ∧ auth.level < .aide then some (.error s!"'{room.name}' is read-only.") else none

/-- Stage a draft for the lone `.` that sends it. -/
def stage (session : SessionId) (roomId : RoomId) (recipient : Option Username) (body : String) :
    HostM Response := do
  setWorkflow session (.compose roomId (.awaitingConfirmation recipient body))
  let onRadio ← sessionOnRadio session
  pure (.prompt (draftPreview recipient body onRadio) false)

def promptForMessage (session : SessionId) (roomId : RoomId) (room : Room) : HostM Response :=
  if roomId = mail then do
    setWorkflow session (.compose roomId .awaitingRecipient)
    pure (.prompt "Enter recipient username:" false)
  else do
    setWorkflow session (.compose roomId (.awaitingBody none))
    pure (.prompt s!"Enter your message for {room.name}:" false)

def stripAts (s : String) : String := String.ofList (s.toList.dropWhile (· = '@'))

/-- `E @recipient message` in Mail. Two of its prompts leave no workflow behind. -/
def enterMail (session : SessionId) (roomId : RoomId) (raw : String) : HostM Response := do
  let (first, rest) := (Text.splitOnce Text.isWhitespace raw).getD (raw, "")
  match username? (stripAts first) with
  | none => pure (.prompt "Enter recipient username:" false)
  | some recipient => do
      let found ← db StoreError.display (UserStore.getByUsername recipient)
      let body := Text.trim rest
      if found.isNone then pure (.error s!"User '{recipient.text}' not found.")
      else if body.isEmpty then pure (.prompt s!"Enter message for {recipient.text}:" false)
      else stage session roomId (some recipient) body

def enterInline (session : SessionId) (roomId : RoomId) (room : Room) (inlineBody : Option String) :
    HostM Response :=
  let raw := Text.trim (inlineBody.getD "")
  if raw.isEmpty then promptForMessage session roomId room
  else if roomId = mail then enterMail session roomId raw
  else stage session roomId none raw

def workflowInProgress : Response :=
  .error "A workflow is already in progress. Type 'cancel' first."

/-- Refuse while the session has a workflow. -/
def whenIdle (session : SessionId) (k : HostM Response) : HostM Response := do
  let workflow ← workflowOf session
  if workflow.any (· ≠ .none) then pure workflowInProgress else k

def handleEnterMessage (session : SessionId) (inlineBody : Option String) : HostM Response :=
  withAuth (sessionAuthOrGuest session) fun auth =>
    withGuestRule auth "You can only post messages in the Guests room." do
      if auth.level < .user ∧ auth.roomId = mail then
        pure (.text "You must be verified to send mail.")
      else whenIdle session (withRoom auth.roomId fun room =>
        match readOnlyFor auth room with
        | some refusal => pure refusal
        | none => enterInline session auth.roomId room inlineBody)

/-- `E` while reading: in Mail, to the sender of the message on screen. -/
def replyRecipient (session : SessionId) (roomId : RoomId) : HostM (Option Username) := do
  let r ← lookUp session
  match r.bind (·.currentMessageId) with
  | none => pure none
  | some id => do
      let msg ← db StoreError.display (MessageStore.getById id)
      pure (if roomId = mail then msg.map (·.sender) else none)

def handleReplyFromReading (session : SessionId) : HostM Response :=
  withAuth (sessionAuthUser session) fun auth => withRoom auth.roomId fun room =>
    match readOnlyFor auth room with
    | some refusal => pure refusal
    | none => do
        let recipient ← replyRecipient session auth.roomId
        setWorkflow session (.compose auth.roomId (.awaitingBody recipient))
        pure (.prompt (match recipient with
          | some r => s!"Reply to {r.text}:"
          | none => s!"Post to {room.name}:") false)

/-! ## The stages of a draft -/

def composeRecipient (session : SessionId) (roomId : RoomId) (reply : String) :
    HostM Response :=
  match username? (Text.trim reply) with
  | none => do
      setWorkflow session (.compose roomId .awaitingRecipient)
      pure (.prompt "Invalid username. Enter recipient username:" false)
  | some recipient => do
      let found ← db StoreError.display (UserStore.getByUsername recipient)
      if found.isNone then do
        setWorkflow session (.compose roomId .awaitingRecipient)
        pure (.prompt s!"User '{Text.trim reply}' not found. Enter recipient username:" false)
      else do
        setWorkflow session (.compose roomId (.awaitingBody (some recipient)))
        pure (.prompt "Enter your message:" false)

def composeBody (session : SessionId) (roomId : RoomId) (recipient : Option Username)
    (reply : String) : HostM Response :=
  let body := Text.trim reply
  if body.isEmpty then do
    setWorkflow session (.compose roomId (.awaitingBody recipient))
    pure (.prompt "Message cannot be empty. Enter your message:" false)
  else stage session roomId recipient body

/-- The session is idle again, and a resent `.` hears `outcome` once more. -/
def SessionRecord.concluded (r : SessionRecord) (outcome : String) : SessionRecord :=
  { r with workflow := .none, lastPostConfirmation := some outcome }

def post (roomId : RoomId) (sender : Username) (recipient : Option Username) (body : String) :
    HostM (MessageId × MessageRecipient × String) := do
  let now ← now
  match recipient with
  | some rcpt => do
      let id ← db (failed "post_direct") (MessageStore.postDirect sender rcpt body now)
      pure (id, .direct rcpt, s!"Mail sent to {rcpt.text}.")
  | none => do
      let id ← db (failed "post_to_room") (MessageStore.postToRoom roomId sender body now)
      pure (id, .room (toString roomId), "Message posted.")

def sendDraft (session : SessionId) (roomId : RoomId) (recipient : Option Username)
    (body : String) : HostM Response := do
  let r ← lookUp session
  match r.bind (·.username) with
  | none => Program.fail .notAuthenticated
  | some sender => do
      let (id, target, confirmation) ← post roomId sender recipient body
      emit (.messagePosted sender target id)
      onSession session fun r => r.concluded confirmation
      pure (.text confirmation)

def composeConfirm (session : SessionId) (roomId : RoomId) (recipient : Option Username)
    (body reply : String) : HostM Response :=
  if Text.eqIgnoreAsciiCase (Text.trim reply) "c" then do
    onSession session fun r => r.concluded cancelledDraft
    pure (.text cancelledDraft)
  else if Text.trim reply ≠ "." then stage session roomId recipient body
  else sendDraft session roomId recipient body

/-! ## D -/

def messageNotFound (id : Int) : Response := .error s!"Message #{id} not found."

def isVisibleFrom (msg : Message) (roomId : RoomId) : StoreM Bool :=
  if msg.recipient.isSome then pure (roomId = mail) else MessageStore.isInRoom msg.id roomId

def mayDelete (auth : Auth) (msg : Message) : Bool :=
  .aide ≤ auth.level || msg.sender = auth.username || msg.recipient = some auth.username

def deleteMessage (auth : Auth) (msg : Message) : HostM Response := do
  let _ ← db StoreError.display (MessageStore.delete msg.id)
  onlyIf (.aide ≤ auth.level && msg.sender ≠ auth.username)
    (audit auth.username.text "delete_message" (some s!"#{msg.id}") (some s!"by {msg.sender.text}"))
  pure (.text s!"Message #{msg.id} deleted.")

def handleDelete (session : SessionId) (id : Int) : HostM Response :=
  withAuth (sessionAuthUser session) fun auth => do
    let msg ← db StoreError.display (MessageStore.getById id)
    match msg with
    | none => pure (messageNotFound id)
    | some msg => do
        let inRoom ← db StoreError.display (isVisibleFrom msg auth.roomId)
        if !inRoom then pure (messageNotFound id)
        else if !mayDelete auth msg then
          pure (.error "You can only delete your own messages.")
        else deleteMessage auth msg

end SupplyDrop.Host
