import Mathlib
import SupplyDrop.Host.Policy
import SupplyDrop.Host.Workflow

namespace SupplyDrop.Host
open Library Store

/-! ## Commands with no handler of their own -/

def handleHelp (session : SessionId) (topic : Option String) : HostM Response := do
  let r ← lookUp session
  let level := (r.filter fun r => r.username.isSome).map (·.level)
  pure (.text (helpText topic level (r.any onRadio)))

def handleWhoami (session : SessionId) : HostM Response := do
  let r ← lookUp session
  match r with
  | none => pure (.text "Unknown session.")
  | some r =>
      match r.username with
      | none => pure (.text "Not logged in.")
      | some username => do
          let room ← tryDb (RoomStore.getById r.currentRoom)
          let roomName := ((room.toOption.join).map (·.name)).getD s!"room:{r.currentRoom}"
          pure (.text (s!"Logged in as {username.text} ({r.level.display}). " ++
            s!"Current room: {roomName}"))

def handleCancel (session : SessionId) : HostM Response := do
  let workflow ← workflowOf session
  if workflow = some .none then pure (.text "No active workflow.")
  else do
    clearWorkflow session
    pure (.text "Cancelled.")

def handleLogout (session : SessionId) : HostM Response := do
  endSession session
  pure .loggedOut

/-- A bare `.` hears the outcome of the last draft again. -/
def outcomeOfDot (r : Option SessionRecord) (raw : String) : Option String :=
  if Text.trim raw = "." then r.bind (·.lastPostConfirmation) else none

def handleUnknown (session : SessionId) (raw : String) : HostM Response := do
  let r ← lookUp session
  match outcomeOfDot r raw with
  | some confirmation => pure (.text confirmation)
  | none =>
      if r.any fun r => r.username.isSome then pure (.text "Unknown command. Type H for help.")
      else pure (.text (if r.any onRadio then helpQuickAnonRadio else helpQuickAnon))

/-! ## Before every command -/

def announce (session : SessionId) (cmd : Command) : HostM Unit :=
  match cmd with
  | .workflowReply _ => pure ()
  | cmd => do
      let r ← lookUp session
      emit (.commandExecuted session (cmdLabel cmd) (r.bind (·.username)))

/-- Whether the command may ask for the outcome of the last draft again. -/
def isRepost (cmd : Command) (onRadio : Bool) : Bool :=
  match cmd with
  | .unknown raw => Text.trim raw = "."
  | .changeRoom target => (Text.trim target).isEmpty && onRadio
  | _ => false

def SessionRecord.forgetOutcome (r : SessionRecord) : SessionRecord :=
  { r with lastPostConfirmation := none }

def forgetOutcome (session : SessionId) (cmd : Command) : HostM Unit := do
  let onRadio ← sessionOnRadio session
  if isRepost cmd onRadio then pure () else onSession session fun r => r.forgetOutcome

/-! ## `process_command` -/

def dispatch (onReply : SessionId → String → HostM Response) (session : SessionId)
    (cmd : Command) : HostM Response :=
  match cmd with
  | .help topic => handleHelp session topic
  | .whoami => handleWhoami session
  | .logout => handleLogout session
  | .quit => handleLogout session
  | .register username => handleRegister session username
  | .login username => handleLogin session username
  | .registerOneShot username password => handleRegisterOneshot session username password
  | .loginOneShot username password => handleLoginOneshot session username password
  | .workflowReply reply => onReply session reply
  | .cancel => handleCancel session
  | .listRooms => handleListRooms session
  | .goNextUnread => handleGoNextUnread session
  | .changeRoom target => handleChangeRoom session target
  | .goMail => handleChangeToRoom session mail
  | .readNew => handleReadNew session
  | .readForward after => handleReadForward session after
  | .readReverse => handleReadReverse session
  | .scanMessages => handleScan session
  | .fastForward => handleFastForward session
  | .enterMessage body => handleEnterMessage session body
  | .deleteMessage id => handleDelete session id
  | .whoIsOnline => handleWhoIsOnline session
  | .listPending => handleListPending session
  | .validateUser username => handleValidateUser session username
  | .setUserLevel username level => handleSetUserLevel session username level
  | .blockUser target force => handleBlockUser session target force
  | .banUser username => handleBanUser session username
  | .unbanUser username => handleUnbanUser session username
  | .timeoutUser username days => handleTimeoutUser session username days
  | .editProfile => handleEditProfile session
  | .changePassword => handleChangePassword session
  | .createRoom name => handleCreateRoom session name
  | .deleteRoom name => handleDeleteRoom session name
  | .editRoom => pure (.text "Room editing is not yet implemented.")
  | .editUser _ => pure (.text "User editing is not yet implemented.")
  | .listUsers filter => handleListUsers session filter
  | .searchUsers query => handleSearchUsers session query
  | .userInfo username => handleUserInfo session username
  | .deleteUser username => handleDeleteUser session username
  | .setUserPassword username => handleSetUserPassword session username
  | .openAccess => handleOpenAccess session
  | .closeAccess => handleCloseAccess session
  | .setGuestRoom name => handleSetGuestRoom session name
  | .unknown raw => handleUnknown session raw

def processWith (onReply : SessionId → String → HostM Response) (session : SessionId)
    (cmd : Command) : HostM Response := do
  let barred ← logOutIfAccountBarred session
  match barred with
  | some response => pure response
  | none => do
      announce session cmd
      forgetOutcome session cmd
      dispatch onReply session cmd

/-- `process_command` of a freshly parsed line, which is never a reply. -/
def processFresh : SessionId → Command → HostM Response :=
  processWith fun _ _ => pure (.error "Command not yet supported.")

def processCommand : SessionId → Command → HostM Response :=
  processWith (handleWorkflowReply processFresh)

end SupplyDrop.Host
