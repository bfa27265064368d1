import Mathlib
import SupplyDrop.Host.Types
import SupplyDrop.Store.Users
import SupplyDrop.Store.Messages

namespace SupplyDrop.Host
open Library Store

/-! ## Messages -/

-- a body of several lines must not look like several lines of the listing
def flatten (content : String) : String :=
  String.ofList ((content.toList.filter (· ≠ '\r')).map fun c => if c = '\n' then ' ' else c)

def formatMessage (msg : Message) : String :=
  let content := flatten msg.content
  match msg.recipient with
  | some recipient => s!"#{msg.id} [DM→{recipient.text}] {msg.sender.text}: {content}"
  | none => s!"#{msg.id} {msg.sender.text}: {content}"

def buildMessageWithNav (msg : Message) (hasPrev hasNext : Bool) : String :=
  let nav := (if hasPrev then ["R - Previous"] else []) ++ (if hasNext then ["F - Next"] else []) ++
    ["E - Reply"]
  formatMessage msg ++ "\n" ++ "  ".intercalate nav

def scanLine (msg : Message) : String :=
  let flat := (flatten msg.content).toList
  let ellipsis := if 40 < flat.length then "…" else ""
  s!"#{msg.id} {msg.sender.text}: {String.ofList (flat.take 40)}{ellipsis}"

/-! ## Times -/

def toRfc3339 (t : Timestamp) : String :=
  let seconds := t / Calendar.nanosPerSecond
  let days := seconds / Calendar.secondsPerDay
  let clock := seconds % Calendar.secondsPerDay
  let frac := (t % Calendar.nanosPerSecond).toNat
  let fraction := if frac = 0 then ""
    else "." ++ String.ofList ((UserStore.fractionDigits 9 frac).map Char.ofNat)
  let two := fun n => Text.zeroPadded 2 n
  Text.zeroPadded 4 (Calendar.year days) ++ "-" ++ two (Calendar.month days) ++ "-" ++
    two (Calendar.dayOfMonth days) ++ "T" ++ two (clock / 3600) ++ ":" ++ two (clock / 60 % 60) ++
    ":" ++ two (clock % 60) ++ fraction ++ "Z"

example : toRfc3339 946684800500000000 = "2000-01-01T00:00:00.5Z" := by decide +kernel

/-! ## Drafts -/

def radioDraftPreviewMaxBytes : Nat := 150

def cancelledDraft : String := "Cancelled. Nothing was sent."

/-- The longest run of leading characters that fits into `max` bytes. -/
def takeBytes : List Char → Nat → List Char
  | [], _ => []
  | c :: cs, max => if c.utf8Size ≤ max then c :: takeBytes cs (max - c.utf8Size) else []

def clipToBytes (s : String) (max : Nat) : String :=
  let ellipsis := "…"
  if s.utf8ByteSize ≤ max then s
  else if max < ellipsis.utf8ByteSize then ""
  else String.ofList (takeBytes s.toList (max - ellipsis.utf8ByteSize)) ++ ellipsis

def draftPreview (recipient : Option Username) (body : String) (onRadio : Bool) : String :=
  let suffix := "\nType . to send, C to cancel"
  let start := match recipient with
    | some r => s!"To {r.text}: "
    | none => ""
  let shown := if onRadio then
      clipToBytes body (radioDraftPreviewMaxBytes - (start.utf8ByteSize + suffix.utf8ByteSize))
    else body
  start ++ shown ++ suffix

/-! ## Command labels -/

def cmdLabel : Command → String
  | .help _ => "Help"
  | .login _ => "Login"
  | .register _ => "Register"
  | .registerOneShot _ _ => "RegisterOneShot"
  | .loginOneShot _ _ => "LoginOneShot"
  | .workflowReply _ => "WorkflowReply"
  | .cancel => "Cancel"
  | .logout | .quit => "Logout"
  | .whoami => "Whoami"
  | .listRooms => "ListRooms"
  | .goNextUnread => "GoNextUnread"
  | .changeRoom _ => "ChangeRoom"
  | .goMail => "GoMail"
  | .readNew => "ReadNew"
  | .readForward _ => "ReadForward"
  | .readReverse => "ReadReverse"
  | .scanMessages => "ScanMessages"
  | .fastForward => "FastForward"
  | .enterMessage _ => "EnterMessage"
  | .deleteMessage _ => "DeleteMessage"
  | .whoIsOnline => "WhoIsOnline"
  | .listPending => "ListPending"
  | .validateUser _ => "ValidateUser"
  | .setUserLevel _ _ => "SetUserLevel"
  | .blockUser _ _ => "BlockUser"
  | .banUser _ => "BanUser"
  | .unbanUser _ => "UnbanUser"
  | .timeoutUser _ _ => "TimeoutUser"
  | .editProfile => "EditProfile"
  | .changePassword => "ChangePassword"
  | .editRoom => "EditRoom"
  | .editUser _ => "EditUser"
  | .createRoom _ => "CreateRoom"
  | .deleteRoom _ => "DeleteRoom"
  | .unknown _ => "Unknown"
  | _ => "Other"

end SupplyDrop.Host
