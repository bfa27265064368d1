import Mathlib
import SupplyDrop.Host.Types

namespace SupplyDrop.Host
open Library Store

/-! ## `Command::parse` -/

def splitFirstWord (s : String) : String × Option String :=
  let word := s.toList.takeWhile fun c => !Text.isAsciiWhitespace c
  match s.toList.dropWhile fun c => !Text.isAsciiWhitespace c with
  | [] => (s, none)
  | rest =>
      let rest := Text.trimStart (String.ofList rest)
      (String.ofList word, if rest.isEmpty then none else some rest)

def username? (s : String) : Option Username := (Username.new s).toOption

/-- A command that takes a username, and what stands in for it when there is none. -/
def withUsername (rest : Option String) (command : Username → Command) (otherwise : Command) :
    Command :=
  match rest.bind username? with
  | some username => command username
  | none => otherwise

def withName (rest : Option String) (command : String → Command) (otherwise : Command) : Command :=
  match rest with
  | some name => if name.isEmpty then otherwise else command name
  | none => otherwise

def parseBlock (rest : Option String) (otherwise : Command) : Command :=
  let rawArg := Text.trim (rest.getD "")
  let (force, name) :=
    match Text.stripPrefix "+" rawArg, Text.stripPrefix "-" rawArg with
    | some s, _ => (some true, Text.trim s)
    | none, some s => (some false, Text.trim s)
    | none, none => (none, rawArg)
  match username? name with
  | some target => .blockUser target force
  | none => otherwise

def parseTimeout (rest : Option String) (otherwise : Command) : Command :=
  let parts := Text.splitWhitespace (rest.getD "")
  match parts[0]?.bind username?, parts[1]?.bind Text.parseU8 with
  | some username, some days =>
      if 1 ≤ days ∧ days ≤ 5 then .timeoutUser username days else otherwise
  | _, _ => otherwise

def parseGuestRoom (rest : Option String) (otherwise : Command) : Command :=
  match rest with
  | some arg =>
      if Text.eqIgnoreAsciiCase arg "off" then .setGuestRoom none
      else if arg.isEmpty then otherwise
      else .setGuestRoom (some arg)
  | none => otherwise

def parseKeyword (text keyword : String) (rest : Option String) : Command :=
  let unknown := Command.unknown text
  match keyword with
  | "h" | "help" | "?" => .help rest
  | "register" => withName rest .register (.help (some "register"))
  | "login" => withUsername rest .login (.help (some "login"))
  | "logout" | "q" | "quit" | "exit" | "bye" => .quit
  | "k" => .listRooms
  | "g" => .goNextUnread
  | "c" => .changeRoom (rest.getD "")
  | "m" => .goMail
  | "n" => .readNew
  | "f" => .readForward (rest.bind Text.parseI64)
  | "r" => .readReverse
  | "s" => withName rest .searchUsers .scanMessages
  | ".ff" => .fastForward
  | "e" => .enterMessage (rest.filter fun s => !s.isEmpty)
  | "d" =>
      match rest.bind Text.parseI64 with
      | some id => .deleteMessage id
      | none => unknown
  | "w" => .whoIsOnline
  | "pending" => .listPending
  | "v" => withUsername rest .validateUser unknown
  | "b" => parseBlock rest unknown
  | "ban" => withUsername rest .banUser unknown
  | "unban" => withUsername rest .unbanUser unknown
  | "timeout" => parseTimeout rest unknown
  | "u" | "users" => .listUsers rest
  | "whois" => withUsername rest .userInfo unknown
  | "whoami" => .whoami
  | "profile" => .editProfile
  | "passwd" => .changePassword
  | ".c" => withName rest .createRoom unknown
  | ".dr" => withName rest .deleteRoom unknown
  | ".er" => .editRoom
  | ".eu" => withUsername rest .editUser unknown
  | ".du" => withUsername rest .deleteUser unknown
  | ".aide" => withUsername rest (.setUserLevel · .aide) (.help (some ".aide"))
  | ".sysop" => withUsername rest (.setUserLevel · .sysop) (.help (some ".sysop"))
  | ".user" => withUsername rest (.setUserLevel · .user) (.help (some ".user"))
  | ".pw" => withUsername rest .setUserPassword unknown
  | "openaccess" => .openAccess
  | "closeaccess" => .closeAccess
  | "guestroom" => parseGuestRoom rest unknown
  | _ => unknown

def Command.parse (line : String) (awaitingReply : Bool) : Command :=
  let text := Text.trim line
  let lower := Text.toAsciiLowercase text
  if lower = "cancel" ∨ lower = "stop" then .cancel
  else if awaitingReply then .workflowReply text
  else if text.isEmpty then .unknown ""
  else
    let (word, rest) := splitFirstWord text
    parseKeyword text (Text.toAsciiLowercase word) rest

example : Command.parse " TIMEOUT  bob 3 " false = .timeoutUser .bob 3 := by decide +kernel

/-! ## Registration and login retyped inside their own prompts -/

inductive AuthEscape where
  | register (username : String) (password : Option String)
  | login (username : Username) (password : Option String)
deriving DecidableEq

def authEscape (reply : String) : Option AuthEscape :=
  let trimmed := Text.trim reply
  let (word, rest) :=
    match Text.splitOnce Text.isWhitespace trimmed with
    | some (w, r) => (w, Text.trim r)
    | none => (trimmed, "")
  if rest.isEmpty then none
  else
    let (name, password) :=
      match Text.splitOnce Text.isWhitespace rest with
      | some (n, p) =>
          let p := Text.trim p
          (n, if p.isEmpty then none else some p)
      | none => (rest, none)
    match Text.toAsciiLowercase word with
    | "register" => some (.register name password)
    | "login" => (username? name).map fun username => .login username password
    | _ => none

/-! ## Names of new accounts -/

def isNameByte (c : Char) : Bool := c.isAlphanum || c = '-' || c = '_'

def bracket (c : Option Char) : Bool := c = some '-' || c = some '_'

def validateNewUsername (raw : String) : Except String Username :=
  let trimmed := Text.trim raw
  let normalized := Text.toAsciiLowercase ((Text.stripPrefix "@" trimmed).getD trimmed)
  if normalized.isEmpty then .error "Username can't be empty."
  else if normalized.toList.length < 3 then .error "Username must be at least 3 characters."
  else if !normalized.toList.all isNameByte then
    .error "Username may only contain letters, digits, - and _."
  else if bracket normalized.toList.head? || bracket normalized.toList.getLast? then
    .error "Username can't start or end with - or _."
  else (Username.new normalized).mapError (·.display)

/-! ## Display names -/

def displayNameMaxLen : Nat := 64

inductive InvalidDisplayName where
  | empty
  | tooLong (actual max : Nat)
  | controlCharacter (c : Char)
deriving DecidableEq

def InvalidDisplayName.display : InvalidDisplayName → String
  | empty => "display name must not be empty; use None for no display name"
  | tooLong actual max => s!"display name is {actual} bytes; maximum is {max}"
  | controlCharacter c =>
      s!"display name contains a control character: {InvalidUsername.debugChar c}"

def validateDisplayName (s : String) : Except InvalidDisplayName Unit :=
  if s.isEmpty then .error .empty
  else if displayNameMaxLen < s.utf8ByteSize then .error (.tooLong s.utf8ByteSize displayNameMaxLen)
  else match s.toList.find? Text.isControl with
    | some c => .error (.controlCharacter c)
    | none => .ok ()

end SupplyDrop.Host
