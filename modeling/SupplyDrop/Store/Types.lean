import Mathlib
import SupplyDrop.Library.Text

namespace SupplyDrop.Store
open Library

abbrev UserId := Int
abbrev RoomId := Int
abbrev MessageId := Int

/-- Nanoseconds since the Unix epoch, always UTC. -/
abbrev Timestamp := Int

def lobby : RoomId := 1
def mail : RoomId := 2
def aides : RoomId := 3

/-! ## Permission levels -/

inductive PermissionLevel where
  | unvalidated
  | user
  | aide
  | sysop
deriving DecidableEq, Repr

namespace PermissionLevel

def discriminant : PermissionLevel → Nat
  | unvalidated => 0
  | user => 10
  | aide => 50
  | sysop => 100

instance : LinearOrder PermissionLevel :=
  LinearOrder.lift' discriminant fun a b h => by cases a <;> cases b <;> simp_all [discriminant]

def satisfies (self required : PermissionLevel) : Bool := required ≤ self

def display : PermissionLevel → String
  | unvalidated => "unvalidated"
  | user => "user"
  | aide => "aide"
  | sysop => "sysop"

def debug : PermissionLevel → String
  | unvalidated => "Unvalidated"
  | user => "User"
  | aide => "Aide"
  | sysop => "Sysop"

end PermissionLevel

inductive UserStatus where
  | active
  | banned
  | deleted
deriving DecidableEq, Repr

/-! ## Usernames -/

inductive InvalidUsername where
  | empty
  | tooLong (actual max : Nat)
  | nonAscii
  | disallowedCharacter (c : Char)
  | bracketCharacter
  | reserved (name : String)
deriving DecidableEq

namespace InvalidUsername

def hexDigit (n : Nat) : Char := "0123456789abcdef".toList.getD n '0'

def debugChar (c : Char) : String :=
  match c.toNat with
  | 0x0 => "'\\0'"
  | 0x9 => "'\\t'"
  | 0xA => "'\\n'"
  | 0xD => "'\\r'"
  | n =>
      if Text.isControl c then
        if n < 16 then String.ofList ['\'', '\\', 'u', Char.ofNat 123, hexDigit n, Char.ofNat 125, '\'']
        else String.ofList ['\'', '\\', 'u', Char.ofNat 123, hexDigit (n / 16), hexDigit (n % 16),
          Char.ofNat 125, '\'']
      else String.ofList ['\'', c, '\'']

def display : InvalidUsername → String
  | empty => "username must not be empty"
  | tooLong actual max => s!"username is {actual} bytes; maximum is {max}"
  | nonAscii => "username must be ASCII"
  | disallowedCharacter c => s!"username contains a disallowed character: {debugChar c}"
  | bracketCharacter => "username must not start or end with \x60-\x60 or \x60_\x60"
  | reserved name => s!"'{name}' is a reserved username"

end InvalidUsername

def validateChars (raw : String) : Except InvalidUsername Unit := do
  if raw.isEmpty then throw .empty
  if 32 < raw.utf8ByteSize then throw (.tooLong raw.utf8ByteSize 32)
  if !raw.toList.all Text.isAscii then throw .nonAscii
  if let some c := raw.toList.find? fun c => Text.isControl c || Text.isWhitespace c || c = '@' then
    throw (.disallowedCharacter c)
  let bracket (c : Option Char) : Bool := c = some '-' || c = some '_'
  if bracket raw.toList.head? || bracket raw.toList.getLast? then throw .bracketCharacter

/-- A validated username: lower case, and made of the characters a username may have. -/
structure Username where
  text : String
  lower : Text.toAsciiLowercase text = text
  valid : validateChars text = .ok ()
deriving DecidableEq

namespace Username

/-- `TryFrom<String>`, the way back from storage: reserved names pass. -/
def tryFrom (value : String) : Except InvalidUsername Username :=
  let raw := Text.toAsciiLowercase ((Text.stripPrefix "@" value).getD value)
  match h : validateChars raw with
  | .ok () => .ok ⟨raw, Text.toAsciiLowercase_idem _, h⟩
  | .error e => .error e

def new (raw : String) : Except InvalidUsername Username :=
  match tryFrom raw with
  | .ok name => if name.text = "bbs" ∨ name.text = "system" then .error (.reserved name.text)
      else .ok name
  | .error e => .error e

def bbs : Username := ⟨"bbs", by decide +kernel, by decide +kernel⟩

def alice : Username := ⟨"alice", by decide +kernel, by decide +kernel⟩

def bob : Username := ⟨"bob", by decide +kernel, by decide +kernel⟩

instance : Inhabited Username := ⟨bbs⟩

theorem ext_text {a b : Username} (h : a.text = b.text) : a = b := by
  cases a
  cases b
  cases h
  rfl

end Username

/-! ## Rows -/

structure UserRow where
  username : Username
  displayName : Option String
  status : UserStatus
  permissionLevel : PermissionLevel
  createdAt : Timestamp
  lastLoginAt : Option Timestamp
  suspendedUntil : Option Timestamp
deriving DecidableEq

structure User extends UserRow where
  id : UserId
deriving DecidableEq

structure RoomRow where
  name : String
  description : Option String
  readOnly : Bool
  minPermissionLevel : PermissionLevel
  prevNeighbor : Option RoomId
  nextNeighbor : Option RoomId
  createdAt : Timestamp
deriving DecidableEq

structure Room extends RoomRow where
  id : RoomId
deriving DecidableEq

structure MessageRow where
  sender : Username
  recipient : Option Username
  content : String
  timestamp : Timestamp
deriving DecidableEq

structure Message extends MessageRow where
  id : MessageId
deriving DecidableEq

namespace User

def display (u : User) : String := u.displayName.getD u.username.text

def isActive (u : User) : Bool := u.status = .active

end User

/-! ## Errors -/

inductive StoreError where
  | conflict (text : String)
  | integrityViolation (text : String)
  | notFound
  | decode (text : String)
  | db (text : String)
deriving DecidableEq

def StoreError.display : StoreError → String
  | conflict text => s!"conflict: {text}"
  | integrityViolation text => s!"referential integrity violated: {text}"
  | notFound => "not found"
  | decode text => s!"failed to decode database value: {text}"
  | db text => s!"database error: {text}"

end SupplyDrop.Store
