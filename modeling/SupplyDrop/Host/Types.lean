import Mathlib
import SupplyDrop.Store.Database

namespace SupplyDrop.Host
open Library Store

abbrev SessionId := Int

/-- Nanoseconds on the monotonic clock. -/
abbrev Instant := Nat

inductive HostError where
  | permissionDenied (required : PermissionLevel)
  | unknownSession (session : SessionId)
  | notAuthenticated
  | notFound (text : String)
  | preconditionFailed (text : String)
  | storage (text : String)
  | internal (text : String)
  | notSupported (text : String)
deriving DecidableEq

/-! ## Commands and responses -/

inductive Command where
  | help (topic : Option String)
  | register (username : String)
  | login (username : Username)
  | registerOneShot (username password : String)
  | loginOneShot (username : Username) (password : String)
  | logout
  | whoami
  | workflowReply (reply : String)
  | unknown (raw : String)
  | listRooms
  | goNextUnread
  | changeRoom (target : String)
  | goMail
  | readNew
  | readForward (after : Option Int)
  | readReverse
  | scanMessages
  | fastForward
  | enterMessage (body : Option String)
  | deleteMessage (id : Int)
  | quit
  | cancel
  | whoIsOnline
  | listPending
  | validateUser (username : Username)
  | setUserLevel (username : Username) (level : PermissionLevel)
  | blockUser (target : Username) (force : Option Bool)
  | banUser (username : Username)
  | unbanUser (username : Username)
  | timeoutUser (username : Username) (days : Nat)
  | editProfile
  | changePassword
  | createRoom (name : String)
  | deleteRoom (name : String)
  | editRoom
  | editUser (username : Username)
  | listUsers (filter : Option String)
  | searchUsers (query : String)
  | userInfo (username : Username)
  | deleteUser (username : Username)
  | setUserPassword (username : Username)
  | openAccess
  | closeAccess
  | setGuestRoom (name : Option String)
deriving DecidableEq

inductive Response where
  | text (text : String)
  | prompt (text : String) (hideInput : Bool)
  | loggedIn (user : Username)
  | loggedOut
  | error (text : String)
  | multiText (parts : List String)
deriving DecidableEq

namespace Response

def render : Response → Option String
  | text t => some t
  | prompt t _ => some t
  | loggedIn user => some s!"Welcome, {user.text}. Type 'H' for commands."
  | loggedOut => some "Goodbye. Your session has ended."
  | error e => some s!"Error: {e}"
  | multiText parts => some ("\n".intercalate parts)

def setsAwaitingReply : Response → Bool
  | prompt _ _ => true
  | _ => false

end Response

/-! ## Workflows -/

inductive RegisterStage where
  | password
  | confirm (password : String)
deriving DecidableEq

inductive ComposeStage where
  | awaitingRecipient
  | awaitingBody (recipient : Option Username)
  | awaitingConfirmation (recipient : Option Username) (body : String)
deriving DecidableEq

inductive ChangePwdStage where
  | verifyOld (attempts : Nat)
  | enterNew
  | confirmNew (newPassword : String)
deriving DecidableEq

inductive ForcePwdStage where
  | enterNew
  | confirmNew (newPassword : String)
deriving DecidableEq

inductive Workflow where
  | none
  | register (username : Username) (stage : RegisterStage)
  | login (username : Username) (attempts : Nat)
  | compose (roomId : RoomId) (stage : ComposeStage)
  | editProfile
  | changePassword (stage : ChangePwdStage)
  | forceChangePassword (username : Username) (userId : UserId) (stage : ForcePwdStage)
  | reading
  | rooms (roomIds : List RoomId) (nextPageStart : Option Nat)
  | reviewPending (pending : List Username) (index : Nat)
deriving DecidableEq

/-! ## Sessions, policy, events -/

structure SessionRecord where
  transport : String
  username : Option Username
  userId : Option UserId
  level : PermissionLevel
  workflow : Workflow
  currentRoom : RoomId
  currentMessageId : Option MessageId
  lastPostConfirmation : Option String
deriving DecidableEq

structure AccessPolicy where
  requireVerify : Bool
  guestRoomName : Option String
deriving DecidableEq

/-- What a policy change writes to `config.toml`, unless the file cannot be read and written. -/
structure ConfigFile where
  writable : Bool
  saved : AccessPolicy

inductive MessageRecipient where
  | room (id : String)
  | direct (username : Username)
deriving DecidableEq

inductive DomainEvent where
  | sessionCreated (session : SessionId) (transport : String)
  | sessionAuthenticated (session : SessionId) (user : Username)
  | sessionEnded (session : SessionId) (reason : String)
  | messagePosted (sender : Username) (recipient : MessageRecipient) (messageId : MessageId)
  | userCreated (user : Username)
  | userValidated (user : Username)
  | commandExecuted (session : SessionId) (command : String) (user : Option Username)
deriving DecidableEq

end SupplyDrop.Host
