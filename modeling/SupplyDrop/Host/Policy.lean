import Mathlib
import SupplyDrop.Host.Moderation

namespace SupplyDrop.Host
open Library Store

def Memory.setPolicy (m : Memory) (f : AccessPolicy → AccessPolicy) : Memory :=
  { m with accessPolicy := f m.accessPolicy }

def setRequireVerify (requireVerify : Bool) : HostM Unit :=
  poke fun m => m.setPolicy fun p => { p with requireVerify }

def setGuestRoomName (guestRoomName : Option String) : HostM Unit :=
  poke fun m => m.setPolicy fun p => { p with guestRoomName }

def setGuestRoomId (guestRoomId : Option RoomId) : HostM Unit :=
  poke fun m => { m with guestRoomId }

def Memory.persistPolicy (m : Memory) : Memory :=
  { m with config := m.config.map fun c =>
      if c.writable then { c with saved := m.accessPolicy } else c }

def persistAccessPolicy : HostM Unit := poke Memory.persistPolicy

/-! ## The guest room -/

def fetchGuestRoom (id : RoomId) : HostM (Except String Unit) := do
  let fetched ← tryDb (RoomStore.getById id)
  match fetched with
  | .error e => pure (.error (failed "guest room fetch" e))
  | .ok none => pure (.error "guest room missing after create")
  | .ok (some room) => do
      setGuestRoomId (some room.id)
      pure (.ok ())

def createGuestRoom (name : String) : HostM (Except String Unit) := do
  let now ← now
  let created ← tryDb (RoomStore.create name (some "Open room — all users welcome.") false
    .unvalidated now)
  match created with
  | .error e => pure (.error (failed "guest room create" e))
  | .ok id => fetchGuestRoom id

def ensureGuestRoom : HostM (Except String Unit) := do
  let name ← peek fun m => m.accessPolicy.guestRoomName
  match name with
  | none => pure (.ok ())
  | some name => do
      let found ← tryDb (RoomStore.getByName name)
      match found with
      | .error e => pure (.error (failed "guest room lookup" e))
      | .ok (some room) => do
          setGuestRoomId (some room.id)
          pure (.ok ())
      | .ok none => createGuestRoom name

/-! ## OPENACCESS, CLOSEACCESS and GUESTROOM -/

def sysopPermissionRequired : Response := .text "Sysop permission required."

def changeVerification (session : SessionId) (requireVerify : Bool) (action reply : String) :
    HostM Response :=
  privileged session .sysop sysopPermissionRequired fun auth => do
    setRequireVerify requireVerify
    persistAccessPolicy
    audit auth.username.text action none none
    pure (.text reply)

def handleOpenAccess (session : SessionId) : HostM Response :=
  changeVerification session false "open_access"
    "Open access enabled. New registrations no longer require verification."

def handleCloseAccess (session : SessionId) : HostM Response :=
  changeVerification session true "close_access"
    "Verification requirement restored. New accounts must be validated."

def disableGuestRoom (auth : Auth) : HostM Response := do
  setGuestRoomName none
  setGuestRoomId none
  persistAccessPolicy
  audit auth.username.text "set_guest_room" (some "off") none
  pure (.text "Guest room disabled. Unverified users will see the pending-validation message.")

def enableGuestRoom (auth : Auth) (roomName : String) : HostM Response := do
  setGuestRoomName (some roomName)
  let ensured ← ensureGuestRoom
  match ensured with
  | .error e => do
      setGuestRoomName none
      pure (.text s!"Failed to set guest room: {e}")
  | .ok () => do
      persistAccessPolicy
      audit auth.username.text "set_guest_room" (some roomName) none
      pure (.text s!"Guest room set to '{roomName}'. Unverified users will be placed there.")

def handleSetGuestRoom (session : SessionId) (name : Option String) : HostM Response :=
  privileged session .sysop sysopPermissionRequired fun auth =>
    match name with
    | none => disableGuestRoom auth
    | some roomName => enableGuestRoom auth roomName

end SupplyDrop.Host
