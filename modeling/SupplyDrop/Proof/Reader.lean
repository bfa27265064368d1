import Mathlib
import SupplyDrop.Host.Rooms
import SupplyDrop.Proof.StoreCalls

namespace SupplyDrop.Proof
open Library Library.Program Store Host

/-! ## A store that answers -/

theorem query_sure {α : Type} (f : Database → α) {s : Storage} (sure : s.faults = []) :
    query f s = (.ok (f s.db), s) := by
  have passed : statement s = (.ok (), s) := by
    unfold statement
    rw [sure]
  rw [query, bind_ok passed, gets_apply]

theorem db_query_sure {α : Type} {describe : StoreError → String} {h : BbsHost}
    (f : Database → α) (sure : h.store.faults = []) :
    db describe (query f) h = (.ok (f h.store.db), h) := by
  rw [db_ok (query_sure f sure)]

theorem getById_sure (id : UserId) {s : Storage} (sure : s.faults = []) :
    (UserStore.getById id s).2 = s := by
  unfold UserStore.getById
  rw [bind_ok (query_sure _ sure)]
  cases s.db.users.get? id with
  | none => rfl
  | some row =>
      dsimp only
      unfold UserStore.decoded
      cases mapUserRow id row <;> rfl

theorem getById_same (id : UserId) {s s' : Storage} (sure : s.faults = []) (sure' : s'.faults = [])
    (users : s'.db.users = s.db.users) : (UserStore.getById id s').1 = (UserStore.getById id s).1 := by
  unfold UserStore.getById
  rw [bind_ok (query_sure _ sure), bind_ok (query_sure _ sure'), users]
  cases s.db.users.get? id with
  | none => rfl
  | some row =>
      dsimp only
      unfold UserStore.decoded
      cases mapUserRow id row <;> rfl

/-! ## Who reads where -/

/-- The level of an account, and the cached one when the account cannot be read. -/
def accountLevel (h : BbsHost) (id : UserId) (cached : PermissionLevel) : PermissionLevel :=
  match (UserStore.getById id h.store).1 with
  | .ok (some user) => user.permissionLevel
  | _ => cached

/-- Open access serves everyone as a `User` at least. -/
def servedLevel (h : BbsHost) (id : UserId) (cached : PermissionLevel) : PermissionLevel :=
  let level := accountLevel h id cached
  if level < .user ∧ h.accessPolicy.requireVerify = false then .user else level

/-- In whose name the session is served, and where it is. -/
structure Online (session : SessionId) (r : SessionRecord) (auth : Auth) (h : BbsHost) : Prop where
  sure : h.store.faults = []
  found : h.sessions.get? session = some r
  username : r.username = some auth.username
  userId : r.userId = some auth.userId
  here : r.currentRoom = auth.roomId
  level : auth.level = servedLevel h auth.userId r.level
  served : .user ≤ auth.level ∨ h.guestRoomId.isSome

/-- And that it may read there. -/
structure Reader (session : SessionId) (r : SessionRecord) (auth : Auth) (room : Room)
    (h : BbsHost) : Prop extends Online session r auth h where
  admitted : .user ≤ auth.level ∨ h.guestRoomId = some auth.roomId
  room : (h.store.db.rooms.get? auth.roomId).map (mapRoomRow auth.roomId) = some room

/-- Serving the session changes nothing but its level. -/
structure Relevelled (session : SessionId) (r : SessionRecord) (h h' : BbsHost) : Prop where
  store : h'.store = h.store
  policy : h'.accessPolicy = h.accessPolicy
  guestRoom : h'.guestRoomId = h.guestRoomId
  found : h'.sessions.get? session = some r

namespace Relevelled
variable {session : SessionId} {r : SessionRecord} {h h' : BbsHost}

theorem setLevel (same : Relevelled session r h h') (level : PermissionLevel) :
    Relevelled session (r.setLevel level) h
      (onSession session (fun r => r.setLevel level) h').2 := by
  refine ⟨same.store, same.policy, same.guestRoom, ?_⟩
  show (h'.sessions.update session _).get? session = _
  rw [RowTable.get?_update, if_pos rfl, same.found]
  rfl

theorem settle (same : Relevelled session r h h') (level : PermissionLevel) :
    ∃ h'', onlyIf (level ≠ r.level) (onSession session fun r => r.setLevel level) h' =
      (.ok (), h'') ∧ Relevelled session (r.setLevel level) h h'' := by
  unfold onlyIf
  split
  · exact ⟨_, rfl, same.setLevel level⟩
  · next equal =>
    have equal : level = r.level := by simpa using equal
    refine ⟨h', rfl, same.store, same.policy, same.guestRoom, ?_⟩
    rw [equal]
    exact same.found

end Relevelled

theorem currentLevel_sure (id : UserId) (cached : PermissionLevel) {h : BbsHost}
    (sure : h.store.faults = []) :
    currentLevel id cached h = (.ok (accountLevel h id cached), h) := by
  unfold currentLevel accountLevel
  rcases read : UserStore.getById id h.store with ⟨found, s⟩
  have same : s = h.store := by
    have unchanged := getById_sure id sure
    rw [read] at unchanged
    exact unchanged
  subst same
  rw [bind_ok (tryDb_of read)]
  rcases found with e | user
  · rfl
  · cases user <;> rfl

section Served
variable {session : SessionId} {r : SessionRecord} {h : BbsHost} {username : Username}
  {userId : UserId}

theorem sessionAuthUser_sure (sure : h.store.faults = []) (found : h.sessions.get? session = some r)
    (name : r.username = some username) (id : r.userId = some userId) :
    ∃ h', sessionAuthUser session h = (.ok (if .user ≤ servedLevel h userId r.level then
        .ok ⟨username, userId, servedLevel h userId r.level, r.currentRoom⟩
      else .error pendingValidation), h') ∧
      Relevelled session (r.setLevel (servedLevel h userId r.level)) h h' := by
  have asked : sessionAuth session h =
      (.ok (.ok ⟨username, userId, r.level, r.currentRoom⟩), h) := by
    rw [sessionAuth, peek_apply, found]
    dsimp only
    rw [name, id]
  unfold sessionAuthUser servedLevel
  rw [bind_ok asked]
  dsimp only
  rw [bind_ok (currentLevel_sure userId r.level sure)]
  generalize accountLevel h userId r.level = level
  have start : Relevelled session r h h := ⟨rfl, rfl, rfl, found⟩
  obtain ⟨h', ran, settled⟩ := start.settle level
  rw [bind_ok ran]
  by_cases high : .user ≤ level
  · have served : (if level < .user ∧ h.accessPolicy.requireVerify = false then
        PermissionLevel.user else level) = level := if_neg fun low => not_lt.mpr high low.1
    rw [served, if_pos high, if_pos high]
    exact ⟨h', rfl, settled⟩
  · rw [if_neg high, bind_apply, peek_apply, settled.policy]
    dsimp only
    by_cases verify : h.accessPolicy.requireVerify = true
    · have served : (if level < .user ∧ h.accessPolicy.requireVerify = false then
          PermissionLevel.user else level) = level := if_neg (by simp [verify])
      rw [served, if_pos verify, if_neg high]
      exact ⟨h', rfl, settled⟩
    · have served : (if level < .user ∧ h.accessPolicy.requireVerify = false then
          PermissionLevel.user else level) = .user :=
        if_pos ⟨not_le.mp high, by simpa using verify⟩
      rw [served, if_neg verify, if_pos le_rfl]
      exact ⟨_, rfl, settled.setLevel .user⟩

end Served

theorem sessionAuthOrGuest_sure {session : SessionId} {r : SessionRecord} {auth : Auth}
    {h : BbsHost} (online : Online session r auth h) :
    ∃ h', sessionAuthOrGuest session h = (.ok (.ok auth), h') ∧
      Relevelled session (r.setLevel auth.level) h h' := by
  obtain ⟨h', ran, settled⟩ :=
    sessionAuthUser_sure online.sure online.found online.username online.userId
  rw [← online.level] at ran settled
  unfold sessionAuthOrGuest
  rw [bind_ok ran]
  refine ⟨h', ?_, settled⟩
  have whole : (⟨auth.username, auth.userId, auth.level, r.currentRoom⟩ : Auth) = auth := by
    rw [online.here]
  rw [whole]
  by_cases high : .user ≤ auth.level
  · rw [if_pos high]
    rfl
  · rw [if_neg high]
    dsimp only
    have guest : h.guestRoomId.isSome := online.served.resolve_left high
    rw [bind_apply, peek_apply, settled.guestRoom]
    dsimp only
    have again : sessionAuth session h' = (.ok (.ok auth), h') := by
      have name : (r.setLevel auth.level).username = some auth.username := online.username
      have id : (r.setLevel auth.level).userId = some auth.userId := online.userId
      rw [sessionAuth, peek_apply, settled.found]
      dsimp only
      rw [name, id, ← whole]
      rfl
    rw [if_pos guest, bind_ok again]
    rfl

section Reading
variable {session : SessionId} {r : SessionRecord} {auth : Auth} {room : Room} {h h' : BbsHost}

theorem servedLevel_settled (store : h'.store = h.store) (policy : h'.accessPolicy = h.accessPolicy)
    (id : UserId) (cached : PermissionLevel) :
    servedLevel h' id (servedLevel h id cached) = servedLevel h id cached := by
  have known (cached : PermissionLevel) : accountLevel h' id cached = accountLevel h id cached := by
    rw [accountLevel, accountLevel, store]
  have again : accountLevel h id (servedLevel h id cached) = accountLevel h id cached ∨
      accountLevel h id (servedLevel h id cached) = servedLevel h id cached := by
    unfold accountLevel
    split
    · exact .inl rfl
    · exact .inr rfl
  unfold servedLevel at again ⊢
  rw [known, policy]
  dsimp only at again ⊢
  rcases again with same | same <;> rw [same]
  split_ifs <;> simp_all

/-- The session is served again as it was before. -/
theorem Online.again (online : Online session r auth h)
    (same : Relevelled session (r.setLevel auth.level) h h') :
    Online session (r.setLevel auth.level) auth h' where
  sure := by rw [same.store]; exact online.sure
  found := same.found
  username := online.username
  userId := online.userId
  here := online.here
  level := by
    show auth.level = servedLevel h' auth.userId auth.level
    rw [online.level, servedLevel_settled same.store same.policy]
  served := by rw [same.guestRoom]; exact online.served

theorem Reader.again (reader : Reader session r auth room h)
    (same : Relevelled session (r.setLevel auth.level) h h') :
    Reader session (r.setLevel auth.level) auth room h' where
  toOnline := reader.toOnline.again same
  admitted := by rw [same.guestRoom]; exact reader.admitted
  room := by rw [same.store]; exact reader.room

theorem withRoom_found {k : Room → HostM Response} (sure : h.store.faults = [])
    (room_ : (h.store.db.rooms.get? auth.roomId).map (mapRoomRow auth.roomId) = some room) :
    withRoom auth.roomId k h = k room h := by
  unfold withRoom RoomStore.getById
  rw [bind_ok (db_query_sure _ sure), room_]

theorem withGuestRule_passed {refusal : String} {k : HostM Response}
    (admitted : .user ≤ auth.level ∨ h.guestRoomId = some auth.roomId) :
    withGuestRule auth refusal k h = k h := by
  unfold withGuestRule
  rw [bind_apply, peek_apply]
  dsimp only
  rw [if_neg]
  rintro ⟨low, elsewhere⟩
  rcases admitted with high | guest
  · exact not_lt.mpr high low
  · exact elsewhere guest.symm

/-- A session that may read is let through, at the level it is served at. -/
theorem reading_reader (reader : Reader session r auth room h) :
    ∃ h', (∀ k, reading session k h = k auth room h') ∧
      Relevelled session (r.setLevel auth.level) h h' ∧
      Reader session (r.setLevel auth.level) auth room h' := by
  obtain ⟨h', asked, same⟩ := sessionAuthOrGuest_sure reader.toOnline
  have reader' := reader.again same
  refine ⟨h', fun k => ?_, same, reader'⟩
  unfold reading withAuth
  rw [bind_ok asked]
  dsimp only
  rw [withGuestRule_passed reader'.admitted, withRoom_found reader'.sure reader'.room]

/-- Where the session reads is of no consequence for how it is served, nor for what it may read. -/
theorem Online.move (online : Online session r auth h) (position : Option MessageId)
    (workflow : Workflow) (f : SessionRecord → SessionRecord)
    (eq : f r = { r with currentMessageId := position, workflow }) :
    Online session (f r) auth { h with toMemory := h.toMemory.update session f } where
  sure := online.sure
  found := by
    show (h.sessions.update session f).get? session = _
    rw [RowTable.get?_update, if_pos rfl, online.found]
    rfl
  username := by rw [eq]; exact online.username
  userId := by rw [eq]; exact online.userId
  here := by rw [eq]; exact online.here
  level := by rw [eq]; exact online.level
  served := online.served

theorem Reader.move (reader : Reader session r auth room h) (position : Option MessageId)
    (workflow : Workflow) (f : SessionRecord → SessionRecord)
    (eq : f r = { r with currentMessageId := position, workflow }) :
    Reader session (f r) auth room { h with toMemory := h.toMemory.update session f } where
  toOnline := reader.toOnline.move position workflow f eq
  admitted := reader.admitted
  room := reader.room

/-- Nor are read pointers. -/
theorem Online.store (online : Online session r auth h) {s : Storage} (sure : s.faults = [])
    (users : s.db.users = h.store.db.users) : Online session r auth { h with store := s } where
  sure := sure
  found := online.found
  username := online.username
  userId := online.userId
  here := online.here
  level := by
    rw [online.level, servedLevel, servedLevel, accountLevel, accountLevel,
      getById_same auth.userId online.sure sure users]
  served := online.served

theorem Reader.store (reader : Reader session r auth room h) {s : Storage}
    (sure : s.faults = []) (users : s.db.users = h.store.db.users)
    (rooms : s.db.rooms = h.store.db.rooms) :
    Reader session r auth room { h with store := s } where
  toOnline := reader.toOnline.store sure users
  admitted := reader.admitted
  room := by
    dsimp only
    rw [rooms]
    exact reader.room

/-- What there is to know of a session that is served at the level it has. -/
theorem Reader.known (sure : h.store.faults = [])
    (record : (h.sessions.get? session).map (fun r => (r.username, r.userId, r.currentRoom,
      r.level)) = some (some auth.username, some auth.userId, auth.roomId, auth.level))
    (level : auth.level = servedLevel h auth.userId auth.level)
    (served : .user ≤ auth.level ∨ h.guestRoomId.isSome)
    (admitted : .user ≤ auth.level ∨ h.guestRoomId = some auth.roomId)
    (room : (h.store.db.rooms.get? auth.roomId).isSome) :
    ∃ r room, h.sessions.get? session = some r ∧ Reader session r auth room h := by
  obtain ⟨r, found, same⟩ := Option.map_eq_some_iff.mp record
  obtain ⟨row, here⟩ := Option.isSome_iff_exists.mp room
  injection same with username same
  injection same with userId same
  injection same with place held
  exact ⟨r, mapRoomRow auth.roomId row, found,
    { sure, found, username, userId, here := place, level := held ▸ level, served, admitted
      room := by rw [here]; rfl }⟩

end Reading
end SupplyDrop.Proof
