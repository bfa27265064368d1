import Mathlib
import SupplyDrop.Host.System
import SupplyDrop.Proof.ReadNew
import SupplyDrop.Proof.RoomWalk
import SupplyDrop.Proof.Stepping

namespace SupplyDrop.Proof.NextUnread
open Library Library.Links Library.Program Store Host RoomWalk

/-! ## The rooms a session may read -/

def readable (auth : Auth) (guestRoom : Option RoomId) (db : Database) : List RoomId :=
  (db.rooms.rows.filter fun r => r.2.minPermissionLevel ≤ auth.level ∧
    (auth.level < .user → some r.1 = guestRoom)).map (·.1)

theorem walkFrom_mem {fuel : Nat} {map ordered left : List Room} {id : RoomId}
    (walked : RoomStore.walkFrom fuel map id = .ok (ordered, left)) :
    ∀ r ∈ ordered ++ left, r ∈ map := by
  induction fuel generalizing map ordered left id with
  | zero => cases walked
  | succ fuel ih =>
      unfold RoomStore.walkFrom at walked
      split at walked
      · cases walked
      · next room found =>
        have here : room ∈ map := List.mem_of_find?_eq_some found
        dsimp only at walked
        split at walked
        · cases walked
          intro r mem
          rcases List.mem_append.mp mem with first | rest
          · rw [List.mem_singleton.mp first]
            exact here
          · exact (List.mem_filter.mp rest).1
        · next next_ pointed =>
          cases on : RoomStore.walkFrom fuel (map.filter fun r => r.id ≠ id) next_ with
          | error e =>
              rw [on] at walked
              cases walked
          | ok parts =>
              rw [on] at walked
              cases walked
              intro r mem
              rcases List.mem_cons.mp mem with rfl | rest
              · exact here
              · exact (List.mem_filter.mp (ih on r rest)).1

theorem inOrder_mem {rooms ordered : List Room} (walked : RoomStore.inOrder rooms = .ok ordered) :
    ∀ r ∈ ordered, r ∈ rooms := by
  unfold RoomStore.inOrder at walked
  split at walked
  · cases walked
    exact fun r mem => mem
  · next head found =>
    cases on : RoomStore.walkFrom rooms.length rooms head.id with
    | error e =>
        rw [on] at walked
        cases walked
    | ok parts =>
        rw [on] at walked
        cases walked
        exact walkFrom_mem on

def mayRead (auth : Auth) (guestRoom : Option RoomId) (room : Room) : Bool :=
  room.minPermissionLevel ≤ auth.level ∧ (auth.level < .user → some room.id = guestRoom)

theorem listReadable_walk {s : Storage} {order : List RoomId} (sure : s.faults = [])
    (walk : Walk (roomLinks s.db.rooms) order) :
    ∃ ordered : List Room, ordered.map (·.id) = order ∧
      (∀ room ∈ ordered, (s.db.rooms.get? room.id).map (mapRoomRow room.id) = some room) ∧
      ∀ level, RoomStore.listReadable level s =
        (.ok (ordered.filter fun r => r.minPermissionLevel ≤ level), s) := by
  obtain ⟨ordered, listed, ids⟩ := inOrder_walk walk
  refine ⟨ordered, ids, ?_, fun level => ?_⟩
  · intro room mem
    obtain ⟨⟨id, r⟩, here, rfl⟩ := List.mem_map.mp (inOrder_mem listed room mem)
    show (s.db.rooms.get? id).map (mapRoomRow id) = _
    rw [(RowTable.mem_rows_iff ..).mp here]
    rfl
  · unfold RoomStore.listReadable RoomStore.listInOrder
    rw [bind_ok]
    · rfl
    · rw [bind_ok (query_sure _ sure), listed]
      rfl

/-- The rooms as the walk meets them, those left out that the session may not read. -/
theorem roomsFor_filters {auth : Auth} {h : BbsHost} {ordered : List Room}
    (listed : RoomStore.listReadable auth.level h.store =
      (.ok (ordered.filter fun r => r.minPermissionLevel ≤ auth.level), h.store)) :
    roomsFor auth h = (.ok (ordered.filter (mayRead auth h.guestRoomId)), h) := by
  have all : db StoreError.display (RoomStore.listReadable auth.level) h =
      (.ok (ordered.filter fun r => r.minPermissionLevel ≤ auth.level), h) := by
    rw [db_ok listed]
  unfold roomsFor
  rw [bind_ok all, bind_apply, peek_apply]
  dsimp only
  rw [pure_apply]
  congr 2
  unfold mayRead
  split
  · next low =>
    rw [List.filter_filter]
    apply List.filter_congr
    intro room _
    simp [low, Bool.and_comm]
  · next high => simp [high]

/-- The list that G goes through. -/
structure Lists (auth : Auth) (guestRoom : Option RoomId) (db : Database) (rooms : List Room) :
    Prop where
  nodup : (rooms.map (·.id)).Nodup
  sound : ∀ room ∈ rooms, room.id ∈ readable auth guestRoom db ∧
    (db.rooms.get? room.id).map (mapRoomRow room.id) = some room
  complete : ∀ k ∈ readable auth guestRoom db, ∃ room ∈ rooms, room.id = k

section Lists
variable {auth : Auth} {guestRoom : Option RoomId} {db : Database} {room : Room}

theorem mayRead_iff (stored : (db.rooms.get? room.id).map (mapRoomRow room.id) = some room) :
    mayRead auth guestRoom room = true ↔ room.id ∈ readable auth guestRoom db := by
  obtain ⟨r, row, same⟩ := Option.map_eq_some_iff.mp stored
  constructor
  · intro may
    apply List.mem_map.mpr
    refine ⟨(room.id, r), List.mem_filter.mpr ⟨(RowTable.mem_rows_iff ..).mpr row, ?_⟩, rfl⟩
    rw [← same] at may
    exact may
  · intro here
    obtain ⟨⟨k, r'⟩, entry, rfl⟩ := List.mem_map.mp here
    obtain ⟨listed, open_⟩ := List.mem_filter.mp entry
    obtain rfl := Option.some.inj (row.symm.trans ((RowTable.mem_rows_iff ..).mp listed))
    rw [← same]
    exact open_

end Lists

theorem roomsFor_lists (auth : Auth) {h : BbsHost} {order : List RoomId}
    (sure : h.store.faults = []) (walk : Walk (roomLinks h.store.db.rooms) order) :
    ∃ rooms, roomsFor auth h = (.ok rooms, h) ∧ Lists auth h.guestRoomId h.store.db rooms := by
  obtain ⟨ordered, ids, stored, listed⟩ := listReadable_walk sure walk
  refine ⟨_, roomsFor_filters (listed auth.level), ?_, ?_, ?_⟩
  · exact (ids ▸ walk.nodup).sublist (List.filter_sublist.map _)
  · intro room here
    obtain ⟨mem, may⟩ := List.mem_filter.mp here
    exact ⟨(mayRead_iff (stored room mem)).mp may, stored room mem⟩
  · intro k here
    have linked : k ∈ ordered.map (·.id) := by
      obtain ⟨⟨k, r⟩, entry, rfl⟩ := List.mem_map.mp here
      have row := (RowTable.mem_rows_iff ..).mp (List.mem_filter.mp entry).1
      rw [ids]
      apply (walk.covers k).mp
      unfold roomLinks
      rw [row]
      rfl
    obtain ⟨room, mem, rfl⟩ := List.mem_map.mp linked
    exact ⟨room, List.mem_filter.mpr ⟨mem, (mayRead_iff (stored room mem)).mpr here⟩, rfl⟩

/-! ## What there is to read in a room -/

def unreadMessages (auth : Auth) (db : Database) : List Message :=
  (inMessages auth db).filter fun m =>
    MessageStore.unread (db.userRoomState auth.userId auth.roomId) m.id

/-- The first page of them, blocked senders included. -/
def firstPage (auth : Auth) (db : Database) : List Message :=
  if unreadMessages auth db = [] then []
  else (ahead true auth db (db.userRoomState auth.userId auth.roomId).join).take meshPage

def shownIn (auth : Auth) (db : Database) : List Message :=
  visibleTo (blockedBy auth db) (firstPage auth db)

/-- What a visit to a room leaves alone. -/
structure Visited (session : SessionId) (r : SessionRecord) (auth : Auth) (h h' : BbsHost) :
    Prop where
  online : Online session r auth h'
  untouched : Untouched h.store h'.store
  others : ∀ k ≠ auth.roomId,
    h'.store.db.userRoomState auth.userId k = h.store.db.userRoomState auth.userId k
  guestRoom : h'.guestRoomId = h.guestRoomId

section Room
variable {session : SessionId} {r : SessionRecord} {auth : Auth} {room : Room} {h : BbsHost}
  {db : Database} {m : Message}

theorem unreadIn_sure (auth : Auth) (sure : h.store.faults = []) :
    unreadIn auth auth.roomId h = (.ok (unreadMessages auth h.store.db).length, h) := by
  have count : (if auth.roomId = mail then
      MessageStore.unreadDirectCount auth.username auth.userId auth.roomId
      else MessageStore.unreadCount auth.userId auth.roomId) h.store =
      (.ok (unreadMessages auth h.store.db).length, h.store) := by
    unfold unreadMessages inMessages messagesOf mapMessageRows
    rw [List.filter_map, List.length_map]
    split
    · unfold MessageStore.unreadDirectCount MessageStore.unreadDirect
      rw [query_sure _ sure, List.length_map]
      rfl
    · unfold MessageStore.unreadCount MessageStore.unreadInRoom
      rw [query_sure _ sure, List.length_map]
      rfl
  unfold unreadIn
  rw [db_ok count]

theorem unread_live (some_ : unreadMessages auth db ≠ []) :
    db.userRoomState auth.userId auth.roomId ≠ some none := by
  intro reset
  apply some_
  unfold unreadMessages
  rw [reset, List.filter_eq_nil_iff]
  exact fun _ _ unread => Bool.false_ne_true unread

theorem ahead_unread (live : db.userRoomState auth.userId auth.roomId ≠ some none)
    (mem : m ∈ ahead true auth db (db.userRoomState auth.userId auth.roomId).join) :
    m ∈ unreadMessages auth db := by
  rw [ahead_forward] at mem
  obtain ⟨here, beyond⟩ := List.mem_filter.mp mem
  apply List.mem_filter.mpr ⟨here, ?_⟩
  cases state : db.userRoomState auth.userId auth.roomId with
  | none => rfl
  | some pointer =>
      cases pointer with
      | none => exact absurd state live
      | some id =>
          rw [state] at beyond
          exact beyond

theorem firstPage_unread (mem : m ∈ firstPage auth db) : m ∈ unreadMessages auth db := by
  unfold firstPage at mem
  split at mem
  · cases mem
  · next some_ => exact ahead_unread (unread_live some_) (List.mem_of_mem_take mem)

theorem shownIn_unread (mem : m ∈ shownIn auth db) :
    m ∈ unreadMessages auth db ∧ isBlocked (blockedBy auth db) m = false := by
  obtain ⟨here, visible⟩ := List.mem_filter.mp mem
  exact ⟨firstPage_unread here, by simpa [isBlocked] using visible⟩

/-- The pointer can be put at an unread message. -/
theorem markable_unread (account : (db.users.get? auth.userId).isSome)
    (room : (db.rooms.get? auth.roomId).isSome) (unread : m ∈ unreadMessages auth db) :
    ¬Unmarkable db auth.userId auth.roomId m.id := by
  obtain ⟨here, behind⟩ := List.mem_filter.mp unread
  have stored := inMessages_stored auth db m here
  rintro (⟨-, gone | gone⟩ | gone)
  · exact Bool.false_ne_true ((Option.isNone_eq_false_iff.mpr account).symm.trans gone)
  · exact Bool.false_ne_true ((Option.isNone_eq_false_iff.mpr room).symm.trans gone)
  · have lands : MessageStore.advanced (db.userRoomState auth.userId auth.roomId) m.id = m.id := by
      cases state : db.userRoomState auth.userId auth.roomId with
      | none => rfl
      | some pointer =>
          cases pointer with
          | none =>
              rw [state] at behind
              cases behind
          | some id =>
              rw [state] at behind
              exact max_eq_left (of_decide_eq_true behind).le
    rw [lands, stored] at gone
    cases gone

/-- Showing a page of unread messages. -/
theorem showNew_visits (reader : Reader session r auth room h)
    (account : (h.store.db.users.get? auth.userId).isSome)
    (some_ : unreadMessages auth h.store.db ≠ []) :
    ∃ next h', showNew auth room (h.store.db.userRoomState auth.userId auth.roomId).join h =
      (.ok (if (shownIn auth h.store.db).isEmpty then noNewMessages room
        else .multiText (newMessageParts room (shownIn auth h.store.db) next)), h') ∧
      Visited session r auth h h' := by
  have page : firstPage auth h.store.db = (newPage auth h.store.db
      (h.store.db.userRoomState auth.userId auth.roomId).join).messages := by
    rw [newPage_messages]
    exact if_neg some_
  rw [showNew_run auth room _ reader.sure]
  unfold shownIn newReply
  rw [page]
  refine ⟨(newPage auth h.store.db (h.store.db.userRoomState auth.userId auth.roomId).join).nextCursor,
    ?_⟩
  cases last : (newPage auth h.store.db
      (h.store.db.userRoomState auth.userId auth.roomId).join).messages.getLast? with
  | none =>
      rw [List.getLast?_eq_none_iff.mp last]
      exact ⟨h, rfl, reader.toOnline, .refl reader.sure, fun _ _ => rfl, rfl⟩
  | some m =>
      have unread : m ∈ unreadMessages auth h.store.db := by
        apply firstPage_unread
        rw [page]
        exact List.mem_of_getLast? last
      have present : (h.store.db.rooms.get? auth.roomId).isSome := by
        rw [← Option.isSome_map, reader.room]
        rfl
      dsimp only
      rw [if_neg (markable_unread account present unread)]
      refine ⟨_, rfl, reader.toOnline.store reader.sure rfl, ⟨⟨_, rfl⟩, reader.sure⟩, ?_, rfl⟩
      exact fun k elsewhere => if_neg fun both => elsewhere both.2

theorem readNewUnlessEmpty_visits (reader : Reader session r auth room h)
    (account : (h.store.db.users.get? auth.userId).isSome)
    (some_ : unreadMessages auth h.store.db ≠ []) :
    ∃ next h', readNewUnlessEmpty session room h =
      (.ok (if (shownIn auth h.store.db).isEmpty then none
        else some (.multiText (newMessageParts room (shownIn auth h.store.db) next))), h') ∧
      Visited session (r.setLevel auth.level) auth h h' := by
  obtain ⟨h₁, same, reader₁, runs⟩ := readNew_runs reader
  rw [if_neg (unread_live some_), ← same.store] at runs
  rw [← same.store] at account some_
  obtain ⟨next, h', shows, visited⟩ := showNew_visits reader₁ account some_
  have ran := runs.trans shows
  refine ⟨next, h', ?_, visited.online, ?_, ?_, visited.guestRoom.trans same.guestRoom⟩
  · unfold readNewUnlessEmpty
    rw [bind_ok ran, same.store]
    split
    · exact congrArg (fun r => (Except.ok r, h')) (if_pos rfl)
    · exact congrArg (fun r => (Except.ok r, h')) (if_neg (by intro text; cases text))
  · rw [← same.store]
    exact visited.untouched
  · rw [← same.store]
    exact visited.others

end Room
/-! ## From room to room -/

def at_ (auth : Auth) (k : RoomId) : Auth := { auth with roomId := k }

/-- A session on the hunt, since `h₀`. -/
structure Hunting (session : SessionId) (auth : Auth) (h₀ : BbsHost) (r : SessionRecord)
    (h : BbsHost) : Prop where
  online : Online session r (at_ auth r.currentRoom) h
  untouched : Untouched h₀.store h.store
  guestRoom : h.guestRoomId = h₀.guestRoomId

/-- The session has not been to the room. -/
def Fresh (auth : Auth) (h₀ h : BbsHost) (k : RoomId) : Prop :=
  h.store.db.userRoomState auth.userId k = h₀.store.db.userRoomState auth.userId k

section Hunt
variable {session : SessionId} {r : SessionRecord} {auth : Auth} {room : Room} {h₀ h h' : BbsHost}
  {k : RoomId}

theorem moveTo_room (r : SessionRecord) (k : RoomId) : (r.moveTo k).currentRoom = k := by
  unfold SessionRecord.moveTo
  split
  · rfl
  · next here => exact not_not.mp here

theorem moveTo_away (away : r.currentRoom ≠ k) :
    (r.moveTo k).currentMessageId = none ∧ (r.moveTo k).workflow = .none := by
  unfold SessionRecord.moveTo
  rw [if_pos away]
  exact ⟨rfl, rfl⟩

theorem Online.enter (online : Online session r auth h) (k : RoomId) :
    Online session (r.moveTo k) (at_ auth k)
      { h with toMemory := h.toMemory.update session (·.moveTo k) } := by
  have kept : (r.moveTo k).username = r.username ∧ (r.moveTo k).userId = r.userId ∧
      (r.moveTo k).level = r.level := by
    unfold SessionRecord.moveTo
    split
    · exact ⟨rfl, rfl, rfl⟩
    · exact ⟨rfl, rfl, rfl⟩
  obtain ⟨username, userId, level⟩ := kept
  refine ⟨online.sure, ?_, username.trans online.username, userId.trans online.userId,
    moveTo_room r k, ?_, online.served⟩
  · show (h.sessions.update session _).get? session = _
    rw [RowTable.get?_update, if_pos rfl, online.found]
    rfl
  · rw [level]
    exact online.level

theorem Hunting.enter (hunting : Hunting session auth h₀ r h) (k : RoomId) :
    Hunting session auth h₀ (r.moveTo k)
      { h with toMemory := h.toMemory.update session (·.moveTo k) } := by
  have entered := Online.enter hunting.online k
  refine ⟨?_, hunting.untouched, hunting.guestRoom⟩
  rw [moveTo_room]
  exact entered

theorem Hunting.reader (hunting : Hunting session auth h₀ r h) (here : r.currentRoom = room.id)
    (allowed : room.id ∈ readable auth h₀.guestRoomId h₀.store.db)
    (listed : (h₀.store.db.rooms.get? room.id).map (mapRoomRow room.id) = some room) :
    Reader session r (at_ auth room.id) room h where
  toOnline := here ▸ hunting.online
  admitted := by
    obtain ⟨row, entry, same⟩ := List.mem_map.mp allowed
    have open_ := (of_decide_eq_true (List.mem_filter.mp entry).2).2
    rcases le_or_gt .user auth.level with high | low
    · exact .inl high
    · right
      rw [hunting.guestRoom, ← open_ low]
      exact congrArg some same
  room := by
    obtain ⟨pointers, same⟩ := hunting.untouched.db
    rw [same]
    exact listed

theorem reading_fresh (untouched : Untouched h₀.store h.store) (fresh : Fresh auth h₀ h k) :
    unreadMessages (at_ auth k) h.store.db = unreadMessages (at_ auth k) h₀.store.db ∧
    shownIn (at_ auth k) h.store.db = shownIn (at_ auth k) h₀.store.db := by
  obtain ⟨pointers, same⟩ := untouched.db
  have state : h.store.db.userRoomState (at_ auth k).userId (at_ auth k).roomId =
      h₀.store.db.userRoomState (at_ auth k).userId (at_ auth k).roomId := fresh
  have messages : inMessages (at_ auth k) h.store.db = inMessages (at_ auth k) h₀.store.db := by
    rw [same]
    rfl
  have blocks : blockedBy (at_ auth k) h.store.db = blockedBy (at_ auth k) h₀.store.db := by
    rw [same]
    rfl
  have unread : unreadMessages (at_ auth k) h.store.db =
      unreadMessages (at_ auth k) h₀.store.db := by
    rw [unreadMessages, messages, state, unreadMessages]
  refine ⟨unread, ?_⟩
  rw [shownIn, firstPage, unread, ahead_forward, messages, state, blocks, shownIn, firstPage,
    ahead_forward]

theorem Hunting.users (hunting : Hunting session auth h₀ r h) :
    h.store.db.users = h₀.store.db.users := by
  obtain ⟨pointers, same⟩ := hunting.untouched.db
  rw [same]

/-- The session after a visit that showed nothing. -/
theorem Hunting.visited (hunting : Hunting session auth h₀ r h)
    (visited : Visited session (r.setLevel auth.level) (at_ auth r.currentRoom) h h') :
    Hunting session auth h₀ (r.setLevel auth.level) h' where
  online := visited.online
  untouched := hunting.untouched.trans visited.untouched
  guestRoom := visited.guestRoom.trans hunting.guestRoom

/-- What the hunt through these rooms comes to. The flag says whether the session has moved. -/
inductive Hunted (session : SessionId) (auth : Auth) (h₀ : BbsHost) (r : SessionRecord)
    (rooms : List Room) : Bool → Except HostError Response × BbsHost → Prop where
  | shown {moved : Bool} {room : Room} {next : Option MessageId} {h' : BbsHost} : room ∈ rooms →
      shownIn (at_ auth room.id) h₀.store.db ≠ [] →
      Hunted session auth h₀ r rooms moved
        (.ok (.multiText (newMessageParts room (shownIn (at_ auth room.id) h₀.store.db) next)), h')
  | stayed {r' : SessionRecord} {h' : BbsHost} :
      (∀ room ∈ rooms, room.id ≠ auth.roomId →
        unreadMessages (at_ auth room.id) h₀.store.db = []) →
      h'.sessions.get? session = some r' → r'.currentRoom = r.currentRoom →
      r'.currentMessageId = r.currentMessageId → r'.workflow = r.workflow →
      Hunted session auth h₀ r rooms false (.ok noUnread, h')
  | returned {moved : Bool} {r' : SessionRecord} {h' : BbsHost} :
      (∀ room ∈ rooms, room.id ≠ auth.roomId → shownIn (at_ auth room.id) h₀.store.db = []) →
      (moved ∨ ∃ room ∈ rooms, room.id ≠ auth.roomId ∧
        unreadMessages (at_ auth room.id) h₀.store.db ≠ []) →
      h'.sessions.get? session = some r' → r'.currentRoom = auth.roomId →
      r'.currentMessageId = none → r'.workflow = .none →
      Hunted session auth h₀ r rooms moved (.ok noUnread, h')

/-- Where the session is while it hunts: where it was, or somewhere else, at no message. -/
def Placed (auth : Auth) (r₀ r : SessionRecord) : Bool → Prop
  | false => r.currentRoom = r₀.currentRoom ∧ r.currentMessageId = r₀.currentMessageId ∧
      r.workflow = r₀.workflow
  | true => r.currentRoom ≠ auth.roomId

theorem shownIn_read {db : Database} (read : unreadMessages auth db = []) : shownIn auth db = [] := by
  unfold shownIn firstPage
  rw [if_pos read]
  rfl

/-- Nothing is to be had in a room that the hunt passes. -/
theorem Hunted.cons {rooms : List Room} {moved : Bool} {r₀ : SessionRecord}
    {run : Except HostError Response × BbsHost}
    (passed : room.id = auth.roomId ∨ unreadMessages (at_ auth room.id) h₀.store.db = [])
    (hunted : Hunted session auth h₀ r₀ rooms moved run) :
    Hunted session auth h₀ r₀ (room :: rooms) moved run := by
  cases hunted with
  | shown mem some_ => exact .shown (List.mem_cons_of_mem _ mem) some_
  | stayed read found place position workflow =>
      apply Hunted.stayed _ found place position workflow
      intro other mem elsewhere
      rcases List.mem_cons.mp mem with rfl | later
      · exact passed.resolve_left elsewhere
      · exact read other later elsewhere
  | returned empty why found place position workflow =>
      apply Hunted.returned _ _ found place position workflow
      · intro other mem elsewhere
        rcases List.mem_cons.mp mem with rfl | later
        · exact shownIn_read (passed.resolve_left elsewhere)
        · exact empty other later elsewhere
      · exact why.imp_right fun ⟨other, mem, rest⟩ => ⟨other, List.mem_cons_of_mem _ mem, rest⟩

theorem Hunted.cons_tried {rooms : List Room} {moved : Bool} {r₀ : SessionRecord}
    {run : Except HostError Response × BbsHost} (elsewhere : room.id ≠ auth.roomId)
    (some_ : unreadMessages (at_ auth room.id) h₀.store.db ≠ [])
    (nothing : shownIn (at_ auth room.id) h₀.store.db = [])
    (hunted : Hunted session auth h₀ r₀ rooms true run) :
    Hunted session auth h₀ r₀ (room :: rooms) moved run := by
  generalize flag : true = tried at hunted
  cases hunted with
  | shown mem some_ => exact .shown (List.mem_cons_of_mem _ mem) some_
  | stayed => cases flag
  | returned empty _ found place position workflow =>
      refine .returned ?_ (.inr ⟨room, List.mem_cons_self, elsewhere, some_⟩) found place position
        workflow
      intro other mem away
      rcases List.mem_cons.mp mem with rfl | later
      · exact nothing
      · exact empty other later away

theorem tryRooms_hunts {rooms : List Room} {moved : Bool} {r₀ : SessionRecord}
    (account : (h₀.store.db.users.get? auth.userId).isSome)
    (hunting : Hunting session auth h₀ r h) (placed : Placed auth r₀ r moved)
    (nodup : (rooms.map (·.id)).Nodup)
    (allowed : ∀ room ∈ rooms, room.id ∈ readable auth h₀.guestRoomId h₀.store.db ∧
      (h₀.store.db.rooms.get? room.id).map (mapRoomRow room.id) = some room)
    (fresh : ∀ room ∈ rooms, room.id ≠ auth.roomId → Fresh auth h₀ h room.id) :
    Hunted session auth h₀ r₀ rooms moved (tryRooms session auth rooms moved h) := by
  induction rooms generalizing moved r h with
  | nil =>
      cases moved with
      | false =>
          exact .stayed (fun _ mem => absurd mem List.not_mem_nil) hunting.online.found placed.1
            placed.2.1 placed.2.2
      | true =>
          have back := hunting.enter auth.roomId
          obtain ⟨position, workflow⟩ := moveTo_away placed
          exact .returned (fun _ mem => absurd mem List.not_mem_nil) (.inl rfl) back.online.found
            (moveTo_room r auth.roomId) position workflow
  | cons room rest ih =>
      obtain ⟨apart, nodup⟩ := List.nodup_cons.mp nodup
      have allowed' := fun other mem => allowed other (List.mem_cons_of_mem room mem)
      have fresh' := fun other mem => fresh other (List.mem_cons_of_mem room mem)
      unfold tryRooms
      split
      · next here => exact (ih hunting placed nodup allowed' fresh').cons (.inl here)
      · next elsewhere =>
        obtain ⟨unread, shows⟩ := reading_fresh hunting.untouched
          (fresh room List.mem_cons_self elsewhere)
        have count : unreadIn auth room.id h =
            (.ok (unreadMessages (at_ auth room.id) h₀.store.db).length, h) := by
          rw [← unread]
          exact unreadIn_sure (at_ auth room.id) hunting.online.sure
        rw [bind_ok count]
        by_cases some_ : unreadMessages (at_ auth room.id) h₀.store.db = []
        · rw [if_neg (by simp [some_])]
          exact (ih hunting placed nodup allowed' fresh').cons (.inr some_)
        · rw [if_pos (List.length_pos_iff.mpr some_)]
          have entered := hunting.enter room.id
          have there := moveTo_room r room.id
          obtain ⟨sound, listed⟩ := allowed room List.mem_cons_self
          obtain ⟨next, h', ran, visited⟩ :=
            readNewUnlessEmpty_visits (entered.reader there sound listed)
              (by rw [show (at_ auth room.id).userId = auth.userId from rfl, entered.users]
                  exact account)
              (by rw [← unread] at some_; exact some_)
          have moves : setCurrentRoom session room.id h =
              (.ok (), { h with toMemory := h.toMemory.update session (·.moveTo room.id) }) := rfl
          have still : shownIn (at_ auth room.id) h.store.db = [] ↔
              shownIn (at_ auth room.id) h₀.store.db = [] := by rw [shows]
          rw [bind_ok moves, bind_ok ran]
          by_cases nothing : shownIn (at_ auth room.id) h₀.store.db = []
          · rw [if_pos (List.isEmpty_iff.mpr (still.mpr nothing))]
            have visited : Visited session ((r.moveTo room.id).setLevel auth.level)
                (at_ auth (r.moveTo room.id).currentRoom)
                { h with toMemory := h.toMemory.update session (·.moveTo room.id) } h' := by
              rw [there]
              exact visited
            apply Hunted.cons_tried elsewhere some_ nothing
            apply ih (entered.visited visited) _ nodup allowed'
            · intro other mem away
              have distinct : other.id ≠ (r.moveTo room.id).currentRoom := by
                rw [there]
                exact fun same => apart (List.mem_map.mpr ⟨other, mem, same⟩)
              exact (visited.others other.id distinct).trans (fresh' other mem away)
            · show (r.moveTo room.id).currentRoom ≠ auth.roomId
              rw [there]
              exact elsewhere
          · rw [if_neg (List.isEmpty_iff.not.mpr (still.not.mpr nothing))]
            show Hunted _ _ _ _ _ _ (Except.ok (Response.multiText (newMessageParts room
              (shownIn (at_ auth room.id) h.store.db) next)), h')
            rw [shows]
            exact .shown List.mem_cons_self nothing

/-- Every room comes up, the one after the current room first. -/
theorem startingAfter_perm (rooms : List Room) (current : RoomId) :
    (startingAfter rooms current).Perm rooms := by
  unfold startingAfter
  exact List.perm_append_comm.trans (List.Perm.of_eq (List.take_append_drop _ rooms))

theorem Hunted.perm {rooms rooms' : List Room} {moved : Bool} {r₀ : SessionRecord}
    {run : Except HostError Response × BbsHost} (perm : rooms.Perm rooms')
    (hunted : Hunted session auth h₀ r₀ rooms moved run) :
    Hunted session auth h₀ r₀ rooms' moved run := by
  cases hunted with
  | shown mem some_ => exact .shown (perm.mem_iff.mp mem) some_
  | stayed read found place position workflow =>
      exact .stayed (fun room mem => read room (perm.mem_iff.mpr mem)) found place position workflow
  | returned empty why found place position workflow =>
      refine .returned (fun room mem => empty room (perm.mem_iff.mpr mem)) (why.imp_right ?_) found
        place position workflow
      exact fun ⟨room, mem, rest⟩ => ⟨room, perm.mem_iff.mp mem, rest⟩

theorem huntUnread_hunts {rooms : List Room} {r₀ : SessionRecord}
    (account : (h₀.store.db.users.get? auth.userId).isSome)
    (hunting : Hunting session auth h₀ r h) (placed : Placed auth r₀ r false)
    (lists : Lists auth h₀.guestRoomId h₀.store.db rooms)
    (fresh : ∀ room ∈ rooms, room.id ≠ auth.roomId → Fresh auth h₀ h room.id) :
    Hunted session auth h₀ r₀ rooms false (huntUnread session auth rooms h) := by
  have perm := startingAfter_perm rooms auth.roomId
  apply Hunted.perm perm
  exact tryRooms_hunts account hunting placed ((perm.map _).nodup_iff.mpr lists.nodup)
    (fun room mem => lists.sound room (perm.mem_iff.mp mem))
    (fun room mem => fresh room (perm.mem_iff.mp mem))

end Hunt

/-! ## G -/

section Go
variable {session : SessionId} {r : SessionRecord} {auth : Auth} {h : BbsHost}
  {order : List RoomId}

/-- No room shows anything. -/
def NothingShown (auth : Auth) (h : BbsHost) : Prop :=
  ∀ k ∈ readable auth h.guestRoomId h.store.db, shownIn (at_ auth k) h.store.db = []

/-- Only the current room has anything unread. -/
def OthersRead (auth : Auth) (h : BbsHost) : Prop :=
  ∀ k ∈ readable auth h.guestRoomId h.store.db, k ≠ auth.roomId →
    unreadMessages (at_ auth k) h.store.db = []

/-- Where the session is and what it is at. -/
def SamePlace (r r' : SessionRecord) : Prop :=
  r'.currentRoom = r.currentRoom ∧ r'.currentMessageId = r.currentMessageId ∧
    r'.workflow = r.workflow

inductive Goes (session : SessionId) (r : SessionRecord) (auth : Auth) (h : BbsHost) :
    Except HostError Response × BbsHost → Prop where
  | shown {room : Room} {next : Option MessageId} {h' : BbsHost} :
      room.id ∈ readable auth h.guestRoomId h.store.db →
      shownIn (at_ auth room.id) h.store.db ≠ [] →
      Goes session r auth h
        (.ok (.multiText (newMessageParts room (shownIn (at_ auth room.id) h.store.db) next)), h')
  | stayed {r' : SessionRecord} {h' : BbsHost} : NothingShown auth h → OthersRead auth h →
      h'.sessions.get? session = some r' → SamePlace r r' → Goes session r auth h (.ok noUnread, h')
  | returned {r' : SessionRecord} {h' : BbsHost} : NothingShown auth h → ¬OthersRead auth h →
      h'.sessions.get? session = some r' → r'.currentRoom = r.currentRoom →
      r'.currentMessageId = none → r'.workflow = .none → Goes session r auth h (.ok noUnread, h')

theorem Hunted.goes {rooms : List Room} {run : Except HostError Response × BbsHost}
    (lists : Lists auth h.guestRoomId h.store.db rooms) (here : r.currentRoom = auth.roomId)
    (passed : auth.roomId ∈ readable auth h.guestRoomId h.store.db →
      shownIn auth h.store.db = [])
    (hunted : Hunted session auth h r rooms false run) : Goes session r auth h run := by
  have everywhere {P : RoomId → Prop} (listed : ∀ room ∈ rooms, P room.id) :
      ∀ k ∈ readable auth h.guestRoomId h.store.db, P k := by
    intro k mem
    obtain ⟨room, here, rfl⟩ := lists.complete k mem
    exact listed room here
  have nothing (others : ∀ room ∈ rooms, room.id ≠ auth.roomId →
      shownIn (at_ auth room.id) h.store.db = []) : NothingShown auth h := by
    intro k mem
    by_cases same : k = auth.roomId
    · subst same
      exact passed mem
    · exact everywhere (P := fun k => k ≠ auth.roomId → shownIn (at_ auth k) h.store.db = [])
        others k mem same
  generalize flag : false = moved at hunted
  cases hunted with
  | shown mem some_ => exact .shown (lists.sound _ mem).1 some_
  | stayed read found place position workflow =>
      exact .stayed (nothing fun room mem away => shownIn_read (read room mem away))
        (everywhere read) found ⟨place, position, workflow⟩
  | returned empty why found place position workflow =>
      subst flag
      obtain ⟨room, mem, away, some_⟩ := why.resolve_left Bool.false_ne_true
      refine .returned (nothing empty) (fun read => ?_) found (place.trans here.symm) position workflow
      exact some_ (read room.id (lists.sound room mem).1 away)

theorem goNextUnread_goes (online : Online session r auth h)
    (account : (h.store.db.users.get? auth.userId).isSome)
    (walk : Walk (roomLinks h.store.db.rooms) order) :
    Goes session r auth h (handleGoNextUnread session h) := by
  obtain ⟨h₁, asked, same⟩ := sessionAuthOrGuest_sure online
  have online₁ := online.again same
  obtain ⟨rooms, listed, lists⟩ := roomsFor_lists auth online₁.sure (same.store.symm ▸ walk)
  rw [same.store, same.guestRoom] at lists
  have here : (r.setLevel auth.level).currentRoom = auth.roomId := online.here
  have hunting : Hunting session auth h (r.setLevel auth.level) h₁ := by
    refine ⟨?_, ?_, same.guestRoom⟩
    · rw [here]
      exact online₁
    · rw [same.store]
      exact .refl online.sure
  have placed : Placed auth r (r.setLevel auth.level) false := ⟨rfl, rfl, rfl⟩
  have fresh (k : RoomId) : Fresh auth h h₁ k := by
    unfold Fresh
    rw [same.store]
  have hunts := huntUnread_hunts account hunting placed lists fun room _ _ => fresh room.id
  unfold handleGoNextUnread withAuth
  rw [bind_ok asked]
  dsimp only
  rw [bind_ok listed]
  cases found : rooms.find? fun r => r.id = auth.roomId with
  | none =>
      apply hunts.goes lists online.here
      intro mem
      obtain ⟨room, listed, same⟩ := lists.complete _ mem
      exact absurd same (by simpa using List.find?_eq_none.mp found room listed)
  | some room =>
      have current : room.id = auth.roomId := by simpa using List.find?_some found
      obtain ⟨allowed, row⟩ := lists.sound room (List.mem_of_find?_eq_some found)
      have count : unreadIn auth auth.roomId h₁ =
          (.ok (unreadMessages auth h.store.db).length, h₁) := by
        rw [← same.store]
        exact unreadIn_sure auth online₁.sure
      dsimp only
      rw [bind_ok count]
      by_cases some_ : unreadMessages auth h.store.db = []
      · rw [if_neg (by simp [some_])]
        exact hunts.goes lists online.here fun _ => shownIn_read some_
      · rw [if_pos (List.length_pos_iff.mpr some_)]
        have reader : Reader session (r.setLevel auth.level) (at_ auth auth.roomId) room h₁ :=
          current ▸ hunting.reader (here.trans current.symm) allowed row
        have reader : Reader session (r.setLevel auth.level) auth room h₁ := reader
        obtain ⟨next, h₂, ran, visited⟩ := readNewUnlessEmpty_visits reader
          (by rw [same.store]; exact account) (by rw [same.store]; exact some_)
        rw [bind_ok ran, same.store]
        by_cases nothing : shownIn auth h.store.db = []
        · rw [if_pos (List.isEmpty_iff.mpr nothing)]
          have visited_ : Visited session ((r.setLevel auth.level).setLevel auth.level)
              (at_ auth (r.setLevel auth.level).currentRoom) h₁ h₂ := by
            rw [here]
            exact visited
          have hunts := huntUnread_hunts account (hunting.visited visited_) placed lists
            fun room _ away => (visited.others room.id away).trans (fresh room.id)
          exact hunts.goes lists online.here fun _ => nothing
        · rw [if_neg (List.isEmpty_iff.not.mpr nothing)]
          have shows : shownIn (at_ auth room.id) h.store.db = shownIn auth h.store.db := by
            rw [current]
            rfl
          have goes : Goes session r auth h (.ok (.multiText (newMessageParts room
              (shownIn (at_ auth room.id) h.store.db) next)), h₂) :=
            .shown allowed (shows ▸ nothing)
          rw [shows] at goes
          exact goes

/-- All that is unread comes from senders the reader has blocked. -/
def AllBlocked (auth : Auth) (h : BbsHost) : Prop :=
  ∀ k ∈ readable auth h.guestRoomId h.store.db, ∀ m ∈ unreadMessages (at_ auth k) h.store.db,
    isBlocked (blockedBy auth h.store.db) m = true

structure MissesNothing (session : SessionId) (r : SessionRecord) (auth : Auth) (h : BbsHost) :
    Prop where
  noneLeft : ∀ h', handleGoNextUnread session h = (.ok noUnread, h') → AllBlocked auth h
  shows : ¬AllBlocked auth h → ∃ room visible next h',
    handleGoNextUnread session h = (.ok (.multiText (newMessageParts room visible next)), h') ∧
    room.id ∈ readable auth h.guestRoomId h.store.db ∧
    ∃ m ∈ visible, m ∈ unreadMessages (at_ auth room.id) h.store.db ∧
      isBlocked (blockedBy auth h.store.db) m = false
  stays : ∀ h', handleGoNextUnread session h = (.ok noUnread, h') →
    ∃ r', h'.sessions.get? session = some r' ∧ SamePlace r r'

/-- One of the first pages has something to show; or there is nothing to show at all, and no way to
go for it or no position to lose on the way. -/
def Covered (r : SessionRecord) (auth : Auth) (h : BbsHost) : Prop :=
  ¬NothingShown auth h ∨
    AllBlocked auth h ∧ (OthersRead auth h ∨ r.currentMessageId = none ∧ r.workflow = .none)

theorem Goes.covered {run : Except HostError Response × BbsHost}
    (ran : handleGoNextUnread session h = run) (goes : Goes session r auth h run)
    (misses : MissesNothing session r auth h) : Covered r auth h := by
  cases goes with
  | shown allowed some_ => exact .inl fun nothing => some_ (nothing _ allowed)
  | stayed _ read => exact .inr ⟨misses.noneLeft _ ran, .inl read⟩
  | returned _ _ found _ position workflow =>
      obtain ⟨r', found', -, position', workflow'⟩ := misses.stays _ ran
      obtain rfl := Option.some.inj (found.symm.trans found')
      exact .inr ⟨misses.noneLeft _ ran, .inr ⟨position'.symm.trans position,
        workflow'.symm.trans workflow⟩⟩

theorem Goes.missesNothing {run : Except HostError Response × BbsHost}
    (ran : handleGoNextUnread session h = run) (goes : Goes session r auth h run)
    (covered : Covered r auth h) : MissesNothing session r auth h := by
  cases goes with
  | @shown room next h' allowed some_ =>
      have different (h₂) : handleGoNextUnread session h ≠ (.ok noUnread, h₂) := by
        rw [ran]
        intro same
        cases same
      refine ⟨fun h₂ same => absurd same (different h₂), fun _ => ?_,
        fun h₂ same => absurd same (different h₂)⟩
      obtain ⟨m, mem⟩ := List.exists_mem_of_ne_nil _ some_
      exact ⟨room, _, next, h', ran, allowed, m, mem, shownIn_unread mem⟩
  | stayed nothing _ found place =>
      have all := (covered.resolve_left (not_not.mpr nothing)).1
      refine ⟨fun _ _ => all, fun some_ => absurd all some_, fun h₂ same => ?_⟩
      cases ran.symm.trans same
      exact ⟨_, found, place⟩
  | returned nothing others found place position workflow =>
      obtain ⟨all, settled⟩ := covered.resolve_left (not_not.mpr nothing)
      obtain ⟨position', workflow'⟩ := settled.resolve_left others
      refine ⟨fun _ _ => all, fun some_ => absurd all some_, fun h₂ same => ?_⟩
      cases ran.symm.trans same
      exact ⟨_, found, place, position.trans position'.symm, workflow.trans workflow'.symm⟩

theorem misses_nothing_iff (online : Online session r auth h)
    (account : (h.store.db.users.get? auth.userId).isSome)
    (walk : Walk (roomLinks h.store.db.rooms) order) :
    MissesNothing session r auth h ↔ Covered r auth h :=
  have goes := goNextUnread_goes online account walk
  ⟨goes.covered rfl, goes.missesNothing rfl⟩

end Go
theorem seeded_walk {rooms : RowTable RoomRow} (seeded : rooms.rows = seedRooms.rows) :
    Walk (roomLinks rooms) [lobby, mail, aides, 4, 5] := by
  have same : roomLinks rooms = roomLinks seedRooms := by
    unfold roomLinks RowTable.get?
    rw [seeded]
  rw [same]
  exact seedRooms_walk

theorem misses_nothing_alice :
    ∃ r, MissesNothing 1 r Stepping.alices Stepping.readersLobby := by
  obtain ⟨r, room, -, reader⟩ := Stepping.alice_reads
  refine ⟨r, (misses_nothing_iff reader.toOnline (by decide +kernel)
    (seeded_walk (by decide +kernel))).mpr (.inl fun nothing => ?_)⟩
  have shown : shownIn (at_ Stepping.alices lobby) Stepping.readersLobby.store.db ≠ [] := by
    decide +kernel
  exact shown (nothing lobby (by decide +kernel))

/-- Bob, whom Alice has blocked, posts five times in the Lobby before she does herself. -/
def spamming : List Input :=
  [.connect "telnet", .connect "telnet", .command 1 (.loginOneShot .alice "password"),
    .command 2 (.loginOneShot .bob "password"), .command 1 (.blockUser .bob none)] ++
  (List.replicate 5 [.command 2 (.enterMessage (some "spam")),
    .command 2 (.workflowReply ".")]).flatten ++
  [.command 1 (.enterMessage (some "hello")), .command 1 (.workflowReply ".")]

def spammedLobby : BbsHost :=
  spamming.foldl deliver (adminCreateUser "bob" "password" 10
    (adminCreateUser "alice" "password" 100 (.fresh .fresh)).2).2

theorem unread_missed : ¬ ∀ (session : SessionId) (r : SessionRecord) (auth : Auth) (h : BbsHost)
    (order : List RoomId), Online session r auth h → (h.store.db.users.get? auth.userId).isSome →
    Walk (roomLinks h.store.db.rooms) order → MissesNothing session r auth h := by
  intro claim
  obtain ⟨r, room, -, reader⟩ : ∃ r room, spammedLobby.sessions.get? 1 = some r ∧
      Reader 1 r Stepping.alices room spammedLobby :=
    Reader.known (by decide +kernel) (by decide +kernel) (by decide +kernel) (.inl (by decide))
      (.inl (by decide)) (by decide +kernel)
  have account : (spammedLobby.store.db.users.get? Stepping.alices.userId).isSome := by
    decide +kernel
  have walk : Walk (roomLinks spammedLobby.store.db.rooms) [lobby, mail, aides, 4, 5] :=
    seeded_walk (by decide +kernel)
  have misses := claim 1 r Stepping.alices spammedLobby _ reader.toOnline account walk
  have nothing : ∀ k ∈ readable Stepping.alices spammedLobby.guestRoomId spammedLobby.store.db,
      shownIn (at_ Stepping.alices k) spammedLobby.store.db = [] := by decide +kernel
  have hello : ∃ m ∈ unreadMessages (at_ Stepping.alices lobby) spammedLobby.store.db,
      isBlocked (blockedBy Stepping.alices spammedLobby.store.db) m = false := by decide +kernel
  obtain ⟨m, mem, visible⟩ := hello
  rcases (goNextUnread_goes reader.toOnline account walk).covered rfl misses with some_ | ⟨all, -⟩
  · exact some_ nothing
  · have blocked := all lobby (by decide +kernel) m mem
    rw [visible] at blocked
    cases blocked

end SupplyDrop.Proof.NextUnread
