import Mathlib
import SupplyDrop.Host.System
import SupplyDrop.Proof.Served
import SupplyDrop.Proof.Conduct.Asked
import SupplyDrop.Proof.Conduct.Effects

namespace SupplyDrop.Proof.RoomsExist
open Library Library.Program Store Host

def Present (h : BbsHost) (id : RoomId) : Prop := (h.store.db.rooms.get? id).isSome

/-- The rooms that logged-in sessions stand in and that guests land in are in the table. -/
structure Housed (h : BbsHost) : Prop where
  lobby : Present h lobby
  guestRoom : ∀ id, h.guestRoomId = some id → Present h id
  sessions : ∀ session r, h.sessions.get? session = some r → r.username.isSome →
    Present h r.currentRoom

namespace Housed
variable {h : BbsHost} {s : Storage} {m : Memory}

theorem store (housed : Housed h) (rooms : ∀ id, Present h id → (s.db.rooms.get? id).isSome) :
    Housed { h with store := s } where
  lobby := rooms _ housed.lobby
  guestRoom id guest := rooms id (housed.guestRoom id guest)
  sessions session r found named := rooms _ (housed.sessions session r found named)

theorem same_rooms (housed : Housed h) (rooms : s.db.rooms = h.store.db.rooms) :
    Housed { h with store := s } :=
  housed.store fun id present => by rw [rooms]; exact present

theorem quiet (housed : Housed h) (quiet : Quiet h.toMemory m) : Housed { h with toMemory := m } where
  lobby := housed.lobby
  guestRoom id guest := housed.guestRoom id (by rw [← quiet.guestRoom]; exact guest)
  sessions := by
    intro session r' found named
    rcases quiet.sessions session r' found with ⟨r, before, plain⟩ | ⟨transport, rfl⟩
    · rw [plain.username] at named
      rw [plain.room]
      exact housed.sessions session r before named
    · cases named

theorem update (housed : Housed h) {session : SessionId} {f : SessionRecord → SessionRecord}
    (each : ∀ r, h.sessions.get? session = some r → (f r).username.isSome →
      Present h (f r).currentRoom) : Housed { h with toMemory := h.toMemory.update session f } where
  lobby := housed.lobby
  guestRoom := housed.guestRoom
  sessions := by
    intro i r' found named
    unfold Memory.update at found
    rw [RowTable.get?_update] at found
    split at found
    · next same =>
      obtain ⟨r, before, rfl⟩ := Option.map_eq_some_iff.mp found
      rw [same] at before
      exact each r before named
    · exact housed.sessions i r' found named

/-- A change of the session that leaves it where it stands. -/
theorem stays (housed : Housed h) {session : SessionId} {f : SessionRecord → SessionRecord}
    (same : ∀ r, (f r).username = r.username ∧ (f r).currentRoom = r.currentRoom) :
    Housed { h with toMemory := h.toMemory.update session f } := by
  apply housed.update
  intro r found named
  rw [(same r).1] at named
  rw [(same r).2]
  exact housed.sessions session r found named

end Housed

/-- What only some handlers do that may leave a session without its room. -/
def has (p : Power) : Prop := p ≠ .bind ∧ p ≠ .guest ∧ p ≠ .move ∧ p ≠ .raze

theorem effect_rooms {db db' : Database} {p : Power} (effect : Effect db p db') (other : p ≠ .raze)
    (id : RoomId) (present : (db.rooms.get? id).isSome) : (db'.rooms.get? id).isSome := by
  cases effect with
  | opened same =>
      show (RowTable.get? _ id).isSome
      rw [same.isSome, RowTable.get?_insert]
      split
      · rfl
      · exact present
  | edited =>
      show (RowTable.get? (RowTable.update _ _ _) id).isSome
      rw [RowTable.get?_update]
      split
      · simpa using present
      · exact present
  | razed same => exact absurd rfl other
  | kept | enrolled | notified | stood | graded | reset | pardoned | posted | mailed | erased => exact present

theorem housed_invariant : Invariant Housed has where
  aside h s housed aside _ := housed.same_rooms aside.rooms
  lift h s id housed _ wrote := housed.same_rooms (by rw [wrote])
  quiet h m housed quiet := housed.quiet quiet
  powered := by
    intro p α m powered free h housed
    exact housed.store fun id present =>
      effect_rooms (powered_effect powered h.store) free.2.2.2 id present
  patch := by
    intro id status level _ _ h housed
    have effect := (update_effect id none status level none h.store).2
    apply housed.same_rooms
    rcases effect with kept | ⟨row, -, wrote⟩
    · exact congrArg (·.rooms) kept
    · exact congrArg (·.rooms) wrote
  bind free := absurd rfl free.1
  hold _ h session username userId stage housed := housed.stays fun _ => ⟨rfl, rfl⟩
  guest free := absurd rfl free.2.1
  move free := absurd rfl free.2.2.1
  draft _ h session roomId stage housed := housed.stays fun _ => ⟨rfl, rfl⟩
  conclude _ h session outcome housed := housed.stays fun _ => ⟨rfl, rfl⟩

/-- Handlers that leave every session with its room. -/
abbrev housing : Conduct := housed_invariant.conduct

theorem housing_iff {α : Type} {m : HostM α} : housing.holds m ↔ Keeps Housed m :=
  Discipline.keeping_iff

/-! ## Binding a session -/

section Handlers
variable {session : SessionId}

theorem bind_keeps {room : RoomId} {username : Username} {userId : UserId}
    {level : PermissionLevel} {h : BbsHost} (housed : Housed h) (present : Present h room) :
    Housed (onSession session (fun r => r.bindTo username userId level room) h).2 :=
  housed.update fun _ _ _ => present

theorem knownSession_keeps {f : SessionRecord → SessionRecord} {P : BbsHost → Prop}
    (inside : ∀ h, P h → Housed h) (kept : ∀ h, P h → Housed (onSession session f h).2) :
    Ensures Housed P (onKnownSession session f) fun _ => Housed := by
  apply Ensures.bind (Q := fun _ => P) (.gets fun h holds => ⟨inside h holds, holds⟩)
  intro found
  cases found with
  | none => exact .fail inside
  | some r => exact fun h holds => ⟨kept h holds, fun _ _ => kept h holds⟩

/-- The room a login lands in is there. -/
theorem initialRoom_present (level : PermissionLevel) :
    Ensures Housed Housed (initialRoom level) fun room h => Housed h ∧ Present h room := by
  apply Ensures.gets
  intro h housed
  refine ⟨housed, housed, ?_⟩
  show Present h (if level < .user then h.guestRoomId.getD Store.lobby else Store.lobby)
  split
  · cases guest : h.guestRoomId with
    | none => exact housed.lobby
    | some id => exact housed.guestRoom id guest
  · exact housed.lobby

/-- A handler that begins by finding the room to land in. -/
theorem lands {α : Type} {level : PermissionLevel} {username : Username} {userId : UserId}
    {rest : HostM α} (after : housing.holds rest) : housing.holds (do
      let room ← initialRoom level
      onKnownSession session fun r => r.bindTo username userId level room
      rest) := by
  apply housing_iff.mpr
  have whole : Ensures Housed Housed (do
      let room ← initialRoom level
      onKnownSession session fun r => r.bindTo username userId level room
      rest) fun _ => Housed := by
    apply (initialRoom_present level).bind
    intro room
    apply (knownSession_keeps (fun _ holds => holds.1) fun _ holds => bind_keeps holds.1 holds.2).bind
    intro _
    exact .ofKeeps (housing_iff.mp after)
  exact fun h housed => (whole h housed).1

theorem finalizeLogin_keeps (user : User) : housing.holds (finalizeLogin session user) :=
  lands (housing.seq (housing.emit trivial) fun _ => housing.reply _)

theorem createUserAndLogin_keeps (username : Username) (password : String) :
    housing.holds (createUserAndLogin session username password) := by
  have free {p : Power} (other : p ≠ .bind ∧ p ≠ .guest ∧ p ≠ .move ∧ p ≠ .raze) :
      housing.has p := other
  apply housing.seq housing.now
  intro now
  apply housing.seq (housing.call (.listUsers _ _ _))
  intro someone
  dsimp only
  apply housing.seq (housing.tryUse (.createUser _ _ _ _) (free (by decide)))
  intro created
  split
  · exact housing.seq (housing.clearWorkflow session) fun _ => housing.reply _
  · exact housing.refuse _
  · apply housing.seq (housing.call (.setPassword _ _ _))
    intro _
    apply lands
    have passing : Passing (.userCreated username) := trivial
    apply housing.seq (housing.emit passing)
    intro _
    apply housing.ite
    · exact fun _ => housing.reply _
    · intro _
      exact housing.seq (housing.notifySysops (free (by decide)) _) fun _ => housing.reply _

theorem meshNodeRestore_keeps (pubkey : PublicKey) (ttlDays : Nat) :
    housing.holds (meshNodeRestore session pubkey ttlDays) := by
  apply housing.seq (housing.call (.lookupNode _ _))
  intro bound
  cases bound with
  | none => exact housing.reply _
  | some userId =>
      apply housing.seq (housing.call (.getUser _))
      intro user
      split
      · exact housing.reply _
      · next user' _ =>
        apply housing.seq (housing.stampLastLogin _)
        intro _
        have bound : housing.holds (onSession session fun r =>
            r.bindTo user'.username user'.id user'.permissionLevel Store.lobby) :=
          housing_iff.mpr fun _ housed => bind_keeps housed housed.lobby
        apply housing.seq bound
        intro _
        apply housing.seq housing.now
        intro now
        exact housing.seq (housing.call (.bindNode _ _ _)) fun _ => housing.reply _

/-! ## Going from room to room -/

theorem move_keeps {room : RoomId} {h : BbsHost} (housed : Housed h) (present : Present h room) :
    Housed (setCurrentRoom session room h).2 := by
  apply housed.update
  intro r found named
  unfold SessionRecord.moveTo at named ⊢
  split
  · exact present
  · next same =>
    rw [if_neg same] at named
    exact housed.sessions session r found named

/-- A room that was just read stays in the table while only sessions move. -/
theorem enterRoom_keeps (room : Room) (auth : Auth) :
    Ensures Housed (fun h => Housed h ∧ Present h room.id) (enterRoom session room auth)
      fun _ _ => True := by
  have done {r : Response} : Ensures Housed (fun h => Housed h ∧ Present h room.id)
      (pure r : HostM Response) fun _ _ => True := .ret fun _ holds => ⟨holds.1, trivial⟩
  unfold enterRoom
  split
  · exact done
  · apply Ensures.bind (Q := fun _ h => Housed h ∧ Present h room.id)
      (.gets fun _ holds => ⟨holds.1, holds⟩)
    intro guestRoom
    split
    · exact done
    · have moved : Ensures Housed (fun h => Housed h ∧ Present h room.id)
          (setCurrentRoom session room.id) fun _ => Housed :=
        fun _ holds => ⟨move_keeps holds.1 holds.2, fun _ _ => move_keeps holds.1 holds.2⟩
      apply moved.bind
      intro _
      have rest : housing.holds (do
          let unread ← unreadIn auth room.id
          pure (.text (if 0 < unread then s!"Now in: {room.name} ({unread} new). Type N to read."
            else s!"Now in: {room.name} (no new messages).")) : HostM Response) :=
        housing.seq (housing.unreadIn auth room.id) fun _ => housing.reply _
      exact (Ensures.ofKeeps (housing_iff.mp rest)).conseq (fun _ => id) fun _ _ _ => trivial

/-- A lookup of a room finds one of the table. -/
theorem finds_present {describe : StoreError → String} {m : StoreM (Option Room)} (reads : Reads m)
    (found : ∀ s room s', m s = (.ok (some room), s') → (s.db.rooms.get? room.id).isSome) :
    Ensures Housed Housed (db describe m) fun result h =>
      Housed h ∧ ∀ room, result = some room → Present h room.id := by
  intro h housed
  have same := (reads h.store).1
  rcases ran : m h.store with ⟨r, s⟩
  rw [ran] at same
  cases r with
  | error e =>
      rw [db_error ran]
      exact ⟨housed.same_rooms (congrArg (·.rooms) same), nofun⟩
  | ok result =>
      rw [db_ok ran]
      have housed' : Housed { h with store := s } := housed.same_rooms (congrArg (·.rooms) same)
      refine ⟨housed', fun result' eq => ⟨housed', fun room some_ => ?_⟩⟩
      cases eq
      rw [some_] at ran
      show (s.db.rooms.get? room.id).isSome
      rw [show s.db = _ from same]
      exact found h.store room s ran

theorem getById_present {id : RoomId} {s s' : Storage} {room : Room}
    (h : RoomStore.getById id s = (.ok (some room), s')) :
    room.id = id ∧ (s.db.rooms.get? room.id).isSome := by
  obtain ⟨row, stored, eq⟩ := Option.map_eq_some_iff.mp (query_ok h).1.symm
  rw [← eq]
  exact ⟨rfl, by show (s.db.rooms.get? id).isSome; rw [stored]; rfl⟩

theorem getByName_present {name : String} {s s' : Storage} {room : Room}
    (h : RoomStore.getByName name s = (.ok (some room), s')) :
    (s.db.rooms.get? room.id).isSome := by
  obtain ⟨r, first, eq⟩ := Option.map_eq_some_iff.mp (query_ok h).1.symm
  rw [← eq]
  show (s.db.rooms.get? r.1).isSome
  rw [RowTable.get?_of_find? first]
  rfl

theorem findRoom_present {target : String} {s s' : Storage} {room : Room}
    (h : findRoom target s = (.ok (some room), s')) : (s.db.rooms.get? room.id).isSome := by
  unfold findRoom at h
  cases number : Text.parseI64 target with
  | some id =>
      rw [number] at h
      exact (getById_present h).2
  | none =>
      rw [number] at h
      exact getByName_present h

theorem handleChangeRoom_keeps (target : String) :
    housing.holds (handleChangeRoom session target) := by
  apply housing.ite
  · exact fun _ => housing.repeatOutcome session
  · intro _
    apply housing.withGuestAuth
    intro auth
    have reads : Reads (findRoom target) := by
      unfold findRoom
      split <;> exact .query _
    have found : Ensures Housed Housed (db StoreError.display (findRoom target)) fun result h =>
        Housed h ∧ ∀ room, result = some room → Present h room.id :=
      finds_present reads fun _ _ _ ran => findRoom_present ran
    refine housing_iff.mpr fun h housed => (found.bind (R := fun _ _ => True) ?_ h housed).1
    intro room
    cases room with
    | none => exact .ret fun _ holds => ⟨holds.1, trivial⟩
    | some room =>
        exact (enterRoom_keeps room auth).conseq (fun _ holds => ⟨holds.1, holds.2 room rfl⟩)
          fun _ _ => id

theorem handleChangeToRoom_keeps (roomId : RoomId) :
    housing.holds (handleChangeToRoom session roomId) := by
  apply housing.withGuestAuth
  intro auth
  have found : Ensures Housed Housed (db StoreError.display (RoomStore.getById roomId))
      fun result h => Housed h ∧ ∀ room, result = some room → Present h room.id :=
    finds_present (.query _) fun _ _ _ ran => (getById_present ran).2
  refine housing_iff.mpr fun h housed => (found.bind (R := fun _ _ => True) ?_ h housed).1
  intro room
  cases room with
  | none => exact .ret fun _ holds => ⟨holds.1, trivial⟩
  | some room =>
      exact (enterRoom_keeps room auth).conseq (fun _ holds => ⟨holds.1, holds.2 room rfl⟩)
        fun _ _ => id

/-! ## G -/

theorem present_invariant (ids : List RoomId) :
    Invariant (fun h => ∀ id ∈ ids, Present h id) has where
  aside h s present aside _ id mem := by
    show (s.db.rooms.get? id).isSome
    rw [aside.rooms]
    exact present id mem
  lift h s user present _ wrote id mem := by
    show (s.db.rooms.get? id).isSome
    rw [wrote]
    exact present id mem
  quiet _ _ present _ := present
  powered powered free h present id mem :=
    effect_rooms (powered_effect powered h.store) free.2.2.2 id (present id mem)
  patch user status level _ _ h present id mem := by
    have effect := (update_effect user none status level none h.store).2
    show ((UserStore.update user none status level none h.store).2.db.rooms.get? id).isSome
    rcases effect with kept | ⟨row, -, wrote⟩
    · rw [kept]
      exact present id mem
    · rw [wrote]
      exact present id mem
  bind free := absurd rfl free.1
  hold _ _ _ _ _ _ present := present
  guest free := absurd rfl free.2.1
  move free := absurd rfl free.2.2.1
  draft _ _ _ _ _ present := present
  conclude _ _ _ _ present := present

/-- Handlers that lose none of `ids` either. -/
abbrev walking (ids : List RoomId) : Conduct := (housed_invariant.and (present_invariant ids)).conduct

theorem walks {ids : List RoomId} {id : RoomId} (mem : id ∈ ids) :
    (walking ids).holds (setCurrentRoom session id) :=
  Discipline.keeping_iff.mpr fun _ holds => ⟨move_keeps holds.1 (holds.2 id mem), holds.2⟩

theorem tryRooms_keeps {ids : List RoomId} {auth : Auth} (here : auth.roomId ∈ ids)
    {rooms : List Room} (among : ∀ room ∈ rooms, room.id ∈ ids) (moved : Bool) :
    (walking ids).holds (tryRooms session auth rooms moved) := by
  have show_ : (walking ids).has .show := show has .show by simp [has]
  induction rooms generalizing moved with
  | nil => exact (walking ids).seq ((walking ids).onlyIf (walks here)) fun _ => (walking ids).reply _
  | cons room rest ih =>
      have ih := ih fun room mem => among room (List.mem_cons_of_mem _ mem)
      unfold tryRooms
      apply (walking ids).ite
      · exact fun _ => ih moved
      · intro _
        apply (walking ids).seq ((walking ids).unreadIn auth room.id)
        intro unread
        apply (walking ids).ite
        · intro _
          apply (walking ids).seq (walks (among room List.mem_cons_self))
          intro _
          apply (walking ids).seq ((walking ids).seq ((walking ids).handleReadNew show_ session)
            fun _ => (walking ids).reply _)
          intro response
          cases response with
          | none => exact ih true
          | some response => exact (walking ids).reply _
        · exact fun _ => ih moved

theorem startingAfter_mem {rooms : List Room} {current : RoomId} {room : Room}
    (h : room ∈ startingAfter rooms current) : room ∈ rooms := by
  rcases List.mem_append.mp h with late | early
  · exact List.mem_of_mem_drop late
  · exact List.mem_of_mem_take early

theorem walkFrom_mem {fuel : Nat} {rooms ordered left : List Room} {id : RoomId}
    (h : RoomStore.walkFrom fuel rooms id = .ok (ordered, left)) {room : Room}
    (mem : room ∈ ordered ++ left) : room ∈ rooms := by
  induction fuel generalizing rooms ordered left id with
  | zero => cases h
  | succ fuel ih =>
      unfold RoomStore.walkFrom at h
      split at h
      · cases h
      · next head found =>
        have first := List.mem_of_find?_eq_some found
        have others {r : Room} (mem : r ∈ rooms.filter fun r => r.id ≠ id) : r ∈ rooms :=
          (List.mem_filter.mp mem).1
        dsimp only at h
        split at h
        · cases h
          rcases List.mem_append.mp mem with one | rest
          · rw [List.mem_singleton.mp one]
            exact first
          · exact others rest
        · next next _ =>
          rcases walked : RoomStore.walkFrom fuel (rooms.filter fun r => r.id ≠ id) next with e | r
          · rw [walked] at h
            cases h
          · rw [walked] at h
            cases h
            rcases List.mem_cons.mp mem with rfl | later
            · exact first
            · exact others (ih walked later)

theorem inOrder_mem {rooms ordered : List Room} (h : RoomStore.inOrder rooms = .ok ordered)
    {room : Room} (mem : room ∈ ordered) : room ∈ rooms := by
  unfold RoomStore.inOrder at h
  split at h
  · cases h
    exact mem
  · next head _ =>
    rcases walked : RoomStore.walkFrom rooms.length rooms head.id with e | r
    · rw [walked] at h
      cases h
    · rw [walked] at h
      cases h
      exact walkFrom_mem walked mem

theorem listReadable_present {level : PermissionLevel} {s s' : Storage} {rooms : List Room}
    (h : RoomStore.listReadable level s = (.ok rooms, s')) {room : Room} (mem : room ∈ rooms) :
    (s.db.rooms.get? room.id).isSome := by
  obtain ⟨listed, s₁, walked, rest⟩ := Program.bind_eq_ok h
  obtain ⟨all, s₂, read, ordered⟩ := Program.bind_eq_ok walked
  cases rest
  have all_ := (query_ok read).1
  have mem := (List.mem_filter.mp mem).1
  rcases sorted : RoomStore.inOrder all with e | ordered_
  · rw [sorted] at ordered
    cases ordered
  · rw [sorted] at ordered
    cases ordered
    have mem := inOrder_mem sorted mem
    rw [all_] at mem
    obtain ⟨r, stored, rfl⟩ := List.mem_map.mp mem
    show (s.db.rooms.get? r.1).isSome
    rw [(s.db.rooms.mem_rows_iff r.1 r.2).mp stored]
    rfl

theorem roomsFor_present (auth : Auth) : Ensures Housed Housed (roomsFor auth) fun rooms h =>
    Housed h ∧ ∀ room ∈ rooms, Present h room.id := by
  have listed : Ensures Housed Housed (db StoreError.display (RoomStore.listReadable auth.level))
      fun rooms h => Housed h ∧ ∀ room ∈ rooms, Present h room.id := by
    intro h housed
    have same := (Reads.listReadable auth.level h.store).1
    rcases ran : RoomStore.listReadable auth.level h.store with ⟨r, s⟩
    rw [ran] at same
    have housed' : Housed { h with store := s } := housed.same_rooms (congrArg (·.rooms) same)
    cases r with
    | error e =>
        rw [db_error ran]
        exact ⟨housed', nofun⟩
    | ok rooms =>
        rw [db_ok ran]
        refine ⟨housed', fun rooms' eq => ⟨housed', fun room mem => ?_⟩⟩
        cases eq
        show (s.db.rooms.get? room.id).isSome
        rw [show s.db = _ from same]
        exact listReadable_present ran mem
  apply listed.bind
  intro all
  apply Ensures.bind (Q := fun _ h => Housed h ∧ ∀ room ∈ all, Present h room.id)
    (.gets fun _ holds => ⟨holds.1, holds⟩)
  intro guestRoom
  refine Ensures.ret fun h holds => ⟨holds.1, holds.1, fun room mem => holds.2 room ?_⟩
  split at mem
  · exact (List.mem_filter.mp mem).1
  · exact mem

/-- Whoever is served stands in a room of the table. -/
theorem auth_present {session : SessionId} : Ensures Housed Housed (sessionAuthOrGuest session)
    fun result h => Housed h ∧ ∀ auth, result = .ok auth → Present h auth.roomId := by
  intro h housed
  obtain ⟨refreshed, served⟩ := sessionAuthOrGuest_spec session h
  have housed' := housing_iff.mp (housing.sessionAuthOrGuest session) h housed
  refine ⟨housed', fun result returned => ⟨housed', fun auth eq => ?_⟩⟩
  rw [eq] at returned
  obtain ⟨r, known, found, name, -, room, -⟩ := served auth returned
  show (RowTable.get? (BbsHost.store _).db.rooms auth.roomId).isSome
  rw [refreshed.db, ← room]
  exact housed.sessions session r found (by rw [name]; rfl)

theorem huntUnread_keeps {auth : Auth} {rooms : List Room} :
    (walking (auth.roomId :: rooms.map (·.id))).holds (huntUnread session auth rooms) := by
  apply tryRooms_keeps List.mem_cons_self
  intro room mem
  exact List.mem_cons_of_mem _ (List.mem_map_of_mem (startingAfter_mem mem))

theorem searchRooms_keeps (session : SessionId) (auth : Auth) (rooms : List Room) :
    (walking (auth.roomId :: rooms.map (·.id))).holds (do
      match rooms.find? fun r => r.id = auth.roomId with
      | none => huntUnread session auth rooms
      | some room => do
          let unread ← unreadIn auth auth.roomId
          if 0 < unread then do
            let response ← readNewUnlessEmpty session room
            match response with
            | some response => pure response
            | none => huntUnread session auth rooms
          else huntUnread session auth rooms) := by
  have show_ : (walking (auth.roomId :: rooms.map (·.id))).has .show := show has .show by simp [has]
  split
  · exact huntUnread_keeps
  · apply (walking _).seq ((walking _).unreadIn auth auth.roomId)
    intro unread
    apply (walking _).ite
    · intro _
      apply (walking _).seq ((walking _).seq ((walking _).handleReadNew show_ session)
        fun _ => (walking _).reply _)
      intro response
      cases response with
      | none => exact huntUnread_keeps
      | some response => exact (walking _).reply _
    · exact fun _ => huntUnread_keeps

theorem handleGoNextUnread_keeps : housing.holds (handleGoNextUnread session) := by
  refine housing_iff.mpr fun h housed => (auth_present.bind (R := fun _ _ => True) ?_ h housed).1
  intro auth
  cases auth with
  | error r => exact .ret fun _ holds => ⟨holds.1, trivial⟩
  | ok auth =>
      have listed : Ensures Housed (fun h => Housed h ∧ Present h auth.roomId) (roomsFor auth)
          fun rooms h => Housed h ∧ ∀ id ∈ auth.roomId :: rooms.map (·.id), Present h id := by
        rintro h ⟨housed, here⟩
        obtain ⟨housed', rooms⟩ := roomsFor_present auth h housed
        have stays := Discipline.keeping_iff.mp ((walking [auth.roomId]).roomsFor auth) h
          ⟨housed, fun id mem => by rw [List.mem_singleton.mp mem]; exact here⟩
        refine ⟨housed', fun rooms_ eq => ⟨housed', fun id mem => ?_⟩⟩
        rcases List.mem_cons.mp mem with rfl | among
        · exact stays.2 _ List.mem_cons_self
        · obtain ⟨room, listed, rfl⟩ := List.mem_map.mp among
          exact (rooms rooms_ eq).2 room listed
      have walk := listed.bind (R := fun _ _ => True) fun rooms h holds =>
        ⟨(Discipline.keeping_iff.mp (searchRooms_keeps session auth rooms) h holds).1,
          fun _ _ => trivial⟩
      exact walk.conseq (fun _ holds => ⟨holds.1, holds.2 auth rfl⟩) fun _ _ => id

end Handlers

end SupplyDrop.Proof.RoomsExist
