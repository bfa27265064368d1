import Mathlib
import SupplyDrop.Library.Run
import SupplyDrop.Proof.RoomsExist.Moves

namespace SupplyDrop.Proof.RoomsExist
open Library Library.Program Store Host

section Handlers
variable {session : SessionId}

/-! ## The guest room -/

theorem guest_keeps {roomId : Option RoomId} {h : BbsHost} (housed : Housed h)
    (present : ∀ id, roomId = some id → Present h id) : Housed (setGuestRoomId roomId h).2 :=
  ⟨housed.lobby, present, housed.sessions⟩

theorem clearGuestRoom_keeps : housing.holds (setGuestRoomId none) :=
  housing_iff.mpr fun _ housed => guest_keeps housed nofun

theorem finds_present_try {m : StoreM (Option Room)} (reads : Reads m)
    (found : ∀ s room s', m s = (.ok (some room), s') → (s.db.rooms.get? room.id).isSome) :
    Ensures Housed Housed (tryDb m) fun result h =>
      Housed h ∧ ∀ room, result = .ok (some room) → Present h room.id := by
  intro h housed
  have same := (reads h.store).1
  rcases ran : m h.store with ⟨r, s⟩
  rw [ran] at same
  rw [tryDb_of ran]
  have housed' : Housed { h with store := s } := housed.same_rooms (congrArg (·.rooms) same)
  refine ⟨housed', fun result eq => ⟨housed', fun room some_ => ?_⟩⟩
  cases eq
  rw [some_] at ran
  show (s.db.rooms.get? room.id).isSome
  rw [show s.db = _ from same]
  exact found h.store room s ran

/-- The room of guests is set to a room that was just found. -/
theorem settles {room : Room} : Ensures Housed (fun h => Housed h ∧ Present h room.id) (do
    setGuestRoomId (some room.id)
    pure (.ok ()) : HostM (Except String Unit)) fun _ _ => True := by
  have set : Ensures Housed (fun h => Housed h ∧ Present h room.id) (setGuestRoomId (some room.id))
      fun _ => Housed := by
    rintro h ⟨housed, present⟩
    have kept : Housed (setGuestRoomId (some room.id) h).2 := by
      apply guest_keeps housed
      intro id eq
      cases eq
      exact present
    exact ⟨kept, fun _ _ => kept⟩
  exact set.bind fun _ => .ret fun _ housed => ⟨housed, trivial⟩

theorem fetchGuestRoom_keeps (roomId : RoomId) : housing.holds (fetchGuestRoom roomId) := by
  have whole : Ensures Housed Housed (fetchGuestRoom roomId) fun _ _ => True := by
    apply (finds_present_try (.query _) fun _ _ _ ran => (getById_present ran).2).bind
    intro fetched
    split
    · exact .ret fun _ holds => ⟨holds.1, trivial⟩
    · exact .ret fun _ holds => ⟨holds.1, trivial⟩
    · next room =>
      exact settles.conseq (fun _ holds => ⟨holds.1, holds.2 room rfl⟩) fun _ _ => id
  exact housing_iff.mpr fun h housed => (whole h housed).1

theorem ensureGuestRoom_keeps : housing.holds ensureGuestRoom := by
  have rooms : housing.has .rooms := show has .rooms by simp [has]
  apply housing.seq (housing.peek _)
  intro name
  cases name with
  | none => exact housing.reply _
  | some name =>
      have create : housing.holds (createGuestRoom name) := by
        apply housing.seq housing.now
        intro now
        apply housing.seq (housing.tryUse (.createRoom _ _ _ _ _) rooms)
        intro created
        split
        · exact housing.reply _
        · exact fetchGuestRoom_keeps _
      have found : Ensures Housed Housed (tryDb (RoomStore.getByName name)) fun result h =>
          Housed h ∧ ∀ room, result = .ok (some room) → Present h room.id :=
        finds_present_try (.query _) fun _ _ _ ran => getByName_present ran
      refine housing_iff.mpr fun h housed => (found.bind (R := fun _ _ => True) ?_ h housed).1
      intro result
      split
      · exact .ret fun _ holds => ⟨holds.1, trivial⟩
      · next room =>
        exact settles.conseq (fun _ holds => ⟨holds.1, holds.2 room rfl⟩) fun _ _ => id
      · exact fun h holds => ⟨housing_iff.mp create h holds.1, fun _ _ => trivial⟩

/-! ## Deleting a room -/

/-- Nobody who is logged in stands there, and guests do not land there. -/
structure Vacant (h : BbsHost) (id : RoomId) : Prop where
  lobby : id ≠ Store.lobby
  guestRoom : h.guestRoomId ≠ some id
  sessions : ∀ session r, h.sessions.get? session = some r → r.username.isSome → r.currentRoom ≠ id

theorem deleteRoom_others {id other : RoomId} {s : Storage} (distinct : other ≠ id)
    (present : (s.db.rooms.get? other).isSome) :
    ((RoomStore.delete id s).2.db.rooms.get? other).isSome := by
  rcases ran : RoomStore.delete id s with ⟨r, s'⟩
  cases r with
  | error e =>
      have kept := transaction_error (congrArg Prod.fst ran)
      rw [show transaction _ s = _ from ran] at kept
      rw [show s'.db = s.db from kept]
      exact present
  | ok u =>
      obtain ⟨rooms, state, same, wrote⟩ := deleteRoom_ok ran
      rw [show s'.db = _ from wrote]
      show (rooms.get? other).isSome
      rw [same.isSome, RowTable.get?_erase, if_neg distinct]
      exact present

theorem delete_keeps {id : RoomId} {h : BbsHost} (housed : Housed h) (vacant : Vacant h id) :
    Housed { h with store := (RoomStore.delete id h.store).2 } where
  lobby := deleteRoom_others (Ne.symm vacant.lobby) housed.lobby
  guestRoom other guest := by
    apply deleteRoom_others ?_ (housed.guestRoom other guest)
    rintro rfl
    exact vacant.guestRoom guest
  sessions session r found named := by
    apply deleteRoom_others ?_ (housed.sessions session r found named)
    exact vacant.sessions session r found named

/-- The session, or its account, is a Sysop. -/
def Commands (h : BbsHost) (session : SessionId) : Prop :=
  ∃ r id, h.sessions.get? session = some r ∧ r.userId = some id ∧
    (r.level = .sysop ∨ ∃ row, h.store.db.users.get? id = some row ∧ row.permissionLevel = .sysop)

/-- The room that `.DR name` deletes, unless it is one of the three the command protects. -/
def Named (h : BbsHost) (name : String) (id : RoomId) : Prop :=
  isSystemRoom id = false ∧
    (h.store.db.rooms.rows.find? fun r => Text.eqIgnoreAsciiCase r.2.name name).map (·.1) = some id

/-- What is asked of a command that a session types. -/
def Safe (session : SessionId) (cmd : Command) (h : BbsHost) : Prop :=
  match cmd with
  | .deleteRoom name => Commands h session → ∀ id, Named h name id → Vacant h id
  | _ => True

theorem commands_of_served {h : BbsHost} {auth : Auth} (served : Served h session auth)
    (sysop : .sysop ≤ auth.level) : Commands h session := by
  obtain ⟨r, known, found, -, id, -, known_, level⟩ := served
  have known_sysop : known = .sysop := by
    rcases level with same | ⟨-, -, user⟩
    · rw [same] at sysop
      exact le_antisymm (le_sysop known) sysop
    · rw [user] at sysop
      exact absurd sysop (by decide)
  refine ⟨r, auth.userId, found, id, ?_⟩
  rcases known_ with ⟨row, stored, level⟩ | ⟨-, level⟩
  · exact .inr ⟨row, stored, level.symm.trans known_sysop⟩
  · exact .inl (level.symm.trans known_sysop)

theorem vacant_refreshed {h h' : BbsHost} {id : RoomId} (vacant : Vacant h id)
    (refreshed : Refreshed session h h') : Vacant h' id where
  lobby := vacant.lobby
  guestRoom := by
    rw [refreshed.guestRoom]
    exact vacant.guestRoom
  sessions := by
    intro i r' found named
    obtain ⟨r, before, eq, -⟩ := refreshed.sessions i r' found
    rw [eq] at named ⊢
    exact vacant.sessions i r before named

theorem refreshed_housed {h h' : BbsHost} (housed : Housed h)
    (refreshed : Refreshed session h h') : Housed h' where
  lobby := by
    show (h'.store.db.rooms.get? Store.lobby).isSome
    rw [refreshed.db]
    exact housed.lobby
  guestRoom := by
    intro id guest
    show (h'.store.db.rooms.get? id).isSome
    rw [refreshed.db]
    exact housed.guestRoom id (refreshed.guestRoom.symm.trans guest)
  sessions := by
    intro i r' found named
    obtain ⟨r, before, eq, -⟩ := refreshed.sessions i r' found
    show (h'.store.db.rooms.get? r'.currentRoom).isSome
    rw [eq] at named ⊢
    rw [refreshed.db]
    exact housed.sessions i r before named

/-- What `.DR name` comes to, where a Sysop asks for it. -/
theorem handleDeleteRoom_razes {J : BbsHost → Prop} {powers : Power → Prop} (inv : Invariant J powers)
    (name : String) (h : BbsHost) (refresh : ∀ h', Refreshed session h h' → J h')
    (razes : Commands h session → ∀ id, Named h name id → ∀ h' s, Refreshed session h h' →
      s.db = h'.store.db → J { h' with store := (RoomStore.delete id s).2 }) :
    J (handleDeleteRoom session name h).2 := by
  apply privileged_spec refresh
  intro auth h' refreshed served sysop
  have same := (Reads.query (fun db => (db.rooms.rows.find? fun r =>
    Text.eqIgnoreAsciiCase r.2.name name).map fun r => mapRoomRow r.1 r.2) h'.store)
  rw [Program.bind_apply]
  rcases read : RoomStore.getByName name h'.store with ⟨r, s⟩
  rw [show query _ h'.store = _ from read] at same
  have kept : J { h' with store := s } :=
    refresh _ (refreshed.reads same.1 same.2)
  cases r with
  | error e =>
      rw [db_error read]
      exact kept
  | ok room =>
      rw [db_ok read]
      cases room with
      | none => exact kept
      | some room =>
          dsimp only
          split
          · exact kept
          · next other =>
            have named : Named h name room.id := by
              have found := (query_ok read).1
              refine ⟨by simpa using other, ?_⟩
              rw [refreshed.db] at found
              obtain ⟨r, first, eq⟩ := Option.map_eq_some_iff.mp found.symm
              rw [first, ← eq]
              rfl
            have deleted := razes (commands_of_served served sysop) room.id named h' s refreshed same.1
            have razed : Ensures J (fun h => h = { h' with store := s })
                (db (failed "delete room") (RoomStore.delete room.id)) fun _ => J := by
              rintro h rfl
              exact ⟨deleted, fun _ _ => deleted⟩
            have rest : inv.conduct.holds (do
                audit auth.username.text "delete_room" (some name) none
                pure (.text s!"Room '{name}' deleted.") : HostM Response) :=
              inv.conduct.seq (inv.conduct.audit _ _ _ _) fun _ => inv.conduct.reply _
            have whole := razed.bind fun _ => .ofKeeps (Discipline.keeping_iff.mp rest)
            exact (whole _ rfl).1

theorem handleDeleteRoom_keeps (name : String) (h : BbsHost) (housed : Housed h)
    (safe : Safe session (.deleteRoom name) h) : Housed (handleDeleteRoom session name h).2 := by
  apply handleDeleteRoom_razes housed_invariant name h
  · exact fun h' refreshed => refreshed_housed housed refreshed
  · intro sysop id named h' s refreshed same
    have housed' : Housed { h' with store := s } :=
      (refreshed_housed housed refreshed).same_rooms (congrArg (·.rooms) same)
    have vacant := vacant_refreshed (safe sysop id named) refreshed
    exact delete_keeps housed' ⟨vacant.lobby, vacant.guestRoom, vacant.sessions⟩

/-! ## What is still true when the command is looked at -/

theorem commands_aside {h : BbsHost} {s : Storage} (aside : Aside h.store.db s.db)
    (commands : Commands { h with store := s } session) : Commands h session := by
  obtain ⟨r, id, found, user, cached | ⟨row, stored, level⟩⟩ := commands
  · exact ⟨r, id, found, user, .inl cached⟩
  · obtain ⟨row₀, before, eq⟩ := aside.before stored
    have level₀ : row₀.permissionLevel = row.permissionLevel := congrArg (·.2.1) eq
    exact ⟨r, id, found, user, .inr ⟨row₀, before, level₀.trans level⟩⟩

theorem commands_lift {h : BbsHost} {s : Storage} {user : UserId}
    (wrote : s.db = { h.store.db with
      users := h.store.db.users.update user (UserStore.reactivate h.store.now) })
    (commands : Commands { h with store := s } session) : Commands h session := by
  obtain ⟨r, id, found, user', cached | ⟨row, stored, level⟩⟩ := commands
  · exact ⟨r, id, found, user', .inl cached⟩
  · refine ⟨r, id, found, user', .inr ?_⟩
    obtain ⟨row₀, before, rfl | ⟨-, rfl⟩⟩ := reactivated_row wrote stored
    · exact ⟨row, before, level⟩
    · exact ⟨row₀, before, level⟩

theorem commands_ready {h : BbsHost} {m : Memory} (ready : Ready h.toMemory m)
    (commands : Commands { h with toMemory := m } session) : Commands h session := by
  obtain ⟨r', id, found, user, level⟩ := commands
  obtain ⟨r, before, subdued⟩ := ready.sessions session r' found
  rw [subdued.same] at user level
  exact ⟨r, id, before, user, level⟩

theorem named_same {h : BbsHost} {s : Storage} {name : String} {id : RoomId}
    (rooms : s.db.rooms = h.store.db.rooms) (named : Named { h with store := s } name id) :
    Named h name id := by
  obtain ⟨other, found⟩ := named
  refine ⟨other, ?_⟩
  rw [← rooms]
  exact found

theorem safe_of {h h' : BbsHost} {cmd : Command} (safe : Safe session cmd h)
    (commands : Commands h' session → Commands h session)
    (named : ∀ name id, Named h' name id → Named h name id)
    (vacant : ∀ id, Vacant h id → Vacant h' id) : Safe session cmd h' := by
  unfold Safe at safe ⊢
  split
  · exact fun sysop id there => vacant id (safe (commands sysop) id (named _ id there))
  · trivial

theorem lasting_safe (cmd : Command) : Lasting fun h => Housed h ∧ Safe session cmd h where
  aside h s holds aside _ := by
    refine ⟨holds.1.same_rooms aside.rooms, safe_of holds.2 (commands_aside aside) ?_ fun _ vacant => ?_⟩
    · exact fun _ _ => named_same aside.rooms
    · exact ⟨vacant.lobby, vacant.guestRoom, vacant.sessions⟩
  lift h s user holds _ wrote := by
    have rooms : s.db.rooms = h.store.db.rooms := congrArg (·.rooms) wrote
    refine ⟨holds.1.same_rooms rooms, safe_of holds.2 (commands_lift wrote) ?_ fun _ vacant => ?_⟩
    · exact fun _ _ => named_same rooms
    · exact ⟨vacant.lobby, vacant.guestRoom, vacant.sessions⟩
  ready h m holds ready := by
    refine ⟨holds.1.quiet ready.quiet, safe_of holds.2 (commands_ready ready)
      (fun _ _ named => named) fun _ vacant => ?_⟩
    refine ⟨vacant.lobby, ?_, fun i r' found named => ?_⟩
    · rw [show m.guestRoomId = _ from ready.guestRoom]
      exact vacant.guestRoom
    · obtain ⟨r, before, subdued⟩ := ready.sessions i r' found
      rw [subdued.same] at named ⊢
      exact vacant.sessions i r before named

/-! ## Commands -/

theorem dispatch_keeps {onReply : SessionId → String → HostM Response} (cmd : Command)
    (h : BbsHost) (fresh : ∀ text, cmd ≠ .workflowReply text) (housed : Housed h)
    (safe : Safe session cmd h) : Housed (dispatch onReply session cmd h).2 := by
  have hold : housing.has .hold := show has .hold by simp [has]
  have keeps (holds : housing.holds (dispatch onReply session cmd)) :
      Housed (dispatch onReply session cmd h).2 := housing_iff.mp holds h housed
  have other (ordinary : ∀ p ∈ Conduct.takes cmd, has p) :
      Housed (dispatch onReply session cmd h).2 :=
    keeps (housing.dispatch ordinary fun text same => absurd same (fresh text))
  cases cmd with
  | registerOneShot username password =>
      exact keeps (housing.handleRegisterOneshot createUserAndLogin_keeps username password)
  | loginOneShot username password =>
      exact keeps (housing.handleLoginOneshot finalizeLogin_keeps hold username password)
  | goNextUnread => exact keeps handleGoNextUnread_keeps
  | changeRoom target => exact keeps (handleChangeRoom_keeps target)
  | goMail => exact keeps (handleChangeToRoom_keeps mail)
  | deleteRoom name => exact handleDeleteRoom_keeps name h housed safe
  | setGuestRoom name =>
      exact keeps (housing.handleSetGuestRoom clearGuestRoom_keeps ensureGuestRoom_keeps session name)
  | _ => exact other (by simp [Conduct.takes, has])

theorem dispatchReply_keeps (workflow : Workflow) (reply : String) (h : BbsHost)
    (unlisted : ∀ roomIds next, workflow ≠ .rooms roomIds next) (housed : Housed h) :
    Housed (dispatchReply processFresh session workflow reply h).2 := by
  have hold : housing.has .hold := show has .hold by simp [has]
  have keeps (holds : housing.holds (dispatchReply processFresh session workflow reply)) :
      Housed (dispatchReply processFresh session workflow reply h).2 := housing_iff.mp holds h housed
  have other (ordinary : ∀ p ∈ Conduct.takesReply workflow, has p) :
      Housed (dispatchReply processFresh session workflow reply h).2 :=
    keeps (housing.dispatchReply (fun roomIds next same => (unlisted roomIds next same).elim)
      ordinary reply)
  cases workflow with
  | register username stage =>
      exact keeps (housing.registerReply createUserAndLogin_keeps username stage reply)
  | login username attempts =>
      exact keeps (housing.loginReply finalizeLogin_keeps hold username attempts reply)
  | forceChangePassword username userId stage =>
      have pardon : housing.has .pardon := show has .pardon by simp [has]
      exact keeps (housing.forceChangeReply finalizeLogin_keeps hold pardon username userId stage reply)
  | rooms roomIds next => exact absurd rfl (unlisted roomIds next)
  | _ =>
      exact other (by simp [Conduct.takesReply, has])

theorem processCommand_keeps (cmd : Command) (h : BbsHost) (housed : Housed h)
    (safe : ∀ c, Asks h session cmd c → Safe session c h) :
    Housed (processCommand session cmd h).2 := by
  have hold : housing.has .hold := show has .hold by simp [has]
  apply housed_invariant.command lasting_safe ?_ ?_ ?_ ?_ h housed safe
  · exact fun target => housing_iff.mp (handleChangeRoom_keeps target)
  · exact fun c onReply h fresh housed safe => dispatch_keeps c h fresh housed safe
  · exact fun workflow reply h _ unlisted _ housed _ =>
      dispatchReply_keeps workflow reply h unlisted housed
  · exact fun escape h housed _ => housing_iff.mp
      (housing.restartAuth createUserAndLogin_keeps finalizeLogin_keeps hold escape) h housed

/-! ## Requests -/

/-- The room that a request of a Sysop deletes, unless it is one of the five that are protected. -/
def Razes (h : BbsHost) (username : String) (request : WebRequest) (id : RoomId) : Prop :=
  request = .deleteRoom id ∧ 5 < id ∧ ∃ caller, CallerOf h username caller ∧
    caller.permissionLevel = .sysop

theorem adminDeleteRoom_keeps (roomId : RoomId) (h : BbsHost) (housed : Housed h)
    (vacant : 5 < roomId → Vacant h roomId) : Housed (adminDeleteRoom roomId h).2 := by
  unfold adminDeleteRoom
  split
  · exact housed
  · next other =>
    have deleted : Ensures Housed (fun h => Housed h ∧ Vacant h roomId)
        (tryDb (RoomStore.delete roomId)) fun _ => Housed :=
      fun h holds => ⟨delete_keeps holds.1 holds.2, fun _ _ => delete_keeps holds.1 holds.2⟩
    refine (deleted.bind (R := fun _ _ => True) ?_ h ⟨housed, vacant (not_le.mp other)⟩).1
    intro result
    split
    · exact .ret fun _ housed => ⟨housed, trivial⟩
    · exact .ret fun _ housed => ⟨housed, trivial⟩
    · exact .fail fun _ => id

theorem serve_keeps (username : String) (request : WebRequest) (h : BbsHost) (housed : Housed h)
    (vacant : ∀ id, Razes h username request id → Vacant h id) :
    Housed (serve username request h).2 := by
  have stable : Stable fun h' => Housed h' ∧ ∀ id, Razes h username request id → Vacant h' id :=
    { aside := fun h' s holds aside _ => ⟨holds.1.same_rooms aside.rooms, fun id razes =>
        ⟨(holds.2 id razes).lobby, (holds.2 id razes).guestRoom, (holds.2 id razes).sessions⟩⟩
      lift := fun h' s user holds _ wrote => ⟨holds.1.same_rooms (by rw [wrote]), fun id razes =>
        ⟨(holds.2 id razes).lobby, (holds.2 id razes).guestRoom, (holds.2 id razes).sessions⟩⟩ }
  apply stable.serve (fun _ holds => holds.1) ⟨housed, vacant⟩
  rintro caller h' known ⟨housed', vacant'⟩
  have keeps (holds : housing.holds (handleRequest caller request)) :
      Housed (handleRequest caller request h').2 := housing_iff.mp holds h' housed'
  have other (ordinary : ∀ p ∈ Conduct.takesRequest request, has p) :
      Housed (handleRequest caller request h').2 := keeps (housing.handleRequest ordinary)
  cases request with
  | deleteRoom roomId =>
      show Housed (apiDeleteRoom caller roomId h').2
      unfold apiDeleteRoom sysopOnly
      split
      · exact housed'
      · next sysop =>
        have vacant_ (high : 5 < roomId) : Vacant h' roomId :=
          vacant' roomId ⟨rfl, high, caller, known, le_antisymm (le_sysop _) (not_lt.mp sysop)⟩
        apply Stable.keeps_onResult (adminDeleteRoom_keeps roomId h' housed' vacant_)
        intro deleted
        apply housing_iff.mp
        exact housing.ite (fun _ => housing.seq (housing.webAudit _ _ _ _) fun _ =>
          housing.reply _) fun _ => housing.reply _
  | updateUser target body =>
      apply other
      intro p mem
      simp only [Conduct.takesRequest, List.mem_append] at mem
      rcases mem with standing | level
      · split at standing
        · rw [List.mem_singleton.mp standing]
          simp [has]
        · cases standing
      · split at level
        · rw [List.mem_singleton.mp level]
          simp [has]
        · cases level
  | patchAccessPolicy patch =>
      apply keeps
      apply housing.apiPatchAccessPolicy
      exact fun name _ => housing.adminSetGuestRoom clearGuestRoom_keeps ensureGuestRoom_keeps name
  | _ => exact other (by simp [Conduct.takesRequest, has])

end Handlers

/-! ## Runs -/

/-- A room is deleted only where nobody who is logged in stands and guests do not land. -/
def Allowed (input : Input) (h : BbsHost) : Prop :=
  match input with
  | .command session cmd => ∀ c, Asks h session cmd c → Safe session c h
  | .request username request => ∀ id, Razes h username request id → Vacant h id
  | _ => True

def step (input : Input) (h h' : BbsHost) : Prop := h' = deliver h input

theorem housed_next {input : Input} {h : BbsHost} (housed : Housed h) (allowed : Allowed input h) :
    Housed (deliver h input) := by
  have keeps {α : Type} {m : HostM α} (holds : housing.holds m) : Housed (m h).2 :=
    housing_iff.mp holds h housed
  cases input with
  | connect transport => exact keeps (housing.open_ transport)
  | disconnect session => exact keeps (housing.close (show has .close from ⟨nofun, nofun, nofun, nofun⟩) session)
  | command session cmd => exact processCommand_keeps cmd h housed allowed
  | restoreNode session pubkey ttlDays => exact keeps (meshNodeRestore_keeps pubkey ttlDays)
  | bindNode session pubkey => exact keeps (housing.meshNodeBind session pubkey)
  | unbindNode pubkey => exact keeps (housing.meshNodeUnbind pubkey)
  | request username request => exact serve_keeps username request h housed allowed
  | elapse now clock faults => exact ⟨housed.lobby, housed.guestRoom, housed.sessions⟩

/-- From a host that nobody has called yet, with the lobby and its guest room in place, whatever is
asked of it, logged-in sessions stand in rooms of the table and guests land in one, as long as no
room is deleted that is in use so. -/
theorem rooms_exist {h h' : BbsHost} (nobody : ∀ session, h.sessions.get? session = none)
    (lobby : Present h Store.lobby) (guestRoom : ∀ id, h.guestRoomId = some id → Present h id)
    (run : Reaches step Allowed h h') : Housed h' := by
  have start : Housed h := by
    refine ⟨lobby, guestRoom, fun session r found _ => ?_⟩
    rw [nobody] at found
    cases found
  apply run.invariant start
  rintro input t _ housed allowed rfl
  exact housed_next housed allowed

theorem allowed_plain {session : SessionId} {cmd : Command} {h : BbsHost}
    (other : ∀ name, cmd ≠ .deleteRoom name) (fresh : ∀ text, cmd ≠ .workflowReply text) :
    Allowed (.command session cmd) h := by
  intro c asks
  rcases asks with rfl | ⟨reply, replied, -, -⟩
  · unfold Safe
    split
    · next name => exact absurd rfl (other name)
    · trivial
  · exact absurd replied (fresh reply)

theorem vacant_of_rows {h : BbsHost} {id : RoomId} (other : id ≠ lobby)
    (guestRoom : h.guestRoomId ≠ some id)
    (rows : ∀ r ∈ h.sessions.rows, r.2.username.isSome → r.2.currentRoom ≠ id) : Vacant h id where
  lobby := other
  guestRoom := guestRoom
  sessions session r found := rows (session, r) ((h.sessions.mem_rows_iff session r).mpr found)

/-- Alice, the Sysop, makes a room and deletes it again. -/
def denDeleted : List Input :=
  [.connect "telnet", .command 1 (.registerOneShot "alice" "password"), .command 1 (.createRoom "Den"),
    .command 1 (.deleteRoom "Den")]

theorem rooms_exist_den : Housed (denDeleted.foldl deliver (.fresh .fresh)) := by
  have vacant : Allowed (.command 1 (.deleteRoom "Den"))
      ((denDeleted.take 3).foldl deliver (.fresh .fresh)) := by
    rintro c (rfl | ⟨reply, replied, -, -⟩)
    · rintro - id ⟨-, named⟩
      have den : (((denDeleted.take 3).foldl deliver (.fresh .fresh)).store.db.rooms.rows.find?
          fun r => Text.eqIgnoreAsciiCase r.2.name "Den").map (·.1) = some 6 := by decide +kernel
      rw [den] at named
      cases named
      exact vacant_of_rows (by decide) (by decide +kernel) (by decide +kernel)
    · cases replied
  have follows : Reaches.Follows deliver Allowed denDeleted (.fresh .fresh) := by
    refine ⟨trivial, ?_, ?_, vacant, trivial⟩
    · exact allowed_plain nofun nofun
    · exact allowed_plain nofun nofun
  exact rooms_exist (h := .fresh .fresh) (fun _ => rfl) rfl nofun (Reaches.follow follows)

/-- The same while she stands in it. -/
def denLost : List Input :=
  [.connect "telnet", .command 1 (.registerOneShot "alice" "password"), .command 1 (.createRoom "Den"),
    .command 1 (.changeRoom "Den"), .command 1 (.deleteRoom "Den")]

theorem room_lost : ¬ ∀ h h' : BbsHost, (∀ session, h.sessions.get? session = none) →
    Present h lobby → (∀ id, h.guestRoomId = some id → Present h id) →
    Reaches step (fun _ _ => True) h h' → Housed h' := by
  intro claim
  have housed := claim (.fresh .fresh) _ (fun _ => rfl) rfl nofun
    (Reaches.follow_free deliver denLost (.fresh .fresh))
  have there : ((denLost.foldl deliver (.fresh .fresh)).sessions.get? 1).map
      (fun r => (r.username.isSome, r.currentRoom)) = some (true, 6) := by decide +kernel
  have gone : (denLost.foldl deliver (.fresh .fresh)).store.db.rooms.get? 6 = none := by
    decide +kernel
  obtain ⟨r, found, eq⟩ := Option.map_eq_some_iff.mp there
  have present := housed.sessions 1 r found (congrArg Prod.fst eq)
  rw [show r.currentRoom = 6 from congrArg Prod.snd eq, Present, gone] at present
  cases present

end SupplyDrop.Proof.RoomsExist
