import Mathlib
import SupplyDrop.Host.System
import SupplyDrop.Proof.LoginWalk

namespace SupplyDrop.Proof.LoginPaths
open Library Library.Program Store Host

/-! ## The ways to log in -/

inductive LoginPath where
  | oneShot (username : Username) (password : String)
  | interactive (username : Username) (attempts : Nat) (reply : String)
  | forcedChange (username : Username) (userId : UserId) (newPassword reply : String)
  | registerOneShot (rawUsername password : String)
  | registerConfirm (username : Username) (password reply : String)
  | restore (pubkey : PublicKey) (ttlDays : Nat)

def answered (m : HostM Response) : HostM (Option Username) := do
  let response ← m
  pure (loggedInAs response)

/-- As whom a path logs the session in, if it does. -/
def LoginPath.run (session : SessionId) : LoginPath → HostM (Option Username)
  | .oneShot username password => answered (handleLoginOneshot session username password)
  | .interactive username attempts reply => answered (loginReply session username attempts reply)
  | .forcedChange username userId newPassword reply =>
      answered (forceConfirmNew session username userId newPassword reply)
  | .registerOneShot rawUsername password =>
      answered (handleRegisterOneshot session rawUsername password)
  | .registerConfirm username password reply =>
      answered (Host.registerConfirm session username password reply)
  | .restore pubkey ttlDays => meshNodeRestore session pubkey ttlDays

/-! ## The session a login leaves -/

def landingRoom (guestRoom : Option RoomId) (level : PermissionLevel) : RoomId :=
  if level < .user then guestRoom.getD lobby else lobby

/-- The session is bound to the account `name`, with its level, and stands where one of that level
lands. -/
def LoggedIn (session : SessionId) (r : SessionRecord) (guestRoom : Option RoomId) (name : Username)
    (h : BbsHost) : Prop :=
  ∃ id row, h.store.db.users.get? id = some row ∧ row.username = name ∧
    h.sessions.get? session = some
      (r.bindTo name id row.permissionLevel (landingRoom guestRoom row.permissionLevel))

section Login
variable {session : SessionId} {r : SessionRecord} {guestRoom : Option RoomId}

/-- Nobody has logged in yet. -/
structure Waiting (session : SessionId) (r : SessionRecord) (guestRoom : Option RoomId)
    (h : BbsHost) : Prop where
  record : h.sessions.get? session = some r
  guestRoom : h.guestRoomId = guestRoom

/-- What is asked of a path: no condition on where it ends, and the session of a login when it
returns. -/
abbrev Gives {α : Type} (P : BbsHost → Prop) (m : HostM α) (R : α → BbsHost → Prop) : Prop :=
  Ensures (fun _ => True) P m R

variable (session r guestRoom) in
def Session (response : Response) (h : BbsHost) : Prop :=
  ∀ name, loggedInAs response = some name → LoggedIn session r guestRoom name h

variable (session r guestRoom) in
def Login (user : User) (h : BbsHost) : Prop := Waiting session r guestRoom h ∧ Known user h

theorem reply {P : BbsHost → Prop} {response : Response} (other : loggedInAs response = none) :
    Gives P (pure response : HostM Response) (Session session r guestRoom) := by
  apply Ensures.ret
  intro h _
  refine ⟨trivial, fun name logged => ?_⟩
  rw [other] at logged
  cases logged

theorem reply_after {α : Type} {P : BbsHost → Prop} {m : HostM α} {response : Response}
    (other : loggedInAs response = none) :
    Gives P (m >>= fun _ => pure response) (Session session r guestRoom) := by
  have anyway : Gives P m fun _ _ => True := fun _ _ => ⟨trivial, fun _ _ => trivial⟩
  exact anyway.bind fun _ => reply other

theorem looks {α : Type} {P : BbsHost → Prop} (f : BbsHost → α) :
    Gives P (Program.gets f : HostM α) fun a h => P h ∧ a = f h :=
  .gets fun _ holds => ⟨trivial, holds, rfl⟩

/-- An ordinary call keeps what a login goes by. -/
theorem calls {α : Type} {user : User} {describe : StoreError → String} {m : StoreM α}
    (h : Ordinary m) :
    Gives (Login session r guestRoom user) (db describe m) fun _ => Login session r guestRoom user := by
  rintro host ⟨waiting, known⟩
  obtain ⟨⟨aside, -⟩, -⟩ := ordinary_mild h host.store
  refine ⟨trivial, fun _ _ => ⟨⟨waiting.record, waiting.guestRoom⟩, ?_⟩⟩
  exact known_of_core known (aside.users user.id)

theorem waits {α : Type} {describe : StoreError → String} {m : StoreM α} :
    Gives (Waiting session r guestRoom) (db describe m) fun _ => Waiting session r guestRoom :=
  fun _ waiting => ⟨trivial, fun _ _ => ⟨waiting.record, waiting.guestRoom⟩⟩

theorem initialRoom_gives {P : BbsHost → Prop} (level : PermissionLevel)
    (waiting : ∀ h, P h → Waiting session r guestRoom h) :
    Gives P (initialRoom level) fun room h => P h ∧ room = landingRoom guestRoom level := by
  apply Ensures.gets
  intro h holds
  refine ⟨trivial, holds, ?_⟩
  show landingRoom h.guestRoomId level = landingRoom guestRoom level
  rw [(waiting h holds).guestRoom]

/-- The session is bound where it stands, as it is known to the host. -/
theorem binds {P : BbsHost → Prop} {f : SessionRecord → SessionRecord}
    (waiting : ∀ h, P h → Waiting session r guestRoom h) :
    Gives P (onKnownSession session f) fun _ h => ∃ before, P before ∧ h.store = before.store ∧
      h.sessions.get? session = some (f r) := by
  intro h holds
  refine ⟨trivial, fun a returned => ⟨h, holds, ?_⟩⟩
  have found := (waiting h holds).record
  unfold onKnownSession at returned ⊢
  rw [Program.bind_apply, lookUp, peek_apply, found] at returned ⊢
  dsimp only
  refine ⟨rfl, ?_⟩
  show (h.toMemory.update session f).sessions.get? session = some (f r)
  rw [Memory.update, RowTable.get?_update, if_pos rfl, found]
  rfl

theorem keeps_logged {name : Username} {h h' : BbsHost}
    (logged : LoggedIn session r guestRoom name h) (sessions : h'.sessions = h.sessions)
    (users : ∀ id, (h'.store.db.users.get? id).map core = (h.store.db.users.get? id).map core) :
    LoggedIn session r guestRoom name h' := by
  obtain ⟨id, row, stored, named, record⟩ := logged
  have known : Known (account id row) h := ⟨row, stored, rfl, rfl⟩
  obtain ⟨row', stored', named', level⟩ := known_of_core known (users id)
  exact ⟨id, row', stored', named'.trans named, by rw [sessions, level]; exact record⟩

theorem emits {name : Username} (event : DomainEvent) :
    Gives (LoggedIn session r guestRoom name) (emit event)
      fun _ => LoggedIn session r guestRoom name :=
  .modify fun _ logged => ⟨trivial, logged⟩

theorem welcomes {name : Username} :
    Gives (LoggedIn session r guestRoom name) (pure (.loggedIn name) : HostM Response)
      (Session session r guestRoom) := by
  apply Ensures.ret
  intro h logged
  refine ⟨trivial, fun name' same => ?_⟩
  cases same
  exact logged

variable (session r guestRoom) in
/-- The binding that a login and a registration both make. -/
theorem binds_account (user : User) :
    Gives (Login session r guestRoom user) (do
      let room ← initialRoom user.permissionLevel
      onKnownSession session fun r => r.bindTo user.username user.id user.permissionLevel room)
      fun _ => LoggedIn session r guestRoom user.username := by
  apply (initialRoom_gives user.permissionLevel fun h holds => holds.1).bind
  intro room
  apply Ensures.given
  rintro rfl
  apply (binds fun h (holds : Login session r guestRoom user h) => holds.1).conseq (fun _ => id)
  rintro _ h ⟨before, ⟨-, row, stored, name, level⟩, store, record⟩
  exact ⟨user.id, row, by rw [store]; exact stored, name, by rw [record, level]⟩

theorem finalizeLogin_gives (user : User) :
    Gives (Login session r guestRoom user) (finalizeLogin session user)
      (Session session r guestRoom) := by
  have greets : Gives (LoggedIn session r guestRoom user.username) (do
      emit (.sessionAuthenticated session user.username)
      pure (.loggedIn user.username)) (Session session r guestRoom) :=
    (emits _).bind fun _ => welcomes
  have whole := (binds_account session r guestRoom user).bind fun _ => greets
  rw [bind_assoc] at whole
  exact whole

theorem notifySysops_gives (username : Username) :
    Gives (LoggedIn session r guestRoom username) (notifySysops username)
      fun _ => LoggedIn session r guestRoom username := by
  have tries {α : Type} {m : StoreM α} (same : ∀ s id,
      ((m s).2.db.users.get? id).map core = (s.db.users.get? id).map core) :
      Keeps (LoggedIn session r guestRoom username) (tryDb m) :=
    fun h logged => keeps_logged logged rfl (same h.store)
  apply Ensures.weaken (Ensures.ofKeeps ?_) fun _ _ => trivial
  apply Keeps.bind
  · apply tries
    intro s id
    obtain ⟨⟨aside, -⟩, -⟩ := ordinary_mild (.listUsers none 200 0) s
    exact aside.users id
  · intro users
    apply Keeps.bind (.gets _)
    intro now
    apply Discipline.keeping_iff.mp
    apply Discipline.forM
    intro sysop
    apply Discipline.keeping_iff.mpr
    apply Keeps.bind
    · apply tries
      intro s id
      apply congrArg fun users : RowTable UserRow => (users.get? id).map core
      exact postDirect_keeps (I := fun db => db.users = s.db.users) (fun _ _ same => same) _ _ _ _ s rfl
    · intro _
      exact .ret _

theorem createUser_gives (username : Username) (level : PermissionLevel) (now : Timestamp) :
    Gives (Waiting session r guestRoom) (tryDb (UserStore.create username none level now))
      fun created h => ∀ id, created = .ok id → Login session r guestRoom
        (account id ⟨username, none, .active, level, now, none, none⟩) h := by
  intro h waiting
  refine ⟨trivial, fun created returned id eq => ?_⟩
  rcases made : UserStore.create username none level now h.store with ⟨result, s⟩
  rw [tryDb_of made] at returned ⊢
  cases returned
  subst eq
  obtain ⟨-, rfl, filled⟩ := insertRow_ok made
  refine ⟨⟨waiting.record, waiting.guestRoom⟩, _, ?_, rfl, rfl⟩
  dsimp only
  rw [filled]
  dsimp only [account]
  rw [RowTable.get?_insert, if_pos rfl]

theorem createUserAndLogin_gives (username : Username) (password : String) :
    Gives (Waiting session r guestRoom) (createUserAndLogin session username password)
      (Session session r guestRoom) := by
  apply (looks fun h : BbsHost => h.store.now).bind
  intro now
  apply (waits.conseq (fun _ holds => holds.1) fun _ _ => id).bind
  intro someone
  dsimp only
  generalize (if someone.isEmpty then PermissionLevel.sysop else .unvalidated) = level
  apply (createUser_gives username level now).bind
  intro created
  split
  · exact reply_after rfl
  · exact .fail fun _ _ => trivial
  · next userId =>
    have login : Gives (Login session r guestRoom
        (account userId ⟨username, none, .active, level, now, none, none⟩)) (do
        db (failed "set password") (CredentialStore.setPassword userId password now)
        let room ← initialRoom level
        onKnownSession session fun r => r.bindTo username userId level room
        emit (.userCreated username)
        if someone.isEmpty then pure (.loggedIn username)
        else do
          notifySysops username
          pure (.loggedIn username)) (Session session r guestRoom) := by
      apply (calls (.setPassword userId password now)).bind
      intro _
      have bound := binds_account session r guestRoom
        (account userId ⟨username, none, .active, level, now, none, none⟩)
      have after : Gives (LoggedIn session r guestRoom username) (do
          emit (.userCreated username)
          if someone.isEmpty then pure (.loggedIn username)
          else do
            notifySysops username
            pure (.loggedIn username)) (Session session r guestRoom) := by
        apply (emits _).bind
        intro _
        split
        · exact welcomes
        · exact (notifySysops_gives username).bind fun _ => welcomes
      have whole := bound.bind fun _ => after
      rw [bind_assoc] at whole
      exact whole
    exact login.conseq (fun _ made => made userId rfl) fun _ _ => id

variable (session r guestRoom) in
/-- The way of a session that nobody has logged in yet to one that is bound. -/
def walk : LoginWalk session where
  before := Waiting session r guestRoom
  inside _ := True
  gives := Session session r guestRoom
  stable := ⟨fun _ _ waiting _ _ => ⟨waiting.record, waiting.guestRoom⟩,
    fun _ _ _ waiting _ _ => ⟨waiting.record, waiting.guestRoom⟩⟩
  enter _ _ := trivial
  memory h m waiting sessions guestRoom :=
    ⟨by rw [sessions]; exact waiting.record, guestRoom.trans waiting.guestRoom⟩
  settle _ _ _ _ := trivial
  refused response h other _ name logged := by
    rw [other] at logged
    cases logged
  hold _ _ _ _ _ := trivial
  login user :=
    (finalizeLogin_gives user).conseq (fun _ login => ⟨login.1, login.2.1⟩) fun _ _ => id
  create := createUserAndLogin_gives

theorem forceConfirmNew_gives (username : Username) (userId : UserId) (newPassword answer : String) :
    Gives (Waiting session r guestRoom) (forceConfirmNew session username userId newPassword answer)
      (Session session r guestRoom) := by
  unfold forceConfirmNew
  split
  · exact reply_after rfl
  · apply (looks fun h : BbsHost => h.store.now).bind
    intro now
    apply (waits.conseq (fun _ holds => holds.1) fun _ _ => id).bind
    intro _
    apply waits.bind
    intro _
    apply ((walk session r guestRoom).findUser username).bind
    intro found
    cases found with
    | none => exact reply_after rfl
    | some user =>
        exact (finalizeLogin_gives user).conseq (fun _ read => (read.2 user rfl).1) fun _ _ => id

theorem lookup_gives (pubkey : PublicKey) (ttlDays : Nat) (db₀ : Database) :
    Gives (fun h => Waiting session r guestRoom h ∧ h.store.db = db₀)
      (db (failed "node_credential lookup") (NodeCredentialStore.lookup pubkey ttlDays))
      fun bound h => (Waiting session r guestRoom h ∧ h.store.db = db₀) ∧ ∀ id, bound = some id →
        ∃ node, db₀.nodeCredentials pubkey = some node ∧ node.userId = id := by
  rintro h ⟨waiting, rfl⟩
  refine ⟨trivial, fun bound returned => ⟨⟨⟨waiting.record, waiting.guestRoom⟩, ?_⟩, ?_⟩⟩
  · exact (Reads.lookupNode pubkey ttlDays h.store).1
  · rintro id rfl
    obtain ⟨-, node, bound, -, id_⟩ := found_node (Prod.ext returned rfl)
    exact ⟨node, bound, id_⟩

/-- A restored session stands in the lobby, whatever the level of its account. -/
theorem restores_account (user : User) (pubkey : PublicKey) (row : UserRow) :
    Gives (fun h => Waiting session r guestRoom h ∧
        (h.store.db.users.get? user.id).map core = some (core row)) (do
      stampLastLogin user.id
      onSession session fun r => r.bindTo user.username user.id user.permissionLevel lobby
      let now ← Host.now
      db (failed "node_credential upsert") (NodeCredentialStore.upsert pubkey user.id now)
      pure (some user.username)) fun restored h => ∀ name, restored = some name →
        user.username = name ∧ (h.store.db.users.get? user.id).map core = some (core row) ∧
        h.sessions.get? session = some
          (r.bindTo user.username user.id user.permissionLevel lobby) := by
  have calls {P : BbsHost → Prop} {α : Type} {m : StoreM α} (describe : StoreError → String)
      (ordinary : Ordinary m) (memory : ∀ h s, P h → P { h with store := s }) :
      Gives (fun h => P h ∧ (h.store.db.users.get? user.id).map core = some (core row))
        (db describe m) fun _ h =>
          P h ∧ (h.store.db.users.get? user.id).map core = some (core row) := by
    rintro h ⟨holds, stored⟩
    obtain ⟨⟨aside, -⟩, -⟩ := ordinary_mild ordinary h.store
    exact ⟨trivial, fun _ _ => ⟨memory h _ holds, (aside.users user.id).trans stored⟩⟩
  have stamped : Gives (fun h => Waiting session r guestRoom h ∧
      (h.store.db.users.get? user.id).map core = some (core row)) (stampLastLogin user.id)
      fun _ h => Waiting session r guestRoom h ∧
        (h.store.db.users.get? user.id).map core = some (core row) := by
    apply (looks fun h : BbsHost => h.store.now).bind
    intro now
    have touched := calls (failed "update last_login")
      (.touchUser user.id none (some now)) fun h s (waiting : Waiting session r guestRoom h) =>
        ⟨waiting.record, waiting.guestRoom⟩
    exact touched.conseq (fun _ holds => holds.1) fun _ _ => id
  apply stamped.bind
  intro _
  have bound : Gives (fun h => Waiting session r guestRoom h ∧
      (h.store.db.users.get? user.id).map core = some (core row))
      (onSession session fun r => r.bindTo user.username user.id user.permissionLevel lobby)
      fun _ h => h.sessions.get? session = some
          (r.bindTo user.username user.id user.permissionLevel lobby) ∧
        (h.store.db.users.get? user.id).map core = some (core row) := by
    apply Ensures.modify
    rintro h ⟨waiting, stored⟩
    refine ⟨trivial, ?_, stored⟩
    show (h.sessions.update session _).get? session = _
    rw [RowTable.get?_update, if_pos rfl, waiting.record]
    rfl
  apply bound.bind
  intro _
  apply (looks fun h : BbsHost => h.store.now).bind
  intro now
  have refreshed := calls (failed "node_credential upsert")
    (.bindNode pubkey user.id now)
    fun h s (record : h.sessions.get? session = some
      (r.bindTo user.username user.id user.permissionLevel lobby)) => record
  apply (refreshed.conseq (fun _ holds => holds.1) fun _ _ => id).bind
  intro _
  refine Ensures.ret fun h holds => ⟨trivial, fun name same => ?_⟩
  exact ⟨Option.some.inj same, holds.2, holds.1⟩

theorem meshNodeRestore_gives (pubkey : PublicKey) (ttlDays : Nat) (db₀ : Database) :
    Gives (fun h => Waiting session r guestRoom h ∧ h.store.db = db₀)
      (meshNodeRestore session pubkey ttlDays) fun restored h => ∀ name, restored = some name →
        ∃ node row row', db₀.nodeCredentials pubkey = some node ∧
          db₀.users.get? node.userId = some row ∧ h.store.db.users.get? node.userId = some row' ∧
          core row' = core row ∧ row.username = name ∧ h.sessions.get? session = some
            (r.bindTo name node.userId row.permissionLevel lobby) := by
  apply (lookup_gives pubkey ttlDays db₀).bind
  intro bound
  cases bound with
  | none => exact .ret fun _ _ => ⟨trivial, nofun⟩
  | some userId =>
    apply ((walk session r guestRoom).getUser userId fun h holds => holds.1.1).bind
    intro user
    split
    · exact .ret fun _ _ => ⟨trivial, nofun⟩
    · next user' active =>
      have found : user = some user' := (Option.filter_eq_some_iff.mp active).1
      rintro h read
      obtain ⟨⟨waiting, row, stored, name, level⟩, rfl, before, holds, kept⟩ := read.2 user' found
      have same : h.store.db = db₀ := kept.trans holds.1.2
      obtain ⟨node, bound, id⟩ := holds.2 _ rfl
      refine ⟨trivial, fun restored returned name' eq => ?_⟩
      obtain ⟨rfl, stored', record⟩ := (restores_account user' pubkey row h
        ⟨waiting, by rw [stored]; rfl⟩).2 restored returned name' eq
      obtain ⟨row', there, core_⟩ := Option.map_eq_some_iff.mp stored'
      rw [same] at stored
      refine ⟨node, row, row', bound, by rw [id]; exact stored, by rw [id]; exact there, core_, name, ?_⟩
      rw [id, level]
      exact record

end Login

/-! ## All paths -/

/-- Where a path leaves the session in the room of its level: a restore does when that room is the
lobby. -/
def LandsByLevel (h : BbsHost) : LoginPath → Prop
  | .restore pubkey _ => ∀ node row, h.store.db.nodeCredentials pubkey = some node →
      h.store.db.users.get? node.userId = some row →
      .user ≤ row.permissionLevel ∨ h.guestRoomId = none ∨ h.guestRoomId = some lobby
  | _ => True

theorem landingRoom_eq_lobby {guestRoom : Option RoomId} {level : PermissionLevel} :
    landingRoom guestRoom level = lobby ↔
      .user ≤ level ∨ guestRoom = none ∨ guestRoom = some lobby := by
  unfold landingRoom
  split
  · next low =>
    have other : ¬ PermissionLevel.user ≤ level := not_le.mpr low
    cases guestRoom with
    | none => simp
    | some room => simp [other]
  · next high => simp [not_lt.mp high]

/-- A login that succeeds leaves the session of its account and the guest room. -/
theorem logged_in_iff {session : SessionId} {r : SessionRecord} {name : Username} (path : LoginPath)
    (h : BbsHost) (found : h.sessions.get? session = some r)
    (succeeds : (path.run session h).1 = .ok (some name)) :
    LoggedIn session r h.guestRoomId name (path.run session h).2 ↔ LandsByLevel h path := by
  have waiting : Waiting session r h.guestRoomId h := ⟨found, rfl⟩
  have logs {m : HostM Response} (gives : Gives (Waiting session r h.guestRoomId) m
      (Session session r h.guestRoomId)) (ok : (answered m h).1 = .ok (some name)) :
      LoggedIn session r h.guestRoomId name (answered m h).2 := by
    have whole : Gives (Waiting session r h.guestRoomId) (answered m) fun result h' =>
        ∀ name, result = some name → LoggedIn session r h.guestRoomId name h' :=
      gives.bind fun response => .ret fun _ logged => ⟨trivial, logged⟩
    exact (whole h waiting).2 _ ok name rfl
  cases path with
  | oneShot username password =>
      exact iff_of_true (logs ((walk session r h.guestRoomId).handleLoginOneshot _ _) succeeds) trivial
  | interactive username attempts answer =>
      exact iff_of_true (logs ((walk session r h.guestRoomId).loginReply _ _ _) succeeds) trivial
  | forcedChange username userId newPassword answer =>
      exact iff_of_true (logs (forceConfirmNew_gives _ _ _ _) succeeds) trivial
  | registerOneShot rawUsername password =>
      exact iff_of_true (logs ((walk session r h.guestRoomId).handleRegisterOneshot _ _) succeeds) trivial
  | registerConfirm username password answer =>
      exact iff_of_true (logs ((walk session r h.guestRoomId).registerConfirm _ _ _) succeeds) trivial
  | restore pubkey ttlDays =>
      have restored := (meshNodeRestore_gives pubkey ttlDays h.store.db h ⟨waiting, rfl⟩).2 _ succeeds
      obtain ⟨node, row, row', bound, stored, stored', same, named, record⟩ := restored name rfl
      have named' : row'.username = name := (congrArg (·.1) same).trans named
      have level : row'.permissionLevel = row.permissionLevel := congrArg (·.2.1) same
      have lobby_ : LoggedIn session r h.guestRoomId name (meshNodeRestore session pubkey ttlDays h).2 ↔
          landingRoom h.guestRoomId row.permissionLevel = lobby := by
        constructor
        · rintro ⟨id, row'', there, -, record'⟩
          rw [record] at record'
          have eq := Option.some.inj record'
          have sameId : node.userId = id := Option.some.inj (congrArg SessionRecord.userId eq)
          have sameRoom : lobby = landingRoom h.guestRoomId row''.permissionLevel :=
            congrArg SessionRecord.currentRoom eq
          rw [← sameId, stored'] at there
          cases there
          rw [← level, ← sameRoom]
        · intro lands
          refine ⟨node.userId, row', stored', named', ?_⟩
          rw [record, level, lands]
      refine lobby_.trans (landingRoom_eq_lobby.trans ?_)
      constructor
      · intro lands node' row'' bound' there
        rw [bound] at bound'
        cases bound'
        rw [stored] at there
        cases there
        exact lands
      · exact fun lands => lands node row bound stored

/-- Alice, the Sysop, opens a guest room, which Bob, not yet verified, lands in from his radio. Then
the radio links up again. -/
def bobsRadio : BbsHost :=
  let opened := [.connect "telnet", .command 1 (.registerOneShot "alice" "password"),
    .command 1 (.setGuestRoom (some "Guests"))].foldl deliver (.fresh .fresh)
  [.connect "meshcore", .command 2 (.loginOneShot .bob "password"), .bindNode 2 7,
    .connect "meshcore"].foldl deliver (adminCreateUser "bob" "password" 0 opened).2

theorem logged_in_bob : LoggedIn 3 (.opened "meshcore") (some 6) .bob
    ((LoginPath.oneShot .bob "password").run 3 bobsRadio).2 := by
  have guestRoom : bobsRadio.guestRoomId = some 6 := by decide +kernel
  have record : bobsRadio.sessions.get? 3 = some (.opened "meshcore") := by decide +kernel
  have succeeds : ((LoginPath.oneShot .bob "password").run 3 bobsRadio).1 = .ok (some .bob) := by
    decide +kernel
  have logged := logged_in_iff (.oneShot .bob "password") bobsRadio record succeeds
  rw [guestRoom] at logged
  exact logged.mpr trivial

theorem restored_elsewhere : ¬ ∀ (session : SessionId) (r : SessionRecord) (name : Username)
    (path : LoginPath) (h : BbsHost), h.sessions.get? session = some r →
    (path.run session h).1 = .ok (some name) →
    LoggedIn session r h.guestRoomId name (path.run session h).2 := by
  intro claim
  have guestRoom : bobsRadio.guestRoomId = some 6 := by decide +kernel
  have lands : ((LoginPath.run 3 (.restore 7 30) bobsRadio).2.sessions.get? 3).map (fun r =>
      (r.userId, r.level, r.currentRoom)) = some (some 2, .unvalidated, lobby) := by decide +kernel
  obtain ⟨id, row, -, -, record⟩ := claim 3 (.opened "meshcore") .bob (.restore 7 30) bobsRadio
    (by decide +kernel) (by decide +kernel)
  rw [record, guestRoom] at lands
  have same := Option.some.inj lands
  have level : row.permissionLevel = .unvalidated := congrArg (fun p => p.2.1) same
  have room : landingRoom (some 6) row.permissionLevel = lobby := congrArg (fun p => p.2.2) same
  rw [level] at room
  exact absurd room (by decide)

end SupplyDrop.Proof.LoginPaths
