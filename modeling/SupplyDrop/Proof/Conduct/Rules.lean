import Mathlib
import SupplyDrop.Library.Discipline
import SupplyDrop.Host.System
import SupplyDrop.Proof.Conduct.Reports

namespace SupplyDrop.Proof
open Library Store Host

/-! ## What the host asks of its store -/

/-- What only some of the handlers do. -/
inductive Power where
  -- an account, and a session bound to it
  | enrol
  | notify
  | bind
  | hold
  -- the standing, the level and the password of an account
  | standing
  | level
  | reset
  | pardon
  -- rooms, and where a session stands
  | rooms
  | raze
  | guest
  | move
  -- sessions that end, if unreported or though they are not there
  | close
  | oust
  -- messages
  | draft
  | post
  | erase
  | show
deriving DecidableEq

/-- Operations that any handler may use. -/
inductive Ordinary : {α : Type} → StoreM α → Prop where
  | getUser (id : UserId) : Ordinary (UserStore.getById id)
  | findUser (username : Username) : Ordinary (UserStore.getByUsername username)
  | listUsers (status : Option UserStatus) (limit offset : Nat) :
      Ordinary (UserStore.list status limit offset)
  | touchUser (id : UserId) (name : Option (Option String)) (login : Option Timestamp) :
      Ordinary (UserStore.update id name none none login)
  | verifyPassword (id : UserId) (candidate : String) (now : Timestamp) :
      Ordinary (CredentialStore.verifyPassword id candidate now)
  | setPassword (id : UserId) (password : String) (now : Timestamp) :
      Ordinary (CredentialStore.setPassword id password now)
  | mustChange (id : UserId) : Ordinary (CredentialStore.mustChangePassword id)
  | lookupNode (pubkey : PublicKey) (ttlDays : Nat) :
      Ordinary (NodeCredentialStore.lookup pubkey ttlDays)
  | bindNode (pubkey : PublicKey) (id : UserId) (now : Timestamp) :
      Ordinary (NodeCredentialStore.upsert pubkey id now)
  | unbindNode (pubkey : PublicKey) : Ordinary (NodeCredentialStore.delete pubkey)
  | getRoom (id : RoomId) : Ordinary (RoomStore.getById id)
  | findRoom (name : String) : Ordinary (RoomStore.getByName name)
  | listReadable (level : PermissionLevel) : Ordinary (RoomStore.listReadable level)
  | listRooms : Ordinary adminListRooms
  | isVisible (msg : Message) (room : RoomId) : Ordinary (isVisibleFrom msg room)
  | markRead (user : UserId) (room : RoomId) (id : MessageId) :
      Ordinary (MessageStore.markRead user room id)
  | unread (user : UserId) (room : RoomId) : Ordinary (MessageStore.unreadCount user room)
  | unreadDirect (username : Username) (user : UserId) (room : RoomId) :
      Ordinary (MessageStore.unreadDirectCount username user room)
  | lastRead (user : UserId) (room : RoomId) : Ordinary (MessageStore.getLastRead user room)
  | hasReadState (user : UserId) (room : RoomId) : Ordinary (MessageStore.hasReadState user room)
  | count (room : RoomId) : Ordinary (MessageStore.countInRoom room)
  | countDirect (username : Username) : Ordinary (MessageStore.countDirect username)
  | blocksBy (blocker : String) : Ordinary (BlockStore.blocksBy blocker)
  | isBlocking (blocker blocked : String) : Ordinary (BlockStore.isBlocking blocker blocked)
  | block (blocker blocked : String) : Ordinary (BlockStore.blockUser blocker blocked)
  | unblock (blocker blocked : String) : Ordinary (BlockStore.unblockUser blocker blocked)
  | hidden (id : UserId) (blocker blocked : String) :
      Ordinary (BlockStore.hiddenWhileBlocked id blocker blocked)
  | audit (actor action : String) (target detail : Option String) :
      Ordinary (AuditStore.write actor action target detail)

/-- Operations that take a power. -/
inductive Powered : Power → {α : Type} → StoreM α → Prop where
  | createUser (username : Username) (name : Option String) (level : PermissionLevel)
      (createdAt : Timestamp) : Powered .enrol (UserStore.create username name level createdAt)
  | notifyUser (recipient : Username) (content : String) (time : Timestamp) :
      Powered .notify (MessageStore.postDirect .bbs recipient content time)
  | setStatus (id : UserId) (status : UserStatus) :
      Powered .standing (UserStore.update id none (some status) none none)
  | suspend (id : UserId) (until_ : Timestamp) : Powered .standing (UserStore.suspend id until_)
  | clearSuspension (id : UserId) : Powered .standing (UserStore.clearSuspension id)
  | setLevel (id : UserId) (level : PermissionLevel) :
      Powered .level (UserStore.update id none none (some level) none)
  | resetPassword (id : UserId) (now : Timestamp) :
      Powered .reset (CredentialStore.resetToTempPassword id now)
  | clearMustChange (id : UserId) : Powered .pardon (CredentialStore.clearMustChange id)
  | createRoom (name : String) (description : Option String) (readOnly : Bool)
      (level : PermissionLevel) (createdAt : Timestamp) :
      Powered .rooms (RoomStore.create name description readOnly level createdAt)
  | updateRoom (id : RoomId) (description : Option (Option String)) (readOnly : Option Bool)
      (level : Option PermissionLevel) :
      Powered .rooms (RoomStore.update id description readOnly level)
  | deleteRoom (id : RoomId) : Powered .raze (RoomStore.delete id)
  | postToRoom (room : RoomId) (sender : Username) (content : String) (time : Timestamp) :
      Powered .post (MessageStore.postToRoom room sender content time)
  | postDirect (sender recipient : Username) (content : String) (time : Timestamp) :
      Powered .post (MessageStore.postDirect sender recipient content time)
  | deleteMessage (id : MessageId) : Powered .erase (MessageStore.delete id)
  | getMessage (id : MessageId) : Powered .show (MessageStore.getById id)
  | page (room : RoomId) (after : Option MessageId) (limit : Nat) :
      Powered .show (MessageStore.listInRoom room after limit)
  | directPage (username : Username) (after : Option MessageId) (limit : Nat) :
      Powered .show (MessageStore.listDirect username after limit)
  | newest (auth : Auth) : Powered .show (newestFor auth)
  | recent (room : RoomId) (limit : Nat) : Powered .show (MessageStore.listRecentInRoom room limit)
  | next (room : RoomId) (cursor : Option MessageId) :
      Powered .show (MessageStore.nextInRoom room cursor)
  | previous (room : RoomId) (cursor : Option MessageId) :
      Powered .show (MessageStore.prevInRoom room cursor)
  | nextDirect (username : Username) (cursor : Option MessageId) :
      Powered .show (MessageStore.nextDirect username cursor)
  | previousDirect (username : Username) (cursor : Option MessageId) :
      Powered .show (MessageStore.prevDirect username cursor)

/-! ## What the host does to its sessions -/

/-- A workflow that neither drafts a message nor holds back a login. -/
def Harmless : Workflow → Prop
  | .compose _ _ => False
  | .forceChangePassword _ _ _ => False
  | _ => True

/-- The session is held by whom it was held by, where it was. -/
structure Plain (r r' : SessionRecord) : Prop where
  transport : r'.transport = r.transport
  username : r'.username = r.username
  userId : r'.userId = r.userId
  room : r'.currentRoom = r.currentRoom
  workflow : r'.workflow = r.workflow ∨ Harmless r'.workflow
  outcome : r'.lastPostConfirmation = r.lastPostConfirmation ∨ r'.lastPostConfirmation = none

/-- Sessions go on as they were, are opened anew, or end. -/
structure Quiet (m m' : Memory) : Prop where
  guestRoom : m'.guestRoomId = m.guestRoomId
  seq : m.sessions.seq ≤ m'.sessions.seq
  sessions : ∀ id r', m'.sessions.get? id = some r' →
    (∃ r, m.sessions.get? id = some r ∧ Plain r r') ∨ ∃ transport, r' = .opened transport

theorem Plain.refl (r : SessionRecord) : Plain r r := ⟨rfl, rfl, rfl, rfl, .inl rfl, .inl rfl⟩

namespace Quiet
variable {m m' : Memory}

theorem same (sessions : m'.sessions = m.sessions) (guestRoom : m'.guestRoomId = m.guestRoomId) :
    Quiet m m' where
  guestRoom := guestRoom
  seq := by rw [sessions]
  sessions := by
    intro id r found
    rw [sessions] at found
    exact .inl ⟨r, found, .refl r⟩

theorem map {f : SessionId → SessionRecord → SessionRecord}
    (each : ∀ id r, Plain r (f id r) ∨ ∃ transport, f id r = .opened transport) :
    Quiet m { m with sessions := m.sessions.map f } where
  guestRoom := rfl
  seq := le_refl _
  sessions := by
    intro id r' found
    rw [RowTable.get?_map, Option.map_eq_some_iff] at found
    obtain ⟨r, before, rfl⟩ := found
    rcases each id r with plain | opened
    · exact .inl ⟨r, before, plain⟩
    · exact .inr opened

theorem update {session : SessionId} {f : SessionRecord → SessionRecord}
    (each : ∀ r, Plain r (f r) ∨ ∃ transport, f r = .opened transport) :
    Quiet m (m.update session f) := by
  apply map (f := fun i r => if i = session then f r else r)
  intro id r
  split
  · exact each r
  · exact .inl (.refl r)

theorem filter {p : SessionId → SessionRecord → Bool} {events : List DomainEvent} :
    Quiet m { m with sessions := m.sessions.filter p, events } where
  guestRoom := rfl
  seq := le_refl _
  sessions := by
    intro id r found
    rw [RowTable.get?_filter, Option.filter_eq_some_iff] at found
    exact .inl ⟨r, found.1, .refl r⟩

theorem insert {transport : String} :
    Quiet m { m with sessions := m.sessions.insert (.opened transport) } where
  guestRoom := rfl
  seq := by simp
  sessions := by
    intro id r found
    dsimp only at found
    rw [RowTable.get?_insert] at found
    split at found
    · exact .inr ⟨transport, (Option.some.inj found).symm⟩
    · exact .inl ⟨r, found, .refl r⟩

theorem logOutAccount {userId : UserId} {keep : SessionId} {reason : String} :
    Quiet m (m.logOutAccount userId keep reason) := by
  refine ⟨rfl, le_refl _, fun id r' found => ?_⟩
  unfold Memory.logOutAccount Memory.update Memory.endSessions at found
  rw [RowTable.get?_update, RowTable.get?_filter] at found
  split at found
  · obtain ⟨r, before, rfl⟩ := Option.map_eq_some_iff.mp found
    have before := (Option.filter_eq_some_iff.mp before).1
    split
    · exact .inr ⟨r.transport, rfl⟩
    · exact .inl ⟨r, before, .refl r⟩
  · exact .inl ⟨r', (Option.filter_eq_some_iff.mp found).1, .refl r'⟩

end Quiet

/-! ## The rules -/

/-- A discipline for the handlers of the host, with the powers it lets them use and the operations
of the store that they then may call. -/
structure Conduct extends Discipline BbsHost HostError where
  has : Power → Prop
  lets : {α : Type} → StoreM α → Prop
  peek : ∀ {α : Type} (f : Memory → α), toDiscipline.holds (Host.peek f)
  now : toDiscipline.holds Host.now
  poke : ∀ {f : Memory → Memory}, (∀ m, Quiet m (f m)) → (∀ m, Reported m (f m)) →
    toDiscipline.holds (Host.poke f)
  open_ : ∀ transport, toDiscipline.holds (Host.createSession transport)
  kill : ∀ session, toDiscipline.holds (Host.adminKillSession session)
  db : ∀ {α : Type} {describe : StoreError → String} {m : StoreM α}, lets m →
    toDiscipline.holds (Host.db describe m)
  tryDb : ∀ {α : Type} {m : StoreM α}, lets m → toDiscipline.holds (Host.tryDb m)
  ordinary : ∀ {α : Type} {m : StoreM α}, Ordinary m → lets m
  powered : ∀ {p : Power} {α : Type} {m : StoreM α}, Powered p m → has p → lets m
  -- a timeout is lifted by the clock of the host
  resolve : ∀ user, toDiscipline.holds (resolveSuspension user)
  patch : ∀ {id : UserId} {status : Option UserStatus} {level : Option PermissionLevel},
    (status.isSome → has .standing) → (level.isSome → has .level) →
    lets (UserStore.update id none status level none)
  bind_ : has .bind → ∀ {session : SessionId} {username : Username} {userId : UserId}
    {level : PermissionLevel} {room : RoomId}, toDiscipline.holds
      (onSession session fun r => r.bindTo username userId level room)
  hold : has .hold → ∀ {session : SessionId} {username : Username} {userId : UserId}
    {stage : ForcePwdStage}, toDiscipline.holds
      (onSession session fun r => r.setWorkflow (.forceChangePassword username userId stage))
  close : has .close → ∀ session, toDiscipline.holds (Host.endSession session)
  oust : has .oust → ∀ username, toDiscipline.holds (removeSessionsOf username)
  guest : has .guest → ∀ roomId, toDiscipline.holds (setGuestRoomId roomId)
  move : has .move → ∀ {session : SessionId} {roomId : RoomId},
    toDiscipline.holds (setCurrentRoom session roomId)
  draft : has .draft → ∀ {session : SessionId} {roomId : RoomId} {stage : ComposeStage},
    toDiscipline.holds (setWorkflow session (.compose roomId stage))
  conclude : has .post → ∀ {session : SessionId} {outcome : String},
    toDiscipline.holds (onSession session fun r => r.concluded outcome)

namespace Conduct
variable (D : Conduct) {α : Type}

theorem reply (a : α) : D.holds (pure a) := D.ret trivial

theorem refuse (e : HostError) : D.holds (Program.fail e : HostM α) := D.fail

theorem call {describe : StoreError → String} {m : StoreM α} (h : Ordinary m) :
    D.holds (Host.db describe m) := D.db (D.ordinary h)

theorem tryCall {m : StoreM α} (h : Ordinary m) : D.holds (Host.tryDb m) := D.tryDb (D.ordinary h)

theorem use {p : Power} {describe : StoreError → String} {m : StoreM α} (h : Powered p m)
    (has : D.has p) : D.holds (Host.db describe m) := D.db (D.powered h has)

theorem tryUse {p : Power} {m : StoreM α} (h : Powered p m) (has : D.has p) :
    D.holds (Host.tryDb m) := D.tryDb (D.powered h has)

theorem emit {event : DomainEvent} (passing : Passing event) : D.holds (Host.emit event) :=
  D.poke (fun _ => .same rfl rfl) fun _ => .emit passing

theorem audit (actor action : String) (target detail : Option String) :
    D.holds (Host.audit actor action target detail) :=
  D.seq (D.tryCall (.audit _ _ _ _)) fun _ => D.reply _

theorem onlyIf {condition : Bool} {m : HostM Unit} (h : D.holds m) :
    D.holds (Host.onlyIf condition m) :=
  D.ite (fun _ => h) fun _ => D.reply _

theorem attempted {m : HostM α} (h : D.holds m) : D.holds (Program.attempt m : HostM _) :=
  D.conseq (D.attempt h) fun _ _ => trivial

/-! ## Sessions -/

theorem lookUp (session : SessionId) : D.holds (Host.lookUp session) := D.peek _

theorem workflowOf (session : SessionId) : D.holds (Host.workflowOf session) := D.peek _

theorem sessionOnRadio (session : SessionId) : D.holds (Host.sessionOnRadio session) := D.peek _

theorem onSession {session : SessionId} {f : SessionRecord → SessionRecord}
    (each : ∀ r, Plain r (f r)) : D.holds (Host.onSession session f) :=
  D.poke (fun _ => .update fun r => .inl (each r)) fun _ => .update

theorem setWorkflow {workflow : Workflow} (harmless : Harmless workflow) (session : SessionId) :
    D.holds (Host.setWorkflow session workflow) :=
  D.onSession fun _ => ⟨rfl, rfl, rfl, rfl, .inr harmless, .inl rfl⟩

theorem clearWorkflow (session : SessionId) : D.holds (Host.clearWorkflow session) := by
  have harmless : Harmless .none := trivial
  exact D.setWorkflow harmless session

theorem setLevel (session : SessionId) (level : PermissionLevel) :
    D.holds (Host.onSession session fun r => r.setLevel level) :=
  D.onSession fun _ => ⟨rfl, rfl, rfl, rfl, .inl rfl, .inl rfl⟩

theorem onKnownSession {session : SessionId} {f : SessionRecord → SessionRecord}
    (h : D.holds (Host.onSession session f)) : D.holds (Host.onKnownSession session f) := by
  apply D.seq (D.lookUp session)
  intro found
  cases found with
  | none => exact D.refuse _
  | some r => exact h

theorem endSessions {p : SessionId → SessionRecord → Bool} {reason : String} :
    D.holds (Host.poke fun m => m.endSessions p reason) :=
  D.poke (fun _ => .filter) fun _ => .endSessions

theorem endSessionsOf (username : Username) (reason : String) :
    D.holds (Host.endSessionsOf username reason) := D.endSessions

theorem relevel {p : SessionRecord → Prop} [DecidablePred p] {level : PermissionLevel} :
    D.holds (Host.poke fun m =>
      { m with sessions := m.sessions.map fun _ r => if p r then { r with level } else r }) := by
  refine D.poke (fun m => ?_) fun _ => .map
  apply Quiet.map
  intro id r
  split
  · exact .inl ⟨rfl, rfl, rfl, rfl, .inl rfl, .inl rfl⟩
  · exact .inl (.refl r)

theorem setLevelsOf (username : Username) (level : PermissionLevel) :
    D.holds (Host.setLevelsOf username level) := D.relevel

/-! ## Who is asking -/

theorem sessionAuth (session : SessionId) : D.holds (Host.sessionAuth session) := D.peek _

theorem currentLevel (id : UserId) (cached : PermissionLevel) :
    D.holds (Host.currentLevel id cached) := by
  apply D.seq (D.tryCall (.getUser id))
  intro user
  split <;> exact D.reply _

theorem sessionAuthUser (session : SessionId) : D.holds (Host.sessionAuthUser session) := by
  apply D.seq (D.sessionAuth session)
  intro auth
  cases auth with
  | error r => exact D.reply _
  | ok auth =>
      apply D.seq (D.currentLevel auth.userId auth.level)
      intro level
      apply D.seq (D.onlyIf (D.setLevel session level))
      intro _
      apply D.ite
      · intro _
        exact D.reply _
      · intro _
        apply D.seq (D.peek _)
        intro requireVerify
        apply D.ite
        · intro _
          exact D.reply _
        · intro _
          exact D.seq (D.setLevel session .user) fun _ => D.reply _

theorem sessionAuthOrGuest (session : SessionId) : D.holds (Host.sessionAuthOrGuest session) := by
  apply D.seq (D.sessionAuthUser session)
  intro auth
  cases auth with
  | ok auth => exact D.reply _
  | error pending =>
      apply D.seq (D.peek _)
      intro guestRoom
      apply D.ite
      · intro _
        exact D.seq (D.sessionAuth session) fun _ => D.reply _
      · intro _
        exact D.reply _

theorem withAuth {auth : HostM (Except Response Auth)} {k : Auth → HostM Response}
    (known : D.holds auth) (rest : ∀ auth, D.holds (k auth)) : D.holds (Host.withAuth auth k) := by
  apply D.seq known
  intro auth
  cases auth with
  | ok auth => exact rest auth
  | error r => exact D.reply _

theorem withUserAuth {session : SessionId} {k : Auth → HostM Response}
    (rest : ∀ auth, D.holds (k auth)) : D.holds (Host.withAuth (Host.sessionAuthUser session) k) :=
  D.withAuth (D.sessionAuthUser session) rest

theorem withGuestAuth {session : SessionId} {k : Auth → HostM Response}
    (rest : ∀ auth, D.holds (k auth)) :
    D.holds (Host.withAuth (Host.sessionAuthOrGuest session) k) :=
  D.withAuth (D.sessionAuthOrGuest session) rest

theorem withGuestRule {auth : Auth} {refusal : String} {k : HostM Response} (h : D.holds k) :
    D.holds (Host.withGuestRule auth refusal k) := by
  apply D.seq (D.peek _)
  intro guestRoom
  exact D.ite (fun _ => D.reply _) fun _ => h

theorem withRoom {roomId : RoomId} {k : Room → HostM Response} (h : ∀ room, D.holds (k room)) :
    D.holds (Host.withRoom roomId k) := by
  apply D.seq (D.call (.getRoom roomId))
  intro room
  cases room with
  | none => exact D.refuse _
  | some room => exact h room

theorem withUser {username : Username} {missing : Response} {k : User → HostM Response}
    (h : ∀ user, D.holds (k user)) : D.holds (Host.withUser username missing k) := by
  apply D.seq (D.call (.findUser username))
  intro user
  cases user with
  | none => exact D.reply _
  | some user => exact h user

theorem privileged {session : SessionId} {required : PermissionLevel} {refusal : Response}
    {k : Auth → HostM Response} (h : ∀ auth, D.holds (k auth)) :
    D.holds (Host.privileged session required refusal k) :=
  D.withUserAuth fun auth => D.ite (fun _ => D.reply _) fun _ => h auth

theorem whenIdle {session : SessionId} {k : HostM Response} (h : D.holds k) :
    D.holds (Host.whenIdle session k) := by
  apply D.seq (D.workflowOf session)
  intro workflow
  exact D.ite (fun _ => D.reply _) fun _ => h

end Conduct
end SupplyDrop.Proof
