import Mathlib
import SupplyDrop.Proof.LastSysop

namespace SupplyDrop.Proof.Standings
open Library Library.Program Store Host StoredData

/-! ## Time during a call -/

/-- Calls in which time stands still. -/
def brief : Discipline Storage StoreError := .along Later Later.refl fun _ _ _ => Later.trans

namespace brief
variable {α : Type} {m : StoreM α}

theorem of_later (later : ∀ s, Later s (m s).2) : brief.holds m :=
  fun s => ⟨later s, fun _ _ => trivial⟩

theorem of_reads (reads : Reads m) : brief.holds m := of_later fun s => (reads s).2

theorem execute (f : Database → Database) : brief.holds (Store.execute f) :=
  of_later fun s => (execute_effect f s).1

theorem insertRow {row : α} {table : Database → RowTable α}
    {put : Database → RowTable α → Database} {violated : Database → Option StoreError} :
    brief.holds (Store.insertRow table put violated row) :=
  of_later fun s => (insertRow_effect table put violated row s).1

theorem atomically (h : brief.holds m) : brief.holds (Program.atomically rollback m) := by
  apply of_later
  intro s
  have later := (h s).1
  unfold Program.atomically
  rcases ran : m s with ⟨r, s'⟩
  rw [ran] at later
  cases r with
  | ok a => exact later
  | error e => exact later.wrote _

theorem transaction (h : brief.holds m) : brief.holds (Store.transaction m) :=
  atomically (brief.seq (of_reads .statement) fun _ => brief.seq h fun _ =>
    brief.seq (of_reads .statement) fun _ => brief.ret trivial)

theorem setNextOf (room next : Option RoomId) : brief.holds (RoomStore.setNextOf room next) := by
  cases room with
  | none => exact brief.ret trivial
  | some id => exact execute _

theorem setPrevOf (room prev : Option RoomId) : brief.holds (RoomStore.setPrevOf room prev) := by
  cases room with
  | none => exact brief.ret trivial
  | some id => exact execute _

theorem createRoom (name : String) (description : Option String) (readOnly : Bool)
    (level : PermissionLevel) (createdAt : Timestamp) :
    brief.holds (RoomStore.create name description readOnly level createdAt) := by
  apply transaction
  apply brief.seq (of_reads (.query _))
  intro tail
  apply brief.seq insertRow
  intro id
  exact brief.seq (setNextOf _ _) fun _ => brief.ret trivial

theorem updateRoom (id : RoomId) (description : Option (Option String)) (readOnly : Option Bool)
    (level : Option PermissionLevel) :
    brief.holds (RoomStore.update id description readOnly level) := by
  apply brief.seq (of_reads (.query _))
  intro row
  cases row with
  | none => exact brief.fail
  | some current => exact execute _

theorem deleteRoom (id : RoomId) : brief.holds (RoomStore.delete id) := by
  apply transaction
  apply brief.seq (of_reads (.query _))
  intro row
  cases row with
  | none => exact brief.fail
  | some current =>
      exact brief.seq (setNextOf _ _) fun _ => brief.seq (setPrevOf _ _) fun _ => execute _

theorem postToRoom (room : RoomId) (sender : Username) (content : String) (time : Timestamp) :
    brief.holds (MessageStore.postToRoom room sender content time) := by
  have joined (id : MessageId) : brief.holds (MessageStore.insertRoomMessage room id) := by
    apply brief.seq (of_reads (.gets _))
    intro rooms
    apply brief.seq (of_reads .statement)
    intro _
    exact brief.ite (fun _ => brief.fail) fun _ => of_later fun s => (Later.refl s).wrote _
  apply transaction
  apply brief.seq insertRow
  intro id
  exact brief.seq (joined id) fun _ => brief.ret trivial

theorem deleteMessage (id : MessageId) : brief.holds (MessageStore.delete id) := by
  apply transaction
  apply brief.seq (execute _)
  intro _
  apply brief.seq (of_reads (.gets _))
  intro found
  exact brief.seq (execute _) fun _ => brief.ret trivial

theorem resetPassword (id : UserId) (now : Timestamp) :
    brief.holds (CredentialStore.resetToTempPassword id now) := by
  apply brief.seq (of_reads generateTempPassword_reads)
  intro temp
  apply brief.seq (of_reads (.hash temp))
  intro phc
  exact brief.seq (of_later fun s => (putHash_effect id phc now (some true) s).1) fun _ =>
    brief.ret trivial

theorem powered {p : Power} (h : Powered p m) : brief.holds m := by
  by_cases shows : p = .show
  · subst shows
    exact of_reads (show_reads h)
  cases h with
  | createUser username name level createdAt => exact insertRow
  | notifyUser recipient content time => exact insertRow
  | setStatus id status => exact of_later fun s => (update_fields id (some status) none s).1
  | suspend id until_ => exact of_later fun s => (whereId_effect id _ s).1
  | clearSuspension id => exact of_later fun s => (whereId_effect id _ s).1
  | setLevel id level => exact of_later fun s => (update_fields id none (some level) s).1
  | resetPassword id now => exact resetPassword id now
  | clearMustChange id => exact execute _
  | createRoom name description readOnly level createdAt => exact createRoom _ _ _ _ _
  | updateRoom id description readOnly level => exact updateRoom _ _ _ _
  | deleteRoom id => exact deleteRoom id
  | postToRoom room sender content time => exact postToRoom _ _ _ _
  | postDirect sender recipient content time => exact insertRow
  | deleteMessage id => exact deleteMessage id
  | _ => exact absurd rfl shows

end brief

/-- No operation of the store moves the clock, however it ends. -/
theorem powered_later {p : Power} {α : Type} {m : StoreM α} (h : Powered p m) (s : Storage) :
    Later s (m s).2 := (brief.powered h s).1

/-! ## What an account keeps -/

/-- What of an account moderation is about. -/
def face (row : UserRow) : Username × UserStatus × Option Timestamp :=
  (row.username, row.status, row.suspendedUntil)

theorem reactivate_face {row row' : UserRow} (now : Timestamp) (same : face row' = face row) :
    face (UserStore.reactivate now row') = face (UserStore.reactivate now row) := by
  have username : row'.username = row.username := congrArg (·.1) same
  have status : row'.status = row.status := congrArg (·.2.1) same
  have until_ : row'.suspendedUntil = row.suspendedUntil := congrArg (·.2.2) same
  unfold UserStore.reactivate UserStore.expired
  rw [status, until_]
  split
  · simp only [face, username]
  · exact same

theorem reactivate_reactivate (now : Timestamp) (row : UserRow) :
    UserStore.reactivate now (UserStore.reactivate now row) = UserStore.reactivate now row := by
  by_cases expired : UserStore.expired now row = true
  · have lifted : UserStore.reactivate now row =
        { row with status := .active, suspendedUntil := none } := by
      unfold UserStore.reactivate
      rw [if_pos expired]
    rw [lifted]
    rfl
  · have kept : UserStore.reactivate now row = row := by
      unfold UserStore.reactivate
      rw [if_neg expired]
    rw [kept, kept]

/-- The standing of an account, or what it is when a timeout that is over is lifted. -/
def Faces (now : Timestamp) (row row' : UserRow) : Prop :=
  face row' = face row ∨ face row' = face (UserStore.reactivate now row)

namespace Faces
variable {now : Timestamp} {row row' row'' : UserRow}

theorem same (faces : Faces now row row') (eq : face row'' = face row') : Faces now row row'' :=
  faces.imp eq.trans eq.trans

theorem lifted (faces : Faces now row row') : Faces now row (UserStore.reactivate now row') := by
  rcases faces with kept | ended
  · exact .inr (reactivate_face now kept)
  · refine .inr ((reactivate_face now ended).trans ?_)
    rw [reactivate_reactivate]

theorem username (faces : Faces now row row') : row'.username = row.username := by
  rcases faces with kept | ended
  · exact congrArg (·.1) kept
  · exact (congrArg (·.1) ended).trans (reactivate_username now row)

theorem status (faces : Faces now row row') : row'.status = row.status ∨
    row.status = .banned ∧ row'.status = .active := by
  rcases faces with kept | ended
  · exact .inl (congrArg (·.2.1) kept)
  · have status : row'.status = (UserStore.reactivate now row).status := congrArg (·.2.1) ended
    unfold UserStore.reactivate at status
    split at status
    · next expired =>
      unfold UserStore.expired at expired
      rw [Bool.and_eq_true] at expired
      exact .inr ⟨of_decide_eq_true expired.1, status⟩
    · exact .inl status

/-- Who is not banned any more was not, or their timeout is over. -/
theorem unbanned (faces : Faces now row row') (status : row'.status ≠ .banned) :
    (UserStore.reactivate now row).status ≠ .banned := by
  rcases faces with kept | ended
  · have same : row.status ≠ .banned := by
      rw [← show row'.status = row.status from congrArg (·.2.1) kept]
      exact status
    unfold UserStore.reactivate
    split
    · exact UserStatus.noConfusion
    · exact same
  · rw [← show row'.status = (UserStore.reactivate now row).status from congrArg (·.2.1) ended]
    exact status

end Faces

/-- The account is there, under its name, and its standing is what it was or a timeout is over. -/
structure Spared (now : Timestamp) (id : UserId) (row : UserRow) (h : BbsHost) : Prop where
  clock : h.store.now = now
  there : ∃ row', h.store.db.users.get? id = some row' ∧ Faces now row row'

section Keeping
variable {now : Timestamp} {id : UserId} {row : UserRow} {h : BbsHost}

theorem Spared.next {s : Storage} (spared : Spared now id row h) (later : Later h.store s)
    (each : ∀ r, h.store.db.users.get? id = some r → Faces now row r →
      ∃ r', s.db.users.get? id = some r' ∧ Faces now row r') :
    Spared now id row { h with store := s } := by
  obtain ⟨r, stored, faces⟩ := spared.there
  exact ⟨later.now.trans spared.clock, each r stored faces⟩

theorem Spared.update {s : Storage} {user : UserId} {f : UserRow → UserRow}
    (spared : Spared now id row h) (later : Later h.store s)
    (effect : s.db = h.store.db ∨ s.db = { h.store.db with users := h.store.db.users.update user f })
    (each : user = id → ∀ r, Faces now row r → Faces now row (f r)) :
    Spared now id row { h with store := s } := by
  apply spared.next later
  intro r stored faces
  rcases effect with kept | wrote
  · rw [kept]
    exact ⟨r, stored, faces⟩
  · rw [wrote]
    dsimp only
    rw [RowTable.get?_update, stored]
    split
    · next same => exact ⟨f r, rfl, each same.symm r faces⟩
    · exact ⟨r, rfl, faces⟩

theorem effect_face {db db' : Database} {p : Power} {r : UserRow} (effect : Effect db p db')
    (other : p ≠ .standing) (stored : db.users.get? id = some r) :
    ∃ r', db'.users.get? id = some r' ∧ face r' = face r := by
  cases effect with
  | enrolled =>
      refine ⟨r, ?_, rfl⟩
      dsimp only
      rw [RowTable.get?_insert, if_neg (Int.lt_add_one_of_le (RowTable.le_seq stored)).ne]
      exact stored
  | stood => exact absurd rfl other
  | graded =>
      dsimp only
      rw [RowTable.get?_update, stored]
      split
      · exact ⟨_, rfl, rfl⟩
      · exact ⟨r, rfl, rfl⟩
  | kept | notified | reset | pardoned | opened | edited | razed | posted | mailed | erased =>
      exact ⟨r, stored, rfl⟩

/-- Only an operation on the standing of accounts endangers one. -/
theorem spared_invariant (now : Timestamp) (id : UserId) (row : UserRow) :
    Invariant (Spared now id row) fun p => p ≠ .standing where
  aside h s spared aside later := by
    apply spared.next later
    intro r stored faces
    have same := aside.users id
    rw [stored] at same
    obtain ⟨r', stored', eq⟩ := Option.map_eq_some_iff.mp same
    have face_ : face r' = face r :=
      congrArg (fun c : Username × PermissionLevel × UserStatus × Option Timestamp =>
        (c.1, c.2.2.1, c.2.2.2)) eq
    exact ⟨r', stored', faces.same face_⟩
  lift h s user spared later wrote := by
    apply spared.update later (.inr wrote)
    intro _ r faces
    rw [spared.clock]
    exact faces.lifted
  quiet h m spared _ := ⟨spared.clock, spared.there⟩
  powered powered other h spared := by
    apply spared.next (powered_later powered h.store)
    intro r stored faces
    obtain ⟨r', stored', same⟩ := effect_face (powered_effect powered h.store) other stored
    exact ⟨r', stored', faces.same same⟩
  patch user status level standing _ h spared := by
    cases status with
    | some status => exact absurd rfl (standing rfl)
    | none =>
        obtain ⟨later, effect⟩ := update_fields user none level h.store
        exact spared.update later effect fun _ r faces => faces.same rfl
  bind _ _ _ _ _ _ _ spared := ⟨spared.clock, spared.there⟩
  hold _ _ _ _ _ _ spared := ⟨spared.clock, spared.there⟩
  guest _ _ _ spared := ⟨spared.clock, spared.there⟩
  move _ _ _ _ spared := ⟨spared.clock, spared.there⟩
  draft _ _ _ _ _ spared := ⟨spared.clock, spared.there⟩
  conclude _ _ _ _ spared := ⟨spared.clock, spared.there⟩

abbrev sparing (now : Timestamp) (id : UserId) (row : UserRow) : Conduct :=
  (spared_invariant now id row).conduct

theorem sparing_iff {α : Type} {m : HostM α} :
    (sparing now id row).holds m ↔ Keeps (Spared now id row) m := Discipline.keeping_iff

/-! ## What is done to another account -/

theorem update_other {user : UserId} (other : user ≠ id) (status : Option UserStatus)
    (level : Option PermissionLevel) :
    (sparing now id row).lets (UserStore.update user none status level none) := by
  intro h spared
  obtain ⟨later, effect⟩ := update_fields user status level h.store
  exact spared.update later effect fun same => absurd same other

theorem whereId_other {user : UserId} (other : user ≠ id) (f : UserRow → UserRow) :
    (sparing now id row).lets (UserStore.whereId user f) := by
  intro h spared
  obtain ⟨later, effect⟩ := whereId_effect user f h.store
  exact spared.update later effect fun same => absurd same other

/-- An account that a web user names otherwise. -/
theorem adminUser_other {username : String} (unnamed : username? username ≠ some row.username) :
    (sparing now id row).ensures (adminUser username) fun user => user.id ≠ id := by
  intro h spared
  have kept := sparing_iff.mp ((sparing now id row).adminUser username) h spared
  refine ⟨kept, fun user returned => ⟨kept, fun same => ?_⟩⟩
  obtain ⟨name, parsed, stored, named⟩ := (LastSysop.adminUser_spec username h).2 user returned
  obtain ⟨r, there, faces⟩ := spared.there
  rw [same, there] at stored
  cases stored
  apply unnamed
  rw [parsed, ← named]
  exact congrArg some faces.username

theorem adminSuspendUser_other {username : String} (days : Nat)
    (unnamed : username? username ≠ some row.username) :
    (sparing now id row).holds (adminSuspendUser username days) := by
  apply (sparing now id row).ite
  · intro _
    exact (sparing now id row).refuse _
  · intro _
    apply (sparing now id row).bind (adminUser_other unnamed)
    intro user other
    apply (sparing now id row).seq (sparing now id row).now
    intro time
    apply (sparing now id row).seq ((sparing now id row).db (whereId_other other _))
    intro _
    exact (sparing now id row).endSessionsNamed _ _

theorem adminUpdateUser_other {username : String} (status level : Option Nat)
    (unnamed : username? username = some row.username → status = none) :
    (sparing now id row).holds (adminUpdateUser username status level) := by
  have graded : Power.level ≠ .standing := by decide
  by_cases named : username? username = some row.username
  · rw [unnamed named]
    apply (sparing now id row).adminUpdateUser
    intro user newStatus newLevel decoded _
    cases decoded
    apply (sparing now id row).applyUpdate
    · intro user
      exact (sparing now id row).patch (fun some_ => Bool.noConfusion some_) fun _ => graded
    · exact fun some_ => Bool.noConfusion some_
  · apply (sparing now id row).bind (adminUser_other named)
    intro user other
    apply (sparing now id row).seq ((sparing now id row).ensures_holds ((sparing now id row).orFail _))
    intro newStatus
    apply (sparing now id row).seq ((sparing now id row).ensures_holds ((sparing now id row).orFail _))
    intro newLevel
    apply (sparing now id row).seq ((sparing now id row).guardActive _ _ _)
    intro _
    apply (sparing now id row).seq ((sparing now id row).guardLastSysop _ _ _)
    intro _
    have applied : (sparing now id row).holds (applyUpdate user newStatus newLevel) :=
      (sparing now id row).seq ((sparing now id row).db (update_other other _ _)) fun _ =>
        (sparing now id row).onlyIf ((sparing now id row).db (whereId_other other _))
    apply (sparing now id row).seq applied
    intro _
    exact (sparing now id row).reflectUpdate _ _ _

end Keeping

/-! ## Who is asking -/

/-- The account cannot be counted on to be read. -/
def Unread (h : BbsHost) (id : UserId) : Prop :=
  ¬ Suspensions.Calm h.store ∨ ∀ row, h.store.db.users.get? id = some row →
    ∀ user, mapUserRow id row ≠ .ok user

/-- What a session is served as: at the level of its account or, where that is not read, at the
level it was last served at. -/
def Caller (h : BbsHost) (session : SessionId) (level : PermissionLevel) : Prop :=
  ∃ r id, h.sessions.get? session = some r ∧ r.userId = some id ∧
    ((∃ row, h.store.db.users.get? id = some row ∧ row.permissionLevel = level) ∨
      Unread h id ∧ r.level = level)

theorem reads_calm {s : Storage} (calm : Suspensions.Calm s) {id : UserId} {row : UserRow} {user : User}
    (stored : s.db.users.get? id = some row) (valid : mapUserRow id row = .ok user) :
    (UserStore.getById id s).1 = .ok (some user) := by
  have started : ∃ s₁, statement s = (.ok (), s₁) := by
    unfold statement
    rcases faults : s.faults with _ | ⟨_ | e, rest⟩
    · exact ⟨_, rfl⟩
    · exact ⟨_, rfl⟩
    · cases calm (some e) (by rw [faults]; exact List.mem_cons_self)
  obtain ⟨s₁, ran⟩ := started
  have same := statement_db s
  rw [ran] at same
  have read : query (fun db => db.users.get? id) s = (.ok (some row), s₁) := by
    rw [query, bind_ok ran]
    show (Except.ok (s₁.db.users.get? id), s₁) = _
    rw [show s₁.db = s.db from same, stored]
  unfold UserStore.getById
  rw [bind_ok read]
  dsimp only
  rw [valid]
  rfl

/-- What happens to the host before a command of the session is looked at. -/
structure Since (h₀ : BbsHost) (session : SessionId) (h : BbsHost) : Prop where
  later : Later h₀.store h.store
  users : ∀ id, Option.Rel (fun row row' => Faces h₀.store.now row row' ∧
    row'.permissionLevel = row.permissionLevel) (h₀.store.db.users.get? id) (h.store.db.users.get? id)
  session : ∀ r', h.sessions.get? session = some r' → ∃ r, h₀.sessions.get? session = some r ∧
    r'.userId = r.userId ∧ r'.level = r.level ∧ (r'.workflow = r.workflow ∨ r'.workflow = .none)

section Prelude
variable {h₀ h : BbsHost} {session : SessionId}

theorem Since.refl (h : BbsHost) : Since h session h where
  later := .refl _
  users id := by
    cases h.store.db.users.get? id with
    | none => exact .none
    | some row => exact .some ⟨.inl rfl, rfl⟩
  session r found := ⟨r, found, rfl, rfl, .inl rfl⟩

theorem Since.before (since : Since h₀ session h) {id : UserId} {row' : UserRow}
    (stored : h.store.db.users.get? id = some row') : ∃ row, h₀.store.db.users.get? id = some row ∧
      Faces h₀.store.now row row' ∧ row'.permissionLevel = row.permissionLevel := by
  have rel := since.users id
  rw [stored] at rel
  generalize h₀.store.db.users.get? id = found at rel
  cases rel with
  | some same => exact ⟨_, rfl, same⟩

theorem Since.after (since : Since h₀ session h) {id : UserId} {row : UserRow}
    (stored : h₀.store.db.users.get? id = some row) : ∃ row', h.store.db.users.get? id = some row' ∧
      Faces h₀.store.now row row' ∧ row'.permissionLevel = row.permissionLevel := by
  have rel := since.users id
  rw [stored] at rel
  generalize h.store.db.users.get? id = found at rel
  cases rel with
  | some same => exact ⟨_, rfl, same⟩

theorem since_lasting (h₀ : BbsHost) (session : SessionId) : Lasting (Since h₀ session) where
  aside h s since aside later := by
    refine ⟨since.later.trans later, fun id => ?_, since.session⟩
    have rel := since.users id
    have same := aside.users id
    cases stored : h.store.db.users.get? id with
    | none =>
        rw [stored] at rel same
        rw [Option.map_eq_none_iff.mp same]
        exact rel
    | some row' =>
        rw [stored] at same
        obtain ⟨row'', stored'', eq⟩ := Option.map_eq_some_iff.mp same
        obtain ⟨row, stored₀, faces, level⟩ := since.before stored
        have face_ : face row'' = face row' :=
          congrArg (fun c : Username × PermissionLevel × UserStatus × Option Timestamp =>
            (c.1, c.2.2.1, c.2.2.2)) eq
        dsimp only
        rw [stored'', stored₀]
        exact .some ⟨faces.same face_, (congrArg (·.2.1) eq).trans level⟩
  lift h s user since later wrote := by
    refine ⟨since.later.trans later, fun id => ?_, since.session⟩
    have rel := since.users id
    dsimp only
    rw [wrote, RowTable.get?_update]
    split
    · cases stored : h.store.db.users.get? id with
      | none =>
          rw [stored] at rel
          exact rel
      | some row' =>
          obtain ⟨row, stored₀, faces, level⟩ := since.before stored
          rw [stored₀, since.later.now]
          exact .some ⟨faces.lifted, (reactivate_permissionLevel _ _).trans level⟩
    · exact rel
  ready h m since ready := by
    refine ⟨since.later, since.users, fun r'' found => ?_⟩
    obtain ⟨r', found', subdued⟩ := ready.sessions session r'' found
    obtain ⟨r, found₀, user, level, workflow⟩ := since.session r' found'
    have same := subdued.same
    refine ⟨r, found₀, ?_, ?_, ?_⟩
    · rw [same]
      exact user
    · rw [same]
      exact level
    · rcases subdued.workflow with kept | none_
      · rw [kept]
        exact workflow
      · exact .inr none_

/-- Who is served as an Aide was, when the command came, at that level. -/
theorem Since.caller (since : Since h₀ session h) {auth : Auth} (served : Served h session auth)
    (high : .aide ≤ auth.level) : Caller h₀ session auth.level := by
  obtain ⟨r', level, found, -, user, -, known, same | ⟨-, -, low⟩⟩ := served
  · obtain ⟨r, found₀, user₀, level₀, -⟩ := since.session r' found
    refine ⟨r, auth.userId, found₀, user₀.symm.trans user, ?_⟩
    rw [same]
    rcases known with ⟨row', stored, known⟩ | ⟨unread, known⟩
    · obtain ⟨row, stored₀, -, level'⟩ := since.before stored
      exact .inl ⟨row, stored₀, level'.symm.trans known.symm⟩
    · refine .inr ⟨?_, level₀.symm.trans known.symm⟩
      by_contra read
      unfold Unread at read
      push Not at read
      obtain ⟨calm, row, stored, user', valid⟩ := read
      obtain ⟨row', stored', faces, -⟩ := since.after stored
      have valid' : ∃ user, mapUserRow auth.userId row' = .ok user := by
        unfold mapUserRow at valid ⊢
        rw [faces.username]
        cases named : Username.new row.username.text with
        | ok username => exact ⟨_, rfl⟩
        | error e =>
            rw [named] at valid
            cases valid
      obtain ⟨user'', valid'⟩ := valid'
      exact unread user'' (reads_calm (calm.later since.later) stored' valid')
  · rw [low] at high
    exact absurd high (by decide)

end Prelude

/-! ## Who may change the standing of an account -/

/-- The command bans the account of that name or suspends it. -/
inductive Bars (h : BbsHost) (session : SessionId) (cmd : Command) (name : Username) : Prop where
  | ban : Asks h session cmd (.banUser name) → Bars h session cmd name
  | timeout {days : Nat} : Asks h session cmd (.timeoutUser name days) → Bars h session cmd name
  | review {r : SessionRecord} {pending : List Username} {index : Nat} {reply : String} :
      h.sessions.get? session = some r → r.workflow = .reviewPending pending index →
      pending[index]? = some name → cmd = .workflowReply reply →
      Text.toUppercase (Text.trim reply) = "B" → Bars h session cmd name

/-- The input changes the standing of the account, and whoever asks for it may do so: someone above
it who bars it while it is not barred, a Sysop above it who deletes it, a Sysop who takes a ban back,
and in the web panel any Aide who goes by another name. -/
inductive Moderated (h : BbsHost) (row : UserRow) : Input → Prop where
  | barred {session : SessionId} {cmd : Command} {level : PermissionLevel} :
      Bars h session cmd row.username → Caller h session level → .aide ≤ level →
      row.permissionLevel < level → (UserStore.reactivate h.store.now row).status ≠ .banned →
      Moderated h row (.command session cmd)
  | deleted {session : SessionId} {cmd : Command} {level : PermissionLevel} :
      Asks h session cmd (.deleteUser row.username) → Caller h session level → .sysop ≤ level →
      row.permissionLevel < level → row.status ≠ .deleted → Moderated h row (.command session cmd)
  | unbanned {session : SessionId} {cmd : Command} {level : PermissionLevel} :
      Asks h session cmd (.unbanUser row.username) → Caller h session level → .sysop ≤ level →
      row.status = .banned → Moderated h row (.command session cmd)
  | patched {username target : String} {body : UpdateUserBody} {caller : CurrentUser} :
      CallerOf h username caller → .aide ≤ caller.permissionLevel →
      username? target = some row.username → (body.status.isSome ∨ body.suspendDays.isSome) →
      Text.eqIgnoreAsciiCase username target = false →
      Moderated h row (.request username (.updateUser target body))

section Handlers
variable {now : Timestamp} {id : UserId} {row : UserRow} {session : SessionId} {h : BbsHost}

/-- Nobody who is served in the session may do this to the account. -/
def Withheld (id : UserId) (h : BbsHost) (session : SessionId) (required : PermissionLevel)
    (name : Username) (able : Auth → User → Prop) : Prop :=
  ∀ auth user, Served h session auth → required ≤ auth.level →
    h.store.db.users.get? user.id = some user.toUserRow → user.username = name → able auth user →
    user.id ≠ id

def mayBar (auth : Auth) (user : User) : Prop :=
  user.status ≠ .banned ∧ user.permissionLevel < auth.level

def mayDelete (auth : Auth) (user : User) : Prop :=
  user.status ≠ .deleted ∧ user.permissionLevel < auth.level

def mayUnban (_ : Auth) (user : User) : Prop := user.status = .banned

theorem refreshed_spared {h' : BbsHost} (spared : Spared now id row h)
    (refreshed : Refreshed session h h') : Spared now id row h' := by
  refine ⟨refreshed.later.now.trans spared.clock, ?_⟩
  rw [refreshed.db]
  exact spared.there

theorem outranks_lt {auth : Auth} {user : User} (outranked : ¬ (!outranks auth user) = true) :
    user.permissionLevel < auth.level := by
  simpa [outranks] using outranked

theorem handleBanUser_spares {name : Username} (spared : Spared now id row h)
    (withheld : Withheld id h session .aide name mayBar) :
    Spared now id row (handleBanUser session name h).2 := by
  apply named_spec fun h' => refreshed_spared spared
  intro auth user h' refreshed served aide stored named
  have spared' := refreshed_spared spared refreshed
  split
  · exact spared'
  · next unbanned =>
    split
    · exact spared'
    · next outranked =>
      have other := withheld auth user served aide stored named ⟨unbanned, outranks_lt outranked⟩
      have onward : (sparing now id row).holds (do
          db StoreError.display (UserStore.update user.id none (some .banned) none none)
          db StoreError.display (UserStore.clearSuspension user.id)
          endSessionsOf name "user banned"
          audit auth.username.text "ban" (some name.text) none
          pure (.text s!"'{name.text}' has been banned.") : HostM Response) := by
        apply (sparing now id row).seq ((sparing now id row).db (update_other other _ _))
        intro _
        apply (sparing now id row).seq ((sparing now id row).db (whereId_other other _))
        intro _
        apply (sparing now id row).seq ((sparing now id row).endSessionsOf _ _)
        intro _
        exact (sparing now id row).seq ((sparing now id row).audit _ _ _ _) fun _ =>
          (sparing now id row).reply _
      exact sparing_iff.mp onward h' spared'

theorem handleUnbanUser_spares {name : Username} (spared : Spared now id row h)
    (withheld : Withheld id h session .sysop name mayUnban) :
    Spared now id row (handleUnbanUser session name h).2 := by
  apply named_spec fun h' => refreshed_spared spared
  intro auth user h' refreshed served sysop stored named
  have spared' := refreshed_spared spared refreshed
  split
  · exact spared'
  · next banned =>
    have other := withheld auth user served sysop stored named (not_not.mp banned)
    have onward : (sparing now id row).holds (do
        db StoreError.display (UserStore.update user.id none (some .active) none none)
        db StoreError.display (UserStore.clearSuspension user.id)
        audit auth.username.text "unban" (some name.text) none
        pure (.text s!"'{name.text}' has been unbanned.") : HostM Response) := by
      apply (sparing now id row).seq ((sparing now id row).db (update_other other _ _))
      intro _
      apply (sparing now id row).seq ((sparing now id row).db (whereId_other other _))
      intro _
      exact (sparing now id row).seq ((sparing now id row).audit _ _ _ _) fun _ =>
        (sparing now id row).reply _
    exact sparing_iff.mp onward h' spared'

theorem handleDeleteUser_spares {name : Username} (spared : Spared now id row h)
    (withheld : Withheld id h session .sysop name mayDelete) :
    Spared now id row (handleDeleteUser session name h).2 := by
  apply named_spec fun h' => refreshed_spared spared
  intro auth user h' refreshed served sysop stored named
  have spared' := refreshed_spared spared refreshed
  split
  · exact spared'
  · next undeleted =>
    split
    · exact spared'
    · next outranked =>
      have other := withheld auth user served sysop stored named ⟨undeleted, outranks_lt outranked⟩
      have ousting : Power.oust ≠ .standing := by decide
      have onward : (sparing now id row).holds (do
          db StoreError.display (UserStore.update user.id none (some .deleted) none none)
          removeSessionsOf name
          audit auth.username.text "delete_user" (some name.text) none
          pure (.text s!"'{name.text}' has been deleted.") : HostM Response) := by
        apply (sparing now id row).seq ((sparing now id row).db (update_other other _ _))
        intro _
        apply (sparing now id row).seq ((sparing now id row).oust ousting _)
        intro _
        exact (sparing now id row).seq ((sparing now id row).audit _ _ _ _) fun _ =>
          (sparing now id row).reply _
      exact sparing_iff.mp onward h' spared'

theorem username?_text {name other : Username} (parsed : username? name.text = some other) :
    other = name := by
  unfold username? at parsed
  rcases read : Username.new name.text with e | again
  · rw [read] at parsed
    cases parsed
  · rw [read] at parsed
    cases parsed
    exact new_text read

theorem handleTimeoutUser_spares {name : Username} (days : Nat) (spared : Spared now id row h)
    (coherent : Coherent h.store.db) (withheld : Withheld id h session .aide name mayBar) :
    Spared now id row (handleTimeoutUser session name days h).2 := by
  apply named_spec fun h' => refreshed_spared spared
  intro auth user h' refreshed served aide stored named
  have spared' := refreshed_spared spared refreshed
  split
  · exact spared'
  · next unbanned =>
    split
    · exact spared'
    · next outranked =>
      have other := withheld auth user served aide stored named ⟨unbanned, outranks_lt outranked⟩
      have unnamed : username? name.text ≠ some row.username := by
        intro parsed
        obtain ⟨r, there, faces⟩ := spared.there
        have same : r.username = user.username :=
          faces.username.trans ((username?_text parsed).trans named.symm)
        exact other (coherent.names _ _ _ _ stored there same.symm)
      have onward : (sparing now id row).holds (do
          adminSuspendUser name.text days
          audit auth.username.text "timeout" (some name.text) (some (daysDetail days))
          pure (.text s!"'{name.text}' has been suspended for {days} day(s).") : HostM Response) := by
        apply (sparing now id row).seq (adminSuspendUser_other days unnamed)
        intro _
        exact (sparing now id row).seq ((sparing now id row).audit _ _ _ _) fun _ =>
          (sparing now id row).reply _
      exact sparing_iff.mp onward h' spared'

theorem reviewThen_spares {decide_ : HostM Response} (pending : List Username) (index : Nat)
    (decided : Spared now id row (decide_ h).2) :
    Spared now id row (reviewThen session pending index decide_ h).2 := by
  unfold reviewThen
  rw [bind_apply, attempt_apply]
  rcases ran : decide_ h with ⟨r, h'⟩
  rw [ran] at decided
  have advanced : Keeps (Spared now id row) (advanceReviewPending session pending index) :=
    sparing_iff.mp ((sparing now id row).advanceReviewPending _ _ _)
  cases r with
  | ok response => exact (advanced.bind fun _ => .ret _) h' decided
  | error e => exact (advanced.bind fun _ => .fail _) h' decided

theorem reviewReply_spares (pending : List Username) (index : Nat) (reply : String)
    (spared : Spared now id row h)
    (withheld : ∀ name, pending[index]? = some name → Text.toUppercase (Text.trim reply) = "B" →
      Withheld id h session .aide name mayBar) :
    Spared now id row (reviewReply session pending index reply h).2 := by
  have graded : Power.level ≠ .standing := by decide
  unfold reviewReply
  cases listed : pending[index]? with
  | none =>
      exact sparing_iff.mp ((sparing now id row).seq ((sparing now id row).clearWorkflow session)
        fun _ => (sparing now id row).reply _) h spared
  | some name =>
      dsimp only
      split
      · exact sparing_iff.mp ((sparing now id row).reviewThen
          ((sparing now id row).handleValidateUser graded session name) pending _) h spared
      · split
        · next bans =>
          exact reviewThen_spares pending _ (handleBanUser_spares spared (withheld name listed bans))
        · split
          · have left : (sparing now id row).holds
                (skipOrExit session pending (index + 1) (Text.toUppercase (Text.trim reply) = "X")) :=
              (sparing now id row).ite
                (fun _ => (sparing now id row).seq ((sparing now id row).clearWorkflow session)
                  fun _ => (sparing now id row).reply _)
                fun _ => (sparing now id row).advanceReviewPending _ _ _
            exact sparing_iff.mp left h spared
          · exact spared

end Handlers

/-! ## Commands -/

section Commands
variable {id : UserId} {row : UserRow} {session : SessionId} {cmd : Command} {h₀ h : BbsHost}

/-- What is known of the host when a command that was asked for is looked at. -/
structure Asked (h₀ : BbsHost) (session : SessionId) (cmd asked : Command) (h : BbsHost) : Prop where
  since : Since h₀ session h
  coherent : Coherent h.store.db
  asks : Asks h₀ session cmd asked

theorem lasting_asked (asked : Command) : Lasting fun h =>
    Spared h₀.store.now id row h ∧ Asked h₀ session cmd asked h where
  aside h s holds aside later :=
    ⟨(spared_invariant _ id row).aside h s holds.1 aside later,
      (since_lasting h₀ session).aside h s holds.2.since aside later, holds.2.coherent.aside aside,
      holds.2.asks⟩
  lift h s user holds later wrote := by
    refine ⟨(spared_invariant _ id row).lift h s user holds.1 later wrote,
      (since_lasting h₀ session).lift h s user holds.2.since later wrote, ?_, holds.2.asks⟩
    rw [wrote]
    exact holds.2.coherent.update user fun r => reactivate_username _ r
  ready h m holds ready :=
    ⟨(spared_invariant _ id row).quiet h m holds.1 ready.quiet,
      (since_lasting h₀ session).ready h m holds.2.since ready, holds.2.coherent, holds.2.asks⟩

/-- The account as it was when the command came. -/
theorem Since.account (since : Since h₀ session h) (stored₀ : h₀.store.db.users.get? id = some row)
    {user : User} (stored : h.store.db.users.get? user.id = some user.toUserRow) (same : user.id = id) :
    Faces h₀.store.now row user.toUserRow ∧ user.permissionLevel = row.permissionLevel := by
  obtain ⟨before, stored', faces, level⟩ := since.before stored
  rw [same, stored₀] at stored'
  cases stored'
  exact ⟨faces, level⟩

section Unmoderated
variable (stored₀ : h₀.store.db.users.get? id = some row)
  (unmoderated : ¬ Moderated h₀ row (.command session cmd))
include stored₀ unmoderated

theorem bar_withheld {name : Username} (since : Since h₀ session h)
    (bars : Bars h₀ session cmd name) : Withheld id h session .aide name mayBar := by
  rintro auth user served aide stored named ⟨unbanned, above⟩ same
  obtain ⟨faces, level⟩ := since.account stored₀ stored same
  rw [level] at above
  rw [← named, faces.username] at bars
  exact unmoderated (.barred bars (since.caller served aide) aide above (faces.unbanned unbanned))

theorem delete_withheld {name : Username} (asked : Asked h₀ session cmd (.deleteUser name) h) :
    Withheld id h session .sysop name mayDelete := by
  rintro auth user served sysop stored named ⟨undeleted, above⟩ same
  obtain ⟨faces, level⟩ := asked.since.account stored₀ stored same
  have asks := asked.asks
  rw [level] at above
  rw [← named, faces.username] at asks
  have aide : .aide ≤ auth.level := le_trans (by decide) sysop
  refine unmoderated (.deleted asks (asked.since.caller served aide) sysop above ?_)
  rcases faces.status with kept | ⟨banned, -⟩
  · rw [← kept]
    exact undeleted
  · rw [banned]
    exact UserStatus.noConfusion

theorem unban_withheld {name : Username} (asked : Asked h₀ session cmd (.unbanUser name) h) :
    Withheld id h session .sysop name mayUnban := by
  intro auth user served sysop stored named banned same
  obtain ⟨faces, -⟩ := asked.since.account stored₀ stored same
  have asks := asked.asks
  rw [← named, faces.username] at asks
  have aide : .aide ≤ auth.level := le_trans (by decide) sysop
  refine unmoderated (.unbanned asks (asked.since.caller served aide) sysop ?_)
  rcases faces.status with kept | ⟨-, active⟩
  · rw [← kept]
    exact banned
  · rw [show user.status = .banned from banned] at active
    cases active

theorem processCommand_spares (coherent : Coherent h₀.store.db) :
    Spared h₀.store.now id row (processCommand session cmd h₀).2 := by
  have begun : Spared h₀.store.now id row h₀ := ⟨rfl, row, stored₀, .inl rfl⟩
  apply (spared_invariant h₀.store.now id row).command lasting_asked ?_ ?_ ?_ ?_ h₀ begun
    fun _ asks => ⟨.refl h₀, coherent, asks⟩
  · intro target
    have moving : Power.move ≠ .standing := by decide
    exact sparing_iff.mp ((sparing h₀.store.now id row).handleChangeRoom moving session target)
  · intro c onReply h fresh spared asked
    have other (ordinary : ∀ p ∈ Conduct.takes c, p ≠ .standing) :
        Spared h₀.store.now id row (dispatch onReply session c h).2 :=
      sparing_iff.mp ((sparing h₀.store.now id row).dispatch ordinary fun text same =>
        absurd same (fresh text)) h spared
    cases c with
    | banUser name =>
        exact handleBanUser_spares spared
          (bar_withheld stored₀ unmoderated asked.since (.ban asked.asks))
    | timeoutUser name days =>
        exact handleTimeoutUser_spares days spared asked.coherent
          (bar_withheld stored₀ unmoderated asked.since (.timeout asked.asks))
    | unbanUser name =>
        exact handleUnbanUser_spares spared (unban_withheld stored₀ unmoderated asked)
    | deleteUser name =>
        exact handleDeleteUser_spares spared (delete_withheld stored₀ unmoderated asked)
    | _ => exact other (by simp [Conduct.takes])
  · intro workflow reply h replied unlisted known spared asked
    have other (ordinary : ∀ p ∈ Conduct.takesReply workflow, p ≠ .standing) :
        Spared h₀.store.now id row (dispatchReply processFresh session workflow reply h).2 :=
      sparing_iff.mp ((sparing h₀.store.now id row).dispatchReply
        (fun roomIds next same => absurd same (unlisted roomIds next)) ordinary reply) h spared
    cases workflow with
    | reviewPending pending index =>
        apply reviewReply_spares pending index reply spared
        intro name listed bans
        obtain ⟨r', found, reviewing⟩ := Option.map_eq_some_iff.mp known
        obtain ⟨r, found₀, -, -, same | none_⟩ := asked.since.session r' found
        · exact bar_withheld stored₀ unmoderated asked.since
            (.review found₀ (same.symm.trans reviewing) listed replied bans)
        · rw [reviewing] at none_
          cases none_
    | _ => exact other (by simp [Conduct.takesReply])
  · intro escape h spared _
    have free {p : Power} (other : p ≠ .standing) : (sparing h₀.store.now id row).has p := other
    exact sparing_iff.mp ((sparing h₀.store.now id row).restartAuth
      ((sparing h₀.store.now id row).createUserAndLogin (free (by decide)) (free (by decide))
        (free (by decide)) session)
      ((sparing h₀.store.now id row).finalizeLogin (free (by decide)) session) (free (by decide))
      escape) h spared

end Unmoderated
end Commands

/-! ## Requests -/

section Requests
variable {id : UserId} {row : UserRow} {h₀ : BbsHost}

theorem authorize_aide {username : String} {caller : CurrentUser} {h h' : BbsHost}
    (served : authorize username h = (.ok (.yes caller), h')) : .aide ≤ caller.permissionLevel := by
  unfold authorize at served
  rw [bind_apply, attempt_apply] at served
  rcases read : adminAccountLevel username h with ⟨r, h₁⟩
  rw [read] at served
  rcases r with e | level
  · cases served
  · rcases level with _ | level
    · cases served
    · dsimp only at served
      split at served
      · next high =>
        cases served
        exact high
      · cases served

/-- Nobody changes their own standing. -/
theorem updateRefusal_own {caller : CurrentUser} {target : String} {body : UpdateUserBody}
    (touches : body.status.isSome ∨ body.suspendDays.isSome)
    (own : Text.eqIgnoreAsciiCase caller.username target = true) :
    updateRefusal caller target body ≠ none := by
  have standing : body.touchesStanding = true := by
    unfold UpdateUserBody.touchesStanding
    rcases touches with status | days
    · rw [status]
      rfl
    · rw [days, Bool.or_true]
  intro passes
  unfold updateRefusal at passes
  obtain ⟨-, passes⟩ := LastSysop.unrefused passes
  obtain ⟨-, passes⟩ := LastSysop.unrefused passes
  obtain ⟨-, passes⟩ := LastSysop.unrefused passes
  obtain ⟨-, passes⟩ := LastSysop.unrefused passes
  obtain ⟨-, passes⟩ := LastSysop.unrefused passes
  obtain ⟨other, -⟩ := LastSysop.unrefused passes
  rw [standing, own] at other
  exact other rfl

theorem serve_spares {username : String} {request : WebRequest}
    (stored₀ : h₀.store.db.users.get? id = some row)
    (unmoderated : ¬ Moderated h₀ row (.request username request)) :
    Spared h₀.store.now id row (serve username request h₀).2 := by
  have begun : Spared h₀.store.now id row h₀ := ⟨rfl, row, stored₀, .inl rfl⟩
  have other (ordinary : ∀ p ∈ Conduct.takesRequest request, p ≠ .standing) :
      Spared h₀.store.now id row (serve username request h₀).2 :=
    sparing_iff.mp ((sparing h₀.store.now id row).serve fun _ =>
      (sparing h₀.store.now id row).handleRequest ordinary) h₀ begun
  cases request with
  | updateUser target body =>
      have kept := (spared_invariant h₀.store.now id row).toStable.authorize username h₀ begun
      unfold serve
      rw [bind_apply]
      rcases ran : authorize username h₀ with ⟨r, h⟩
      rw [ran] at kept
      rcases r with e | authorized
      · exact kept
      · cases authorized with
        | yes caller =>
            have known : CallerOf h₀ username caller := authorize_spec (by rw [ran])
            show Spared h₀.store.now id row (apiUpdateUser caller target body h).2
            by_cases own : (body.status.isSome ∨ body.suspendDays.isSome) ∧
                Text.eqIgnoreAsciiCase caller.username target = true
            · unfold apiUpdateUser
              cases refused : updateRefusal caller target body with
              | none => exact absurd refused (updateRefusal_own own.1 own.2)
              | some refusal => exact kept
            · have free (touches : body.status.isSome ∨ body.suspendDays.isSome) :
                  username? target ≠ some row.username := by
                intro named
                apply unmoderated
                refine .patched known (authorize_aide ran) named touches ?_
                rw [← known.1]
                exact Bool.eq_false_iff.mpr fun same => own ⟨touches, same⟩
              apply sparing_iff.mp ?_ h kept
              apply (sparing h₀.store.now id row).apiUpdateUser
              · apply adminUpdateUser_other
                intro named
                by_contra changes
                exact free (.inl (Option.isSome_iff_ne_none.mpr changes)) named
              · intro days asked
                exact adminSuspendUser_other days (free (.inr (by rw [asked]; rfl)))
        | no => exact kept
        | unavailable => exact kept
  | patchAccessPolicy patch =>
      apply other
      rintro p mem
      simp only [Conduct.takesRequest] at mem
      split at mem
      · simp only [List.mem_cons, List.not_mem_nil, or_false] at mem
        rcases mem with rfl | rfl <;> decide
      · cases mem
  | _ => exact other (by simp [Conduct.takesRequest])

end Requests

/-! ## Runs -/

section Runs
variable {id : UserId} {row : UserRow} {h : BbsHost}

theorem standing_next {input : Input} (coherent : Coherent h.store.db)
    (stored : h.store.db.users.get? id = some row) (unmoderated : ¬ Moderated h row input) :
    ∃ row', (deliver h input).store.db.users.get? id = some row' ∧ Faces h.store.now row row' := by
  have begun : Spared h.store.now id row h := ⟨rfl, row, stored, .inl rfl⟩
  have keeps {α : Type} {m : HostM α} (holds : (sparing h.store.now id row).holds m) :
      Spared h.store.now id row (m h).2 := sparing_iff.mp holds h begun
  have free {p : Power} (other : p ≠ .standing) : (sparing h.store.now id row).has p := other
  by_cases elapses : ∃ now clock faults, input = .elapse now clock faults
  · obtain ⟨now, clock, faults, rfl⟩ := elapses
    exact ⟨row, stored, .inl rfl⟩
  have spared : Spared h.store.now id row (deliver h input) := by
    cases input with
    | connect transport => exact keeps ((sparing h.store.now id row).open_ transport)
    | disconnect session =>
        exact keeps ((sparing h.store.now id row).close (free (by decide)) session)
    | command session cmd => exact processCommand_spares stored unmoderated coherent
    | restoreNode session pubkey ttlDays =>
        exact keeps ((sparing h.store.now id row).meshNodeRestore (free (by decide)) session pubkey
          ttlDays)
    | bindNode session pubkey =>
        exact keeps ((sparing h.store.now id row).meshNodeBind session pubkey)
    | unbindNode pubkey => exact keeps ((sparing h.store.now id row).meshNodeUnbind pubkey)
    | request username request => exact serve_spares stored unmoderated
    | elapse now clock faults => exact absurd ⟨now, clock, faults, rfl⟩ elapses
  exact spared.there

/-- The standing of an account is as it was, or a timeout has been lifted. -/
structure Standing (row row' : UserRow) : Prop where
  username : row'.username = row.username
  standing : row'.status = row.status ∧ row'.suspendedUntil = row.suspendedUntil ∨
    row.status = .banned ∧ row.suspendedUntil.isSome ∧ row'.status = .active ∧
      row'.suspendedUntil = none

theorem Standing.refl (row : UserRow) : Standing row row := ⟨rfl, .inl ⟨rfl, rfl⟩⟩

theorem Faces.ended {now : Timestamp} {row row' : UserRow} (faces : Faces now row row') :
    row'.status = row.status ∧ row'.suspendedUntil = row.suspendedUntil ∨
      UserStore.expired now row = true ∧ row'.status = .active ∧ row'.suspendedUntil = none := by
  rcases faces with kept | ended
  · exact .inl ⟨congrArg (·.2.1) kept, congrArg (·.2.2) kept⟩
  · have status : row'.status = (UserStore.reactivate now row).status := congrArg (·.2.1) ended
    have until_ : row'.suspendedUntil = (UserStore.reactivate now row).suspendedUntil :=
      congrArg (·.2.2) ended
    unfold UserStore.reactivate at status until_
    split at status
    · next expired =>
      rw [if_pos expired] at until_
      exact .inr ⟨expired, status, until_⟩
    · next active =>
      rw [if_neg active] at until_
      exact .inl ⟨status, until_⟩

theorem Standing.next {row row' row'' : UserRow} {now : Timestamp} (before : Standing row row')
    (faces : Faces now row' row'') : Standing row row'' := by
  refine ⟨faces.username.trans before.username, ?_⟩
  rcases faces.ended with ⟨status, until_⟩ | ⟨expired, active, cleared⟩
  · rw [status, until_]
    exact before.standing
  · unfold UserStore.expired at expired
    rw [Bool.and_eq_true] at expired
    have banned : row'.status = .banned := of_decide_eq_true expired.1
    have timed : row'.suspendedUntil.isSome := by
      cases until_ : row'.suspendedUntil with
      | none =>
          rw [until_] at expired
          cases expired.2
      | some time => rfl
    rcases before.standing with ⟨status, until_⟩ | ⟨-, -, active', -⟩
    · rw [status] at banned
      rw [until_] at timed
      exact .inr ⟨banned, timed, active, cleared⟩
    · rw [banned] at active'
      cases active'

/-- Nobody moderates the account who may. -/
def Undisturbed (id : UserId) (input : Input) (h : BbsHost) : Prop :=
  ∀ row, h.store.db.users.get? id = some row → ¬ Moderated h row input

/-- An account that is deleted or banned stays so, and an active one active, in every run in which
nobody moderates it who may. -/
theorem standing_stays {h' : BbsHost} (coherent : Coherent h.store.db)
    (stored : h.store.db.users.get? id = some row)
    (run : Reaches (fun input h h' => h' = deliver h input) (Undisturbed id) h h') :
    ∃ row', h'.store.db.users.get? id = some row' ∧ Standing row row' := by
  have kept : (∃ row', h'.store.db.users.get? id = some row' ∧ Standing row row') ∧
      Coherent h'.store.db := by
    refine run.invariant (I := fun h => (∃ row', h.store.db.users.get? id = some row' ∧
      Standing row row') ∧ Coherent h.store.db) ⟨⟨row, stored, .refl row⟩, coherent⟩ ?_
    rintro input t _ ⟨⟨row', stored', standing⟩, coherent⟩ undisturbed rfl
    obtain ⟨row'', stored'', faces⟩ := standing_next coherent stored' (undisturbed row' stored')
    exact ⟨⟨row'', stored'', standing.next faces⟩,
      Coherent.lasts.invariant.delivered input coherent fun _ _ _ => coherent⟩
  exact kept.1

end Runs

/-- Alice deletes Bob's account. -/
def farewell : BbsHost := List.foldl deliver Suspensions.staffed
  [.connect "telnet", .command 1 (.loginOneShot .alice "password"), .command 1 (.deleteUser .bob)]

theorem farewell_coherent : Coherent farewell.store.db :=
  Coherent.lasts.run (Reaches.follow_free deliver _ Suspensions.staffed) LastSysop.staffed_coherent

theorem unasked {h : BbsHost} {session : SessionId} {cmd asked : Command} (other : asked ≠ cmd)
    (fresh : ∀ reply, cmd ≠ .workflowReply reply) : ¬ Asks h session cmd asked := by
  rintro (same | ⟨reply, replied, -, -⟩)
  · exact other same
  · exact fresh reply replied

/-- She cannot take that back, as nothing bans him. -/
theorem standing_stays_bob : ∃ row, farewell.store.db.users.get? 2 = some row ∧
    row.status = .deleted ∧
    ∃ row', (deliver farewell (.command 1 (.unbanUser .bob))).store.db.users.get? 2 = some row' ∧
      Standing row row' := by
  have deleted : (farewell.store.db.users.get? 2).map (·.status) = some .deleted := by decide +kernel
  obtain ⟨row, stored, status⟩ := Option.map_eq_some_iff.mp deleted
  have fresh (reply : String) : Command.unbanUser .bob ≠ .workflowReply reply := Command.noConfusion
  have undisturbed : Undisturbed 2 (.command 1 (.unbanUser .bob)) farewell := by
    intro row' stored' moderated
    rw [stored] at stored'
    cases stored'
    cases moderated with
    | barred bars =>
        cases bars with
        | ban asks => exact unasked Command.noConfusion fresh asks
        | timeout asks => exact unasked Command.noConfusion fresh asks
        | review _ _ _ replied _ => exact fresh _ replied
    | deleted asks => exact unasked Command.noConfusion fresh asks
    | unbanned _ _ _ banned =>
        rw [status] at banned
        cases banned
  have run : Reaches.Follows deliver (Undisturbed 2) [.command 1 (.unbanUser .bob)] farewell :=
    ⟨undisturbed, trivial⟩
  exact ⟨row, stored, status, standing_stays farewell_coherent stored (Reaches.follow run)⟩

/-- But once she has banned the deleted account she can, and it is active again. -/
theorem deleted_revived : ((List.foldl deliver farewell
    [.command 1 (.banUser .bob), .command 1 (.unbanUser .bob)]).store.db.users.get? 2).map (·.status) =
      some .active := by decide +kernel

end SupplyDrop.Proof.Standings
