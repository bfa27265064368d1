import Mathlib
import SupplyDrop.Proof.Accounts
import SupplyDrop.Proof.Conduct.Rules

namespace SupplyDrop.Proof
open Library Store Host

/-! ## What ordinary operations leave as it is -/

/-- What of an account its name, its level and its standing are. -/
def core (row : UserRow) : Username × PermissionLevel × UserStatus × Option Timestamp :=
  (row.username, row.permissionLevel, row.status, row.suspendedUntil)

/-- The account must choose a new password before it is let in. -/
def flagged (db : Database) (id : UserId) : Bool :=
  ((db.userCredentials id).map (·.mustChange)).getD false

structure Aside (db db' : Database) : Prop where
  users : ∀ id, (db'.users.get? id).map core = (db.users.get? id).map core
  seq : db'.users.seq = db.users.seq
  rooms : db'.rooms = db.rooms
  messages : db'.messages = db.messages
  roomMessages : db'.roomMessages = db.roomMessages
  flags : ∀ id, flagged db' id = flagged db id
  known : ∀ id, (db'.userCredentials id).isSome →
    (db.userCredentials id).isSome ∨ (db.users.get? id).isSome

theorem Aside.refl (db : Database) : Aside db db :=
  ⟨fun _ => rfl, rfl, rfl, rfl, rfl, fun _ => rfl, fun _ => .inl⟩

theorem Aside.isSome {db db' : Database} (h : Aside db db') (id : UserId) :
    (db'.users.get? id).isSome = (db.users.get? id).isSome := by
  have same := congrArg Option.isSome (h.users id)
  simpa using same

/-- An account that is as it was, but for what is not its core. -/
theorem Aside.before {db db' : Database} (h : Aside db db') {id : UserId} {row' : UserRow}
    (stored : db'.users.get? id = some row') :
    ∃ row, db.users.get? id = some row ∧ core row = core row' := by
  have same := h.users id
  rw [stored] at same
  exact Option.map_eq_some_iff.mp same.symm

theorem Aside.trans {db db' db'' : Database} (first : Aside db db') (rest : Aside db' db'') :
    Aside db db'' where
  users id := (rest.users id).trans (first.users id)
  seq := rest.seq.trans first.seq
  rooms := rest.rooms.trans first.rooms
  messages := rest.messages.trans first.messages
  roomMessages := rest.roomMessages.trans first.roomMessages
  flags id := (rest.flags id).trans (first.flags id)
  known := by
    intro id stored
    rcases rest.known id stored with between | there
    · exact first.known id between
    · rw [first.isSome] at there
      exact .inr there

/-- Calls that change nothing but what `Aside` lets change. -/
def mild : Discipline Storage StoreError :=
  .along (fun s s' => Aside s.db s'.db ∧ Later s s') (fun s => ⟨.refl s.db, .refl s⟩)
    fun _ _ _ first rest => ⟨first.1.trans rest.1, first.2.trans rest.2⟩

namespace mild
variable {α : Type}

theorem of_reads {m : StoreM α} (h : Reads m) : mild.holds m := by
  intro s
  obtain ⟨db, later⟩ := h s
  refine ⟨⟨?_, later⟩, fun _ _ => trivial⟩
  rw [db]
  exact .refl s.db

theorem modify {f : Storage → Storage} (h : ∀ s, Aside s.db (f s).db ∧ Later s (f s)) :
    mild.holds (Program.modify f) :=
  fun s => ⟨h s, fun _ _ => trivial⟩

theorem execute {f : Database → Database} (h : ∀ db, Aside db (f db)) : mild.holds (execute f) :=
  mild.seq (of_reads .statement) fun _ =>
    modify fun s => ⟨h s.db, (Later.refl s).wrote _⟩

/-- Where only tables change that no one looks at here. -/
theorem elsewhere {db db' : Database} (users : db'.users = db.users) (rooms : db'.rooms = db.rooms)
    (messages : db'.messages = db.messages) (roomMessages : db'.roomMessages = db.roomMessages)
    (credentials : db'.userCredentials = db.userCredentials) : Aside db db' := by
  refine ⟨fun id => by rw [users], by rw [users], rooms, messages, roomMessages, fun id => ?_, ?_⟩
  · rw [flagged, flagged, credentials]
  · rw [credentials]
    exact fun _ => .inl

theorem insertRow {α : Type} {table : Database → RowTable α}
    {put : Database → RowTable α → Database} {violated : Database → Option StoreError} {row : α}
    (h : ∀ db rows, Aside db (put db rows)) : mild.holds (insertRow table put violated row) := by
  intro s
  obtain ⟨later, kept | ⟨-, wrote⟩⟩ := insertRow_effect table put violated row s
  · refine ⟨⟨?_, later⟩, fun _ _ => trivial⟩
    rw [kept]
    exact .refl s.db
  · refine ⟨⟨?_, later⟩, fun _ _ => trivial⟩
    rw [wrote]
    exact h s.db _

theorem updateUser (id : UserId) (name : Option (Option String)) (login : Option Timestamp) :
    mild.holds (UserStore.update id name none none login) := by
  intro s
  obtain ⟨later, kept | ⟨row, stored, wrote⟩⟩ := update_effect id name none none login s
  · refine ⟨⟨?_, later⟩, fun _ _ => trivial⟩
    rw [kept]
    exact .refl s.db
  · refine ⟨⟨?_, later⟩, fun _ _ => trivial⟩
    rw [wrote]
    refine ⟨fun i => ?_, rfl, rfl, rfl, rfl, fun _ => rfl, fun _ => .inl⟩
    dsimp only
    rw [RowTable.get?_update]
    split
    · next same =>
      rw [same, stored]
      rfl
    · rfl

theorem putHash (id : UserId) (phcHash : String) (updatedAt : Timestamp) :
    mild.holds (CredentialStore.putHash id phcHash updatedAt none) := by
  intro s
  obtain ⟨later, kept | ⟨known, wrote⟩⟩ := putHash_effect id phcHash updatedAt none s
  · refine ⟨⟨?_, later⟩, fun _ _ => trivial⟩
    rw [kept]
    exact .refl s.db
  · refine ⟨⟨?_, later⟩, fun _ _ => trivial⟩
    rw [wrote]
    refine ⟨fun _ => rfl, rfl, rfl, rfl, rfl, ?_, ?_⟩
    · intro i
      unfold flagged
      dsimp only
      split
      · next same =>
        rw [same]
        rfl
      · rfl
    · intro i stored
      dsimp only at stored
      split at stored
      · next same =>
        rw [same]
        exact known
      · exact .inl stored

theorem setPassword (id : UserId) (password : String) (now : Timestamp) :
    mild.holds (CredentialStore.setPassword id password now) :=
  mild.seq (of_reads (.hash password)) fun _ => putHash id _ now

theorem verifyPassword (id : UserId) (candidate : String) (now : Timestamp) :
    mild.holds (CredentialStore.verifyPassword id candidate now) := by
  apply mild.seq (of_reads (.query _))
  intro row
  cases row with
  | none => exact mild.ret trivial
  | some credential =>
      apply mild.seq (of_reads (.gets _))
      intro argon2
      split
      · exact mild.fail
      · apply mild.ite
        · intro _
          apply mild.seq (of_reads .draw)
          intro _
          apply mild.ite
          · intro _
            have rehashed := mild.attempt (setPassword id candidate now)
            exact mild.seq (mild.ensures_holds rehashed) fun _ => mild.ret trivial
          · intro _
            exact mild.ret trivial
        · intro _
          exact mild.ret trivial

theorem bindNode (pubkey : PublicKey) (id : UserId) (now : Timestamp) :
    mild.holds (NodeCredentialStore.upsert pubkey id now) := by
  apply mild.seq (of_reads .statement)
  intro _
  apply mild.seq (of_reads (.gets _))
  intro db
  apply mild.ite
  · intro _
    exact mild.fail
  · intro _
    exact modify fun s => ⟨elsewhere rfl rfl rfl rfl rfl, (Later.refl s).wrote _⟩

theorem markRead (user : UserId) (room : RoomId) (id : MessageId) :
    mild.holds (MessageStore.markRead user room id) := by
  apply mild.seq (of_reads .statement)
  intro _
  apply mild.seq (of_reads (.gets _))
  intro db
  apply mild.ite
  · intro _
    exact mild.fail
  · intro _
    exact modify fun s => ⟨elsewhere rfl rfl rfl rfl rfl, (Later.refl s).wrote _⟩

end mild

theorem ordinary_mild {α : Type} {m : StoreM α} (h : Ordinary m) : mild.holds m := by
  cases h with
  | getUser id => exact mild.of_reads (.getUser id)
  | findUser username => exact mild.of_reads (.findUser username)
  | listUsers status limit offset => exact mild.of_reads (.listUsers status limit offset)
  | touchUser id name login => exact mild.updateUser id name login
  | verifyPassword id candidate now => exact mild.verifyPassword id candidate now
  | setPassword id password now => exact mild.setPassword id password now
  | mustChange id => exact mild.of_reads (.query _)
  | lookupNode pubkey ttlDays => exact mild.of_reads (.lookupNode _ _)
  | bindNode pubkey id now => exact mild.bindNode pubkey id now
  | unbindNode pubkey => exact mild.execute fun db => mild.elsewhere rfl rfl rfl rfl rfl
  | getRoom id => exact mild.of_reads (.query _)
  | findRoom name => exact mild.of_reads (.query _)
  | listReadable level => exact mild.of_reads (.listReadable level)
  | listRooms => exact mild.of_reads (.query _)
  | isVisible msg room =>
      apply mild.of_reads
      unfold isVisibleFrom
      split
      · exact .ret _
      · exact .query _
  | markRead user room id => exact mild.markRead user room id
  | unread user room => exact mild.of_reads (.query _)
  | unreadDirect username user room => exact mild.of_reads (.query _)
  | lastRead user room => exact mild.of_reads (.query _)
  | hasReadState user room => exact mild.of_reads (.query _)
  | count room => exact mild.of_reads (.query _)
  | countDirect username => exact mild.of_reads (.query _)
  | blocksBy blocker => exact mild.of_reads (.query _)
  | isBlocking blocker blocked => exact mild.of_reads (.query _)
  | block blocker blocked =>
      apply mild.seq (mild.of_reads (.query _))
      intro newest
      exact mild.execute fun db => mild.elsewhere rfl rfl rfl rfl rfl
  | unblock blocker blocked => exact mild.execute fun db => mild.elsewhere rfl rfl rfl rfl rfl
  | hidden id blocker blocked => exact mild.of_reads (.hidden id blocker blocked)
  | audit actor action target detail =>
      apply mild.seq (mild.of_reads (.gets _))
      intro now
      have written : mild.holds (insertRow (·.auditLog) (fun db auditLog => { db with auditLog })
          (fun _ => none) ⟨actor, action, target, detail, .ofTimestamp now⟩) :=
        mild.insertRow fun db rows => mild.elsewhere rfl rfl rfl rfl rfl
      exact mild.seq written fun _ => mild.ret trivial

end SupplyDrop.Proof
