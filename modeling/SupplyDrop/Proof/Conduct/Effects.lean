import Mathlib
import SupplyDrop.Proof.ReadState
import SupplyDrop.Proof.Conduct.Ordinary

namespace SupplyDrop.Proof
open Library Store Host ReadState

/-! ## What the operations that take a power do to the database -/

/-- What of a room neither its place in the list nor its description is. -/
def settings (row : RoomRow) : String × Bool × PermissionLevel :=
  (row.name, row.readOnly, row.minPermissionLevel)

/-- The same rooms, in another order perhaps. -/
structure Reordered (rooms rooms' : RowTable RoomRow) : Prop where
  seq : rooms'.seq = rooms.seq
  rows : ∀ id, (rooms'.get? id).map settings = (rooms.get? id).map settings

theorem Reordered.refl (rooms : RowTable RoomRow) : Reordered rooms rooms := ⟨rfl, fun _ => rfl⟩

theorem Reordered.trans {rooms rooms' rooms'' : RowTable RoomRow} (first : Reordered rooms rooms')
    (rest : Reordered rooms' rooms'') : Reordered rooms rooms'' :=
  ⟨rest.seq.trans first.seq, fun id => (rest.rows id).trans (first.rows id)⟩

theorem Reordered.isSome {rooms rooms' : RowTable RoomRow} (h : Reordered rooms rooms')
    (id : RoomId) : (rooms'.get? id).isSome = (rooms.get? id).isSome := by
  have same := congrArg Option.isSome (h.rows id)
  simpa using same

theorem Reordered.map {rooms : RowTable RoomRow} {f : RoomId → RoomRow → RoomRow}
    (same : ∀ id r, settings (f id r) = settings r) : Reordered rooms (rooms.map f) := by
  refine ⟨rfl, fun id => ?_⟩
  rw [RowTable.get?_map, Option.map_map]
  exact congrArg (fun g => Option.map g _) (funext (same id))

inductive Effect (db : Database) : Power → Database → Prop where
  | kept (p : Power) : Effect db p db
  | enrolled {row : UserRow} (free : ∀ id r, db.users.get? id = some r → r.username ≠ row.username)
      (active : row.status = .active) (free_ : row.suspendedUntil = none) :
      Effect db .enrol { db with users := db.users.insert row }
  | notified {row : MessageRow} (sender : row.sender = .bbs) (direct : row.recipient.isSome) :
      Effect db .notify { db with messages := db.messages.insert row }
  | stood {id : UserId} {f : UserRow → UserRow}
      (same : ∀ r, (f r).username = r.username ∧ (f r).permissionLevel = r.permissionLevel) :
      Effect db .standing { db with users := db.users.update id f }
  | graded {id : UserId} {level : PermissionLevel} : Effect db .level { db with
      users := db.users.update id fun r => { r with permissionLevel := level } }
  | reset {id : UserId} {c : Credential}
      (known : (db.userCredentials id).isSome ∨ (db.users.get? id).isSome) :
      Effect db .reset { db with
        userCredentials := fun i => if i = id then some c else db.userCredentials i }
  | pardoned {id : UserId} : Effect db .pardon { db with
      userCredentials := fun i => if i = id then
        (db.userCredentials i).map fun c => { c with mustChange := false }
      else db.userCredentials i }
  | opened {row : RoomRow} {rooms : RowTable RoomRow} (same : Reordered (db.rooms.insert row) rooms) :
      Effect db .rooms { db with rooms }
  | edited {id : RoomId} {f : RoomRow → RoomRow} : Effect db .rooms { db with
      rooms := db.rooms.update id f }
  | razed {id : RoomId} {rooms : RowTable RoomRow} {state : UserId → RoomId → Option (Option MessageId)}
      (same : Reordered (db.rooms.erase id) rooms) : Effect db .raze { db with
        rooms
        roomMessages := db.roomMessages.filter fun p => p.1 ≠ id
        userRoomState := state }
  | posted {room : RoomId} {row : MessageRow} (present : (db.rooms.get? room).isSome)
      (open_ : row.recipient = none) : Effect db .post { db with
        messages := db.messages.insert row
        roomMessages := insert (room, db.messages.seq + 1) db.roomMessages }
  | mailed {row : MessageRow} (direct : row.recipient.isSome) :
      Effect db .post { db with messages := db.messages.insert row }
  | erased {id : MessageId} : Effect db .erase (afterDelete id db)

section Effects
variable {s : Storage}

theorem insertRow_kept {α : Type} {table : Database → RowTable α}
    {put : Database → RowTable α → Database} {violated : Database → Option StoreError} {row : α}
    {p : Power} (h : violated s.db = none → Effect s.db p (put s.db ((table s.db).insert row))) :
    Effect s.db p (insertRow table put violated row s).2.db := by
  obtain ⟨-, kept | ⟨valid, wrote⟩⟩ := insertRow_effect table put violated row s
  · rw [kept]
    exact .kept p
  · rw [wrote]
    exact h valid

/-- A transaction is rolled back, or does what its body does when it returns. -/
theorem transaction_kept {α : Type} {m : StoreM α} {p : Power}
    (h : ∀ s₁ a s₂, s₁.db = s.db → m s₁ = (.ok a, s₂) → Effect s.db p s₂.db) :
    Effect s.db p (transaction m s).2.db := by
  rcases ran : transaction m s with ⟨r, s'⟩
  cases r with
  | error e =>
      have kept := transaction_error (congrArg Prod.fst ran)
      rw [ran] at kept
      rw [show s'.db = s.db from kept]
      exact .kept p
  | ok a =>
      obtain ⟨s₁, s₂, begun, body, committed⟩ := transaction_ok ran
      rw [show s'.db = s₂.db from committed]
      exact h s₁ a s₂ begun body

theorem update_congr {α : Type} {t : RowTable α} {k : Int} {f g : α → α}
    (same : ∀ a, t.get? k = some a → f a = g a) : t.update k f = t.update k g := by
  unfold RowTable.update RowTable.map
  congr 1
  apply List.map_congr_left
  intro r mem
  dsimp only
  split
  · next eq =>
    rw [same r.2]
    exact (t.mem_rows_iff k r.2).mp (by rw [← eq]; exact mem)
  · rfl

/-- Setting the standing and the level of an account, and nothing else. -/
theorem update_fields (id : UserId) (status : Option UserStatus) (level : Option PermissionLevel)
    (s : Storage) :
    let s' := (UserStore.update id none status level none s).2
    Later s s' ∧ (s'.db = s.db ∨ s'.db = { s.db with users := s.db.users.update id fun r =>
      { r with status := status.getD r.status, permissionLevel := level.getD r.permissionLevel } }) := by
  obtain ⟨later, kept | ⟨row, stored, wrote⟩⟩ := update_effect id none status level none s
  · exact ⟨later, .inl kept⟩
  · refine ⟨later, .inr (wrote.trans ?_)⟩
    have fields : (s.db.users.update id fun r =>
        UserStore.Changes.onto ⟨none, status, level, none⟩ row r) = s.db.users.update id fun r =>
          { r with status := status.getD r.status, permissionLevel := level.getD r.permissionLevel } := by
      apply update_congr
      intro r found
      rw [stored] at found
      cases found
      rfl
    rw [fields]

theorem createUser_effect (username : Username) (name : Option String) (level : PermissionLevel)
    (createdAt : Timestamp) :
    Effect s.db .enrol (UserStore.create username name level createdAt s).2.db := by
  apply insertRow_kept
  intro valid
  refine .enrolled (fun id r stored same => ?_) rfl rfl
  have taken : (s.db.users.rows.any fun r => r.2.username = username) = true := by
    rw [List.any_eq_true]
    exact ⟨(id, r), (s.db.users.mem_rows_iff id r).mpr stored, by simpa using same⟩
  simp [taken] at valid

theorem setNextOf_rooms {room next : Option RoomId} {s s' : Storage} {u : Unit}
    (h : RoomStore.setNextOf room next s = (.ok u, s')) :
    ∃ rooms, Reordered s.db.rooms rooms ∧ s'.db = { s.db with rooms } := by
  cases room with
  | none =>
      cases h
      exact ⟨_, .refl _, rfl⟩
  | some id =>
      have ran : RoomStore.setNext id next s = (.ok u, s') := h
      refine ⟨_, ?_, execute_ok ran⟩
      apply Reordered.map
      intro i r
      split <;> rfl

theorem setPrevOf_rooms {room prev : Option RoomId} {s s' : Storage} {u : Unit}
    (h : RoomStore.setPrevOf room prev s = (.ok u, s')) :
    ∃ rooms, Reordered s.db.rooms rooms ∧ s'.db = { s.db with rooms } := by
  cases room with
  | none =>
      cases h
      exact ⟨_, .refl _, rfl⟩
  | some id =>
      have ran : RoomStore.setPrev id prev s = (.ok u, s') := h
      refine ⟨_, ?_, execute_ok ran⟩
      apply Reordered.map
      intro i r
      split <;> rfl

theorem createRoom_effect (name : String) (description : Option String) (readOnly : Bool)
    (level : PermissionLevel) (createdAt : Timestamp) :
    Effect s.db .rooms (RoomStore.create name description readOnly level createdAt s).2.db := by
  apply transaction_kept
  intro s₁ a s₂ begun body
  obtain ⟨tail, s₃, read, body⟩ := Program.bind_eq_ok body
  obtain ⟨id, s₄, inserted, body⟩ := Program.bind_eq_ok body
  obtain ⟨_, s₅, linked, body⟩ := Program.bind_eq_ok body
  cases body
  obtain ⟨rooms, same, wrote⟩ := setNextOf_rooms linked
  rw [(insertRow_ok inserted).2.2, (query_ok read).2, begun] at same wrote
  rw [wrote]
  exact .opened same

theorem updateRoom_effect (id : RoomId) (description : Option (Option String))
    (readOnly : Option Bool) (level : Option PermissionLevel) :
    Effect s.db .rooms (RoomStore.update id description readOnly level s).2.db := by
  have same := query_db (fun db => db.rooms.get? id) s
  unfold RoomStore.update
  rw [Program.bind_apply]
  rcases read : query (fun db => db.rooms.get? id) s with ⟨r, s₁⟩
  rw [read] at same
  cases r with
  | error e =>
      rw [show s₁.db = s.db from same]
      exact .kept _
  | ok row =>
      cases row with
      | none =>
          rw [show (Program.fail _ s₁ : Except StoreError Unit × Storage).2.db = s.db from same]
          exact .kept _
      | some current =>
          dsimp only at same ⊢
          obtain ⟨-, kept | wrote⟩ := execute_effect (fun db => { db with
            rooms := db.rooms.update id fun r =>
              { r with
                description := description.getD current.description
                readOnly := readOnly.getD current.readOnly
                minPermissionLevel := level.getD current.minPermissionLevel } }) s₁
          · rw [kept, same]
            exact .kept _
          · rw [wrote, same]
            exact .edited

theorem deleteRoom_rooms {id : RoomId} {s s' : Storage} {u : Unit}
    (h : RoomStore.deleteRow id s = (.ok u, s')) : ∃ rooms state,
      Reordered (s.db.rooms.erase id) rooms ∧ s'.db = { s.db with
        rooms
        roomMessages := s.db.roomMessages.filter fun p => p.1 ≠ id
        userRoomState := state } := by
  refine ⟨_, _, ?_, execute_ok h⟩
  apply Reordered.map
  intro i r
  rfl

theorem Reordered.erase {rooms rooms' : RowTable RoomRow} (h : Reordered rooms rooms')
    (id : RoomId) : Reordered (rooms.erase id) (rooms'.erase id) := by
  refine ⟨h.seq, fun i => ?_⟩
  rw [RowTable.get?_erase, RowTable.get?_erase]
  split
  · rfl
  · exact h.rows i

/-- The room that `delete` removes, and nothing else of the rooms. -/
theorem deleteRoom_ok {id : RoomId} {s s' : Storage} {u : Unit}
    (h : RoomStore.delete id s = (.ok u, s')) : ∃ rooms state,
      Reordered (s.db.rooms.erase id) rooms ∧ s'.db = { s.db with
        rooms
        roomMessages := s.db.roomMessages.filter fun p => p.1 ≠ id
        userRoomState := state } := by
  obtain ⟨s₁, s₂, begun, body, committed⟩ := transaction_ok h
  obtain ⟨row, s₃, read, body⟩ := Program.bind_eq_ok body
  have same := (query_ok read).2
  cases row with
  | none => cases body
  | some current =>
      obtain ⟨_, s₄, next, body⟩ := Program.bind_eq_ok body
      obtain ⟨_, s₅, prev, body⟩ := Program.bind_eq_ok body
      obtain ⟨rooms₁, same₁, wrote₁⟩ := setNextOf_rooms next
      obtain ⟨rooms₂, same₂, wrote₂⟩ := setPrevOf_rooms prev
      obtain ⟨rooms, state, same₃, wrote₃⟩ := deleteRoom_rooms body
      have order := same₁.trans (by rw [wrote₁] at same₂; exact same₂)
      rw [same, begun] at order wrote₁
      refine ⟨rooms, state, (order.erase id).trans ?_, ?_⟩
      · rw [wrote₂] at same₃
        exact same₃
      · rw [committed, wrote₃, wrote₂, wrote₁]

theorem joined_present {room : RoomId} {id : MessageId} {s s' : Storage} {u : Unit}
    (h : MessageStore.insertRoomMessage room id s = (.ok u, s')) : (s.db.rooms.get? room).isSome := by
  obtain ⟨rooms, s₁, got, rest⟩ := Program.bind_eq_ok h
  obtain ⟨_, s₂, started, rest⟩ := Program.bind_eq_ok rest
  obtain ⟨rfl, rfl⟩ := Program.gets_ok got
  dsimp only at rest
  split at rest
  · cases rest
  · next there => simpa [Option.isSome_iff_ne_none] using there

theorem postToRoom_effect (room : RoomId) (sender : Username) (content : String)
    (time : Timestamp) :
    Effect s.db .post (MessageStore.postToRoom room sender content time s).2.db := by
  apply transaction_kept
  intro s₁ a s₂ begun body
  obtain ⟨id, s₃, inserted, body⟩ := Program.bind_eq_ok body
  obtain ⟨_, s₄, joined, body⟩ := Program.bind_eq_ok body
  cases body
  obtain ⟨rfl, filled⟩ := insertMessage_ok inserted
  have present := joined_present joined
  have wrote := insertRoomMessage_ok joined
  rw [filled, begun] at present wrote
  rw [wrote]
  exact .posted present rfl

theorem deleteMessage_effect (id : MessageId) :
    Effect s.db .erase (MessageStore.delete id s).2.db := by
  apply transaction_kept
  intro s₁ a s₂ begun body
  obtain ⟨_, s₃, rescued, body⟩ := Program.bind_eq_ok body
  obtain ⟨_, s₄, found, body⟩ := Program.bind_eq_ok body
  obtain ⟨_, s₅, deleted, body⟩ := Program.bind_eq_ok body
  cases body
  obtain ⟨-, rfl⟩ := Program.gets_ok found
  rw [execute_ok deleted, execute_ok rescued, begun]
  exact .erased

theorem whereId_kept {id : UserId} {f : UserRow → UserRow} (s : Storage)
    (same : ∀ r, (f r).username = r.username ∧ (f r).permissionLevel = r.permissionLevel) :
    Effect s.db .standing (UserStore.whereId id f s).2.db := by
  obtain ⟨-, kept | wrote⟩ := whereId_effect id f s
  · rw [kept]
    exact .kept _
  · rw [wrote]
    exact .stood same

theorem generateTempPassword_reads : Reads CredentialStore.generateTempPassword :=
  .bind .draw fun _ => .bind (.gets _) fun _ => .ret _

theorem reads_then {α β : Type} {m : StoreM α} {f : α → StoreM β} {p : Power} (reads : Reads m)
    (rest : ∀ a s₁, s₁.db = s.db → Effect s.db p (f a s₁).2.db) :
    Effect s.db p ((m >>= f) s).2.db := by
  have same := (reads s).1
  rw [Program.bind_apply]
  rcases ran : m s with ⟨r, s₁⟩
  rw [ran] at same
  cases r with
  | ok a => exact rest a s₁ same
  | error e =>
      rw [show s₁.db = s.db from same]
      exact .kept p

theorem then_returns {α β : Type} {m : StoreM α} {b : β} {p : Power} {s₁ : Storage}
    (h : Effect s.db p (m s₁).2.db) : Effect s.db p ((m >>= fun _ => pure b) s₁).2.db := by
  rw [Program.bind_apply]
  rcases ran : m s₁ with ⟨r, s₂⟩
  rw [ran] at h
  cases r <;> exact h

theorem resetPassword_effect (id : UserId) (now : Timestamp) :
    Effect s.db .reset (CredentialStore.resetToTempPassword id now s).2.db := by
  apply reads_then generateTempPassword_reads
  intro temp s₁ same₁
  rw [← same₁]
  apply reads_then (.hash temp)
  intro phc s₂ same₂
  rw [← same₂]
  apply then_returns
  rcases (putHash_effect id phc now (some true) s₂).2 with kept | ⟨known, wrote⟩
  · rw [kept]
    exact .kept _
  · rw [wrote]
    exact .reset known

end Effects

/-- What is only shown is only read. -/
theorem show_reads {α : Type} {m : StoreM α} (h : Powered .show m) : Reads m := by
  cases h with
  | getMessage id => exact .query _
  | page room after limit => exact .listInRoom _ _ _
  | directPage username after limit => exact .listDirect _ _ _
  | newest auth =>
      unfold newestFor
      split
      · exact .bind (.listDirect _ _ _) fun _ => .ret _
      · exact .bind (.query _) fun _ => .ret _
  | recent room limit => exact .query _
  | next room cursor => exact .query _
  | previous room cursor => exact .query _
  | nextDirect username cursor => exact .query _
  | previousDirect username cursor => exact .query _

theorem powered_effect {p : Power} {α : Type} {m : StoreM α} (h : Powered p m) (s : Storage) :
    Effect s.db p (m s).2.db := by
  by_cases shows : p = .show
  · subst shows
    rw [(show_reads h s).1]
    exact .kept _
  cases h with
  | createUser username name level createdAt => exact createUser_effect _ _ _ _
  | notifyUser recipient content time => exact insertRow_kept fun _ => .notified rfl rfl
  | setStatus id status =>
      obtain ⟨-, kept | wrote⟩ := update_fields id (some status) none s
      · rw [kept]
        exact .kept _
      · rw [wrote]
        exact .stood fun _ => ⟨rfl, rfl⟩
  | suspend id until_ => exact whereId_kept s fun _ => ⟨rfl, rfl⟩
  | clearSuspension id => exact whereId_kept s fun _ => ⟨rfl, rfl⟩
  | setLevel id level =>
      obtain ⟨-, kept | wrote⟩ := update_fields id none (some level) s
      · rw [kept]
        exact .kept _
      · rw [wrote]
        exact .graded
  | resetPassword id now => exact resetPassword_effect id now
  | clearMustChange id =>
      obtain ⟨-, kept | wrote⟩ := execute_effect (fun db => { db with
        userCredentials := fun i => if i = id then
          (db.userCredentials i).map fun c => { c with mustChange := false }
        else db.userCredentials i }) s
      · rw [show (CredentialStore.clearMustChange id s).2.db = s.db from kept]
        exact .kept _
      · rw [show (CredentialStore.clearMustChange id s).2.db = _ from wrote]
        exact .pardoned
  | createRoom name description readOnly level createdAt => exact createRoom_effect _ _ _ _ _
  | updateRoom id description readOnly level => exact updateRoom_effect _ _ _ _
  | deleteRoom id =>
      rcases ran : RoomStore.delete id s with ⟨r, s'⟩
      cases r with
      | error e =>
          have kept := transaction_error (congrArg Prod.fst ran)
          rw [show transaction _ s = _ from ran] at kept
          rw [show s'.db = s.db from kept]
          exact .kept _
      | ok u =>
          obtain ⟨rooms, state, same, wrote⟩ := deleteRoom_ok ran
          rw [show s'.db = _ from wrote]
          exact .razed same
  | postToRoom room sender content time => exact postToRoom_effect _ _ _ _
  | postDirect sender recipient content time => exact insertRow_kept fun _ => .mailed rfl
  | deleteMessage id => exact deleteMessage_effect id
  | _ => exact absurd rfl shows

end SupplyDrop.Proof
