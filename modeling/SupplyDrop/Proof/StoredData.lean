import Mathlib
import SupplyDrop.Library.Run
import SupplyDrop.Proof.Conduct.Effects
import SupplyDrop.Proof.Conduct.Invariant
import SupplyDrop.Proof.RoomOrder

namespace SupplyDrop.Proof.StoredData
open Library Library.Links Library.Program Store Store.Invariants Host RoomWalk RoomOrder

/-- What transports and web admins ask for, one thing after the other. -/
abbrev Runs : BbsHost → BbsHost → Prop :=
  Reaches (fun input h h' => h' = deliver h input) fun _ _ => True

/-! ## Facts about the database alone -/

/-- A fact about the database that nothing spoils that the host does to its store. -/
structure Lasts (I : Database → Prop) : Prop where
  aside : ∀ db db', I db → Aside db db' → I db'
  update : ∀ db id (f : UserRow → UserRow), (∀ r, (f r).username = r.username) → I db →
    I { db with users := db.users.update id f }
  powered : ∀ {p : Power} {α : Type} {m : StoreM α}, Powered p m → KeepsDb I m

namespace Lasts
variable {I : Database → Prop} (lasts : Lasts I)
include lasts

theorem invariant : Invariant (fun h => I h.store.db) fun _ => True where
  aside h s holds aside _ := lasts.aside _ _ holds aside
  lift h s id holds _ wrote := by
    rw [wrote]
    exact lasts.update _ id _ (fun r => reactivate_username _ r) holds
  quiet h m holds _ := holds
  powered powered _ h holds := lasts.powered powered h.store holds
  patch id status level _ _ h holds := by
    obtain ⟨-, kept | wrote⟩ := update_fields id status level h.store
    · show I _
      rw [kept]
      exact holds
    · show I _
      rw [wrote]
      refine lasts.update _ id (fun r => { r with
        status := status.getD r.status, permissionLevel := level.getD r.permissionLevel }) ?_ holds
      exact fun _ => rfl
  bind _ _ _ _ _ _ _ holds := holds
  hold _ _ _ _ _ _ holds := holds
  guest _ _ _ holds := holds
  move _ _ _ _ holds := holds
  draft _ _ _ _ _ holds := holds
  conclude _ _ _ _ holds := holds

theorem run {h h' : BbsHost} (run : Runs h h') (holds : I h.store.db) : I h'.store.db := by
  apply run.invariant (I := fun h => I h.store.db) holds
  rintro input t _ holds _ rfl
  exact lasts.invariant.delivered input holds fun _ _ _ => holds

end Lasts

/-! ## What becomes of what is stored -/

/-- Accounts stay under their names, messages as they are and in the room they were posted to, and
a number that was once given is not given again. -/
structure Onward (db db' : Database) : Prop where
  accounts : ∀ id row, db.users.get? id = some row →
    ∃ row', db'.users.get? id = some row' ∧ row'.username = row.username
  joined : ∀ id row', db'.users.get? id = some row' → (db.users.get? id).isSome ∨ db.users.seq < id
  messages : ∀ id row', db'.messages.get? id = some row' →
    db.messages.get? id = some row' ∨ db.messages.seq < id
  places : ∀ room id, (room, id) ∈ db'.roomMessages →
    (room, id) ∈ db.roomMessages ∨ db.messages.seq < id
  userSeq : db.users.seq ≤ db'.users.seq
  messageSeq : db.messages.seq ≤ db'.messages.seq

namespace Onward
variable {db db' db'' : Database}

theorem refl (db : Database) : Onward db db where
  accounts _ row stored := ⟨row, stored, rfl⟩
  joined _ row stored := .inl (by rw [stored]; rfl)
  messages _ _ stored := .inl stored
  places _ _ posted := .inl posted
  userSeq := le_refl _
  messageSeq := le_refl _

theorem trans (first : Onward db db') (rest : Onward db' db'') : Onward db db'' where
  accounts id row stored := by
    obtain ⟨row', stored', same⟩ := first.accounts id row stored
    obtain ⟨row'', stored'', same'⟩ := rest.accounts id row' stored'
    exact ⟨row'', stored'', same'.trans same⟩
  joined id row'' stored'' := by
    rcases rest.joined id row'' stored'' with there | new
    · obtain ⟨row', stored'⟩ := Option.isSome_iff_exists.mp there
      exact first.joined id row' stored'
    · exact .inr (lt_of_le_of_lt first.userSeq new)
  messages id row'' stored'' := by
    rcases rest.messages id row'' stored'' with stored' | new
    · exact first.messages id row'' stored'
    · exact .inr (lt_of_le_of_lt first.messageSeq new)
  places room id posted'' := by
    rcases rest.places room id posted'' with posted' | new
    · exact first.places room id posted'
    · exact .inr (lt_of_le_of_lt first.messageSeq new)
  userSeq := first.userSeq.trans rest.userSeq
  messageSeq := first.messageSeq.trans rest.messageSeq

/-- Where no account and no message changes. -/
theorem elsewhere (users : db'.users = db.users) (messages : db'.messages = db.messages)
    (places : db'.roomMessages ⊆ db.roomMessages) : Onward db db' where
  accounts id row stored := ⟨row, by rw [users]; exact stored, rfl⟩
  joined id row stored := by
    rw [users] at stored
    exact .inl (by rw [stored]; rfl)
  messages id row stored := by
    rw [messages] at stored
    exact .inl stored
  places room id posted := .inl (places posted)
  userSeq := by rw [users]
  messageSeq := by rw [messages]

theorem aside (aside : Aside db db') : Onward db db' where
  accounts id row stored := by
    have same := aside.users id
    rw [stored] at same
    obtain ⟨row', stored', eq⟩ := Option.map_eq_some_iff.mp same
    exact ⟨row', stored', congrArg (·.1) eq⟩
  joined id row' stored := by
    rw [← aside.isSome id, stored]
    exact .inl rfl
  messages id row stored := by
    rw [aside.messages] at stored
    exact .inl stored
  places room id posted := by
    rw [aside.roomMessages] at posted
    exact .inl posted
  userSeq := aside.seq.ge
  messageSeq := by rw [aside.messages]

theorem update (id : UserId) {f : UserRow → UserRow} (same : ∀ r, (f r).username = r.username) :
    Onward db { db with users := db.users.update id f } where
  accounts i row stored := by
    dsimp only
    rw [RowTable.get?_update, stored]
    split
    · exact ⟨f row, rfl, same row⟩
    · exact ⟨row, rfl, rfl⟩
  joined i row' stored := by
    dsimp only at stored
    rw [RowTable.get?_update] at stored
    split at stored
    · obtain ⟨row, before, -⟩ := Option.map_eq_some_iff.mp stored
      exact .inl (by rw [before]; rfl)
    · exact .inl (by rw [stored]; rfl)
  messages _ _ stored := .inl stored
  places _ _ posted := .inl posted
  userSeq := le_refl _
  messageSeq := le_refl _

theorem enrol (row : UserRow) : Onward db { db with users := db.users.insert row } where
  accounts id r stored := by
    have old : id ≠ db.users.seq + 1 := by
      have := RowTable.le_seq stored
      omega
    refine ⟨r, ?_, rfl⟩
    dsimp only
    rw [RowTable.get?_insert, if_neg old]
    exact stored
  joined id r stored := by
    dsimp only at stored
    rw [RowTable.get?_insert] at stored
    split at stored
    · exact .inr (by omega)
    · exact .inl (by rw [stored]; rfl)
  messages _ _ stored := .inl stored
  places _ _ posted := .inl posted
  userSeq := by
    rw [RowTable.seq_insert]
    omega
  messageSeq := le_refl _

/-- A message is stored, in a room or in none. -/
theorem send (row : MessageRow) {places : Finset (RoomId × MessageId)}
    (there : ∀ room id, (room, id) ∈ places →
      (room, id) ∈ db.roomMessages ∨ id = db.messages.seq + 1) :
    Onward db { db with messages := db.messages.insert row, roomMessages := places } where
  accounts _ row stored := ⟨row, stored, rfl⟩
  joined _ row stored := .inl (by rw [stored]; rfl)
  messages id r stored := by
    dsimp only at stored
    rw [RowTable.get?_insert] at stored
    split at stored
    · exact .inr (by omega)
    · exact .inl stored
  places room id posted := by
    rcases there room id posted with old | new
    · exact .inl old
    · rw [new]
      exact .inr (lt_add_one _)
  userSeq := le_refl _
  messageSeq := by
    rw [RowTable.seq_insert]
    omega

theorem erase (id : MessageId) : Onward db (ReadState.afterDelete id db) where
  accounts _ row stored := ⟨row, stored, rfl⟩
  joined _ row stored := .inl (by rw [show db.users.get? _ = _ from stored]; rfl)
  messages i row stored := by
    have stored : (db.messages.erase id).get? i = some row := stored
    rw [RowTable.get?_erase] at stored
    split at stored
    · cases stored
    · exact .inl stored
  places room i posted := .inl (Finset.mem_of_mem_filter _ posted)
  userSeq := le_refl _
  messageSeq := le_refl _

theorem effect {p : Power} (effect : Effect db p db') : Onward db db' := by
  cases effect with
  | kept => exact .refl db
  | @enrolled row => exact .enrol row
  | @notified row => exact .send row fun _ _ posted => .inl posted
  | @stood id f same => exact .update id fun r => (same r).1
  | @graded id level => exact .update id fun _ => rfl
  | reset | pardoned | opened | edited => exact .elsewhere rfl rfl (Finset.Subset.refl _)
  | razed => exact .elsewhere rfl rfl (Finset.filter_subset _ _)
  | @posted room row =>
      apply Onward.send row
      intro room' id posted
      rcases Finset.mem_insert.mp posted with new | old
      · exact .inr (congrArg Prod.snd new)
      · exact .inl old
  | @mailed row => exact .send row fun _ _ posted => .inl posted
  | @erased id => exact .erase id

theorem lasts (db : Database) : Lasts (Onward db) where
  aside _ _ before aside := before.trans (.aside aside)
  update _ id _ same before := before.trans (.update id same)
  powered powered s before := before.trans (.effect (powered_effect powered s))

end Onward

/-- Alice registers, posts in the Lobby and makes a room. -/
def firstEvening : List Input :=
  [.connect "telnet", .command 1 (.registerOneShot "alice" "password"),
    .command 1 (.enterMessage (some "hello")), .command 1 (.workflowReply "."),
    .command 1 (.createRoom "Den")]

def evening : BbsHost := firstEvening.foldl deliver (.fresh .fresh)

theorem evening_runs : Runs (.fresh .fresh) evening := Reaches.follow_free deliver firstEvening _

/-- No two accounts have one name, what is in a room is a stored post and the room is there, and no
post is in two rooms. -/
structure Coherent (db : Database) : Prop where
  names : ∀ i j row row', db.users.get? i = some row → db.users.get? j = some row' →
    row.username = row'.username → i = j
  rooms : ∀ room id, (room, id) ∈ db.roomMessages → (db.rooms.get? room).isSome
  posts : ∀ room id, (room, id) ∈ db.roomMessages →
    ∃ row, db.messages.get? id = some row ∧ row.recipient = none
  once : ∀ room room' id, (room, id) ∈ db.roomMessages → (room', id) ∈ db.roomMessages →
    room = room'

namespace Coherent
variable {db db' : Database}

/-- The accounts keep their names, and of the rest only rooms are added. -/
theorem carried (coherent : Coherent db)
    (names : ∀ id row', db'.users.get? id = some row' →
      ∃ row, db.users.get? id = some row ∧ row.username = row'.username)
    (rooms : ∀ id, (db.rooms.get? id).isSome → (db'.rooms.get? id).isSome)
    (messages : db'.messages = db.messages) (places : db'.roomMessages = db.roomMessages) :
    Coherent db' where
  names i j row row' stored stored' same := by
    obtain ⟨before, found, eq⟩ := names i row stored
    obtain ⟨before', found', eq'⟩ := names j row' stored'
    exact coherent.names i j before before' found found' (eq.trans (same.trans eq'.symm))
  rooms room id posted := by
    rw [places] at posted
    exact rooms room (coherent.rooms room id posted)
  posts room id posted := by
    rw [places] at posted
    rw [messages]
    exact coherent.posts room id posted
  once room room' id posted posted' := by
    rw [places] at posted posted'
    exact coherent.once room room' id posted posted'

theorem aside (coherent : Coherent db) (aside : Aside db db') : Coherent db' := by
  refine coherent.carried (fun id row' stored => ?_) (fun id there => ?_) aside.messages
    aside.roomMessages
  · obtain ⟨row, before, eq⟩ := aside.before stored
    exact ⟨row, before, congrArg (·.1) eq⟩
  · rw [aside.rooms]
    exact there

theorem update (coherent : Coherent db) (id : UserId) {f : UserRow → UserRow}
    (same : ∀ r, (f r).username = r.username) :
    Coherent { db with users := db.users.update id f } := by
  refine coherent.carried (fun i row' stored => ?_) (fun _ there => there) rfl rfl
  dsimp only at stored
  rw [RowTable.get?_update] at stored
  split at stored
  · obtain ⟨row, before, rfl⟩ := Option.map_eq_some_iff.mp stored
    exact ⟨row, before, (same row).symm⟩
  · exact ⟨row', stored, rfl⟩

theorem enrol (coherent : Coherent db) {row : UserRow}
    (free : ∀ id r, db.users.get? id = some r → r.username ≠ row.username) :
    Coherent { db with users := db.users.insert row } where
  names i j r r' stored stored' same := by
    dsimp only at stored stored'
    rw [RowTable.get?_insert] at stored stored'
    split at stored
    · next new =>
      cases stored
      split at stored'
      · next new' => exact new.trans new'.symm
      · exact absurd same.symm (free j r' stored')
    · split at stored'
      · cases stored'
        exact absurd same (free i r stored)
      · exact coherent.names i j r r' stored stored' same
  rooms := coherent.rooms
  posts := coherent.posts
  once := coherent.once

theorem known (coherent : Coherent db) {room : RoomId} {id : MessageId}
    (posted : (room, id) ∈ db.roomMessages) : id ≤ db.messages.seq := by
  obtain ⟨row, stored, -⟩ := coherent.posts room id posted
  exact RowTable.le_seq stored

/-- A stored message stays stored when another comes. -/
theorem stays {row r : MessageRow} {id : MessageId} (stored : db.messages.get? id = some r) :
    (db.messages.insert row).get? id = some r := by
  rw [RowTable.get?_insert, if_neg (Int.lt_add_one_of_le (RowTable.le_seq stored)).ne]
  exact stored

theorem send (coherent : Coherent db) (row : MessageRow) :
    Coherent { db with messages := db.messages.insert row } where
  names := coherent.names
  rooms := coherent.rooms
  posts room id posted := by
    obtain ⟨r, stored, open_⟩ := coherent.posts room id posted
    exact ⟨r, stays stored, open_⟩
  once := coherent.once

theorem post (coherent : Coherent db) {room : RoomId} {row : MessageRow}
    (present : (db.rooms.get? room).isSome) (open_ : row.recipient = none) :
    Coherent { db with
      messages := db.messages.insert row
      roomMessages := insert (room, db.messages.seq + 1) db.roomMessages } where
  names := coherent.names
  rooms other id posted := by
    rcases Finset.mem_insert.mp posted with new | old
    · obtain rfl : other = room := congrArg Prod.fst new
      exact present
    · exact coherent.rooms other id old
  posts other id posted := by
    rcases Finset.mem_insert.mp posted with new | old
    · refine ⟨row, ?_, open_⟩
      dsimp only
      rw [RowTable.get?_insert, if_pos (congrArg Prod.snd new)]
    · obtain ⟨r, stored, open_⟩ := coherent.posts other id old
      exact ⟨r, stays stored, open_⟩
  once a b id posted posted' := by
    rcases Finset.mem_insert.mp posted with new | old
    · rcases Finset.mem_insert.mp posted' with new' | old'
      · exact (congrArg Prod.fst new).trans (congrArg Prod.fst new').symm
      · exact absurd (congrArg Prod.snd new) (Int.lt_add_one_of_le (coherent.known old')).ne
    · rcases Finset.mem_insert.mp posted' with new' | old'
      · exact absurd (congrArg Prod.snd new') (Int.lt_add_one_of_le (coherent.known old)).ne
      · exact coherent.once a b id old old'

theorem erase (coherent : Coherent db) (id : MessageId) :
    Coherent (ReadState.afterDelete id db) where
  names := coherent.names
  rooms room i posted := coherent.rooms room i (Finset.mem_of_mem_filter _ posted)
  posts room i posted := by
    obtain ⟨old, other⟩ := Finset.mem_filter.mp posted
    obtain ⟨r, stored, open_⟩ := coherent.posts room i old
    refine ⟨r, ?_, open_⟩
    show (db.messages.erase id).get? i = some r
    rw [RowTable.get?_erase, if_neg other]
    exact stored
  once room room' i posted posted' :=
    coherent.once room room' i (Finset.mem_of_mem_filter _ posted)
      (Finset.mem_of_mem_filter _ posted')

theorem raze (coherent : Coherent db) {id : RoomId} {rooms : RowTable RoomRow}
    {state : UserId → RoomId → Option (Option MessageId)}
    (same : Reordered (db.rooms.erase id) rooms) :
    Coherent { db with
      rooms
      roomMessages := db.roomMessages.filter fun p => p.1 ≠ id
      userRoomState := state } where
  names := coherent.names
  rooms room i posted := by
    obtain ⟨old, other⟩ := Finset.mem_filter.mp posted
    dsimp only
    rw [same.isSome, RowTable.get?_erase, if_neg other]
    exact coherent.rooms room i old
  posts room i posted := coherent.posts room i (Finset.mem_of_mem_filter _ posted)
  once room room' i posted posted' :=
    coherent.once room room' i (Finset.mem_of_mem_filter _ posted)
      (Finset.mem_of_mem_filter _ posted')

theorem effect (coherent : Coherent db) {p : Power} (effect : Effect db p db') : Coherent db' := by
  have rooms_only {rooms : RowTable RoomRow}
      (there : ∀ id, (db.rooms.get? id).isSome → (rooms.get? id).isSome) :
      Coherent { db with rooms } :=
    coherent.carried (fun _ row stored => ⟨row, stored, rfl⟩) there rfl rfl
  cases effect with
  | kept => exact coherent
  | enrolled free => exact coherent.enrol free
  | @notified row => exact coherent.send row
  | @stood id f same => exact coherent.update id fun r => (same r).1
  | @graded id level => exact coherent.update id fun _ => rfl
  | reset | pardoned => exact ⟨coherent.names, coherent.rooms, coherent.posts, coherent.once⟩
  | opened same =>
      apply rooms_only
      intro id there
      rw [same.isSome, RowTable.get?_insert]
      split
      · rfl
      · exact there
  | edited =>
      apply rooms_only
      intro id there
      rw [RowTable.get?_update]
      split
      · simpa using there
      · exact there
  | razed same => exact coherent.raze same
  | posted present open_ => exact coherent.post present open_
  | @mailed row => exact coherent.send row
  | @erased id => exact coherent.erase id

theorem lasts : Lasts Coherent where
  aside _ _ := Coherent.aside
  update _ id _ same coherent := coherent.update id same
  powered powered s coherent := coherent.effect (powered_effect powered s)

end Coherent

/-- Mail and posts stay apart, and what rooms and accounts refer to stays there, whatever is asked
of the host. -/
theorem stays_coherent {h h' : BbsHost} (run : Runs h h') (coherent : Coherent h.store.db) :
    Coherent h'.store.db :=
  Coherent.lasts.run run coherent

theorem fresh_coherent : Coherent (BbsHost.fresh .fresh).store.db where
  names i j row row' stored := by cases stored
  rooms room id posted := absurd posted (Finset.notMem_empty _)
  posts room id posted := absurd posted (Finset.notMem_empty _)
  once room room' id posted := absurd posted (Finset.notMem_empty _)

theorem stays_coherent_evening : Coherent evening.store.db :=
  stays_coherent evening_runs fresh_coherent

/-! ## The order of the rooms -/

def InOrder (db : Database) : Prop := ∃ order, Walk (roomLinks db.rooms) order

theorem effect_rooms {db db' : Database} {p : Power} (effect : Effect db p db') (same : p ≠ .rooms)
    (kept : p ≠ .raze) : db'.rooms = db.rooms := by
  cases effect with
  | opened | edited => exact absurd rfl same
  | razed => exact absurd rfl kept
  | _ => rfl

theorem updateRoom_links (id : RoomId) (description : Option (Option String))
    (readOnly : Option Bool) (level : Option PermissionLevel) (s : Storage) :
    links (RoomStore.update id description readOnly level s).2 = links s := by
  have same := query_db (fun db => db.rooms.get? id) s
  unfold RoomStore.update
  rw [Program.bind_apply]
  rcases read : query (fun db => db.rooms.get? id) s with ⟨_ | _ | current, s₁⟩
  · rw [read] at same
    exact congrArg (fun db => roomLinks db.rooms) same
  · rw [read] at same
    exact congrArg (fun db => roomLinks db.rooms) same
  · rw [read] at same
    dsimp only at same ⊢
    rcases (execute_effect (fun db => { db with
      rooms := db.rooms.update id fun r =>
        { r with
          description := description.getD current.description
          readOnly := readOnly.getD current.readOnly
          minPermissionLevel := level.getD current.minPermissionLevel } }) s₁).2 with kept | wrote
    · rw [links, kept, same]
    · rw [links, wrote, same]
      funext k
      unfold roomLinks
      rw [RowTable.get?_update]
      split
      · rw [Option.map_map]
        rfl
      · rfl

/-- An operation on the rooms leaves them in one order, whether it succeeds or not. -/
theorem operated (op : RoomOp) {s : Storage} (ordered : InOrder s.db) : InOrder (op.run s).2.db := by
  obtain ⟨order, walk⟩ := ordered
  obtain ⟨order', -, walk'⟩ := op_walk op walk
  exact ⟨order', walk'⟩

theorem then_db {α β : Type} (m : StoreM α) (f : α → β) (s : Storage) :
    ((do let a ← m; pure (f a) : StoreM β) s).2 = (m s).2 := by
  rw [Program.bind_apply]
  rcases m s with ⟨_ | _, _⟩ <;> rfl

theorem inOrder_lasts : Lasts InOrder where
  aside db db' ordered aside := by
    rw [InOrder, aside.rooms]
    exact ordered
  update _ _ _ _ ordered := ordered
  powered := by
    intro p α m powered s ordered
    by_cases elsewhere : p ≠ .rooms ∧ p ≠ .raze
    · rw [InOrder, effect_rooms (powered_effect powered s) elsewhere.1 elsewhere.2]
      exact ordered
    · cases powered with
      | createRoom name description readOnly level createdAt =>
          have ran := operated (.create name description readOnly level createdAt) ordered
          rw [RoomOp.run, then_db] at ran
          exact ran
      | updateRoom id description readOnly level =>
          obtain ⟨order, walk⟩ := ordered
          exact ⟨order, by rw [← links, updateRoom_links]; exact walk⟩
      | deleteRoom id =>
          have ran := operated (.delete id) ordered
          rw [RoomOp.run, then_db] at ran
          exact ran
      | _ => exact absurd (by decide) elsewhere

/-- From rooms in one order, whatever is asked of the host leaves the rooms in one order: they pass
the check at the next start, and a listing shows each of them once, in that order. -/
theorem rooms_stay_in_order {h h' : BbsHost} (run : Runs h h') (ordered : InOrder h.store.db)
    (sure : h'.store.faults = []) : (verifyRoomWalkOrder h'.store).1 = .ok () ∧
      ∃ order listed, Walk (links h'.store) order ∧
        (RoomStore.listInOrder h'.store).1 = .ok listed ∧ listed.map (·.id) = order ∧
        listed.Perm (roomsOf h'.store) := by
  obtain ⟨order, walk⟩ := inOrder_lasts.run run ordered
  refine ⟨?_, lists_of_walk sure walk⟩
  rw [verify_sure sure, checkWalk_ok_iff]
  exact ⟨endsAgree_of_walk walk, .inr (.inr (.inl ⟨order, .of_walk walk⟩))⟩

theorem rooms_stay_in_order_evening : (verifyRoomWalkOrder evening.store).1 = .ok () ∧
    ∃ order listed, Walk (links evening.store) order ∧
      (RoomStore.listInOrder evening.store).1 = .ok listed ∧ listed.map (·.id) = order ∧
      listed.Perm (roomsOf evening.store) :=
  rooms_stay_in_order evening_runs ⟨_, seedRooms_walk⟩ (by decide +kernel)

end SupplyDrop.Proof.StoredData
