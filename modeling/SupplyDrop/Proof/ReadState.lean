import Mathlib
import SupplyDrop.Store.Messages
import SupplyDrop.Store.Rooms
import SupplyDrop.Store.Users

namespace SupplyDrop.Proof.ReadState
open Library Store Store.MessageStore

/-- The foreign keys of the tables a read pointer depends on. -/
structure ForeignKeys (db : Database) : Prop where
  pointer : ∀ user room p, db.userRoomState user room = some (some p) → (db.messages.get? p).isSome
  post : ∀ room id, (room, id) ∈ db.roomMessages → (db.messages.get? id).isSome

def afterDelete (m : MessageId) (db : Database) : Database := deleteRow m (rescuePointers m db)

theorem delete_ok {m : MessageId} {s s' : Storage} {b : Bool}
    (h : MessageStore.delete m s = (.ok b, s')) : s'.db = afterDelete m s.db := by
  obtain ⟨s₁, s₂, begun, body, committed⟩ := transaction_ok h
  obtain ⟨_, s₃, rescued, body⟩ := Program.bind_eq_ok body
  obtain ⟨_, s₄, found, body⟩ := Program.bind_eq_ok body
  obtain ⟨_, s₅, deleted, body⟩ := Program.bind_eq_ok body
  cases body
  obtain ⟨-, rfl⟩ := Program.gets_ok found
  rw [committed, execute_ok deleted, execute_ok rescued, begun]
  rfl

/-! ## The earlier post -/

section Earlier
variable {db : Database} {m : MessageId}

theorem earlierPost_some {e : MessageId} (h : earlierPost db m = some e) :
    e < m ∧ (∃ room, (room, m) ∈ db.roomMessages ∧ (room, e) ∈ db.roomMessages) ∧
      ∀ room k, (room, m) ∈ db.roomMessages → (room, k) ∈ db.roomMessages → k < m → k ≤ e := by
  have mem := Finset.mem_of_max h
  simp only [Finset.mem_image, Finset.mem_filter, Prod.exists, exists_eq_right] at mem
  obtain ⟨room, here, same, less⟩ := mem
  refine ⟨less, ⟨room, same, here⟩, ?_⟩
  intro room k posted mem older
  refine Finset.le_max_of_eq ?_ h
  simp only [Finset.mem_image, Finset.mem_filter, Prod.exists, exists_eq_right]
  exact ⟨room, mem, posted, older⟩

theorem pointer_afterDelete (user : UserId) (room : RoomId) :
    (afterDelete m db).userRoomState user room = (db.userRoomState user room).map fun pointer =>
      if pointer = some m then earlierPost db m else pointer := by
  have moved : earlierPost db m ≠ some m := fun h => lt_irrefl m (earlierPost_some h).1
  simp only [afterDelete, deleteRow, rescuePointers, Option.map_map]
  refine congrArg (fun f => Option.map f _) (funext fun pointer => ?_)
  by_cases here : pointer = some m
  · simp [here, moved]
  · simp [here]

end Earlier

/-! ## Posts and direct messages left after a delete -/

section Left
variable (db : Database) (m : MessageId)

theorem inRoom_afterDelete (room : RoomId) :
    inRoom (afterDelete m db) room = (inRoom db room).filter fun r => r.1 ≠ m := by
  simp only [inRoom, afterDelete, deleteRow, rescuePointers, RowTable.erase, RowTable.filter,
    List.filter_filter]
  refine List.filter_congr fun r _ => ?_
  by_cases same : r.1 = m <;> simp [same]

theorem direct_afterDelete (username : Username) :
    direct (afterDelete m db) username = (direct db username).filter fun r => r.1 ≠ m := by
  simp only [direct, afterDelete, deleteRow, rescuePointers, RowTable.erase, RowTable.filter,
    List.filter_filter]
  exact List.filter_congr fun r _ => Bool.and_comm _ _

/-- Deleting `m` from the messages in scope loses `m` alone, when no other one changes between read
and unread. -/
theorem unread_erase {rows : List (MessageId × MessageRow)}
    {state state' : Option (Option MessageId)} (sub : rows.Sublist db.messages.rows)
    (same : ∀ r ∈ rows, r.1 ≠ m → unread state' r.1 = unread state r.1) :
    (((rows.filter fun r => r.1 ≠ m).filter fun r => unread state' r.1).map (·.1)) =
      ((rows.filter fun r => unread state r.1).map (·.1)).erase m := by
  have nodup : ((rows.filter fun r => unread state r.1).map (·.1)).Nodup :=
    db.messages.keys_nodup.sublist ((List.filter_sublist.trans sub).map _)
  rw [nodup.erase_eq_filter, List.filter_map, List.filter_filter, List.filter_filter]
  refine congrArg (List.map _) (List.filter_congr fun r hr => ?_)
  by_cases gone : r.1 = m
  · simp [gone]
  · simp [gone, same r hr gone]

end Left

/-! ## Deleting a message -/

section Delete
variable {s s' : Storage} {m : MessageId} {b : Bool} {user : UserId} {room : RoomId}

theorem pointer_elsewhere (h : MessageStore.delete m s = (.ok b, s'))
    (elsewhere : s.db.userRoomState user room ≠ some (some m)) :
    s'.db.userRoomState user room = s.db.userRoomState user room := by
  rw [delete_ok h, pointer_afterDelete]
  cases state : s.db.userRoomState user room with
  | none => rfl
  | some pointer =>
      have other : pointer ≠ some m := fun e => elsewhere (by rw [state, e])
      simp [other]

theorem pointer_rescued (h : MessageStore.delete m s = (.ok b, s'))
    (here : s.db.userRoomState user room = some (some m)) :
    s'.db.userRoomState user room = some (earlierPost s.db m) := by
  rw [delete_ok h, pointer_afterDelete, here]
  simp

theorem unread_elsewhere (h : MessageStore.delete m s = (.ok b, s'))
    (elsewhere : s.db.userRoomState user room ≠ some (some m)) (username : Username) :
    unreadInRoom s'.db user room = (unreadInRoom s.db user room).erase m ∧
      unreadDirect s'.db username user room = (unreadDirect s.db username user room).erase m := by
  have state := pointer_elsewhere h elsewhere
  unfold unreadInRoom unreadDirect
  rw [state, delete_ok h, inRoom_afterDelete, direct_afterDelete]
  exact ⟨unread_erase s.db m List.filter_sublist fun _ _ _ => rfl,
    unread_erase s.db m List.filter_sublist fun _ _ _ => rfl⟩

/-- A pointer moved to the post before `m` leaves the posts of the room as they were. -/
theorem unread_rescued (h : MessageStore.delete m s = (.ok b, s'))
    (here : s.db.userRoomState user room = some (some m)) (posted : (room, m) ∈ s.db.roomMessages)
    {e : MessageId} (earlier : earlierPost s.db m = some e) :
    unreadInRoom s'.db user room = (unreadInRoom s.db user room).erase m := by
  have state := pointer_rescued h here
  obtain ⟨less, -, newest⟩ := earlierPost_some earlier
  unfold unreadInRoom
  rw [state, here, earlier, delete_ok h, inRoom_afterDelete]
  apply unread_erase s.db m List.filter_sublist
  intro r hr other
  have inside : (room, r.1) ∈ s.db.roomMessages := by simpa using (List.mem_filter.mp hr).2
  have between := newest room r.1 posted inside
  simp only [unread, decide_eq_decide]
  constructor
  · intro newer
    by_contra older
    exact absurd newer (not_lt.mpr (between (lt_of_le_of_ne (not_lt.mp older) other)))
  · exact less.trans

theorem unread_reset (h : MessageStore.delete m s = (.ok b, s'))
    (here : s.db.userRoomState user room = some (some m)) (first : earlierPost s.db m = none)
    (username : Username) :
    s'.db.userRoomState user room = some none ∧ unreadInRoom s'.db user room = [] ∧
      unreadDirect s'.db username user room = [] := by
  have state := pointer_rescued h here
  rw [first] at state
  refine ⟨state, ?_, ?_⟩
  · rw [unreadInRoom, state]
    simp [unread]
  · rw [unreadDirect, state]
    simp [unread]

theorem foreignKeys_delete (keys : ForeignKeys s.db) (h : MessageStore.delete m s = (.ok b, s')) :
    ForeignKeys s'.db := by
  rw [delete_ok h]
  constructor
  · intro u r p stored
    rw [pointer_afterDelete] at stored
    obtain ⟨pointer, before, moved⟩ := Option.map_eq_some_iff.mp stored
    have kept (present : (s.db.messages.get? p).isSome) (other : p ≠ m) :
        ((afterDelete m s.db).messages.get? p).isSome := by
      simpa [afterDelete, deleteRow, rescuePointers, RowTable.get?_erase, other] using present
    split at moved
    · obtain ⟨less, ⟨room, -, posted⟩, -⟩ := earlierPost_some moved
      exact kept (keys.post room p posted) (ne_of_lt less)
    · next other =>
        subst moved
        exact kept (keys.pointer u r p before) fun e => other (by rw [e])
  · intro r id posted
    simp only [afterDelete, deleteRow, rescuePointers, Finset.mem_filter] at posted
    have present := keys.post r id posted.1
    simpa [afterDelete, deleteRow, rescuePointers, RowTable.get?_erase, posted.2] using present

end Delete

/-! ## Posting afterwards -/

section Post
variable {s s' : Storage} {id : MessageId} {user : UserId} {room : RoomId}

theorem unread_fresh (keys : ForeignKeys s.db) (live : s.db.userRoomState user room ≠ some none) :
    unread (s.db.userRoomState user room) (s.db.messages.seq + 1) = true := by
  cases state : s.db.userRoomState user room with
  | none => rfl
  | some pointer =>
      cases pointer with
      | none => exact absurd state live
      | some p =>
          obtain ⟨row, stored⟩ := Option.isSome_iff_exists.mp (keys.pointer user room p state)
          simp only [unread, decide_eq_true_eq]
          exact Int.lt_add_one_of_le (RowTable.le_seq stored)

theorem insertMessage_ok {row : MessageRow} (h : insertMessage row s = (.ok id, s')) :
    id = s.db.messages.seq + 1 ∧
      s'.db = { s.db with messages := s.db.messages.insert row } := by
  have inserted : insertRow _ _ _ row s = _ := h
  exact (insertRow_ok inserted).2

theorem insertRoomMessage_ok {u : Unit} (h : insertRoomMessage room id s = (.ok u, s')) :
    s'.db = { s.db with roomMessages := insert (room, id) s.db.roomMessages } := by
  obtain ⟨rooms, s₁, got, rest⟩ := Program.bind_eq_ok h
  obtain ⟨_, s₂, started, rest⟩ := Program.bind_eq_ok rest
  obtain ⟨rfl, rfl⟩ := Program.gets_ok got
  have same := statement_db s₁
  rw [started] at same
  dsimp only at rest
  split at rest
  · cases rest
  · cases rest
    rw [← same]

theorem post_unread {sender : Username} {content : String} {timestamp : Timestamp}
    (keys : ForeignKeys s.db) (live : s.db.userRoomState user room ≠ some none)
    (h : postToRoom room sender content timestamp s = (.ok id, s')) :
    id ∈ unreadInRoom s'.db user room := by
  obtain ⟨s₁, s₂, begun, body, committed⟩ := transaction_ok h
  obtain ⟨made, s₃, inserted, body⟩ := Program.bind_eq_ok body
  obtain ⟨_, s₄, joined, body⟩ := Program.bind_eq_ok body
  cases body
  obtain ⟨rfl, filled⟩ := insertMessage_ok inserted
  rw [begun] at filled ⊢
  have fresh := unread_fresh keys live
  rw [unreadInRoom, inRoom, committed, insertRoomMessage_ok joined, filled]
  simp [RowTable.insert, fresh, begun]

theorem direct_unread {sender recipient username : Username} {content : String}
    {timestamp : Timestamp} (keys : ForeignKeys s.db)
    (live : s.db.userRoomState user room ≠ some none)
    (party : username = sender ∨ username = recipient)
    (h : postDirect sender recipient content timestamp s = (.ok id, s')) :
    id ∈ unreadDirect s'.db username user room := by
  obtain ⟨rfl, filled⟩ := insertMessage_ok h
  have fresh := unread_fresh keys live
  rw [unreadDirect, direct, filled]
  rcases party with rfl | rfl <;> simp [RowTable.insert, involves, fresh]

end Post

/-! ## Runs that keep the foreign keys -/

theorem insert_isSome {α : Type} {t : RowTable α} {k : Int} {a : α} (h : (t.get? k).isSome) :
    ((t.insert a).get? k).isSome := by
  rw [RowTable.get?_insert]
  split
  · rfl
  · exact h

theorem createUser_foreignKeys (username : Username) (displayName : Option String)
    (level : PermissionLevel) (createdAt : Timestamp) :
    KeepsDb ForeignKeys (UserStore.create username displayName level createdAt) :=
  KeepsDb.insertRow fun _ keys => ⟨keys.pointer, keys.post⟩

theorem insertMessage_foreignKeys (row : MessageRow) : KeepsDb ForeignKeys (insertMessage row) :=
  KeepsDb.insertRow fun _ keys =>
    ⟨fun u r p h => insert_isSome (keys.pointer u r p h),
      fun r id h => insert_isSome (keys.post r id h)⟩

theorem postToRoom_foreignKeys (room : RoomId) (sender : Username) (content : String)
    (timestamp : Timestamp) : KeepsDb ForeignKeys (postToRoom room sender content timestamp) := by
  intro s keys
  rcases ran : postToRoom room sender content timestamp s with ⟨r, s'⟩
  cases r with
  | error e =>
      have kept := transaction_error (congrArg Prod.fst ran)
      rw [show transaction _ s = _ from ran] at kept
      show ForeignKeys s'.db
      rwa [kept]
  | ok id =>
      obtain ⟨s₁, s₂, begun, body, committed⟩ := transaction_ok ran
      obtain ⟨made, s₃, inserted, body⟩ := Program.bind_eq_ok body
      obtain ⟨_, s₄, joined, body⟩ := Program.bind_eq_ok body
      cases body
      have before : ForeignKeys s₁.db := by rwa [begun]
      have middle := insertMessage_foreignKeys ⟨sender, none, content, timestamp⟩ s₁ before
      rw [inserted] at middle
      obtain ⟨rfl, filled⟩ := insertMessage_ok inserted
      show ForeignKeys s'.db
      rw [committed, insertRoomMessage_ok joined]
      refine ⟨middle.pointer, fun r k posted => ?_⟩
      rcases Finset.mem_insert.mp posted with new | old
      · cases new
        simp [filled, RowTable.get?_insert]
      · exact middle.post r k old

theorem markRead_foreignKeys (user : UserId) (room : RoomId) (id : MessageId) :
    KeepsDb ForeignKeys (markRead user room id) := by
  refine Program.Keeps.bind KeepsDb.statement fun _ => ?_
  intro s keys
  simp only [Program.bind_apply, Program.gets_apply]
  split
  · exact keys
  · next valid =>
      refine ⟨fun u r p stored => ?_, keys.post⟩
      simp only [Program.modify_apply, setPointer] at stored
      split at stored
      · obtain rfl := Option.some.inj (Option.some.inj stored)
        have present := (not_or.mp valid).2
        rwa [← Option.not_isSome, Bool.not_eq_true', Bool.not_eq_false] at present
      · exact keys.pointer u r p stored

/-! ## Read state across a delete -/

section Counts
variable (s s' : Storage)

def CountDrops (count : StoreM Nat) (before : List MessageId) (m : MessageId) : Prop :=
  ∀ n t n' t', count s = (.ok n, t) → count s' = (.ok n', t') →
    n' + (if m ∈ before then 1 else 0) = n

/-- Messages posted from `s'` on are unread. -/
def PostedUnread (user : UserId) (room : RoomId) (username : Username) : Prop :=
  (∀ sender content timestamp id t, postToRoom room sender content timestamp s' = (.ok id, t) →
    id ∈ unreadInRoom t.db user room) ∧
  (∀ sender recipient content timestamp id t, username = sender ∨ username = recipient →
    postDirect sender recipient content timestamp s' = (.ok id, t) →
    id ∈ unreadDirect t.db username user room)

end Counts

theorem length_erase_add (m : MessageId) (ids : List MessageId) :
    (ids.erase m).length + (if m ∈ ids then 1 else 0) = ids.length := by
  split
  · next mem => exact List.length_erase_add_one mem
  · next out => rw [List.erase_of_not_mem out, Nat.add_zero]

theorem unreadCount_drops {s s' : Storage} {m : MessageId} {user : UserId} {room : RoomId}
    (lost : unreadInRoom s'.db user room = (unreadInRoom s.db user room).erase m) :
    CountDrops s s' (unreadCount user room) (unreadInRoom s.db user room) m := by
  intro n t n' t' before after
  rw [(query_ok before).1, (query_ok after).1, lost]
  exact length_erase_add m _

theorem unreadDirectCount_drops {s s' : Storage} {m : MessageId} {user : UserId} {room : RoomId}
    {username : Username}
    (lost : unreadDirect s'.db username user room = (unreadDirect s.db username user room).erase m) :
    CountDrops s s' (unreadDirectCount username user room) (unreadDirect s.db username user room)
      m := by
  intro n t n' t' before after
  rw [(query_ok before).1, (query_ok after).1, lost]
  exact length_erase_add m _

theorem postedUnread {s : Storage} {user : UserId} {room : RoomId} (keys : ForeignKeys s.db)
    (live : s.db.userRoomState user room ≠ some none) (username : Username) :
    PostedUnread s user room username :=
  ⟨fun _ _ _ _ _ posted => post_unread keys live posted,
    fun _ _ _ _ _ _ party posted => direct_unread keys live party posted⟩

-- alice has read the first of two posts by bob
def twoPosts : StoreM Unit := do
  let alice ← UserStore.create .alice none .user 0
  let first ← postToRoom lobby .bob "one" 0
  let _ ← postToRoom lobby .bob "two" 0
  markRead alice lobby first

def oneRead : Storage := (twoPosts Storage.fresh).2

theorem oneRead_foreignKeys : ForeignKeys oneRead.db := by
  have run : KeepsDb ForeignKeys twoPosts :=
    Program.Keeps.bind (createUser_foreignKeys _ _ _ _) fun _ =>
    Program.Keeps.bind (postToRoom_foreignKeys _ _ _ _) fun _ =>
    Program.Keeps.bind (postToRoom_foreignKeys _ _ _ _) fun _ => markRead_foreignKeys _ _ _
  exact run Storage.fresh ⟨by simp [Storage.fresh, Database.empty],
    by simp [Storage.fresh, Database.empty]⟩

end SupplyDrop.Proof.ReadState
