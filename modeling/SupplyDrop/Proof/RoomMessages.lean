import Mathlib
import SupplyDrop.Library.CappedWalk
import SupplyDrop.Proof.Reader

namespace SupplyDrop.Proof
open Library Library.Program Store Host

/-! ## The messages ahead of a position -/

/-- The messages of the room, in ascending order of id. -/
def messagesOf (auth : Auth) (db : Database) : List (MessageId × MessageRow) :=
  if auth.roomId = mail then MessageStore.direct db auth.username
  else MessageStore.inRoom db auth.roomId

/-- The later ones, or the earlier ones from the nearest. Without a position, the first or the last
rowid there can be stands for it. -/
def ahead (forward : Bool) (auth : Auth) (db : Database) (position : Option MessageId) :
    List Message :=
  mapMessageRows (if forward then MessageStore.after (messagesOf auth db) position
    else (MessageStore.before (messagesOf auth db) position).reverse)

/-- Whom the reader has blocked. -/
def blockedBy (auth : Auth) (db : Database) : List String :=
  (db.userBlocks.filter fun b => b.blocker = auth.username.text).map (·.blocked)

def isBlocked (blocked : List String) (m : Message) : Bool := blocked.contains m.sender.text

section Ahead
variable {auth : Auth} {db : Database} {forward : Bool} {position : Option MessageId}

theorem messagesOf_sorted (auth : Auth) (db : Database) :
    (messagesOf auth db).Pairwise fun a b => a.1 < b.1 := by
  unfold messagesOf
  split
  · exact db.messages.sorted.sublist List.filter_sublist
  · exact db.messages.sorted.sublist List.filter_sublist

def inMessages (auth : Auth) (db : Database) : List Message := mapMessageRows (messagesOf auth db)

theorem inMessages_sorted (auth : Auth) (db : Database) :
    (inMessages auth db).Pairwise fun a b => a.id < b.id :=
  List.pairwise_map.mpr (messagesOf_sorted auth db)

theorem ahead_forward (position : Option MessageId) : ahead true auth db position =
    (inMessages auth db).filter fun m => position.getD minRowid < m.id := by
  unfold ahead inMessages mapMessageRows MessageStore.after
  rw [if_pos rfl, List.filter_map]
  rfl

theorem ahead_backward (position : Option MessageId) : ahead false auth db position =
    ((inMessages auth db).filter fun m => m.id < position.getD maxRowid).reverse := by
  unfold ahead inMessages mapMessageRows MessageStore.before
  rw [if_neg Bool.false_ne_true, List.filter_map, List.map_reverse]
  rfl

theorem ahead_ordered (forward : Bool) (position : Option MessageId) :
    (ahead forward auth db position).Pairwise fun m m' =>
      if forward then m.id < m'.id else m'.id < m.id := by
  have sorted := inMessages_sorted auth db
  cases forward with
  | true =>
      rw [ahead_forward]
      exact sorted.filter _
  | false =>
      rw [ahead_backward, List.pairwise_reverse]
      exact sorted.filter _

theorem ahead_behind {m : Message} {rest : List Message}
    (first : ahead forward auth db position = m :: rest) :
    ahead forward auth db (some m.id) = rest := by
  unfold ahead mapMessageRows at first ⊢
  obtain ⟨row, rows, split, rfl, rfl⟩ := List.map_eq_cons_iff.mp first
  apply congrArg (List.map _)
  have sorted := messagesOf_sorted auth db
  have mem : row ∈ if forward then MessageStore.after (messagesOf auth db) position
      else (MessageStore.before (messagesOf auth db) position).reverse := by
    rw [split]
    exact List.mem_cons_self
  cases forward with
  | true =>
      have here : position.getD minRowid < row.1 := by
        simpa using (List.mem_filter.mp mem).2
      exact filter_behind_first sorted (lt_irrefl _)
        (fun x beyond => decide_eq_true (here.trans beyond)) split
  | false =>
      have here : row.1 < position.getD maxRowid := by
        simpa using (List.mem_filter.mp (List.mem_reverse.mp mem)).2
      have downward : (messagesOf auth db).reverse.Pairwise fun a b => b.1 < a.1 :=
        List.pairwise_reverse.mpr sorted
      have split : (MessageStore.before (messagesOf auth db) position).reverse = row :: rows := split
      unfold MessageStore.before at split
      rw [← List.filter_reverse] at split
      have behind := filter_behind_first downward (lt_irrefl _)
        (fun x beyond => decide_eq_true (beyond.trans here)) split
      rw [List.filter_reverse] at behind
      exact behind

/-- The rows of the table. -/
def Stored (db : Database) (messages : List Message) : Prop :=
  ∀ m ∈ messages, db.messages.get? m.id = some m.toMessageRow

theorem Stored.same {xs ys : List Message} (stored : Stored db xs) (stored' : Stored db ys)
    (ids : xs.map (·.id) = ys.map (·.id)) : xs = ys := by
  let reread (id : MessageId) : Option Message := (db.messages.get? id).map (mapMessageRow id)
  have back {ms : List Message} (stored : Stored db ms) : (ms.map (·.id)).filterMap reread = ms := by
    rw [List.filterMap_map]
    calc ms.filterMap (reread ∘ (·.id)) = ms.filterMap some := by
          apply List.filterMap_congr
          intro m mem
          show (db.messages.get? m.id).map (mapMessageRow m.id) = some m
          rw [stored m mem]
          rfl
      _ = ms := List.filterMap_some
  rw [← back stored, ids, back stored']

theorem inMessages_stored (auth : Auth) (db : Database) : Stored db (inMessages auth db) := by
  intro m mem
  obtain ⟨row, here, rfl⟩ := List.mem_map.mp mem
  apply (RowTable.mem_rows_iff ..).mp
  unfold messagesOf at here
  split at here
  · exact (List.mem_filter.mp here).1
  · exact (List.mem_filter.mp here).1

/-! ## Pages of them -/

theorem buildPage_sorted {messages : List Message} (n : Nat)
    (sorted : messages.Pairwise fun a b => a.id < b.id) :
    buildPage (messages.take (n + 1)) n = ⟨messages.take n,
      if n < messages.length then (messages.take n).getLast?.map (·.id) else none⟩ := by
  have page : ((messages.take (n + 1)).take n).mergeSort (fun a b => a.id ≤ b.id) =
      messages.take n := by
    rw [List.take_take, Nat.min_eq_left (Nat.le_succ n)]
    apply List.mergeSort_of_pairwise
    exact (sorted.sublist (List.take_sublist n messages)).imp fun lt => decide_eq_true lt.le
  have more : n < (messages.take (n + 1)).length ↔ n < messages.length := by
    rw [List.length_take]
    omega
  unfold buildPage
  dsimp only
  rw [page]
  by_cases longer : n < messages.length
  · rw [if_pos (more.mpr longer), if_pos longer]
  · rw [if_neg (more.not.mpr longer), if_neg longer]

end Ahead

/-! ## Read pointers -/

/-- No pointer can be put at the message. -/
def Unmarkable (db : Database) (user : UserId) (room : RoomId) (id : MessageId) : Prop :=
  (db.userRoomState user room).isNone ∧
      ((db.users.get? user).isNone ∨ (db.rooms.get? room).isNone) ∨
    (db.messages.get? (MessageStore.advanced (db.userRoomState user room) id)).isNone

instance (db : Database) (user : UserId) (room : RoomId) (id : MessageId) :
    Decidable (Unmarkable db user room id) :=
  inferInstanceAs (Decidable (_ ∨ _))

/-- Where the pointer comes to. -/
def marked (user : UserId) (room : RoomId) (id : MessageId) (db : Database) : Database :=
  MessageStore.setPointer user room (MessageStore.advanced (db.userRoomState user room) id) db

theorem markRead_sure (user : UserId) (room : RoomId) (id : MessageId) {s : Storage}
    (sure : s.faults = []) : MessageStore.markRead user room id s =
      if Unmarkable s.db user room id then (.error MessageStore.foreignKeyFailed, s)
      else (.ok (), { s with db := marked user room id s.db }) := by
  have passed : statement s = (.ok (), s) := by
    unfold statement
    rw [sure]
  unfold MessageStore.markRead
  rw [bind_ok passed, bind_apply, gets_apply]
  dsimp only
  by_cases unmarkable : Unmarkable s.db user room id
  · rw [if_pos unmarkable, if_pos]
    · rfl
    · exact unmarkable
  · rw [if_neg unmarkable, if_neg]
    · rfl
    · exact unmarkable

/-- Read pointers aside, the store is what it was, and it still answers. -/
structure Untouched (s s' : Storage) : Prop where
  db : ∃ pointers, s'.db = { s.db with userRoomState := pointers }
  sure : s'.faults = []

theorem Untouched.refl {s : Storage} (sure : s.faults = []) : Untouched s s := ⟨⟨_, rfl⟩, sure⟩

theorem Untouched.trans {s s' s'' : Storage} (first : Untouched s s') (next : Untouched s' s'') :
    Untouched s s'' := by
  obtain ⟨pointers, eq⟩ := first.db
  obtain ⟨pointers', eq'⟩ := next.db
  exact ⟨⟨pointers', by rw [eq', eq]⟩, next.sure⟩

theorem markRead_untouched (user : UserId) (room : RoomId) (id : MessageId) {s : Storage}
    (sure : s.faults = []) : Untouched s (MessageStore.markRead user room id s).2 := by
  rw [markRead_sure user room id sure]
  split
  · exact .refl sure
  · exact ⟨⟨_, rfl⟩, sure⟩

end SupplyDrop.Proof
