import Mathlib
import SupplyDrop.Library.Run
import SupplyDrop.Proof.Accounts
import SupplyDrop.Proof.ReadState

namespace SupplyDrop.Proof.OwnMail
open Library Store ReadState

/-! ## Runs of the two stores -/

/-- The stores, and beside them the accounts that were there when each message was posted. -/
structure Mailroom where
  storage : Storage
  present : MessageId → List UserId

inductive MailOp where
  | create (username : Username) (displayName : Option String) (level : PermissionLevel)
      (createdAt : Timestamp)
  | update (id : UserId) (changes : UserStore.Changes)
  | hardDelete (id : UserId)
  | postToRoom (room : RoomId) (sender : Username) (content : String) (timestamp : Timestamp)
  | postDirect (sender recipient : Username) (content : String) (timestamp : Timestamp)
  | delete (id : MessageId)

/-- The call of the store, with the id of the message it posts. -/
def MailOp.program : MailOp → StoreM (Option MessageId)
  | .create username displayName level createdAt => do
      let _ ← UserStore.create username displayName level createdAt
      pure none
  | .update id changes => do
      UserStore.update id changes.displayName changes.status changes.permissionLevel
        changes.lastLoginAt
      pure none
  | .hardDelete id => do
      UserStore.hardDelete id
      pure none
  | .postToRoom room sender content timestamp => do
      let id ← MessageStore.postToRoom room sender content timestamp
      pure (some id)
  | .postDirect sender recipient content timestamp => do
      let id ← MessageStore.postDirect sender recipient content timestamp
      pure (some id)
  | .delete id => do
      let _ ← MessageStore.delete id
      pure none

def MailOp.after (op : MailOp) (s : Mailroom) : Mailroom where
  storage := (op.program s.storage).2
  present := match (op.program s.storage).1 with
    | .ok (some id) => fun m => if m = id then s.storage.db.users.keys else s.present m
    | _ => s.present

def names (db : Database) (id : UserId) : Option Username := (db.users.get? id).map (·.username)

def Addressed (db : Database) (name : Username) : Prop :=
  ∃ m row, db.messages.get? m = some row ∧ row.recipient = some name

/-- Direct posts go between accounts that exist, and no account is deleted that has received mail. -/
def Allowed : MailOp → Mailroom → Prop
  | .hardDelete id, s => ∀ name, names s.storage.db id = some name → ¬ Addressed s.storage.db name
  | .postDirect sender recipient _ _, s =>
      (∃ id, names s.storage.db id = some sender) ∧ ∃ id, names s.storage.db id = some recipient
  | _, _ => True

/-- Whatever page an account is shown, it was there when each message of it was posted. -/
def OnlyOwn (s : Mailroom) : Prop :=
  ∀ id name, names s.storage.db id = some name →
    ∀ faults after limit page storage,
      MessageStore.listDirect name after limit { s.storage with faults } = (.ok page, storage) →
      ∀ m ∈ page.messages, id ∈ s.present m.id

/-! ## What each call does to the tables -/

section Calls
variable {s : Storage}

theorem create_db (username : Username) (displayName : Option String) (level : PermissionLevel)
    (createdAt : Timestamp) :
    (UserStore.create username displayName level createdAt s).2.db = s.db ∨
    (∀ id, names s.db id ≠ some username) ∧
      ∃ row : UserRow, row.username = username ∧
        (UserStore.create username displayName level createdAt s).2.db =
          { s.db with users := s.db.users.insert row } := by
  rcases ran : UserStore.create username displayName level createdAt s with ⟨r, s'⟩
  cases r with
  | error e =>
      left
      have kept := insertRow_error (congrArg Prod.fst ran)
      rwa [show insertRow _ _ _ _ s = _ from ran] at kept
  | ok id =>
      right
      obtain ⟨free, -, filled⟩ := insertRow_ok ran
      refine ⟨fun k held => ?_, _, rfl, filled⟩
      obtain ⟨row, stored, rfl⟩ := Option.map_eq_some_iff.mp held
      have taken : (s.db.users.rows.any fun r => r.2.username = row.username) = true := by
        rw [List.any_eq_true]
        exact ⟨(k, row), (s.db.users.mem_rows_iff k row).mpr stored, by simp⟩
      simp [taken] at free

theorem update_db (id : UserId) (changes : UserStore.Changes) :
    let s' := (UserStore.update id changes.displayName changes.status changes.permissionLevel
      changes.lastLoginAt s).2
    names s'.db = names s.db ∧ s'.db.users.seq = s.db.users.seq ∧
      s'.db.messages = s.db.messages := by
  dsimp only
  obtain ⟨-, kept | ⟨row, -, wrote⟩⟩ := update_effect id changes.displayName changes.status
    changes.permissionLevel changes.lastLoginAt s
  · rw [kept]
    exact ⟨rfl, rfl, rfl⟩
  · rw [wrote]
    refine ⟨funext fun k => ?_, rfl, rfl⟩
    unfold names
    rw [RowTable.get?_update]
    split
    · rw [Option.map_map]
      rfl
    · rfl

theorem hardDelete_db (id : UserId) :
    (UserStore.hardDelete id s).2.db = s.db ∨
    (UserStore.hardDelete id s).2.db = UserStore.deleteRow id s.db ∧
      ∃ name, names s.db id = some name ∧
        ∀ m row, s.db.messages.get? m = some row → row.sender ≠ name := by
  unfold UserStore.hardDelete
  rw [Program.bind_apply]
  split
  · next found s' ran =>
    right
    obtain ⟨s₁, s₂, begun, body, committed⟩ := transaction_ok ran
    obtain ⟨row, s₃, read, body⟩ := Program.bind_eq_ok body
    have same := (Reads.selectUser id s₁).1
    rw [read] at same
    obtain ⟨count, s₄, counted, body⟩ := Program.bind_eq_ok body
    obtain ⟨rfl, same'⟩ := query_ok counted
    dsimp only at body same
    split at body
    · cases body
    · next none =>
      obtain ⟨there, s₅, got, body⟩ := Program.bind_eq_ok body
      obtain ⟨rfl, rfl⟩ := Program.gets_ok got
      obtain ⟨_, s₆, deleted, body⟩ := Program.bind_eq_ok body
      cases body
      have erased := execute_ok deleted
      rw [same', same, begun] at erased
      have stored := selectRow_ok read
      rw [same, begun] at none
      rw [begun] at stored
      refine ⟨?_, row.username, by rw [names, stored]; rfl, ?_⟩
      · split <;> simpa [committed] using erased
      · rintro m message posted sent
        apply none
        rw [List.countP_pos_iff]
        exact ⟨(m, message), (s.db.messages.mem_rows_iff m message).mpr posted, by simpa using sent⟩
  · next e s' ran =>
    left
    have kept := transaction_error (congrArg Prod.fst ran)
    rwa [ran] at kept

theorem postToRoom_db (room : RoomId) (sender : Username) (content : String)
    (timestamp : Timestamp) :
    let result := MessageStore.postToRoom room sender content timestamp s
    (∃ e, result.1 = .error e ∧ result.2.db = s.db) ∨
    result.1 = .ok (s.db.messages.seq + 1) ∧ result.2.db.users = s.db.users ∧
      result.2.db.messages = s.db.messages.insert ⟨sender, none, content, timestamp⟩ := by
  rcases ran : MessageStore.postToRoom room sender content timestamp s with ⟨r, s'⟩
  cases r with
  | error e =>
      have kept := transaction_error (congrArg Prod.fst ran)
      rw [show transaction _ s = _ from ran] at kept
      exact .inl ⟨e, rfl, kept⟩
  | ok id =>
      obtain ⟨s₁, s₂, begun, body, committed⟩ := transaction_ok ran
      obtain ⟨made, s₃, inserted, body⟩ := Program.bind_eq_ok body
      obtain ⟨_, s₄, joined, body⟩ := Program.bind_eq_ok body
      cases body
      obtain ⟨rfl, filled⟩ := insertMessage_ok inserted
      have after := insertRoomMessage_ok joined
      rw [filled, begun] at after
      rw [begun]
      exact .inr ⟨rfl, by simp [committed, after], by simp [committed, after]⟩

theorem postDirect_db (sender recipient : Username) (content : String) (timestamp : Timestamp) :
    let result := MessageStore.postDirect sender recipient content timestamp s
    (∃ e, result.1 = .error e ∧ result.2.db = s.db) ∨
    result.1 = .ok (s.db.messages.seq + 1) ∧ result.2.db.users = s.db.users ∧
      result.2.db.messages = s.db.messages.insert ⟨sender, some recipient, content, timestamp⟩ := by
  rcases ran : MessageStore.postDirect sender recipient content timestamp s with ⟨r, s'⟩
  cases r with
  | error e =>
      unfold MessageStore.postDirect MessageStore.insertMessage at ran
      have kept := insertRow_error (congrArg Prod.fst ran)
      rw [ran] at kept
      exact .inl ⟨e, rfl, kept⟩
  | ok id =>
      obtain ⟨rfl, filled⟩ := insertMessage_ok ran
      exact .inr ⟨rfl, by simp [filled], by simp [filled]⟩

theorem delete_db (id : MessageId) :
    (MessageStore.delete id s).2.db = s.db ∨
    (MessageStore.delete id s).2.db = afterDelete id s.db := by
  rcases ran : MessageStore.delete id s with ⟨r, s'⟩
  cases r with
  | error e =>
      have kept := transaction_error (congrArg Prod.fst ran)
      rw [show transaction _ s = _ from ran] at kept
      exact .inl kept
  | ok b => exact .inr (delete_ok ran)

end Calls

/-! ## The invariant -/

/-- An account that was there when `m` was posted still bears the name. -/
def HeldSince (s : Mailroom) (m : MessageId) (name : Username) : Prop :=
  ∃ id, names s.storage.db id = some name ∧ id ∈ s.present m

structure Sound (s : Mailroom) : Prop where
  unique : ∀ i j name, names s.storage.db i = some name → names s.storage.db j = some name → i = j
  held : ∀ m row recipient, s.storage.db.messages.get? m = some row →
    row.recipient = some recipient → HeldSince s m row.sender ∧ HeldSince s m recipient
  known : ∀ m id, s.storage.db.messages.get? m ≠ none → id ∈ s.present m →
    id ≤ s.storage.db.users.seq

section Sound
variable {s t : Mailroom}

theorem Sound.of_same (sound : Sound s) (users : names t.storage.db = names s.storage.db)
    (seq : t.storage.db.users.seq = s.storage.db.users.seq)
    (messages : ∀ m row, t.storage.db.messages.get? m = some row →
      s.storage.db.messages.get? m = some row)
    (present : t.present = s.present) : Sound t where
  unique := by
    rw [users]
    exact sound.unique
  held m row recipient stored direct := by
    have before := sound.held m row recipient (messages m row stored) direct
    simpa only [HeldSince, users, present] using before
  known m id stored mem := by
    obtain ⟨row, there⟩ := Option.ne_none_iff_exists'.mp stored
    rw [present] at mem
    rw [seq]
    exact sound.known m id (by rw [messages m row there]; exact Option.some_ne_none row) mem

theorem sound_create (sound : Sound s) {row : UserRow}
    (free : ∀ id, names s.storage.db id ≠ some row.username)
    (filled : t.storage.db = { s.storage.db with users := s.storage.db.users.insert row })
    (present : t.present = s.present) : Sound t := by
  have added (k : UserId) : names t.storage.db k =
      if k = s.storage.db.users.seq + 1 then some row.username else names s.storage.db k := by
    simp only [names, filled, RowTable.get?_insert]
    split <;> rfl
  have old (k : UserId) (name : Username) (h : names s.storage.db k = some name) :
      names t.storage.db k = some name := by
    obtain ⟨user, stored, -⟩ := Option.map_eq_some_iff.mp h
    have le := RowTable.le_seq stored
    rw [added, if_neg]
    · exact h
    · intro new
      rw [new] at le
      exact absurd le (not_le.mpr (Int.lt_succ _))
  constructor
  · intro i j name hi hj
    rw [added] at hi hj
    split at hi
    · next newI =>
      split at hj
      · next newJ => rw [newI, newJ]
      · cases hi
        exact absurd hj (free j)
    · split at hj
      · cases hj
        exact absurd hi (free i)
      · exact sound.unique i j name hi hj
  · intro m message recipient stored direct
    rw [filled] at stored
    obtain ⟨⟨a, sender, seen⟩, b, received, seen'⟩ := sound.held m message recipient stored direct
    rw [← present] at seen seen'
    exact ⟨⟨a, old a _ sender, seen⟩, b, old b _ received, seen'⟩
  · intro m id stored mem
    rw [filled] at stored ⊢
    rw [present] at mem
    have le := sound.known m id stored mem
    exact le.trans (Int.le_of_lt (Int.lt_succ _))

theorem sound_hardDelete (sound : Sound s) {id : UserId} {name : Username}
    (holder : names s.storage.db id = some name) (unread : ¬ Addressed s.storage.db name)
    (silent : ∀ m row, s.storage.db.messages.get? m = some row → row.sender ≠ name)
    (deleted : t.storage.db = UserStore.deleteRow id s.storage.db)
    (present : t.present = s.present) : Sound t := by
  have left (k : UserId) : names t.storage.db k =
      if k = id then none else names s.storage.db k := by
    simp only [names, deleted, UserStore.deleteRow, RowTable.get?_erase]
    split <;> rfl
  have kept {m : MessageId} {other : Username} (apart : other ≠ name)
      (before : HeldSince s m other) : HeldSince t m other := by
    obtain ⟨k, bears, seen⟩ := before
    refine ⟨k, ?_, by rwa [present]⟩
    rw [left, if_neg]
    · exact bears
    · rintro rfl
      rw [holder] at bears
      exact apart (Option.some.inj bears).symm
  constructor
  · intro i j other hi hj
    rw [left] at hi hj
    split at hi
    · cases hi
    · split at hj
      · cases hj
      · exact sound.unique i j other hi hj
  · intro m row recipient stored direct
    rw [deleted] at stored
    obtain ⟨sender, received⟩ := sound.held m row recipient stored direct
    refine ⟨kept (silent m row stored) sender, kept ?_ received⟩
    rintro rfl
    exact unread ⟨m, row, stored, direct⟩
  · intro m k stored mem
    rw [deleted] at stored ⊢
    rw [present] at mem
    exact sound.known m k stored mem

theorem sound_post (sound : Sound s) {row : MessageRow}
    (between : ∀ name, name = row.sender ∨ row.recipient = some name →
      row.recipient ≠ none → ∃ id, names s.storage.db id = some name)
    (users : t.storage.db.users = s.storage.db.users)
    (posted : t.storage.db.messages = s.storage.db.messages.insert row)
    (present : t.present = fun m => if m = s.storage.db.messages.seq + 1 then
      s.storage.db.users.keys else s.present m) : Sound t := by
  have same : names t.storage.db = names s.storage.db := by
    funext k
    rw [names, users, names]
  have now {name : Username} (h : ∃ id, names s.storage.db id = some name) :
      HeldSince t (s.storage.db.messages.seq + 1) name := by
    obtain ⟨id, bears⟩ := h
    refine ⟨id, by rwa [same], ?_⟩
    rw [present]
    simp only [if_true]
    rw [RowTable.mem_keys_iff]
    obtain ⟨user, stored, -⟩ := Option.map_eq_some_iff.mp bears
    rw [stored]
    rfl
  constructor
  · rw [same]
    exact sound.unique
  · intro m message recipient stored direct
    rw [posted, RowTable.get?_insert] at stored
    split at stored
    · next new =>
      cases stored
      subst new
      have directed : row.recipient ≠ none := by simp [direct]
      exact ⟨now (between _ (.inl rfl) directed), now (between _ (.inr direct) directed)⟩
    · next old =>
      have before := sound.held m message recipient stored direct
      simpa only [HeldSince, same, present, if_neg old] using before
  · intro m id stored mem
    rw [users]
    rw [present] at mem
    dsimp only at mem
    split at mem
    · obtain ⟨user, there⟩ := Option.isSome_iff_exists.mp ((RowTable.mem_keys_iff _ _).mp mem)
      exact RowTable.le_seq there
    · next old =>
      rw [posted, RowTable.get?_insert, if_neg old] at stored
      exact sound.known m id stored mem

theorem after_silent {α : Type} (op : MailOp) {call : StoreM α}
    (h : op.program = do let _ ← call; pure none) :
    (op.after s).storage = (call s.storage).2 ∧ (op.after s).present = s.present := by
  unfold MailOp.after
  rw [h, Program.bind_apply]
  rcases call s.storage with ⟨r, storage⟩
  cases r <;> exact ⟨rfl, rfl⟩

theorem sound_posted {op : MailOp} {call : StoreM MessageId} {row : MessageRow}
    (h : op.program = do let id ← call; pure (some id))
    (posts : (∃ e, (call s.storage).1 = .error e ∧ (call s.storage).2.db = s.storage.db) ∨
      (call s.storage).1 = .ok (s.storage.db.messages.seq + 1) ∧
        (call s.storage).2.db.users = s.storage.db.users ∧
        (call s.storage).2.db.messages = s.storage.db.messages.insert row)
    (between : ∀ name, name = row.sender ∨ row.recipient = some name →
      row.recipient ≠ none → ∃ id, names s.storage.db id = some name)
    (sound : Sound s) : Sound (op.after s) := by
  rcases ran : call s.storage with ⟨r, storage⟩
  rw [ran] at posts
  have result : op.program s.storage = (r.map some, storage) := by
    rw [h, Program.bind_apply, ran]
    cases r <;> rfl
  rcases posts with ⟨e, failed, kept⟩ | ⟨made, users, posted⟩
  · obtain rfl : r = .error e := failed
    have same : (op.after s).storage.db = s.storage.db := by rw [MailOp.after, result, kept]
    refine sound.of_same (by rw [same]) (by rw [same]) (by simp [same]) ?_
    rw [MailOp.after, result]
    rfl
  · obtain rfl : r = .ok (s.storage.db.messages.seq + 1) := made
    apply sound_post sound between (by rw [MailOp.after, result, users])
      (by rw [MailOp.after, result, posted])
    rw [MailOp.after, result]
    rfl

theorem sound_after (op : MailOp) (sound : Sound s) (allowed : Allowed op s) :
    Sound (op.after s) := by
  cases op with
  | create username displayName level createdAt =>
      obtain ⟨storage, present⟩ := after_silent (s := s) (.create username displayName level
        createdAt) rfl
      rcases create_db (s := s.storage) username displayName level createdAt with
        kept | ⟨free, row, rfl, filled⟩
      · rw [← storage] at kept
        exact sound.of_same (by rw [kept]) (by rw [kept]) (by simp [kept]) present
      · rw [← storage] at filled
        exact sound_create sound free filled present
  | update id changes =>
      obtain ⟨storage, present⟩ := after_silent (s := s) (.update id changes) rfl
      obtain ⟨users, seq, messages⟩ := update_db (s := s.storage) id changes
      rw [← storage] at users seq messages
      exact sound.of_same users seq (by simp [messages]) present
  | hardDelete id =>
      obtain ⟨storage, present⟩ := after_silent (s := s) (.hardDelete id) rfl
      rcases hardDelete_db (s := s.storage) id with kept | ⟨deleted, name, holder, silent⟩
      · rw [← storage] at kept
        exact sound.of_same (by rw [kept]) (by rw [kept]) (by simp [kept]) present
      · rw [← storage] at deleted
        exact sound_hardDelete sound holder (allowed name holder) silent deleted present
  | postToRoom room sender content timestamp =>
      apply sound_posted rfl (postToRoom_db room sender content timestamp) _ sound
      intro name _ directed
      exact absurd rfl directed
  | postDirect sender recipient content timestamp =>
      apply sound_posted rfl (postDirect_db sender recipient content timestamp) _ sound
      intro name party _
      rcases party with rfl | received
      · exact allowed.1
      · cases received
        exact allowed.2
  | delete id =>
      obtain ⟨storage, present⟩ := after_silent (s := s) (.delete id) rfl
      rcases delete_db (s := s.storage) id with kept | erased
      · rw [← storage] at kept
        exact sound.of_same (by rw [kept]) (by rw [kept]) (by simp [kept]) present
      · rw [← storage] at erased
        refine sound.of_same (by rw [erased]; rfl) (by rw [erased]; rfl) ?_ present
        intro m row stored
        rw [erased] at stored
        simp only [afterDelete, MessageStore.deleteRow, MessageStore.rescuePointers,
          RowTable.get?_erase] at stored
        split at stored
        · cases stored
        · exact stored

end Sound

/-! ## The pages of `list_direct` -/

section Pages
variable {s : Mailroom} {id : UserId} {name : Username}

theorem listDirect_mem {storage storage' : Storage} {after : Option MessageId} {limit : Nat}
    {page : MessagePage} (h : MessageStore.listDirect name after limit storage = (.ok page, storage'))
    {m : Message} (mem : m ∈ page.messages) :
    ∃ row, storage.db.messages.get? m.id = some row ∧
      (row.sender = name ∨ row.recipient = some name) ∧ row.recipient ≠ none := by
  obtain ⟨rows, s₁, read, rest⟩ := Program.bind_eq_ok h
  obtain ⟨rfl, -⟩ := query_ok read
  cases rest
  simp only [buildPage, List.mem_mergeSort] at mem
  obtain ⟨⟨k, row⟩, picked, rfl⟩ := List.mem_map.mp (List.mem_of_mem_take mem)
  obtain ⟨direct, -⟩ := List.mem_filter.mp (List.mem_of_mem_take picked)
  obtain ⟨stored, involved⟩ := List.mem_filter.mp direct
  refine ⟨row, (storage.db.messages.mem_rows_iff k row).mp stored, ?_⟩
  simpa [MessageStore.involves, Option.isSome_iff_ne_none] using involved

/-- A page long enough, with no statement failing, shows any direct message of the account. -/
theorem listDirect_shows (name : Username) {db : Database} {m : MessageId} {row : MessageRow}
    (stored : db.messages.get? m = some row)
    (involved : (row.sender = name ∨ row.recipient = some name) ∧ row.recipient ≠ none)
    (storage : Storage) (here : storage.db = db) (sure : storage.faults = []) :
    ∃ page storage', MessageStore.listDirect name (some (m - 1)) db.messages.rows.length storage =
        (.ok page, storage') ∧ mapMessageRow m row ∈ page.messages := by
  subst here
  let rows := MessageStore.after (MessageStore.direct storage.db name) (some (m - 1))
  have short : rows.length ≤ storage.db.messages.rows.length :=
    (List.length_filter_le _ _).trans (List.length_filter_le _ _)
  have picked : (m, row) ∈ rows := by
    refine List.mem_filter.mpr ⟨List.mem_filter.mpr ⟨?_, ?_⟩, by simp⟩
    · exact (storage.db.messages.mem_rows_iff m row).mpr stored
    · simpa [MessageStore.involves, Option.isSome_iff_ne_none] using involved
  have read : query (fun db => (MessageStore.after (MessageStore.direct db name)
      (some (m - 1))).take (storage.db.messages.rows.length + 1)) storage = (.ok rows, storage) := by
    have all : rows.take (storage.db.messages.rows.length + 1) = rows :=
      List.take_of_length_le (by omega)
    simp only [query, Program.bind_apply, statement, sure, Program.gets_apply]
    rw [all]
  refine ⟨_, _, Program.bind_ok read, ?_⟩
  simp only [buildPage, List.mem_mergeSort]
  rw [List.take_of_length_le (by simpa [mapMessageRows] using short)]
  exact List.mem_map.mpr ⟨(m, row), picked, rfl⟩

theorem onlyOwn_of_sound (sound : Sound s) : OnlyOwn s := by
  intro id name bears faults after limit page storage shown m mem
  obtain ⟨row, stored, party, direct⟩ := listDirect_mem shown mem
  obtain ⟨recipient, received⟩ := Option.ne_none_iff_exists'.mp direct
  obtain ⟨bySender, byRecipient⟩ := sound.held m.id row recipient stored received
  have seen {other : Username} (h : HeldSince s m.id other) (same : other = name) :
      id ∈ s.present m.id := by
    obtain ⟨k, held, mem⟩ := h
    subst same
    rwa [sound.unique id k _ bears held]
  rcases party with sent | got
  · exact seen bySender sent
  · rw [received] at got
    exact seen byRecipient (Option.some.inj got)

end Pages

/-! ## Whole runs -/

def step (op : MailOp) (s t : Mailroom) : Prop := t = op.after s

theorem sound_run {s t : Mailroom} (users : s.storage.db.users.rows = [])
    (messages : s.storage.db.messages.rows = []) (run : Reaches step Allowed s t) : Sound t := by
  refine run.invariant ?_ fun op t u sound allowed next => ?_
  · have noUser (k : UserId) : names s.storage.db k = none := by
      simp [names, RowTable.get?, users]
    have noMessage (k : MessageId) : s.storage.db.messages.get? k = none := by
      simp [RowTable.get?, messages]
    constructor
    · intro i j name hi
      rw [noUser] at hi
      cases hi
    · intro m row recipient stored
      rw [noMessage] at stored
      cases stored
    · intro m id stored
      exact absurd (noMessage m) stored
  · rw [step] at next
    rw [next]
    exact sound_after op sound allowed

/-- After an account with received mail is deleted, whoever is created under its name is shown it. -/
theorem mail_handed_over {t : Mailroom} (sound : Sound t) {id : UserId} {name : Username}
    (addressed : Addressed t.storage.db name)
    {deleted created : Storage}
    (hdel : UserStore.hardDelete id t.storage = (.ok (), deleted))
    {displayName : Option String} {level : PermissionLevel} {createdAt : Timestamp} {id' : UserId}
    (hnew : UserStore.create name displayName level createdAt deleted = (.ok id', created)) :
    ¬ OnlyOwn ⟨created, t.present⟩ := by
  intro own
  obtain ⟨m, row, stored, direct⟩ := addressed
  obtain ⟨-, rfl, filled⟩ := insertRow_ok hnew
  have tables : deleted.db.users.seq = t.storage.db.users.seq ∧
      deleted.db.messages = t.storage.db.messages := by
    have cases := hardDelete_db (s := t.storage) id
    rw [hdel] at cases
    rcases cases with kept | ⟨erased, -⟩
    · exact ⟨by rw [kept], by rw [kept]⟩
    · exact ⟨by rw [erased]; rfl, by rw [erased]; rfl⟩
  have bears : names created.db (deleted.db.users.seq + 1) = some name := by
    rw [names, filled, RowTable.get?_insert, if_pos rfl]
    rfl
  have there : created.db.messages.get? m = some row := by
    rw [filled]
    exact (congrArg (RowTable.get? · m) tables.2).trans stored
  obtain ⟨page, storage', shown, mem⟩ := listDirect_shows name there
    ⟨.inr direct, by simp [direct]⟩ { created with faults := [] } rfl rfl
  have present := own _ name bears [] _ _ page storage' shown _ mem
  have le := sound.known m _ (by rw [stored]; exact Option.some_ne_none row) present
  rw [tables.1] at le
  exact absurd le (not_le.mpr (Int.lt_succ _))

theorem only_own_mail {s t : Mailroom} (users : s.storage.db.users.rows = [])
    (messages : s.storage.db.messages.rows = []) (run : Reaches step Allowed s t) :
    OnlyOwn t ∧
    ∀ id name, names t.storage.db id = some name → Addressed t.storage.db name →
      ∀ deleted, UserStore.hardDelete id t.storage = (.ok (), deleted) →
      ∀ displayName level createdAt id' created,
        UserStore.create name displayName level createdAt deleted = (.ok id', created) →
        ¬ OnlyOwn ⟨created, t.present⟩ := by
  have sound := sound_run users messages run
  exact ⟨onlyOwn_of_sound sound, fun _ _ _ addressed _ hdel _ _ _ _ _ hnew =>
    mail_handed_over sound addressed hdel hnew⟩

def emptied : Mailroom := ⟨Storage.fresh, fun _ => []⟩

-- bob and alice, and a letter of alice's to bob
def letter : List MailOp :=
  [.create .bob none .user 0, .create .alice none .user 0, .postDirect .alice .bob "hi" 0]

def runMail (ops : List MailOp) (s : Mailroom) : Mailroom := ops.foldl (fun s op => op.after s) s

theorem letter_reaches : Reaches step Allowed emptied (runMail letter emptied) := by
  have bob : step (.create .bob none .user 0) emptied (runMail (letter.take 1) emptied) := rfl
  have alice : step (.create .alice none .user 0) (runMail (letter.take 1) emptied)
      (runMail (letter.take 2) emptied) := rfl
  have posted : step (.postDirect .alice .bob "hi" 0) (runMail (letter.take 2) emptied)
      (runMail letter emptied) := rfl
  have created : Reaches step Allowed emptied (runMail (letter.take 2) emptied) :=
    (Reaches.start.step (by trivial) bob).step (by trivial) alice
  have between : Allowed (.postDirect .alice .bob "hi" 0) (runMail (letter.take 2) emptied) :=
    ⟨⟨2, by decide +kernel⟩, 1, by decide +kernel⟩
  exact created.step between posted

theorem only_own_mail_letter : OnlyOwn (runMail letter emptied) :=
  (only_own_mail rfl rfl letter_reaches).1

def reused : Mailroom := runMail (letter ++ [.hardDelete 1, .create .bob none .user 0]) emptied

/-- Another bob is shown what was written to the first. -/
theorem old_mail_shown : ¬ OnlyOwn reused := by
  intro own
  have shown : (MessageStore.listDirect .bob none 10 { reused.storage with faults := [] }).1.toOption.map
      (fun page => page.messages.map (·.id)) = some [1] := by
    decide +kernel
  rcases ran : MessageStore.listDirect .bob none 10 { reused.storage with faults := [] } with
    ⟨r, storage⟩
  rw [ran] at shown
  cases r with
  | error e => cases shown
  | ok page =>
      have ids : page.messages.map (·.id) = [1] := Option.some.inj shown
      obtain ⟨m, mem, first⟩ := List.mem_map.mp (show (1 : MessageId) ∈ page.messages.map (·.id) by
        rw [ids]
        exact List.mem_singleton_self 1)
      have seen := own 3 .bob (by decide +kernel) [] none 10 page storage ran m mem
      rw [first] at seen
      exact absurd seen (by decide +kernel)

end SupplyDrop.Proof.OwnMail
