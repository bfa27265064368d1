import Mathlib
import SupplyDrop.Host.Admin
import SupplyDrop.Store.Blocks
import SupplyDrop.Store.Credentials
import SupplyDrop.Store.Messages

namespace SupplyDrop.Store
open Library

/-! ## Calls that leave the database as it is -/

/-- Time stands still, and the statements to come are made in their order. -/
structure Later (s s' : Storage) : Prop where
  now : s'.now = s.now
  faults : s'.faults <:+ s.faults

namespace Later
variable {s s' s'' : Storage}

theorem refl (s : Storage) : Later s s := ⟨rfl, List.suffix_refl _⟩

theorem trans (first : Later s s') (rest : Later s' s'') : Later s s'' :=
  ⟨rest.now.trans first.now, rest.faults.trans first.faults⟩

theorem wrote (later : Later s s') (db : Database) : Later s { s' with db } :=
  ⟨later.now, later.faults⟩

theorem statement (s : Storage) : Later s (statement s).2 := by
  unfold Store.statement
  split
  · exact .refl s
  · next eq => exact ⟨rfl, by rw [eq]; exact List.suffix_cons _ _⟩
  · next eq => exact ⟨rfl, by rw [eq]; exact List.suffix_cons _ _⟩

end Later

/-- A call that changes nothing but the statements to come and the draws made. -/
def Reads {α : Type} (m : StoreM α) : Prop := ∀ s, (m s).2.db = s.db ∧ Later s (m s).2

namespace Reads
variable {α β : Type}

theorem ret (a : α) : Reads (pure a) := fun s => ⟨rfl, .refl s⟩

theorem fail (e : StoreError) : Reads (Program.fail e : StoreM α) := fun s => ⟨rfl, .refl s⟩

theorem gets (f : Storage → α) : Reads (Program.gets f) := fun s => ⟨rfl, .refl s⟩

theorem statement : Reads statement := fun s => ⟨statement_db s, .statement s⟩

theorem bind {m : StoreM α} {f : α → StoreM β} (first : Reads m) (rest : ∀ a, Reads (f a)) :
    Reads (m >>= f) := by
  intro s
  have same := first s
  rw [Program.bind_apply]
  rcases ran : m s with ⟨r, s'⟩
  rw [ran] at same
  cases r with
  | ok a => exact ⟨(rest a s').1.trans same.1, same.2.trans (rest a s').2⟩
  | error e => exact same

theorem decoded (r : Except StoreError α) : Reads (UserStore.decoded r) := by
  cases r with
  | ok a => exact .ret a
  | error e => exact .fail e

theorem keeps {m : StoreM α} {I : Database → Prop} (h : Reads m) : KeepsDb I m := by
  intro s holds
  rw [(h s).1]
  exact holds

theorem query (f : Database → α) : Reads (query f) := bind statement fun _ => gets _

theorem getUser (id : UserId) : Reads (UserStore.getById id) := by
  apply bind (query _)
  intro row
  cases row with
  | none => exact .ret _
  | some row => exact bind (decoded _) fun _ => .ret _

theorem findUser (username : Username) : Reads (UserStore.getByUsername username) := by
  apply bind (query _)
  intro found
  cases found with
  | none => exact .ret _
  | some r => exact bind (decoded _) fun _ => .ret _

theorem listUsers (status : Option UserStatus) (limit offset : Nat) :
    Reads (UserStore.list status limit offset) :=
  bind (query _) fun _ => decoded _

theorem draw : Reads CredentialStore.draw := fun _ => ⟨rfl, rfl, List.suffix_refl _⟩

theorem hash (password : String) : Reads (CredentialStore.hash password) := by
  apply bind draw
  intro salt
  apply bind (gets _)
  intro hashed
  cases hashed with
  | ok phc => exact .ret _
  | error e => exact .fail _

theorem selectUser (id : UserId) : Reads (UserStore.selectRow id) := by
  apply bind (query _)
  intro row
  cases row with
  | none => exact .fail _
  | some row => exact .ret _

theorem lookupNode (pubkey : PublicKey) (ttlDays : Nat) :
    Reads (NodeCredentialStore.lookup pubkey ttlDays) :=
  bind (gets _) fun _ => query _

theorem listReadable (level : PermissionLevel) : Reads (RoomStore.listReadable level) := by
  apply bind
  · apply bind (query _)
    intro rooms
    cases RoomStore.inOrder rooms with
    | ok ordered => exact .ret _
    | error e => exact .fail _
  · intro rooms
    exact .ret _

theorem hidden (id : UserId) (blocker blocked : String) :
    Reads (BlockStore.hiddenWhileBlocked id blocker blocked) := by
  apply bind (query _)
  intro since
  cases since with
  | none => exact .ret _
  | some since =>
      apply bind (query _)
      intro hidden
      cases (hidden.image (·.2)).min with
      | top => exact .ret _
      | coe oldest => exact .ret _

theorem listInRoom (room : RoomId) (after : Option MessageId) (limit : Nat) :
    Reads (MessageStore.listInRoom room after limit) :=
  bind (query _) fun _ => .ret _

theorem listDirect (username : Username) (after : Option MessageId) (limit : Nat) :
    Reads (MessageStore.listDirect username after limit) :=
  bind (query _) fun _ => .ret _

end Reads

/-! ## Calls that write to one table -/

theorem execute_effect (f : Database → Database) (s : Storage) :
    Later s (execute f s).2 ∧
      ((execute f s).2.db = s.db ∨ (execute f s).2.db = f s.db) := by
  have db := statement_db s
  have later := Later.statement s
  rw [execute, Program.bind_apply]
  rcases started : statement s with ⟨r, s₁⟩
  rw [started] at db later
  cases r with
  | ok u => exact ⟨later.wrote _, .inr (congrArg f db)⟩
  | error e => exact ⟨later, .inl db⟩

theorem execute_error {f : Database → Database} {s s' : Storage} {e : StoreError}
    (h : execute f s = (.error e, s')) : s'.db = s.db := by
  have db := statement_db s
  rw [execute, Program.bind_apply] at h
  rcases started : statement s with ⟨r, s₁⟩
  rw [started] at db h
  cases r with
  | ok u => cases h
  | error e =>
      cases h
      exact db

theorem insertRow_effect {α : Type} (table : Database → RowTable α)
    (put : Database → RowTable α → Database) (violated : Database → Option StoreError) (row : α)
    (s : Storage) :
    let s' := (insertRow table put violated row s).2
    Later s s' ∧ (s'.db = s.db ∨
      violated s.db = none ∧ s'.db = put s.db ((table s.db).insert row)) := by
  dsimp only
  have db := statement_db s
  have later := Later.statement s
  unfold insertRow
  rw [Program.bind_apply]
  rcases started : statement s with ⟨r, s₁⟩
  rw [started] at db later
  cases r with
  | error e => exact ⟨later, .inl db⟩
  | ok u =>
      dsimp only at db later ⊢
      rw [Program.bind_apply]
      dsimp only [Program.gets_apply]
      rw [db]
      split
      · exact ⟨later, .inl db⟩
      · cases valid : violated s.db with
        | some e => exact ⟨later, .inl db⟩
        | none => exact ⟨later.wrote _, .inr ⟨rfl, rfl⟩⟩

section Writes
variable {I : Database → Prop}

theorem putHash_keeps (free : ∀ db userCredentials, I db → I { db with userCredentials })
    (id : UserId) (phcHash : String) (updatedAt : Timestamp) (mustChange : Option Bool) :
    KeepsDb I (CredentialStore.putHash id phcHash updatedAt mustChange) := by
  apply Program.Keeps.bind KeepsDb.statement
  intro _
  apply Program.Keeps.bind (.gets _)
  intro db
  split
  · exact .fail _
  · exact .modify fun s holds => free s.db _ holds

theorem setPassword_keeps (free : ∀ db userCredentials, I db → I { db with userCredentials })
    (id : UserId) (password : String) (now : Timestamp) :
    KeepsDb I (CredentialStore.setPassword id password now) :=
  .bind (Reads.hash password).keeps fun _ => putHash_keeps free _ _ _ _

theorem postDirect_keeps (free : ∀ db messages, I db → I { db with messages })
    (sender recipient : Username) (content : String) (timestamp : Timestamp) :
    KeepsDb I (MessageStore.postDirect sender recipient content timestamp) :=
  KeepsDb.insertRow fun db holds => free db _ holds

end Writes
end SupplyDrop.Store

namespace SupplyDrop.Host
open Library Store

/-! ## What one call of the host comes to -/

variable {α : Type} {h : BbsHost} {s : Storage} {describe : StoreError → String} {m : StoreM α}

@[simp] theorem peek_apply (f : Memory → α) (h : BbsHost) : peek f h = (.ok (f h.toMemory), h) := rfl

@[simp] theorem poke_apply (f : Memory → Memory) (h : BbsHost) :
    poke f h = (.ok (), { h with toMemory := f h.toMemory }) := rfl

@[simp] theorem now_apply (h : BbsHost) : now h = (.ok h.store.now, h) := rfl

theorem db_ok {a : α} (ran : m h.store = (.ok a, s)) :
    db describe m h = (.ok a, { h with store := s }) := by
  simp only [db, Program.mapError_apply, Program.zoom_apply, ran]
  rfl

theorem db_error {e : StoreError} (ran : m h.store = (.error e, s)) :
    db describe m h = (.error (.storage (describe e)), { h with store := s }) := by
  simp only [db, Program.mapError_apply, Program.zoom_apply, ran]
  rfl

theorem db_eq_ok {a : α} {h' : BbsHost} (ran : db describe m h = (.ok a, h')) :
    ∃ s, m h.store = (.ok a, s) ∧ h' = { h with store := s } := by
  rcases called : m h.store with ⟨r, s⟩
  cases r with
  | ok b =>
      rw [db_ok called] at ran
      cases ran
      exact ⟨s, rfl, rfl⟩
  | error e =>
      rw [db_error called] at ran
      cases ran

theorem tryDb_of {r : Except StoreError α} (ran : m h.store = (r, s)) :
    tryDb m h = (.ok r, { h with store := s }) := by
  simp only [tryDb, Program.attempt_apply, Program.zoom_apply, ran]

theorem onKnownSession_store (session : SessionId) (f : SessionRecord → SessionRecord)
    (h : BbsHost) : (onKnownSession session f h).2.store = h.store := by
  unfold onKnownSession lookUp
  rw [Program.bind_ok (peek_apply _ h)]
  cases h.sessions.get? session <;> rfl

end SupplyDrop.Host
