import Mathlib
import SupplyDrop.Proof.StoreCalls

namespace SupplyDrop.Store
open Library

/-! ## Usernames as they are stored -/

theorem validateChars_plain {raw : String} (h : validateChars raw = .ok ()) :
    ∀ c ∈ raw.toList, ¬(Text.isControl c || Text.isWhitespace c || c = '@') := by
  intro c mem disallowed
  have some_ : (raw.toList.find? fun c =>
      Text.isControl c || Text.isWhitespace c || c = '@').isSome := by
    rw [List.find?_isSome]
    exact ⟨c, mem, disallowed⟩
  obtain ⟨c, found⟩ := Option.isSome_iff_exists.mp some_
  unfold validateChars at h
  by_cases empty : raw.isEmpty
  · rw [if_pos empty] at h
    cases h
  by_cases long : 32 < raw.utf8ByteSize
  · rw [if_neg empty, if_pos long] at h
    cases h
  cases ascii : raw.toList.all Text.isAscii with
  | false =>
      rw [if_neg empty, if_neg long, ascii] at h
      cases h
  | true =>
      rw [if_neg empty, if_neg long, ascii, found] at h
      cases h

theorem validateChars_bytes {raw : String} (h : validateChars raw = .ok ()) :
    raw.utf8ByteSize ≤ 32 := by
  by_contra long
  unfold validateChars at h
  by_cases empty : raw.isEmpty
  · rw [if_pos empty] at h
    cases h
  · rw [if_neg empty, if_pos (not_le.mp long)] at h
    cases h

theorem validateChars_at {raw : String} (h : validateChars raw = .ok ()) : '@' ∉ raw.toList :=
  fun mem => validateChars_plain h '@' mem (by simp)

theorem stripPrefix_at {text : String} (h : '@' ∉ text.toList) : Text.stripPrefix "@" text = none := by
  rw [Text.stripPrefix, if_neg]
  intro starts
  obtain ⟨rest, eq⟩ := List.isPrefixOf_iff_prefix.mp starts
  apply h
  rw [← eq]
  simp

theorem tryFrom_text (name : Username) : Username.tryFrom name.text = .ok name := by
  have plain := stripPrefix_at (validateChars_at name.valid)
  have same : Text.toAsciiLowercase ((Text.stripPrefix "@" name.text).getD name.text) = name.text := by
    rw [plain, Option.getD_none, name.lower]
  unfold Username.tryFrom
  dsimp only
  split
  · apply congrArg
    exact Username.ext_text same
  · next e failed =>
    rw [same, name.valid] at failed
    cases failed

theorem new_text {name found : Username} (h : Username.new name.text = .ok found) : found = name := by
  delta Username.new at h
  rw [tryFrom_text] at h
  dsimp only at h
  split at h
  · cases h
  · exact (Except.ok.inj h).symm

/-! ## Accounts as they are read -/

def account (id : UserId) (row : UserRow) : User := { row with id := id }

theorem mapUserRow_ok {id : UserId} {row : UserRow} {user : User}
    (h : mapUserRow id row = .ok user) : user = account id row := by
  unfold mapUserRow at h
  split at h
  · next name read =>
    rw [new_text read] at h
    exact (Except.ok.inj h).symm
  · cases h

theorem decoded_ok {α : Type} {r : Except StoreError α} {a : α} {s s' : Storage}
    (h : UserStore.decoded r s = (.ok a, s')) : r = .ok a ∧ s' = s := by
  cases r with
  | ok b =>
      cases h
      exact ⟨rfl, rfl⟩
  | error e => cases h

theorem getById_ok {id : UserId} {found : Option User} {s s' : Storage}
    (h : UserStore.getById id s = (.ok found, s')) :
    found = (s.db.users.get? id).map (account id) := by
  obtain ⟨row, s₁, read, rest⟩ := Program.bind_eq_ok h
  obtain ⟨rfl, -⟩ := query_ok read
  cases stored : s.db.users.get? id with
  | none =>
      rw [stored] at rest
      cases rest
      rfl
  | some row =>
      rw [stored] at rest
      obtain ⟨user, s₂, mapped, rest⟩ := Program.bind_eq_ok rest
      obtain ⟨ok, -⟩ := decoded_ok mapped
      cases rest
      rw [mapUserRow_ok ok]
      rfl

theorem getByUsername_ok {username : Username} {found : Option User} {s s' : Storage}
    (h : UserStore.getByUsername username s = (.ok found, s')) :
    found = (s.db.users.rows.find? fun r => r.2.username = username).map fun r => account r.1 r.2 := by
  obtain ⟨row, s₁, read, rest⟩ := Program.bind_eq_ok h
  obtain ⟨rfl, -⟩ := query_ok read
  cases stored : s.db.users.rows.find? fun r => r.2.username = username with
  | none =>
      rw [stored] at rest
      cases rest
      rfl
  | some r =>
      rw [stored] at rest
      obtain ⟨user, s₂, mapped, rest⟩ := Program.bind_eq_ok rest
      obtain ⟨ok, -⟩ := decoded_ok mapped
      cases rest
      rw [mapUserRow_ok ok]
      rfl

/-- An account found by its name has the name. -/
theorem found_username {username : Username} {user : User} {s s' : Storage}
    (h : UserStore.getByUsername username s = (.ok (some user), s')) :
    s.db.users.get? user.id = some user.toUserRow ∧ user.username = username := by
  have found := (getByUsername_ok h).symm
  rw [Option.map_eq_some_iff] at found
  obtain ⟨r, first, rfl⟩ := found
  have named : r.2.username = username := by simpa using List.find?_some first
  exact ⟨RowTable.get?_of_find? first, named⟩

/-! ## What a change of an account comes to -/

theorem selectRow_ok {id : UserId} {row : UserRow} {s s' : Storage}
    (h : UserStore.selectRow id s = (.ok row, s')) : s.db.users.get? id = some row := by
  obtain ⟨found, s₁, read, rest⟩ := Program.bind_eq_ok h
  obtain ⟨rfl, -⟩ := query_ok read
  cases stored : s.db.users.get? id with
  | none =>
      rw [stored] at rest
      cases rest
  | some row' =>
      rw [stored] at rest
      cases rest
      rfl

/-- `update` sets what it is told to set, in the row as it stands. -/
theorem update_effect (id : UserId) (name : Option (Option String)) (status : Option UserStatus)
    (level : Option PermissionLevel) (login : Option Timestamp) (s : Storage) :
    let s' := (UserStore.update id name status level login s).2
    Later s s' ∧ (s'.db = s.db ∨ ∃ row, s.db.users.get? id = some row ∧
      s'.db = { s.db with users := s.db.users.update id fun r =>
        UserStore.Changes.onto ⟨name, status, level, login⟩ row r }) := by
  dsimp only
  have same := Reads.selectUser id s
  unfold UserStore.update
  rw [Program.bind_apply]
  rcases read : UserStore.selectRow id s with ⟨r, s₁⟩
  rw [read] at same
  cases r with
  | error e => exact ⟨same.2, .inl same.1⟩
  | ok row =>
      have stored := selectRow_ok read
      obtain ⟨later, kept | wrote⟩ := execute_effect (fun db => { db with
        users := db.users.update id (UserStore.Changes.onto ⟨name, status, level, login⟩ row) }) s₁
      · exact ⟨same.2.trans later, .inl (kept.trans same.1)⟩
      · refine ⟨same.2.trans later, .inr ⟨row, stored, wrote.trans ?_⟩⟩
        rw [same.1]

theorem update_error {id : UserId} {name : Option (Option String)} {status : Option UserStatus}
    {level : Option PermissionLevel} {login : Option Timestamp} {s s' : Storage} {e : StoreError}
    (h : UserStore.update id name status level login s = (.error e, s')) : s'.db = s.db := by
  have same := (Reads.selectUser id s).1
  unfold UserStore.update at h
  rcases read : UserStore.selectRow id s with ⟨r, s₁⟩
  rw [read] at same
  cases r with
  | error e' =>
      rw [Program.bind_error read] at h
      cases h
      exact same
  | ok row =>
      rw [Program.bind_ok read] at h
      exact (execute_error h).trans same

theorem whereId_effect (id : UserId) (f : UserRow → UserRow) (s : Storage) :
    let s' := (UserStore.whereId id f s).2
    Later s s' ∧ (s'.db = s.db ∨ s'.db = { s.db with users := s.db.users.update id f }) := by
  dsimp only
  unfold UserStore.whereId
  rw [Program.bind_apply]
  dsimp only [Program.gets_apply]
  rw [Program.bind_apply]
  have effect := execute_effect (fun db => { db with users := db.users.update id f }) s
  rcases ran : execute (fun db => { db with users := db.users.update id f }) s with ⟨r, s₁⟩
  rw [ran] at effect
  cases r with
  | error e => exact effect
  | ok u =>
      dsimp only
      split <;> exact effect

theorem endExpired_effect (id : UserId) (at_ : Timestamp) (s : Storage) :
    let s' := (UserStore.endExpiredSuspension id at_ s).2
    Later s s' ∧ (s'.db = s.db ∨
      s'.db = { s.db with users := s.db.users.update id (UserStore.reactivate at_) }) := by
  dsimp only
  unfold UserStore.endExpiredSuspension
  rw [Program.bind_apply]
  dsimp only [Program.gets_apply]
  rw [Program.bind_apply]
  have effect := execute_effect
    (fun db => { db with users := db.users.update id (UserStore.reactivate at_) }) s
  rcases ran : execute (fun db => { db with
    users := db.users.update id (UserStore.reactivate at_) }) s with ⟨r, s₁⟩
  rw [ran] at effect
  cases r <;> exact effect

@[simp] theorem reactivate_username (now : Timestamp) (row : UserRow) :
    (UserStore.reactivate now row).username = row.username := by
  unfold UserStore.reactivate
  split <;> rfl

@[simp] theorem reactivate_permissionLevel (now : Timestamp) (row : UserRow) :
    (UserStore.reactivate now row).permissionLevel = row.permissionLevel := by
  unfold UserStore.reactivate
  split <;> rfl

/-- A row is as it was before suspensions ended, or the suspension of its account has. -/
theorem reactivated_row {db db' : Database} {user id : UserId} {now : Timestamp} {row' : UserRow}
    (wrote : db' = { db with users := db.users.update user (UserStore.reactivate now) })
    (stored : db'.users.get? id = some row') :
    ∃ row, db.users.get? id = some row ∧ (row' = row ∨
      row.status = .banned ∧ row' = { row with status := .active, suspendedUntil := none }) := by
  rw [wrote, RowTable.get?_update] at stored
  split at stored
  · obtain ⟨row, before, rfl⟩ := Option.map_eq_some_iff.mp stored
    refine ⟨row, before, ?_⟩
    unfold UserStore.reactivate
    split
    · next ended =>
      simp only [UserStore.expired, Bool.and_eq_true, decide_eq_true_eq] at ended
      exact .inr ⟨ended.1, rfl⟩
    · exact .inl rfl
  · exact ⟨row', stored, .inl rfl⟩

theorem putHash_effect (id : UserId) (phcHash : String) (updatedAt : Timestamp)
    (mustChange : Option Bool) (s : Storage) :
    let s' := (CredentialStore.putHash id phcHash updatedAt mustChange s).2
    Later s s' ∧ (s'.db = s.db ∨
      ((s.db.userCredentials id).isSome ∨ (s.db.users.get? id).isSome) ∧
      s'.db = { s.db with
        userCredentials := fun i => if i = id then
            some ⟨phcHash, updatedAt,
              mustChange.getD (((s.db.userCredentials id).map (·.mustChange)).getD false)⟩
          else s.db.userCredentials i }) := by
  dsimp only
  have db := statement_db s
  have later := Later.statement s
  unfold CredentialStore.putHash
  rw [Program.bind_apply]
  rcases started : statement s with ⟨r, s₁⟩
  rw [started] at db later
  cases r with
  | error e => exact ⟨later, .inl db⟩
  | ok u =>
      dsimp only at db later ⊢
      rw [Program.bind_apply]
      dsimp only [Program.gets_apply]
      rw [db]
      split
      · exact ⟨later, .inl db⟩
      · next known =>
        refine ⟨later.wrote _, .inr ⟨?_, ?_⟩⟩
        · rw [not_and_or] at known
          simpa [Option.isSome_iff_ne_none] using known
        · simp [db]

end SupplyDrop.Store
