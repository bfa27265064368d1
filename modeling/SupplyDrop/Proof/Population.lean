import Mathlib
import SupplyDrop.Host.Moderation
import SupplyDrop.Library.Ranking
import SupplyDrop.Proof.Accounts
import SupplyDrop.Proof.Reader

namespace SupplyDrop.Proof.PopulationScans
open Library Library.Program Store Host Ranking
open UserStore (page createdBefore createdKey)

/-! ## One page of the accounts -/

theorem createdBefore_iff (a b : UserId × UserRow) :
    createdBefore a b = true ↔
      toLex (createdKey a.2.createdAt) ≤ toLex (createdKey b.2.createdAt) := by
  simp only [createdBefore, Prod.Lex.toLex_le_toLex, Bool.or_eq_true, Bool.and_eq_true,
    decide_eq_true_eq]

theorem createdBefore_trans (a b c : UserId × UserRow) (h : createdBefore a b = true)
    (h' : createdBefore b c = true) : createdBefore a c = true := by
  rw [createdBefore_iff] at h h' ⊢
  exact h.trans h'

theorem createdBefore_total (a b : UserId × UserRow) :
    (createdBefore a b || createdBefore b a) = true := by
  rw [Bool.or_eq_true, createdBefore_iff, createdBefore_iff]
  exact le_total _ _

/-- The accounts a scan runs over, of one status or of any. -/
def population (status : Option UserStatus) (db : Database) : List (UserId × UserRow) :=
  match status with
  | some status => db.users.rows.filter fun r => r.2.status = status
  | none => db.users.rows

/-- How many accounts of the population are listed before one of them: those created earlier, and
those created at the same time with a smaller id. -/
def listedBefore (status : Option UserStatus) (db : Database) (r : UserId × UserRow) : Nat :=
  rank createdBefore (population status db) r

theorem population_sorted (status : Option UserStatus) (db : Database) :
    (population status db).Pairwise fun a b => a.1 < b.1 := by
  cases status with
  | none => exact db.users.sorted
  | some status => exact db.users.sorted.filter _

theorem page_perm (status : Option UserStatus) (db : Database) (n : Nat) :
    (page (population status db) n 0).Perm
      ((population status db).filter fun r => listedBefore status db r < n) := by
  have taken := take_mergeSort_perm (population_sorted status db) createdBefore_trans
    createdBefore_total n
  unfold page listedBefore
  rw [List.drop_zero]
  exact taken

/-- A table of users as the schema leaves it, in a database that answers. -/
structure Sure (s : Storage) : Prop where
  answers : s.faults = []
  allowed : ∀ r ∈ s.db.users.rows, r.2.username.text ≠ "bbs" ∧ r.2.username.text ≠ "system"
  distinct : (s.db.users.rows.map fun r => r.2.username).Nodup

def listed (status : Option UserStatus) (n : Nat) (db : Database) : List User :=
  (page (population status db) n 0).map fun r => account r.1 r.2

theorem mapUserRow_allowed {id : UserId} {row : UserRow}
    (allowed : row.username.text ≠ "bbs" ∧ row.username.text ≠ "system") :
    mapUserRow id row = .ok (account id row) := by
  have read : Username.new row.username.text = .ok row.username := by
    delta Username.new
    rw [tryFrom_text]
    exact if_neg (not_or.mpr allowed)
  unfold mapUserRow
  rw [read]
  dsimp only [account]

theorem mapUserRows_allowed {rows : List (UserId × UserRow)}
    (allowed : ∀ r ∈ rows, r.2.username.text ≠ "bbs" ∧ r.2.username.text ≠ "system") :
    mapUserRows rows = .ok (rows.map fun r => account r.1 r.2) := by
  induction rows with
  | nil => rfl
  | cons r rows ih =>
      have rest := ih fun r hr => allowed r (List.mem_cons_of_mem _ hr)
      rw [mapUserRows] at rest ⊢
      rw [List.mapM_cons, mapUserRow_allowed (allowed r List.mem_cons_self), rest]
      rfl

theorem mem_population {status : Option UserStatus} {db : Database} {r : UserId × UserRow}
    (h : r ∈ population status db) : r ∈ db.users.rows := by
  cases status with
  | none => exact h
  | some status => exact List.mem_of_mem_filter h

theorem mem_page {status : Option UserStatus} {n : Nat} {db : Database} {r : UserId × UserRow} :
    r ∈ page (population status db) n 0 ↔
      r ∈ population status db ∧ listedBefore status db r < n := by
  rw [(page_perm status db n).mem_iff, List.mem_filter, decide_eq_true_eq]

theorem list_sure (status : Option UserStatus) (n : Nat) {s : Storage} (sure : Sure s) :
    UserStore.list status n 0 s = (.ok (listed status n s.db), s) := by
  have decoded : mapUserRows (page (population status s.db) n 0) = .ok (listed status n s.db) :=
    mapUserRows_allowed fun r hr => sure.allowed r (mem_population (mem_page.mp hr).1)
  unfold UserStore.list
  rw [bind_ok (query_sure _ sure.answers)]
  cases status <;>
  · simp only [population] at decoded
    rw [decoded]
    rfl

theorem mem_listed {status : Option UserStatus} {n : Nat} {db : Database} {user : User} :
    user ∈ listed status n db ↔ ∃ r ∈ population status db, listedBefore status db r < n ∧
      account r.1 r.2 = user := by
  simp only [listed, List.mem_map, mem_page]
  constructor
  · rintro ⟨r, ⟨mem, few⟩, rfl⟩
    exact ⟨r, mem, few, rfl⟩
  · rintro ⟨r, mem, few, rfl⟩
    exact ⟨r, ⟨mem, few⟩, rfl⟩

theorem eq_of_name {s : Storage} (sure : Sure s) {r r' : UserId × UserRow}
    (hr : r ∈ s.db.users.rows) (hr' : r' ∈ s.db.users.rows)
    (same : r.2.username = r'.2.username) : r = r' :=
  List.inj_on_of_nodup_map sure.distinct hr hr' same

/-- Whom a filtered page names: an account is there exactly when few enough are listed before it. -/
theorem named_iff {status : Option UserStatus} {n : Nat} {s : Storage} (sure : Sure s)
    (keep : User → Bool) {r : UserId × UserRow} (mem : r ∈ population status s.db)
    (kept : keep (account r.1 r.2) = true) :
    (∃ user ∈ (listed status n s.db).filter keep, user.username = r.2.username) ↔
      listedBefore status s.db r < n := by
  simp only [List.mem_filter, mem_listed]
  constructor
  · rintro ⟨user, ⟨⟨r', mem', few, rfl⟩, -⟩, same⟩
    obtain rfl := eq_of_name sure (mem_population mem') (mem_population mem) same
    exact few
  · intro few
    exact ⟨account r.1 r.2, ⟨⟨r, mem, few, rfl⟩, kept⟩, rfl⟩

theorem getByUsername_sure {s : Storage} (sure : Sure s) {r : UserId × UserRow}
    (mem : r ∈ s.db.users.rows) :
    UserStore.getByUsername r.2.username s = (.ok (some (account r.1 r.2)), s) := by
  have first : s.db.users.rows.find? (fun other => other.2.username = r.2.username) = some r := by
    cases searched : s.db.users.rows.find? fun other => other.2.username = r.2.username with
    | none =>
        have missed := List.find?_eq_none.mp searched r mem
        simp at missed
    | some other =>
        have same : other.2.username = r.2.username := by simpa using List.find?_some searched
        rw [eq_of_name sure (List.mem_of_find?_eq_some searched) mem same]
  unfold UserStore.getByUsername
  rw [bind_ok (query_sure _ sure.answers), first]
  dsimp only
  rw [mapUserRow_allowed (sure.allowed r mem)]
  rfl

/-! ## Who is served -/

theorem withAuth_online {session : SessionId} {r : SessionRecord} {auth : Auth} {h : BbsHost}
    (online : Online session r auth h) (high : .user ≤ auth.level) :
    ∃ h', (∀ k, withAuth (sessionAuthUser session) k h = k auth h') ∧
      Relevelled session (r.setLevel auth.level) h h' := by
  obtain ⟨h', ran, settled⟩ :=
    sessionAuthUser_sure online.sure online.found online.username online.userId
  rw [← online.level, if_pos high] at ran
  rw [← online.level] at settled
  have whole : (⟨auth.username, auth.userId, auth.level, r.currentRoom⟩ : Auth) = auth := by
    rw [online.here]
  rw [whole] at ran
  refine ⟨h', fun k => ?_, settled⟩
  unfold withAuth
  rw [bind_ok ran]

theorem privileged_online {session : SessionId} {r : SessionRecord} {auth : Auth} {h : BbsHost}
    {required : PermissionLevel} {refusal : Response} (online : Online session r auth h)
    (atLeast : .user ≤ required) (high : required ≤ auth.level) :
    ∃ h', (∀ k, privileged session required refusal k h = k auth h') ∧
      Relevelled session (r.setLevel auth.level) h h' := by
  obtain ⟨h', ran, settled⟩ := withAuth_online online (atLeast.trans high)
  refine ⟨h', fun k => ?_, settled⟩
  rw [privileged, ran, if_neg (not_lt.mpr high)]

theorem list_sure_relevelled {session : SessionId} {r : SessionRecord} {h h' : BbsHost}
    (settled : Relevelled session r h h') (sure : Sure h.store) (status : Option UserStatus)
    (n : Nat) (describe : StoreError → String) :
    db describe (UserStore.list status n 0) h' = (.ok (listed status n h.store.db), h') := by
  have called : UserStore.list status n 0 h'.store =
      (.ok (listed status n h.store.db), h'.store) := by
    rw [settled.store]
    exact list_sure status n sure
  exact db_ok called

end SupplyDrop.Proof.PopulationScans
