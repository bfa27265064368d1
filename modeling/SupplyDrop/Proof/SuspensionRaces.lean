import Mathlib
import SupplyDrop.Host.SuspensionCall
import SupplyDrop.Library.Run
import SupplyDrop.Proof.WebAuthority

namespace SupplyDrop.Proof.SuspensionRaces
open Library Library.Program Store Host
open WebAuthority (endExpired_true)

/-! ## Days that cover a timeout -/

def dayNanos : Int := Calendar.secondsPerDay * Calendar.nanosPerSecond

/-- Less than a second more than a whole number of days. -/
def justAbove (rest : Int) : Bool :=
  dayNanos ≤ rest && 0 < rest % dayNanos && rest % dayNanos < UserStore.second

/-- The whole days that are told: at least one, and no more than it takes to cover the rest. -/
def Covers (rest days : Int) : Prop := IsLeast {n : Int | 1 ≤ n ∧ rest ≤ n * dayNanos} days

theorem justAbove_false_iff (rest : Int) : justAbove rest = false ↔
    (dayNanos ≤ rest → 0 < rest % dayNanos → UserStore.second ≤ rest % dayNanos) := by
  simp [justAbove]

theorem covers_iff (rest days : Int) :
    Covers rest days ↔ 1 ≤ days ∧ rest ≤ days * dayNanos ∧
      (days = 1 ∨ (days - 1) * dayNanos < rest) := by
  constructor
  · rintro ⟨⟨one, cover⟩, least⟩
    refine ⟨one, cover, or_iff_not_imp_left.mpr fun more => ?_⟩
    by_contra fewer
    have := least ⟨by omega, not_lt.mp fewer⟩
    omega
  · rintro ⟨one, cover, tight⟩
    refine ⟨⟨one, cover⟩, fun n ⟨some_, covered⟩ => ?_⟩
    rcases tight with rfl | tight
    · exact some_
    · have : (days - 1) * dayNanos < n * dayNanos := lt_of_lt_of_le tight covered
      have := lt_of_mul_lt_mul_right this (by decide)
      omega

/-- Counting whole seconds up to days, with truncation towards zero. -/
theorem daysUp_over {rest : Int} (over_ : rest ≤ 0) :
    max ((rest.tdiv UserStore.second + 86400 - 1).tdiv 86400) 1 = 1 := by
  have seconds : rest.tdiv UserStore.second ≤ 0 := Int.tdiv_le_tdiv (by decide) over_
  have days : (rest.tdiv UserStore.second + 86400 - 1).tdiv 86400 ≤ (86399 : Int).tdiv 86400 :=
    Int.tdiv_le_tdiv (by decide) (by omega)
  exact max_eq_right (days.trans (by decide))

theorem daysUp_ahead {rest : Int} (ahead : 0 < rest) :
    max ((rest.tdiv UserStore.second + 86400 - 1).tdiv 86400) 1 =
      max ((rest / UserStore.second + 86399) / 86400) 1 := by
  have seconds : 0 ≤ rest / UserStore.second := Int.ediv_nonneg ahead.le (by decide)
  rw [Int.tdiv_eq_ediv_of_nonneg ahead.le, Int.tdiv_eq_ediv_of_nonneg (by omega), add_sub_assoc]
  rfl

theorem days_cover_iff (until_ now : Timestamp) :
    Covers (until_ - now) (suspensionDaysRemaining until_ now) ↔
      justAbove (until_ - now) = false := by
  unfold suspensionDaysRemaining
  have nanos : dayNanos = 86400000000000 := rfl
  have second : UserStore.second = 1000000000 := rfl
  obtain ⟨rest, is⟩ : ∃ rest : Int, until_ - now = rest := ⟨_, rfl⟩
  rw [is, covers_iff, justAbove_false_iff, nanos]
  rcases le_or_gt rest 0 with over_ | ahead
  · rw [daysUp_over over_]
    omega
  · rw [daysUp_ahead ahead, second]
    omega

/-! ## What the next statement makes of a call -/

namespace Resolving
variable {user : User} {id : UserId} {now until_ : Timestamp} {s s' : Storage} {e : StoreError}
  {fresh : Option User}

theorem start_permanent (ends : user.suspendedUntil = none) :
    (Resolving.start user).next s = (.done (.ok .permanentlyBanned), s) := by
  delta Resolving.next
  simp only [ends]

theorem start_over (ends : user.suspendedUntil = some until_) (over_ : until_ ≤ s.now) :
    (Resolving.start user).next s = (.ending user s.now, s) := by
  delta Resolving.next
  simp only [ends, if_pos over_]

theorem start_ahead (ends : user.suspendedUntil = some until_) (ahead : ¬ until_ ≤ s.now) :
    (Resolving.start user).next s =
      (.done (.ok (.suspended (suspensionDaysRemaining until_ s.now))), s) := by
  delta Resolving.next
  simp only [ends, if_neg ahead]

theorem ending_lifted (ran : UserStore.endExpiredSuspension user.id now s = (.ok true, s')) :
    (Resolving.ending user now).next s = (.done (.ok (.allowed (User.reactivated user))), s') := by
  delta Resolving.next
  simp only [ran]

theorem ending_kept (ran : UserStore.endExpiredSuspension user.id now s = (.ok false, s')) :
    (Resolving.ending user now).next s = (.rereading user.id now, s') := by
  delta Resolving.next
  simp only [ran]

theorem ending_failed (ran : UserStore.endExpiredSuspension user.id now s = (.error e, s')) :
    (Resolving.ending user now).next s = (.failed e, s') := by
  delta Resolving.next
  simp only [ran]

theorem rereading_found (ran : UserStore.getById id s = (.ok fresh, s')) :
    (Resolving.rereading id now).next s = (.done (.ok (standing now fresh)), s') := by
  delta Resolving.next
  simp only [ran]

theorem rereading_failed (ran : UserStore.getById id s = (.error e, s')) :
    (Resolving.rereading id now).next s = (.failed e, s') := by
  delta Resolving.next
  simp only [ran]

end Resolving

/-! ## A call among others -/

/-- A call of `resolve_suspension`, and what it and others have done since it began. -/
structure Scene where
  -- the account as the caller read it
  user : User
  call : Resolving
  store : Storage
  -- the end of a timeout and the reading of the clock that the answer goes by
  told : Option (Timestamp × Timestamp)
  -- the states of the store, and what the statements of the call found and left
  seen : List Storage
  own : List (Storage × Storage)
  faltered : Bool

/-- What the next statement tells the call of a timeout. -/
def tells : Resolving → Storage → Option (Timestamp × Timestamp)
  | .start user, s => user.suspendedUntil.map fun until_ => (until_, s.now)
  | .rereading id now, s =>
      ((s.db.users.get? id).bind (·.suspendedUntil)).map fun until_ => (until_, now)
  | _, _ => none

/-- The next statement does not fail. -/
def passes (s : Storage) : Bool := (statement s).1.isOk

/-- The timeout that is to be told of is just above a whole number of days, or the one that is to be
ended is not over, although its end is not after the reading of the clock as SQLite rounds both. -/
def falters : Resolving → Storage → Bool
  | .start user, s => user.suspendedUntil.any fun until_ =>
      s.now < until_ && justAbove (until_ - s.now)
  | .ending user now, s => passes s && (s.db.users.get? user.id).any fun row =>
      UserStore.expired now row && row.suspendedUntil.any fun until_ => s.now < until_
  | .rereading id now, s => passes s && (s.db.users.get? id).any fun row =>
      (mapUserRow id row).isOk && row.status = .banned &&
        row.suspendedUntil.any fun until_ => justAbove (until_ - now)
  | .done _, _ => false

inductive Label where
  | resume
  -- bans, suspensions, deletions and whatever else comes between two statements
  | others (act : Storage → Storage)

def Scene.start (user : User) (store : Storage) : Scene where
  user
  call := .start user
  store
  told := none
  seen := [store]
  own := []
  faltered := false

def Scene.next (w : Scene) : Label → Scene
  | .resume =>
      let (call, store) := w.call.next w.store
      { w with
        call, store
        told := (tells w.call w.store).or w.told
        seen := store :: w.seen
        own := (w.store, store) :: w.own
        faltered := w.faltered || falters w.call w.store }
  | .others act => { w with store := act w.store, seen := act w.store :: w.seen }

abbrev Runs : Scene → Scene → Prop := Reaches (fun label w w' => w' = w.next label) fun _ _ => True

def turn (r : Resolving × Storage) : Resolving × Storage := r.1.next r.2

/-- A call that nothing comes between is the host's. -/
theorem call_whole (user : User) (h : BbsHost) :
    turn (turn (turn (.start user, h.store))) =
      (.done (resolveSuspension user h).1, (resolveSuspension user h).2.store) := by
  unfold resolveSuspension
  cases ends : user.suspendedUntil with
  | none =>
      simp only [turn, Resolving.start_permanent ends]
      rfl
  | some until_ =>
      dsimp only
      rw [bind_apply, now_apply]
      dsimp only
      by_cases over_ : until_ ≤ h.store.now
      · simp only [turn, Resolving.start_over ends over_]
        rw [if_pos over_]
        rcases ran : UserStore.endExpiredSuspension user.id h.store.now h.store with
          ⟨e | (_ | _), s⟩
        · simp only [Resolving.ending_failed ran]
          rw [bind_error (db_error ran)]
          rfl
        · simp only [Resolving.ending_kept ran]
          rw [bind_ok (db_ok ran), if_neg (by decide)]
          rcases read : UserStore.getById user.id s with ⟨e | fresh, s'⟩
          · rw [Resolving.rereading_failed read, bind_error (db_error read)]
            rfl
          · rw [Resolving.rereading_found read, bind_ok (db_ok read)]
            rfl
        · simp only [Resolving.ending_lifted ran]
          rw [bind_ok (db_ok ran)]
          rfl
      · simp only [turn, Resolving.start_ahead ends over_]
        rw [if_neg over_]
        rfl

/-! ## What a call may do and answer -/

def ActiveIn (id : UserId) (s : Storage) : Prop :=
  ∃ row, s.db.users.get? id = some row ∧ row.status = .active

/-- The account is in a timeout that is over. -/
def TimedOut (id : UserId) (s : Storage) : Prop :=
  ∃ row until_, s.db.users.get? id = some row ∧ row.status = .banned ∧
    row.suspendedUntil = some until_ ∧ until_ ≤ s.now

/-- No account becomes active but one whose timeout is over, and only the one asked for. -/
def LiftsOnly (id : UserId) (s s' : Storage) : Prop :=
  ∀ other, ActiveIn other s' → ActiveIn other s ∨ (other = id ∧ TimedOut id s)

structure Sound (w : Scene) : Prop where
  lifts : ∀ p ∈ w.own, LiftsOnly w.user.id p.1 p.2
  allowed : ∀ user, w.call = .done (.ok (.allowed user)) →
    user.id = w.user.id ∧ user.status = .active ∧ ∃ s ∈ w.seen, ActiveIn user.id s
  suspended : ∀ days, w.call = .done (.ok (.suspended days)) →
    ∃ until_ now, w.told = some (until_, now) ∧ Covers (until_ - now) days

/-! ## One statement -/

section Statement
variable {user : User} {id : UserId} {now : Timestamp} {s s' : Storage}

theorem LiftsOnly.same (users : s'.db.users = s.db.users) : LiftsOnly id s s' := by
  rintro other ⟨row, stored, active⟩
  rw [users] at stored
  exact .inl ⟨row, stored, active⟩

theorem passes_apply (pass : passes s) : statement s = (.ok (), (statement s).2) := by
  unfold passes at pass
  rcases ran : statement s with ⟨_ | _, s'⟩
  · rw [ran] at pass
    cases pass
  · rfl

theorem fails_apply (fail : passes s = false) : ∃ e, statement s = (.error e, (statement s).2) := by
  unfold passes at fail
  rcases ran : statement s with ⟨e | _, s'⟩
  · exact ⟨e, rfl⟩
  · rw [ran] at fail
    cases fail

theorem endExpired_passes (id : UserId) (now : Timestamp) (pass : passes s) :
    UserStore.endExpiredSuspension id now s =
      (.ok ((s.db.users.get? id).any (UserStore.expired now)), { (statement s).2 with
        db := { s.db with users := s.db.users.update id (UserStore.reactivate now) } }) := by
  have wrote (f : Database → Database) :
      execute f s = (.ok (), { (statement s).2 with db := f s.db }) := by
    unfold execute
    rw [bind_ok (passes_apply pass), modify_apply, statement_db]
  unfold UserStore.endExpiredSuspension
  rw [bind_apply, gets_apply]
  dsimp only
  rw [bind_ok (wrote _)]
  rfl

theorem endExpired_fails (id : UserId) (now : Timestamp) (fail : passes s = false) :
    ∃ e, UserStore.endExpiredSuspension id now s = (.error e, (statement s).2) := by
  obtain ⟨e, failed⟩ := fails_apply fail
  have wrote (f : Database → Database) : execute f s = (.error e, (statement s).2) := by
    unfold execute
    rw [bind_error failed]
  refine ⟨e, ?_⟩
  unfold UserStore.endExpiredSuspension
  rw [bind_apply, gets_apply]
  dsimp only
  rw [bind_error (wrote _)]

/-- The row that the statement lifts a timeout of. -/
theorem expired_banned {row : UserRow} (lapsed : UserStore.expired now row) :
    row.status = .banned ∧ ∃ until_, row.suspendedUntil = some until_ := by
  unfold UserStore.expired at lapsed
  rw [Bool.and_eq_true, decide_eq_true_eq] at lapsed
  obtain ⟨until_, ends, -⟩ := (Option.any_eq_true _ _).mp lapsed.2
  exact ⟨lapsed.1, until_, ends⟩

theorem ending_lifts_iff (pass : passes s) :
    LiftsOnly id s (UserStore.endExpiredSuspension id now s).2 ↔
      ∀ row until_, s.db.users.get? id = some row → UserStore.expired now row →
        row.suspendedUntil = some until_ → until_ ≤ s.now := by
  rw [endExpired_passes id now pass]
  constructor
  · intro lifts row until_ stored lapsed ends
    have lifted : ActiveIn id { (statement s).2 with
        db := { s.db with users := s.db.users.update id (UserStore.reactivate now) } } := by
      refine ⟨UserStore.reactivate now row, ?_, ?_⟩
      · show (s.db.users.update id _).get? id = _
        rw [RowTable.get?_update, if_pos rfl, stored]
        rfl
      · unfold UserStore.reactivate
        rw [if_pos lapsed]
    rcases lifts id lifted with
      ⟨row', stored', active⟩ | ⟨-, row', until', stored', -, ends', over_⟩
    · rw [stored] at stored'
      cases stored'
      rw [(expired_banned lapsed).1] at active
      cases active
    · rw [stored] at stored'
      cases stored'
      rw [ends] at ends'
      cases ends'
      exact over_
  · rintro timely other ⟨row', stored', active⟩
    have stored' :
      (s.db.users.update id (UserStore.reactivate now)).get? other = some row' := stored'
    rw [RowTable.get?_update] at stored'
    by_cases same : other = id
    · subst same
      rw [if_pos rfl] at stored'
      obtain ⟨row, stored, rfl⟩ := Option.map_eq_some_iff.mp stored'
      by_cases lapsed : UserStore.expired now row
      · obtain ⟨banned, until_, ends⟩ := expired_banned lapsed
        exact .inr ⟨rfl, row, until_, stored, banned, ends, timely row until_ stored lapsed ends⟩
      · unfold UserStore.reactivate at active
        rw [if_neg lapsed] at active
        exact .inl ⟨row, stored, active⟩
    · rw [if_neg same] at stored'
      exact .inl ⟨row', stored', active⟩

end Statement

/-! ## One step of the call -/

/-- The days that are told are those that cover the timeout they are told of. -/
def TellsRight (call : Resolving) (told : Option (Timestamp × Timestamp)) : Prop :=
  ∀ days, call = .done (.ok (.suspended days)) →
    ∃ until_ now, told = some (until_, now) ∧ Covers (until_ - now) days

section Step
variable {user : User} {id : UserId} {now : Timestamp} {s : Storage}
  {told : Option (Timestamp × Timestamp)}

theorem tellsRight_of {call : Resolving}
    (other : ∀ days, call ≠ .done (.ok (.suspended days))) : TellsRight call told :=
  fun days is => absurd is (other days)

theorem tellsRight_iff (until_ now : Timestamp) :
    TellsRight (.done (.ok (.suspended (suspensionDaysRemaining until_ now))))
      (some (until_, now)) ↔ justAbove (until_ - now) = false := by
  rw [← days_cover_iff]
  constructor
  · intro right
    obtain ⟨until', now', same, covers⟩ := right _ rfl
    cases same
    exact covers
  · rintro covers days ⟨⟩
    exact ⟨until_, now, rfl, covers⟩

theorem start_exact (user : User) (s : Storage) (told : Option (Timestamp × Timestamp)) :
    LiftsOnly user.id s ((Resolving.start user).next s).2 ∧
        TellsRight ((Resolving.start user).next s).1 ((tells (.start user) s).or told) ↔
      falters (.start user) s = false := by
  cases ends : user.suspendedUntil with
  | none =>
      rw [Resolving.start_permanent ends]
      simp only [falters, ends]
      exact iff_of_true ⟨.same rfl, tellsRight_of fun _ => nofun⟩ rfl
  | some until_ =>
      by_cases over_ : until_ ≤ s.now
      · rw [Resolving.start_over ends over_]
        refine iff_of_true ⟨.same rfl, tellsRight_of fun _ => nofun⟩ ?_
        simp [falters, ends, not_lt.mpr over_]
      · have ahead : s.now < until_ := not_le.mp over_
        rw [Resolving.start_ahead ends over_, and_iff_right (LiftsOnly.same rfl)]
        simp only [tells, falters, ends, Option.any_some, ahead, decide_true, Bool.true_and]
        exact tellsRight_iff until_ s.now

/-- The statement that ends a timeout tells of none. -/
theorem ending_leaves (user : User) (now : Timestamp) (s : Storage)
    (told : Option (Timestamp × Timestamp)) :
    TellsRight ((Resolving.ending user now).next s).1 told ∧
      ((Resolving.ending user now).next s).2 =
        (UserStore.endExpiredSuspension user.id now s).2 := by
  rcases ran : UserStore.endExpiredSuspension user.id now s with ⟨_ | (_ | _), s'⟩
  · rw [Resolving.ending_failed ran]
    exact ⟨tellsRight_of fun _ => nofun, rfl⟩
  · rw [Resolving.ending_kept ran]
    exact ⟨tellsRight_of fun _ => nofun, rfl⟩
  · rw [Resolving.ending_lifted ran]
    exact ⟨tellsRight_of fun _ => nofun, rfl⟩

theorem ending_exact (user : User) (now : Timestamp) (s : Storage)
    (told : Option (Timestamp × Timestamp)) :
    LiftsOnly user.id s ((Resolving.ending user now).next s).2 ∧
        TellsRight ((Resolving.ending user now).next s).1 ((tells (.ending user now) s).or told) ↔
      falters (.ending user now) s = false := by
  obtain ⟨untold, left⟩ := ending_leaves user now s ((tells (.ending user now) s).or told)
  rw [and_iff_left untold, left]
  cases pass : passes s with
  | false =>
      obtain ⟨e, failed⟩ := endExpired_fails user.id now pass
      rw [failed]
      exact iff_of_true (.same (by rw [statement_db])) (by simp [falters, pass])
  | true =>
      rw [ending_lifts_iff pass]
      simp only [falters, pass, Bool.true_and]
      cases stored : s.db.users.get? user.id with
      | none => simp
      | some row =>
          rw [Option.any_some, Bool.and_eq_false_iff]
          constructor
          · intro timely
            by_cases lapsed : UserStore.expired now row
            · obtain ⟨-, until_, ends⟩ := expired_banned lapsed
              refine .inr ?_
              rw [ends]
              simpa using timely row until_ rfl lapsed ends
            · exact .inl (by simpa using lapsed)
          · rintro unharmed row' until_ ⟨⟩ lapsed ends
            rcases unharmed with fresh | over_
            · rw [lapsed] at fresh
              cases fresh
            · rw [ends] at over_
              simpa using over_

theorem getById_passes (id : UserId) (pass : passes s) : UserStore.getById id s =
    (match s.db.users.get? id with
      | none => .ok none
      | some row => (mapUserRow id row).map some, (statement s).2) := by
  have queried : query (fun db => db.users.get? id) s =
      (.ok (s.db.users.get? id), (statement s).2) := by
    unfold query
    rw [bind_ok (passes_apply pass), gets_apply, statement_db]
  unfold UserStore.getById
  rw [bind_ok queried]
  cases s.db.users.get? id with
  | none => rfl
  | some row =>
      dsimp only
      unfold UserStore.decoded
      cases mapUserRow id row <;> rfl

theorem getById_fails (id : UserId) (fail : passes s = false) :
    ∃ e, UserStore.getById id s = (.error e, (statement s).2) := by
  obtain ⟨e, failed⟩ := fails_apply fail
  refine ⟨e, ?_⟩
  unfold UserStore.getById query
  rw [bind_error (bind_error failed)]

/-- What a row says that was read again. -/
theorem standing_exact (id : UserId) (now : Timestamp) (row : UserRow)
    (stored : s.db.users.get? id = some row) (told : Option (Timestamp × Timestamp)) :
    TellsRight (.done (.ok (standing now (some (account id row)))))
        ((tells (.rereading id now) s).or told) ↔
      (true && decide (row.status = .banned) &&
        row.suspendedUntil.any fun until_ => justAbove (until_ - now)) = false := by
  have status_ : (account id row).status = row.status := rfl
  have ends_ : (account id row).suspendedUntil = row.suspendedUntil := rfl
  unfold standing
  cases status : row.status with
  | active =>
      refine iff_of_true (tellsRight_of fun _ => ?_) rfl
      simp [status_, status]
  | deleted =>
      refine iff_of_true (tellsRight_of fun _ => ?_) rfl
      simp [status_, status]
  | banned =>
      cases ends : row.suspendedUntil with
      | none =>
          refine iff_of_true (tellsRight_of fun _ => ?_) rfl
          simp [status_, status, ends_, ends]
      | some until_ =>
          simp only [status_, status, ends_, ends, tells, stored, Option.bind_some, Option.map_some,
            Option.some_or, Option.any_some, decide_true, Bool.and_self, Bool.true_and]
          exact tellsRight_iff until_ now

theorem rereading_exact (id : UserId) (now : Timestamp) (s : Storage)
    (told : Option (Timestamp × Timestamp)) :
    LiftsOnly id s ((Resolving.rereading id now).next s).2 ∧
        TellsRight ((Resolving.rereading id now).next s).1 ((tells (.rereading id now) s).or told) ↔
      falters (.rereading id now) s = false := by
  have reads := (Reads.getUser id s).1
  cases pass : passes s with
  | false =>
      obtain ⟨e, failed⟩ := getById_fails id pass
      rw [failed] at reads
      rw [Resolving.rereading_failed failed]
      exact iff_of_true ⟨.same (by rw [reads]), tellsRight_of fun _ => nofun⟩
        (by simp [falters, pass])
  | true =>
      have read := getById_passes id pass
      rw [read] at reads
      cases stored : s.db.users.get? id with
      | none =>
          simp only [stored] at read
          rw [Resolving.rereading_found read]
          exact iff_of_true ⟨.same (by rw [reads]), tellsRight_of fun _ => nofun⟩
            (by simp [falters, stored])
      | some row =>
          simp only [stored] at read
          cases mapped : mapUserRow id row with
          | error e =>
              rw [mapped] at read
              rw [Resolving.rereading_failed read]
              exact iff_of_true ⟨.same (by rw [reads]), tellsRight_of fun _ => nofun⟩
                (by simp [falters, stored, mapped, Except.isOk, Except.toBool])
          | ok user =>
              rw [mapped, mapUserRow_ok mapped] at read
              rw [Resolving.rereading_found read, and_iff_right (LiftsOnly.same (by rw [reads]))]
              simp only [falters, pass, stored, mapped, Option.any_some, Bool.true_and]
              exact standing_exact id now row stored told

end Step

/-! ## Whole calls -/

/-- The statement to come is about the account asked for. -/
def Belongs (user : User) : Resolving → Prop
  | .start asked => asked = user
  | .ending asked _ => asked = user
  | .rereading id _ => id = user.id
  | .done _ => True

section Next
variable {user answered : User} {call : Resolving} {s : Storage}
  {told : Option (Timestamp × Timestamp)}

theorem next_belongs (belongs : Belongs user call) : Belongs user (call.next s).1 := by
  cases call with
  | start asked =>
      cases ends : asked.suspendedUntil with
      | none =>
          rw [Resolving.start_permanent ends]
          trivial
      | some until_ =>
          by_cases over_ : until_ ≤ s.now
          · rw [Resolving.start_over ends over_]
            exact belongs
          · rw [Resolving.start_ahead ends over_]
            trivial
  | ending asked now =>
      rcases ran : UserStore.endExpiredSuspension asked.id now s with ⟨_ | (_ | _), s'⟩
      · rw [Resolving.ending_failed ran]
        trivial
      · rw [Resolving.ending_kept ran]
        exact congrArg (·.id) belongs
      · rw [Resolving.ending_lifted ran]
        trivial
  | rereading id now =>
      rcases ran : UserStore.getById id s with ⟨_ | fresh, s'⟩
      · rw [Resolving.rereading_failed ran]
        trivial
      · rw [Resolving.rereading_found ran]
        trivial
  | done result => trivial

theorem next_exact (belongs : Belongs user call) (unanswered : ∀ result, call ≠ .done result) :
    LiftsOnly user.id s (call.next s).2 ∧ TellsRight (call.next s).1 ((tells call s).or told) ↔
      falters call s = false := by
  cases call with
  | start asked =>
      cases belongs
      exact start_exact user s told
  | ending asked now =>
      cases belongs
      exact ending_exact user now s told
  | rereading id now =>
      cases belongs
      exact rereading_exact user.id now s told
  | done result => exact absurd rfl (unanswered result)

theorem standing_active {now : Timestamp} {user : User}
    (stands : standing now (some user) = .allowed user) : user.status = .active := by
  unfold standing at stands
  dsimp only at stands
  cases status : user.status with
  | active => rfl
  | banned =>
      rw [status] at stands
      dsimp only at stands
      split at stands
      · cases stands
      · cases stands
  | deleted =>
      rw [status] at stands
      cases stands

/-- Who is let in is an active account, from the statement on that has found it or made it one. -/
theorem next_allowed (belongs : Belongs user call) (unanswered : ∀ result, call ≠ .done result)
    (lets : (call.next s).1 = .done (.ok (.allowed answered))) :
    answered.id = user.id ∧ answered.status = .active ∧
      (ActiveIn answered.id s ∨ ActiveIn answered.id (call.next s).2) := by
  cases call with
  | start asked =>
      cases ends : asked.suspendedUntil with
      | none =>
          rw [Resolving.start_permanent ends] at lets
          cases lets
      | some until_ =>
          by_cases over_ : until_ ≤ s.now
          · rw [Resolving.start_over ends over_] at lets
            cases lets
          · rw [Resolving.start_ahead ends over_] at lets
            cases lets
  | ending asked now =>
      cases belongs
      rcases ran : UserStore.endExpiredSuspension user.id now s with ⟨_ | (_ | _), s'⟩
      · rw [Resolving.ending_failed ran] at lets
        cases lets
      · rw [Resolving.ending_kept ran] at lets
        cases lets
      · rw [Resolving.ending_lifted ran] at lets ⊢
        cases lets
        obtain ⟨row, -, -, lifted⟩ := endExpired_true ran
        exact ⟨rfl, rfl, .inr ⟨_, lifted, rfl⟩⟩
  | rereading id now =>
      cases belongs
      rcases ran : UserStore.getById user.id s with ⟨_ | found, s'⟩
      · rw [Resolving.rereading_failed ran] at lets
        cases lets
      · rw [Resolving.rereading_found ran] at lets
        have stands : standing now found = .allowed answered := by
          simpa using lets
        obtain rfl := standing_allowed stands
        obtain ⟨row, stored, rfl⟩ := Option.map_eq_some_iff.mp (getById_ok ran).symm
        exact ⟨rfl, standing_active stands, .inl ⟨row, stored, standing_active stands⟩⟩
  | done result => exact absurd rfl (unanswered result)

end Next

structure Inv (w : Scene) : Prop where
  belongs : Belongs w.user w.call
  here : w.store ∈ w.seen
  allowed : ∀ user, w.call = .done (.ok (.allowed user)) →
    user.id = w.user.id ∧ user.status = .active ∧ ∃ s ∈ w.seen, ActiveIn user.id s
  sound_iff : (∀ p ∈ w.own, LiftsOnly w.user.id p.1 p.2) ∧ TellsRight w.call w.told ↔
    w.faltered = false

theorem start_inv (user : User) (store : Storage) : Inv (.start user store) where
  belongs := rfl
  here := List.mem_singleton_self store
  allowed user answered := by cases answered
  sound_iff := by
    refine iff_of_true ⟨fun p mem => absurd mem List.not_mem_nil, tellsRight_of ?_⟩ rfl
    intro days told
    cases told

theorem Inv.others {w : Scene} (inv : Inv w) (act : Storage → Storage) :
    Inv (w.next (.others act)) where
  belongs := inv.belongs
  here := List.mem_cons_self
  allowed user answered := by
    obtain ⟨same, active, s, mem, there⟩ := inv.allowed user answered
    exact ⟨same, active, s, List.mem_cons_of_mem _ mem, there⟩
  sound_iff := inv.sound_iff

theorem Inv.answered {w : Scene} (inv : Inv w) {result : Except HostError LoginSuspensionCheck}
    (done : w.call = .done result) : Inv (w.next .resume) := by
  have stays : w.next .resume =
      { w with seen := w.store :: w.seen, own := (w.store, w.store) :: w.own } := by
    unfold Scene.next Resolving.next tells falters
    rw [done]
    simp
  rw [stays]
  refine ⟨inv.belongs, List.mem_cons_self, fun user answered => ?_, ?_⟩
  · obtain ⟨same, active, s, mem, there⟩ := inv.allowed user answered
    exact ⟨same, active, s, List.mem_cons_of_mem _ mem, there⟩
  · dsimp only
    rw [List.forall_mem_cons, and_iff_right (LiftsOnly.same rfl)]
    exact inv.sound_iff

theorem Inv.resumed {w : Scene} (inv : Inv w) (unanswered : ∀ result, w.call ≠ .done result) :
    Inv (w.next .resume) where
  belongs := next_belongs inv.belongs
  here := List.mem_cons_self
  allowed user answered := by
    obtain ⟨same, active, there | there⟩ := next_allowed inv.belongs unanswered answered
    · exact ⟨same, active, w.store, List.mem_cons_of_mem _ inv.here, there⟩
    · exact ⟨same, active, _, List.mem_cons_self, there⟩
  sound_iff := by
    have untold : TellsRight w.call w.told := tellsRight_of fun _ => unanswered _
    have before := inv.sound_iff
    rw [and_iff_left untold] at before
    unfold Scene.next
    dsimp only
    rw [List.forall_mem_cons, Bool.or_eq_false_iff, ← before,
      ← next_exact inv.belongs unanswered]
    constructor
    · rintro ⟨⟨now, earlier⟩, tells_⟩
      exact ⟨earlier, now, tells_⟩
    · rintro ⟨earlier, now, tells_⟩
      exact ⟨⟨now, earlier⟩, tells_⟩

/-- Whatever comes between its statements, a call lifts no timeout that is not over, lets nobody in
who was not active meanwhile, and tells the days that cover the timeout, exactly if no statement of
it falters. -/
theorem suspension_resolved_iff {user : User} {store : Storage} {w : Scene}
    (run : Runs (.start user store) w) : Sound w ↔ w.faltered = false := by
  have inv : Inv w := by
    refine run.invariant (start_inv user store) ?_
    rintro label v _ inv - rfl
    cases label with
    | others act => exact inv.others act
    | resume =>
        by_cases answered : ∃ result, v.call = .done result
        · obtain ⟨result, done⟩ := answered
          exact inv.answered done
        · exact inv.resumed fun result done => answered ⟨result, done⟩
  rw [← inv.sound_iff]
  constructor
  · intro sound
    exact ⟨sound.lifts, sound.suspended⟩
  · rintro ⟨lifts, suspended⟩
    exact ⟨lifts, inv.allowed, suspended⟩

/-- The only account, suspended until then. -/
def suspendedTo (until_ : Timestamp) : Storage :=
  (UserStore.suspend 1 until_ (UserStore.create .alice none .user 0 .fresh).2).2

def timedOut (until_ : Timestamp) : User where
  username := .alice
  displayName := none
  status := .banned
  permissionLevel := .user
  createdAt := 0
  lastLoginAt := none
  suspendedUntil := some until_
  id := 1

/-- The account is unbanned while its timeout is being resolved. -/
def overtaken : List Label :=
  [.resume, .others fun s => (UserStore.update 1 none (some .active) none none s).2,
    .others fun s => (UserStore.clearSuspension 1 s).2, .resume, .resume]

theorem suspension_resolved_overtaken :
    Sound (overtaken.foldl Scene.next (.start (timedOut 0) (suspendedTo 0))) ∧
      (overtaken.foldl Scene.next (.start (timedOut 0) (suspendedTo 0))).call =
        .done (.ok (.allowed (User.reactivated (timedOut 0)))) := by
  constructor
  · apply (suspension_resolved_iff (Reaches.follow_free Scene.next overtaken _)).mpr
    decide +kernel
  · decide +kernel

/-- Two days and half a second are told as two days. -/
theorem half_second_untold : ¬ ∀ (user : User) (store : Storage) (w : Scene),
    Runs (.start user store) w → Sound w := by
  intro claim
  let rest := 2 * dayNanos + 500000000
  have sound := claim _ _ _ (Reaches.follow_free Scene.next [.resume]
    (.start (timedOut rest) (suspendedTo rest)))
  have short : ([Label.resume].foldl Scene.next (.start (timedOut rest) (suspendedTo rest))).call =
      .done (.ok (.suspended 2)) := by decide +kernel
  have told : ([Label.resume].foldl Scene.next (.start (timedOut rest) (suspendedTo rest))).told =
      some (rest, 0) := by decide +kernel
  obtain ⟨until_, now, toldOf, covers⟩ := sound.suspended 2 short
  rw [told] at toldOf
  cases toldOf
  exact absurd covers.1.2 (by decide)

end SupplyDrop.Proof.SuspensionRaces
