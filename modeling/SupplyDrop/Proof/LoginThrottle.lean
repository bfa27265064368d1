import Mathlib
import SupplyDrop.Library.Run
import SupplyDrop.Host.LoginAttempts
import SupplyDrop.Host.System
import SupplyDrop.Proof.Conduct.Invariant

namespace SupplyDrop.Proof.LoginThrottle
open Library Store Host

/-! ## What failures imply -/

inductive Happening where
  | failed (username : String) (at_ : Instant)
  | succeeded (username : String)
deriving DecidableEq

/-- Ten idle minutes and a success both start the count over. -/
def count (username : String) (owed : Option (Nat × Instant)) :
    Happening → Option (Nat × Instant)
  | .failed u at_ =>
      if u = username then
        match owed with
        | some (n, last) => if elapsedSecs at_ last ≤ 600 then some (n + 1, at_) else some (1, at_)
        | none => some (1, at_)
      else owed
  | .succeeded u => if u = username then none else owed

/-- How many failures of the username count, and when the last one was. -/
def implied (history : List Happening) (username : String) : Option (Nat × Instant) :=
  history.foldl (count username) none

def Elapsed (clock : Instant) (owed : Option (Nat × Instant)) : Prop :=
  ∀ o ∈ owed, backoff o.1 ≤ elapsedSecs clock o.2

theorem implied_snoc (history : List Happening) (x : Happening) (username : String) :
    implied (history ++ [x]) username = count username (implied history username) x := by
  simp [implied]

def Fails (username : String) : Happening → Prop
  | .failed u _ => u = username
  | .succeeded _ => False

instance (username : String) : ∀ x, Decidable (Fails username x)
  | .failed u _ => inferInstanceAs (Decidable (u = username))
  | .succeeded _ => inferInstanceAs (Decidable False)

theorem implied_later {later : List Happening} {username : String}
    (none_ : ∀ x ∈ later, ¬ Fails username x) (before : List Happening) :
    implied (before ++ later) username = implied before username ∨
      implied (before ++ later) username = none := by
  induction later using List.reverseRecOn with
  | nil => simp
  | append_singleton later x ih =>
      have ih := ih fun y mem => none_ y (List.mem_append_left _ mem)
      have other := none_ x (by simp)
      rw [← List.append_assoc, implied_snoc]
      cases x with
      | failed u at_ => simpa [count, show u ≠ username from other] using ih
      | succeeded u =>
          by_cases same : u = username
          · simp [count, same]
          · simpa [count, same] using ih

theorem elapsed_mono {clock clock' : Instant} {owed : Option (Nat × Instant)}
    (elapsed : Elapsed clock owed) (later : clock ≤ clock') : Elapsed clock' owed := by
  intro o mem
  apply (elapsed o mem).trans
  unfold elapsedSecs
  exact Nat.div_le_div_right (Nat.sub_le_sub_right later _)

theorem backoff_mono {n k : Nat} (le : n ≤ k) : backoff n ≤ backoff k :=
  min_le_min_right 30 (Nat.pow_le_pow_right (by decide) le)

theorem backoff_le (n : Nat) : backoff n ≤ 30 := min_le_right _ _

/-! ## What the map knows -/

/-- Failures that are not ten minutes old are in the map, with no smaller count. -/
def Covers (m : Memory) (history : List Happening) : Prop :=
  ∀ username n last, implied history username = some (n, last) →
    elapsedSecs m.clock last ≤ 600 →
      ∃ k, failuresOf m.loginFailures username = some (k, last) ∧ n ≤ k

/-- The map is thrown away, because a thousand usernames have failed lately. -/
def Purged (m : Memory) : Prop :=
  maxFailureEntries ≤ (m.loginFailures.filter fun f => elapsedSecs m.clock f.2.2 ≤ 600).length

theorem failuresOf_forget (failures : List (String × Nat × Instant)) (username other : String) :
    failuresOf (forgetFailures failures username) other =
      if other = username then none else failuresOf failures other := by
  unfold failuresOf forgetFailures
  rw [List.find?_filter]
  split
  · next same =>
    subst same
    simp [List.find?_eq_none]
  · next apart =>
    congr 1
    apply List.find?_congr
    intro f _
    by_cases same : f.1 = other
    · subst same
      simp [apart]
    · simp [same]

/-- Only what is ten minutes old goes, unless everything does. -/
theorem failuresOf_evict {m : Memory} {username : String} {k : Nat} {last : Instant}
    (kept : ¬ Purged m) (found : failuresOf m.loginFailures username = some (k, last))
    (fresh : elapsedSecs m.clock last ≤ 600) :
    failuresOf (evictStale m.loginFailures m.clock) username = some (k, last) := by
  unfold evictStale
  split
  · dsimp only
    rw [if_neg (show ¬ maxFailureEntries ≤ _ from kept)]
    obtain ⟨f, first, rest⟩ := Option.map_eq_some_iff.mp found
    have same : ((m.loginFailures.filter fun f => elapsedSecs m.clock f.2.2 ≤ 600).find? fun f =>
        f.1 = username) = some f := by
      rw [List.find?_filter]
      rw [List.find?_eq_some_iff_append] at first ⊢
      obtain ⟨is, before, after, split, none_⟩ := first
      refine ⟨?_, before, after, split, fun g mem => ?_⟩
      · rw [rest]
        simpa [fresh] using is
      · have other := none_ g mem
        simp only [Bool.not_eq_true', decide_eq_false_iff_not] at other
        simp [other]
    unfold failuresOf
    rw [same, Option.map_some, rest]
  · exact found

theorem failuresOf_record (m : Memory) (username other : String) :
    failuresOf (m.recordFailure username).loginFailures other =
      if other = username then some (countFailure m.loginFailures m.clock username, m.clock)
      else failuresOf (evictStale m.loginFailures m.clock) other := by
  unfold Memory.recordFailure
  have forgotten := failuresOf_forget (evictStale m.loginFailures m.clock) username other
  unfold failuresOf at forgotten ⊢
  rw [List.find?_append]
  by_cases same : other = username
  · subst same
    rw [if_pos rfl, Option.map_eq_none_iff] at forgotten
    simp [forgotten]
  · rw [if_neg same] at forgotten ⊢
    simp [Ne.symm same, ← forgotten]

theorem countFailure_pos (failures : List (String × Nat × Instant)) (clock : Instant)
    (username : String) : 1 ≤ countFailure failures clock username := by
  unfold countFailure
  split
  · split
    · exact le_refl 1
    · exact Nat.le_add_left 1 _
  · exact le_refl 1

namespace Covers
variable {m : Memory} {history : List Happening}

theorem same {m' : Memory} (covers : Covers m history)
    (failures : m'.loginFailures = m.loginFailures) (later : m.clock ≤ m'.clock) :
    Covers m' history := by
  intro username n last owed recent
  rw [failures]
  apply covers username n last owed
  exact (Nat.div_le_div_right (Nat.sub_le_sub_right later _)).trans recent

theorem records (covers : Covers m history) (kept : ¬ Purged m) (username : String) :
    Covers (m.recordFailure username) (history ++ [.failed username m.clock]) := by
  intro other n last owed recent
  change elapsedSecs m.clock last ≤ 600 at recent
  rw [implied_snoc] at owed
  rw [failuresOf_record]
  by_cases same : other = username
  · subst same
    rw [if_pos rfl]
    refine ⟨countFailure m.loginFailures m.clock other, ?_⟩
    cases before : implied history other with
    | none =>
        rw [before, count, if_pos rfl] at owed
        cases owed
        exact ⟨rfl, countFailure_pos _ _ _⟩
    | some o =>
        obtain ⟨n₀, last₀⟩ := o
        rw [before, count, if_pos rfl] at owed
        split at owed
        · next lately =>
          cases owed
          obtain ⟨k, found, le⟩ := covers other n₀ last₀ before lately
          have counted : countFailure m.loginFailures m.clock other = k + 1 := by
            simp only [countFailure, failuresOf_evict kept found lately]
            rw [if_neg (by omega)]
          exact ⟨rfl, by omega⟩
        · cases owed
          exact ⟨rfl, countFailure_pos _ _ _⟩
  · rw [if_neg same]
    have owed : implied history other = some (n, last) := by
      simpa [count, Ne.symm same] using owed
    obtain ⟨k, found, le⟩ := covers other n last owed recent
    exact ⟨k, failuresOf_evict kept found recent, le⟩

theorem clears (covers : Covers m history) {username : String}
    (none_ : implied history username = none) : Covers (m.clearFailures username) history := by
  intro other n last owed recent
  have apart : other ≠ username := by
    rintro rfl
    rw [none_] at owed
    cases owed
  unfold Memory.clearFailures
  rw [failuresOf_forget, if_neg apart]
  exact covers other n last owed recent

theorem elapsed (covers : Covers m history) {username : String}
    (unthrottled : throttled m.loginFailures m.clock username = none) :
    Elapsed m.clock (implied history username) := by
  rintro ⟨n, last⟩ owed
  by_cases recent : elapsedSecs m.clock last ≤ 600
  · obtain ⟨k, found, le⟩ := covers username n last owed recent
    unfold throttled at unthrottled
    rw [found, Option.bind_some] at unthrottled
    dsimp only at unthrottled
    split at unthrottled
    · cases unthrottled
    · next waited => exact (backoff_mono le).trans (not_lt.mp waited)
  · have bound := backoff_le n
    dsimp only
    omega

end Covers

/-! ## Attempts -/

/-- An attempt, and how much had happened when its throttle was checked. -/
structure Tracked where
  attempt : LoginAttempt
  since : Nat

/-- A password that is verified, with what happened before. -/
structure Verification where
  username : String
  clock : Instant
  history : List Happening
  -- another attempt has failed, and is not counted yet
  uncounted : Bool

def Verification.Waited (v : Verification) : Prop :=
  v.uncounted = false ∧ Elapsed v.clock (implied v.history v.username)

instance (v : Verification) : Decidable v.Waited :=
  inferInstanceAs (Decidable (_ ∧ ∀ _ ∈ _, _))

structure Logins where
  host : BbsHost
  attempts : List Tracked
  history : List Happening
  verified : List Verification

def counting (username : Username) (t : Tracked) : Bool :=
  t.attempt.username = username && t.attempt.stage matches .recordFailure

/-- What a step of an attempt means for its username. -/
def happens (a : LoginAttempt) (next : LoginStage) (clock : Instant) : List Happening :=
  match a.stage, next with
  | .recordFailure, _ => [.failed a.username.text clock]
  | .verifyPassword _, .clearFailures => [.succeeded a.username.text]
  | .resolveSuspension _, .clearFailures => [.succeeded a.username.text]
  | _, _ => []

def verifies (a : LoginAttempt) (p : Logins) : List Verification :=
  match a.stage with
  | .verifyPassword _ => [⟨a.username.text, p.host.clock, p.history,
      p.attempts.any (counting a.username)⟩]
  | _ => []

def Logins.proceed (i : Nat) (p : Logins) : Logins :=
  match p.attempts[i]? with
  | none => p
  | some t =>
      let (stage, host) := t.attempt.proceed p.host
      { host := host
        attempts := p.attempts.set i
          { attempt := { t.attempt with stage }
            since := match t.attempt.stage with
              | .checkThrottle => p.history.length
              | _ => t.since }
        history := p.history ++ happens t.attempt stage p.host.clock
        verified := p.verified ++ verifies t.attempt p }

inductive LoginEvent where
  | start (path : LoginPath) (username : Username) (password : String)
  | proceed (i : Nat)
  -- what others do to the accounts, and time
  | elsewhere (store : Storage) (nanos : Nat)

def Logins.next (p : Logins) : LoginEvent → Logins
  | .start path username password =>
      { p with attempts := p.attempts ++ [⟨.started path username password, 0⟩] }
  | .proceed i => p.proceed i
  | .elsewhere store nanos =>
      { p with host := { p.host with store, clock := p.host.clock + nanos } }

/-! ## What one step does -/

/-- Only the last step of an attempt touches the counts. -/
theorem proceed_memory (a : LoginAttempt) (h : BbsHost) (clearing : a.stage ≠ .clearFailures)
    (recording : a.stage ≠ .recordFailure) : (a.proceed h).2.toMemory = h.toMemory := by
  unfold LoginAttempt.proceed
  cases stage : a.stage with
  | checkThrottle =>
      dsimp only
      split <;> next eq => exact congrArg (·.2.toMemory) eq.symm
  | findUser =>
      dsimp only
      split
      · next eq =>
        split <;> exact congrArg (·.2.toMemory) eq.symm
      · next eq => exact congrArg (·.2.toMemory) eq.symm
  | verifyPassword user =>
      dsimp only
      split <;> next eq => exact congrArg (·.2.toMemory) eq.symm
  | resolveSuspension user =>
      have stable : Stable fun h' : BbsHost => h'.toMemory = h.toMemory :=
        ⟨fun _ _ same _ _ => same, fun _ _ _ same _ _ => same⟩
      have same := stable.resolve user h rfl
      dsimp only
      split <;> next eq => rwa [eq] at same
  | clearFailures => exact absurd stage clearing
  | recordFailure => exact absurd stage recording
  | done => rfl

def PastCheck : LoginStage → Prop
  | .findUser | .verifyPassword _ => True
  | _ => False

theorem proceed_pastCheck {a : LoginAttempt} {h : BbsHost} (past : PastCheck (a.proceed h).1) :
    (a.stage = .checkThrottle ∧ throttled h.loginFailures h.clock a.username.text = none) ∨
      a.stage = .findUser := by
  unfold LoginAttempt.proceed at past
  cases stage : a.stage with
  | checkThrottle =>
      simp only [stage] at past
      refine .inl ⟨rfl, ?_⟩
      split at past
      · next eq => exact Except.ok.inj (congrArg Prod.fst eq)
      · exact past.elim
  | findUser => exact .inr rfl
  | verifyPassword user =>
      simp only [stage] at past
      split at past
      · unfold LoginAttempt.afterVerified at past
        split at past <;> exact past.elim
      · exact past.elim
      · exact past.elim
  | resolveSuspension user =>
      simp only [stage] at past
      split at past <;> exact past.elim
  | clearFailures =>
      simp only [stage] at past
      exact past.elim
  | recordFailure =>
      simp only [stage] at past
      exact past.elim
  | done =>
      simp only [stage] at past
      exact past.elim

/-! ## An attempt that nothing comes between -/

def turn (r : LoginAttempt × BbsHost) : LoginAttempt × BbsHost :=
  ({ r.1 with stage := (r.1.proceed r.2).1 }, (r.1.proceed r.2).2)

section Alone
variable {a : LoginAttempt} {user : User} {username : Username} {h : BbsHost}

theorem alone_done (ended : a.stage = .done) (n : Nat) : turn^[n] (a, h) = (a, h) := by
  have still : turn (a, h) = (a, h) := by
    cases a
    cases ended
    rfl
  exact Function.iterate_fixed still n

theorem alone_clears (clears : a.stage = .clearFailures) (n : Nat) :
    (turn^[n + 1] (a, h)).2 = (clearLoginFailures a.username.text h).2 := by
  have next : turn (a, h) =
      ({ a with stage := .done }, (clearLoginFailures a.username.text h).2) := by
    unfold turn LoginAttempt.proceed
    simp only [clears]
  rw [Function.iterate_succ_apply, next, alone_done rfl]

theorem alone_records (records : a.stage = .recordFailure) (n : Nat) :
    (turn^[n + 1] (a, h)).2 = (recordLoginFailure a.username.text h).2 := by
  have next : turn (a, h) =
      ({ a with stage := .done }, (recordLoginFailure a.username.text h).2) := by
    unfold turn LoginAttempt.proceed
    simp only [records]
  rw [Function.iterate_succ_apply, next, alone_done rfl]

/-- The suspension of the account is looked at. -/
theorem alone_admits {complete : HostM Response} {k : LoginSuspensionCheck → HostM Response}
    (completes : ∀ h, (complete h).2.loginFailures =
      (clearLoginFailures a.username.text h).2.loginFailures)
    (allows : ∀ u h, (k (.allowed u) h).2.loginFailures =
      (clearLoginFailures a.username.text h).2.loginFailures)
    (denies : ∀ check h, (∀ u, check ≠ .allowed u) → (k check h).2.loginFailures = h.loginFailures)
    (verified : a.stage = LoginAttempt.afterVerified user) (h : BbsHost) :
    (turn^[2] (a, h)).2.loginFailures =
      ((if user.status = .banned then resolveSuspension user >>= k else complete)
        h).2.loginFailures := by
  unfold LoginAttempt.afterVerified at verified
  split at verified
  · next banned =>
    rw [if_pos banned, Program.bind_apply, Function.iterate_succ_apply]
    unfold turn LoginAttempt.proceed
    simp only [verified]
    rcases resolveSuspension user h with ⟨e | check, h'⟩
    · rfl
    · cases check with
      | allowed u => exact (allows u h').symm
      | suspended days => exact (denies _ h' (by intro u eq; cases eq)).symm
      | permanentlyBanned => exact (denies _ h' (by intro u eq; cases eq)).symm
  · next good =>
    rw [if_neg good, alone_clears verified, completes]

theorem alone_verifies {admitted : User → HostM Response} {refuse : HostM Response}
    (admits : ∀ h,
      (turn^[2] ({ a with stage := LoginAttempt.afterVerified user }, h)).2.loginFailures =
        (admitted user h).2.loginFailures)
    (refuses : ∀ h, (refuse h).2.loginFailures =
      (recordLoginFailure a.username.text h).2.loginFailures)
    (verifies : a.stage = .verifyPassword user) (h : BbsHost) :
    (turn^[3] (a, h)).2.loginFailures = ((do
      let now ← now
      let ok ← db (failed "verify password")
        (CredentialStore.verifyPassword user.id a.password now)
      if ok then admitted user else refuse) h).2.loginFailures := by
  rw [Program.bind_apply, now_apply, Function.iterate_succ_apply]
  dsimp only
  rw [Program.bind_apply]
  unfold turn LoginAttempt.proceed
  simp only [verifies]
  rcases db (failed "verify password")
    (CredentialStore.verifyPassword user.id a.password h.store.now) h with ⟨e | ok, h'⟩
  · rfl
  · cases ok with
    | false => exact (refuses h').symm
    | true => exact admits h'

theorem alone_finds {k : Option User → HostM Response}
    (leaves : ∀ found h, LoginAttempt.mayGoOn a.path found = none →
      (k found h).2.loginFailures = h.loginFailures)
    (goesOn : ∀ found user h, LoginAttempt.mayGoOn a.path found = some user →
      (turn^[3] ({ a with stage := .verifyPassword user }, h)).2.loginFailures =
        (k found h).2.loginFailures)
    (finds : a.stage = .findUser) (h : BbsHost) :
    (turn^[4] (a, h)).2.loginFailures =
      ((db StoreError.display (UserStore.getByUsername a.username) >>= k) h).2.loginFailures := by
  rw [Program.bind_apply, Function.iterate_succ_apply]
  unfold turn LoginAttempt.proceed
  simp only [finds]
  rcases db StoreError.display (UserStore.getByUsername a.username) h with ⟨e | found, h'⟩
  · rfl
  · dsimp only
    cases may : LoginAttempt.mayGoOn a.path found with
    | none => exact (leaves found h' may).symm
    | some user => exact goesOn found user h' may

abbrev Keeps (failures : List (String × Nat × Instant)) {α : Type} (m : HostM α) : Prop :=
  Program.Keeps (fun h : BbsHost => h.loginFailures = failures) m

theorem onKnownSession_keeps (session : SessionId) (f : SessionRecord → SessionRecord)
    (failures : List (String × Nat × Instant)) : Keeps failures (onKnownSession session f) := by
  intro h same
  unfold onKnownSession lookUp
  rw [Program.bind_ok (peek_apply _ h)]
  cases h.sessions.get? session <;> exact same

theorem completeLogin_clears (session : SessionId) (username : Username) (user : User)
    {hold : SessionId → (SessionRecord → SessionRecord) → HostM Unit}
    (holds : ∀ session f failures, Keeps failures (hold session f)) (h : BbsHost) :
    (completeLogin session username user hold h).2.loginFailures =
      (clearLoginFailures username.text h).2.loginFailures := by
  have rest (failures : List (String × Nat × Instant)) : Keeps failures (do
      stampLastLogin user.id
      let mustChange ← db (failed "must_change lookup") (CredentialStore.mustChangePassword user.id)
      if mustChange then do
        hold session fun r => r.setWorkflow (.forceChangePassword username user.id .enterNew)
        pure operatorReset
      else finalizeLogin session user) := by
    have stamps : Keeps failures (stampLastLogin user.id) :=
      .bind (.gets _) fun _ => fun _ same => same
    apply stamps.bind
    intro _
    apply Program.Keeps.bind (fun _ same => same)
    intro mustChange
    split
    · exact (holds _ _ _).bind fun _ => .ret _
    · apply Program.Keeps.bind (.gets _)
      intro room
      apply (onKnownSession_keeps _ _ _).bind
      intro _
      exact .bind (.modify fun _ same => same) fun _ => .ret _
  exact rest _ _ rfl

theorem onSession_keeps (session : SessionId) (f : SessionRecord → SessionRecord)
    (failures : List (String × Nat × Instant)) : Keeps failures (onSession session f) :=
  .modify fun _ same => same

/-- A login with the password on the line. -/
theorem loginNow_alone (session : SessionId) (username : Username) (password : String)
    (h : BbsHost) :
    (turn^[5] (.started .oneShot username password, h)).2.loginFailures =
      (loginNow session username password h).2.loginFailures := by
  have clears (u : User) (h : BbsHost) :=
    completeLogin_clears session username u (onKnownSession_keeps) h
  unfold loginNow
  rw [Program.bind_apply, Function.iterate_succ_apply]
  unfold turn LoginAttempt.proceed
  simp only [LoginAttempt.started]
  rcases ran : checkLoginThrottle username.text h with ⟨e | wait, h'⟩
  · rfl
  · cases wait with
    | some wait => rfl
    | none =>
        apply alone_finds _ _ rfl
        · intro found h may
          rw [show mayLogIn found = none from may]
          rfl
        · intro found user h may
          rw [show mayLogIn found = some user from may]
          apply alone_verifies _ _ rfl
          · apply alone_admits (clears user) clears _ rfl
            intro check h other
            cases check with
            | allowed u => exact absurd rfl (other u)
            | suspended days => rfl
            | permanentlyBanned => rfl
          · exact fun h => rfl

/-- The reply to the prompt for a password. -/
theorem loginReply_alone (session : SessionId) (username : Username) (attempts : Nat)
    (reply : String) (h : BbsHost) :
    (turn^[4] (.started .interactive username reply, h)).2.loginFailures =
      (loginReply session username attempts reply h).2.loginFailures := by
  have clears (u : User) (h : BbsHost) :=
    completeLogin_clears session username u onSession_keeps h
  unfold loginReply
  apply alone_finds _ _ rfl
  · intro found h may
    rw [show found = none from may]
    rfl
  · intro found user h may
    rw [show found = some user from may]
    apply alone_verifies _ _ rfl
    · apply alone_admits (clears user) clears _ rfl
      intro check h other
      cases check with
      | allowed u => exact absurd rfl (other u)
      | suspended days => rfl
      | permanentlyBanned => rfl
    · intro h
      have recorded : recordLoginFailure username.text h =
        (.ok _, (recordLoginFailure username.text h).2) := rfl
      unfold wrongPassword
      rw [Program.bind_ok recorded]
      split <;> rfl

end Alone
/-! ## What runs keep -/

/-- Nothing was to be waited for when the throttle of the attempt was checked. -/
def Checked (clock : Instant) (history : List Happening) (t : Tracked) : Prop :=
  t.attempt.path = .oneShot → PastCheck t.attempt.stage →
    t.since ≤ history.length ∧
      Elapsed clock (implied (history.take t.since) t.attempt.username.text)

structure Sound (p : Logins) : Prop where
  covers : Covers p.host.toMemory p.history
  checked : ∀ t ∈ p.attempts, Checked p.host.clock p.history t
  waited : ∀ v ∈ p.verified, v.Waited

theorem Checked.later {clock clock' : Instant} {history : List Happening} {t : Tracked}
    (checked : Checked clock history t) (later : clock ≤ clock') (more : List Happening) :
    Checked clock' (history ++ more) t := by
  intro oneShot past
  obtain ⟨low, elapsed⟩ := checked oneShot past
  refine ⟨low.trans (by simp), ?_⟩
  rw [List.take_append_of_le_length low]
  exact elapsed_mono elapsed later

/-- Where the code goes wrong: a password is verified while the failure of another attempt is yet to
be counted; interactively, while the username is throttled; or after a failure that came since the
throttle was checked. The counts are thrown away, or with them a failure that came after the success
that clears them. -/
def SlipsAt (t : Tracked) (p : Logins) : LoginStage → Prop
  | .verifyPassword _ =>
      p.attempts.any (counting t.attempt.username) = true ∨
      (t.attempt.path = .interactive ∧
        (throttled p.host.loginFailures p.host.clock t.attempt.username.text).isSome = true) ∨
      (t.attempt.path = .oneShot ∧ ∃ x ∈ p.history.drop t.since, Fails t.attempt.username.text x)
  | .recordFailure => Purged p.host.toMemory
  | .clearFailures => (implied p.history t.attempt.username.text).isSome = true
  | _ => False

def Slips (t : Tracked) (p : Logins) : Prop := SlipsAt t p t.attempt.stage

instance (t : Tracked) (p : Logins) : ∀ stage, Decidable (SlipsAt t p stage)
  | .verifyPassword _ => inferInstanceAs (Decidable (_ ∨ _))
  | .recordFailure => inferInstanceAs (Decidable (_ ≤ _))
  | .clearFailures => inferInstanceAs (Decidable (_ = _))
  | .checkThrottle | .findUser | .resolveSuspension _ | .done => inferInstanceAs (Decidable False)

instance (t : Tracked) (p : Logins) : Decidable (Slips t p) :=
  inferInstanceAs (Decidable (SlipsAt t p t.attempt.stage))

theorem covers_succeeds {m : Memory} {history : List Happening} (covers : Covers m history)
    (username : String) : Covers m (history ++ [.succeeded username]) := by
  intro other n last owed recent
  rw [implied_snoc, count] at owed
  split at owed
  · cases owed
  · exact covers other n last owed recent

theorem proceed_covers {t : Tracked} {p : Logins} (covers : Covers p.host.toMemory p.history)
    (right : ¬ Slips t p) :
    Covers (t.attempt.proceed p.host).2.toMemory
      (p.history ++ happens t.attempt (t.attempt.proceed p.host).1 p.host.clock) := by
  by_cases recording : t.attempt.stage = .recordFailure
  · unfold Slips at right
    rw [recording] at right
    have ran : t.attempt.proceed p.host =
        (.done, (recordLoginFailure t.attempt.username.text p.host).2) := by
      unfold LoginAttempt.proceed
      rw [recording]
    rw [ran]
    unfold happens
    rw [recording]
    exact covers.records right _
  · by_cases clearing : t.attempt.stage = .clearFailures
    · unfold Slips at right
      rw [clearing] at right
      have ran : t.attempt.proceed p.host =
          (.done, (clearLoginFailures t.attempt.username.text p.host).2) := by
        unfold LoginAttempt.proceed
        rw [clearing]
      rw [ran]
      unfold happens
      rw [clearing]
      dsimp only
      rw [List.append_nil]
      exact covers.clears (by simpa [SlipsAt] using right)
    · rw [proceed_memory _ _ clearing recording]
      unfold happens
      split
      · next eq => exact absurd eq recording
      · exact covers_succeeds covers _
      · exact covers_succeeds covers _
      · rwa [List.append_nil]

theorem proceed_clock (a : LoginAttempt) (h : BbsHost) : (a.proceed h).2.clock = h.clock := by
  by_cases recording : a.stage = .recordFailure
  · unfold LoginAttempt.proceed
    rw [recording]
    rfl
  · by_cases clearing : a.stage = .clearFailures
    · unfold LoginAttempt.proceed
      rw [clearing]
      rfl
    · exact congrArg (·.clock) (proceed_memory a h clearing recording)

theorem verifies_waited {t : Tracked} {p : Logins} (sound : Sound p) (mem : t ∈ p.attempts)
    (right : ¬ Slips t p) : ∀ v ∈ verifies t.attempt p, v.Waited := by
  intro v verified
  unfold verifies at verified
  unfold Slips at right
  split at verified
  · next user stage =>
    rw [List.mem_singleton.mp verified]
    rw [stage] at right
    simp only [SlipsAt, not_or] at right
    refine ⟨by simpa using right.1, ?_⟩
    cases path : t.attempt.path with
    | interactive =>
        apply sound.covers.elapsed
        simpa [path] using right.2.1
    | oneShot =>
        obtain ⟨low, elapsed⟩ := sound.checked t mem path (by rw [stage]; trivial)
        have quiet : ∀ x ∈ p.history.drop t.since, ¬ Fails t.attempt.username.text x := by
          simpa [path] using right.2.2
        have split := implied_later quiet (p.history.take t.since)
        rw [List.take_append_drop] at split
        rcases split with same | cleared
        · show Elapsed p.host.clock (implied p.history _)
          rw [same]
          exact elapsed
        · show Elapsed p.host.clock (implied p.history _)
          rw [cleared]
          exact nofun
  · cases verified

theorem proceed_sound {i : Nat} {p : Logins} (sound : Sound p)
    (right : ∀ t ∈ p.attempts[i]?, ¬ Slips t p) : Sound (p.proceed i) := by
  unfold Logins.proceed
  split
  · exact sound
  · next t found =>
    have mem : t ∈ p.attempts := List.mem_of_getElem? found
    have right := right t found
    have same := proceed_clock t.attempt p.host
    refine ⟨proceed_covers sound.covers right, ?_, ?_⟩
    · intro t' mem'
      rcases List.mem_or_eq_of_mem_set mem' with before | rfl
      · exact (sound.checked t' before).later same.ge _
      · intro oneShot past
        rcases proceed_pastCheck past with ⟨stage, unthrottled⟩ | stage
        · rw [stage]
          refine ⟨by simp, ?_⟩
          rw [List.take_append_of_le_length (le_refl _), List.take_length]
          exact elapsed_mono (sound.covers.elapsed unthrottled) same.ge
        · have checked := (sound.checked t mem).later same.ge
            (happens t.attempt (t.attempt.proceed p.host).1 p.host.clock)
          rw [stage]
          exact checked oneShot (by rw [stage]; trivial)
    · intro v verified
      rcases List.mem_append.mp verified with before | new
      · exact sound.waited v before
      · exact verifies_waited sound mem right v new

/-! ## Runs -/

def SlipsNext (event : LoginEvent) (p : Logins) : Prop :=
  match event with
  | .proceed i => ∃ t ∈ p.attempts[i]?, Slips t p
  | _ => False

instance (p : Logins) : ∀ event, Decidable (SlipsNext event p)
  | .proceed _ => inferInstanceAs (Decidable (∃ _ ∈ _, _))
  | .start _ _ _ | .elsewhere _ _ => inferInstanceAs (Decidable False)

def step (event : LoginEvent) (p p' : Logins) : Prop := p' = p.next event

theorem started_checked (clock : Instant) (history : List Happening) (path : LoginPath)
    (username : Username) (password : String) :
    Checked clock history ⟨.started path username password, 0⟩ := by
  intro oneShot past
  cases path with
  | oneShot => exact past.elim
  | interactive => cases oneShot

theorem next_sound {event : LoginEvent} {p : Logins} (sound : Sound p)
    (right : ¬ SlipsNext event p) : Sound (p.next event) := by
  cases event with
  | start path username password =>
      refine ⟨sound.covers, ?_, sound.waited⟩
      intro t mem
      rcases List.mem_append.mp mem with before | new
      · exact sound.checked t before
      · rw [List.mem_singleton.mp new]
        exact started_checked _ _ path username password
  | proceed i => exact proceed_sound sound fun t found slips => right ⟨t, found, slips⟩
  | elsewhere store nanos =>
      have later : p.host.clock ≤ p.host.clock + nanos := Nat.le_add_right _ _
      refine ⟨sound.covers.same rfl later, ?_, sound.waited⟩
      intro t mem
      have checked := (sound.checked t mem).later later []
      rwa [List.append_nil] at checked

def opening (host : BbsHost) : Logins := ⟨host, [], [], []⟩

theorem opening_sound (host : BbsHost) : Sound (opening host) where
  covers username n last owed := by simp [opening, implied] at owed
  checked t mem := by simp [opening] at mem
  waited v mem := by simp [opening] at mem

/-- Every password is verified after the time that its username's failures imply, by whichever path
and whoever fails in the meantime. -/
def ThrottleHolds (p : Logins) : Prop := ∀ v ∈ p.verified, v.Waited

theorem throttle_holds {host : BbsHost} {p : Logins}
    (run : Reaches step (fun event p => ¬ SlipsNext event p) (opening host) p) :
    ThrottleHolds p := by
  have sound : Sound p := by
    apply run.invariant
    · exact opening_sound host
    · rintro event q _ sound right rfl
      exact next_sound sound right
  exact sound.waited

/-- Alice has an account. -/
def staffed : BbsHost :=
  ([.connect "telnet", .command 1 (.registerOneShot "alice" "password")] : List Input).foldl deliver
    (.fresh .fresh)

/-- A wrong password in each way, and after the time they imply the right one. -/
def patient : List LoginEvent :=
  [.start .interactive .alice "wrong", .proceed 0, .proceed 0, .proceed 0,
    .elsewhere staffed.store 2000000000, .start .oneShot .alice "guess", .proceed 1, .proceed 1,
    .proceed 1, .proceed 1, .elsewhere staffed.store 4000000000,
    .start .oneShot .alice "password", .proceed 2, .proceed 2, .proceed 2, .proceed 2]

theorem throttle_holds_alice :
    ThrottleHolds (patient.foldl Logins.next (opening staffed)) := by
  have follows : Reaches.Follows Logins.next (fun event p => ¬ SlipsNext event p) patient
      (opening staffed) := by decide +kernel
  exact throttle_holds (Reaches.follow follows)

def wrongTwice : List LoginEvent :=
  [.start .interactive .alice "wrong", .proceed 0, .proceed 0, .proceed 0,
    .start .interactive .alice "guess", .proceed 1, .proceed 1]

/-- The prompt for a password in a second session does not look at the throttle. -/
theorem throttle_passed_by : ¬ ∀ (host : BbsHost) (p : Logins),
    Reaches step (fun _ _ => True) (opening host) p → ThrottleHolds p := by
  intro claim
  have holds := claim staffed _ (Reaches.follow_free Logins.next wrongTwice (opening staffed))
  have early : ∃ v ∈ (wrongTwice.foldl Logins.next (opening staffed)).verified, ¬ v.Waited := by
    decide +kernel
  obtain ⟨v, mem, early⟩ := early
  exact early (holds v mem)

end SupplyDrop.Proof.LoginThrottle
