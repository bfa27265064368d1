import Mathlib
import SupplyDrop.Library.Digits
import SupplyDrop.Host.NodeExpiry
import SupplyDrop.Proof.StoreCalls

namespace SupplyDrop.Proof.NodeExpiry
open Library Library.Text Store Store.NodeCredentialStore Host

/-! ## The texts of two times -/

/-- The time has a text: `to_rfc3339` panics for any other. -/
def Storable (t : Timestamp) : Prop :=
  0 ≤ Calendar.year (dayOf t) ∧ Calendar.year (dayOf t) ≤ 9999

instance (t : Timestamp) : Decidable (Storable t) := inferInstanceAs (Decidable (_ ∧ _))

def dateText (days : Int) : List Char :=
  digits 4 (Calendar.year days).toNat ++ '-' :: (digits 2 (Calendar.month days) ++
    '-' :: digits 2 (Calendar.dayOfMonth days).toNat)

theorem two_digits {n : Int} (low : 0 ≤ n) (high : n < 100) :
    (zeroPadded 2 n).toList = digits 2 n.toNat := by
  obtain ⟨k, rfl⟩ := Int.eq_ofNat_of_zero_le low
  exact zeroPadded_toList (by omega)

theorem four_digits {n : Int} (low : 0 ≤ n) (high : n ≤ 9999) :
    (zeroPadded 4 n).toList = digits 4 n.toNat := by
  obtain ⟨k, rfl⟩ := Int.eq_ofNat_of_zero_le low
  exact zeroPadded_toList (by omega)

theorem month_text (days : Int) : (zeroPadded 2 (Calendar.month days)).toList =
    digits 2 (Calendar.month days) := by
  have bounds := Calendar.month_mem days
  exact zeroPadded_toList (by omega)

theorem day_text (days : Int) : (zeroPadded 2 (Calendar.dayOfMonth days)).toList =
    digits 2 (Calendar.dayOfMonth days).toNat := by
  have bounds := Calendar.dayOfMonth_mem days
  exact two_digits (by omega) (by omega)

theorem stored_text {t : Timestamp} (storable : Storable t) :
    ∃ rest, (toRfc3339 t).toList = dateText (dayOf t) ++ 'T' :: rest := by
  unfold toRfc3339 dateText
  dsimp only
  rw [← dayOf]
  simp only [String.toList_append, four_digits storable.1 storable.2, month_text, day_text,
    List.append_assoc]
  exact ⟨_, rfl⟩

theorem bound_text {julian : Int} (low : 0 ≤ julian) (high : julian ≤ lastJulianMillis) :
    let days := (julian - julianEpochMillis) / 1000 / Calendar.secondsPerDay
    ∃ text, sqliteDatetime julian = some text ∧
      (0 ≤ Calendar.year days → Calendar.year days ≤ 9999 →
        ∃ rest, text.toList = dateText days ++ ' ' :: rest) ∧
      (Calendar.year days < 0 → ∃ rest, text.toList = '-' :: rest) := by
  intro days
  unfold sqliteDatetime
  rw [if_pos ⟨low, high⟩]
  refine ⟨_, rfl, fun from_ upTo => ?_, fun negative => ?_⟩
  · have plain : ¬Calendar.year days < 0 := by omega
    have same : ((Calendar.year days).natAbs : Int) = Calendar.year days := by omega
    rw [show (julian - julianEpochMillis) / 1000 / Calendar.secondsPerDay = days from rfl,
      if_neg plain, same]
    simp only [String.toList_append, four_digits from_ upTo, month_text, day_text,
      List.append_assoc]
    exact ⟨_, rfl⟩
  · rw [show (julian - julianEpochMillis) / 1000 / Calendar.secondsPerDay = days from rfl,
      if_pos negative]
    simp only [String.toList_append, List.append_assoc]
    exact ⟨_, rfl⟩

@[simp] theorem length_dateText (days : Int) : (dateText days).length = 10 := by
  simp [dateText]

theorem dateText_lt {a b : Int} (aYear : 0 ≤ Calendar.year a ∧ Calendar.year a ≤ 9999)
    (bYear : 0 ≤ Calendar.year b ∧ Calendar.year b ≤ 9999) : dateText a < dateText b ↔ a < b := by
  have aMonth := Calendar.month_mem a
  have bMonth := Calendar.month_mem b
  have aDay := Calendar.dayOfMonth_mem a
  have bDay := Calendar.dayOfMonth_mem b
  have later := Calendar.date_lt (a := a) (b := b)
  have earlier := Calendar.date_lt (a := b) (b := a)
  have same : a = b → Calendar.dayOfMonth a = Calendar.dayOfMonth b ∧
      Calendar.month a = Calendar.month b ∧ Calendar.year a = Calendar.year b := by
    rintro rfl
    exact ⟨rfl, rfl, rfl⟩
  unfold dateText
  rw [append_lt_append (by simp), List.cons_lt_cons_iff, append_lt_append (by simp),
    List.cons_lt_cons_iff, digits_lt (by omega) (by omega), digits_inj (by omega) (by omega),
    digits_lt (by omega) (by omega), digits_inj (by omega) (by omega),
    digits_lt (by omega) (by omega)]
  simp only [lt_irrefl, true_and, false_or]
  omega

theorem dateText_above_sign (days : Int) (r s : List Char) : ¬dateText days ++ r < '-' :: s := by
  have above : ∀ d < 10, ¬Nat.digitChar d < '-' ∧ Nat.digitChar d ≠ '-' := by decide
  obtain ⟨rest, leading⟩ : ∃ rest, dateText days =
      Nat.digitChar ((Calendar.year days).toNat / 10 / 10 / 10 % 10) :: rest := ⟨_, rfl⟩
  obtain ⟨greater, other⟩ := above _ (Nat.mod_lt ((Calendar.year days).toNat / 10 / 10 / 10)
    (by decide))
  rw [leading, List.cons_append, List.cons_lt_cons_iff]
  simp [greater, other]

theorem year_mono {a b : Int} (le : a ≤ b) : Calendar.year a ≤ Calendar.year b := by
  rcases le.lt_or_eq with earlier | same
  · have later := Calendar.date_lt earlier
    omega
  · rw [same]

theorem year_le {julian : Int} (high : julian ≤ lastJulianMillis) :
    Calendar.year ((julian - julianEpochMillis) / 1000 / Calendar.secondsPerDay) ≤ 9999 := by
  have last : Calendar.year 2932896 = 9999 := by decide
  rw [← last]
  apply year_mono
  unfold lastJulianMillis at high
  unfold julianEpochMillis Calendar.secondsPerDay
  omega

/-! ## The statement over days -/

/-- A digit is above the sign of a year before the year 0, and the `T` of a stored time above the
space of SQLite's. -/
theorem notBefore_day {t : Timestamp} (storable : Storable t) {julian : Int} :
    notBefore (toRfc3339 t) (sqliteDatetime julian) = true ↔
      0 ≤ julian ∧ julian ≤ lastJulianMillis ∧
        (julian - julianEpochMillis) / 1000 / Calendar.secondsPerDay ≤ dayOf t := by
  obtain ⟨clock, stored⟩ := stored_text storable
  by_cases within : 0 ≤ julian ∧ julian ≤ lastJulianMillis
  · obtain ⟨text, shown, dated, signed⟩ := bound_text within.1 within.2
    have upTo := year_le within.2
    rw [shown, notBefore, Option.any_some, decide_eq_true_iff, String.le_iff_toList_le, ← not_lt,
      stored]
    by_cases negative :
        Calendar.year ((julian - julianEpochMillis) / 1000 / Calendar.secondsPerDay) < 0
    · obtain ⟨rest, text_⟩ := signed negative
      have before : ¬dayOf t < (julian - julianEpochMillis) / 1000 / Calendar.secondsPerDay := by
        intro later
        have years := year_mono later.le
        have began := storable.1
        omega
      have above := dateText_above_sign (dayOf t) ('T' :: clock) rest
      rw [text_]
      exact ⟨fun _ => ⟨within.1, within.2, not_lt.mp before⟩, fun _ => above⟩
    · obtain ⟨rest, text_⟩ := dated (by omega) upTo
      rw [text_, append_lt_append (by simp), dateText_lt storable ⟨by omega, upTo⟩,
        List.cons_lt_cons_iff]
      have above : ¬('T' < ' ') := by decide
      have other : 'T' ≠ ' ' := by decide
      simp only [above, other, false_and, or_false, and_false, not_lt, within, true_and]
  · have none_ : sqliteDatetime julian = none := if_neg within
    rw [none_]
    simp only [notBefore, Option.any_none, Bool.false_eq_true, false_iff]
    exact fun holds => within ⟨holds.1, holds.2.1⟩

theorem day_ago (now : Timestamp) (ttlDays : Nat) :
    (julianAgo now ttlDays - julianEpochMillis) / 1000 / Calendar.secondsPerDay =
      dayOf now - ttlDays := by
  unfold julianAgo millisPerDay dayOf Calendar.nanosPerSecond Calendar.secondsPerDay
  have seconds (n : Int) : n / 1000000000 = n / 1000000 / 1000 := by omega
  have shifted : now / 1000000 + julianEpochMillis - ttlDays * 86400000 - julianEpochMillis =
      now / 1000000 - 86400000 * ttlDays := by ring
  rw [seconds, shifted]
  omega

theorem notBefore_current {t : Timestamp} (storable : Storable t) (now : Timestamp)
    (ttlDays : Nat) : notBefore (toRfc3339 t) (sqliteDatetime (julianAgo now ttlDays)) =
      current t now ttlDays := by
  have within : dayOf t ≤ 2932896 := by
    by_contra beyond
    have first : Calendar.year 2932897 = 10000 := by decide
    have years := year_mono (show (2932897 : Int) ≤ dayOf t by omega)
    have upTo := storable.2
    omega
  have ago := day_ago now ttlDays
  rw [Bool.eq_iff_iff, notBefore_day storable, ago, current, Bool.and_eq_true, decide_eq_true_iff,
    decide_eq_true_iff]
  change 0 ≤ julianAgo now ttlDays ∧ _ ↔ 0 ≤ julianAgo now ttlDays ∧ _
  have last : dayOf now - ttlDays ≤ dayOf t → julianAgo now ttlDays ≤ lastJulianMillis := by
    rw [← ago]
    unfold julianEpochMillis lastJulianMillis Calendar.secondsPerDay
    omega
  tauto

theorem lookup_text {s : Storage} {pubkey : PublicKey} {row : NodeCredential}
    (bound : s.db.nodeCredentials pubkey = some row) (storable : Storable row.lastAuth)
    (ttlDays : Nat) : lookupText pubkey ttlDays s = lookup pubkey ttlDays s := by
  have before := statement_db s
  unfold lookupText lookup query
  rw [Program.bind_apply, Program.bind_apply, Program.gets_apply]
  dsimp only
  rw [Program.bind_apply, Program.bind_apply]
  cases called : statement s with
  | mk answer s' =>
      rw [called] at before
      cases answer with
      | error e => rfl
      | ok _ =>
          dsimp only at before ⊢
          rw [Program.gets_apply, Program.gets_apply, before, bound]
          simp only [Option.filter_some, notBefore_current storable]

theorem found_iff {s s' : Storage} {pubkey : PublicKey} {row : NodeCredential}
    (bound : s.db.nodeCredentials pubkey = some row) (storable : Storable row.lastAuth)
    {ttlDays : Nat} {found : Option UserId}
    (ran : lookupText pubkey ttlDays s = (.ok found, s')) :
    found = some row.userId ↔
      0 ≤ julianAgo s.now ttlDays ∧ dayOf s.now - ttlDays ≤ dayOf row.lastAuth := by
  rw [lookup_text bound storable, lookup, Program.bind_apply, Program.gets_apply] at ran
  obtain ⟨rfl, -⟩ := query_ok ran
  rw [bound, Option.filter_some]
  have meaning : current row.lastAuth s.now ttlDays = true ↔
      0 ≤ julianAgo s.now ttlDays ∧ dayOf s.now - ttlDays ≤ dayOf row.lastAuth := by
    rw [current, Bool.and_eq_true, decide_eq_true_iff, decide_eq_true_iff]
    rfl
  rw [← meaning]
  cases current row.lastAuth s.now ttlDays <;> simp

theorem upsert_ok {s s' : Storage} {pubkey : PublicKey} {userId : UserId} {now : Timestamp}
    (ran : upsert pubkey userId now s = (.ok (), s')) :
    s'.db.nodeCredentials pubkey = some ⟨userId, now⟩ ∧ s'.now = s.now := by
  obtain ⟨_, s₁, stated, rest⟩ := Program.bind_eq_ok ran
  have later := Later.statement s
  rw [stated] at later
  rw [Program.bind_apply, Program.gets_apply] at rest
  dsimp only at rest
  split at rest
  · cases rest
  · rw [Program.modify_apply] at rest
    cases rest
    exact ⟨if_pos rfl, later.now⟩

/-! ## When a node is forgotten -/

def nanosPerDay : Int := Calendar.nanosPerSecond * Calendar.secondsPerDay

/-- The end of a credential's life. -/
def expiresAt (lastAuth : Timestamp) (ttlDays : Nat) : Timestamp := lastAuth + ttlDays * nanosPerDay

/-- The time is on the day on which the credential expires, and its life ended earlier that day. -/
def Lingers (lastAuth now : Timestamp) (ttlDays : Nat) : Prop :=
  dayOf now = dayOf lastAuth + ttlDays ∧ lastAuth % nanosPerDay ≤ now % nanosPerDay

instance (lastAuth now : Timestamp) (ttlDays : Nat) : Decidable (Lingers lastAuth now ttlDays) :=
  inferInstanceAs (Decidable (_ ∧ _))

theorem dayOf_eq (t : Timestamp) : dayOf t = t / nanosPerDay := by
  have parts (n : Int) : n / 1000000000 / 86400 = n / 86400000000000 := by omega
  exact parts t

/-- Days cannot tell apart the times of the last day of a life. -/
theorem day_or_lingers (lastAuth now : Timestamp) (ttlDays : Nat) :
    dayOf now - ttlDays ≤ dayOf lastAuth ↔
      now < expiresAt lastAuth ttlDays ∨ Lingers lastAuth now ttlDays := by
  have days (a n t : Int) : n / 86400000000000 - t ≤ a / 86400000000000 ↔
      n < a + t * 86400000000000 ∨ n / 86400000000000 = a / 86400000000000 + t ∧
        a % 86400000000000 ≤ n % 86400000000000 := by omega
  unfold Lingers expiresAt
  rw [dayOf_eq, dayOf_eq]
  exact days lastAuth now ttlDays

theorem not_both {lastAuth now : Timestamp} {ttlDays : Nat}
    (before : now < expiresAt lastAuth ttlDays) : ¬Lingers lastAuth now ttlDays := by
  have days (a n t : Int) : n < a + t * 86400000000000 →
      ¬(n / 86400000000000 = a / 86400000000000 + t ∧
        a % 86400000000000 ≤ n % 86400000000000) := by omega
  unfold Lingers
  rw [dayOf_eq, dayOf_eq]
  exact days lastAuth now ttlDays before

/-- What a lifetime that reaches back over the first Julian day begins before. -/
theorem alive_of_long {lastAuth now : Timestamp} (storable : Storable lastAuth) {ttlDays : Nat}
    (long : julianAgo now ttlDays < 0) : now < expiresAt lastAuth ttlDays := by
  have first : Calendar.year (-719529) = -1 := by decide
  have began : -719529 < dayOf lastAuth := by
    by_contra before
    have years := year_mono (show dayOf lastAuth ≤ (-719529 : Int) by omega)
    have from_ := storable.1
    omega
  have days (a n t : Int) (late : -719529 < a / 86400000000000)
      (ago : n / 1000000 + 210866760000000 - t * 86400000 < 0) : n < a + t * 86400000000000 := by
    omega
  rw [dayOf_eq] at began
  exact days lastAuth now ttlDays began long

/-- The bound user is found as long as the credential lives. -/
def ExpiresOnTime (s : Storage) (row : NodeCredential) (ttlDays : Nat) (found : Option UserId) :
    Prop :=
  found = some row.userId ↔ s.now < expiresAt row.lastAuth ttlDays

theorem node_expiry (pubkey : PublicKey) (ttlDays : Nat) :
    (∀ (s s' : Storage) (row : NodeCredential) (found : Option UserId),
      s.db.nodeCredentials pubkey = some row → Storable row.lastAuth →
      lookupText pubkey ttlDays s = (.ok found, s') →
      (ExpiresOnTime s row ttlDays found ↔
        0 ≤ julianAgo s.now ttlDays ∧ ¬Lingers row.lastAuth s.now ttlDays)) ∧
    (∀ (s s₁ s₂ : Storage) (user : UserId) (found : Option UserId), 1 ≤ ttlDays → Storable s.now →
      upsert pubkey user s.now s = (.ok (), s₁) → lookupText pubkey ttlDays s₁ = (.ok found, s₂) →
      (found = some user ↔ 0 ≤ julianAgo s.now ttlDays)) := by
  constructor
  · intro s s' row found bound storable ran
    have answer := found_iff bound storable ran
    have days := day_or_lingers row.lastAuth s.now ttlDays
    unfold ExpiresOnTime
    rw [answer, days]
    by_cases within : 0 ≤ julianAgo s.now ttlDays
    · have apart : s.now < expiresAt row.lastAuth ttlDays →
          ¬Lingers row.lastAuth s.now ttlDays := not_both
      tauto
    · have alive := alive_of_long storable (not_le.mp within)
      tauto
  · intro s s₁ s₂ user found _ storable put ran
    obtain ⟨bound, clock⟩ := upsert_ok put
    have answer := found_iff bound storable ran
    rw [clock] at answer
    rw [answer]
    have same : dayOf s.now - ttlDays ≤ dayOf s.now := by omega
    tauto

def noon : Timestamp := nanosPerDay / 2

def nodeKey : PublicKey := 7

/-- A node of alice's that was last seen on the first day at noon, some time later. -/
def remembered (now : Timestamp) : Storage :=
  let s := (UserStore.create .alice none .user 0 .fresh).2
  { (upsert nodeKey 1 noon { s with now := noon }).2 with now }

theorem node_expiry_alice :
    ExpiresOnTime (remembered (noon + 13 * nanosPerDay)) ⟨1, noon⟩ 14 (some 1) ∧
      (some (1 : UserId) = some 1 ↔ 0 ≤ julianAgo noon 1) := by
  have found : (lookupText nodeKey 14 (remembered (noon + 13 * nanosPerDay))).1 = .ok (some 1) := by
    decide +kernel
  have put : (upsert nodeKey 1 noon (remembered noon)).1 = .ok () := by decide +kernel
  have again : (lookupText nodeKey 1 (upsert nodeKey 1 noon (remembered noon)).2).1 =
      .ok (some 1) := by decide +kernel
  constructor
  · exact ((node_expiry nodeKey 14).1 _ _ ⟨1, noon⟩ (some 1) (by decide +kernel)
      (by decide +kernel) (Prod.ext found rfl)).mpr (by decide +kernel)
  · exact (node_expiry nodeKey 1).2 (remembered noon) _ _ 1 (some 1) (by decide)
      (by decide +kernel) (Prod.ext put rfl) (Prod.ext again rfl)

/-- On its last day a credential is good until midnight. -/
theorem outlived : ¬ ∀ (s s' : Storage) (pubkey : PublicKey) (row : NodeCredential) (ttlDays : Nat)
    (found : Option UserId), s.db.nodeCredentials pubkey = some row → Storable row.lastAuth →
    lookupText pubkey ttlDays s = (.ok found, s') → ExpiresOnTime s row ttlDays found := by
  intro claim
  have found : (lookupText nodeKey 14 (remembered (noon + 14 * nanosPerDay))).1 = .ok (some 1) := by
    decide +kernel
  have alive := claim _ _ nodeKey ⟨1, noon⟩ 14 (some 1) (by decide +kernel) (by decide +kernel)
    (Prod.ext found rfl)
  have ended : ¬(remembered (noon + 14 * nanosPerDay)).now < expiresAt noon 14 := by decide +kernel
  exact ended (alive.mp rfl)

end SupplyDrop.Proof.NodeExpiry
