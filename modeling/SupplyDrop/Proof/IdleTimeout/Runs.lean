import Mathlib
import SupplyDrop.Proof.Accounts
import SupplyDrop.Proof.IdleTimeout.Timers
import SupplyDrop.Proof.MeshDedup

namespace SupplyDrop.Proof.IdleTimeout
open Library Library.Program Store Host Transport Transport.MeshCore
open MeshDedup (Label Mesh texts)

variable {α : Type}

/-! ## `cancel` -/

section Cancel
variable {session : SessionId} {h : BbsHost}

theorem handleCancel_idles (session : SessionId) (h : BbsHost) :
    idle session (handleCancel session h).2 := by
  unfold handleCancel
  rw [bind_apply, workflowOf, peek, gets_apply]
  dsimp only
  split
  · next none_ =>
    show (h.sessions.get? session).all _ = true
    cases found : h.sessions.get? session with
    | none => rfl
    | some r =>
        rw [found, Option.map_some, Option.some.injEq] at none_
        simp [none_]
  · show idle session { h with toMemory := h.toMemory.update session fun r => r.setWorkflow .none }
    unfold idle Memory.update
    rw [RowTable.get?_update, if_pos rfl]
    cases h.sessions.get? session <;> rfl

theorem logOutAccount_session {m : Memory} {userId : UserId} {r : SessionRecord} (reason : String)
    (found : m.sessions.get? session = some r) (owned : r.userId = some userId) :
    (m.logOutAccount userId session reason).sessions.get? session = some r.loggedOut := by
  unfold Memory.logOutAccount Memory.update Memory.endSessions
  rw [RowTable.get?_update, if_pos rfl, RowTable.get?_filter, found]
  simp [owned]

theorem julianMillis_mono {a b : Timestamp} (le : a ≤ b) :
    UserStore.julianMillis a ≤ UserStore.julianMillis b :=
  Int.ediv_le_ediv (by decide) (Int.add_le_add_right le _)

theorem endExpired_lifts {id : UserId} {now : Timestamp} {s : Storage} {row : UserRow}
    (stored : s.db.users.get? id = some row) (lapsed : UserStore.expired now row)
    (passes : (statement s).1 = .ok ()) :
    ∃ s', UserStore.endExpiredSuspension id now s = (.ok true, s') := by
  have ran : statement s = (.ok (), (statement s).2) := by rw [← passes]
  have hit : (s.db.users.get? id).any (UserStore.expired now) = true := by
    rw [stored]
    exact lapsed
  have wrote (f : Database → Database) : execute f s = (.ok (), (execute f s).2) := by
    unfold execute
    rw [bind_ok ran]
    rfl
  unfold UserStore.endExpiredSuspension
  rw [bind_apply, gets_apply]
  dsimp only
  rw [bind_ok (wrote _), hit]
  exact ⟨_, rfl⟩

/-- Only a failing database keeps a timeout from being resolved. -/
theorem resolveSuspension_returns {user : User} {row : UserRow}
    (stored : h.store.db.users.get? user.id = some row) (read : user = account user.id row)
    (banned : user.status = .banned)
    (passes : user.suspendedUntil.any (· ≤ h.store.now) → (statement h.store).1 = .ok ()) :
    ∃ check store, resolveSuspension user h = (.ok check, { h with store }) := by
  unfold resolveSuspension
  cases until_ : user.suspendedUntil with
  | none => exact ⟨_, h.store, rfl⟩
  | some t =>
      rw [until_] at passes
      dsimp only
      rw [bind_apply, now_apply]
      dsimp only
      split
      · next over_ =>
        have lapsed : UserStore.expired h.store.now row := by
          have status : row.status = .banned := by rw [← banned, read]; rfl
          have ends : row.suspendedUntil = some t := by rw [← until_, read]; rfl
          simp [UserStore.expired, status, ends, julianMillis_mono over_]
        obtain ⟨s', ran⟩ := endExpired_lifts stored lapsed (passes (by simpa using over_))
        rw [bind_ok (db_ok ran)]
        exact ⟨_, s', rfl⟩
      · exact ⟨_, h.store, rfl⟩

theorem getById_some {id : UserId} {user : User} {s s' : Storage}
    (read : UserStore.getById id s = (.ok (some user), s')) :
    ∃ row, s.db.users.get? id = some row ∧ mapUserRow id row = .ok user ∧
      statement s = (.ok (), s') := by
  obtain ⟨row, s₁, queried, rest⟩ := bind_eq_ok read
  obtain ⟨_, s₂, passed, looked⟩ := bind_eq_ok queried
  obtain ⟨rfl, rfl⟩ := gets_ok looked
  have same : s₁.db = s.db := by rw [← statement_db s, passed]
  dsimp only at rest
  rw [same] at rest
  cases stored : s.db.users.get? id with
  | none =>
      rw [stored] at rest
      cases rest
  | some row =>
      rw [stored] at rest
      obtain ⟨mapped, s₃, decoded, returned⟩ := bind_eq_ok rest
      obtain ⟨ok, rfl⟩ := decoded_ok decoded
      cases returned
      exact ⟨row, rfl, ok, passed⟩

theorem passes_second {s s' : Storage} (first : statement s = (.ok (), s'))
    (whole : failsSecond s = false) : (statement s').1 = .ok () := by
  unfold statement at first
  unfold failsSecond at whole
  split at first
  · next none_ =>
    cases first
    simp [statement, none_]
  · next rest faults =>
    cases first
    rw [faults] at whole
    unfold statement
    cases rest with
    | nil => rfl
    | cons fault rest =>
        cases fault with
        | none => rfl
        | some e => cases whole
  · cases first

theorem accountBarred_returns {id : UserId}
    (owner : (h.sessions.get? session).bind (·.userId) = some id)
    (whole : interrupted session h = false) :
    ∃ barred store, accountBarred id h = (.ok barred, { h with store }) := by
  unfold accountBarred
  rcases read : UserStore.getById id h.store with ⟨r, s'⟩
  rw [bind_apply, tryDb, attempt_apply, zoom_apply, read]
  dsimp only
  cases r with
  | error e => exact ⟨none, s', rfl⟩
  | ok found =>
      cases found with
      | none => exact ⟨_, s', rfl⟩
      | some user =>
          obtain ⟨row, stored, mapped, passed⟩ := getById_some read
          obtain ⟨same, later⟩ := Reads.getUser id h.store
          rw [read] at same later
          have account_ := mapUserRow_ok mapped
          have self : user.id = id := by rw [account_]; rfl
          cases status : user.status with
          | active => exact ⟨none, s', by simp only [status]; rfl⟩
          | deleted => exact ⟨_, s', by simp only [status]; rfl⟩
          | banned =>
              have resolved : ∃ check store, resolveSuspension user { h with store := s' } =
                  (.ok check, { h with store }) := by
                have there : s'.db.users.get? user.id = some row := by
                  rw [self, same]
                  exact stored
                refine resolveSuspension_returns there (by rw [self, account_]) status ?_
                · intro leaves
                  apply passes_second passed
                  have leaving : leavesTimeout session h := by
                    rw [later.now] at leaves
                    simp [leavesTimeout, owner, stored, mapped, Except.toOption, status, leaves]
                  simpa [interrupted, leaving] using whole
              obtain ⟨check, store, ran⟩ := resolved
              simp only [status]
              rw [bind_ok ran]
              exact ⟨_, store, rfl⟩

theorem logOut_returns (whole : interrupted session h = false) :
    ∃ barred h', logOutIfAccountBarred session h = (.ok barred, h') ∧
      (barred.isSome → idle session h') := by
  unfold logOutIfAccountBarred
  rw [bind_apply, peek, gets_apply]
  dsimp only
  cases owner : (h.sessions.get? session).bind (·.userId) with
  | none => exact ⟨none, h, rfl, nofun⟩
  | some id =>
      obtain ⟨barred, store, ran⟩ := accountBarred_returns owner whole
      dsimp only
      rw [bind_ok ran]
      cases barred with
      | none => exact ⟨none, _, rfl, nofun⟩
      | some barred =>
          refine ⟨_, _, rfl, fun _ => ?_⟩
          obtain ⟨r, found, owned⟩ := Option.bind_eq_some_iff.mp owner
          unfold idle
          rw [show ({ h with store } : BbsHost).toMemory = h.toMemory from rfl,
            logOutAccount_session barred.reason found owned]
          rfl

theorem cancel_idles (whole : interrupted session h = false) :
    idle session (processCommand session .cancel h).2 := by
  obtain ⟨barred, h', ran, out⟩ := logOut_returns whole
  unfold processCommand processWith
  rw [bind_ok ran]
  cases barred with
  | none => exact handleCancel_idles session _
  | some response => exact out rfl

end Cancel

/-! ## The invariant -/

/-- What holds of a watched transport at all times. -/
structure Inv (cfg : Config) (w : Watch) : Prop where
  tracked : Telling w.history → ∀ sender,
    Tracked (w.station.sessions sender) (progress sender w.history) w.station.clock
  waited : Telling w.history → Waited cfg w.history
  cleared : Uninterrupted w.history → Cleared w.history

section Inv
variable {cfg : Config} {w : Watch} {s : Station SessionState BbsHost} {sender : Sender}

theorem Inv.calm (inv : Inv cfg w) (calm : Calm w.station s) : Inv cfg { w with station := s } where
  tracked tells sender := (inv.tracked tells sender).calm (calm.entries sender) calm.clock
  waited := inv.waited
  cleared := inv.cleared

theorem Inv.record {step : Step} (inv : Inv cfg w)
    (self : Telling w.history → Event.tells ⟨sender, step⟩ w.history →
      Tracked (s.sessions sender) ((progress sender w.history).after step) s.clock)
    (others : Telling w.history → ∀ other, other ≠ sender →
      Tracked (s.sessions other) (progress other w.history) s.clock)
    (waited : Telling w.history → Event.waited cfg ⟨sender, step⟩ w.history)
    (cleared : Event.uninterrupted ⟨sender, step⟩ →
      Event.cleared ⟨sender, step⟩) :
    Inv cfg ⟨s, ⟨sender, step⟩ :: w.history⟩ where
  tracked tells other := by
    obtain ⟨now, before⟩ := throughout_cons.mp tells
    unfold progress
    by_cases same : sender = other
    · rw [if_pos same, ← same]
      exact self before now
    · rw [if_neg same]
      exact others before other (Ne.symm same)
  waited tells := by
    obtain ⟨-, before⟩ := throughout_cons.mp tells
    exact throughout_cons.mpr ⟨waited before, inv.waited before⟩
  cleared whole := by
    obtain ⟨now, before⟩ := throughout_cons.mp whole
    exact throughout_cons.mpr ⟨cleared now, inv.cleared before⟩

theorem Inv.opened (inv : Inv cfg w) (fresh : Fresh sender w.station) :
    Inv cfg (w.record sender .opened) :=
  inv.record (fun tells _ => (inv.tracked tells sender).closes fresh)
    (fun tells other _ => inv.tracked tells other) (fun _ => rfl) fun _ => rfl

theorem Inv.answered (inv : Inv cfg w) (sender : Sender) {at_ : Instant} (place : Place)
    (response : Response) (begun : at_ ≤ w.station.clock) :
    Inv cfg ⟨answeredStation sender response w.station,
      ⟨sender, .answered at_ place response⟩ :: w.history⟩ := by
  refine inv.record (fun tells now => ?_) (fun tells other apart => ?_) (fun _ => rfl) fun _ => rfl
  · have own : (answeredStation sender response w.station).sessions sender =
        (w.station.sessions sender).map (answeredEntry response w.station.clock) :=
      Function.update_self _ _ _
    rw [own]
    refine (inv.tracked tells sender).answered begun le_rfl fun last eq prompted => ?_
    simpa [Event.tells, eq, prompted] using now
  · have same : (answeredStation sender response w.station).sessions other =
        w.station.sessions other := Function.update_of_ne apart _ _
    rw [same]
    exact inv.tracked tells other

/-- Where the idle timeout strikes, the timer has run since the node last got anywhere. -/
theorem Inv.waits (inv : Inv cfg w) (due : cancels cfg sender w.station)
    (tells : Telling w.history) :
    (progress sender w.history).moved.any fun moved =>
      secs cfg.workflowTimeoutSecs ≤ w.station.clock - moved := by
  unfold cancels at due
  simp only [Bool.and_eq_true, Option.any_eq_true] at due
  obtain ⟨-, entry, found, expired⟩ := due
  unfold SessionEntry.awaitingReplyExpired at expired
  simp only [Option.any_eq_true, decide_eq_true_eq] at expired
  obtain ⟨since, running, elapsed⟩ := expired
  obtain ⟨moved, eq, before⟩ := (inv.tracked tells sender).since entry since found running
  rw [eq, Option.any_some, decide_eq_true_eq]
  exact elapsed.trans (Nat.sub_le_sub_left before _)

theorem expire_cancels {session : SessionId} (due : cancels cfg sender s) :
    expireWorkflow bbsHost cfg sender session s = (.ok false, { s with
      host := (processCommand session .cancel s.host).2
      sessions := s.sessions.onEntry sender (·.updateAwaitingReply none s.clock) }) := by
  unfold expireWorkflow
  rw [bind_apply, entryOf, looking, gets_apply]
  dsimp only
  rw [bind_apply, looking, gets_apply]
  dsimp only
  unfold cancels at due
  rw [if_pos due]
  rfl

theorem Inv.cancelled (inv : Inv cfg w) {session : SessionId} (due : cancels cfg sender w.station) :
    let after := (expireWorkflow bbsHost cfg sender session w.station).2
    Inv cfg ⟨after, ⟨sender, .cancelled (cancelBetween session sender w.station after)⟩ ::
      w.history⟩ := by
  intro after
  have calm : Calm w.station after := (calm_expireWorkflow session).keeps w.station (.refl _)
  have afterwards : after = { w.station with
      host := (processCommand session .cancel w.station.host).2
      sessions := w.station.sessions.onEntry sender
        (·.updateAwaitingReply none w.station.clock) } :=
    congrArg Prod.snd (expire_cancels due)
  have own : after.sessions sender =
      (w.station.sessions sender).map (·.updateAwaitingReply none w.station.clock) := by
    rw [afterwards]
    exact Function.update_self _ _ _
  have later := inv.calm calm
  refine inv.record (fun tells _ => ?_) (fun tells other _ => later.tracked tells other)
    (fun tells => inv.waits due tells) fun whole => ?_
  · refine (later.tracked tells sender).closes fun entry found => ?_
    have found : after.sessions sender = some entry := found
    rw [own] at found
    obtain ⟨entry₀, -, rfl⟩ := Option.map_eq_some_iff.mp found
    exact .inl rfl
  · have whole : interrupted session w.station.host = false := by
      simpa [Event.uninterrupted, cancelBetween] using whole
    have silent : (after.sessions sender).any (·.awaitingReply) = false := by
      rw [own, Option.any_map]
      cases w.station.sessions sender <;> rfl
    have idles : idle session after.host := by
      rw [afterwards]
      exact cancel_idles whole
    simp [Event.cleared, cancelBetween, silent, idles]

/-! ## One message -/

theorem real_keeps {m : MeshM BbsHost α} (calm : ∀ s₀, Keeps (Calm s₀) m) :
    Ensures (Inv cfg) (Inv cfg) (real m) fun _ => Inv cfg :=
  .ofKeeps fun w inv => inv.calm (calm w.station w.station (.refl _))

theorem real_opens {m : MeshM BbsHost α} {P : α → Station SessionState BbsHost → Prop}
    (opens : ∀ s₀, Ensures (Calm s₀) (Calm s₀) m P) :
    Ensures (Inv cfg) (Inv cfg) (real m) fun a w => Inv cfg w ∧ P a w.station := by
  intro w inv
  obtain ⟨calm, holds⟩ := opens w.station w.station (.refl _)
  exact ⟨inv.calm calm, fun a ok => ⟨inv.calm calm, holds a ok⟩⟩

theorem getOrCreateSession_opens (adverts : AdvertKeys BbsHost)
    (s₀ : Station SessionState BbsHost) :
    Ensures (Calm s₀) (Calm s₀) (getOrCreateSession bbsHost adverts sender)
      fun opened s => opened.2 → Fresh sender s := by
  intro s calm
  refine ⟨calm_getOrCreateSession s calm, ?_⟩
  rintro ⟨session, isNew⟩ ok new
  obtain rfl : isNew = true := new
  exact (fresh_of_new ok).calm (calm_getOrCreateSession s (.refl s))

theorem recordIf_keeps {condition : Bool} {step : Step} {P : Watch → Prop}
    (keeps : ∀ w, P w → Inv cfg w ∧ (condition → Inv cfg (w.record sender step))) :
    Ensures (Inv cfg) P (recordIf condition sender step) fun _ => Inv cfg := by
  apply Ensures.modify
  intro w holds
  obtain ⟨inv, recorded⟩ := keeps w holds
  cases condition with
  | false => exact ⟨inv, inv⟩
  | true => exact ⟨recorded rfl, recorded rfl⟩

theorem look_keeps {β : Type} (f : Watch → β) {P : Watch → Prop} (holds : ∀ w, P w → Inv cfg w) :
    Ensures (Inv cfg) P (Program.gets f : WatchM β) fun b w => P w ∧ f w = b :=
  .gets fun w held => ⟨holds w held, held, rfl⟩

theorem watchedDispatch_keeps (adverts : AdvertKeys BbsHost) (meanwhile : Meanwhile BbsHost)
    (timestamp : BitVec 32) (text : String) :
    Keeps (Inv cfg) (watchedDispatch adverts cfg meanwhile sender timestamp text) := by
  suffices whole : Ensures (Inv cfg) (Inv cfg)
      (watchedDispatch adverts cfg meanwhile sender timestamp text) fun _ => Inv cfg from
    fun w inv => (whole w inv).1
  unfold watchedDispatch
  apply (real_opens (getOrCreateSession_opens adverts)).bind
  rintro ⟨session, isNew⟩
  apply (recordIf_keeps fun w held => ⟨held.1, fun new => held.1.opened (held.2 new)⟩).bind
  intro _
  apply (real_keeps fun _ => Keeps.gets _).bind
  intro entry
  apply (look_keeps _ fun _ => id).bind
  intro before
  have expires : Ensures (Inv cfg) (fun w => Inv cfg w ∧ w.station = before)
      (real (expireWorkflow bbsHost cfg sender session)) fun _ w => Inv cfg w ∧
        (cancels cfg sender before → Inv cfg (w.record sender
          (.cancelled (cancelBetween session sender before w.station)))) := by
    rintro w ⟨inv, rfl⟩
    have calm : Calm w.station (expireWorkflow bbsHost cfg sender session w.station).2 :=
      (calm_expireWorkflow session).keeps w.station (.refl _)
    exact ⟨inv.calm calm, fun _ _ => ⟨inv.calm calm, fun due => inv.cancelled due⟩⟩
  apply expires.bind
  intro awaitingReply
  apply (look_keeps _ fun _ held => held.1).bind
  intro after
  apply (recordIf_keeps fun w held => ⟨held.1.1, fun due => held.2 ▸ held.1.2 due⟩).bind
  intro _
  apply (real_opens fun s₀ => answering_opens meanwhile timestamp text session isNew
    (entry.bind (·.fullPubkey)) awaitingReply).bind
  intro done
  apply (recordIf_keeps fun w held => ⟨held.1, fun new => held.1.opened (held.2 new)⟩).bind
  intro _
  apply (look_keeps _ fun _ => id).bind
  intro there
  have tends : Ensures (Inv cfg) (fun w => Inv cfg w ∧ w.station = there)
      (real (tending bbsHost cfg meanwhile (entry.bind (·.fullPubkey)) done)) fun _ w =>
        Inv cfg w ∧ there.clock ≤ w.station.clock := by
    rintro w ⟨inv, rfl⟩
    have calm : Calm w.station
        (tending bbsHost cfg meanwhile (entry.bind (·.fullPubkey)) done w.station).2 :=
      calm_tending meanwhile _ done w.station (.refl _)
    exact ⟨inv.calm calm, fun _ _ => ⟨inv.calm calm, calm.clock⟩⟩
  apply tends.bind
  intro _ w held
  have answered := held.1.answered sender (placeOf done.session there.host) done.response held.2
  exact ⟨answered, fun _ _ => answered⟩

end Inv

/-! ## Runs -/

def Watch.initial (host : BbsHost) : Watch := ⟨⟨0, fun _ => none, host⟩, []⟩

def Watch.next (adverts : AdvertKeys BbsHost) (cfg : Config) (w : Watch) : Label BbsHost → Watch
  | .receive sender timestamp text meanwhile =>
      (watchedDispatch adverts cfg meanwhile sender timestamp text w).2
  | .identify sender pubkey =>
      { w with station := { w.station with
          sessions := w.station.sessions.onEntry sender (·.setFullPubkey pubkey) } }
  | .others act time =>
      { w with station := { w.station with
          host := act w.station.host, clock := w.station.clock + time } }

/-- The transport that is watched goes on as the one that is not. -/
theorem next_station (adverts : AdvertKeys BbsHost) (cfg : Config) (w : Watch) (m : Mesh BbsHost)
    (same : w.station = m.station) (label : Label BbsHost) :
    (w.next adverts cfg label).station = (m.next bbsHost adverts cfg label).station := by
  cases label with
  | receive sender timestamp text meanwhile =>
      unfold Mesh.next
      rw [← same]
      exact (watchedDispatch_erases adverts cfg meanwhile sender timestamp text w).2
  | identify sender pubkey =>
      unfold Mesh.next
      rw [← same]
      rfl
  | others act time =>
      unfold Mesh.next
      rw [← same]
      rfl

abbrev Runs (adverts : AdvertKeys BbsHost) (cfg : Config) : Watch → Watch → Prop :=
  Reaches (fun label w w' => w' = w.next adverts cfg label) fun _ _ => True

variable {adverts : AdvertKeys BbsHost} {cfg : Config}

theorem initial_inv (host : BbsHost) : Inv cfg (.initial host) where
  tracked _ _ := ⟨nofun, nofun, nofun, nofun⟩
  waited _ := throughout_nil
  cleared _ := throughout_nil

theorem next_inv {w : Watch} (inv : Inv cfg w) (label : Label BbsHost) :
    Inv cfg (w.next adverts cfg label) := by
  cases label with
  | receive sender timestamp text meanwhile =>
      exact watchedDispatch_keeps adverts meanwhile timestamp text w inv
  | identify sender pubkey =>
      have kept : Continues (Calm w.station)
          (onEntry sender (·.setFullPubkey pubkey) : MeshM _ Unit) :=
        calm_onEntry fun _ => .inr rfl
      exact inv.calm (kept.keeps w.station (.refl _))
  | others act time =>
      have later : Calm w.station
          { w.station with host := act w.station.host, clock := w.station.clock + time } :=
        ⟨Nat.le_add_right _ _, (Calm.refl w.station).entries⟩
      exact inv.calm later

/-- As long as every prompt of another stage or position has a text of its own, the idle timeout
gives up the workflows of silent nodes only. As long as the database lets the host look after an
account whose timeout is over, a workflow that is given up is given up on both sides. -/
theorem idle_timeout_spares {host : BbsHost} {w : Watch}
    (run : Runs adverts cfg (.initial host) w) :
    (Telling w.history → Waited cfg w.history) ∧ (Uninterrupted w.history → Cleared w.history) := by
  have inv : Inv cfg w := by
    refine run.invariant (initial_inv host) ?_
    rintro label v _ inv - rfl
    exact next_inv inv label
  exact ⟨inv.waited, inv.cleared⟩

def patient : Config := ⟨none, 0, 1800⟩

def afterwards (labels : List (Label BbsHost)) : Watch :=
  labels.foldl (Watch.next (fun _ _ => none) patient) (.initial (.fresh .fresh))

theorem afterwards_runs (labels : List (Label BbsHost)) :
    Runs (fun _ _ => none) patient (.initial (.fresh .fresh)) (afterwards labels) :=
  Reaches.follow_free _ labels _

def Event.isCancel : Event → Bool
  | ⟨_, .cancelled _⟩ => true
  | _ => false

/-- A node is asked for its password and says nothing for longer than half an hour. -/
def fallingSilent : List (Label BbsHost) :=
  [texts 1 "register alice password", texts 2 "passwd", .others id (secs 2000), texts 3 "w"]

theorem idle_timeout_spares_silent : (afterwards fallingSilent).history.any Event.isCancel ∧
    Waited patient (afterwards fallingSilent).history ∧
    Cleared (afterwards fallingSilent).history := by
  obtain ⟨waited, cleared⟩ := idle_timeout_spares (afterwards_runs fallingSilent)
  exact ⟨by decide +kernel, waited (by decide +kernel), cleared (by decide +kernel)⟩

/-- A second wrong password, and a third try a quarter of an hour later. -/
def trying : List (Label BbsHost) :=
  [texts 1 "register alice password", texts 2 "passwd", texts 3 "passw0rd",
    .others id (secs 1000), texts 4 "Password", .others id (secs 1000), texts 5 "password"]

def lockedDatabase (h : BbsHost) : BbsHost :=
  { h with store := { h.store with
      now := h.store.now + 2 * Calendar.secondsPerDay * Calendar.nanosPerSecond
      faults := [none, some "database is locked"] } }

/-- The account is suspended under another spelling of its name, which spares its session, and the
node comes back when that is over. -/
def suspendedMeanwhile : List (Label BbsHost) :=
  [texts 1 "register alice password", texts 2 "passwd",
    .others (fun h => (adminSuspendUser "ALICE" 1 h).2) 0, .others lockedDatabase (secs 2000),
    texts 3 "w"]

theorem given_up_early_or_by_half :
    (∃ w, Runs (fun _ _ => none) patient (.initial (.fresh .fresh)) w ∧
      ¬Waited patient w.history) ∧
    ∃ w, Runs (fun _ _ => none) patient (.initial (.fresh .fresh)) w ∧ ¬Cleared w.history :=
  ⟨⟨_, afterwards_runs trying, by decide +kernel⟩,
    ⟨_, afterwards_runs suspendedMeanwhile, by decide +kernel⟩⟩

/-- Nor do two stops in a run of blocked messages differ in what the node hears. -/
theorem stops_alike {session : SessionId} {h : BbsHost} (there : (h.sessions.get? session).isSome)
    (key : String) {at_ at' : MessageId} (apart : at_ ≠ at') :
    (stoppedInBlockedRun session at_ key h).1 = (stoppedInBlockedRun session at' key h).1 ∧
      placeOf session (stoppedInBlockedRun session at_ key h).2 ≠
        placeOf session (stoppedInBlockedRun session at' key h).2 := by
  refine ⟨rfl, fun same => apart ?_⟩
  obtain ⟨r, found⟩ := Option.isSome_iff_exists.mp there
  have place (at_ : MessageId) : placeOf session (stoppedInBlockedRun session at_ key h).2 =
      some (.reading, some at_) := by
    show ((h.sessions.update session _).get? session).map _ = _
    rw [RowTable.get?_update, if_pos rfl, found]
    rfl
  simpa [place] using same

end SupplyDrop.Proof.IdleTimeout
