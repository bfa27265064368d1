import Mathlib
import SupplyDrop.Library.Run
import SupplyDrop.Proof.MeshStages

namespace SupplyDrop.Proof.MeshDedup
open Library Library.Program Store Host Transport Transport.MeshCore

/-! ## The transport over time -/

/-- A text message that came in, when it was looked at, and what became of it. -/
structure Arrival where
  sender : Sender
  timestamp : BitVec 32
  text : String
  seen : Instant
  outcome : Except Exit Processed

/-- The transport, the host behind it and all messages so far. -/
structure Mesh (σ : Type) where
  station : Station SessionState σ
  arrivals : List Arrival

inductive Label (σ : Type) where
  | receive (sender : Sender) (timestamp : BitVec 32) (text : String) (meanwhile : Meanwhile σ)
  -- a frame that tells the key of a node
  | identify (sender : Sender) (pubkey : PublicKey)
  -- whatever else the host is asked to do, and the time that takes
  | others (act : σ → σ) (time : Nat)

variable {σ : Type}

def Mesh.initial (host : σ) : Mesh σ := ⟨⟨0, fun _ => none, host⟩, []⟩

def Mesh.next (host : HostApi σ) (adverts : AdvertKeys σ) (cfg : Config) (m : Mesh σ) :
    Label σ → Mesh σ
  | .receive sender timestamp text meanwhile =>
      let ran := dispatchMessage host adverts cfg meanwhile sender timestamp text m.station
      ⟨ran.2, m.arrivals ++
        [⟨sender, timestamp, text, m.station.clock + meanwhile.beforeDedup, ran.1⟩]⟩
  | .identify sender pubkey =>
      { m with station := { m.station with
          sessions := m.station.sessions.onEntry sender (·.setFullPubkey pubkey) } }
  | .others act time =>
      { m with station := { m.station with
          host := act m.station.host, clock := m.station.clock + time } }

/-- The host processed the command of the message. -/
def Arrival.processed (a : Arrival) : Bool := a.outcome.isOk

/-- The message is one of those that the transport goes by afterwards. -/
def Arrival.remembered (a : Arrival) : Bool :=
  a.timestamp ≠ 0 && match a.outcome with
    | .error .noSession | .error .duplicate => false
    | _ => true

def forgets : Except Exit Processed → Bool
  | .error .refreshFailed => true
  | .ok done => done.refreshed
  | _ => false

/-- The session of the node was found stale. -/
def Arrival.refreshes (a : Arrival) : Bool := forgets a.outcome

/-! ## What a node's entry remembers -/

def recents (s : Station SessionState σ) (sender : Sender) : List RecentMsg :=
  ((s.sessions sender).map (·.recentMsgs)).getD []

/-- Whether a message is remembered, and what is remembered afterwards. -/
def remember (timestamp : BitVec 32) (text : String) (now : Instant) (recent : List RecentMsg) :
    Bool × List RecentMsg :=
  let kept := SessionEntry.unexpired now recent
  if timestamp = 0 then (false, recent)
  else if kept.any fun m => m.timestamp = timestamp && m.text = text then (true, kept)
  else (false, SessionEntry.bounded (kept ++ [⟨timestamp, text, now⟩]))

section Entry
variable {entry : SessionEntry} {timestamp : BitVec 32} {text : String} {now : Instant}

theorem fallbackDedup_recent (awaitingReply : Bool) :
    (entry.fallbackDedup text awaitingReply now).2.recentMsgs = entry.recentMsgs := by
  unfold SessionEntry.fallbackDedup SessionEntry.dedupMessage
  dsimp only
  split_ifs <;> rfl

theorem dedup_recent (awaitingReply : Bool) :
    (entry.dedup timestamp text awaitingReply now).2.recentMsgs =
    (remember timestamp text now entry.recentMsgs).2 := by
  unfold SessionEntry.dedup remember
  split
  · exact fallbackDedup_recent awaitingReply
  · next stamped =>
    unfold SessionEntry.dedupByTimestamp
    rw [if_neg stamped]
    dsimp only
    split_ifs <;> rfl

theorem dedup_spots (stamped : timestamp ≠ 0) (awaitingReply : Bool) :
    (entry.dedup timestamp text awaitingReply now).1 =
      (remember timestamp text now entry.recentMsgs).1 := by
  unfold SessionEntry.dedup remember SessionEntry.dedupByTimestamp
  simp only [if_neg stamped]
  split_ifs <;> rfl

theorem updateAwaitingReply_recent (prompt : Option String) :
    (entry.updateAwaitingReply prompt now).recentMsgs = entry.recentMsgs := by
  cases prompt with
  | none => rfl
  | some text =>
      unfold SessionEntry.updateAwaitingReply
      dsimp only
      split_ifs <;> rfl

end Entry

/-! ## One message -/

section Dispatch
variable {host : HostApi σ} {adverts : AdvertKeys σ} {cfg : Config} {sender : Sender}
  {s₀ s : Station SessionState σ}

/-- Nothing that deduplication goes by is different, and the node has an entry. -/
structure Kept (sender : Sender) (s₀ s : Station SessionState σ) : Prop where
  clock : s.clock = s₀.clock
  others : ∀ other, other ≠ sender → s.sessions other = s₀.sessions other
  recent : recents s sender = recents s₀ sender
  open_ : (s.sessions sender).isSome

theorem kept_host (s : Station SessionState σ) (h : σ) (kept : Kept sender s₀ s) :
    Kept sender s₀ { s with host := h } :=
  ⟨kept.clock, kept.others, kept.recent, kept.open_⟩

theorem kept_onEntry {f : SessionEntry → SessionEntry}
    (same : ∀ entry, (f entry).recentMsgs = entry.recentMsgs) :
    Continues (Kept sender s₀) (onEntry sender f : MeshM σ Unit) := by
  intro s kept
  obtain ⟨entry, found⟩ := Option.isSome_iff_exists.mp kept.open_
  refine ⟨⟨(), rfl⟩, kept.clock, fun other apart => ?_, ?_, ?_⟩
  · exact (Function.update_of_ne apart _ _).trans (kept.others other apart)
  · rw [← kept.recent]
    simp [onEntry, onSessions, recents, SessionState.onEntry, found, same]
  · simp [onEntry, onSessions, SessionState.onEntry, found]

theorem kept_opened (absent : s₀.sessions sender = none) (newId : SessionId) (h : σ) :
    Kept sender s₀ { s₀ with sessions := s₀.sessions.getOrInsert sender newId, host := h } := by
  refine ⟨rfl, fun other apart => ?_, ?_, ?_⟩
  · simp [SessionState.getOrInsert, absent, Function.update_of_ne apart]
  · simp [recents, SessionState.getOrInsert, absent, SessionEntry.opened]
  · simp [SessionState.getOrInsert, absent]

theorem getOrCreateSession_opens :
    Triple (· = s₀) (getOrCreateSession host adverts sender) fun r s =>
      (r = .error .noSession ∧ s.sessions = s₀.sessions ∧ s.clock = s₀.clock) ∨
        (∃ opened, r = .ok opened) ∧ Kept sender s₀ s := by
  cases found : s₀.sessions sender with
  | some entry =>
      rintro s rfl
      unfold getOrCreateSession
      rw [bind_apply, entryOf, looking, gets_apply, found]
      exact .inr ⟨⟨_, rfl⟩, rfl, fun _ _ => rfl, rfl, by simp [found]⟩
  | none =>
      rintro s rfl
      unfold getOrCreateSession
      rw [bind_apply, entryOf, looking, gets_apply, found]
      dsimp only
      rw [bind_apply, ask, attempt_apply, zoom_apply]
      dsimp only
      cases (host.createSession "meshcore" s.host).1 with
      | error e => exact .inl ⟨rfl, rfl, rfl⟩
      | ok newId =>
          have opened := kept_opened found newId (host.createSession "meshcore" s.host).2
          have seeded : Continues (Kept sender s) (do
              seedPubkey adverts sender
              pure (newId, true)) :=
            (Continues.seedPubkey fun _ => kept_onEntry fun _ => rfl).bind fun _ => .ret _
          exact .inr (seeded _ opened)

/-- The message has been looked at and is none that was remembered. Now it is, unless the entry of
the node is lost. -/
structure Heard (lost : Bool) (sender : Sender) (timestamp : BitVec 32) (text : String)
    (now : Instant) (s₀ s : Station SessionState σ) : Prop where
  clock : now ≤ s.clock
  others : ∀ other, other ≠ sender → s.sessions other = s₀.sessions other
  new : timestamp ≠ 0 → (remember timestamp text now (recents s₀ sender)).1 = false
  recent : lost = false → recents s sender = (remember timestamp text now (recents s₀ sender)).2

/-- What a message leaves that was looked at. -/
structure After (sender : Sender) (timestamp : BitVec 32) (text : String) (now : Instant)
    (s₀ : Station SessionState σ) (outcome : Except Exit Processed) (s : Station SessionState σ) :
    Prop where
  clock : now ≤ s.clock
  others : ∀ other, other ≠ sender → s.sessions other = s₀.sessions other
  spotted : timestamp ≠ 0 → (outcome = .error .duplicate ↔
    (remember timestamp text now (recents s₀ sender)).1 = true)
  recent : forgets outcome = false →
    recents s sender = (remember timestamp text now (recents s₀ sender)).2

variable {timestamp : BitVec 32} {text : String} {now : Instant}

theorem Heard.after {lost : Bool} {outcome : Except Exit Processed}
    (heard : Heard lost sender timestamp text now s₀ s) (taken : outcome ≠ .error .duplicate)
    (same : forgets outcome = lost) : After sender timestamp text now s₀ outcome s where
  clock := heard.clock
  others := heard.others
  spotted stamped := by simp [taken, heard.new stamped]
  recent kept := heard.recent (same ▸ kept)

theorem deduplicate_spots (awaitingReply : Bool) :
    Triple (fun s => Kept sender s₀ { s with clock := s₀.clock } ∧ s.clock = now)
      (deduplicate sender timestamp text awaitingReply) fun r s =>
        (r = .error .duplicate ∧ After sender timestamp text now s₀ (.error .duplicate) s) ∨
          (r = .ok () ∧ Heard false sender timestamp text now s₀ s) := by
  rintro s ⟨kept, rfl⟩
  obtain ⟨entry, found⟩ := Option.isSome_iff_exists.mp kept.open_
  have found : s.sessions sender = some entry := found
  have recent : recents s₀ sender = entry.recentMsgs := by
    rw [← kept.recent]
    simp [recents, found]
  unfold deduplicate
  rw [bind_apply, looking, gets_apply]
  dsimp only
  rw [bind_apply, entryOf, looking, gets_apply, found]
  dsimp only
  rw [bind_apply, onEntry, onSessions, modify_apply]
  dsimp only [Option.any_some]
  have others (other : Sender) (apart : other ≠ sender) :
      s.sessions.onEntry sender
        (fun entry => (entry.dedup timestamp text awaitingReply s.clock).2) other =
          s₀.sessions other :=
    (Function.update_of_ne apart _ _).trans (kept.others other apart)
  have remembers :
      recents { s with sessions := s.sessions.onEntry sender fun entry =>
        (entry.dedup timestamp text awaitingReply s.clock).2 } sender =
          (remember timestamp text s.clock (recents s₀ sender)).2 := by
    rw [recent, ← dedup_recent awaitingReply]
    simp [recents, SessionState.onEntry, found]
  split
  · next repeated =>
    refine .inl ⟨rfl, le_refl _, others, fun stamped => ?_, fun _ => remembers⟩
    rw [recent, ← dedup_spots stamped awaitingReply]
    exact iff_of_true rfl repeated
  · next fresh =>
    refine .inr ⟨rfl, le_refl _, others, fun stamped => ?_, fun _ => remembers⟩
    rw [recent, ← dedup_spots stamped awaitingReply]
    simpa using fresh

variable {lost : Bool}

theorem heard_host (s : Station SessionState σ) (h : σ)
    (heard : Heard lost sender timestamp text now s₀ s) :
    Heard lost sender timestamp text now s₀ { s with host := h } :=
  ⟨heard.clock, heard.others, heard.new, heard.recent⟩

theorem heard_ask {β : Type} (m : Program σ HostError β) :
    Continues (Heard lost sender timestamp text now s₀) (ask m : MeshM σ _) :=
  .ask m heard_host

theorem heard_wait (n : Nat) :
    Continues (Heard lost sender timestamp text now s₀) (wait n : MeshM σ Unit) :=
  fun _ heard => ⟨⟨(), rfl⟩, heard.clock.trans (Nat.le_add_right _ _), heard.others, heard.new,
    heard.recent⟩

theorem heard_letOthers (others : σ → σ) :
    Continues (Heard lost sender timestamp text now s₀) (letOthers others : MeshM σ Unit) :=
  fun _ heard => ⟨⟨(), rfl⟩, heard.clock, heard.others, heard.new, heard.recent⟩

theorem recents_onEntry {f : SessionEntry → SessionEntry}
    (same : ∀ entry, (f entry).recentMsgs = entry.recentMsgs) (s : Station SessionState σ) :
    recents { s with sessions := s.sessions.onEntry sender f } sender = recents s sender := by
  cases found : s.sessions sender <;> simp [recents, SessionState.onEntry, found, same]

theorem heard_onEntry {f : SessionEntry → SessionEntry}
    (same : ∀ entry, (f entry).recentMsgs = entry.recentMsgs) :
    Continues (Heard lost sender timestamp text now s₀) (onEntry sender f : MeshM σ Unit) :=
  fun s heard => ⟨⟨(), rfl⟩, heard.clock,
    fun other apart => (Function.update_of_ne apart _ _).trans (heard.others other apart),
    heard.new, fun kept => (recents_onEntry same s).trans (heard.recent kept)⟩

theorem heard_settle (response : Response) :
    Continues (Heard lost sender timestamp text now s₀) (settle sender response) := by
  apply (Continues.looking _).bind
  intro clock
  apply heard_onEntry
  intro entry
  dsimp only
  split
  · exact updateAwaitingReply_recent _
  · exact updateAwaitingReply_recent _

/-- Anything may become of the entry of the node. -/
theorem Heard.loses {st : SessionState} (heard : Heard lost sender timestamp text now s₀ s)
    (others : ∀ other, other ≠ sender → st other = s.sessions other) :
    Heard true sender timestamp text now s₀ { s with sessions := st } :=
  ⟨heard.clock, fun other apart => (others other apart).trans (heard.others other apart),
    heard.new, nofun⟩

theorem lost_onSessions {f : SessionState → SessionState}
    (others : ∀ st other, other ≠ sender → f st other = st other) :
    Continues (Heard true sender timestamp text now s₀) (onSessions f : MeshM σ Unit) :=
  fun s heard => ⟨⟨(), rfl⟩, heard.loses (others s.sessions)⟩

theorem getOrInsert_others {st : SessionState} {other : Sender} (newId : SessionId)
    (apart : other ≠ sender) : st.getOrInsert sender newId other = st other := by
  unfold SessionState.getOrInsert
  cases st sender with
  | some _ => rfl
  | none => exact Function.update_of_ne apart _ _

/-- The message has been looked at, and if its command is not processed that is for want of a
session. -/
def Taken (sender : Sender) (timestamp : BitVec 32) (text : String) (now : Instant)
    (s₀ : Station SessionState σ) (r : Except Exit Processed) (s : Station SessionState σ) : Prop :=
  (r = .error .refreshFailed ∨ ∃ done, r = .ok done) ∧
    Heard (forgets r) sender timestamp text now s₀ s

theorem refresh_taken (fullPubkey : Option PublicKey) (cmd : Command) :
    Triple (Heard true sender timestamp text now s₀)
      (refresh host adverts cfg sender fullPubkey text cmd)
      (Taken sender timestamp text now s₀) := by
  have removes : Continues (Heard true sender timestamp text now s₀)
      (onSessions fun st => st.removeByPrefix sender : MeshM σ Unit) :=
    lost_onSessions fun st other apart => Function.update_of_ne apart _ _
  refine removes.andThen ?_
  intro _
  refine (heard_ask _).andThen ?_
  intro created
  cases created with
  | error e => exact fun s heard => ⟨.inl rfl, heard⟩
  | ok fresh =>
      have inserts : Continues (Heard true sender timestamp text now s₀)
          (onSessions fun st => st.getOrInsert sender fresh : MeshM σ Unit) :=
        lost_onSessions fun st other apart => getOrInsert_others fresh apart
      refine inserts.andThen ?_
      intro _
      refine (Continues.seedPubkey fun _ => heard_onEntry fun _ => rfl).andThen ?_
      intro _
      refine (Continues.restore heard_host fresh fullPubkey).andThen ?_
      intro _
      refine (heard_ask _).andThen ?_
      exact fun result s heard => ⟨.inr ⟨_, rfl⟩, heard⟩

theorem process_taken (session : SessionId) (fullPubkey : Option PublicKey) (cmd : Command) :
    Triple (Heard false sender timestamp text now s₀)
      (process host adverts cfg sender session fullPubkey text cmd)
      (Taken sender timestamp text now s₀) := by
  refine (heard_ask _).andThen ?_
  intro result
  split
  · intro s heard
    exact refresh_taken fullPubkey cmd s (heard.loses fun _ _ => rfl)
  · exact fun s heard => ⟨.inr ⟨_, rfl⟩, heard⟩

def Dispatched (sender : Sender) (timestamp : BitVec 32) (text : String) (now : Instant)
    (s₀ : Station SessionState σ) (r : Except Exit Processed) (s : Station SessionState σ) : Prop :=
  (r = .error .noSession ∧ s.sessions = s₀.sessions ∧ s.clock = s₀.clock) ∨
    (r ≠ .error .noSession ∧ After sender timestamp text now s₀ r s)

theorem Heard.dispatched {r : Except Exit Processed}
    (heard : Heard (forgets r) sender timestamp text now s₀ s)
    (taken : r ≠ .error .noSession ∧ r ≠ .error .duplicate) :
    Dispatched sender timestamp text now s₀ r s :=
  .inr ⟨taken.1, heard.after taken.2 rfl⟩

theorem Taken.dispatched {r : Except Exit Processed}
    (taken : Taken sender timestamp text now s₀ r s) :
    Dispatched sender timestamp text now s₀ r s := by
  apply taken.2.dispatched
  rcases taken.1 with rfl | ⟨done, rfl⟩ <;> simp

theorem done_dispatched (meanwhile : Meanwhile σ) (fullPubkey : Option PublicKey)
    (done : Processed) :
    Triple (Heard done.refreshed sender timestamp text now s₀) (do
      wait meanwhile.beforeReply
      letOthers meanwhile.others
      keepCredential host cfg fullPubkey done
      settle sender done.response
      pure done) (Dispatched sender timestamp text now s₀) := by
  refine (heard_wait _).andThen ?_
  intro _
  refine (heard_letOthers _).andThen ?_
  intro _
  refine (Continues.keepCredential heard_host fullPubkey done).andThen ?_
  intro _
  refine (heard_settle done.response).andThen ?_
  intro _ s heard
  exact Heard.dispatched (r := .ok done) heard (by simp)

theorem handle_dispatched (meanwhile : Meanwhile σ) (session : SessionId)
    (fullPubkey : Option PublicKey) (awaitingReply : Bool) :
    Triple (Heard false sender timestamp text now s₀)
      (handle host adverts cfg meanwhile sender session fullPubkey text awaitingReply)
      (Dispatched sender timestamp text now s₀) := by
  unfold handle
  cases parseCommand text cfg.commandPrefix awaitingReply with
  | none => exact fun s heard => Heard.dispatched (r := .error .ignored) heard (by simp)
  | some cmd =>
      have remembers : Continues (Heard false sender timestamp text now s₀)
          (rememberReply sender text awaitingReply) :=
        .rememberReply text awaitingReply fun _ => heard_onEntry fun _ => rfl
      refine remembers.andThen ?_
      intro _
      refine (process_taken session fullPubkey cmd).bind ?_ ?_
      · intro done s taken
        exact done_dispatched meanwhile fullPubkey done s taken.2
      · exact fun e s taken => taken.dispatched

theorem waits (n : Nat) : Triple (Kept sender s₀) (wait n : MeshM σ Unit) fun r s =>
    r = .ok () ∧ Kept sender s₀ { s with clock := s₀.clock } ∧ s.clock = s₀.clock + n := by
  intro s kept
  refine ⟨rfl, ⟨rfl, kept.others, kept.recent, kept.open_⟩, ?_⟩
  rw [← kept.clock]
  rfl

/-- All that a message does to what deduplication goes by. -/
theorem dispatch_spec (meanwhile : Meanwhile σ) (s₀ : Station SessionState σ) :
    Triple (· = s₀) (dispatchMessage host adverts cfg meanwhile sender timestamp text)
      (Dispatched sender timestamp text (s₀.clock + meanwhile.beforeDedup) s₀) := by
  refine getOrCreateSession_opens.bind ?_ ?_
  case refine_2 =>
    rintro e s (⟨same, kept⟩ | ⟨⟨_, impossible⟩, -⟩)
    · cases same
      exact .inl ⟨rfl, kept⟩
    · cases impossible
  rintro ⟨session, isNew⟩
  refine Triple.conseq (?_ : Triple (Kept sender s₀) _ _) ?_ fun _ _ => id
  case refine_2 =>
    rintro s (⟨impossible, -⟩ | ⟨-, kept⟩)
    · cases impossible
    · exact kept
  refine (Continues.looking _).andThen ?_
  intro entry
  have expires : Continues (Kept sender s₀) (expireWorkflow host cfg sender session) :=
    .expireWorkflow kept_host session fun _ => kept_onEntry fun _ => updateAwaitingReply_recent none
  refine expires.andThen ?_
  intro awaitingReply
  refine (Continues.autoLogin kept_host session isNew _ awaitingReply).andThen ?_
  intro _
  refine (waits meanwhile.beforeDedup).bind ?_ ?_
  case refine_2 =>
    rintro e s ⟨impossible, -⟩
    cases impossible
  intro _
  refine Triple.conseq ?_ (fun s after => after.2) fun _ _ => id
  refine (deduplicate_spots awaitingReply).bind ?_ ?_
  case refine_2 =>
    rintro e s (⟨same, after⟩ | ⟨impossible, -⟩)
    · cases same
      exact .inr ⟨by simp, after⟩
    · cases impossible
  intro _
  refine Triple.conseq (handle_dispatched meanwhile session _ awaitingReply) ?_ fun _ _ => id
  rintro s (⟨impossible, -⟩ | ⟨-, heard⟩)
  · cases impossible
  · exact heard

end Dispatch

/-! ## What stays remembered -/

/-- The message is among the recent ones, with at most `later` after it. -/
def Held (recent : List RecentMsg) (a : Arrival) (later : Nat) : Prop :=
  ∃ older newer, recent = older ++ ⟨a.timestamp, a.text, a.seen⟩ :: newer ∧ newer.length ≤ later

section Held
variable {recent : List RecentMsg} {a : Arrival} {later : Nat} {now : Instant}

theorem Held.unexpired (held : Held recent a later) (fresh : now - a.seen < secs 120) :
    Held (SessionEntry.unexpired now recent) a later := by
  obtain ⟨older, newer, rfl, short⟩ := held
  have stays : SessionEntry.unexpired now (⟨a.timestamp, a.text, a.seen⟩ :: newer) =
      ⟨a.timestamp, a.text, a.seen⟩ :: newer := by
    apply List.dropWhile_cons_of_neg
    rw [decide_eq_true_eq]
    exact not_le.mpr fresh
  unfold SessionEntry.unexpired at stays ⊢
  rw [List.dropWhile_append, stays]
  split
  · exact ⟨[], newer, rfl, short⟩
  · exact ⟨_, newer, rfl, short⟩

theorem Held.push (held : Held recent a later) (room : later + 1 < recentMsgCap)
    (m : RecentMsg) : Held (SessionEntry.bounded (recent ++ [m])) a (later + 1) := by
  obtain ⟨older, newer, rfl, short⟩ := held
  have longer : (newer ++ [m]).length ≤ later + 1 := by simpa using short
  unfold SessionEntry.bounded
  split
  · next full =>
    cases older with
    | nil =>
        simp only [List.nil_append, List.cons_append, List.length_cons] at full
        omega
    | cons first older => exact ⟨older, newer ++ [m], by simp, longer⟩
  · exact ⟨older, newer ++ [m], by simp, longer⟩

theorem held_new (recent : List RecentMsg) (a : Arrival) :
    Held (SessionEntry.bounded (recent ++ [⟨a.timestamp, a.text, a.seen⟩])) a 0 := by
  unfold SessionEntry.bounded
  split
  · next full =>
    cases recent with
    | nil =>
        simp only [List.nil_append, List.length_singleton, recentMsgCap] at full
        omega
    | cons first recent => exact ⟨recent, [], by simp, le_refl 0⟩
  · exact ⟨recent, [], by simp, le_refl 0⟩

theorem Held.spotted (held : Held recent a later) (stamped : a.timestamp ≠ 0)
    (fresh : now - a.seen < secs 120) : (remember a.timestamp a.text now recent).1 = true := by
  obtain ⟨older, newer, eq, -⟩ := held.unexpired fresh
  have found : ((SessionEntry.unexpired now recent).any fun m =>
      m.timestamp = a.timestamp && m.text = a.text) = true := by
    rw [eq]
    simp
  unfold remember
  simp only [if_neg stamped, found, if_true]

theorem Held.again (held : Held recent a later) (fresh : now - a.seen < secs 120)
    {timestamp : BitVec 32} {text : String}
    (old : timestamp = 0 ∨ (remember timestamp text now recent).1 = true) :
    Held (remember timestamp text now recent).2 a later := by
  unfold remember at old ⊢
  dsimp only at old ⊢
  split_ifs at old ⊢
  · exact held
  · exact held.unexpired fresh
  · simp_all

/-- A new message takes one of the places. -/
theorem Held.next (held : Held recent a later) (fresh : now - a.seen < secs 120)
    {timestamp : BitVec 32} {text : String} (stamped : timestamp ≠ 0)
    (new : (remember timestamp text now recent).1 = false) (room : later + 1 < recentMsgCap) :
    Held (remember timestamp text now recent).2 a (later + 1) := by
  unfold remember at new ⊢
  dsimp only at new ⊢
  rw [if_neg stamped] at new ⊢
  split_ifs at new ⊢
  exact (held.unexpired fresh).push room _

theorem held_itself (stamped : a.timestamp ≠ 0)
    (new : (remember a.timestamp a.text a.seen recent).1 = false) :
    Held (remember a.timestamp a.text a.seen recent).2 a 0 := by
  unfold remember at new ⊢
  dsimp only at new ⊢
  rw [if_neg stamped] at new ⊢
  split_ifs at new ⊢
  exact held_new _ a

end Held

/-! ## Whole runs -/

/-- How many messages of the same node came in that took a place in its memory. -/
def others (a : Arrival) (later : List Arrival) : Nat :=
  later.countP fun b => b.sender = a.sender && b.remembered

/-- The node's session was found stale neither by the message nor since. -/
def Settled (a : Arrival) (later : List Arrival) : Prop :=
  ∀ b ∈ a :: later, b.sender = a.sender → b.refreshes = false

/-- A message is remembered for as long as it is to be. -/
def Remembering (m : Mesh σ) : Prop :=
  ∀ before a later, m.arrivals = before ++ a :: later → a.remembered → Settled a later →
    m.station.clock - a.seen < secs 120 → others a later < recentMsgCap →
    Held (recents m.station a.sender) a (others a later)

/-- The same message of a node, sent once. -/
def Arrival.repeats (b a : Arrival) : Prop :=
  b.sender = a.sender ∧ b.timestamp = a.timestamp ∧ b.text = a.text ∧ a.timestamp ≠ 0

def AtMostOnce (arrivals : List Arrival) : Prop :=
  ∀ before a between b after, arrivals = before ++ a :: between ++ b :: after → b.repeats a →
    b.seen - a.seen < secs 120 → others a between < recentMsgCap → Settled a between →
    ¬ (a.processed ∧ b.processed)

theorem remembered_iff {a : Arrival} (opened : a.outcome ≠ .error .noSession) :
    a.remembered = true ↔ a.timestamp ≠ 0 ∧ a.outcome ≠ .error .duplicate := by
  unfold Arrival.remembered
  cases outcome : a.outcome with
  | error e => cases e <;> simp_all
  | ok done => simp

theorem processed_remembered {a : Arrival} (stamped : a.timestamp ≠ 0) (processed : a.processed) :
    a.remembered := by
  unfold Arrival.processed at processed
  unfold Arrival.remembered
  cases outcome : a.outcome with
  | error e =>
      rw [outcome] at processed
      cases processed
  | ok done => simpa using stamped

section Receive
variable {m : Mesh σ} {y : Arrival} {station : Station SessionState σ}
  (spec : Dispatched y.sender y.timestamp y.text y.seen m.station y.outcome station)
include spec

theorem clock_grows (later : m.station.clock ≤ y.seen) : m.station.clock ≤ station.clock := by
  rcases spec with ⟨-, -, same⟩ | ⟨-, after⟩
  · exact same.ge
  · exact later.trans after.clock

/-- A message that is still remembered is spotted when it comes in again. -/
theorem repeat_unprocessed {a : Arrival} {later : Nat}
    (held : Held (recents m.station a.sender) a later) (same : y.repeats a)
    (fresh : y.seen - a.seen < secs 120) : y.processed = false := by
  obtain ⟨sender, timestamp, text, stamped⟩ := same
  unfold Arrival.processed
  rcases spec with ⟨none, -⟩ | ⟨-, after⟩
  · rw [none]
    rfl
  · have spotted := held.spotted stamped fresh
    rw [← sender, ← timestamp, ← text] at spotted
    rw [(after.spotted (timestamp ▸ stamped)).mpr spotted]
    rfl

/-- What is remembered goes on being so, one more message allowing. -/
theorem held_receive {a : Arrival} {later : List Arrival}
    (held : Held (recents m.station a.sender) a (others a later))
    (fresh : station.clock - a.seen < secs 120) (room : others a (later ++ [y]) < recentMsgCap)
    (settled : y.sender = a.sender → y.refreshes = false) :
    Held (recents station a.sender) a (others a (later ++ [y])) := by
  have counts : others a (later ++ [y]) =
      others a later + if y.sender = a.sender ∧ y.remembered then 1 else 0 := by
    simp [others, List.countP_append, List.countP_singleton]
  rw [counts] at room ⊢
  rcases spec with ⟨none, same, -⟩ | ⟨opened, after⟩
  · have forgotten : y.remembered = false := by simp [Arrival.remembered, none]
    rw [show recents station a.sender = recents m.station a.sender by simp [recents, same]]
    simpa [forgotten] using held
  · by_cases sender : y.sender = a.sender
    · have recent := after.recent (settled sender)
      have within : y.seen - a.seen < secs 120 :=
        lt_of_le_of_lt (Nat.sub_le_sub_right after.clock _) fresh
      rw [sender] at recent
      rw [recent]
      by_cases taken : y.remembered
      · obtain ⟨stamped, unspotted⟩ := (remembered_iff opened).mp taken
        have new := mt (after.spotted stamped).mpr unspotted
        rw [sender, Bool.not_eq_true] at new
        rw [if_pos ⟨sender, taken⟩] at room ⊢
        exact held.next within stamped new room
      · rw [if_neg fun both => taken both.2]
        apply held.again within
        by_cases stamped : y.timestamp = 0
        · exact .inl stamped
        · have spotted : y.outcome = .error .duplicate := by
            by_contra unspotted
            exact taken ((remembered_iff opened).mpr ⟨stamped, unspotted⟩)
          rw [← sender]
          exact .inr ((after.spotted stamped).mp spotted)
    · have same : recents station a.sender = recents m.station a.sender := by
        simp [recents, after.others a.sender (Ne.symm sender)]
      rw [same, if_neg fun both => sender both.1]
      exact held

theorem held_received (taken : y.remembered) (settled : y.refreshes = false) :
    Held (recents station y.sender) y 0 := by
  rcases spec with ⟨none, -⟩ | ⟨opened, after⟩
  · simp [Arrival.remembered, none] at taken
  · obtain ⟨stamped, unspotted⟩ := (remembered_iff opened).mp taken
    have new := mt (after.spotted stamped).mpr unspotted
    rw [Bool.not_eq_true] at new
    rw [after.recent settled]
    exact held_itself stamped new

theorem receive_remembers (elder : m.station.clock ≤ y.seen) (remembering : Remembering m) :
    Remembering ⟨station, m.arrivals ++ [y]⟩ := by
  intro before a later split taken settled fresh room
  rcases split_last split with ⟨-, rfl, rfl⟩ | ⟨earlier, rfl, cut⟩
  · exact held_received spec taken (settled a List.mem_cons_self rfl)
  · have fewer : others a earlier < recentMsgCap := by
      apply lt_of_le_of_lt _ room
      unfold others
      rw [List.countP_append]
      exact Nat.le_add_right _ _
    have older : m.station.clock - a.seen < secs 120 :=
      lt_of_le_of_lt (Nat.sub_le_sub_right (clock_grows spec elder) _) fresh
    have held := remembering before a earlier cut taken
      (fun b mem => settled b (List.mem_append_left [y] mem)) older fewer
    apply held_receive spec held fresh room
    exact settled y (List.mem_append_right (a :: earlier) (List.mem_singleton_self y))

theorem receive_once (elder : m.station.clock ≤ y.seen) (remembering : Remembering m)
    (once : AtMostOnce m.arrivals) : AtMostOnce (m.arrivals ++ [y]) := by
  intro before a between b after split same fresh room settled
  rcases split_last split with ⟨cut, rfl, rfl⟩ | ⟨earlier, rfl, cut⟩
  · rintro ⟨first, second⟩
    have older : m.station.clock - a.seen < secs 120 :=
      lt_of_le_of_lt (Nat.sub_le_sub_right elder _) fresh
    have held := remembering before a between cut
      (processed_remembered same.2.2.2 first) settled older room
    rw [repeat_unprocessed spec held same fresh] at second
    cases second
  · exact once before a between b earlier cut same fresh room settled

end Receive

/-- The runs of the transport. -/
abbrev Runs (host : HostApi σ) (adverts : AdvertKeys σ) (cfg : Config) : Mesh σ → Mesh σ → Prop :=
  Reaches (fun label m m' => m' = m.next host adverts cfg label) fun _ _ => True

theorem run_remembers {host : HostApi σ} {adverts : AdvertKeys σ} {cfg : Config} {start : σ}
    {m : Mesh σ} (run : Runs host adverts cfg (.initial start) m) :
    Remembering m ∧ AtMostOnce m.arrivals := by
  apply run.invariant (I := fun m => Remembering m ∧ AtMostOnce m.arrivals)
  · exact ⟨fun before a later split => by simp [Mesh.initial] at split,
      fun before a between b after split => by simp [Mesh.initial] at split⟩
  · rintro label m _ ⟨remembering, once⟩ - rfl
    cases label with
    | receive sender timestamp text meanwhile =>
        let ran := dispatchMessage host adverts cfg meanwhile sender timestamp text m.station
        have spec : Dispatched sender timestamp text (m.station.clock + meanwhile.beforeDedup)
            m.station ran.1 ran.2 := dispatch_spec meanwhile m.station m.station rfl
        have elder : m.station.clock ≤ m.station.clock + meanwhile.beforeDedup :=
          Nat.le_add_right _ _
        exact ⟨receive_remembers (y := ⟨_, _, _, _, _⟩) spec elder remembering,
          receive_once (y := ⟨_, _, _, _, _⟩) spec elder remembering once⟩
    | identify sender pubkey =>
        refine ⟨fun before a later split taken settled fresh room => ?_, once⟩
        have held := remembering before a later split taken settled fresh room
        have same : recents { m.station with
            sessions := m.station.sessions.onEntry sender (·.setFullPubkey pubkey) } a.sender =
              recents m.station a.sender := by
          by_cases self : a.sender = sender
          · rw [self]
            exact recents_onEntry (f := (·.setFullPubkey pubkey)) (fun _ => rfl) m.station
          · simp [recents, SessionState.onEntry, Function.update_of_ne self]
        exact same ▸ held
    | others act time =>
        refine ⟨fun before a later split taken settled fresh room => ?_, once⟩
        have older : m.station.clock - a.seen < secs 120 :=
          lt_of_le_of_lt (Nat.sub_le_sub_right (Nat.le_add_right _ time) _) fresh
        exact remembering before a later split taken settled older room

/-- The host processes a message once, if it comes again within the window and no more messages of
the node came in between than are remembered beside it. -/
def ProcessedOnce (a : Arrival) (between : List Arrival) (b : Arrival) : Prop :=
  b.repeats a → b.seen - a.seen < secs 120 → others a between < recentMsgCap →
    ¬ (a.processed ∧ b.processed)

/-- Whatever the host answers, as long as it answers neither the message nor a later one of the node
that the session is unknown to it. -/
theorem processed_once {host : HostApi σ} {adverts : AdvertKeys σ} {cfg : Config} {start : σ}
    {m : Mesh σ} (run : Runs host adverts cfg (.initial start) m)
    {before between after : List Arrival} {a b : Arrival}
    (split : m.arrivals = before ++ a :: between ++ b :: after) (settled : Settled a between) :
    ProcessedOnce a between b :=
  fun same fresh room => (run_remembers run).2 before a between b after split same fresh room settled

/-- A message of the node that nothing else happens to. -/
def texts (timestamp : BitVec 32) (text : String) : Label BbsHost :=
  .receive 7 timestamp text ⟨0, 0, id⟩

def afterwards (labels : List (Label BbsHost)) : Mesh BbsHost :=
  labels.foldl (Mesh.next bbsHost (fun _ _ => none) ⟨none, 0, 0⟩) (.initial (.fresh .fresh))

theorem afterwards_runs (labels : List (Label BbsHost)) :
    Runs bbsHost (fun _ _ => none) ⟨none, 0, 0⟩ (.initial (.fresh .fresh)) (afterwards labels) :=
  Reaches.follow_free _ labels _

/-- What the theorem reads of a message. -/
def gist (a : Arrival) : (Sender × BitVec 32 × String) × (Instant × Bool × Bool) :=
  ((a.sender, a.timestamp, a.text), a.seen, a.processed, a.refreshes)

theorem processed_once_help : ∃ a b, (afterwards [texts 5 "h", texts 5 "h"]).arrivals = [a, b] ∧
    a.processed ∧ b.processed = false := by
  have gists : (afterwards [texts 5 "h", texts 5 "h"]).arrivals.map gist =
      [((7, 5, "h"), 0, true, false), ((7, 5, "h"), 0, false, false)] := by decide +kernel
  simp only [List.map_eq_cons_iff, List.map_eq_nil_iff] at gists
  obtain ⟨a, _, all, first, b, _, rfl, second, rfl⟩ := gists
  simp only [gist, Prod.mk.injEq] at first second
  obtain ⟨⟨aSender, aStamp, aText⟩, aSeen, aProcessed, aRefreshes⟩ := first
  obtain ⟨⟨bSender, bStamp, bText⟩, bSeen, -, -⟩ := second
  have settled : Settled a [] := by
    intro c mem _
    rw [List.mem_singleton.mp mem]
    exact aRefreshes
  have same : b.repeats a :=
    ⟨bSender.trans aSender.symm, bStamp.trans aStamp.symm, bText.trans aText.symm, by simp [aStamp]⟩
  have split : (afterwards [texts 5 "h", texts 5 "h"]).arrivals = [] ++ a :: [] ++ b :: [] := all
  have once := processed_once (afterwards_runs _) split settled same
    (by simp [aSeen, bSeen, secs]) (by simp [others, recentMsgCap])
  exact ⟨a, b, all, aProcessed, by simpa [aProcessed] using once⟩

/-- Logged out, a node logs in again, and the message comes in twice. -/
def loggingInAgain : List (Label BbsHost) :=
  [texts 1 "register alice password", texts 2 "q", texts 3 "login alice password",
    texts 3 "login alice password"]

theorem processed_twice : ∃ before a between b after,
    (afterwards loggingInAgain).arrivals = before ++ a :: between ++ b :: after ∧
      ¬ ProcessedOnce a between b := by
  have gists : (afterwards loggingInAgain).arrivals.map gist =
      [((7, 1, "register alice password"), 0, true, false), ((7, 2, "q"), 0, true, false),
        ((7, 3, "login alice password"), 0, true, true),
        ((7, 3, "login alice password"), 0, true, false)] := by decide +kernel
  simp only [List.map_eq_cons_iff, List.map_eq_nil_iff] at gists
  obtain ⟨x, _, all, -, y, _, rfl, -, a, _, rfl, first, b, _, rfl, second, rfl⟩ := gists
  simp only [gist, Prod.mk.injEq] at first second
  obtain ⟨⟨aSender, aStamp, aText⟩, aSeen, aProcessed, -⟩ := first
  obtain ⟨⟨bSender, bStamp, bText⟩, bSeen, bProcessed, -⟩ := second
  have same : b.repeats a :=
    ⟨bSender.trans aSender.symm, bStamp.trans aStamp.symm, bText.trans aText.symm, by simp [aStamp]⟩
  refine ⟨[x, y], a, [], b, [], all, fun once => ?_⟩
  exact once same (by simp [aSeen, bSeen, secs]) (by simp [others, recentMsgCap])
    ⟨aProcessed, bProcessed⟩

end SupplyDrop.Proof.MeshDedup
