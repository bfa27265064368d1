import Mathlib
import SupplyDrop.Proof.IdleTimeout.History
import SupplyDrop.Proof.MeshStages

namespace SupplyDrop.Proof.IdleTimeout
open Library Library.Program Store Host Transport Transport.MeshCore

variable {α σ : Type}

/-! ## What leaves the timers alone -/

def timer (entry : SessionEntry) : Option Instant × Option String :=
  (entry.awaitingReplySince, entry.lastPromptText)

/-- The timer of a node is as it was, or there is none. -/
def Quieter (before after : Option SessionEntry) : Prop :=
  ∀ entry, after = some entry →
    timer entry = (none, none) ∨ ∃ entry₀, before = some entry₀ ∧ timer entry = timer entry₀

structure Calm (s₀ s : Station SessionState σ) : Prop where
  clock : s₀.clock ≤ s.clock
  entries : ∀ sender, Quieter (s₀.sessions sender) (s.sessions sender)

theorem Quieter.gone {before : Option SessionEntry} : Quieter before none :=
  fun _ impossible => nomatch impossible

theorem Calm.refl (s : Station SessionState σ) : Calm s s :=
  ⟨le_rfl, fun _ entry found => .inr ⟨entry, found, rfl⟩⟩

section Stages
variable {host : HostApi σ} {adverts : AdvertKeys σ} {cfg : Config} {sender : Sender}
  {s₀ s : Station SessionState σ}

theorem Calm.changes (calm : Calm s₀ s) {st : SessionState}
    (quieter : ∀ sender, Quieter (s.sessions sender) (st sender)) :
    Calm s₀ { s with sessions := st } := by
  refine ⟨calm.clock, fun sender entry found => ?_⟩
  rcases quieter sender entry found with quiet | ⟨entry₁, found₁, same⟩
  · exact .inl quiet
  · rw [same]
    exact calm.entries sender entry₁ found₁

theorem calm_onSessions {f : SessionState → SessionState}
    (quieter : ∀ st sender, Quieter (st sender) (f st sender)) :
    Continues (Calm s₀) (onSessions f : MeshM σ Unit) :=
  fun s calm => ⟨⟨(), rfl⟩, calm.changes (quieter s.sessions)⟩

theorem quieter_update {st : SessionState} {after : Option SessionEntry}
    (quieter : Quieter (st sender) after) (other : Sender) :
    Quieter (st other) (Function.update st sender after other) := by
  by_cases self : other = sender
  · subst self
    rwa [Function.update_self]
  · rw [Function.update_of_ne self]
    exact fun entry found => .inr ⟨entry, found, rfl⟩

theorem calm_onEntry {f : SessionEntry → SessionEntry}
    (quieter : ∀ entry, timer (f entry) = (none, none) ∨ timer (f entry) = timer entry) :
    Continues (Calm s₀) (onEntry sender f : MeshM σ Unit) := by
  apply calm_onSessions
  intro st other
  apply quieter_update
  intro entry found
  obtain ⟨entry₀, found₀, rfl⟩ := Option.map_eq_some_iff.mp found
  rcases quieter entry₀ with quiet | same
  · exact .inl quiet
  · exact .inr ⟨entry₀, found₀, same⟩

theorem calm_getOrInsert (newId : SessionId) :
    Continues (Calm s₀) (onSessions fun st => st.getOrInsert sender newId : MeshM σ Unit) := by
  apply calm_onSessions
  intro st other
  unfold SessionState.getOrInsert
  cases st sender with
  | some _ => exact fun entry found => .inr ⟨entry, found, rfl⟩
  | none =>
      apply quieter_update
      rintro entry ⟨⟩
      exact .inl rfl

theorem calm_removeByPrefix :
    Continues (Calm s₀) (onSessions fun st => st.removeByPrefix sender : MeshM σ Unit) := by
  apply calm_onSessions
  intro st other
  exact quieter_update .gone other

theorem calm_host (s : Station SessionState σ) (h : σ) (calm : Calm s₀ s) :
    Calm s₀ { s with host := h } :=
  ⟨calm.clock, calm.entries⟩

theorem calm_ask {β : Type} (m : Program σ HostError β) : Continues (Calm s₀) (ask m : MeshM σ _) :=
  .ask m calm_host

theorem calm_wait (n : Nat) : Keeps (Calm s₀) (wait n : MeshM σ Unit) :=
  fun _ calm => ⟨calm.clock.trans (Nat.le_add_right _ _), calm.entries⟩

theorem calm_letOthers (others : σ → σ) : Keeps (Calm s₀) (letOthers others : MeshM σ Unit) :=
  fun _ calm => ⟨calm.clock, calm.entries⟩

theorem calm_seedPubkey : Continues (Calm s₀) (seedPubkey adverts sender) :=
  .seedPubkey fun _ => calm_onEntry fun _ => .inr rfl

theorem calm_getOrCreateSession : Keeps (Calm s₀) (getOrCreateSession host adverts sender) := by
  apply (Keeps.gets _).bind
  intro entry
  cases entry with
  | some entry => exact .ret _
  | none =>
      apply (calm_ask _).keeps.bind
      intro created
      cases created with
      | error e => exact .fail _
      | ok newId =>
          apply (calm_getOrInsert newId).keeps.bind
          intro _
          exact calm_seedPubkey.keeps.bind fun _ => .ret _

theorem timer_cleared (now : Instant) (entry : SessionEntry) :
    timer (entry.updateAwaitingReply none now) = (none, none) := rfl

theorem calm_expireWorkflow (session : SessionId) :
    Continues (Calm s₀) (expireWorkflow host cfg sender session) :=
  .expireWorkflow calm_host session fun clock =>
    calm_onEntry fun entry => .inl (timer_cleared clock entry)

theorem timer_dedup (timestamp : BitVec 32) (text : String) (awaitingReply : Bool) (now : Instant)
    (entry : SessionEntry) :
    timer (entry.dedup timestamp text awaitingReply now).2 = timer entry := by
  unfold SessionEntry.dedup SessionEntry.fallbackDedup SessionEntry.dedupMessage
    SessionEntry.dedupByTimestamp
  dsimp only
  split_ifs <;> rfl

theorem calm_deduplicate (timestamp : BitVec 32) (text : String) (awaitingReply : Bool) :
    Keeps (Calm s₀) (deduplicate sender timestamp text awaitingReply : MeshM σ Unit) := by
  apply (Keeps.gets _).bind
  intro clock
  apply (Keeps.gets _).bind
  intro entry
  have remembers : Continues (Calm s₀) (onEntry sender fun entry =>
      (entry.dedup timestamp text awaitingReply clock).2 : MeshM σ Unit) :=
    calm_onEntry fun entry => .inr (timer_dedup timestamp text awaitingReply clock entry)
  apply remembers.keeps.bind
  intro _
  split
  · exact .fail _
  · exact .ret _

theorem calm_rememberReply (text : String) (awaitingReply : Bool) :
    Continues (Calm s₀) (rememberReply sender text awaitingReply : MeshM σ Unit) :=
  .rememberReply text awaitingReply fun _ => calm_onEntry fun _ => .inr rfl

theorem calm_tending (meanwhile : Meanwhile σ) (fullPubkey : Option PublicKey) (done : Processed) :
    Keeps (Calm s₀) (tending host cfg meanwhile fullPubkey done) := by
  apply (calm_wait _).bind
  intro _
  apply (calm_letOthers _).bind
  intro _
  exact (Continues.keepCredential calm_host fullPubkey done).keeps

/-! A session that is new to a node has no prompt open. -/

def Fresh (sender : Sender) (s : Station SessionState σ) : Prop :=
  Quieter none (s.sessions sender)

theorem Fresh.calm (fresh : Fresh sender s₀) (calm : Calm s₀ s) : Fresh sender s := by
  intro entry found
  rcases calm.entries sender entry found with quiet | ⟨entry₀, found₀, same⟩
  · exact .inl quiet
  · rw [same]
    exact fresh entry₀ found₀

theorem fresh_calm {m : MeshM σ α} (calm : ∀ s₁, Keeps (Calm s₁) m) :
    Triple (fun s => Calm s₀ s ∧ Fresh sender s) m fun _ s => Calm s₀ s ∧ Fresh sender s :=
  fun s held => ⟨calm s₀ s held.1, held.2.calm (calm s s (.refl s))⟩

theorem fresh_of_new {session : SessionId}
    (opened : (getOrCreateSession host adverts sender s).1 = .ok (session, true)) :
    Fresh sender s := by
  unfold Fresh
  cases found : s.sessions sender with
  | none => exact .gone
  | some entry =>
      unfold getOrCreateSession at opened
      rw [bind_apply, entryOf, looking, gets_apply, found] at opened
      cases opened

theorem refresh_opens (fullPubkey : Option PublicKey) (text : String) (cmd : Command) :
    Triple (Calm s₀) (refresh host adverts cfg sender fullPubkey text cmd)
      fun _ s => Calm s₀ s ∧ Fresh sender s := by
  have removes : Triple (Calm s₀) (onSessions fun st => st.removeByPrefix sender : MeshM σ Unit)
      fun _ s => Calm s₀ s ∧ Fresh sender s := by
    refine fun s calm => ⟨calm_removeByPrefix.keeps s calm, ?_⟩
    intro entry found
    have gone : s.sessions.removeByPrefix sender sender = none := Function.update_self _ _ _
    exact absurd (gone.symm.trans found) nofun
  refine removes.bind (fun _ => fresh_calm fun s₁ => ?_) fun _ _ held => held
  apply (calm_ask _).keeps.bind
  intro created
  cases created with
  | error e => exact .fail _
  | ok fresh =>
      apply (calm_getOrInsert fresh).keeps.bind
      intro _
      apply calm_seedPubkey.keeps.bind
      intro _
      apply (Continues.restore calm_host fresh fullPubkey).keeps.bind
      intro _
      exact (calm_ask _).keeps.bind fun _ => .ret _

/-- The timers are left alone, and a session that was opened is the node's now. -/
abbrev Opens (sender : Sender) (s₀ : Station SessionState σ) (m : MeshM σ Processed) : Prop :=
  Ensures (Calm s₀) (Calm s₀) m fun done s => done.refreshed → Fresh sender s

theorem process_opens (session : SessionId) (fullPubkey : Option PublicKey) (text : String)
    (cmd : Command) :
    Opens sender s₀ (process host adverts cfg sender session fullPubkey text cmd) := by
  have stays (response : Response) :
      Opens sender s₀ (pure ⟨session, false, response⟩ : MeshM σ Processed) :=
    .ret fun s calm => ⟨calm, nofun⟩
  apply (Ensures.ofKeeps (calm_ask _).keeps).bind
  intro result
  split
  · exact fun s calm => ⟨(refresh_opens fullPubkey text cmd s calm).1,
      fun _ _ _ => (refresh_opens fullPubkey text cmd s calm).2⟩
  · exact stays _

theorem answering_opens (meanwhile : Meanwhile σ) (timestamp : BitVec 32) (text : String)
    (session : SessionId) (isNew : Bool) (fullPubkey : Option PublicKey) (awaitingReply : Bool) :
    Opens sender s₀ (answering host adverts cfg meanwhile sender timestamp text session isNew
      fullPubkey awaitingReply) := by
  have logsIn : Continues (Calm s₀) (autoLogin host cfg session isNew fullPubkey awaitingReply) :=
    .autoLogin calm_host session isNew fullPubkey awaitingReply
  apply (Ensures.ofKeeps logsIn.keeps).bind
  intro _
  apply (Ensures.ofKeeps (calm_wait _)).bind
  intro _
  apply (Ensures.ofKeeps (calm_deduplicate timestamp text awaitingReply)).bind
  intro _
  cases parseCommand text cfg.commandPrefix awaitingReply with
  | none => exact .fail fun _ calm => calm
  | some cmd =>
      apply (Ensures.ofKeeps (calm_rememberReply text awaitingReply).keeps).bind
      intro _
      exact process_opens session fullPubkey text cmd

end Stages

/-! ## The timer of a node against its history -/

/-- The timer runs from the progress last made, or from later. -/
structure Tracked (entry : Option SessionEntry) (p : Progress) (clock : Instant) : Prop where
  moved : ∀ moved, p.moved = some moved → moved ≤ clock
  known : p.last.isSome → p.moved.isSome
  since : ∀ e since, entry = some e → e.awaitingReplySince = some since →
    ∃ moved, p.moved = some moved ∧ moved ≤ since
  text : ∀ e text, entry = some e → e.lastPromptText = some text →
    ∃ place, p.last = some (text, place)

section Tracked
variable {before after : Option SessionEntry} {p : Progress} {clock now : Instant}

theorem timer_eq {entry : SessionEntry} {since : Option Instant} {text : Option String}
    (eq : timer entry = (since, text)) :
    entry.awaitingReplySince = since ∧ entry.lastPromptText = text := by
  simpa [timer] using eq

theorem Tracked.calm (tracked : Tracked before p clock) (quieter : Quieter before after)
    (later : clock ≤ now) : Tracked after p now where
  moved moved eq := (tracked.moved moved eq).trans later
  known := tracked.known
  since e since found running := by
    rcases quieter e found with quiet | ⟨e₀, found₀, same⟩
    · rw [(timer_eq quiet).1] at running
      cases running
    · exact tracked.since e₀ since found₀ ((timer_eq same).1 ▸ running)
  text e text found prompt := by
    rcases quieter e found with quiet | ⟨e₀, found₀, same⟩
    · rw [(timer_eq quiet).2] at prompt
      cases prompt
    · exact tracked.text e₀ text found₀ ((timer_eq same).2 ▸ prompt)

theorem Tracked.closes (tracked : Tracked after p clock) (quiet : Quieter none after) :
    Tracked after { p with last := none } clock where
  moved := tracked.moved
  known := nofun
  since := tracked.since
  text e text found prompt := by
    rcases quiet e found with quiet | ⟨e₀, impossible, -⟩
    · rw [(timer_eq quiet).2] at prompt
      cases prompt
    · cases impossible

/-- What the transport makes of an entry once the host has answered. -/
def answeredEntry (response : Response) (now : Instant) (entry : SessionEntry) : SessionEntry :=
  let entry := entry.updateAwaitingReply (promptText response) now
  if (promptText response).isSome then entry.clearLastMessage else entry

def answeredStation (sender : Sender) (response : Response) (s : Station SessionState σ) :
    Station SessionState σ :=
  { s with sessions := s.sessions.onEntry sender (answeredEntry response s.clock) }

theorem timer_prompted {response : Response} {text : String}
    (prompted : promptText response = some text) (now : Instant) (entry : SessionEntry) :
    timer (answeredEntry response now entry) =
      if entry.lastPromptText = some text then timer entry else (some now, some text) := by
  unfold answeredEntry SessionEntry.updateAwaitingReply
  rw [prompted]
  dsimp only
  split_ifs <;> rfl

theorem timer_unprompted {response : Response} (unprompted : promptText response = none)
    (now : Instant) (entry : SessionEntry) :
    timer (answeredEntry response now entry) = (none, none) := by
  unfold answeredEntry
  rw [unprompted]
  rfl

section Answered
variable {place : Place} {at_ : Instant} {response : Response} {text : String}

theorem Progress.after_prompt (prompted : promptText response = some text) :
    p.after (.answered at_ place response) =
      ⟨some (text, place), if p.last.map (·.2) = some place then p.moved else some at_⟩ := by
  simp only [Progress.after, prompted]

theorem Tracked.unprompted (tracked : Tracked before p clock) (later : clock ≤ now)
    (unprompted : promptText response = none) :
    Tracked (before.map (answeredEntry response now)) (p.after (.answered at_ place response))
      now := by
  have quiet (other : Option SessionEntry) :
      Quieter other (before.map (answeredEntry response now)) := by
    intro entry found
    obtain ⟨entry₀, -, rfl⟩ := Option.map_eq_some_iff.mp found
    exact .inl (timer_unprompted unprompted now entry₀)
  have closed : p.after (.answered at_ place response) = { p with last := none } := by
    simp only [Progress.after, unprompted]
  rw [closed]
  exact (tracked.calm (quiet before) later).closes (quiet none)

/-- The host last answered with a prompt that moved the node on now, or earlier. -/
theorem Tracked.moves (tracked : Tracked before p clock) (begun : at_ ≤ now) (later : clock ≤ now)
    (place : Place) : ∃ moved,
      (if p.last.map (·.2) = some place then p.moved else some at_) = some moved ∧
        moved ≤ now := by
  by_cases stays : p.last.map (·.2) = some place
  · rw [if_pos stays]
    have known : p.last.isSome := by
      rw [← Option.isSome_map, stays]
      rfl
    obtain ⟨moved, eq⟩ := Option.isSome_iff_exists.mp (tracked.known known)
    exact ⟨moved, eq, (tracked.moved moved eq).trans later⟩
  · rw [if_neg stays]
    exact ⟨at_, rfl, begun⟩

/-- The same text stands for the same place, so that the timer is right to run on. -/
theorem Tracked.prompted (tracked : Tracked before p clock) (begun : at_ ≤ now)
    (later : clock ≤ now) (prompted : promptText response = some text)
    (tells : ∀ last, p.last = some last → text = last.1 → last.2 = place) :
    Tracked (before.map (answeredEntry response now)) (p.after (.answered at_ place response))
      now := by
  obtain ⟨moved, moves, inTime⟩ := tracked.moves begun later place
  rw [Progress.after_prompt prompted]
  refine ⟨fun other eq => ?_, fun _ => ?_, fun entry since found running => ?_,
    fun entry other found prompt => ?_⟩
  · cases moves.symm.trans eq
    exact inTime
  · exact Option.isSome_iff_exists.mpr ⟨moved, moves⟩
  · obtain ⟨entry₀, found₀, rfl⟩ := Option.map_eq_some_iff.mp found
    have stamps := timer_prompted prompted now entry₀
    by_cases repeats : entry₀.lastPromptText = some text
    · rw [if_pos repeats] at stamps
      obtain ⟨place₀, last⟩ := tracked.text entry₀ text found₀ repeats
      obtain rfl : place₀ = place := tells (text, place₀) last rfl
      rw [if_pos (by rw [last]; rfl)]
      exact tracked.since entry₀ since found₀ ((timer_eq stamps).1 ▸ running)
    · rw [if_neg repeats] at stamps
      rw [(timer_eq stamps).1] at running
      cases running
      exact ⟨moved, moves, inTime⟩
  · obtain ⟨entry₀, -, rfl⟩ := Option.map_eq_some_iff.mp found
    have stamps := timer_prompted prompted now entry₀
    by_cases repeats : entry₀.lastPromptText = some text
    · rw [if_pos repeats] at stamps
      rw [(timer_eq stamps).2, repeats] at prompt
      cases prompt
      exact ⟨place, rfl⟩
    · rw [if_neg repeats] at stamps
      rw [(timer_eq stamps).2] at prompt
      cases prompt
      exact ⟨place, rfl⟩

theorem Tracked.answered (tracked : Tracked before p clock) (begun : at_ ≤ now)
    (later : clock ≤ now)
    (tells : ∀ last, p.last = some last → promptText response = some last.1 → last.2 = place) :
    Tracked (before.map (answeredEntry response now)) (p.after (.answered at_ place response))
      now := by
  cases prompted : promptText response with
  | none => exact tracked.unprompted later prompted
  | some text =>
      refine tracked.prompted begun later prompted fun last eq same => ?_
      exact tells last eq (prompted.trans (congrArg some same))

end Answered

end Tracked

end SupplyDrop.Proof.IdleTimeout
