import Mathlib
import SupplyDrop.Library.Run
import SupplyDrop.Transport.Meshtastic
import SupplyDrop.Proof.MeshStages

namespace SupplyDrop.Proof.TextDedup
open Library Library.Program Store Host Transport Transport.Meshtastic

/-! ## The transport over time -/

/-- A text packet that came in, and what became of it. -/
structure Arrival where
  node : NodeNum
  packetId : BitVec 32
  text : String
  outcome : Except Exit Processed

/-- The transport, the host behind it and all packets so far. -/
structure Mesh (σ : Type) where
  station : Station SessionState σ
  arrivals : List Arrival

inductive Label (σ : Type) where
  | receive (node : NodeNum) (packetId : BitVec 32) (text : String) (meanwhile : Meanwhile σ)
  -- whatever else the host is asked to do, and the time that takes
  | others (act : σ → σ) (time : Nat)

variable {σ : Type}

def Mesh.initial (host : σ) : Mesh σ := ⟨⟨0, fun _ => none, host⟩, []⟩

def Mesh.next (host : HostApi σ) (cfg : Config) (m : Mesh σ) : Label σ → Mesh σ
  | .receive node packetId text meanwhile =>
      let ran := dispatchMessage host cfg meanwhile node text m.station
      ⟨ran.2, m.arrivals ++ [⟨node, packetId, text, ran.1⟩]⟩
  | .others act time =>
      { m with station := { m.station with
          host := act m.station.host, clock := m.station.clock + time } }

def Arrival.dropped (a : Arrival) : Prop := a.outcome = .error .duplicate

/-- The packet got past the filter. -/
def Arrival.taken (a : Arrival) : Prop :=
  a.outcome ≠ .error .duplicate ∧ a.outcome ≠ .error .noSession

def Arrival.samePacket (a b : Arrival) : Prop := a.node = b.node ∧ a.packetId = b.packetId

/-- A packet is dropped only if it was taken before. -/
def DropsOnlyRepeats (arrivals : List Arrival) : Prop :=
  ∀ before b after, arrivals = before ++ b :: after → b.dropped →
    ∃ a ∈ before, a.samePacket b ∧ a.taken

/-! ## One packet -/

section Dispatch
variable {host : HostApi σ} {cfg : Config} {node : NodeNum} {text : String}
  {s s' : Station SessionState σ}

/-- The last message of the node had this text less than ten seconds ago, or its last reply to a
prompt had, when no prompt waits for one. -/
def remembers (sessions : SessionState) (node : NodeNum) (text : String) (now : Instant) : Bool :=
  (sessions node).any fun entry => entry.isRecentMessage text now ||
    (!entry.awaitingReply && entry.isRecentWorkflowReply text now)

theorem dedup_fst (entry : SessionEntry) (text : String) (now : Instant) :
    (entry.dedup text entry.awaitingReply now).1 = (entry.isRecentMessage text now ||
      (!entry.awaitingReply && entry.isRecentWorkflowReply text now)) := by
  unfold SessionEntry.dedup SessionEntry.dedupMessage
  cases recent : entry.isRecentMessage text now <;> rfl

/-- A program that gives up for another reason, if it does. -/
def Takes {β : Type} (m : NodeM σ β) : Prop := ∀ s, (m s).1 ≠ .error .duplicate

namespace Takes
variable {β γ : Type}

theorem ret (a : β) : Takes (pure a : NodeM σ β) := fun _ => nofun

theorem fail {e : Exit} (other : e ≠ .duplicate) : Takes (Program.fail e : NodeM σ β) := by
  intro s impossible
  cases impossible
  exact other rfl

theorem ask (m : Program σ HostError β) : Takes (Transport.ask m : NodeM σ _) := fun _ => nofun

theorem onSessions (f : SessionState → SessionState) :
    Takes (Transport.onSessions f : NodeM σ Unit) := fun _ => nofun

theorem bind {m : NodeM σ β} {f : β → NodeM σ γ} (first : Takes m) (rest : ∀ a, Takes (f a)) :
    Takes (m >>= f) := by
  intro s
  rw [bind_apply]
  rcases ran : m s with ⟨r, s'⟩
  cases r with
  | ok a => exact rest a s'
  | error e =>
      have other := first s
      rw [ran] at other
      intro impossible
      cases impossible
      exact other rfl

end Takes

theorem takes_restore (session : SessionId) : Takes (restore host cfg session node) := by
  unfold restore
  split
  · exact (Takes.ask _).bind fun _ => .ret _
  · exact .ret _

theorem takes_refresh (cmd : Command) : Takes (refresh host cfg node cmd) := by
  apply (Takes.onSessions _).bind
  intro _
  apply (Takes.ask _).bind
  intro created
  cases created with
  | error e => exact .fail (by decide)
  | ok fresh =>
      apply (Takes.onSessions _).bind
      intro _
      apply (takes_restore fresh).bind
      intro _
      exact (Takes.ask _).bind fun _ => .ret _

theorem takes_process (session : SessionId) (cmd : Command) :
    Takes (process host cfg node session cmd) := by
  apply (Takes.ask _).bind
  intro result
  split
  · exact takes_refresh cmd
  · exact .ret _

theorem takes_keepCredential (session : SessionId) (response : Response) :
    Takes (keepCredential host cfg node session response) := by
  unfold keepCredential
  split
  · split
    · exact (Takes.ask _).bind fun _ => .ret _
    · exact (Takes.ask _).bind fun _ => .ret _
    · exact .ret _
  · exact .ret _

theorem takes_leave (response : Response) : Takes (leave host node response) := by
  unfold leave
  split
  · have looks : Takes (entryOf node : NodeM σ _) := fun _ => nofun
    apply looks.bind
    intro entry
    apply (Takes.onSessions _).bind
    intro _
    cases entry with
    | none => exact .ret _
    | some entry => exact (Takes.ask _).bind fun _ => .ret _
  · exact .ret _

theorem takes_handle (meanwhile : Meanwhile σ) (session : SessionId) (awaitingReply : Bool) :
    Takes (handle host cfg meanwhile node session text awaitingReply) := by
  unfold handle
  cases parseCommand text cfg.commandPrefix awaitingReply with
  | none => exact .fail (by decide)
  | some cmd =>
      have remembered : Takes (rememberReply node text awaitingReply : NodeM σ Unit) := by
        cases awaitingReply <;> exact fun _ => nofun
      apply remembered.bind
      intro _
      apply (takes_process session cmd).bind
      rintro ⟨active, response⟩
      have waits : Takes (wait meanwhile.beforeReply : NodeM σ Unit) := fun _ => nofun
      apply waits.bind
      intro _
      have lets : Takes (letOthers meanwhile.others : NodeM σ Unit) := fun _ => nofun
      apply lets.bind
      intro _
      apply (takes_keepCredential session response).bind
      intro _
      apply (Takes.onSessions _).bind
      intro _
      exact (takes_leave response).bind fun _ => .ret _

/-- The node's memory is what it was. -/
structure Alike (node : NodeNum) (s₀ s : Station SessionState σ) : Prop where
  clock : s.clock = s₀.clock
  memory : ∀ text now, remembers s.sessions node text now = remembers s₀.sessions node text now

variable {s₀ : Station SessionState σ}

theorem getOrCreateSession_alike (host : HostApi σ) (node : NodeNum) (s₀ : Station SessionState σ) :
    Triple (· = s₀) (getOrCreateSession host node) fun r s =>
      (r = .error .noSession ∧ s₀.sessions node = none) ∨
        (∃ opened, r = .ok opened) ∧ Alike node s₀ s := by
  rintro s rfl
  unfold getOrCreateSession
  rw [bind_apply, entryOf, looking, gets_apply]
  cases found : s.sessions node with
  | some entry => exact .inr ⟨⟨_, rfl⟩, rfl, fun _ _ => rfl⟩
  | none =>
      dsimp only
      rw [bind_apply, ask, attempt_apply, zoom_apply]
      dsimp only
      cases (host.createSession "meshtastic" s.host).1 with
      | error e => exact .inl ⟨rfl, rfl⟩
      | ok newId =>
          refine .inr ⟨⟨_, rfl⟩, rfl, fun text now => ?_⟩
          -- a new entry remembers nothing
          simp [onSessions, bind_apply, modify_apply, remembers, SessionState.getOrInsert, found,
            SessionEntry.opened, SessionEntry.isRecentMessage, SessionEntry.isRecentWorkflowReply]

theorem alike_autoLogin (host : HostApi σ) (cfg : Config) (session : SessionId) (isNew : Bool) :
    Continues (Alike node s₀) (autoLogin host cfg session isNew node) := by
  unfold autoLogin
  split
  · unfold restore
    split
    · apply Continues.bind
      · exact .ask _ fun _ _ alike => ⟨alike.clock, alike.memory⟩
      · exact fun _ => .ret _
    · exact .ret _
  · exact .ret _

theorem deduplicate_spots (node : NodeNum) (text : String) (awaitingReply : Bool)
    (s : Station SessionState σ) :
    (deduplicate node text awaitingReply s).1 =
      if (s.sessions node).any fun entry => (entry.dedup text awaitingReply s.clock).1 then
        .error .duplicate
      else .ok () := by
  unfold deduplicate
  rw [bind_apply, looking, gets_apply]
  dsimp only
  rw [bind_apply, entryOf, looking, gets_apply]
  dsimp only
  rw [bind_apply, onEntry, onSessions, modify_apply]
  dsimp only
  split <;> rfl

/-- What happens to a message once the node has a session. -/
def filtered (host : HostApi σ) (cfg : Config) (meanwhile : Meanwhile σ) (node : NodeNum)
    (session : SessionId) (text : String) : NodeM σ Processed := do
  wait meanwhile.beforeDedup
  let entry ← entryOf node
  deduplicate node text (entry.any (·.awaitingReply))
  handle host cfg meanwhile node session text (entry.any (·.awaitingReply))

theorem filtered_drops (meanwhile : Meanwhile σ) (session : SessionId)
    (s : Station SessionState σ) :
    (filtered host cfg meanwhile node session text s).1 = .error .duplicate ↔
      remembers s.sessions node text (s.clock + meanwhile.beforeDedup) = true := by
  unfold filtered
  rw [bind_apply, wait, modify_apply]
  dsimp only
  rw [bind_apply, entryOf, looking, gets_apply]
  dsimp only
  have memory : ((s.sessions node).any fun entry =>
      (entry.dedup text ((s.sessions node).any (·.awaitingReply))
        (s.clock + meanwhile.beforeDedup)).1) =
        remembers s.sessions node text (s.clock + meanwhile.beforeDedup) := by
    cases found : s.sessions node with
    | none => simp [remembers, found]
    | some entry => simp [remembers, found, dedup_fst]
  have spots := deduplicate_spots node text ((s.sessions node).any (·.awaitingReply))
    { s with clock := s.clock + meanwhile.beforeDedup }
  dsimp only at spots
  rw [memory] at spots
  rcases ran : deduplicate node text ((s.sessions node).any (·.awaitingReply))
    { s with clock := s.clock + meanwhile.beforeDedup } with ⟨r, s'⟩
  rw [ran] at spots
  split at spots
  · next remembered =>
    cases spots
    rw [bind_error ran]
    exact iff_of_true rfl remembered
  · next forgotten =>
    cases spots
    rw [bind_ok ran]
    exact iff_of_false (takes_handle meanwhile session _ s') forgotten

/-- A message is dropped just if the node's entry remembers it. -/
theorem dropped_iff (host : HostApi σ) (cfg : Config) (node : NodeNum) (text : String)
    (meanwhile : Meanwhile σ) (s : Station SessionState σ) :
    (dispatchMessage host cfg meanwhile node text s).1 = .error .duplicate ↔
      remembers s.sessions node text (s.clock + meanwhile.beforeDedup) = true := by
  have opens := getOrCreateSession_alike host node s s rfl
  unfold dispatchMessage
  rcases ran : getOrCreateSession host node s with ⟨r, s'⟩
  rw [ran] at opens
  rcases opens with ⟨failed, absent⟩ | ⟨⟨⟨session, isNew⟩, opened⟩, alike⟩
  · cases failed
    rw [bind_error ran]
    simp [remembers, absent]
  · cases opened
    rw [bind_ok ran]
    dsimp only
    have logsIn := alike_autoLogin host cfg session isNew s' alike
    rcases tried : autoLogin host cfg session isNew node s' with ⟨r, s''⟩
    rw [tried] at logsIn
    obtain ⟨⟨_, rfl⟩, alike⟩ := logsIn
    rw [bind_ok tried, ← alike.memory, ← alike.clock]
    exact filtered_drops meanwhile session s''

end Dispatch

/-! ## Whole runs -/

/-- The packet was taken before, or the node's entry does not remember its text. -/
def Allowed (label : Label σ) (m : Mesh σ) : Prop :=
  match label with
  | .receive node packetId text meanwhile =>
      (∃ a ∈ m.arrivals, a.node = node ∧ a.packetId = packetId ∧ a.taken) ∨
        remembers m.station.sessions node text (m.station.clock + meanwhile.beforeDedup) = false
  | .others _ _ => True

theorem dropsOnlyRepeats_grow {arrivals : List Arrival} {b : Arrival} :
    DropsOnlyRepeats (arrivals ++ [b]) ↔
      DropsOnlyRepeats arrivals ∧ (b.dropped → ∃ a ∈ arrivals, a.samePacket b ∧ a.taken) := by
  constructor
  · intro repeats
    refine ⟨fun before c after split => ?_, repeats arrivals b [] rfl⟩
    apply repeats before c (after ++ [b])
    simp [split]
  · rintro ⟨repeats, last⟩ before c after split dropped
    rcases split_last split with ⟨rfl, rfl, -⟩ | ⟨after, -, split⟩
    · exact last dropped
    · exact repeats before c after split dropped

theorem next_drops (host : HostApi σ) (cfg : Config) (m : Mesh σ) (label : Label σ) :
    DropsOnlyRepeats (m.next host cfg label).arrivals ↔
      DropsOnlyRepeats m.arrivals ∧ Allowed label m := by
  cases label with
  | others act time => simp [Mesh.next, Allowed]
  | receive node packetId text meanwhile =>
      have drops := dropped_iff host cfg node text meanwhile m.station
      rw [Mesh.next, dropsOnlyRepeats_grow]
      apply and_congr_right
      intro _
      rw [Arrival.dropped, drops, Allowed, ← Bool.not_eq_true, or_comm, imp_iff_not_or]
      simp [Arrival.samePacket, and_assoc]

/-- Whatever the host answers, packets are dropped that were not taken before just if one of them
comes while the node's entry remembers its text. -/
theorem drops_only_repeats (host : HostApi σ) (cfg : Config) (start : σ) (labels : List (Label σ)) :
    DropsOnlyRepeats (labels.foldl (Mesh.next host cfg) (.initial start)).arrivals ↔
      Reaches.Follows (Mesh.next host cfg) Allowed labels (.initial start) := by
  have grows (m : Mesh σ) : DropsOnlyRepeats (labels.foldl (Mesh.next host cfg) m).arrivals ↔
      DropsOnlyRepeats m.arrivals ∧ Reaches.Follows (Mesh.next host cfg) Allowed labels m := by
    induction labels generalizing m with
    | nil => simp [Reaches.Follows]
    | cons label rest ih =>
        rw [List.foldl_cons, ih, next_drops, and_assoc]
        rfl
  rw [grows]
  apply and_iff_right
  intro before b after split
  simp [Mesh.initial] at split

/-- Registering, a node sends its password and the same line again to confirm it. -/
def confirmingPassword : List (Label BbsHost) :=
  [.receive 7 1 "register alice" ⟨0, 0, id⟩, .receive 7 2 "password" ⟨0, 0, id⟩,
    .receive 7 3 "password" ⟨0, 0, id⟩]

def afterwards (labels : List (Label BbsHost)) : Mesh BbsHost :=
  labels.foldl (Mesh.next bbsHost ⟨none, 0⟩) (.initial (.fresh .fresh))

def Arrival.gist (a : Arrival) : NodeNum × BitVec 32 × Bool :=
  (a.node, a.packetId, match a.outcome with
    | .error .duplicate => true
    | _ => false)

theorem confirmation_dropped : ¬ DropsOnlyRepeats (afterwards confirmingPassword).arrivals := by
  have gists : (afterwards confirmingPassword).arrivals.map Arrival.gist =
      [(7, 1, false), (7, 2, false), (7, 3, true)] := by decide +kernel
  simp only [List.map_eq_cons_iff, List.map_eq_nil_iff] at gists
  obtain ⟨x, _, all, first, y, _, rfl, second, b, _, rfl, third, rfl⟩ := gists
  simp only [Arrival.gist, Prod.mk.injEq] at first second third
  intro repeats
  have dropped : b.dropped := by
    have spotted := third.2.2
    unfold Arrival.dropped
    split at spotted
    · assumption
    · cases spotted
  obtain ⟨a, mem, ⟨-, same⟩, -⟩ := repeats [x, y] b [] all dropped
  rw [third.2.1] at same
  rcases List.mem_cons.mp mem with rfl | mem
  · rw [first.2.1] at same
    cases same
  · rw [List.mem_singleton.mp mem, second.2.1] at same
    cases same

end SupplyDrop.Proof.TextDedup
