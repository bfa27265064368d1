import Mathlib
import SupplyDrop.Library.Run
import SupplyDrop.Mesh.KeyOps

namespace SupplyDrop.Proof.KeySlots
open Library Mesh.KeyOps Mesh.KeyOps.KeyLink
open Mesh (Instant)

variable {l l' : KeyLink} {op : PendingKeyOp} {id : RequestId}

def holder (l : KeyLink) : Option RequestId := l.pendingKeyOp.map (·.reply)

def replies (id : RequestId) (l : KeyLink) : Nat := l.delivered.countP fun d => d.request = id

/-- One slot at most is taken, each with its start time, and every request but the one that holds the
key-operation slot has had its reply. -/
structure Slots (l : KeyLink) : Prop where
  apart : l.pendingKeyOp = none ∨ l.pendingAutoadd = none
  keySince : l.pendingKeyOpSince.isSome = l.pendingKeyOp.isSome
  autoaddSince : l.pendingAutoaddSince.isSome = l.pendingAutoadd.isSome
  made : ∀ id, holder l = some id → id < l.requests.length
  replied : ∀ id < l.requests.length, replies id l = if holder l = some id then 0 else 1
  unknown : ∀ id, l.requests.length ≤ id → replies id l = 0

theorem slots_initial : Slots initial := by
  constructor <;> simp [initial, holder, replies]

theorem Slots.send (slots : Slots l) (frame : OutboundFrame) (owner : Option RequestId) :
    Slots (l.send frame owner) := ⟨slots.apart, slots.keySince, slots.autoaddSince, slots.made,
  slots.replied, slots.unknown⟩

theorem replies_deliver (l : KeyLink) (request id : RequestId) (verdict : Verdict)
    (answered : Option Sent) :
    replies id (l.deliver request verdict answered) =
      replies id l + if request = id then 1 else 0 := by
  simp [replies, deliver, List.countP_append, List.countP_singleton]

theorem Slots.clearAutoadd (slots : Slots l) : Slots l.clearAutoadd :=
  ⟨.inr rfl, slots.keySince, rfl, slots.made, slots.replied, slots.unknown⟩

theorem Slots.settle (slots : Slots l) (pending : l.pendingKeyOp = some op) (verdict : Verdict)
    (answered : Option Sent) : Slots (l.settle op verdict answered) := by
  have held : holder l = some op.reply := by rw [holder, pending]; rfl
  have free : holder (l.settle op verdict answered) = none := rfl
  have counted (id : RequestId) : replies id (l.settle op verdict answered) =
      replies id l + if op.reply = id then 1 else 0 := replies_deliver _ _ _ _ _
  refine ⟨.inl rfl, rfl, slots.autoaddSince, by simp [free], fun id known => ?_, fun id unknown => ?_⟩
  · have before := slots.replied id known
    rw [held] at before
    rw [counted, before, free]
    by_cases same : op.reply = id <;> simp [same]
  · have made := slots.made op.reply held
    have other : op.reply ≠ id := by
      rintro rfl
      exact absurd made (not_lt.mpr unknown)
    rw [counted, slots.unknown id unknown, if_neg other]

theorem Slots.begin (slots : Slots l) (idle : l.busy = false) (req : MeshKeyRequest)
    (own : op.reply = l.requests.length) (frame : OutboundFrame) (now : Instant) :
    Slots (({ l with requests := l.requests ++ [req] } : KeyLink).begin op frame now) := by
  simp only [busy, Bool.or_eq_false_iff, Option.isSome_eq_false_iff, Option.isNone_iff_eq_none] at idle
  have free : holder l = none := by rw [holder, idle.1]; rfl
  have length : (l.requests ++ [req]).length = l.requests.length + 1 := by simp
  refine ⟨.inr idle.2, rfl, slots.autoaddSince, fun id held => ?_, fun id known => ?_,
    fun id unknown => ?_⟩
  · cases held
    show op.reply < (l.requests ++ [req]).length
    rw [own, length]
    exact Nat.lt_succ_self _
  · have known : id < (l.requests ++ [req]).length := known
    rw [length] at known
    show replies id l = if some op.reply = some id then 0 else 1
    rw [own]
    rcases Nat.lt_succ_iff_lt_or_eq.mp known with old | rfl
    · have apart : l.requests.length ≠ id := (Nat.ne_of_lt old).symm
      rw [slots.replied id old, free]
      simp [apart]
    · rw [slots.unknown _ (le_refl _)]
      simp
  · have unknown : (l.requests ++ [req]).length ≤ id := unknown
    rw [length] at unknown
    exact slots.unknown id (Nat.le_of_succ_le unknown)

theorem Slots.refuse (slots : Slots l) (req : MeshKeyRequest) :
    Slots (({ l with requests := l.requests ++ [req] } : KeyLink).deliver l.requests.length .busy
      none) := by
  have counted (id : RequestId) : replies id (({ l with requests := l.requests ++ [req] } :
      KeyLink).deliver l.requests.length .busy none) =
        replies id l + if l.requests.length = id then 1 else 0 := replies_deliver _ _ _ _ _
  have length : (l.requests ++ [req]).length = l.requests.length + 1 := by simp
  refine ⟨slots.apart, slots.keySince, slots.autoaddSince, fun id held => ?_, fun id known => ?_,
    fun id unknown => ?_⟩
  · show id < (l.requests ++ [req]).length
    rw [length]
    exact Nat.lt_succ_of_lt (slots.made id held)
  · have known : id < (l.requests ++ [req]).length := known
    rw [length] at known
    rw [counted]
    show _ = if holder l = some id then 0 else 1
    rcases Nat.lt_succ_iff_lt_or_eq.mp known with old | rfl
    · have apart : l.requests.length ≠ id := (Nat.ne_of_lt old).symm
      rw [slots.replied id old, if_neg apart, Nat.add_zero]
    · have other : holder l ≠ some l.requests.length := fun held =>
        absurd (slots.made _ held) (lt_irrefl _)
      rw [slots.unknown _ (le_refl _), if_pos rfl, if_neg other]
  · have unknown : (l.requests ++ [req]).length ≤ id := unknown
    rw [length] at unknown
    have apart : l.requests.length ≠ id := Nat.ne_of_lt unknown
    rw [counted, slots.unknown id (Nat.le_of_succ_le unknown), if_neg apart]

theorem Slots.request (slots : Slots l) (req : MeshKeyRequest) (now : Instant) :
    Slots (l.request req now) := by
  unfold KeyLink.request
  dsimp only
  split
  · exact slots.refuse req
  · next idle =>
    have free : l.busy = false := (Bool.not_eq_true _).mp idle
    cases req with
    | exportKey => exact slots.begin free _ rfl _ now
    | importKey key => exact slots.begin free _ rfl _ now
    | applyRadio params => exact slots.begin free _ rfl _ now

theorem Slots.probe (slots : Slots l) (now : Instant) : Slots (l.tryStartAutoaddProbe now) := by
  unfold tryStartAutoaddProbe
  split
  · exact slots
  · next idle =>
    have idle : l.busy = false := (Bool.not_eq_true _).mp idle
    simp only [busy, Bool.or_eq_false_iff, Option.isSome_eq_false_iff,
      Option.isNone_iff_eq_none] at idle
    exact ⟨.inl idle.1, slots.keySince, rfl, slots.made, slots.replied, slots.unknown⟩

theorem Slots.autoaddConfig (slots : Slots l) (config : BitVec 8) (now : Instant) :
    Slots (l.autoaddConfig config now) := by
  unfold KeyLink.autoaddConfig
  split
  · exact slots
  split
  · split
    · exact slots.clearAutoadd
    · next idle =>
      have idle : l.pendingKeyOp = none := by simpa using idle
      exact ⟨.inl idle, slots.keySince, rfl, slots.made, slots.replied, slots.unknown⟩
  · exact slots.clearAutoadd

theorem Slots.autoaddOk (slots : Slots l) : Slots l.autoaddOk := by
  unfold KeyLink.autoaddOk
  split
  · exact slots.clearAutoadd
  · exact slots

/-- The first half of a radio change keeps the slot, and its start time. -/
theorem Slots.advance {reply : RequestId} {txPowerDbm : Int} (slots : Slots l)
    (pending : l.pendingKeyOp = some (.applyRadio reply true txPowerDbm)) :
    Slots { l.send (.setRadioTxPower txPowerDbm) (some reply) with
      pendingKeyOp := some (.applyRadio reply false txPowerDbm) } := by
  have held : holder l = some reply := by rw [holder, pending]; rfl
  have since := slots.keySince
  have apart := slots.apart
  rw [pending] at since apart
  refine ⟨.inr (apart.resolve_left nofun), since, slots.autoaddSince, fun id same => ?_,
    fun id known => ?_, slots.unknown⟩
  · exact slots.made id (held.trans same)
  · have replied := slots.replied id known
    rwa [held] at replied

theorem Slots.handleFrame (slots : Slots l) (answered : Sent) (now : Instant)
    (frame : InboundFrame) : Slots (l.handleFrame answered now frame) := by
  cases frame with
  | privateKey key =>
      simp only [KeyLink.handleFrame]
      split
      · next pending => exact slots.settle pending _ _
      · exact slots
  | ok =>
      simp only [KeyLink.handleFrame]
      split
      · next pending => exact slots.settle pending _ _
      · next pending => exact slots.advance pending
      · next pending => exact slots.settle pending _ _
      · exact slots.autoaddOk
      · exact slots.autoaddOk
  | err errorCode =>
      simp only [KeyLink.handleFrame]
      split
      · next pending => exact slots.settle pending _ _
      · exact slots.clearAutoadd
  | autoaddConfig config => exact slots.autoaddConfig config now
  | data => exact slots

theorem Slots.handleEvent (slots : Slots l) (now : Instant) (event : ClientEvent) :
    Slots (l.handleEvent now event) := by
  cases event with
  | frame answered frame => exact slots.handleFrame answered now frame
  | connected => exact ((slots.send _ _).send _ _).probe now
  | disconnected =>
      simp only [KeyLink.handleEvent]
      split
      · next pending => exact (slots.settle pending _ _).clearAutoadd
      · exact slots.clearAutoadd

theorem Slots.expireKeyOp (slots : Slots l) (now : Instant) : Slots (l.expireKeyOp now) := by
  unfold KeyLink.expireKeyOp
  split
  · split
    · next pending => exact slots.settle pending _ _
    · exact slots
  · exact slots

theorem Slots.expireAutoadd (slots : Slots l) (now : Instant) : Slots (l.expireAutoadd now) := by
  unfold KeyLink.expireAutoadd
  split
  · exact slots.clearAutoadd
  · exact slots

theorem Slots.take (slots : Slots l) (taken : Taken) : Slots (l.take taken) := by
  cases taken with
  | request req now => exact slots.request req now
  | event event now => exact slots.handleEvent now event
  | retryTick now => exact (slots.expireAutoadd now).expireKeyOp now

/-! ## How long a request waits -/

/-- No request that was made before comes to the slot again, nor gets a later start time. -/
structure Waits (l l' : KeyLink) : Prop where
  made : l.requests.length ≤ l'.requests.length
  since : ∀ id < l.requests.length, holder l' = some id →
    holder l = some id ∧ l'.pendingKeyOpSince = l.pendingKeyOpSince

theorem Waits.refl (l : KeyLink) : Waits l l := ⟨le_refl _, fun _ _ held => ⟨held, rfl⟩⟩

theorem Waits.trans {l'' : KeyLink} (first : Waits l l') (second : Waits l' l'') : Waits l l'' := by
  refine ⟨first.made.trans second.made, fun id known held => ?_⟩
  obtain ⟨held', since'⟩ := second.since id (known.trans_le first.made) held
  obtain ⟨held, since⟩ := first.since id known held'
  exact ⟨held, since'.trans since⟩

theorem Waits.of_free (free : holder l' = none) (made : l'.requests = l.requests) : Waits l l' :=
  ⟨made ▸ le_refl _, by simp [free]⟩

theorem waits_clearAutoadd (l : KeyLink) : Waits l l.clearAutoadd :=
  ⟨le_refl _, fun _ _ held => ⟨held, rfl⟩⟩

theorem waits_request (l : KeyLink) (req : MeshKeyRequest) (now : Instant) :
    Waits l (l.request req now) := by
  have begun (op : PendingKeyOp) (own : op.reply = l.requests.length) (frame : OutboundFrame) :
      Waits l (({ l with requests := l.requests ++ [req] } : KeyLink).begin op frame now) := by
    refine ⟨by simp [KeyLink.begin, KeyLink.send], fun id known held => ?_⟩
    have same : op.reply = id := Option.some.inj held
    exact absurd known (by rw [← same, own]; exact lt_irrefl _)
  unfold KeyLink.request
  dsimp only
  split
  · exact ⟨by simp [deliver], fun _ _ held => ⟨held, rfl⟩⟩
  · cases req with
    | exportKey => exact begun _ rfl _
    | importKey key => exact begun _ rfl _
    | applyRadio params => exact begun _ rfl _

theorem waits_autoaddConfig (l : KeyLink) (config : BitVec 8) (now : Instant) :
    Waits l (l.autoaddConfig config now) := by
  unfold KeyLink.autoaddConfig
  split
  · exact .refl l
  split
  · split
    · exact waits_clearAutoadd l
    · exact ⟨le_refl _, fun _ _ held => ⟨held, rfl⟩⟩
  · exact waits_clearAutoadd l

theorem waits_handleFrame (l : KeyLink) (answered : Sent) (now : Instant) (frame : InboundFrame) :
    Waits l (l.handleFrame answered now frame) := by
  have settled (op : PendingKeyOp) (verdict : Verdict) : Waits l (l.settle op verdict answered) :=
    .of_free rfl rfl
  have ok : Waits l l.autoaddOk := by
    unfold KeyLink.autoaddOk
    split
    · exact waits_clearAutoadd l
    · exact .refl l
  cases frame with
  | privateKey key =>
      simp only [KeyLink.handleFrame]
      split
      · exact settled _ _
      · exact .refl l
  | ok =>
      simp only [KeyLink.handleFrame]
      split
      · exact settled _ _
      · next pending =>
        refine ⟨le_refl _, fun id _ held => ⟨?_, rfl⟩⟩
        rw [holder, pending]
        exact held
      · exact settled _ _
      · exact ok
      · exact ok
  | err errorCode =>
      simp only [KeyLink.handleFrame]
      split
      · exact settled _ _
      · exact waits_clearAutoadd l
  | autoaddConfig config => exact waits_autoaddConfig l config now
  | data => exact .refl l

theorem disconnected_free (l : KeyLink) (now : Instant) :
    holder (l.handleEvent now .disconnected) = none := by
  simp only [KeyLink.handleEvent]
  split
  · rfl
  · next idle =>
    show holder l = none
    rw [holder, idle]
    rfl

theorem disconnected_requests (l : KeyLink) (now : Instant) :
    (l.handleEvent now .disconnected).requests = l.requests := by
  simp only [KeyLink.handleEvent]
  split <;> rfl

theorem waits_handleEvent (l : KeyLink) (now : Instant) (event : ClientEvent) :
    Waits l (l.handleEvent now event) := by
  cases event with
  | frame answered frame => exact waits_handleFrame l answered now frame
  | connected =>
      simp only [KeyLink.handleEvent, tryStartAutoaddProbe]
      split
      · exact ⟨le_refl _, fun _ _ held => ⟨held, rfl⟩⟩
      · exact ⟨le_refl _, fun _ _ held => ⟨held, rfl⟩⟩
  | disconnected => exact .of_free (disconnected_free l now) (disconnected_requests l now)

theorem waits_retryTick (l : KeyLink) (now : Instant) : Waits l (l.retryTick now) := by
  have autoadd : Waits l (l.expireAutoadd now) := by
    unfold KeyLink.expireAutoadd
    split
    · exact waits_clearAutoadd l
    · exact .refl l
  apply autoadd.trans
  unfold retryTick KeyLink.expireKeyOp
  split
  · split
    · exact .of_free rfl rfl
    · exact .refl _
  · exact .refl _

theorem waits_take (l : KeyLink) (taken : Taken) : Waits l (l.take taken) := by
  cases taken with
  | request req now => exact waits_request l req now
  | event event now => exact waits_handleEvent l now event
  | retryTick now => exact waits_retryTick l now

/-- A tick that finds an operation overdue gives it up. -/
theorem retryTick_free {since now : Instant} (started : l.pendingKeyOpSince = some since)
    (late : since + pendingKeyOpTimeout ≤ now) :
    holder (l.retryTick now) = none := by
  have kept : (l.expireAutoadd now).pendingKeyOpSince = some since ∧
      (l.expireAutoadd now).pendingKeyOp = l.pendingKeyOp := by
    unfold KeyLink.expireAutoadd
    split <;> exact ⟨started, rfl⟩
  have overdue : overdue (l.expireAutoadd now).pendingKeyOpSince pendingKeyOpTimeout now := by
    rw [kept.1]
    exact decide_eq_true (Nat.le_sub_of_add_le' late)
  unfold KeyLink.retryTick KeyLink.expireKeyOp
  rw [if_pos overdue]
  split
  · rfl
  · next idle =>
    rw [holder, idle]
    rfl

/-! ## Every sequence of events -/

def Step (taken : Taken) (l l' : KeyLink) : Prop := l' = l.take taken

theorem slots_reached {l₀ : KeyLink} (slots : Slots l₀)
    (run : Reaches Step (fun _ _ => True) l₀ l) : Slots l := by
  apply run.invariant (I := Slots) slots
  rintro taken l _ slots - rfl
  exact slots.take taken

theorem waits_reached {l₀ : KeyLink} (run : Reaches Step (fun _ _ => True) l₀ l) : Waits l₀ l := by
  apply run.invariant (I := Waits l₀) (.refl l₀)
  rintro taken l _ waits - rfl
  exact waits.trans (waits_take l taken)

/-- Whatever the device sends: the slots exclude each other, a slot has a start time as long as it is
taken, every request but the one in the slot has had one reply, and that one gets it with the next
disconnect or with a tick that comes when it is overdue, at the latest. -/
theorem answered_once (run : Reaches Step (fun _ _ => True) initial l) :
    (l.pendingKeyOp = none ∨ l.pendingAutoadd = none) ∧
    (l.pendingKeyOpSince.isSome ↔ l.pendingKeyOp.isSome) ∧
    (l.pendingAutoaddSince.isSome ↔ l.pendingAutoadd.isSome) ∧
    (∀ id < l.requests.length, replies id l = if holder l = some id then 0 else 1) ∧
    ∀ req now, l.busy = false → ∀ l', Reaches Step (fun _ _ => True) (l.request req now) l' →
      ∀ later, replies l.requests.length (l'.handleEvent later .disconnected) = 1 ∧
        (now + pendingKeyOpTimeout ≤ later →
          replies l.requests.length (l'.retryTick later) = 1) := by
  have slots := slots_reached slots_initial run
  refine ⟨slots.apart, by rw [slots.keySince], by rw [slots.autoaddSince], slots.replied, ?_⟩
  intro req now idle l' further later
  have slots' := slots_reached (slots.request req now) further
  have waits := waits_reached further
  have begun : (l.request req now).requests.length = l.requests.length + 1 ∧
      (l.request req now).pendingKeyOpSince = some now := by
    unfold KeyLink.request
    have free : ({ l with requests := l.requests ++ [req] } : KeyLink).busy = false := idle
    dsimp only
    rw [free]
    cases req <;> simp [KeyLink.begin, KeyLink.send]
  have known : l.requests.length < (l.request req now).requests.length := by
    rw [begun.1]
    exact Nat.lt_succ_self _
  have answered (l'' : KeyLink) (slots'' : Slots l'')
      (made : l'.requests.length ≤ l''.requests.length)
      (gone : holder l'' ≠ some l.requests.length) : replies l.requests.length l'' = 1 := by
    rw [slots''.replied _ (known.trans_le (waits.made.trans made)), if_neg gone]
  constructor
  · apply answered _ (slots'.handleEvent later .disconnected) (waits_handleEvent l' _ _).made
    rw [disconnected_free]
    exact nofun
  · intro late
    have ticked := waits_retryTick l' later
    apply answered _ (slots'.take (.retryTick later)) ticked.made
    intro still
    have held := (ticked.since _ (known.trans_le waits.made) still).1
    have started := (waits.since _ known held).2.trans begun.2
    have free : holder (l'.retryTick later) = none := retryTick_free started late
    rw [show l'.take (.retryTick later) = l'.retryTick later from rfl, free] at still
    cases still

/-- A key is exported while the radio is asked for its auto-add settings, and again when it has given
them. -/
def exports : List Taken :=
  [.event .connected 0, .request .exportKey 1, .event (.frame ⟨.getAutoaddConfig, none⟩
    (.autoaddConfig 3)) 2, .request .exportKey 3, .event .disconnected 4]

theorem answered_once_exports : replies 0 (exports.foldl take initial) = 1 ∧
    replies 1 (exports.foldl take initial) = 1 := by
  have run := Reaches.follow_free take exports initial
  have replied := (answered_once run).2.2.2.1
  have free : holder (exports.foldl take initial) = none := by decide
  have made : (exports.foldl take initial).requests.length = 2 := by decide
  rw [made, free] at replied
  exact ⟨replied 0 (by decide), replied 1 (by decide)⟩

end SupplyDrop.Proof.KeySlots
