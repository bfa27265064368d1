import Mathlib
import SupplyDrop.Library.Run
import SupplyDrop.Mesh.AdminLink

namespace SupplyDrop.Proof.AdminCallers
open Library Mesh.Admin Mesh.Admin.AdminLink
open Transport.Meshtastic (NodeNum)

variable {l l' : AdminLink} {ids : List RequestId}

/-! ## Who waits where -/

/-- The places in which the sender of a reply is kept. -/
def held (l : AdminLink) : List RequestId :=
  l.adminChannel ++ (l.pendingAdmin.map (·.reply)).toList ++ l.deferredWrites.filterMap (·.write.reply)

/-- Every caller has been told once, or has its reply to come from one place, `ids` among them, and a
caller that gave up has been told so. -/
def Owes (ids : List RequestId) (l : AdminLink) : Prop :=
  ∀ id, l.tells id + (if l.isOpen id then (held l).count id + ids.count id else 0) =
    if id < l.requests.length then 1 else 0

theorem owes_initial : Owes [] initial := by
  intro id
  simp [initial, tells, isOpen, held]

theorem Owes.of_same (owes : Owes ids l) (told : l'.told = l.told) (requests : l'.requests = l.requests)
    {ids' : List RequestId} (perm : (held l' ++ ids').Perm (held l ++ ids)) : Owes ids' l' := by
  intro id
  have counted : (held l').count id + ids'.count id = (held l).count id + ids.count id := by
    simpa [List.count_append] using perm.count_eq id
  have tells : l'.tells id = l.tells id := by simp only [AdminLink.tells, told]
  have listens : l'.isOpen id = l.isOpen id := by simp only [isOpen, told]
  rw [tells, listens, requests, counted]
  exact owes id

/-- The senders and the callers are as they were. -/
structure Untouched (l l' : AdminLink) : Prop where
  told : l'.told = l.told
  requests : l'.requests = l.requests
  adminChannel : l'.adminChannel = l.adminChannel
  pendingAdmin : l'.pendingAdmin = l.pendingAdmin
  deferredWrites : l'.deferredWrites = l.deferredWrites

theorem Owes.untouched (owes : Owes ids l) (same : Untouched l l') : Owes ids l' := by
  apply owes.of_same same.told same.requests
  rw [held, held, same.adminChannel, same.pendingAdmin, same.deferredWrites]

theorem isOpen_append (l : AdminLink) (d : Delivery) (later : d.outcome ≠ .timedOut) (id : RequestId) :
    ({ l with told := l.told ++ [d] } : AdminLink).isOpen id = l.isOpen id := by
  simp [isOpen, later]

theorem tells_append (l : AdminLink) (d : Delivery) (id : RequestId) :
    ({ l with told := l.told ++ [d] } : AdminLink).tells id =
      l.tells id + if d.request = id then 1 else 0 := by
  simp [tells, List.countP_append, List.countP_singleton]

/-- A reply that is sent is owed no longer, whether its caller still listens or not. -/
theorem Owes.tell {id : RequestId} (owes : Owes (id :: ids) l) {outcome : Outcome}
    (later : outcome ≠ .timedOut) (answered : Option Data) : Owes ids (l.tell id outcome answered) := by
  intro other
  have before := owes other
  unfold AdminLink.tell
  split
  · next listens =>
    rw [isOpen_append l _ later, tells_append]
    show _ + (if l.isOpen other then (held l).count other + ids.count other else 0) =
      if other < l.requests.length then 1 else 0
    by_cases same : id = other
    · subst same
      rw [if_pos listens, List.count_cons_self] at before
      rw [if_pos listens, if_pos rfl, ← before]
      omega
    · rw [List.count_cons_of_ne same] at before
      rw [if_neg same]
      exact before
  · next gone =>
    by_cases same : id = other
    · subst same
      rw [if_neg gone] at before
      rw [if_neg gone]
      exact before
    · rw [List.count_cons_of_ne same] at before
      exact before

theorem Owes.tellAny {reply : Option RequestId} (owes : Owes (reply.toList ++ ids) l)
    {outcome : Outcome} (later : outcome ≠ .timedOut) : Owes ids (l.tellAny reply outcome) := by
  cases reply with
  | some id => exact Owes.tell owes later none
  | none => exact owes

theorem Owes.timeout {id : RequestId} (owes : Owes [] l) (made : id < l.requests.length)
    (waits : l.tells id = 0) : Owes [] { l with told := l.told ++ [⟨id, .timedOut, none⟩] } := by
  intro other
  have before := owes other
  rw [tells_append]
  by_cases same : id = other
  · subst same
    have gone : ({ l with told := l.told ++ [⟨id, .timedOut, none⟩] } : AdminLink).isOpen id = false := by
      simp [isOpen]
    rw [gone, if_pos rfl, waits, if_pos (show id < l.requests.length from made)]
    rfl
  · have kept : ({ l with told := l.told ++ [⟨id, .timedOut, none⟩] } : AdminLink).isOpen other =
        l.isOpen other := by
      simp [isOpen, same]
    rw [kept, if_neg same]
    exact before

/-! ## One turn of the loop -/

theorem untouched_send (l : AdminLink) (frame : ToRadio) : Untouched l (l.send frame) := by
  constructor <;> rfl

theorem untouched_requestSessionKey (l : AdminLink) (node : NodeNum) (clock : BitVec 32)
    (now : Mesh.Instant) : Untouched l (l.requestSessionKey node clock now) := by
  unfold AdminLink.requestSessionKey
  split
  · constructor <;> rfl
  · split <;> constructor <;> rfl

theorem Owes.queueWrite {write : DeferredWrite} (owes : Owes (write.reply.toList ++ ids) l) :
    Owes ids (l.queueWrite write) := by
  apply owes.of_same (by rfl) (by rfl)
  have last : held (l.queueWrite write) = held l ++ write.reply.toList := by
    cases reply : write.reply <;> simp [held, AdminLink.queueWrite, reply]
  rw [last, List.append_assoc]

theorem Owes.silentWrite {write : DeferredWrite} (owes : Owes ids l) (silent : write.reply = none) :
    Owes ids (l.queueWrite write) := by
  apply Owes.queueWrite
  rw [silent]
  exact owes

theorem Owes.free (owes : Owes ids l) : Owes (l.deferredWrites.filterMap (·.write.reply) ++ ids)
    { l with deferredWrites := [] } := by
  apply owes.of_same (by rfl) (by rfl)
  simp [held]

theorem untouched_flushed (t : Turn) (node : NodeNum) (passkey : Passkey) (l : AdminLink)
    (d : Deferred) : Untouched l (if l.hasRoom then
      l.send (.adminWrite node (randomPacketId (t.clock d.serial)) d passkey) else l) := by
  split <;> constructor <;> rfl

/-- A write without a caller is put back by the retry. -/
theorem Owes.requeue {d : Deferred} (owes : Owes ids l) (silent : d.write.reply = none) :
    Owes ids { l with deferredWrites := l.deferredWrites ++ [d] } := by
  apply owes.of_same (by rfl) (by rfl)
  simp [held, silent]

theorem Owes.flushWrite {t : Turn} {node : NodeNum} {passkey : Passkey} {d : Deferred}
    (owes : Owes (d.write.reply.toList ++ ids) l) : Owes ids (AdminLink.flushWrite t node passkey l d) := by
  have sent (frame : ToRadio) : Untouched l (l.send frame) := untouched_send l frame
  have flushed := untouched_flushed t node passkey l d
  unfold AdminLink.flushWrite
  cases write : d.write with
  | lora config reply =>
      rw [write] at owes
      exact Owes.tellAny (owes.untouched (sent _)) (by simp)
  | owner user reply =>
      rw [write] at owes
      exact Owes.tellAny (owes.untouched (sent _)) (by simp)
  | reboot secs reply =>
      rw [write] at owes
      exact Owes.tellAny (owes.untouched (sent _)) (by simp)
  | device config =>
      rw [write] at owes
      exact Owes.untouched owes flushed
  | time =>
      rw [write] at owes
      exact Owes.untouched owes flushed
  | setFixedPosition lat lon =>
      rw [write] at owes
      have owes : Owes ids l := owes
      dsimp only
      split
      · exact owes.untouched (sent _)
      · exact owes.requeue (by rw [write]; rfl)
  | removeFixedPosition =>
      rw [write] at owes
      have owes : Owes ids l := owes
      dsimp only
      split
      · exact owes.untouched (sent _)
      · exact owes.requeue (by rw [write]; rfl)
  | setFavoriteNode nodeNum generation =>
      rw [write] at owes
      have owes : Owes ids l := owes
      dsimp only
      split
      · exact owes.untouched (sent _)
      · exact owes.untouched ⟨rfl, rfl, rfl, rfl, rfl⟩
  | removeFavoriteNode nodeNum =>
      rw [write] at owes
      have owes : Owes ids l := owes
      dsimp only
      split
      · exact owes
      · exact owes.untouched flushed

theorem Owes.foldl {f : AdminLink → Deferred → AdminLink} {ds : List Deferred}
    (one : ∀ (l : AdminLink) (d : Deferred) (ids : List RequestId), Owes (d.write.reply.toList ++ ids) l →
      Owes ids (f l d))
    (owes : Owes (ds.filterMap (·.write.reply) ++ ids) l) : Owes ids (ds.foldl f l) := by
  induction ds generalizing l with
  | nil => exact owes
  | cons d rest ih =>
      apply ih
      apply one
      cases reply : d.write.reply with
      | none => simpa [reply] using owes
      | some id => simpa [reply] using owes

theorem Owes.flush (owes : Owes ids l) (t : Turn) : Owes ids (l.flush t) := by
  unfold AdminLink.flush
  split
  · exact owes
  · split
    · apply Owes.untouched (l := l.flushDeferredWrites t _ _) _ ⟨rfl, rfl, rfl, rfl, rfl⟩
      exact Owes.foldl (fun _ _ _ => Owes.flushWrite) owes.free
    · exact owes

theorem Owes.discardWrite {d : Deferred} (owes : Owes (d.write.reply.toList ++ ids) l) :
    Owes ids (l.discardWrite d) := by
  unfold AdminLink.discardWrite
  split
  · next write =>
    rw [write] at owes
    have owes : Owes ids l := owes
    exact owes.untouched ⟨rfl, rfl, rfl, rfl, rfl⟩
  · exact owes.tellAny (by simp)

theorem Owes.discard (owes : Owes ids l) : Owes ids l.discardDeferredWritesOnDisconnect :=
  Owes.foldl (fun _ _ _ => Owes.discardWrite) owes.free

theorem Owes.giveUp {op : PendingAdmin} (owes : Owes ids l) (pending : l.pendingAdmin = some op) :
    Owes (op.reply :: ids) { l with pendingAdmin := none } := by
  apply owes.of_same (by rfl) (by rfl)
  apply List.perm_iff_count.mpr
  intro id
  simp only [held, pending, Option.map_none, Option.map_some, Option.toList, List.count_append,
    List.count_cons, List.count_nil]
  omega

theorem Owes.failPending (owes : Owes ids l) : Owes ids l.failPending := by
  unfold AdminLink.failPending
  split
  · next op pending =>
    exact (owes.giveUp pending).tell (by simp) none
  · exact owes

theorem Owes.cancelAll {waiting : List RequestId} (owes : Owes (waiting ++ ids) l) :
    Owes ids (waiting.foldl (fun l id => l.tell id .cancelled none) l) := by
  induction waiting generalizing l with
  | nil => exact owes
  | cons id rest ih => exact ih (Owes.tell owes (by simp) none)

theorem Owes.stop (owes : Owes [] l) : Owes [] l.stop := by
  have waiting : Owes (held l ++ [])
      { l with running := false, adminChannel := [], pendingAdmin := none, deferredWrites := [] } := by
    apply owes.of_same (by rfl) (by rfl)
    simp [held]
  exact waiting.cancelAll

/-- Nothing is owed to a caller that has given up. -/
theorem Owes.abandon {op : PendingAdmin} (owes : Owes ids l) (pending : l.pendingAdmin = some op)
    (gone : l.isOpen op.reply ≠ true) : Owes ids { l with pendingAdmin := none } := by
  intro id
  have before := owes.giveUp pending id
  by_cases same : op.reply = id
  · have closed : ¬({ l with pendingAdmin := none } : AdminLink).isOpen id = true := same ▸ gone
    rw [if_neg closed] at before ⊢
    exact before
  · rw [List.count_cons_of_ne same] at before
    exact before

theorem Owes.reap (owes : Owes ids l) (now : Mesh.Instant) : Owes ids (l.reap now) := by
  have given : Owes ids l.reapPending := by
    unfold AdminLink.reapPending
    split
    · next op pending =>
      split
      · exact owes
      · next gone => exact owes.abandon pending gone
    · exact owes
  unfold AdminLink.reap AdminLink.reapSessionKey
  split
  · exact given.untouched ⟨rfl, rfl, rfl, rfl, rfl⟩
  · exact given

/-! ## Frames -/

theorem Owes.requestSessionKey (owes : Owes ids l) (node : NodeNum) (clock : BitVec 32)
    (now : Mesh.Instant) : Owes ids (l.requestSessionKey node clock now) :=
  owes.untouched (untouched_requestSessionKey l node clock now)

theorem Owes.enqueueAutoApply (owes : Owes ids l) (config : AutoApplyConfig) :
    Owes ids (l.enqueueAutoApply config) := by
  have device : Owes ids l.enqueueDevice := by
    unfold AdminLink.enqueueDevice
    split
    · split
      · exact owes.silentWrite rfl
      · exact owes
    · exact owes
  have radio : Owes ids (l.enqueueDevice.enqueueRadio config) := by
    unfold AdminLink.enqueueRadio
    split
    · split
      · exact device
      · exact device.silentWrite rfl
    · exact device
  unfold AdminLink.enqueueAutoApply AdminLink.enqueueOwner
  split
  · dsimp only
    split
    · exact radio
    · exact radio.silentWrite rfl
  · exact radio

theorem Owes.place (owes : Owes ids l) (t : Turn) : Owes ids (match t.position with
    | some (lat, lon) => l.queueWrite (.setFixedPosition lat lon)
    | none => l.queueWrite .removeFixedPosition) := by
  split
  · exact owes.silentWrite rfl
  · exact owes.silentWrite rfl

theorem Owes.autoApply (owes : Owes ids l) (t : Turn) (frame : FromRadio) :
    Owes ids (l.autoApply t frame) := by
  unfold AdminLink.autoApply
  split
  · next node due =>
    have clock : Owes ids (l.queueWrite .time) := owes.silentWrite rfl
    have applied := ((clock.place t).enqueueAutoApply t.config).requestSessionKey node (t.clock 0) t.now
    exact applied.untouched ⟨rfl, rfl, rfl, rfl, rfl⟩
  · exact owes

theorem Owes.harvest (owes : Owes ids l) (frame : FromRadio) : Owes ids (l.harvest frame) := by
  unfold AdminLink.harvest
  split
  · exact owes.untouched ⟨rfl, rfl, rfl, rfl, rfl⟩
  · exact owes

theorem outcome_replies (get : Get) (payload : Except String AdminMessage) :
    get.outcome payload ≠ .timedOut := by
  cases payload with
  | error e => cases get <;> simp [Get.outcome]
  | ok msg =>
      cases get
      all_goals
        simp only [Get.outcome]
        split <;> simp

theorem answers_pending {data : Data} {op : PendingAdmin} (match' : l.answers data = some op) :
    l.pendingAdmin = some op :=
  (Option.filter_eq_some_iff.mp match').1

theorem untouched_captureKey (l : AdminLink) (payload : Except String AdminMessage) :
    Untouched l (l.captureKey payload) := by
  unfold captureKey
  split
  · split <;> constructor <;> rfl
  · constructor <;> rfl

theorem Owes.answer (owes : Owes ids l) (frame : FromRadio) :
    Owes ids (l.tryHandleAdminResponse frame).2 := by
  unfold AdminLink.tryHandleAdminResponse
  split
  · next data _ =>
    split
    · next op answered =>
      have captured := untouched_captureKey l data.payload
      have pending := captured.pendingAdmin.trans (answers_pending answered)
      exact ((owes.untouched captured).giveUp pending).tell (outcome_replies _ _) _
    · exact owes
  · exact owes

theorem Owes.protectNodes (owes : Owes ids l) (t : Turn) : Owes ids (l.protectNodes t) := by
  unfold AdminLink.protectNodes
  induction t.favourites generalizing l with
  | nil => exact owes
  | cons favourite rest ih =>
      apply ih
      unfold protectNode
      split
      · exact (owes.silentWrite rfl).requestSessionKey _ _ _
      · exact owes

theorem Owes.handleFromRadio (owes : Owes ids l) (t : Turn) (frame : FromRadio) :
    Owes ids (l.handleFromRadio t frame) := by
  unfold AdminLink.handleFromRadio
  split
  · exact owes.untouched ⟨rfl, rfl, rfl, rfl, rfl⟩
  · apply Owes.protectNodes
    split
    · exact owes.untouched ⟨rfl, rfl, rfl, rfl, rfl⟩
    · exact owes
  · exact owes.untouched ⟨rfl, rfl, rfl, rfl, rfl⟩
  · exact owes.untouched ⟨rfl, rfl, rfl, rfl, rfl⟩
  · exact owes.untouched ⟨rfl, rfl, rfl, rfl, rfl⟩
  · exact owes
  · split
    · exact owes
    · exact owes.protectNodes t
  · exact owes
  · exact owes

theorem Owes.processFrame (owes : Owes ids l) (t : Turn) (frame : FromRadio) :
    Owes ids (l.processFrame t frame) := by
  have flushed := ((owes.autoApply t frame).harvest frame).flush t
  have answered := flushed.answer frame
  unfold AdminLink.processFrame
  dsimp only
  split
  · next consumed =>
    rw [consumed] at answered
    exact answered
  · next passed =>
    rw [passed] at answered
    exact answered.handleFromRadio t frame

theorem Owes.handleEvent (owes : Owes [] l) (t : Turn) (event : ClientEvent) :
    Owes [] (l.handleEvent t event) := by
  cases event with
  | connected => exact owes.untouched ⟨rfl, rfl, rfl, rfl, rfl⟩
  | fromRadio frame => exact owes.processFrame t frame
  | disconnected willRetry =>
      have closed : Owes [] { l.failPending.discardDeferredWritesOnDisconnect with
          sessionRequested := false, sessionRequestedAt := none, lastSessionPasskey := [],
          autoApplied := false } :=
        owes.failPending.discard.untouched ⟨rfl, rfl, rfl, rfl, rfl⟩
      cases willRetry with
      | true => exact closed
      | false => exact closed.stop

/-! ## Requests -/

theorem Owes.deferWrite {write : DeferredWrite} (owes : Owes (write.reply.toList ++ ids) l) (t : Turn)
    (node : NodeNum) : Owes ids (l.deferWrite t node write) :=
  owes.queueWrite.requestSessionKey _ _ _

theorem Owes.startGet {id : RequestId} (owes : Owes (id :: ids) l) (idle : l.pendingAdmin = none)
    (t : Turn) (node : NodeNum) (get : Get) : Owes ids (l.startGet t node id get) := by
  apply owes.of_same (by rfl) (by rfl)
  apply List.perm_iff_count.mpr
  intro other
  simp only [held, AdminLink.startGet, AdminLink.send, idle, Option.map_none, Option.map_some,
    Option.toList, List.count_append, List.count_cons, List.count_nil]
  omega

theorem Owes.takeRequest {id : RequestId} (owes : Owes (id :: ids) l) (t : Turn)
    (req : MeshtasticAdminRequest) : Owes ids (l.takeRequest t id req) := by
  unfold AdminLink.takeRequest
  split
  · next node _ =>
    cases req with
    | get get =>
        unfold handleRequest
        dsimp only
        split
        · exact owes.tell (by simp) none
        · next idle => exact owes.startGet (by simpa using idle) t node get
    | getSnapshot => exact owes.tell (by simp) none
    | setLoRaConfig config => exact Owes.deferWrite owes t node
    | setOwner longName shortName => exact Owes.deferWrite owes t node
    | reboot seconds => exact Owes.deferWrite owes t node
    | removeFavoriteNode nodeNum =>
        have queued : Owes (id :: ids) (l.deferWrite t node (.removeFavoriteNode nodeNum)) :=
          Owes.deferWrite owes t node
        exact queued.tell (by simp) none
  · unfold rejectNoNum
    split
    · exact owes.tell (by simp) none
    · exact owes.tell (by simp) none

theorem open_of_untold {id : RequestId} (untold : l.tells id = 0) : l.isOpen id = true := by
  simp only [tells, List.countP_eq_zero, decide_eq_true_eq] at untold
  simp only [isOpen, List.all_eq_true, decide_eq_true_eq]
  exact fun d told gone => untold d told gone.1

theorem Owes.call (owes : Owes [] l) (req : MeshtasticAdminRequest) : Owes [] (l.call req) := by
  intro id
  have before := owes id
  have waits : (held (l.call req)).count id =
      (held l).count id + if l.requests.length = id then 1 else 0 := by
    simp only [held, AdminLink.call, List.count_append, List.count_cons, List.count_nil, beq_iff_eq]
    omega
  rw [waits]
  show l.tells id + (if l.isOpen id then (held l).count id + (if l.requests.length = id then 1 else 0) +
    ([] : List RequestId).count id else 0) = if id < (l.requests ++ [req]).length then 1 else 0
  have length : (l.requests ++ [req]).length = l.requests.length + 1 := by simp
  rw [length]
  by_cases same : l.requests.length = id
  · subst same
    rw [if_neg (Nat.lt_irrefl _)] at before
    have untold : l.tells l.requests.length = 0 := by omega
    rw [if_pos (open_of_untold untold)] at before ⊢
    simp only [if_pos, Nat.lt_succ_self]
    omega
  · have bound : id < l.requests.length + 1 ↔ id < l.requests.length :=
      ⟨fun made => Nat.lt_of_le_of_ne (Nat.le_of_lt_succ made) (Ne.symm same), Nat.lt_succ_of_lt⟩
    simp only [if_neg same, bound]
    exact before

theorem Owes.take {id : RequestId} {rest : List RequestId} (owes : Owes [] l)
    (first : l.adminChannel = id :: rest) : Owes [id] { l with adminChannel := rest } := by
  apply owes.of_same (by rfl) (by rfl)
  apply List.perm_iff_count.mpr
  intro other
  simp only [held, first, List.count_append, List.count_cons, List.count_nil]
  omega

theorem Owes.step {label : Label} (owes : Owes [] l) (next : Steps label l l') : Owes [] l' := by
  cases label with
  | call req =>
      simp only [Steps, AdminLink.step] at next
      split at next
      · cases next
        exact owes.call req
      · cases next
  | take t =>
      simp only [Steps, AdminLink.step] at next
      split at next
      · next id rest running first =>
        obtain ⟨req, _, rfl⟩ := Option.map_eq_some_iff.mp next
        exact (owes.take first).takeRequest t req
      · cases next
  | timeout id =>
      simp only [Steps, AdminLink.step] at next
      split at next
      · next waits =>
        cases next
        exact owes.timeout waits.1 waits.2
      · cases next
  | reap now =>
      simp only [Steps, AdminLink.step] at next
      split at next
      · cases next
        exact owes.reap now
      · cases next
  | other =>
      cases next
      exact owes.untouched (untouched_send l _)
  | write =>
      simp only [Steps, AdminLink.step] at next
      split at next
      · split at next
        · cases next
          exact owes.untouched ⟨rfl, rfl, rfl, rfl, rfl⟩
        · cases next
      · cases next
  | writeError =>
      simp only [Steps, AdminLink.step] at next
      split at next
      · split at next
        · cases next
          exact owes.untouched ⟨rfl, rfl, rfl, rfl, rfl⟩
        · cases next
      · cases next
  | receive frame =>
      simp only [Steps, AdminLink.step] at next
      split at next
      · cases next
        exact owes.untouched ⟨rfl, rfl, rfl, rfl, rfl⟩
      · cases next
  | process t =>
      simp only [Steps, AdminLink.step] at next
      split at next
      · next event rest running first =>
        cases next
        have behind : Owes [] { l with events := rest } := owes.untouched ⟨rfl, rfl, rfl, rfl, rfl⟩
        exact behind.handleEvent t event
      · cases next
  | disconnect =>
      cases next
      exact owes.untouched ⟨rfl, rfl, rfl, rfl, rfl⟩
  | reconnect node =>
      simp only [Steps, AdminLink.step] at next
      split at next
      · cases next
      · cases next
        exact owes.untouched ⟨rfl, rfl, rfl, rfl, rfl⟩
  | shutdown =>
      simp only [Steps, AdminLink.step] at next
      split at next
      · cases next
        exact owes.stop
      · cases next

theorem owes_reached {allowed : Label → AdminLink → Prop} (run : Reaches Steps allowed initial l) :
    Owes [] l :=
  run.invariant owes_initial fun _ _ _ owes _ next => owes.step next

theorem told_of_free {id : RequestId} (owes : Owes [] l) (made : id < l.requests.length)
    (free : id ∉ held l) : l.tells id = 1 := by
  have balance := owes id
  rw [if_pos made, List.count_eq_zero.mpr free, List.count_nil] at balance
  split at balance <;> exact balance

end SupplyDrop.Proof.AdminCallers
