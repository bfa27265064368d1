import Mathlib
import SupplyDrop.Proof.AdminCallers

namespace SupplyDrop.Proof.AdminReads
open Library Mesh.Admin Mesh.Admin.AdminLink Proof.AdminCallers
open Transport.Meshtastic (NodeNum)

variable {l l' l'' : AdminLink}

/-! ## What a reply rests on -/

/-- The settings of the radio, as one of its responses gives them. -/
def isData : Outcome → Bool
  | .lora _ => true
  | .owner _ => true
  | .security _ => true
  | _ => false

def isSnapshot : Outcome → Bool
  | .snapshot _ => true
  | _ => false

/-- The reply says what the response to the request's own packet says. -/
def FromResponse (l : AdminLink) (d : Delivery) : Prop :=
  ∃ get data rid, l.requests[d.request]? = some (.get get) ∧ d.answered = some data ∧
    (d.request, rid) ∈ l.reads ∧ (data.requestId = rid ∨ data.replyId = rid) ∧
      get.outcome data.payload = d.outcome

def waitingWrites (l : AdminLink) : List RequestId := l.deferredWrites.filterMap (·.write.reply)

def isRead : MeshtasticAdminRequest → Bool
  | .get _ => true
  | .getSnapshot => true
  | _ => false

structure Sourced (l : AdminLink) : Prop where
  pending : ∀ op, l.pendingAdmin = some op →
    (op.reply, op.requestId) ∈ l.reads ∧ l.requests[op.reply]? = some (.get op.get)
  data : ∀ d ∈ l.told, isData d.outcome → FromResponse l d
  snapshots : ∀ d ∈ l.told, isSnapshot d.outcome → l.requests[d.request]? = some .getSnapshot
  once : (l.reads.map Prod.fst).Nodup
  channel : l.adminChannel.Nodup
  fresh : ∀ id ∈ l.adminChannel, id < l.requests.length ∧ id ∉ l.reads.map Prod.fst
  made : ∀ id ∈ l.reads.map Prod.fst, id < l.requests.length
  writes : ∀ id ∈ waitingWrites l, ∃ req, l.requests[id]? = some req ∧ isRead req = false

theorem sourced_initial : Sourced initial := by
  constructor <;> simp [initial, waitingWrites]

/-- No request comes to a new place. -/
structure Places (l l' : AdminLink) : Prop where
  requests : l'.requests = l.requests
  reads : l'.reads = l.reads
  adminChannel : l'.adminChannel.Sublist l.adminChannel
  writes : waitingWrites l' ⊆ waitingWrites l

/-- Nor is any caller told of settings. -/
structure Quiet (l l' : AdminLink) : Prop extends Places l l' where
  pending : l'.pendingAdmin = l.pendingAdmin ∨ l'.pendingAdmin = none
  told : ∀ d ∈ l'.told, d ∈ l.told ∨ isData d.outcome = false ∧ isSnapshot d.outcome = false

theorem Quiet.refl (l : AdminLink) : Quiet l l :=
  ⟨⟨rfl, rfl, List.Sublist.refl _, List.Subset.refl _⟩, .inl rfl, fun _ told => .inl told⟩

theorem Places.trans (first : Places l l') (second : Places l' l'') : Places l l'' :=
  ⟨second.requests.trans first.requests, second.reads.trans first.reads,
    second.adminChannel.trans first.adminChannel, List.Subset.trans second.writes first.writes⟩

theorem Quiet.trans (first : Quiet l l') (second : Quiet l' l'') : Quiet l l'' := by
  refine ⟨first.toPlaces.trans second.toPlaces, ?_, fun d told => ?_⟩
  · rcases second.pending with same | idle
    · rw [same]
      exact first.pending
    · exact .inr idle
  · rcases second.told d told with before | plain
    · exact first.told d before
    · exact .inr plain

theorem FromResponse.places {d : Delivery} (source : FromResponse l d) (requests : l'.requests = l.requests)
    (reads : l.reads ⊆ l'.reads) : FromResponse l' d := by
  obtain ⟨get, data, rid, request, answered, own, hit, told⟩ := source
  exact ⟨get, data, rid, requests ▸ request, answered, reads own, hit, told⟩

theorem Sourced.quiet (sourced : Sourced l) (quiet : Quiet l l') : Sourced l' where
  pending := by
    intro op pending
    rw [quiet.reads, quiet.requests]
    rcases quiet.pending with same | idle
    · exact sourced.pending op (same ▸ pending)
    · rw [idle] at pending
      cases pending
  data := by
    intro d told data
    rcases quiet.told d told with before | plain
    · exact (sourced.data d before data).places quiet.requests (quiet.reads ▸ List.Subset.refl _)
    · rw [plain.1] at data
      cases data
  snapshots := by
    intro d told snapshot
    rcases quiet.told d told with before | plain
    · exact quiet.requests ▸ sourced.snapshots d before snapshot
    · rw [plain.2] at snapshot
      cases snapshot
  once := quiet.reads ▸ sourced.once
  channel := sourced.channel.sublist quiet.adminChannel
  fresh := by
    intro id waits
    rw [quiet.reads, quiet.requests]
    exact sourced.fresh id (quiet.adminChannel.subset waits)
  made := by
    rw [quiet.reads, quiet.requests]
    exact sourced.made
  writes := by
    intro id waits
    rw [quiet.requests]
    exact sourced.writes id (quiet.writes waits)

/-! ## Most of a turn is quiet -/

/-- The parts of the state a quiet step may change freely. -/
theorem quiet_of_same (requests : l'.requests = l.requests) (reads : l'.reads = l.reads)
    (adminChannel : l'.adminChannel = l.adminChannel) (writes : waitingWrites l' = waitingWrites l)
    (pending : l'.pendingAdmin = l.pendingAdmin) (told : l'.told = l.told) : Quiet l l' :=
  ⟨⟨requests, reads, adminChannel ▸ List.Sublist.refl _, writes ▸ List.Subset.refl _⟩, .inl pending,
    fun _ heard => .inl (told ▸ heard)⟩

theorem quiet_tell {outcome : Outcome} (data : isData outcome = false)
    (snapshot : isSnapshot outcome = false) (id : RequestId) (answered : Option Data) :
    Quiet l (l.tell id outcome answered) := by
  unfold AdminLink.tell
  split
  · refine ⟨⟨rfl, rfl, List.Sublist.refl _, List.Subset.refl _⟩, .inl rfl, fun d told => ?_⟩
    rcases List.mem_append.mp told with before | last
    · exact .inl before
    · cases List.mem_singleton.mp last
      exact .inr ⟨data, snapshot⟩
  · exact .refl l

theorem quiet_tellAny {outcome : Outcome} (data : isData outcome = false)
    (snapshot : isSnapshot outcome = false) (reply : Option RequestId) :
    Quiet l (l.tellAny reply outcome) := by
  cases reply with
  | some id => exact quiet_tell data snapshot id none
  | none => exact .refl l

theorem quiet_send (frame : ToRadio) : Quiet l (l.send frame) := quiet_of_same rfl rfl rfl rfl rfl rfl

theorem quiet_requestSessionKey (node : NodeNum) (clock : BitVec 32) (now : Mesh.Instant) :
    Quiet l (l.requestSessionKey node clock now) := by
  unfold requestSessionKey
  split
  · exact .refl l
  · split
    · exact quiet_of_same rfl rfl rfl rfl rfl rfl
    · exact .refl l

theorem quiet_queueWrite {write : DeferredWrite} (silent : write.reply = none) :
    Quiet l (l.queueWrite write) := by
  apply quiet_of_same (by rfl) (by rfl) (by rfl) _ (by rfl) (by rfl)
  simp [waitingWrites, queueWrite, silent]

theorem quiet_requeue {d : Deferred} (silent : d.write.reply = none) :
    Quiet l { l with deferredWrites := l.deferredWrites ++ [d] } := by
  apply quiet_of_same (by rfl) (by rfl) (by rfl) _ (by rfl) (by rfl)
  simp [waitingWrites, silent]

theorem quiet_drain : Quiet l { l with deferredWrites := [] } :=
  ⟨⟨rfl, rfl, List.Sublist.refl _, List.nil_subset _⟩, .inl rfl, fun _ told => .inl told⟩

theorem quiet_trySend (frame : ToRadio) : Quiet l (if l.hasRoom then l.send frame else l) := by
  split
  · exact quiet_send frame
  · exact .refl l

theorem quiet_flushWrite (t : Turn) (node : NodeNum) (passkey : Passkey) (l : AdminLink) (d : Deferred) :
    Quiet l (l.flushWrite t node passkey d) := by
  have told (frame : ToRadio) (reply : Option RequestId) :
      Quiet l ((l.send frame).tellAny reply .ok) :=
    (quiet_send frame).trans (quiet_tellAny rfl rfl reply)
  unfold flushWrite
  cases write : d.write with
  | lora config reply => exact told _ reply
  | owner user reply => exact told _ reply
  | reboot secs reply => exact told _ reply
  | device config => exact quiet_trySend _
  | time => exact quiet_trySend _
  | setFixedPosition lat lon =>
      dsimp only
      split
      · exact quiet_send _
      · exact quiet_requeue (by rw [write]; rfl)
  | removeFixedPosition =>
      dsimp only
      split
      · exact quiet_send _
      · exact quiet_requeue (by rw [write]; rfl)
  | setFavoriteNode nodeNum generation =>
      dsimp only
      split
      · exact quiet_send _
      · exact quiet_of_same rfl rfl rfl rfl rfl rfl
  | removeFavoriteNode nodeNum =>
      dsimp only
      split
      · exact .refl l
      · exact quiet_trySend _

theorem Quiet.foldl {α : Type} {f : AdminLink → α → AdminLink} (each : ∀ l a, Quiet l (f l a))
    (as : List α) (l : AdminLink) : Quiet l (as.foldl f l) := by
  induction as generalizing l with
  | nil => exact .refl l
  | cons a rest ih => exact (each l a).trans (ih (f l a))

theorem quiet_flush (t : Turn) (l : AdminLink) : Quiet l (l.flush t) := by
  unfold flush
  split
  · exact .refl l
  · split
    · next node _ =>
      have flushed := quiet_drain.trans (Quiet.foldl (quiet_flushWrite t node l.lastSessionPasskey)
        l.deferredWrites { l with deferredWrites := [] })
      exact flushed.trans (quiet_of_same rfl rfl rfl rfl rfl rfl)
    · exact .refl l

theorem quiet_discard (l : AdminLink) : Quiet l l.discardDeferredWritesOnDisconnect := by
  apply quiet_drain.trans
  apply Quiet.foldl
  intro l d
  unfold discardWrite
  split
  · exact quiet_of_same rfl rfl rfl rfl rfl rfl
  · exact quiet_tellAny rfl rfl _

theorem quiet_idle : Quiet l { l with pendingAdmin := none } :=
  ⟨⟨rfl, rfl, List.Sublist.refl _, List.Subset.refl _⟩, .inr rfl, fun _ told => .inl told⟩

theorem quiet_failPending (l : AdminLink) : Quiet l l.failPending := by
  unfold failPending
  split
  · exact quiet_idle.trans (quiet_tell rfl rfl _ none)
  · exact .refl l

theorem quiet_stop (l : AdminLink) : Quiet l l.stop := by
  have ended : Quiet l
      { l with running := false, adminChannel := [], pendingAdmin := none, deferredWrites := [] } :=
    ⟨⟨rfl, rfl, List.nil_sublist _, List.nil_subset _⟩, .inr rfl, fun _ told => .inl told⟩
  exact ended.trans (Quiet.foldl (fun _ id => quiet_tell rfl rfl id none) _ _)

theorem quiet_reap (l : AdminLink) (now : Mesh.Instant) : Quiet l (l.reap now) := by
  have given : Quiet l l.reapPending := by
    unfold reapPending
    split
    · split
      · exact .refl l
      · exact quiet_idle
    · exact .refl l
  unfold reap reapSessionKey
  split
  · exact given.trans (quiet_of_same rfl rfl rfl rfl rfl rfl)
  · exact given

theorem quiet_enqueueAutoApply (config : AutoApplyConfig) (l : AdminLink) :
    Quiet l (l.enqueueAutoApply config) := by
  have device : Quiet l l.enqueueDevice := by
    unfold enqueueDevice
    split
    · split
      · exact quiet_queueWrite rfl
      · exact .refl l
    · exact .refl l
  have radio (l : AdminLink) : Quiet l (l.enqueueRadio config) := by
    unfold enqueueRadio
    split
    · split
      · exact .refl l
      · exact quiet_queueWrite rfl
    · exact .refl l
  have owner (l : AdminLink) : Quiet l (l.enqueueOwner config) := by
    unfold enqueueOwner
    split
    · dsimp only
      split
      · exact .refl l
      · exact quiet_queueWrite rfl
    · exact .refl l
  exact (device.trans (radio _)).trans (owner _)

theorem quiet_place (t : Turn) (l : AdminLink) : Quiet l (match t.position with
    | some (lat, lon) => l.queueWrite (.setFixedPosition lat lon)
    | none => l.queueWrite .removeFixedPosition) := by
  split
  · exact quiet_queueWrite rfl
  · exact quiet_queueWrite rfl

theorem quiet_autoApply (t : Turn) (frame : FromRadio) (l : AdminLink) :
    Quiet l (l.autoApply t frame) := by
  unfold autoApply
  split
  · next node _ =>
    have clock : Quiet l (l.queueWrite .time) := quiet_queueWrite rfl
    have position := clock.trans (quiet_place t _)
    have applied := (position.trans (quiet_enqueueAutoApply t.config _)).trans
      (quiet_requestSessionKey node (t.clock 0) t.now)
    exact applied.trans (quiet_of_same rfl rfl rfl rfl rfl rfl)
  · exact .refl l

theorem quiet_harvest (frame : FromRadio) (l : AdminLink) : Quiet l (l.harvest frame) := by
  unfold harvest
  split
  · exact quiet_of_same rfl rfl rfl rfl rfl rfl
  · exact .refl l

theorem quiet_protectNodes (t : Turn) (l : AdminLink) : Quiet l (l.protectNodes t) := by
  apply Quiet.foldl
  intro l favourite
  unfold protectNode
  split
  · exact (quiet_queueWrite rfl).trans (quiet_requestSessionKey _ _ _)
  · exact .refl l

theorem quiet_handleFromRadio (t : Turn) (frame : FromRadio) (l : AdminLink) :
    Quiet l (l.handleFromRadio t frame) := by
  unfold handleFromRadio
  split
  · exact quiet_of_same rfl rfl rfl rfl rfl rfl
  · apply Quiet.trans _ (quiet_protectNodes t _)
    split
    · exact quiet_of_same rfl rfl rfl rfl rfl rfl
    · exact .refl l
  · exact quiet_of_same rfl rfl rfl rfl rfl rfl
  · exact quiet_of_same rfl rfl rfl rfl rfl rfl
  · exact quiet_of_same rfl rfl rfl rfl rfl rfl
  · exact .refl l
  · split
    · exact .refl l
    · exact quiet_protectNodes t l
  · exact .refl l
  · exact .refl l

theorem quiet_disconnected (t : Turn) (willRetry : Bool) (l : AdminLink) :
    Quiet l (l.handleEvent t (.disconnected willRetry)) := by
  have closed : Quiet l { l.failPending.discardDeferredWritesOnDisconnect with
      sessionRequested := false, sessionRequestedAt := none, lastSessionPasskey := [],
      autoApplied := false } :=
    ((quiet_failPending l).trans (quiet_discard _)).trans (quiet_of_same rfl rfl rfl rfl rfl rfl)
  cases willRetry with
  | true => exact closed
  | false => exact closed.trans (quiet_stop _)

/-! ## The answer, and a read that begins -/

theorem Sourced.tell {id : RequestId} {outcome : Outcome} {answered : Option Data} (sourced : Sourced l)
    (data : isData outcome → FromResponse l ⟨id, outcome, answered⟩)
    (snapshot : isSnapshot outcome → l.requests[id]? = some .getSnapshot) :
    Sourced (l.tell id outcome answered) := by
  unfold AdminLink.tell
  split
  · refine ⟨sourced.pending, fun d told => ?_, fun d told => ?_, sourced.once, sourced.channel,
      sourced.fresh, sourced.made, sourced.writes⟩
    · rcases List.mem_append.mp told with before | last
      · exact fun settings => (sourced.data d before settings).places rfl (List.Subset.refl _)
      · cases List.mem_singleton.mp last
        exact fun settings => (data settings).places rfl (List.Subset.refl _)
    · rcases List.mem_append.mp told with before | last
      · exact sourced.snapshots d before
      · cases List.mem_singleton.mp last
        exact snapshot
  · exact sourced

theorem quiet_captureKey (l : AdminLink) (payload : Except String AdminMessage) :
    Quiet l (l.captureKey payload) := by
  unfold captureKey
  split
  · split
    · exact .refl l
    · exact quiet_of_same rfl rfl rfl rfl rfl rfl
  · exact .refl l

theorem outcome_settings (get : Get) (payload : Except String AdminMessage) :
    isSnapshot (get.outcome payload) = false := by
  cases payload with
  | error e => cases get <;> rfl
  | ok msg =>
      cases get
      all_goals
        simp only [Get.outcome]
        split <;> rfl

theorem answers_hit {data : Data} {op : PendingAdmin} (hit : l.answers data = some op) :
    data.requestId = op.requestId ∨ data.replyId = op.requestId := by
  have ids := (Option.filter_eq_some_iff.mp hit).2
  simp only [decide_eq_true_eq] at ids
  exact ids.symm

theorem Sourced.answer (sourced : Sourced l) (frame : FromRadio) :
    Sourced (l.tryHandleAdminResponse frame).2 := by
  unfold tryHandleAdminResponse
  split
  · next data _ =>
    split
    · next op hit =>
      obtain ⟨own, request⟩ := sourced.pending op (answers_pending hit)
      have quiet : Quiet l { l.captureKey data.payload with pendingAdmin := none } :=
        (quiet_captureKey l data.payload).trans quiet_idle
      apply (sourced.quiet quiet).tell
      · intro _
        exact FromResponse.places ⟨op.get, data, op.requestId, request, rfl, own, answers_hit hit, rfl⟩
          quiet.requests (quiet.reads ▸ List.Subset.refl _)
      · intro snapshot
        rw [outcome_settings] at snapshot
        cases snapshot
    · exact sourced
  · exact sourced

theorem Sourced.processFrame (sourced : Sourced l) (t : Turn) (frame : FromRadio) :
    Sourced (l.processFrame t frame) := by
  have front := ((quiet_autoApply t frame l).trans (quiet_harvest frame _)).trans (quiet_flush t _)
  have answered := (sourced.quiet front).answer frame
  unfold AdminLink.processFrame
  dsimp only
  split
  · next consumed =>
    rw [consumed] at answered
    exact answered
  · next passed =>
    rw [passed] at answered
    exact answered.quiet (quiet_handleFromRadio t frame _)

theorem Sourced.handleEvent (sourced : Sourced l) (t : Turn) (event : ClientEvent) :
    Sourced (l.handleEvent t event) := by
  cases event with
  | connected => exact sourced.quiet (quiet_of_same rfl rfl rfl rfl rfl rfl)
  | disconnected willRetry => exact sourced.quiet (quiet_disconnected t willRetry l)
  | fromRadio frame => exact sourced.processFrame t frame

/-- A write whose caller waits for it. -/
theorem Sourced.deferWrite {id : RequestId} {req : MeshtasticAdminRequest} {write : DeferredWrite}
    (sourced : Sourced l) (request : l.requests[id]? = some req) (writes : isRead req = false)
    (reply : write.reply = some id ∨ write.reply = none) (t : Turn) (node : NodeNum) :
    Sourced (l.deferWrite t node write) := by
  apply Sourced.quiet _ (quiet_requestSessionKey node (t.clock 0) t.now)
  refine ⟨sourced.pending, sourced.data, sourced.snapshots, sourced.once, sourced.channel, sourced.fresh,
    sourced.made, fun other waits => ?_⟩
  have waits : other ∈ waitingWrites l ∨ write.reply = some other := by
    simpa [waitingWrites, queueWrite, List.filterMap_append] using waits
  rcases waits with before | own
  · exact sourced.writes other before
  · rcases reply with mine | silent
    · cases Option.some.inj (mine.symm.trans own)
      exact ⟨req, request, writes⟩
    · rw [silent] at own
      cases own

theorem Sourced.startGet {id : RequestId} {get : Get} (sourced : Sourced l)
    (request : l.requests[id]? = some (.get get)) (fresh : id ∉ l.reads.map Prod.fst)
    (taken : id ∉ l.adminChannel) (t : Turn) (node : NodeNum) :
    Sourced (l.startGet t node id get) where
  pending := by
    intro op pending
    cases pending
    exact ⟨List.mem_append_right _ (List.mem_singleton_self _), request⟩
  data := fun d told data => (sourced.data d told data).places rfl (List.subset_append_left _ _)
  snapshots := sourced.snapshots
  once := by
    have separate : (l.reads.map Prod.fst ++ [id]).Nodup :=
      sourced.once.append (List.nodup_singleton id) (List.disjoint_singleton.mpr fresh)
    simpa [AdminLink.startGet] using separate
  channel := sourced.channel
  fresh := by
    intro other waits
    obtain ⟨made, unread⟩ := sourced.fresh other waits
    refine ⟨made, fun read => ?_⟩
    have read : other ∈ l.reads.map Prod.fst ∨ other = id := by
      simpa [AdminLink.startGet] using read
    rcases read with before | rfl
    · exact unread before
    · exact taken waits
  made := by
    intro other read
    have read : other ∈ l.reads.map Prod.fst ∨ other = id := by
      simpa [AdminLink.startGet] using read
    rcases read with before | rfl
    · exact sourced.made other before
    · exact (List.getElem?_eq_some_iff.mp request).1
  writes := sourced.writes

theorem Sourced.takeRequest {id : RequestId} {req : MeshtasticAdminRequest} (sourced : Sourced l)
    (request : l.requests[id]? = some req) (fresh : id ∉ l.reads.map Prod.fst)
    (taken : id ∉ l.adminChannel) (t : Turn) : Sourced (l.takeRequest t id req) := by
  unfold AdminLink.takeRequest
  split
  · next node _ =>
    cases req with
    | get get =>
        unfold handleRequest
        dsimp only
        split
        · exact sourced.quiet (quiet_tell rfl rfl _ _)
        · exact sourced.startGet request fresh taken t node
    | getSnapshot => exact sourced.tell nofun fun _ => request
    | setLoRaConfig config => exact sourced.deferWrite request rfl (.inl rfl) t node
    | setOwner longName shortName => exact sourced.deferWrite request rfl (.inl rfl) t node
    | reboot seconds => exact sourced.deferWrite request rfl (.inl rfl) t node
    | removeFavoriteNode nodeNum =>
        exact (sourced.deferWrite request rfl (.inr rfl) t node).quiet (quiet_tell rfl rfl _ _)
  · unfold rejectNoNum
    split
    · exact sourced.tell nofun fun _ => request
    · exact sourced.quiet (quiet_tell rfl rfl _ _)

theorem Sourced.call (sourced : Sourced l) (req : MeshtasticAdminRequest) : Sourced (l.call req) := by
  have kept {id : RequestId} {old : MeshtasticAdminRequest} (request : l.requests[id]? = some old) :
      (l.call req).requests[id]? = some old := by
    have known := (List.getElem?_eq_some_iff.mp request).1
    rw [← request]
    exact List.getElem?_append_left known
  have more {id : RequestId} (made : id < l.requests.length) :
      id < (l.call req).requests.length := by
    simpa [AdminLink.call] using Nat.lt_succ_of_lt made
  refine ⟨fun op pending => ?_, fun d told data => ?_, fun d told snapshot => ?_, sourced.once, ?_, ?_,
    fun id read => more (sourced.made id read), fun id waits => ?_⟩
  · obtain ⟨own, request⟩ := sourced.pending op pending
    exact ⟨own, kept request⟩
  · obtain ⟨get, response, rid, request, rest⟩ := sourced.data d told data
    exact ⟨get, response, rid, kept request, rest⟩
  · exact kept (sourced.snapshots d told snapshot)
  · refine sourced.channel.append (List.nodup_singleton _) (List.disjoint_singleton.mpr fun waits => ?_)
    exact Nat.lt_irrefl _ (sourced.fresh _ waits).1
  · intro id waits
    rcases List.mem_append.mp waits with before | last
    · exact ⟨more (sourced.fresh id before).1, (sourced.fresh id before).2⟩
    · cases List.mem_singleton.mp last
      refine ⟨by simp [AdminLink.call], fun read => ?_⟩
      exact Nat.lt_irrefl _ (sourced.made _ read)
  · obtain ⟨old, request, writes⟩ := sourced.writes id waits
    exact ⟨old, kept request, writes⟩

theorem Sourced.timeout (sourced : Sourced l) (id : RequestId) :
    Sourced { l with told := l.told ++ [⟨id, .timedOut, none⟩] } := by
  refine sourced.quiet ⟨⟨rfl, rfl, List.Sublist.refl _, List.Subset.refl _⟩, .inl rfl, fun d told => ?_⟩
  rcases List.mem_append.mp told with before | last
  · exact .inl before
  · cases List.mem_singleton.mp last
    exact .inr ⟨rfl, rfl⟩

theorem Sourced.take {id : RequestId} {rest : List RequestId} {req : MeshtasticAdminRequest}
    (sourced : Sourced l) (first : l.adminChannel = id :: rest) (request : l.requests[id]? = some req)
    (t : Turn) : Sourced ({ l with adminChannel := rest }.takeRequest t id req) := by
  have channel := sourced.channel
  rw [first] at channel
  have quiet : Quiet l { l with adminChannel := rest } :=
    ⟨⟨rfl, rfl, first ▸ List.sublist_cons_self id rest, List.Subset.refl _⟩, .inl rfl,
      fun _ told => .inl told⟩
  have waited : id ∈ l.adminChannel := first ▸ List.mem_cons_self
  exact (sourced.quiet quiet).takeRequest request (sourced.fresh id waited).2
    (List.nodup_cons.mp channel).1 t

theorem Sourced.step {label : Label} (sourced : Sourced l) (next : Steps label l l') : Sourced l' := by
  cases label with
  | call req =>
      simp only [Steps, AdminLink.step] at next
      split at next
      · cases next
        exact sourced.call req
      · cases next
  | take t =>
      simp only [Steps, AdminLink.step] at next
      split at next
      · next id rest running first =>
        obtain ⟨req, request, rfl⟩ := Option.map_eq_some_iff.mp next
        exact sourced.take first request t
      · cases next
  | timeout id =>
      simp only [Steps, AdminLink.step] at next
      split at next
      · cases next
        exact sourced.timeout id
      · cases next
  | reap now =>
      simp only [Steps, AdminLink.step] at next
      split at next
      · cases next
        exact sourced.quiet (quiet_reap l now)
      · cases next
  | other =>
      cases next
      exact sourced.quiet (quiet_send _)
  | write =>
      simp only [Steps, AdminLink.step] at next
      split at next
      · split at next
        · cases next
          exact sourced.quiet (quiet_of_same rfl rfl rfl rfl rfl rfl)
        · cases next
      · cases next
  | writeError =>
      simp only [Steps, AdminLink.step] at next
      split at next
      · split at next
        · cases next
          exact sourced.quiet (quiet_of_same rfl rfl rfl rfl rfl rfl)
        · cases next
      · cases next
  | receive frame =>
      simp only [Steps, AdminLink.step] at next
      split at next
      · cases next
        exact sourced.quiet (quiet_of_same rfl rfl rfl rfl rfl rfl)
      · cases next
  | process t =>
      simp only [Steps, AdminLink.step] at next
      split at next
      · next event rest running first =>
        cases next
        have behind : Sourced { l with events := rest } :=
          sourced.quiet (quiet_of_same rfl rfl rfl rfl rfl rfl)
        exact behind.handleEvent t event
      · cases next
  | disconnect =>
      cases next
      exact sourced.quiet (quiet_of_same rfl rfl rfl rfl rfl rfl)
  | reconnect node =>
      simp only [Steps, AdminLink.step] at next
      split at next
      · cases next
      · cases next
        exact sourced.quiet (quiet_of_same rfl rfl rfl rfl rfl rfl)
  | shutdown =>
      simp only [Steps, AdminLink.step] at next
      split at next
      · cases next
        exact sourced.quiet (quiet_stop l)
      · cases next

theorem sourced_reached {allowed : Label → AdminLink → Prop} (run : Reaches Steps allowed initial l) :
    Sourced l :=
  run.invariant sourced_initial fun _ _ _ sourced _ next => sourced.step next

/-! ## How a pending read ends -/

variable {op : PendingAdmin}

/-- Once the slot is free, the read that held it is nowhere. -/
theorem Sourced.free (sourced : Sourced l) (pending : l.pendingAdmin = some op) (places : Places l l')
    (idle : l'.pendingAdmin = none) : op.reply ∉ held l' := by
  obtain ⟨own, request⟩ := sourced.pending op pending
  have read : op.reply ∈ l.reads.map Prod.fst := List.mem_map_of_mem own
  intro waits
  have waits : op.reply ∈ l'.adminChannel ∨ op.reply ∈ waitingWrites l' := by
    simpa [held, idle, waitingWrites] using waits
  rcases waits with queued | written
  · exact (sourced.fresh _ (places.adminChannel.subset queued)).2 read
  · obtain ⟨req, same, writes⟩ := sourced.writes _ (places.writes written)
    cases Option.some.inj (request.symm.trans same)
    cases writes

theorem Sourced.ended (sourced : Sourced l) (pending : l.pendingAdmin = some op) (places : Places l l')
    (idle : l'.pendingAdmin = none) (owes : Owes [] l') : l'.tells op.reply = 1 := by
  have made := (List.getElem?_eq_some_iff.mp (sourced.pending op pending).2).1
  exact told_of_free owes (places.requests ▸ made) (sourced.free pending places idle)

theorem tell_pending (l : AdminLink) (id : RequestId) (outcome : Outcome) (answered : Option Data) :
    (l.tell id outcome answered).pendingAdmin = l.pendingAdmin := by
  unfold AdminLink.tell
  split <;> rfl

theorem Quiet.idle (quiet : Quiet l l') (idle : l.pendingAdmin = none) : l'.pendingAdmin = none := by
  rcases quiet.pending with same | free
  · rw [same, idle]
  · exact free

theorem disconnected_idle (l : AdminLink) (t : Turn) (willRetry : Bool) :
    (l.handleEvent t (.disconnected willRetry)).pendingAdmin = none := by
  have failed : l.failPending.pendingAdmin = none := by
    unfold failPending
    split
    · rw [tell_pending]
    · next idle => exact idle
  have closed := (quiet_discard l.failPending).idle failed
  cases willRetry with
  | true => exact closed
  | false => exact (quiet_stop _).idle closed

theorem answered_idle {frame : FromRadio} {data : Data} (admin : frame.adminData = some data)
    (hit : l.pendingAdmin = none ∨ ∃ op, l.answers data = some op) :
    (l.tryHandleAdminResponse frame).2.pendingAdmin = none := by
  unfold tryHandleAdminResponse
  rw [admin]
  dsimp only
  split
  · exact tell_pending _ _ _ _
  · next missed =>
    rcases hit with idle | ⟨op, found⟩
    · exact idle
    · rw [missed] at found
      cases found

theorem places_tell (l : AdminLink) (id : RequestId) (outcome : Outcome) (answered : Option Data) :
    Places l (l.tell id outcome answered) := by
  unfold AdminLink.tell
  split <;> exact ⟨rfl, rfl, List.Sublist.refl _, List.Subset.refl _⟩

theorem places_answer (l : AdminLink) (frame : FromRadio) :
    Places l (l.tryHandleAdminResponse frame).2 := by
  unfold tryHandleAdminResponse
  split
  · next data _ =>
    split
    · have captured := (quiet_captureKey l data.payload).trans quiet_idle
      exact captured.toPlaces.trans (places_tell _ _ _ _)
    · exact (Quiet.refl l).toPlaces
  · exact (Quiet.refl l).toPlaces

theorem processFrame_idle {frame : FromRadio} {data : Data} (pending : l.pendingAdmin = some op)
    (admin : frame.adminData = some data)
    (own : data.requestId = op.requestId ∨ data.replyId = op.requestId) (t : Turn) :
    Places l (l.processFrame t frame) ∧ (l.processFrame t frame).pendingAdmin = none := by
  have front := ((quiet_autoApply t frame l).trans (quiet_harvest frame _)).trans (quiet_flush t _)
  unfold AdminLink.processFrame
  dsimp only
  generalize ((l.autoApply t frame).harvest frame).flush t = m at front ⊢
  have hit : m.pendingAdmin = none ∨ ∃ op, m.answers data = some op := by
    rcases front.pending with same | idle
    · refine .inr ⟨op, ?_⟩
      rw [answers, same, pending]
      simp [own.symm]
    · exact .inl idle
  have idle := answered_idle admin hit
  have places := front.toPlaces.trans (places_answer m frame)
  split
  · next consumed =>
    rw [consumed] at idle places
    exact ⟨places, idle⟩
  · next passed =>
    rw [passed] at idle places
    have rest := quiet_handleFromRadio t frame (m.tryHandleAdminResponse frame).2
    rw [passed] at rest
    exact ⟨places.trans rest.toPlaces, rest.idle idle⟩

theorem reap_idle (pending : l.pendingAdmin = some op) (gone : l.isOpen op.reply = false)
    (now : Mesh.Instant) : (l.reap now).pendingAdmin = none := by
  have given : l.reapPending.pendingAdmin = none := by
    unfold reapPending
    simp [pending, gone]
  unfold reap reapSessionKey
  split
  · exact given
  · exact given

/-! ## Snapshots -/

/-- What a snapshot tells. -/
def cached (l : AdminLink) : DeviceSnapshot :=
  if l.myNodeNum.isSome then l.deviceSnapshot else ⟨none, none, none⟩

theorem takeRequest_snapshot (l : AdminLink) (t : Turn) (id : RequestId) :
    l.takeRequest t id .getSnapshot = l.tell id (.snapshot (cached l)) none := by
  unfold takeRequest
  split
  · next known => simp [handleRequest, cached, known]
  · next unknown => simp [rejectNoNum, cached, unknown]

theorem Sourced.served {id : RequestId} {rest : List RequestId} (sourced : Sourced l)
    (first : l.adminChannel = id :: rest) (request : l.requests[id]? = some .getSnapshot) :
    id ∉ held { l with adminChannel := rest } := by
  have channel := sourced.channel
  rw [first] at channel
  intro waits
  have waits : id ∈ rest ∨ (∃ op, l.pendingAdmin = some op ∧ op.reply = id) ∨ id ∈ waitingWrites l := by
    simpa [held, waitingWrites] using waits
  rcases waits with queued | ⟨op, pending, same⟩ | written
  · exact (List.nodup_cons.mp channel).1 queued
  · have get := (sourced.pending op pending).2
    rw [same] at get
    cases Option.some.inj (request.symm.trans get)
  · obtain ⟨req, same, writes⟩ := sourced.writes id written
    cases Option.some.inj (request.symm.trans same)
    cases writes

theorem snapshot_served {id : RequestId} {rest : List RequestId} (sourced : Sourced l) (owes : Owes [] l)
    (running : l.running = true) (first : l.adminChannel = id :: rest)
    (request : l.requests[id]? = some .getSnapshot) (t : Turn) :
    ∃ l', l.step (.take t) = some l' ∧ l'.tells id = 1 ∧
      (l.isOpen id → ⟨id, .snapshot (cached l), none⟩ ∈ l'.told) := by
  have taken : l.step (.take t) =
      some (({ l with adminChannel := rest } : AdminLink).tell id (.snapshot (cached l)) none) := by
    simp only [AdminLink.step, running, first, request, Option.map_some, takeRequest_snapshot]
    rfl
  refine ⟨_, taken, ?_, fun listens => ?_⟩
  · have places := places_tell { l with adminChannel := rest } id (.snapshot (cached l)) none
    refine told_of_free (owes.step taken) ?_ fun waits => sourced.served first request ?_
    · rw [places.requests]
      exact (List.getElem?_eq_some_iff.mp request).1
    · unfold AdminLink.tell at waits
      split at waits <;> exact waits
  · have listens : ({ l with adminChannel := rest } : AdminLink).isOpen id = true := listens
    unfold AdminLink.tell
    rw [if_pos listens]
    exact List.mem_append_right _ (List.mem_singleton_self _)

/-- A read ends once: with the settings of a response to it, with an error, or, for a snapshot, with what
the last sync left. Only a caller that has given up goes without. -/
theorem reads_end_once (run : Reaches Steps (fun _ _ => True) initial l) :
    (∀ id req, l.requests[id]? = some req → isRead req → l.tells id = 1 ∨ l.tells id = 0 ∧
      (id ∈ l.adminChannel ∨ ∃ op, l.pendingAdmin = some op ∧ op.reply = id)) ∧
    (∀ d ∈ l.told, isData d.outcome → FromResponse l d) ∧
    (∀ d ∈ l.told, isSnapshot d.outcome → l.requests[d.request]? = some .getSnapshot) ∧
    (l.reads.map Prod.fst).Nodup ∧
    (∀ id rest, l.running = true → l.adminChannel = id :: rest →
      l.requests[id]? = some .getSnapshot → ∀ t, ∃ l', l.step (.take t) = some l' ∧ l'.tells id = 1 ∧
        (l.isOpen id → ⟨id, .snapshot (cached l), none⟩ ∈ l'.told)) ∧
    ∀ op, l.pendingAdmin = some op →
      (∀ t willRetry, (l.handleEvent t (.disconnected willRetry)).tells op.reply = 1) ∧
      (∀ t frame data, frame.adminData = some data →
        (data.requestId = op.requestId ∨ data.replyId = op.requestId) →
          (l.processFrame t frame).tells op.reply = 1) ∧
      (l.isOpen op.reply = false → ∀ now, (l.reap now).pendingAdmin = none) := by
  have owes := owes_reached run
  have sourced := sourced_reached run
  refine ⟨fun id req request read => ?_, sourced.data, sourced.snapshots, sourced.once,
    fun id rest running first request t => snapshot_served sourced owes running first request t,
    fun op pending => ⟨fun t willRetry => ?_, fun t frame data admin own => ?_, fun gone now => ?_⟩⟩
  · have balance := owes id
    rw [if_pos (List.getElem?_eq_some_iff.mp request).1, List.count_nil] at balance
    by_cases waits : id ∈ held l
    · by_cases untold : l.tells id = 0
      · refine .inr ⟨untold, ?_⟩
        have waits : id ∈ l.adminChannel ∨ (∃ op, l.pendingAdmin = some op ∧ op.reply = id) ∨
            id ∈ waitingWrites l := by
          simpa [held, waitingWrites] using waits
        rcases waits with queued | pending | written
        · exact .inl queued
        · exact .inr pending
        · obtain ⟨other, same, writes⟩ := sourced.writes id written
          cases Option.some.inj (request.symm.trans same)
          rw [read] at writes
          cases writes
      · refine .inl ?_
        split at balance <;> omega
    · exact .inl (told_of_free owes (List.getElem?_eq_some_iff.mp request).1 waits)
  · exact sourced.ended pending (quiet_disconnected t willRetry l).toPlaces
      (disconnected_idle l t willRetry) (owes.handleEvent t _)
  · obtain ⟨places, idle⟩ := processFrame_idle pending admin own t
    exact sourced.ended pending places idle (owes.processFrame t frame)
  · exact reap_idle pending gone now

/-! ## A run that tells them apart -/

def calm : Turn := ⟨fun _ => 0, 0, fun _ => false, none, ⟨none, none, none⟩, []⟩

def namedUser : User := ⟨"!00000001", "BBS", "BBS", 0, []⟩

/-- An owner response that names the request in its reply id. -/
def repliedOwner : Data :=
  ⟨portAdminApp, .ok ⟨some (.getOwnerResponse namedUser), []⟩, 0, randomPacketId 0⟩

def mixedLabels : List Label :=
  [.reconnect 1, .receive (.myInfo 1), .receive (.nodeInfo 1 (some namedUser)), .process calm,
    .process calm, .process calm, .call (.get .owner), .take calm,
    .receive (.packet ⟨1, some repliedOwner⟩), .process calm, .call .getSnapshot, .take calm,
    .call (.get .lora), .take calm, .timeout 2, .reap 0]

/-- The owner is read by a response that has another request id, a snapshot comes from the last sync, and
a caller gives up. -/
def mixed : AdminLink := mixedLabels.foldl (fun l label => (l.step label).getD l) initial

theorem mixed_reached : Reaches Steps (fun _ _ => True) initial mixed :=
  .follow_taken ⟨⟨trivial, rfl⟩, ⟨trivial, rfl⟩, ⟨trivial, rfl⟩, ⟨trivial, rfl⟩, ⟨trivial, rfl⟩,
    ⟨trivial, rfl⟩, ⟨trivial, rfl⟩, ⟨trivial, rfl⟩, ⟨trivial, rfl⟩, ⟨trivial, rfl⟩, ⟨trivial, rfl⟩,
    ⟨trivial, rfl⟩, ⟨trivial, rfl⟩, ⟨trivial, rfl⟩, ⟨trivial, rfl⟩, ⟨trivial, rfl⟩, trivial⟩

theorem mixed_told : mixed.told = [⟨0, .owner (ownerInfo namedUser), some repliedOwner⟩,
    ⟨1, .snapshot ⟨none, some (ownerInfo namedUser), none⟩, none⟩, ⟨2, .timedOut, none⟩] := by
  decide +kernel

theorem mixed_reads : mixed.reads = [(0, randomPacketId 0), (2, randomPacketId 0)] := by
  decide +kernel

/-- No reply rests on a response with the request's own request id, and one request has none at all. -/
theorem reads_elsewhere : Reaches Steps (fun _ _ => True) initial mixed ∧
    (∃ d ∈ mixed.told, isData d.outcome ∧ ∀ data rid, d.answered = some data →
      (d.request, rid) ∈ mixed.reads → data.requestId ≠ rid) ∧
    (∃ d ∈ mixed.told, isSnapshot d.outcome ∧ d.answered = none) ∧
    mixed.requests[2]? = some (.get .lora) ∧ 2 ∉ held mixed ∧
      ∀ d ∈ mixed.told, d.request = 2 → d.outcome = .timedOut := by
  refine ⟨mixed_reached, ?_, ?_, by decide +kernel, by decide +kernel, ?_⟩
  · refine ⟨⟨0, .owner (ownerInfo namedUser), some repliedOwner⟩, ?_, rfl, fun data rid answered own => ?_⟩
    · rw [mixed_told]
      exact List.mem_cons_self
    · cases answered
      rw [mixed_reads] at own
      have own : rid = randomPacketId 0 := by simpa using own
      rw [own]
      decide
  · refine ⟨⟨1, .snapshot ⟨none, some (ownerInfo namedUser), none⟩, none⟩, ?_, rfl, rfl⟩
    rw [mixed_told]
    exact List.mem_cons_of_mem _ List.mem_cons_self
  · intro d told own
    rw [mixed_told] at told
    simp only [List.mem_cons, List.not_mem_nil, or_false] at told
    rcases told with rfl | rfl | rfl
    · cases own
    · cases own
    · rfl

theorem reads_end_once_mixed :
    FromResponse mixed ⟨0, .owner (ownerInfo namedUser), some repliedOwner⟩ := by
  apply (reads_end_once mixed_reached).2.1
  · rw [mixed_told]
    exact List.mem_cons_self
  · rfl

end SupplyDrop.Proof.AdminReads
