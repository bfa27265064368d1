import Mathlib
import SupplyDrop.Host.System
import SupplyDrop.Proof.RoomMessages

namespace SupplyDrop.Proof.Stepping
open Library Library.Program Store Host

/-! ## A look at the messages ahead -/

section Ahead
variable {forward : Bool} {auth : Auth} {db : Database} {position : Option MessageId}
  {m : Message} {rest : List Message}

theorem neighbour_sure (forward : Bool) (auth : Auth) (position : Option MessageId) {s : Storage}
    (sure : s.faults = []) :
    neighbour auth.roomId auth.username position forward s =
      (.ok (ahead forward auth s.db position).head?, s) := by
  unfold neighbour ahead messagesOf mapMessageRows
  rw [List.head?_map]
  by_cases here : auth.roomId = mail
  · rw [if_pos here]
    cases forward <;> simp only [if_pos here, if_true, Bool.false_eq_true, if_false]
    · exact query_sure _ sure
    · exact query_sure _ sure
  · rw [if_neg here]
    cases forward <;> simp only [if_neg here, if_true, Bool.false_eq_true, if_false]
    · exact query_sure _ sure
    · exact query_sure _ sure

/-- A step of the host is a look at the messages ahead. -/
inductive Comes (forward : Bool) (auth : Auth) (db : Database) : ReadStep → Look Message → Prop where
  | found {m : Message} {rest : List Message} : ahead forward auth db (some m.id) = rest →
      Comes forward auth db (.found m) (.found m rest)
  | capped {at_ : MessageId} {rest : List Message} : ahead forward auth db (some at_) = rest →
      Comes forward auth db (.skipped at_) (.capped rest)
  | ended (last : Option MessageId) : Comes forward auth db (.ended last) .ended

theorem stepFrom_looks {blocked : List String} {skips : Nat} {last : Option MessageId} {h : BbsHost}
    (sure : h.store.faults = []) (begun : 0 < skips ∨ position.isSome) :
    ∃ step, stepFrom auth.roomId auth.username forward blocked skips position last h =
      (.ok step, h) ∧ Comes forward auth h.store.db step
        (look (isBlocked blocked) skips (ahead forward auth h.store.db position)) := by
  induction skips generalizing position last with
  | zero =>
      obtain ⟨at_, rfl⟩ := Option.isSome_iff_exists.mp (begun.resolve_left (Nat.lt_irrefl 0))
      exact ⟨_, rfl, .capped rfl⟩
  | succ skips ih =>
      have asked : db StoreError.display (neighbour auth.roomId auth.username position forward) h =
          (.ok (ahead forward auth h.store.db position).head?, h) := by
        rw [db_ok (neighbour_sure forward auth position sure)]
      unfold stepFrom
      rw [bind_ok asked]
      cases messages : ahead forward auth h.store.db position with
      | nil => exact ⟨_, rfl, .ended last⟩
      | cons m rest =>
          have behind := ahead_behind messages
          dsimp only [List.head?_cons]
          unfold look isBlocked
          by_cases skipped : blocked.contains m.sender.text = true
          · rw [if_pos skipped, if_pos skipped, ← behind]
            exact ih (.inr rfl)
          · rw [if_neg skipped, if_neg skipped]
            exact ⟨_, rfl, .found behind⟩

theorem neighbourStep_looks (forward : Bool) (auth : Auth) (position : Option MessageId)
    (blocked : List String) {h : BbsHost} (sure : h.store.faults = []) :
    ∃ step, neighbourStep auth position forward blocked h = (.ok step, h) ∧
      Comes forward auth h.store.db step
        (look (isBlocked blocked) maxBlockedSkip (ahead forward auth h.store.db position)) :=
  stepFrom_looks sure (.inl (by decide))

theorem hasNeighbour_sure (auth : Auth) (id : MessageId) (forward : Bool) (blocked : List String)
    {h : BbsHost} (sure : h.store.faults = []) :
    ∃ has, hasNeighbour auth id forward blocked h = (.ok has, h) := by
  obtain ⟨step, ran, -⟩ := neighbourStep_looks forward auth (some id) blocked sure
  unfold hasNeighbour
  rw [bind_ok ran]
  exact ⟨_, rfl⟩

end Ahead

/-! ## One press of a key -/

def press (forward : Bool) (session : SessionId) : HostM Response :=
  if forward then handleReadForward session none else handleReadReverse session

def keyOf (forward : Bool) : String := if forward then "F" else "R"

/-- What the session hears of it. -/
inductive Hears (forward : Bool) (room : Room) : Seen Message → Response → Prop where
  | shown (msg : Message) (hasPrev hasNext : Bool) :
      Hears forward room (.shown msg) (.prompt (buildMessageWithNav msg hasPrev hasNext) false)
  | more : Hears forward room .more (.prompt ("Skipped a long run of blocked messages.\n" ++
      s!"{keyOf forward} - Keep going  H - Help  X - Exit") false)
  | endedAbove : forward = true → Hears forward room .ended (.prompt (
      s!"No more messages in {room.name}.\n" ++ "R - Backward  H - Help  X - Exit") false)
  | endedBelow : forward = false → Hears forward room .ended (.prompt (
      s!"No previous messages in {room.name}.\n" ++ "F - Forward  H - Help  X - Exit") false)

theorem markReadQuietly_untouched (auth : Auth) (id : MessageId) {h : BbsHost}
    (sure : h.store.faults = []) :
    ∃ s, markReadQuietly auth id h = (.ok (), { h with store := s }) ∧ Untouched h.store s := by
  have untouched := markRead_untouched auth.userId auth.roomId id sure
  rcases ran : MessageStore.markRead auth.userId auth.roomId id h.store with ⟨result, s⟩
  rw [ran] at untouched
  unfold markReadQuietly
  rw [bind_ok (tryDb_of ran)]
  exact ⟨s, rfl, untouched⟩

section Press
variable {forward : Bool} {session : SessionId} {r : SessionRecord} {auth : Auth} {room : Room}
  {h : BbsHost} {blocked : List String}

/-- What a look leaves: what the session hears, and where it is. -/
inductive Left (behind : Option MessageId → List Message) :
    Look Message → Seen Message → Option MessageId → Prop where
  | found {m : Message} {rest : List Message} : behind (some m.id) = rest →
      Left behind (.found m rest) (.shown m) (some m.id)
  | capped {at_ : MessageId} {rest : List Message} : behind (some at_) = rest →
      Left behind (.capped rest) .more (some at_)
  | ended (position : Option MessageId) : Left behind .ended .ended position

/-- The session is in reading mode, or at a message. -/
def Engaged (r : SessionRecord) : Prop := r.currentMessageId.isSome ∨ r.workflow = .reading

/-- One press, from where the session is to where it comes. -/
def Pressed (forward : Bool) (session : SessionId) (auth : Auth) (room : Room) (h : BbsHost)
    (looked : Look Message) (run : Except HostError Response × BbsHost) : Prop :=
  ∃ response h' r' seen, run = (.ok response, h') ∧ Hears forward room seen response ∧
    Reader session r' auth room h' ∧ Engaged r' ∧ Untouched h.store h'.store ∧
    Left (ahead forward auth h.store.db) looked seen r'.currentMessageId

theorem showMessage_pressed (reader : Reader session r auth room h) (msg : Message)
    (rest : List Message) (behind : ahead forward auth h.store.db (some msg.id) = rest) :
    Pressed forward session auth room h (.found msg rest)
      (showMessage session auth msg blocked h) := by
  obtain ⟨s, marked, untouched⟩ := markReadQuietly_untouched auth msg.id reader.sure
  obtain ⟨pointers, db⟩ := untouched.db
  have reader₁ : Reader session r auth room { h with store := s } :=
    reader.store untouched.sure (by rw [db]) (by rw [db])
  have reader₂ := reader₁.move (some msg.id) .reading (fun r => r.readingAt msg.id) rfl
  obtain ⟨hasPrev, prev⟩ := hasNeighbour_sure auth msg.id false blocked reader₂.sure
  obtain ⟨hasNext, next⟩ := hasNeighbour_sure auth msg.id true blocked reader₂.sure
  have moved : onSession session (fun r => r.readingAt msg.id) { h with store := s } = (.ok (), _) :=
    rfl
  unfold showMessage
  refine ⟨_, _, _, .shown msg, ?_, .shown msg hasPrev hasNext, reader₂, .inl rfl, untouched,
    .found behind⟩
  rw [bind_ok marked, bind_ok moved, bind_ok prev, bind_ok next]
  rfl

theorem stopped_pressed (reader : Reader session r auth room h) (at_ : MessageId)
    (rest : List Message) (behind : ahead forward auth h.store.db (some at_) = rest) :
    Pressed forward session auth room h (.capped rest)
      (stoppedInBlockedRun session at_ (keyOf forward) h) :=
  ⟨_, _, _, .more, rfl, .more, reader.move (some at_) .reading (fun r => r.readingAt at_) rfl,
    .inl rfl, .refl reader.sure, .capped behind⟩

theorem markSkipped_untouched (auth : Auth) (last : Option MessageId) {h : BbsHost}
    (sure : h.store.faults = []) :
    ∃ s, markSkipped auth last h = (.ok (), { h with store := s }) ∧ Untouched h.store s := by
  cases last with
  | none => exact ⟨h.store, rfl, .refl sure⟩
  | some id => exact markReadQuietly_untouched auth id sure

theorem forwardFrom_pressed (reader : Reader session r auth room h)
    (position : Option MessageId) :
    Pressed true session auth room h (look (isBlocked (blockedBy auth h.store.db)) maxBlockedSkip
      (ahead true auth h.store.db position)) (readForwardFrom session auth room position h) := by
  have blocks : blocksOf auth h = (.ok (blockedBy auth h.store.db), h) :=
    db_query_sure _ reader.sure
  obtain ⟨step, ran, comes⟩ := neighbourStep_looks true auth position
    (blockedBy auth h.store.db) reader.sure
  unfold readForwardFrom
  rw [bind_ok blocks, bind_ok ran]
  generalize look (isBlocked (blockedBy auth h.store.db)) maxBlockedSkip
    (ahead true auth h.store.db position) = looked at comes ⊢
  cases comes with
  | found behind => exact showMessage_pressed reader _ _ behind
  | capped behind => exact stopped_pressed reader _ _ behind
  | ended last =>
      obtain ⟨s, marked, untouched⟩ := markSkipped_untouched auth last reader.sure
      obtain ⟨pointers, db⟩ := untouched.db
      have reader₁ : Reader session r auth room { h with store := s } :=
        reader.store untouched.sure (by rw [db]) (by rw [db])
      dsimp only
      rw [bind_ok marked]
      exact ⟨_, _, _, .ended, rfl, .endedAbove rfl,
        reader₁.move r.currentMessageId .reading (fun r => r.setWorkflow .reading) rfl, .inr rfl,
        untouched, .ended _⟩

theorem reverseFrom_pressed (reader : Reader session r auth room h) (engaged : Engaged r) :
    Pressed false session auth room h (look (isBlocked (blockedBy auth h.store.db)) maxBlockedSkip
      (ahead false auth h.store.db r.currentMessageId))
      (readReverseFrom session auth room r.currentMessageId h) := by
  have blocks : blocksOf auth h = (.ok (blockedBy auth h.store.db), h) :=
    db_query_sure _ reader.sure
  obtain ⟨step, ran, comes⟩ := neighbourStep_looks false auth r.currentMessageId
    (blockedBy auth h.store.db) reader.sure
  unfold readReverseFrom
  rw [bind_ok blocks, bind_ok ran]
  generalize look (isBlocked (blockedBy auth h.store.db)) maxBlockedSkip
    (ahead false auth h.store.db r.currentMessageId) = looked at comes ⊢
  cases comes with
  | found behind => exact showMessage_pressed reader _ _ behind
  | capped behind => exact stopped_pressed reader _ _ behind
  | ended last =>
      exact ⟨_, _, r, .ended, rfl, .endedBelow rfl, reader, engaged, .refl reader.sure, .ended _⟩

theorem Pressed.store_eq {h' : BbsHost} {looked : Look Message}
    {run : Except HostError Response × BbsHost} (store : h'.store = h.store)
    (pressed : Pressed forward session auth room h' looked run) :
    Pressed forward session auth room h looked run := by
  unfold Pressed at pressed ⊢
  rw [← store]
  exact pressed

/-- One press is one look at the messages ahead. -/
theorem press_pressed (forward : Bool) (reader : Reader session r auth room h)
    (engaged : Engaged r) :
    Pressed forward session auth room h (look (isBlocked (blockedBy auth h.store.db)) maxBlockedSkip
      (ahead forward auth h.store.db r.currentMessageId)) (press forward session h) := by
  obtain ⟨h', admitted, same, reader'⟩ := reading_reader reader
  have store := same.store
  have looked : lookUp session h' = (.ok (some (r.setLevel auth.level)), h') := by
    rw [lookUp, peek_apply, reader'.found]
  have reads : ¬((r.setLevel auth.level).currentMessageId.isNone &&
      !isReading (some (r.setLevel auth.level))) = true := by
    rcases engaged with at_ | reading
    · simp [SessionRecord.setLevel, Option.isSome_iff_ne_none.mp at_]
    · simp [isReading, SessionRecord.setLevel, reading]
  rw [← store]
  apply Pressed.store_eq store
  cases forward with
  | true =>
      have pressed := forwardFrom_pressed reader' (r.setLevel auth.level).currentMessageId
      unfold press handleReadForward
      rw [if_pos rfl, admitted, bind_ok looked, if_neg]
      · exact pressed
      · exact reads
  | false =>
      have pressed := reverseFrom_pressed reader' engaged
      unfold press handleReadReverse
      rw [if_neg Bool.false_ne_true, admitted, bind_ok looked, if_neg]
      · exact pressed
      · exact reads

end Press

/-! ## Pressing on -/

/-- Presses of one key, and what is seen of them. -/
inductive Presses (forward : Bool) (session : SessionId) (room : Room) :
    BbsHost → List (Seen Message) → BbsHost → Prop where
  | done (h : BbsHost) : Presses forward session room h [] h
  | press {h h' h'' : BbsHost} {response : Response} {seen : Seen Message}
      {later : List (Seen Message)} : press forward session h = (.ok response, h') →
      Hears forward room seen response → Presses forward session room h' later h'' →
      Presses forward session room h (seen :: later) h''

/-- A session that reads on, since `h₀`. -/
structure Along (session : SessionId) (auth : Auth) (room : Room) (h₀ : BbsHost) (r : SessionRecord)
    (h : BbsHost) : Prop where
  reader : Reader session r auth room h
  engaged : Engaged r
  untouched : Untouched h₀.store h.store

section Along
variable {forward : Bool} {session : SessionId} {r : SessionRecord} {auth : Auth} {room : Room}
  {h₀ h : BbsHost}

theorem Along.press (along : Along session auth room h₀ r h) (forward : Bool) :
    ∃ response h' r' seen, press forward session h = (.ok response, h') ∧
      Hears forward room seen response ∧ Along session auth room h₀ r' h' ∧
      Left (ahead forward auth h₀.store.db) (look (isBlocked (blockedBy auth h₀.store.db)) maxBlockedSkip
        (ahead forward auth h₀.store.db r.currentMessageId)) seen r'.currentMessageId := by
  obtain ⟨response, h', r', seen, ran, hears, reader, engaged, untouched, left⟩ :=
    press_pressed forward along.reader along.engaged
  obtain ⟨pointers, same⟩ := along.untouched.db
  have still : ahead forward auth h.store.db = ahead forward auth h₀.store.db := by
    rw [same]
    rfl
  have blocks : blockedBy auth h.store.db = blockedBy auth h₀.store.db := by
    rw [same]
    rfl
  rw [still, blocks] at left
  exact ⟨response, h', r', seen, ran, hears, ⟨reader, engaged, along.untouched.trans untouched⟩, left⟩

theorem Along.presses {messages : List Message} {seen : List (Seen Message)}
    (looks : Looks (isBlocked (blockedBy auth h₀.store.db)) maxBlockedSkip messages seen)
    (along : Along session auth room h₀ r h)
    (start : ahead forward auth h₀.store.db r.currentMessageId = messages) :
    ∃ h', Presses forward session room h seen h' := by
  induction looks generalizing r h with
  | ended looked =>
      obtain ⟨response, h', r', seen, ran, hears, along', left⟩ := along.press forward
      rw [start, looked] at left
      cases left
      exact ⟨h', .press ran hears (.done h')⟩
  | capped looked _ ih =>
      obtain ⟨response, h', r', seen, ran, hears, along', left⟩ := along.press forward
      rw [start, looked] at left
      generalize position : r'.currentMessageId = p at left
      cases left with
      | capped behind =>
          obtain ⟨h'', presses⟩ := ih along' (position ▸ behind)
          exact ⟨h'', .press ran hears presses⟩
  | found looked _ ih =>
      obtain ⟨response, h', r', seen, ran, hears, along', left⟩ := along.press forward
      rw [start, looked] at left
      generalize position : r'.currentMessageId = p at left
      cases left with
      | found behind =>
          obtain ⟨h'', presses⟩ := ih along' (position ▸ behind)
          exact ⟨h'', .press ran hears presses⟩

/-- The key gets to the next message that is not blocked. -/
theorem Along.reaches {messages rest : List Message} {seen : List (Seen Message)} {b : Message}
    (looks : Looks (isBlocked (blockedBy auth h₀.store.db)) maxBlockedSkip messages seen)
    (along : Along session auth room h₀ r h)
    (start : ahead forward auth h₀.store.db r.currentMessageId = messages)
    (next : messages.filter (!isBlocked (blockedBy auth h₀.store.db) ·) = b :: rest) :
    ∃ stops h' r', Presses forward session room h (List.replicate stops .more ++ [.shown b]) h' ∧
      Along session auth room h₀ r' h' ∧ r'.currentMessageId = some b.id := by
  induction looks generalizing r h with
  | ended looked =>
      rw [look_ended looked] at next
      cases next
  | capped looked _ ih =>
      obtain ⟨response, h', r', seen, ran, hears, along', left⟩ := along.press forward
      rw [start, looked] at left
      generalize position : r'.currentMessageId = p at left
      cases left with
      | capped behind =>
          obtain ⟨stops, h'', r'', presses, along'', there⟩ :=
            ih along' (position ▸ behind) ((look_capped looked).1 ▸ next)
          exact ⟨stops + 1, h'', r'', .press ran hears presses, along'', there⟩
  | found looked _ ih =>
      obtain ⟨response, h', r', seen, ran, hears, along', left⟩ := along.press forward
      rw [start, looked] at left
      rw [(look_found looked).1] at next
      cases next
      generalize position : r'.currentMessageId = p at left
      cases left with
      | found behind => exact ⟨0, h', r', .press ran hears (.done h'), along', position⟩

end Along

/-! ## The way back -/

section Back
variable {auth : Auth} {db : Database} {blocked : List String} {a b : Message}
  {later : List Message}

/-- Behind the message that comes after `a` is `a`. -/
theorem comes_back (mem : a ∈ inMessages auth db) (kept : isBlocked blocked a = false)
    (next : (ahead true auth db (some a.id)).filter (!isBlocked blocked ·) = b :: later) :
    ∃ earlier, (ahead false auth db (some b.id)).filter (!isBlocked blocked ·) = a :: earlier := by
  rw [ahead_forward, List.filter_comm] at next
  rw [ahead_backward, List.filter_reverse, List.filter_comm]
  apply back_to_member ((inMessages_sorted auth db).filter _)
  · exact List.mem_filter.mpr ⟨mem, by rw [kept]; rfl⟩
  · exact next

end Back

/-! ## F and R -/

/-- The first press of a session that does not read yet only says that it does now. -/
theorem press_begins (forward : Bool) {session : SessionId} {r : SessionRecord} {auth : Auth}
    {room : Room} {h : BbsHost} (reader : Reader session r auth room h) (apart : ¬Engaged r) :
    ∃ response h' r', press forward session h = (.ok response, h') ∧
      Along session auth room h r' h' ∧ r'.currentMessageId = none := by
  obtain ⟨h', admitted, same, reader'⟩ := reading_reader reader
  have store := same.store
  have looked : lookUp session h' = (.ok (some (r.setLevel auth.level)), h') := by
    rw [lookUp, peek_apply, reader'.found]
  obtain ⟨nowhere, elsewhere⟩ := not_or.mp apart
  have position : r.currentMessageId = none := by simpa using nowhere
  have idle : ((r.setLevel auth.level).currentMessageId.isNone &&
      !isReading (some (r.setLevel auth.level))) = true := by
    simp [isReading, SessionRecord.setLevel, position, elsewhere]
  have counted : ∃ n, db StoreError.display (countFor auth) h' = (.ok n, h') := by
    unfold countFor
    split
    · exact ⟨_, db_query_sure _ reader'.sure⟩
    · exact ⟨_, db_query_sure _ reader'.sure⟩
  obtain ⟨n, counted⟩ := counted
  have reads := reader'.move none .reading (fun r => r.setWorkflow .reading) (by
    rw [← position]
    rfl)
  have introduced : ∃ response, readingIntro session auth room h' =
      (.ok response, { h' with toMemory := h'.toMemory.update session (·.setWorkflow .reading) }) := by
    unfold readingIntro
    rw [bind_ok counted]
    exact ⟨_, rfl⟩
  obtain ⟨response, introduced⟩ := introduced
  refine ⟨response, _, _, ?_, ⟨reads, .inr rfl, ?_⟩, position⟩
  · cases forward with
    | true =>
        unfold press handleReadForward
        rw [if_pos rfl, admitted, bind_ok looked, if_pos]
        · exact introduced
        · exact idle
    | false =>
        unfold press handleReadReverse
        rw [if_neg Bool.false_ne_true, admitted, bind_ok looked, if_pos]
        · exact introduced
        · exact idle
  · show Untouched h.store h'.store
    rw [store]
    exact .refl reader.sure

theorem stepping_exact {session : SessionId} {r : SessionRecord} {auth : Auth} {room : Room}
    {h : BbsHost} (reader : Reader session r auth room h) :
    (Engaged r → ∀ forward, ∃ seen h', Presses forward session room h (seen ++ [.ended]) h' ∧
      .ended ∉ seen ∧
      seen.filterMap Seen.shown? = (ahead forward auth h.store.db r.currentMessageId).filter
        (!isBlocked (blockedBy auth h.store.db) ·) ∧
      (seen.filterMap Seen.shown?).Pairwise fun m m' =>
        if forward then m.id < m'.id else m'.id < m.id) ∧
    (¬Engaged r → ∀ forward, ∃ response h' r', press forward session h = (.ok response, h') ∧
      Along session auth room h r' h' ∧ r'.currentMessageId = none) ∧
    (∀ a b later, r.currentMessageId = some a.id → a ∈ inMessages auth h.store.db →
      isBlocked (blockedBy auth h.store.db) a = false →
      (ahead true auth h.store.db (some a.id)).filter
        (!isBlocked (blockedBy auth h.store.db) ·) = b :: later →
      ∃ stops h₁ stops' h₂,
        Presses true session room h (List.replicate stops .more ++ [.shown b]) h₁ ∧
        Presses false session room h₁ (List.replicate stops' .more ++ [.shown a]) h₂) := by
  refine ⟨fun engaged forward => ?_, fun apart forward => press_begins forward reader apart, ?_⟩
  · obtain ⟨seen, looks⟩ := Looks.exist (isBlocked (blockedBy auth h.store.db))
      (show 0 < maxBlockedSkip by decide) (ahead forward auth h.store.db r.currentMessageId)
    obtain ⟨h', presses⟩ := Along.presses looks ⟨reader, engaged, .refl reader.sure⟩ rfl
    have exact_ := looks.exact
    obtain ⟨seen, rfl, others⟩ := looks.last
    rw [List.filterMap_append] at exact_
    have shown : seen.filterMap Seen.shown? = _ := (List.append_nil _).symm.trans exact_
    refine ⟨seen, h', presses, others, shown, ?_⟩
    rw [shown]
    exact (ahead_ordered forward r.currentMessageId).filter _
  · intro a b later position mem kept next
    have along : Along session auth room h r h :=
      ⟨reader, .inl (by rw [position]; rfl), .refl reader.sure⟩
    have there (forward : Bool) (position : Option MessageId) :=
      Looks.exist (isBlocked (blockedBy auth h.store.db)) (show 0 < maxBlockedSkip by decide)
        (ahead forward auth h.store.db position)
    obtain ⟨_, looks⟩ := there true (some a.id)
    obtain ⟨stops, h₁, r₁, presses, along₁, position₁⟩ :=
      along.reaches looks (by rw [position]) next
    obtain ⟨earlier, back⟩ := comes_back mem kept next
    obtain ⟨_, looks'⟩ := there false (some b.id)
    obtain ⟨stops', h₂, r₂, presses', -, -⟩ := along₁.reaches looks' (by rw [position₁]) back
    exact ⟨stops, h₁, stops', h₂, presses, presses'⟩

/-- Alice reads her first post in the Lobby. Bob, whom she has blocked, has posted between that and
her second one. -/
def posting : List Input :=
  [.connect "telnet", .connect "telnet", .command 1 (.loginOneShot .alice "password"),
    .command 2 (.loginOneShot .bob "password"),
    .command 1 (.enterMessage (some "first")), .command 1 (.workflowReply "."),
    .command 2 (.enterMessage (some "spam")), .command 2 (.workflowReply "."),
    .command 1 (.enterMessage (some "last")), .command 1 (.workflowReply "."),
    .command 1 (.blockUser .bob none), .command 1 (.readForward (some 1))]

def readersLobby : BbsHost :=
  posting.foldl deliver (adminCreateUser "bob" "password" 10
    (adminCreateUser "alice" "password" 100 (.fresh .fresh)).2).2

def alices : Auth := ⟨.alice, 1, .sysop, lobby⟩

theorem alice_reads : ∃ r room, readersLobby.sessions.get? 1 = some r ∧
    Reader 1 r alices room readersLobby :=
  Reader.known (by decide +kernel) (by decide +kernel) (by decide +kernel) (.inl (by decide))
    (.inl (by decide)) (by decide +kernel)

def alicesPost (content : String) (id : MessageId) : Message := ⟨⟨.alice, none, content, 0⟩, id⟩

theorem stepping_exact_alice : ∃ stops h₁ stops' h₂ room,
    Presses true 1 room readersLobby
      (List.replicate stops .more ++ [.shown (alicesPost "last" 3)]) h₁ ∧
    Presses false 1 room h₁
      (List.replicate stops' .more ++ [.shown (alicesPost "first" 1)]) h₂ := by
  obtain ⟨r, room, found, reader⟩ := alice_reads
  have position : (readersLobby.sessions.get? 1).bind (·.currentMessageId) = some 1 := by
    decide +kernel
  rw [found] at position
  obtain ⟨-, -, back⟩ := stepping_exact reader
  obtain ⟨stops, h₁, stops', h₂, forth, back⟩ := back (alicesPost "first" 1) (alicesPost "last" 3) []
    position (by decide +kernel) (by decide +kernel) (by decide +kernel)
  exact ⟨stops, h₁, stops', h₂, room, forth, back⟩

end SupplyDrop.Proof.Stepping
