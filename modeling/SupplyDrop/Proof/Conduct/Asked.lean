import Mathlib
import SupplyDrop.Proof.Conduct.Invariant

namespace SupplyDrop.Proof
open Library Library.Program Store Host

/-! ## What is done before a command is looked at -/

/-- The session goes on as it was, its workflow dropped and its last outcome forgotten at most. -/
structure Subdued (r r' : SessionRecord) : Prop where
  same : r' = { r with workflow := r'.workflow, lastPostConfirmation := r'.lastPostConfirmation }
  workflow : r'.workflow = r.workflow ∨ r'.workflow = .none
  outcome : r'.lastPostConfirmation = r.lastPostConfirmation ∨ r'.lastPostConfirmation = none

theorem Subdued.refl (r : SessionRecord) : Subdued r r := ⟨rfl, .inl rfl, .inl rfl⟩

theorem Subdued.plain {r r' : SessionRecord} (h : Subdued r r') : Plain r r' := by
  have harmless : Harmless .none := trivial
  have workflow : r'.workflow = r.workflow ∨ Harmless r'.workflow := by
    rcases h.workflow with same | none_
    · exact .inl same
    · rw [none_]
      exact .inr harmless
  have same := h.same
  exact ⟨by rw [same], by rw [same], by rw [same], by rw [same], workflow, h.outcome⟩

structure Ready (m m' : Memory) : Prop where
  guestRoom : m'.guestRoomId = m.guestRoomId
  policy : m'.accessPolicy = m.accessPolicy
  reported : Reported m m'
  live : ∀ id, (m.sessions.get? id).isSome → (m'.sessions.get? id).isSome
  sessions : ∀ id r', m'.sessions.get? id = some r' →
    ∃ r, m.sessions.get? id = some r ∧ Subdued r r'

theorem Ready.quiet {m m' : Memory} (h : Ready m m') : Quiet m m' where
  guestRoom := h.guestRoom
  seq := h.reported.seq.ge
  sessions := by
    intro id r' found
    obtain ⟨r, before, subdued⟩ := h.sessions id r' found
    exact .inl ⟨r, before, subdued.plain⟩

theorem Ready.emit {m : Memory} {event : DomainEvent} (passing : Passing event) :
    Ready m (m.emit event) :=
  ⟨rfl, rfl, .emit passing, fun _ => id, fun _ r found => ⟨r, found, .refl r⟩⟩

theorem Ready.update {m : Memory} {session : SessionId} {f : SessionRecord → SessionRecord}
    (each : ∀ r, Subdued r (f r)) : Ready m (m.update session f) := by
  refine ⟨rfl, rfl, .update, fun id there => ?_, fun id r' found => ?_⟩
  · unfold Memory.update
    rw [RowTable.get?_update]
    split <;> simpa using there
  unfold Memory.update at found
  rw [RowTable.get?_update] at found
  split at found
  · obtain ⟨r, before, rfl⟩ := Option.map_eq_some_iff.mp found
    exact ⟨r, before, each r⟩
  · exact ⟨r', found, .refl r'⟩

/-- A fact about the host that is still true when the command of a session is looked at. -/
structure Lasting (P : BbsHost → Prop) : Prop extends Stable P where
  ready : ∀ h m, P h → Ready h.toMemory m → P { h with toMemory := m }

namespace Lasting
variable {P J : BbsHost → Prop} {session : SessionId}

theorem keeps_poke (lasting : Lasting P) {f : Memory → Memory} (ready : ∀ m, Ready m (f m)) :
    Keeps P (poke f) := fun h holds => lasting.ready h _ holds (ready h.toMemory)

theorem keeps_clearWorkflow (lasting : Lasting P) : Keeps P (clearWorkflow session) := by
  have ready (m : Memory) : Ready m (m.update session fun r => r.setWorkflow .none) :=
    .update fun _ => ⟨rfl, .inr rfl, .inl rfl⟩
  exact lasting.keeps_poke ready

theorem keeps_accountBarred (lasting : Lasting P) (userId : UserId) :
    Keeps P (accountBarred userId) := by
  apply Keeps.bind (Stable.keeps_tryDb (lasting.ordinary (.getUser userId)))
  intro user
  split
  · exact .ret _
  · exact .ret _
  · next u =>
    cases u.status with
    | active => exact .ret _
    | banned => exact .bind (lasting.resolve u) fun _ => .ret _
    | deleted => exact .ret _

theorem ensures_barred (lasting : Lasting P) (weaker : ∀ h, P h → J h)
    (quiet : ∀ h m, J h → Quiet h.toMemory m → Reported h.toMemory m → J { h with toMemory := m }) :
    Ensures J P (logOutIfAccountBarred session) fun barred h => J h ∧ (barred = none → P h) := by
  apply Ensures.bind (Q := fun _ => P) (.gets fun h holds => ⟨weaker h holds, holds⟩)
  intro userId
  cases userId with
  | none => exact .ret fun h holds => ⟨weaker h holds, weaker h holds, fun _ => holds⟩
  | some userId =>
      have kept := (Ensures.ofKeeps (lasting.keeps_accountBarred userId)).weaken weaker
      apply kept.bind
      intro barred
      cases barred with
      | none => exact .ret fun h holds => ⟨weaker h holds, weaker h holds, fun _ => holds⟩
      | some barred =>
          have out : Keeps J (poke fun m => m.logOutAccount userId session barred.reason) :=
            fun h holds => quiet h _ holds .logOutAccount .logOutAccount
          apply ((Ensures.ofKeeps out).conseq weaker fun _ _ => id).bind
          intro _
          exact .ret fun h holds => ⟨holds, holds, nofun⟩

/-- A command that is looked at where `P` holds keeps `J`, as every command does that is not. -/
theorem through (lasting : Lasting P) (weaker : ∀ h, P h → J h)
    (quiet : ∀ h m, J h → Quiet h.toMemory m → Reported h.toMemory m → J { h with toMemory := m })
    {onReply : SessionId → String → HostM Response} {cmd : Command}
    (rest : ∀ h, P h → J (dispatch onReply session cmd h).2) (h : BbsHost) (holds : P h) :
    J (processWith onReply session cmd h).2 := by
  have announced : Keeps P (announce session cmd) := by
    unfold announce
    split
    · exact .ret _
    · exact .bind (.gets _) fun _ => lasting.keeps_poke fun _ => .emit trivial
  have forgot : Keeps P (forgetOutcome session cmd) := by
    apply Keeps.bind (.gets _)
    intro onRadio
    split
    · exact .ret _
    · exact lasting.keeps_poke fun _ => .update fun _ => ⟨rfl, .inl rfl, .inr rfl⟩
  have rest' : Ensures J P (dispatch onReply session cmd) fun _ _ => True :=
    fun h holds => ⟨rest h holds, fun _ _ => trivial⟩
  have whole : Ensures J P (processWith onReply session cmd) fun _ _ => True := by
    apply (lasting.ensures_barred weaker quiet).bind
    intro barred
    cases barred with
    | some response => exact .ret fun h holds => ⟨holds.1, trivial⟩
    | none =>
        have onward : Ensures J P (do
            announce session cmd
            forgetOutcome session cmd
            dispatch onReply session cmd) fun _ _ => True := by
          apply ((Ensures.ofKeeps announced).weaken weaker).bind
          intro _
          apply ((Ensures.ofKeeps forgot).weaken weaker).bind
          exact fun _ => rest'
        exact onward.conseq (fun h holds => holds.2 rfl) fun _ _ => id
  exact (whole h holds).1

end Lasting

/-! ## The commands that a command asks for -/

def OnRoomList (h : BbsHost) (session : SessionId) : Prop :=
  ∃ r roomIds next, h.sessions.get? session = some r ∧ r.workflow = .rooms roomIds next

/-- The command itself, and the one that is typed in the list of rooms. -/
def Asks (h : BbsHost) (session : SessionId) (cmd asked : Command) : Prop :=
  asked = cmd ∨ ∃ reply, cmd = .workflowReply reply ∧ OnRoomList h session ∧
    asked = Command.parse (Text.trim reply) false

theorem onList {h : BbsHost} {session : SessionId} {roomIds : List RoomId} {next : Option Nat}
    (known : (h.sessions.get? session).map (·.workflow) = some (.rooms roomIds next)) :
    OnRoomList h session := by
  obtain ⟨r, found, listed⟩ := Option.map_eq_some_iff.mp known
  exact ⟨r, roomIds, next, found, listed⟩

section Reply
variable {h : BbsHost} {session : SessionId} (processFresh : SessionId → Command → HostM Response)
  (reply : String)

theorem reply_none (known : (h.sessions.get? session).map (·.workflow) = none) :
    handleWorkflowReply processFresh session reply h = (.error (.unknownSession session), h) := by
  unfold handleWorkflowReply
  rw [Program.bind_apply, workflowOf, peek_apply, known]
  rfl

theorem reply_some {workflow : Workflow}
    (known : (h.sessions.get? session).map (·.workflow) = some workflow) :
    handleWorkflowReply processFresh session reply h =
      (match if isAuthWorkflow workflow then authEscape reply else none with
        | some escape => restartAuth session escape
        | none => dispatchReply processFresh session workflow reply) h := by
  have read : workflowOf session h = (.ok (some workflow), h) := by
    rw [workflowOf, peek_apply, known]
  exact Program.bind_ok read

end Reply

section Commands
variable {J : BbsHost → Prop} {Safe : Command → BbsHost → Prop}

theorem lasting_asks (lasting : ∀ c, Lasting fun h => J h ∧ Safe c h) (session : SessionId)
    (cmd : Command) : Lasting fun h => J h ∧ ∀ c, Asks h session cmd c → Safe c h where
  aside h s holds aside later := by
    have each (c : Command) (asks : Asks h session cmd c) :=
      (lasting c).aside h s ⟨holds.1, holds.2 c asks⟩ aside later
    exact ⟨(each cmd (.inl rfl)).1, fun c asks => (each c asks).2⟩
  lift h s id holds later wrote := by
    have each (c : Command) (asks : Asks h session cmd c) :=
      (lasting c).lift h s id ⟨holds.1, holds.2 c asks⟩ later wrote
    exact ⟨(each cmd (.inl rfl)).1, fun c asks => (each c asks).2⟩
  ready h m holds ready := by
    have each (c : Command) (asks : Asks h session cmd c) :=
      (lasting c).ready h m ⟨holds.1, holds.2 c asks⟩ ready
    refine ⟨(each cmd (.inl rfl)).1, fun c asks => (each c ?_).2⟩
    rcases asks with same | ⟨reply, replied, ⟨r', roomIds, next, found, listed⟩, same⟩
    · exact .inl same
    · obtain ⟨r, before, subdued⟩ := ready.sessions session r' found
      rcases subdued.workflow with kept | none_
      · exact .inr ⟨reply, replied, ⟨r, roomIds, next, before, by rw [← kept]; exact listed⟩, same⟩
      · rw [none_] at listed
        cases listed

theorem roomsReply_keeps {session : SessionId} {P : BbsHost → Prop}
    {reply : String} (lasting : Lasting fun h => J h ∧ P h)
    (list : ∀ start h, J h → J (handleListRoomsFrom session start h).2)
    (change : ∀ target h, J h → J (handleChangeRoom session target h).2)
    (fresh : ∀ h, J h → P h →
      J (processFresh session (Command.parse (Text.trim reply) false) h).2)
    (roomIds : List RoomId) (next : Option Nat) :
    ∀ h, J h ∧ P h → J (roomsReply processFresh session roomIds next reply h).2 := by
  have cleared : Ensures J (fun h => J h ∧ P h) (clearWorkflow session) fun _ h => J h ∧ P h :=
    (Ensures.ofKeeps lasting.keeps_clearWorkflow).weaken fun _ holds => holds.1
  have changed (target : String) :
      Ensures J (fun h => J h ∧ P h) (handleChangeRoom session target) fun _ _ => True :=
    fun h holds => ⟨change target h holds.1, fun _ _ => trivial⟩
  have leave : Ensures J (fun h => J h ∧ P h)
      (leaveRoomList processFresh session (Text.trim reply)) fun _ _ => True := by
    apply cleared.bind
    intro _
    dsimp only
    split
    · exact changed _
    · exact fun h holds => ⟨fresh h holds.1 holds.2, fun _ _ => trivial⟩
  have choose : Ensures J (fun h => J h ∧ P h)
      (chooseRoom processFresh session roomIds (Text.trim reply)) fun _ _ => True := by
    unfold chooseRoom
    split
    · exact cleared.bind fun _ => changed _
    · exact leave
  have whole : Ensures J (fun h => J h ∧ P h)
      (roomsReply processFresh session roomIds next reply) fun _ _ => True := by
    unfold roomsReply
    dsimp only
    split
    · exact cleared.bind fun _ => .ret fun h holds => ⟨holds.1, trivial⟩
    · split
      · cases next with
        | none => exact choose
        | some next => exact fun h holds => ⟨list next h holds.1, fun _ _ => trivial⟩
      · exact choose
  exact fun h holds => (whole h holds).1

/-- Every command keeps `J` that asks for nothing that is not safe, if the handlers do. -/
theorem Lasting.command (lasting : ∀ c, Lasting fun h => J h ∧ Safe c h)
    (quiet : ∀ h m, J h → Quiet h.toMemory m → Reported h.toMemory m → J { h with toMemory := m })
    {session : SessionId} {cmd : Command}
    (list : ∀ start h, J h → J (handleListRoomsFrom session start h).2)
    (change : ∀ target h, J h → J (handleChangeRoom session target h).2)
    (commands : ∀ c onReply h, (∀ text, c ≠ .workflowReply text) → J h → Safe c h →
      J (dispatch onReply session c h).2)
    (replies : ∀ workflow reply h, cmd = .workflowReply reply →
      (∀ roomIds next, workflow ≠ .rooms roomIds next) → (h.sessions.get? session).map (·.workflow) =
        some workflow → J h → Safe cmd h → J (dispatchReply processFresh session workflow reply h).2)
    (restart : ∀ escape h, J h → Safe cmd h → J (restartAuth session escape h).2)
    (h : BbsHost) (holds : J h) (safe : ∀ c, Asks h session cmd c → Safe c h) :
    J (processCommand session cmd h).2 := by
  have fresh (c : Command) (h : BbsHost) (holds : J h) (safe : Safe c h) :
      J (processFresh session c h).2 := by
    apply (lasting c).through (fun _ holds => holds.1) quiet ?_ h ⟨holds, safe⟩
    rintro h ⟨holds, safe⟩
    by_cases isReply : ∃ text, c = .workflowReply text
    · obtain ⟨text, rfl⟩ := isReply
      exact holds
    · push Not at isReply
      exact commands c _ h isReply holds safe
  have rooms (reply : String) (roomIds : List RoomId) (next : Option Nat) (h : BbsHost)
      (holds : J h) (safe : Safe (Command.parse (Text.trim reply) false) h) :
      J (roomsReply processFresh session roomIds next reply h).2 := by
    have typed := fresh (Command.parse (Text.trim reply) false)
    have stays := lasting (Command.parse (Text.trim reply) false)
    exact roomsReply_keeps stays list change typed roomIds next h ⟨holds, safe⟩
  apply (lasting_asks lasting session cmd).through (fun _ holds => holds.1) quiet ?_ h
    ⟨holds, safe⟩
  rintro h ⟨holds, safe⟩
  by_cases isReply : ∃ reply, cmd = .workflowReply reply
  · obtain ⟨reply, rfl⟩ := isReply
    show J (handleWorkflowReply processFresh session reply h).2
    cases known : (h.sessions.get? session).map (·.workflow) with
    | none =>
        rw [reply_none processFresh reply known]
        exact holds
    | some workflow =>
        rw [reply_some processFresh reply known]
        cases (if isAuthWorkflow workflow then authEscape reply else none) with
        | some escape => exact restart escape h holds (safe _ (.inl rfl))
        | none =>
          dsimp only
          by_cases listed : ∃ roomIds next, workflow = .rooms roomIds next
          · obtain ⟨roomIds, next, rfl⟩ := listed
            exact rooms reply roomIds next h holds (safe _ (.inr ⟨reply, rfl, onList known, rfl⟩))
          · push Not at listed
            exact replies workflow reply h rfl listed known holds (safe _ (.inl rfl))
  · push Not at isReply
    exact commands cmd _ h isReply holds (safe cmd (.inl rfl))

theorem Invariant.command {has : Power → Prop} (inv : Invariant J has)
    (lasting : ∀ c, Lasting fun h => J h ∧ Safe c h) {session : SessionId} {cmd : Command}
    (change : ∀ target h, J h → J (handleChangeRoom session target h).2)
    (commands : ∀ c onReply h, (∀ text, c ≠ .workflowReply text) → J h → Safe c h →
      J (dispatch onReply session c h).2)
    (replies : ∀ workflow reply h, cmd = .workflowReply reply →
      (∀ roomIds next, workflow ≠ .rooms roomIds next) → (h.sessions.get? session).map (·.workflow) =
        some workflow → J h → Safe cmd h → J (dispatchReply processFresh session workflow reply h).2)
    (restart : ∀ escape h, J h → Safe cmd h → J (restartAuth session escape h).2)
    (h : BbsHost) (holds : J h) (safe : ∀ c, Asks h session cmd c → Safe c h) :
    J (processCommand session cmd h).2 := by
  have list (start : Nat) := Discipline.keeping_iff.mp (inv.conduct.handleListRoomsFrom session start)
  exact Lasting.command lasting (fun h m holds quiet _ => inv.quiet h m holds quiet) list change
    commands replies restart h holds safe

end Commands
end SupplyDrop.Proof
