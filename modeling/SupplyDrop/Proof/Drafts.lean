import Mathlib
import SupplyDrop.Library.Run
import SupplyDrop.Proof.Conduct.Asked
import SupplyDrop.Proof.Conduct.Effects
import SupplyDrop.Proof.ReadState
import SupplyDrop.Proof.Suspensions

namespace SupplyDrop.Proof.Drafts
open Library Library.Program Store Host ReadState

/-! ## What is stored of a draft -/

/-- A message is stored, in the room or for its recipient alone. -/
def sent (room : RoomId) (row : MessageRow) (db : Database) : Database :=
  { db with
    messages := db.messages.insert row
    roomMessages := if row.recipient.isSome then db.roomMessages
      else insert (room, db.messages.seq + 1) db.roomMessages }

theorem postDirect_sends (room : RoomId) (sender recipient : Username) (content : String)
    (time : Timestamp) (s : Storage) :
    let result := MessageStore.postDirect sender recipient content time s
    (∃ e, result.1 = .error e) ∧ result.2.db = s.db ∨ (∃ id, result.1 = .ok id) ∧
      result.2.db = sent room ⟨sender, some recipient, content, time⟩ s.db := by
  rcases ran : MessageStore.postDirect sender recipient content time s with ⟨r, s'⟩
  cases r with
  | error e =>
      unfold MessageStore.postDirect MessageStore.insertMessage at ran
      have kept := insertRow_error (congrArg Prod.fst ran)
      rw [ran] at kept
      exact .inl ⟨⟨e, rfl⟩, kept⟩
  | ok id => exact .inr ⟨⟨id, rfl⟩, (insertMessage_ok ran).2⟩

theorem postToRoom_sends (room : RoomId) (sender : Username) (content : String) (time : Timestamp)
    (s : Storage) :
    let result := MessageStore.postToRoom room sender content time s
    (∃ e, result.1 = .error e) ∧ result.2.db = s.db ∨ (∃ id, result.1 = .ok id) ∧
      result.2.db = sent room ⟨sender, none, content, time⟩ s.db := by
  rcases ran : MessageStore.postToRoom room sender content time s with ⟨r, s'⟩
  cases r with
  | error e =>
      have kept := transaction_error (congrArg Prod.fst ran)
      rw [show transaction _ s = _ from ran] at kept
      exact .inl ⟨⟨e, rfl⟩, kept⟩
  | ok id =>
      refine .inr ⟨⟨id, rfl⟩, ?_⟩
      obtain ⟨s₁, s₂, begun, body, committed⟩ := transaction_ok ran
      obtain ⟨id', s₃, inserted, body⟩ := Program.bind_eq_ok body
      obtain ⟨_, s₄, joined, body⟩ := Program.bind_eq_ok body
      cases body
      obtain ⟨rfl, filled⟩ := insertMessage_ok inserted
      have wrote := insertRoomMessage_ok joined
      rw [filled, begun] at wrote
      exact committed.trans wrote

theorem post_sends (room : RoomId) (sender : Username) (recipient : Option Username) (body : String)
    (h : BbsHost) : ∃ r s, post room sender recipient body h = (r, { h with store := s }) ∧
      ((∃ e, r = .error e) ∧ s.db = h.store.db ∨ (∃ a, r = .ok a) ∧
        s.db = sent room ⟨sender, recipient, body, h.store.now⟩ h.store.db) := by
  unfold post
  rw [bind_apply, now_apply]
  dsimp only
  cases recipient with
  | some recipient =>
      have stored := postDirect_sends room sender recipient body h.store.now h.store
      rcases ran : MessageStore.postDirect sender recipient body h.store.now h.store with ⟨r, s⟩
      rw [ran] at stored
      cases r with
      | error e => exact ⟨_, s, bind_error (db_error ran), .inl ⟨⟨_, rfl⟩, by simpa using stored⟩⟩
      | ok id => exact ⟨_, s, bind_ok (db_ok ran), .inr ⟨⟨_, rfl⟩, by simpa using stored⟩⟩
  | none =>
      have stored := postToRoom_sends room sender body h.store.now h.store
      rcases ran : MessageStore.postToRoom room sender body h.store.now h.store with ⟨r, s⟩
      rw [ran] at stored
      cases r with
      | error e => exact ⟨_, s, bind_error (db_error ran), .inl ⟨⟨_, rfl⟩, by simpa using stored⟩⟩
      | ok id => exact ⟨_, s, bind_ok (db_ok ran), .inr ⟨⟨_, rfl⟩, by simpa using stored⟩⟩

/-- Nothing is stored, or the draft is, and the session is idle then. -/
theorem sendDraft_sends (session : SessionId) (room : RoomId) (recipient : Option Username)
    (body : String) (h : BbsHost) :
    let h' := (sendDraft session room recipient body h).2
    h'.store.db = h.store.db ∧ h'.sessions = h.sessions ∨
      ∃ r sender outcome, h.sessions.get? session = some r ∧ r.username = some sender ∧
        h'.store.db = sent room ⟨sender, recipient, body, h.store.now⟩ h.store.db ∧
        h'.sessions = h.sessions.update session fun r => r.concluded outcome := by
  unfold sendDraft
  rw [bind_apply, lookUp, peek_apply]
  dsimp only
  cases found : h.sessions.get? session with
  | none => exact .inl ⟨rfl, rfl⟩
  | some r =>
      cases named : r.username with
      | none =>
          rw [show (some r).bind (·.username) = none from named]
          exact .inl ⟨rfl, rfl⟩
      | some sender =>
          rw [show (some r).bind (·.username) = some sender from named]
          dsimp only
          obtain ⟨result, s, ran, ⟨⟨e, failed⟩, kept⟩ | ⟨⟨a, done⟩, stored⟩⟩ :=
            post_sends room sender recipient body h
          · rw [failed] at ran
            rw [bind_error ran]
            exact .inl ⟨kept, rfl⟩
          · rw [done] at ran
            rw [bind_ok ran]
            obtain ⟨id, target, confirmation⟩ := a
            exact .inr ⟨r, sender, confirmation, rfl, named, stored, rfl⟩

/-! ## What is stored at all -/

/-- What users wrote and where it was put since `d` is as said. -/
structure Told (d : Database) (said : MessageId → MessageRow → Prop)
    (placed : RoomId → MessageId → Prop) (db : Database) : Prop where
  messages : ∀ id row, db.messages.get? id = some row → d.messages.get? id = none →
    row.sender ≠ .bbs → said id row
  places : ∀ room id, (room, id) ∈ db.roomMessages → (room, id) ∉ d.roomMessages → placed room id

section Told
variable {d db db' : Database} {said : MessageId → MessageRow → Prop}
  {placed : RoomId → MessageId → Prop}

theorem Told.same (told : Told d said placed db) (messages : db'.messages = db.messages)
    (places : db'.roomMessages = db.roomMessages) : Told d said placed db' where
  messages id row stored := told.messages id row (by rw [← messages]; exact stored)
  places room id put := told.places room id (by rw [← places]; exact put)

theorem Told.effect {p : Power} (told : Told d said placed db) (effect : Effect db p db')
    (other : p ≠ .post) : Told d said placed db' := by
  cases effect with
  | @notified row sender direct =>
      refine ⟨fun id r stored new user => ?_, told.places⟩
      dsimp only at stored
      rw [RowTable.get?_insert] at stored
      split at stored
      · cases stored
        exact absurd sender user
      · exact told.messages id r stored new user
  | @erased gone =>
      refine ⟨fun id r stored new user => ?_, fun room id put => ?_⟩
      · have stored : (db.messages.erase gone).get? id = some r := stored
        rw [RowTable.get?_erase] at stored
        split at stored
        · cases stored
        · exact told.messages id r stored new user
      · exact told.places room id (Finset.mem_of_mem_filter _ put)
  | razed =>
      exact ⟨told.messages, fun room id put => told.places room id (Finset.mem_of_mem_filter _ put)⟩
  | posted | mailed => exact absurd rfl other
  | kept | enrolled | stood | graded | reset | pardoned | opened | edited => exact told.same rfl rfl

/-- Only what posts stores what a user wrote. -/
theorem told_invariant (d : Database) (said : MessageId → MessageRow → Prop)
    (placed : RoomId → MessageId → Prop) :
    Invariant (fun h => Told d said placed h.store.db) (· ≠ .post) where
  aside h s told aside _ := told.same aside.messages aside.roomMessages
  lift h s id told _ wrote := told.same (by rw [wrote]) (by rw [wrote])
  quiet _ _ told _ := told
  powered powered other h told := told.effect (powered_effect powered h.store) other
  patch id status level _ _ h told := by
    obtain ⟨-, kept | wrote⟩ := update_fields id status level h.store
    · exact told.same (by rw [kept]) (by rw [kept])
    · exact told.same (by rw [wrote]) (by rw [wrote])
  bind _ _ _ _ _ _ _ told := told
  hold _ _ _ _ _ _ told := told
  guest _ _ _ told := told
  move _ _ _ _ told := told
  draft _ _ _ _ _ told := told
  conclude _ _ _ _ told := told

/-- Nothing that a user wrote. -/
abbrev Silent (d db : Database) : Prop := Told d (fun _ _ => False) (fun _ _ => False) db

/-- The discipline of handlers that store nothing of what users write. -/
abbrev silence (d : Database) : Conduct :=
  (told_invariant d (fun _ _ => False) fun _ _ => False).conduct

theorem Silent.told (silent : Silent d db) : Told d said placed db :=
  ⟨fun id row stored new user => (silent.messages id row stored new user).elim,
    fun room id put new => (silent.places room id put new).elim⟩

theorem silent_refl (db : Database) : Silent db db :=
  ⟨fun id row stored new => absurd (new.symm.trans stored) (by simp), fun _ _ put new => new put⟩

end Told

/-! ## Commands -/

/-- Whether a `.` now sends a draft. -/
def showsDraft : Workflow → Bool
  | .compose _ (.awaitingConfirmation _ _) => true
  | _ => false

def Idle (h : BbsHost) (session : SessionId) : Prop :=
  ∀ r, h.sessions.get? session = some r → showsDraft r.workflow = false

section Commands
variable (h₀ : BbsHost) (session : SessionId) (cmd : Command)

def Dot : Prop := ∃ reply, cmd = .workflowReply reply ∧ Text.trim reply = "."

/-- A `.` that sends the draft the session shows. -/
def Sends (room : RoomId) (sender recipient : Option Username) (body : String) : Prop :=
  Dot cmd ∧ ∃ r, h₀.sessions.get? session = some r ∧ r.username = sender ∧
    r.workflow = .compose room (.awaitingConfirmation recipient body)

/-- A message with the next number, and nothing else, is what the draft was. -/
def Said (id : MessageId) (row : MessageRow) : Prop :=
  id = h₀.store.db.messages.seq + 1 ∧
    ∃ room, Sends h₀ session cmd room (some row.sender) row.recipient row.content

def Placed (room : RoomId) (id : MessageId) : Prop :=
  id = h₀.store.db.messages.seq + 1 ∧ ∃ sender body, Sends h₀ session cmd room sender none body

def Kept (h : BbsHost) : Prop :=
  Told h₀.store.db (Said h₀ session cmd) (Placed h₀ session cmd) h.store.db ∧
    (Silent h₀.store.db h.store.db ∨ Idle h session)

/-- The command of the session is still to be looked at. -/
structure Linked (h : BbsHost) : Prop where
  messages : h.store.db.messages = h₀.store.db.messages
  places : h.store.db.roomMessages = h₀.store.db.roomMessages
  session : ∀ r', h.sessions.get? session = some r' → ∃ r, h₀.sessions.get? session = some r ∧
    r'.username = r.username ∧ (r'.workflow = r.workflow ∨ r'.workflow = .none)

variable {h₀ session cmd} {h : BbsHost}

theorem Linked.silent (linked : Linked h₀ session h) : Silent h₀.store.db h.store.db :=
  (silent_refl _).same linked.messages linked.places

theorem kept_silent (silent : Silent h₀.store.db h.store.db) : Kept h₀ session cmd h :=
  ⟨silent.told, .inl silent⟩

theorem Idle.update {other : SessionId} {f : SessionRecord → SessionRecord} (idle : Idle h session)
    (each : ∀ r, showsDraft r.workflow = false → showsDraft (f r).workflow = false) :
    Idle { h with toMemory := h.toMemory.update other f } session := by
  intro r' found
  have found : (h.sessions.update other f).get? session = some r' := found
  rw [RowTable.get?_update] at found
  split at found
  · obtain ⟨r, before, rfl⟩ := Option.map_eq_some_iff.mp found
    exact each r (idle r before)
  · exact idle r' found

theorem kept_invariant : Invariant (Kept h₀ session cmd) fun p => p ≠ .post ∧ p ≠ .draft where
  aside h s kept aside later := by
    refine ⟨kept.1.same aside.messages aside.roomMessages, ?_⟩
    exact kept.2.imp_left fun silent => silent.same aside.messages aside.roomMessages
  lift h s id kept later wrote := by
    refine ⟨kept.1.same (by rw [wrote]) (by rw [wrote]), ?_⟩
    exact kept.2.imp_left fun silent => silent.same (by rw [wrote]) (by rw [wrote])
  quiet h m kept quiet := by
    refine ⟨kept.1, kept.2.imp_right fun idle r' found => ?_⟩
    rcases quiet.sessions session r' found with ⟨r, before, plain⟩ | ⟨transport, rfl⟩
    · rcases plain.workflow with same | harmless
      · rw [same]
        exact idle r before
      · cases workflow : r'.workflow with
        | compose roomId stage =>
            rw [workflow] at harmless
            exact harmless.elim
        | _ => rfl
    · rfl
  powered powered other h kept := by
    have effect := powered_effect powered h.store
    exact ⟨kept.1.effect effect other.1, kept.2.imp_left fun silent => silent.effect effect other.1⟩
  patch id status level _ _ h kept := by
    have users := (update_fields id status level h.store).2
    have messages : (UserStore.update id none status level none h.store).2.db.messages =
        h.store.db.messages := by
      rcases users with same | wrote
      · rw [same]
      · rw [wrote]
    have places : (UserStore.update id none status level none h.store).2.db.roomMessages =
        h.store.db.roomMessages := by
      rcases users with same | wrote
      · rw [same]
      · rw [wrote]
    exact ⟨kept.1.same messages places, kept.2.imp_left fun silent => silent.same messages places⟩
  bind _ h other username userId level room kept :=
    ⟨kept.1, kept.2.imp_right fun idle => idle.update fun _ _ => rfl⟩
  hold _ h other username userId stage kept :=
    ⟨kept.1, kept.2.imp_right fun idle => idle.update fun _ _ => rfl⟩
  guest _ _ _ kept := kept
  move _ h other roomId kept := by
    refine ⟨kept.1, kept.2.imp_right fun idle => idle.update fun r shown => ?_⟩
    unfold SessionRecord.moveTo
    split
    · rfl
    · exact shown
  draft other := absurd rfl other.2
  conclude other := absurd rfl other.1

theorem kept_lasting : Lasting fun h => Kept h₀ session cmd h ∧ Linked h₀ session h where
  aside h s holds aside later :=
    ⟨kept_invariant.aside h s holds.1 aside later,
      aside.messages.trans holds.2.messages, aside.roomMessages.trans holds.2.places, holds.2.session⟩
  lift h s id holds later wrote := by
    refine ⟨kept_invariant.lift h s id holds.1 later wrote, ?_, ?_, holds.2.session⟩
    · show s.db.messages = _
      rw [wrote]
      exact holds.2.messages
    · show s.db.roomMessages = _
      rw [wrote]
      exact holds.2.places
  ready h m holds ready := by
    refine ⟨kept_invariant.quiet h m holds.1 ready.quiet, holds.2.messages, holds.2.places, ?_⟩
    intro r'' found
    obtain ⟨r', between, subdued⟩ := ready.sessions session r'' found
    obtain ⟨r, before, named, workflow⟩ := holds.2.session r' between
    refine ⟨r, before, ?_, ?_⟩
    · rw [subdued.same]
      exact named
    · rcases subdued.workflow with same | none_
      · rw [same]
        exact workflow
      · exact .inr none_

/-- The message that the draft becomes. -/
theorem sent_kept {room : RoomId} {row : MessageRow} {h' : BbsHost} (linked : Linked h₀ session h)
    (sends : Sends h₀ session cmd room (some row.sender) row.recipient row.content)
    (stored : h'.store.db = sent room row h.store.db) (idle : Idle h' session) :
    Kept h₀ session cmd h' := by
  refine ⟨⟨fun id r there new _ => ?_, fun other id put new => ?_⟩, .inr idle⟩
  · have there : (h.store.db.messages.insert row).get? id = some r := by
      rw [stored] at there
      exact there
    rw [RowTable.get?_insert, linked.messages] at there
    split at there
    · next next_ =>
      cases there
      exact ⟨next_, room, sends⟩
    · rw [new] at there
      cases there
  · have put : (other, id) ∈ (sent room row h.store.db).roomMessages := by
      rw [← stored]
      exact put
    unfold sent at put
    dsimp only at put
    split at put
    · rw [linked.places] at put
      exact absurd put new
    · next direct =>
      rw [linked.places, linked.messages] at put
      rcases Finset.mem_insert.mp put with same | old
      · cases same
        rw [show row.recipient = none by simpa using direct] at sends
        exact ⟨rfl, _, _, sends⟩
      · exact absurd old new

theorem sendDraft_kept {room : RoomId} {recipient : Option Username} {body : String} (dot : Dot cmd)
    (linked : Linked h₀ session h) (shown : (h.sessions.get? session).map (·.workflow) =
      some (.compose room (.awaitingConfirmation recipient body))) :
    Kept h₀ session cmd (sendDraft session room recipient body h).2 := by
  rcases sendDraft_sends session room recipient body h with
    ⟨same, -⟩ | ⟨r', sender, outcome, found, named, stored, sessions⟩
  · exact kept_silent (linked.silent.same (by rw [same]) (by rw [same]))
  · obtain ⟨r, before, name, workflow⟩ := linked.session r' found
    have shows : r'.workflow = .compose room (.awaitingConfirmation recipient body) := by
      rw [found] at shown
      exact Option.some.inj shown
    have display : r.workflow = .compose room (.awaitingConfirmation recipient body) := by
      rcases workflow with same | none_
      · exact same.symm.trans shows
      · rw [shows] at none_
        cases none_
    apply sent_kept linked ⟨dot, r, before, name.symm.trans named, display⟩ stored
    intro r'' after
    rw [sessions, RowTable.get?_update, if_pos rfl, found] at after
    cases after
    rfl

theorem composeReply_kept {room : RoomId} {stage : ComposeStage} {reply : String}
    (asked : cmd = .workflowReply reply) (linked : Linked h₀ session h)
    (shown : (h.sessions.get? session).map (·.workflow) = some (.compose room stage)) :
    Kept h₀ session cmd (composeReply session room stage reply h).2 := by
  have silent {m : HostM Response} (holds : (silence h₀.store.db).holds m) :
      Kept h₀ session cmd (m h).2 :=
    kept_silent (Discipline.keeping_iff.mp holds h linked.silent)
  have drafts : Power.draft ≠ .post := by decide
  cases stage with
  | awaitingRecipient => exact silent ((silence _).composeRecipient drafts session room reply)
  | awaitingBody recipient => exact silent ((silence _).composeBody drafts session room recipient reply)
  | awaitingConfirmation recipient body =>
      show Kept h₀ session cmd (composeConfirm session room recipient body reply h).2
      unfold composeConfirm
      split
      · exact kept_silent linked.silent
      · split
        · exact silent ((silence _).stage drafts session room recipient body)
        · next dot => exact sendDraft_kept ⟨reply, asked, by simpa using dot⟩ linked shown

end Commands

theorem takes_quietly (c : Command) : ∀ p ∈ Conduct.takes c, p ≠ .post := by
  cases c <;> simp [Conduct.takes]

theorem processCommand_kept (session : SessionId) (cmd : Command) (h₀ : BbsHost) :
    Kept h₀ session cmd (processCommand session cmd h₀).2 := by
  have silent {h : BbsHost} {m : HostM Response} (linked : Linked h₀ session h)
      (holds : (silence h₀.store.db).holds m) : Kept h₀ session cmd (m h).2 :=
    kept_silent (Discipline.keeping_iff.mp holds h linked.silent)
  have free {p : Power} (other : p ≠ .post) : (silence h₀.store.db).has p := other
  have lasting (_ : Command) : Lasting fun h => Kept h₀ session cmd h ∧ Linked h₀ session h := kept_lasting
  refine Lasting.command lasting ?_ ?_ ?_ ?_ ?_ ?_ h₀ (kept_silent (silent_refl _))
    fun _ _ => ⟨rfl, rfl, fun r found => ⟨r, found, rfl, .inl rfl⟩⟩
  · exact fun h m kept quiet _ => kept_invariant.quiet h m kept quiet
  · intro start
    exact Discipline.keeping_iff.mp (kept_invariant.conduct.handleListRoomsFrom session start)
  · intro target
    have free : Power.move ≠ .post ∧ Power.move ≠ .draft := by decide
    exact Discipline.keeping_iff.mp (kept_invariant.conduct.handleChangeRoom free session target)
  · intro c onReply h fresh _ linked
    exact silent linked ((silence _).dispatch (takes_quietly c) fun text same =>
      absurd same (fresh text))
  · intro workflow reply h asked unlisted shown _ linked
    cases workflow with
    | compose room stage => exact composeReply_kept asked linked shown
    | rooms roomIds next => exact absurd rfl (unlisted roomIds next)
    | _ =>
        apply silent linked
        apply (silence _).dispatchReply
        · exact fun roomIds next same => absurd same (unlisted roomIds next)
        · simp [Conduct.takesReply, Invariant.conduct]
  · intro escape h _ linked
    apply silent linked
    exact (silence _).restartAuth
      ((silence _).createUserAndLogin (free (by decide)) (free (by decide)) (free (by decide)) session)
      ((silence _).finalizeLogin (free (by decide)) session) (free (by decide)) escape

/-! ## Runs -/

theorem deliver_silent {input : Input} (h : BbsHost)
    (other : ∀ session cmd, input ≠ .command session cmd) :
    Silent h.store.db (deliver h input).store.db := by
  have keeps {α : Type} {m : HostM α} (holds : (silence h.store.db).holds m) :
      Silent h.store.db (m h).2.store.db := Discipline.keeping_iff.mp holds h (silent_refl _)
  have free {p : Power} (other : p ≠ .post) : (silence h.store.db).has p := other
  cases input with
  | command session cmd => exact absurd rfl (other session cmd)
  | connect transport => exact keeps ((silence _).open_ transport)
  | disconnect session => exact keeps ((silence _).close (free (by decide)) session)
  | restoreNode session pubkey ttlDays =>
      exact keeps ((silence _).meshNodeRestore (free (by decide)) session pubkey ttlDays)
  | bindNode session pubkey => exact keeps ((silence _).meshNodeBind session pubkey)
  | unbindNode pubkey => exact keeps ((silence _).meshNodeUnbind pubkey)
  | request username request =>
      have handled (caller : CurrentUser) :
          (silence h.store.db).holds (handleRequest caller request) := by
        apply (silence h.store.db).handleRequest
        rintro p mem rfl
        exact absurd (Conduct.takesRequest_subset request mem) (by decide)
      rw [show deliver h (.request username request) = (serve username request h).2 from rfl]
      exact keeps ((silence h.store.db).serve handled)
  | elapse now clock faults => exact silent_refl _

variable {input : Input} {h : BbsHost}

/-- Every message of a user is the draft that a session shows and sends with a `.`: its sender, its
recipient and its text, under the next number. -/
theorem stores_drafts {id : MessageId} {row : MessageRow}
    (stored : (deliver h input).store.db.messages.get? id = some row)
    (new : h.store.db.messages.get? id = none) (user : row.sender ≠ .bbs) :
    ∃ session cmd, input = .command session cmd ∧ Said h session cmd id row ∧
      Idle (deliver h input) session := by
  by_cases commanded : ∃ session cmd, input = .command session cmd
  · obtain ⟨session, cmd, rfl⟩ := commanded
    obtain ⟨told, silent | idle⟩ := processCommand_kept session cmd h
    · exact (silent.messages id row stored new user).elim
    · exact ⟨session, cmd, rfl, told.messages id row stored new user, idle⟩
  · push Not at commanded
    exact ((deliver_silent h commanded).messages id row stored new user).elim

/-- Alice has a post before her. -/
def drafted : BbsHost := List.foldl deliver Suspensions.staffed
  [.connect "telnet", .command 1 (.loginOneShot .alice "password"),
    .command 1 (.enterMessage (some "hello"))]

theorem stores_drafts_hello : ∃ session cmd, Input.command 1 (.workflowReply ".") =
      .command session cmd ∧
    Said drafted session cmd 1 ⟨.alice, none, "hello", Suspensions.staffed.store.now⟩ ∧
    Idle (deliver drafted (.command 1 (.workflowReply "."))) session :=
  stores_drafts (by decide +kernel) (by decide +kernel) (by decide +kernel)

/-- A post is put where it was drafted. -/
theorem places_drafts {room : RoomId} {id : MessageId}
    (put : (room, id) ∈ (deliver h input).store.db.roomMessages)
    (new : (room, id) ∉ h.store.db.roomMessages) :
    ∃ session cmd, input = .command session cmd ∧ Placed h session cmd room id := by
  by_cases commanded : ∃ session cmd, input = .command session cmd
  · obtain ⟨session, cmd, rfl⟩ := commanded
    exact ⟨session, cmd, rfl, (processCommand_kept session cmd h).1.places room id put new⟩
  · push Not at commanded
    exact ((deliver_silent h commanded).places room id put new).elim

theorem places_drafts_hello : ∃ session cmd, Input.command 1 (.workflowReply ".") =
    .command session cmd ∧ Placed drafted session cmd 1 1 :=
  places_drafts (h := drafted) (by decide +kernel) (by decide +kernel)

/-- Whether a `.` of the session would now send a draft. -/
def shows (session : SessionId) (h : BbsHost) : Bool :=
  ((h.sessions.get? session).map (·.workflow)).any showsDraft

/-- Whether a command of the session stores a message. -/
def stores (session : SessionId) (h : BbsHost) : Input → Bool
  | .command s cmd => s = session &&
      ((deliver h (.command s cmd)).store.db.messages.get? (h.store.db.messages.seq + 1)).any
        fun row => row.sender ≠ .bbs
  | _ => false

theorem stores_shown {session : SessionId} (stored : stores session h input = true) :
    shows session h = true ∧ shows session (deliver h input) = false := by
  cases input with
  | command s cmd =>
      simp only [stores, Bool.and_eq_true, decide_eq_true_eq, Option.any_eq_true] at stored
      obtain ⟨rfl, row, there, user⟩ := stored
      obtain ⟨s', cmd', same, ⟨-, room, -, r, found, -, shown⟩, idle⟩ :=
        stores_drafts there (RowTable.get?_fresh _) user
      cases same
      refine ⟨?_, ?_⟩
      · rw [shows, found, Option.map_some, shown]
        rfl
      · rw [shows, Option.any_eq_false]
        intro workflow after
        obtain ⟨r', found', rfl⟩ := Option.map_eq_some_iff.mp after
        simpa using idle r' found'
  | _ => cases stored

/-- However often a session's lines are sent again, it stores no more messages than drafts were put
before it. -/
theorem drafts_posted_once (session : SessionId) (inputs : List Input) (h : BbsHost) :
    occurrences deliver (stores session) inputs h ≤
      occurrences deliver (fun h input => !shows session h && shows session (deliver h input)) inputs h +
        if shows session h then 1 else 0 :=
  occurrences_le (fun _ _ => stores_shown) inputs h

/-! ## Mail -/

def Addressed : ComposeStage → Prop
  | .awaitingRecipient => True
  | .awaitingBody recipient => recipient.isSome
  | .awaitingConfirmation recipient _ => recipient.isSome

/-- No post is in Mail, and no draft there is without a recipient. -/
structure Confidential (h : BbsHost) : Prop where
  places : ∀ id, (mail, id) ∉ h.store.db.roomMessages
  drafts : ∀ session r stage, h.sessions.get? session = some r → r.workflow = .compose mail stage →
    Addressed stage

theorem Confidential.stored {s : Storage} (confidential : Confidential h)
    (places : s.db.roomMessages ⊆ h.store.db.roomMessages) : Confidential { h with store := s } :=
  ⟨fun id put => confidential.places id (places put), confidential.drafts⟩

theorem Confidential.update {f : SessionRecord → SessionRecord} (confidential : Confidential h)
    (session : SessionId) (each : ∀ r stage, h.sessions.get? session = some r →
      (f r).workflow = .compose mail stage → Addressed stage ∨ r.workflow = .compose mail stage) :
    Confidential { h with toMemory := h.toMemory.update session f } := by
  refine ⟨confidential.places, fun other r' stage found drafts => ?_⟩
  have found : (h.sessions.update session f).get? other = some r' := found
  rw [RowTable.get?_update] at found
  split at found
  · next same =>
    rw [same] at found
    obtain ⟨r, before, rfl⟩ := Option.map_eq_some_iff.mp found
    rcases each r stage before drafts with addressed | kept
    · exact addressed
    · exact confidential.drafts session r stage before kept
  · exact confidential.drafts other r' stage found drafts

theorem effect_places {db db' : Database} {p : Power} (effect : Effect db p db') (other : p ≠ .post) :
    db'.roomMessages ⊆ db.roomMessages := by
  cases effect with
  | razed | erased => exact Finset.filter_subset _ _
  | posted | mailed => exact absurd rfl other
  | _ => exact Finset.Subset.refl _

theorem confidential_invariant : Invariant Confidential fun p => p ≠ .post ∧ p ≠ .draft where
  aside h s confidential aside _ := confidential.stored (by rw [aside.roomMessages])
  lift h s id confidential _ wrote := confidential.stored (by rw [wrote])
  quiet h m confidential quiet := by
    refine ⟨confidential.places, fun session r' stage found drafts => ?_⟩
    rcases quiet.sessions session r' found with ⟨r, before, plain⟩ | ⟨transport, rfl⟩
    · rcases plain.workflow with same | harmless
      · exact confidential.drafts session r stage before (same.symm.trans drafts)
      · rw [drafts] at harmless
        exact harmless.elim
    · cases drafts
  powered powered other h confidential :=
    confidential.stored (effect_places (powered_effect powered h.store) other.1)
  patch id status level _ _ h confidential := by
    obtain ⟨-, kept | wrote⟩ := update_fields id status level h.store
    · exact confidential.stored (by rw [kept])
    · exact confidential.stored (by rw [wrote])
  bind _ h session username userId level room confidential :=
    confidential.update session fun r stage _ drafts => by cases drafts
  hold _ h session username userId stage confidential :=
    confidential.update session fun r stage _ drafts => by cases drafts
  guest _ _ _ confidential := ⟨confidential.places, confidential.drafts⟩
  move _ h session roomId confidential := by
    apply confidential.update session
    intro r stage _ drafts
    unfold SessionRecord.moveTo at drafts
    split at drafts
    · cases drafts
    · exact .inr drafts
  draft other := absurd rfl other.2
  conclude other := absurd rfl other.1

abbrev mailing : Conduct := confidential_invariant.conduct

theorem mailing_iff {α : Type} {m : HostM α} : mailing.holds m ↔ Keeps Confidential m :=
  Discipline.keeping_iff

section Handlers
variable {session : SessionId}

theorem drafting {roomId : RoomId} {stage : ComposeStage} (addressed : roomId = mail → Addressed stage) :
    mailing.holds (setWorkflow session (.compose roomId stage)) := by
  refine mailing_iff.mpr fun h confidential => confidential.update session fun r stage' _ drafts => ?_
  cases drafts
  exact .inl (addressed rfl)

theorem stage_addressed {roomId : RoomId} {recipient : Option Username} {body : String}
    (addressed : roomId = mail → recipient.isSome) :
    mailing.holds (stage session roomId recipient body) := by
  apply mailing.seq (drafting addressed)
  intro _
  exact mailing.seq (mailing.sessionOnRadio session) fun _ => mailing.reply _

theorem promptForMessage_addressed (roomId : RoomId) (room : Room) :
    mailing.holds (promptForMessage session roomId room) := by
  apply mailing.ite
  · intro _
    exact mailing.seq (drafting fun _ => trivial) fun _ => mailing.reply _
  · intro other
    exact mailing.seq (drafting fun same => absurd same other) fun _ => mailing.reply _

theorem enterMail_addressed (roomId : RoomId) (raw : String) :
    mailing.holds (enterMail session roomId raw) := by
  unfold enterMail
  dsimp only
  split
  · exact mailing.reply _
  · next recipient _ =>
    apply mailing.seq (mailing.call (.findUser recipient))
    intro found
    apply mailing.ite
    · intro _
      exact mailing.reply _
    · intro _
      exact mailing.ite (fun _ => mailing.reply _) fun _ => stage_addressed fun _ => rfl

theorem enterInline_addressed (roomId : RoomId) (room : Room) (inlineBody : Option String) :
    mailing.holds (enterInline session roomId room inlineBody) := by
  unfold enterInline
  dsimp only
  apply mailing.ite
  · intro _
    exact promptForMessage_addressed roomId room
  · intro _
    apply mailing.ite
    · intro _
      exact enterMail_addressed roomId _
    · intro other
      exact stage_addressed fun same => absurd same other

theorem handleEnterMessage_addressed (session : SessionId) (inlineBody : Option String) :
    mailing.holds (handleEnterMessage session inlineBody) := by
  apply mailing.withGuestAuth
  intro auth
  apply mailing.withGuestRule
  apply mailing.ite
  · intro _
    exact mailing.reply _
  · intro _
    apply mailing.whenIdle
    apply mailing.withRoom
    intro room
    split
    · exact mailing.reply _
    · exact enterInline_addressed auth.roomId room inlineBody

theorem composeRecipient_addressed (session : SessionId) (roomId : RoomId) (reply : String) :
    mailing.holds (composeRecipient session roomId reply) := by
  unfold composeRecipient
  split
  · exact mailing.seq (drafting fun _ => trivial) fun _ => mailing.reply _
  · next recipient _ =>
    apply mailing.seq (mailing.call (.findUser recipient))
    intro found
    apply mailing.ite
    · intro _
      exact mailing.seq (drafting fun _ => trivial) fun _ => mailing.reply _
    · intro _
      exact mailing.seq (drafting fun _ => rfl) fun _ => mailing.reply _

theorem composeBody_addressed {roomId : RoomId} {recipient : Option Username} (session : SessionId)
    (reply : String) (addressed : roomId = mail → recipient.isSome) :
    mailing.holds (composeBody session roomId recipient reply) := by
  unfold composeBody
  dsimp only
  apply mailing.ite
  · intro _
    exact mailing.seq (drafting addressed) fun _ => mailing.reply _
  · intro _
    exact stage_addressed addressed

theorem sendDraft_addressed {roomId : RoomId} {recipient : Option Username} {body : String}
    (addressed : roomId = mail → recipient.isSome) (h : BbsHost) (confidential : Confidential h) :
    Confidential (sendDraft session roomId recipient body h).2 := by
  rcases sendDraft_sends session roomId recipient body h with
    ⟨same, sessions⟩ | ⟨r, sender, outcome, found, named, stored, sessions⟩
  · exact ⟨by rw [same]; exact confidential.places, by rw [sessions]; exact confidential.drafts⟩
  · have idle (r : SessionRecord) (stage : ComposeStage)
        (drafts : (r.concluded outcome).workflow = .compose mail stage) :
        Addressed stage ∨ r.workflow = .compose mail stage := by cases drafts
    have concluded := confidential.update session fun r stage _ => idle r stage
    refine ⟨fun id put => ?_, by rw [sessions]; exact concluded.drafts⟩
    rw [stored, sent] at put
    dsimp only at put
    split at put
    · exact confidential.places id put
    · next open_ =>
      rcases Finset.mem_insert.mp put with same | old
      · exact open_ (addressed (congrArg Prod.fst same).symm)
      · exact confidential.places id old

theorem composeReply_addressed {roomId : RoomId} {stage : ComposeStage} (reply : String)
    (h : BbsHost) (confidential : Confidential h) (drafts : (h.sessions.get? session).map (·.workflow) =
      some (.compose roomId stage)) : Confidential (composeReply session roomId stage reply h).2 := by
  have addressed (same : roomId = mail) : Addressed stage := by
    obtain ⟨r, found, drafts⟩ := Option.map_eq_some_iff.mp drafts
    rw [same] at drafts
    exact confidential.drafts session r stage found drafts
  cases stage with
  | awaitingRecipient =>
      have kept := mailing_iff.mp (composeRecipient_addressed session roomId reply)
      exact kept h confidential
  | awaitingBody recipient =>
      have kept := mailing_iff.mp (composeBody_addressed session reply addressed)
      exact kept h confidential
  | awaitingConfirmation recipient body =>
      show Confidential (composeConfirm session roomId recipient body reply h).2
      unfold composeConfirm
      split
      · exact confidential.update session fun r stage _ drafts => by cases drafts
      · split
        · exact mailing_iff.mp (stage_addressed addressed) h confidential
        · exact sendDraft_addressed addressed h confidential

/-- The session has a stored message on screen, if it is still there. -/
def Showing (session : SessionId) (h : BbsHost) : Prop :=
  ∀ r, h.sessions.get? session = some r →
    ∃ id, r.currentMessageId = some id ∧ (h.store.db.messages.get? id).isSome

theorem replyRecipient_addressed (session : SessionId) (roomId : RoomId) : Ensures Confidential
    (fun h => Confidential h ∧ (roomId = mail → Showing session h)) (replyRecipient session roomId)
    fun recipient h => Confidential h ∧
      (roomId = mail → recipient.isSome ∨ h.sessions.get? session = none) := by
  rintro h ⟨confidential, showing⟩
  unfold replyRecipient
  rw [bind_apply, lookUp, peek_apply]
  dsimp only
  cases found : h.sessions.get? session with
  | none => exact ⟨confidential, fun recipient returned => ⟨confidential, fun _ => .inr found⟩⟩
  | some r =>
      cases current : r.currentMessageId with
      | none =>
          rw [show (some r).bind (·.currentMessageId) = none from current]
          refine ⟨confidential, fun recipient returned => ⟨confidential, fun inMail => ?_⟩⟩
          obtain ⟨id, shown, -⟩ := showing inMail r found
          rw [current] at shown
          cases shown
      | some id =>
          rw [show (some r).bind (·.currentMessageId) = some id from current]
          have same := query_db (fun db => (db.messages.get? id).map (mapMessageRow id)) h.store
          rcases read : MessageStore.getById id h.store with ⟨result, s⟩
          rw [show query _ h.store = _ from read] at same
          have kept : Confidential { h with store := s } := confidential.stored (by rw [same])
          dsimp only
          cases result with
          | error e =>
              rw [bind_error (db_error read)]
              exact ⟨kept, fun _ failed => by cases failed⟩
          | ok msg =>
              rw [bind_ok (db_ok read)]
              refine ⟨kept, fun recipient returned => ⟨kept, fun inMail => .inl ?_⟩⟩
              obtain ⟨id', shown, there⟩ := showing inMail r found
              rw [current] at shown
              cases shown
              have stored := (query_ok read).1
              cases returned
              rw [if_pos inMail, stored]
              simpa using there

theorem setWorkflow_addressed (session : SessionId) (roomId : RoomId) (stage : ComposeStage) :
    Ensures Confidential
    (fun h => Confidential h ∧ (roomId = mail → Addressed stage ∨ h.sessions.get? session = none))
    (setWorkflow session (.compose roomId stage)) fun _ => Confidential := by
  rintro h ⟨confidential, addressed⟩
  have kept : Confidential (setWorkflow session (.compose roomId stage) h).2 := by
    refine confidential.update session fun r stage' found drafts => .inl ?_
    cases drafts
    rcases addressed rfl with addressed | gone
    · exact addressed
    · rw [found] at gone
      cases gone
  exact ⟨kept, fun _ _ => kept⟩

theorem showing_refreshed {h' : BbsHost} (showing : Showing session h)
    (refreshed : Refreshed session h h') : Showing session h' := by
  intro r' found'
  obtain ⟨r, before, eq, -⟩ := refreshed.sessions session r' found'
  obtain ⟨id, current, there⟩ := showing r before
  refine ⟨id, ?_, ?_⟩
  · rw [eq]
    exact current
  · rw [refreshed.db]
    exact there

/-- In Mail, an answer to the message on screen is addressed. -/
theorem handleReplyFromReading_addressed (confidential : Confidential h)
    (showing : ∀ r, h.sessions.get? session = some r → r.currentRoom = mail → Showing session h) :
    Confidential (handleReplyFromReading session h).2 := by
  obtain ⟨refreshed, ⟨result, ran⟩, served, -⟩ := sessionAuthUser_spec session h
  have whole : sessionAuthUser session h = (.ok result, (sessionAuthUser session h).2) :=
    Prod.ext ran rfl
  have kept : Confidential (sessionAuthUser session h).2 :=
    mailing_iff.mp (mailing.sessionAuthUser session) h confidential
  unfold handleReplyFromReading withAuth
  rw [bind_ok whole]
  cases result with
  | error refusal => exact kept
  | ok auth =>
      obtain ⟨r, known, found, -, -, room, -⟩ := served auth ran
      have ready (inMail : auth.roomId = mail) : Showing session (sessionAuthUser session h).2 :=
        showing_refreshed (showing r found (room.trans inMail)) refreshed
      have answered (text : Option Username → String) : Ensures Confidential
          (fun h => Confidential h ∧ (auth.roomId = mail → Showing session h)) (do
            let recipient ← replyRecipient session auth.roomId
            setWorkflow session (.compose auth.roomId (.awaitingBody recipient))
            pure (.prompt (text recipient) false) : HostM Response) fun _ _ => True := by
        apply (replyRecipient_addressed session auth.roomId).bind
        intro recipient
        have drafted := setWorkflow_addressed session auth.roomId (.awaitingBody recipient)
        exact drafted.bind fun _ => .ret fun _ kept => ⟨kept, trivial⟩
      have looked := query_db (fun db => (db.rooms.get? auth.roomId).map (mapRoomRow auth.roomId))
        (sessionAuthUser session h).2.store
      dsimp only
      unfold withRoom
      rcases read : RoomStore.getById auth.roomId (sessionAuthUser session h).2.store with ⟨result, s⟩
      rw [show query _ _ = _ from read] at looked
      have kept' : Confidential { (sessionAuthUser session h).2 with store := s } :=
        kept.stored (by rw [looked])
      have ready' (inMail : auth.roomId = mail) :
          Showing session { (sessionAuthUser session h).2 with store := s } := by
        intro r' found'
        obtain ⟨id, current, there⟩ := ready inMail r' found'
        refine ⟨id, current, ?_⟩
        dsimp only
        rw [looked]
        exact there
      cases result with
      | error e =>
          rw [bind_error (db_error read)]
          exact kept'
      | ok room =>
          rw [bind_ok (db_ok read)]
          cases room with
          | none => exact kept'
          | some room =>
              dsimp only
              cases readOnlyFor auth room with
              | some refusal => exact kept'
              | none => exact (answered _ _ ⟨kept', ready'⟩).1

/-- A session that reads Mail has a stored message on screen when it is answered. -/
def OnScreen (session : SessionId) (cmd : Command) (h : BbsHost) : Prop :=
  match cmd with
  | .workflowReply reply => Text.toUppercase (Text.trim reply) = "E" → ∀ r,
      h.sessions.get? session = some r → r.workflow = .reading → r.currentRoom = mail →
        Showing session h
  | _ => True

theorem onScreen_of {h' : BbsHost} {cmd : Command} (onScreen : OnScreen session cmd h)
    (sessions : ∀ r', h'.sessions.get? session = some r' → ∃ r, h.sessions.get? session = some r ∧
      Subdued r r') (messages : h'.store.db.messages = h.store.db.messages) :
    OnScreen session cmd h' := by
  unfold OnScreen at onScreen ⊢
  split
  · intro answered r' found' reads inMail r'' found''
    rw [found'] at found''
    cases found''
    obtain ⟨r, found, subdued⟩ := sessions r' found'
    have reads₀ : r.workflow = .reading := by
      rcases subdued.workflow with same | none_
      · exact same.symm.trans reads
      · rw [none_] at reads
        cases reads
    have same := subdued.same
    have inMail₀ : r.currentRoom = mail := by
      rw [same] at inMail
      exact inMail
    obtain ⟨id, current, there⟩ := onScreen answered r found reads₀ inMail₀ r found
    refine ⟨id, ?_, ?_⟩
    · rw [same]
      exact current
    · rw [messages]
      exact there
  · trivial

theorem onScreen_lasting (cmd : Command) :
    Lasting fun h => Confidential h ∧ OnScreen session cmd h where
  aside h s holds aside later :=
    ⟨confidential_invariant.aside h s holds.1 aside later,
      onScreen_of holds.2 (fun r found => ⟨r, found, .refl r⟩) aside.messages⟩
  lift h s id holds later wrote :=
    ⟨confidential_invariant.lift h s id holds.1 later wrote,
      onScreen_of holds.2 (fun r found => ⟨r, found, .refl r⟩) (congrArg (·.messages) wrote)⟩
  ready h m holds ready :=
    ⟨confidential_invariant.quiet h m holds.1 ready.quiet,
      onScreen_of holds.2 (ready.sessions session) rfl⟩

theorem readingReply_addressed {reply : String} (h : BbsHost) (confidential : Confidential h)
    (reads : (h.sessions.get? session).map (·.workflow) = some .reading)
    (onScreen : OnScreen session (.workflowReply reply) h) :
    Confidential (readingReply session reply h).2 := by
  have free {p : Power} (other : p ≠ .post ∧ p ≠ .draft) : mailing.has p := other
  have kept {m : HostM Response} (holds : mailing.holds m) : Confidential (m h).2 :=
    mailing_iff.mp holds h confidential
  have forward (after : Option Int) := mailing.handleReadForward (free (by decide)) session after
  unfold readingReply
  split
  · exact kept (forward none)
  · split
    · exact kept (mailing.handleReadReverse (free (by decide)) session)
    · split
      · next answered =>
        apply handleReplyFromReading_addressed confidential
        intro r found inMail
        obtain ⟨r', found', reads⟩ := Option.map_eq_some_iff.mp reads
        rw [found] at found'
        cases found'
        exact onScreen answered r found reads inMail
      · split
        · exact confidential
        · cases idAfter "F " (Text.toUppercase (Text.trim reply)) with
          | some id => exact kept (forward (some id))
          | none =>
              apply kept
              apply mailing.seq (mailing.lookUp session)
              intro r
              cases deleteTarget (Text.toUppercase (Text.trim reply)) (r.bind (·.currentMessageId)) with
              | some id =>
                  have deletes := mailing.handleDelete (free (by decide)) (free (by decide)) session
                  exact mailing.deleteWhileReading deletes id
              | none => exact mailing.seq (mailing.stopReading session) fun _ => mailing.reply _

theorem processCommand_addressed (cmd : Command) (h : BbsHost) (confidential : Confidential h)
    (onScreen : OnScreen session cmd h) : Confidential (processCommand session cmd h).2 := by
  have free {p : Power} (other : p ≠ .post ∧ p ≠ .draft) : mailing.has p := other
  have lasting (_ : Command) : Lasting fun h => Confidential h ∧ OnScreen session cmd h :=
    onScreen_lasting cmd
  apply confidential_invariant.command lasting ?_ ?_ ?_ ?_ h confidential fun _ _ => onScreen
  · intro target
    exact mailing_iff.mp (mailing.handleChangeRoom (free (by decide)) session target)
  · intro c onReply h fresh confidential _
    have other (ordinary : ∀ p ∈ Conduct.takes c, p ≠ .post ∧ p ≠ .draft) :
        Confidential (dispatch onReply session c h).2 :=
      mailing_iff.mp (mailing.dispatch ordinary fun text same => absurd same (fresh text)) h confidential
    cases c with
    | enterMessage body =>
        have kept := mailing_iff.mp (handleEnterMessage_addressed session body)
        exact kept h confidential
    | _ => exact other (by simp [Conduct.takes])
  · intro workflow reply h asked unlisted shown confidential onScreen
    have other (ordinary : ∀ p ∈ Conduct.takesReply workflow, p ≠ .post ∧ p ≠ .draft) :
        Confidential (dispatchReply processFresh session workflow reply h).2 :=
      mailing_iff.mp (mailing.dispatchReply
        (fun roomIds next same => absurd same (unlisted roomIds next)) ordinary reply) h confidential
    rw [asked] at onScreen
    cases workflow with
    | compose room stage =>
        show Confidential (composeReply session room stage reply h).2
        exact composeReply_addressed reply h confidential shown
    | reading =>
        show Confidential (readingReply session reply h).2
        exact readingReply_addressed h confidential shown onScreen
    | _ => exact other (by simp [Conduct.takesReply])
  · intro escape h confidential _
    exact mailing_iff.mp (mailing.restartAuth
      (mailing.createUserAndLogin (free (by decide)) (free (by decide)) (free (by decide)) session)
      (mailing.finalizeLogin (free (by decide)) session) (free (by decide)) escape) h confidential

end Handlers

/-- Whoever answers what they read in Mail has a stored message on screen. -/
def Allowed : Input → BbsHost → Prop
  | .command session cmd, h => OnScreen session cmd h
  | _, _ => True

theorem confidential_next {input : Input} (confidential : Confidential h) (allowed : Allowed input h) :
    Confidential (deliver h input) := by
  have keeps {α : Type} {m : HostM α} (holds : mailing.holds m) : Confidential (m h).2 :=
    mailing_iff.mp holds h confidential
  have free {p : Power} (other : p ≠ .post ∧ p ≠ .draft) : mailing.has p := other
  cases input with
  | connect transport => exact keeps (mailing.open_ transport)
  | disconnect session => exact keeps (mailing.close (free (by decide)) session)
  | command session cmd => exact processCommand_addressed cmd h confidential allowed
  | restoreNode session pubkey ttlDays =>
      exact keeps (mailing.meshNodeRestore (free (by decide)) session pubkey ttlDays)
  | bindNode session pubkey => exact keeps (mailing.meshNodeBind session pubkey)
  | unbindNode pubkey => exact keeps (mailing.meshNodeUnbind pubkey)
  | request username request =>
      have ordinary (p : Power) (mem : p ∈ Conduct.takesRequest request) : p ≠ .post ∧ p ≠ .draft := by
        have member := Conduct.takesRequest_subset request mem
        constructor
        · rintro rfl
          exact absurd member (by decide)
        · rintro rfl
          exact absurd member (by decide)
      have handled (caller : CurrentUser) : mailing.holds (handleRequest caller request) :=
        mailing.handleRequest ordinary
      exact keeps (mailing.serve handled)
  | elapse now clock faults => exact ⟨confidential.places, confidential.drafts⟩

/-- No mail becomes a post, and no draft in Mail loses its recipient, whatever is asked of the host, as
long as whoever answers what they read in Mail has a stored message on screen. -/
theorem mail_stays_private {h h' : BbsHost} (confidential : Confidential h)
    (run : Reaches (fun input h h' => h' = deliver h input) Allowed h h') : Confidential h' := by
  apply run.invariant (I := Confidential) confidential
  rintro input t _ confidential allowed rfl
  exact confidential_next confidential allowed

theorem staffed_confidential : Confidential Suspensions.staffed := by
  have noPosts : Suspensions.staffed.store.db.roomMessages = ∅ := by decide +kernel
  have noSessions : Suspensions.staffed.sessions.rows = [] := by decide +kernel
  refine ⟨fun id put => ?_, fun session r stage found _ => ?_⟩
  · rw [noPosts] at put
    exact Finset.notMem_empty _ put
  · have listed := (RowTable.mem_rows_iff _ session r).mpr found
    rw [noSessions] at listed
    cases listed

/-- Alice has written to herself, and reads it. -/
def reader : BbsHost := List.foldl deliver Suspensions.staffed
  [.connect "telnet", .command 1 (.loginOneShot .alice "password"), .command 1 .goMail,
    .command 1 (.enterMessage (some "alice hello")), .command 1 (.workflowReply "."),
    .command 1 (.readForward (some 1))]

theorem reader_confidential : Confidential reader := by
  have dot : Text.toUppercase (Text.trim ".") ≠ "E" := by decide +kernel
  refine mail_stays_private staffed_confidential (Reaches.follow ?_)
  exact ⟨trivial, trivial, trivial, trivial, fun answered => absurd answered dot, trivial, trivial⟩

def answer : List Input :=
  [.command 1 (.workflowReply "E"), .command 1 (.workflowReply "again"), .command 1 (.workflowReply ".")]

theorem mail_stays_private_answer : Confidential (answer.foldl deliver reader) := by
  have shown : (reader.sessions.get? 1).map (·.currentMessageId) = some (some 1) := by decide +kernel
  have there : (reader.store.db.messages.get? 1).isSome := by decide +kernel
  have again : Text.toUppercase (Text.trim "again") ≠ "E" := by decide +kernel
  have dot : Text.toUppercase (Text.trim ".") ≠ "E" := by decide +kernel
  have onScreen : Showing 1 reader := by
    intro r found
    rw [found] at shown
    exact ⟨1, Option.some.inj shown, there⟩
  refine mail_stays_private reader_confidential (Reaches.follow ?_)
  exact ⟨fun _ _ _ _ _ => onScreen, fun answered => absurd answered again,
    fun answered => absurd answered dot, trivial⟩

/-- She answers when nothing is on screen. -/
def early : BbsHost := List.foldl deliver Suspensions.staffed
  [.connect "telnet", .command 1 (.loginOneShot .alice "password"), .command 1 .goMail,
    .command 1 (.readForward none), .command 1 (.workflowReply "E"),
    .command 1 (.workflowReply "secret"), .command 1 (.workflowReply ".")]

theorem mail_made_public : ¬ Confidential early := by
  have posted : (mail, 1) ∈ early.store.db.roomMessages := by decide +kernel
  exact fun confidential => confidential.places 1 posted

end SupplyDrop.Proof.Drafts
