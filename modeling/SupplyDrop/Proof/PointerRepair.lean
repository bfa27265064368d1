import Mathlib
import SupplyDrop.Host.System
import SupplyDrop.Proof.ReadNew

namespace SupplyDrop.Proof.PointerRepair
open Library Library.Program Store Host

/-! ## What N is to do about a pointer that a delete has reset -/

def pointerOf (auth : Auth) (h : BbsHost) : Option (Option MessageId) :=
  h.store.db.userRoomState auth.userId auth.roomId

/-- The newest of the messages that the room has for the reader. -/
def newestIn (auth : Auth) (db : Database) : Option MessageId :=
  (inMessages auth db).getLast?.map (·.id)

/-- Nothing has been posted, and the pointer has not been moved. -/
structure Quiet (auth : Auth) (h h' : BbsHost) : Prop where
  messages : inMessages auth h'.store.db = inMessages auth h.store.db
  pointer : pointerOf auth h' = pointerOf auth h

def CatchesUp (session : SessionId) (auth : Auth) (room : Room) (h : BbsHost) : Prop :=
  pointerOf auth (handleReadNew session h).2 = some (newestIn auth h.store.db) ∧
    ∀ r' h', Reader session r' auth room h' → Quiet auth (handleReadNew session h).2 h' →
      (handleReadNew session h').1 = .ok (noNewMessages room)

/-! ## Which message it takes for the newest -/

section Repair
variable {session : SessionId} {r : SessionRecord} {auth : Auth} {room : Room} {h h' : BbsHost}

/-- In Mail it is the oldest. -/
def takenFor (auth : Auth) (db : Database) : Option Message :=
  if auth.roomId = mail then (inMessages auth db).head? else (inMessages auth db).getLast?

theorem newestFor_sure (auth : Auth) {s : Storage} (sure : s.faults = [])
    (assigned : ∀ m ∈ inMessages auth s.db, 0 < m.id) :
    newestFor auth s = (.ok (takenFor auth s.db), s) := by
  unfold newestFor takenFor
  by_cases inMail : auth.roomId = mail
  · have rows : messagesOf auth s.db = MessageStore.direct s.db auth.username := if_pos inMail
    have all : MessageStore.after (MessageStore.direct s.db auth.username) none =
        MessageStore.direct s.db auth.username := by
      apply List.filter_eq_self.mpr
      intro row mem
      rw [← rows] at mem
      have low : minRowid < 0 := by decide
      exact decide_eq_true (low.trans (assigned _ (List.mem_map_of_mem mem)))
    have page : (buildPage (mapMessageRows
        ((MessageStore.after (MessageStore.direct s.db auth.username) none).take (1 + 1))) 1).messages =
        (inMessages auth s.db).take 1 := by
      rw [all, ← rows, mapMessageRows, List.map_take]
      exact congrArg (·.messages) (buildPage_sorted 1 (inMessages_sorted auth s.db))
    rw [if_pos inMail, if_pos inMail]
    unfold MessageStore.listDirect
    have listed := query_sure (fun db => (MessageStore.after (MessageStore.direct db auth.username)
      none).take (1 + 1)) sure
    rw [bind_assoc, bind_ok listed, pure_bind, pure_apply, page]
    cases inMessages auth s.db <;> rfl
  · have rows : messagesOf auth s.db = MessageStore.inRoom s.db auth.roomId := if_neg inMail
    rw [if_neg inMail, if_neg inMail]
    unfold MessageStore.listRecentInRoom
    rw [bind_ok (query_sure _ sure)]
    unfold inMessages
    rw [rows]
    unfold mapMessageRows
    rw [pure_apply, List.map_take, List.map_reverse, List.head?_take, List.head?_reverse]
    rfl

/-- The pointer comes to the message that is taken for the newest. -/
theorem readNew_pointer (reader : Reader session r auth room h)
    (assigned : ∀ m ∈ inMessages auth h.store.db, 0 < m.id)
    (reset : pointerOf auth h = some none) :
    (handleReadNew session h).1 = .ok (noNewMessages room) ∧
      pointerOf auth (handleReadNew session h).2 =
        some ((takenFor auth h.store.db).map (·.id)) ∧
      inMessages auth (handleReadNew session h).2.store.db = inMessages auth h.store.db := by
  obtain ⟨h', same, reader', runs⟩ := readNew_runs reader
  have store := same.store
  have reset : h.store.db.userRoomState auth.userId auth.roomId = some none := reset
  rw [runs, if_pos reset]
  have found : db StoreError.display (newestFor auth) h' =
      (.ok (takenFor auth h.store.db), h') := by
    rw [← store]
    rw [db_ok (newestFor_sure auth reader'.sure (by rw [store]; exact assigned))]
  unfold repairPointer
  rw [bind_ok found]
  cases taken : takenFor auth h.store.db with
  | none =>
      refine ⟨rfl, ?_, congrArg (fun s => inMessages auth s.db) store⟩
      show h'.store.db.userRoomState _ _ = _
      rw [store, reset]
      rfl
  | some m =>
      have mem : m ∈ inMessages auth h.store.db := by
        unfold takenFor at taken
        split at taken
        · exact List.mem_of_head? taken
        · exact List.mem_of_getLast? taken
      have forward : MessageStore.advanced (some none) m.id = m.id :=
        max_eq_left (assigned m mem).le
      have markable : ¬ Unmarkable h'.store.db auth.userId auth.roomId m.id := by
        unfold Unmarkable
        rw [store, reset, forward, inMessages_stored auth h.store.db m mem]
        simp
      have ran := markRead_sure auth.userId auth.roomId m.id reader'.sure
      rw [if_neg markable] at ran
      dsimp only
      rw [bind_ok (db_ok ran)]
      refine ⟨rfl, ?_, congrArg (fun s => inMessages auth s.db) store⟩
      show (marked auth.userId auth.roomId m.id h'.store.db).userRoomState _ _ = _
      unfold marked MessageStore.setPointer
      rw [store, reset, forward]
      exact if_pos ⟨rfl, rfl⟩

/-! ## The next N -/

/-- With the pointer at the newest message there is nothing to show. -/
theorem readNew_nothing (reader : Reader session r auth room h)
    (assigned : ∀ m ∈ inMessages auth h.store.db, 0 < m.id)
    (caughtUp : pointerOf auth h = some (newestIn auth h.store.db)) :
    (handleReadNew session h).1 = .ok (noNewMessages room) := by
  cases newest : (inMessages auth h.store.db).getLast? with
  | none =>
      unfold newestIn at caughtUp
      rw [newest] at caughtUp
      exact (readNew_pointer reader assigned caughtUp).1
  | some m =>
      unfold newestIn at caughtUp
      rw [newest] at caughtUp
      have pointer : h.store.db.userRoomState auth.userId auth.roomId = some (some m.id) := caughtUp
      obtain ⟨front, split⟩ := List.getLast?_eq_some_iff.mp newest
      have nothing : ahead true auth h.store.db (some m.id) = [] := by
        rw [ahead_forward]
        apply List.filter_eq_nil_iff.mpr
        intro x mem later
        have later : m.id < x.id := of_decide_eq_true later
        have sorted := inMessages_sorted auth h.store.db
        rw [split] at mem sorted
        rcases List.mem_append.mp mem with earlier | same
        · exact lt_asymm later
            ((List.pairwise_append.mp sorted).2.2 x earlier m (List.mem_singleton_self m))
        · rw [List.mem_singleton.mp same] at later
          exact lt_irrefl _ later
      obtain ⟨h', same, reader', runs⟩ := readNew_runs reader
      rw [runs, pointer, if_neg (by simp), showNew_run auth room _ reader'.sure, newPage_messages,
        same.store, Option.join_some, nothing]
      rfl

/-! ## Exactly when it catches up -/

/-- The oldest and the newest of the messages are one when there are no two of them. -/
theorem takenFor_newest_iff (auth : Auth) (db : Database) :
    (takenFor auth db).map (·.id) = newestIn auth db ↔
      (auth.roomId = mail → (inMessages auth db).length ≤ 1) := by
  unfold takenFor newestIn
  by_cases inMail : auth.roomId = mail
  · rw [if_pos inMail]
    have sorted := inMessages_sorted auth db
    cases listed : inMessages auth db with
    | nil => simp
    | cons m rest =>
        rw [listed] at sorted
        refine ⟨fun same _ => ?_, fun short => ?_⟩
        · cases last : rest.getLast? with
          | none =>
              rw [List.getLast?_eq_none_iff.mp last]
              exact le_rfl
          | some n =>
              have later := List.rel_of_pairwise_cons sorted (List.mem_of_getLast? last)
              rw [List.getLast?_cons, last] at same
              exact absurd (Option.some.inj same) later.ne
        · have none_ : rest = [] := List.eq_nil_of_length_eq_zero (by
            have := short inMail
            rw [List.length_cons] at this
            omega)
          rw [none_]
          rfl
  · rw [if_neg inMail]
    exact iff_of_true rfl fun inMail' => absurd inMail' inMail

/-- N catches up exactly where the reader has no two direct messages or is not in Mail. -/
theorem readNew_catches_up (reader : Reader session r auth room h)
    (assigned : ∀ m ∈ inMessages auth h.store.db, 0 < m.id)
    (reset : pointerOf auth h = some none) :
    CatchesUp session auth room h ↔
      (auth.roomId = mail → (inMessages auth h.store.db).length ≤ 1) := by
  obtain ⟨-, pointer, messages⟩ := readNew_pointer reader assigned reset
  rw [← takenFor_newest_iff]
  unfold CatchesUp
  rw [pointer]
  refine ⟨fun caught => Option.some.inj caught.1, fun same => ⟨congrArg some same, ?_⟩⟩
  intro r' h' reader' quiet
  have unposted := quiet.messages.trans messages
  apply readNew_nothing reader' (by rwa [unposted])
  unfold newestIn at same ⊢
  rw [quiet.pointer, pointer, unposted, same]

end Repair

def aliceIn (room : RoomId) : Auth := ⟨.alice, 1, .sysop, room⟩

def bothOnline : List Input :=
  [.connect "telnet", .connect "telnet", .command 1 (.loginOneShot .alice "password"),
    .command 2 (.loginOneShot .bob "password")]

def bothThen (inputs : List Input) : BbsHost :=
  (bothOnline ++ inputs).foldl deliver (adminCreateUser "bob" "password" 10
    (adminCreateUser "alice" "password" 100 (.fresh .fresh)).2).2

def postRead : BbsHost :=
  bothThen [.command 2 (.enterMessage (some "one")), .command 2 (.workflowReply "."),
    .command 1 .readNew, .command 2 (.deleteMessage 1), .command 2 (.enterMessage (some "two")),
    .command 2 (.workflowReply ".")]

theorem catches_up_lobby : ∃ room, CatchesUp 1 (aliceIn lobby) room postRead := by
  obtain ⟨r, room, -, reader⟩ : ∃ r room, postRead.sessions.get? 1 = some r ∧
      Reader 1 r (aliceIn lobby) room postRead :=
    Reader.known (by decide +kernel) (by decide +kernel) (by decide +kernel) (.inl (by decide))
      (.inl (by decide)) (by decide +kernel)
  exact ⟨room, (readNew_catches_up reader (by decide +kernel) (by decide +kernel)).mpr
    fun inMail => absurd inMail (by decide)⟩

def mails (text : String) : List Input :=
  [.command 2 (.enterMessage none), .command 2 (.workflowReply "alice"),
    .command 2 (.workflowReply text), .command 2 (.workflowReply ".")]

/-- Of two messages Alice has read the second, which Bob then takes back and sends another. -/
def mailRead : BbsHost :=
  bothThen ([.command 1 .goMail, .command 2 .goMail] ++ mails "one" ++ [.command 1 .readNew] ++
    mails "two" ++ [.command 1 .readNew, .command 2 (.deleteMessage 2)] ++ mails "three")

theorem mail_not_caught_up : ¬ ∀ (session : SessionId) (r : SessionRecord) (auth : Auth)
    (room : Room) (h : BbsHost), Reader session r auth room h → pointerOf auth h = some none →
    CatchesUp session auth room h := by
  intro claim
  obtain ⟨r, room, -, reader⟩ : ∃ r room, mailRead.sessions.get? 1 = some r ∧
      Reader 1 r (aliceIn mail) room mailRead :=
    Reader.known (by decide +kernel) (by decide +kernel) (by decide +kernel) (.inl (by decide))
      (.inl (by decide)) (by decide +kernel)
  have pointer := (claim 1 r (aliceIn mail) room mailRead reader (by decide +kernel)).1
  have oldest : pointerOf (aliceIn mail) (handleReadNew 1 mailRead).2 = some (some 1) := by
    decide +kernel
  have newest : newestIn (aliceIn mail) mailRead.store.db = some 3 := by decide +kernel
  rw [oldest, newest] at pointer
  cases pointer

end SupplyDrop.Proof.PointerRepair
