import Mathlib
import SupplyDrop.Library.Listings
import SupplyDrop.Host.Moderation
import SupplyDrop.Proof.SameMessages

namespace SupplyDrop.Proof.BlockReport
open Library Library.Program Library.Listings Store Store.BlockStore Host Stepping

/-! ## What a block has hidden -/

section Hidden
variable (db : Database) (reader : UserId) (blocker blocked : String)

/-- The newest message when the block went up, where the block records it. -/
def blockedSince : Option MessageId :=
  (db.userBlocks.find? fun b => b.blocker = blocker && b.blocked = blocked).bind
    (·.blockedAtMessageId)

/-- The reader's pointer for the room has come as far as the message. -/
def passed (room : RoomId) (id : MessageId) : Bool :=
  (db.userRoomState reader room).join.any fun pointer => id ≤ pointer

def sentBy (sender : String) (id : MessageId) : Bool :=
  (db.messages.get? id).any fun row => row.sender.text = sender

def sentTo (recipient : String) (id : MessageId) : Bool :=
  (db.messages.get? id).any fun row => row.recipient.any fun name => name.text = recipient

/-- A post in a room, or a direct message to the blocker, that the blocked user sent after the block
went up and that the blocker's pointers have passed. -/
structure Hidden (id : MessageId) : Prop where
  sender : sentBy db blocked id
  later : ∃ start ∈ blockedSince db blocker blocked, start < id
  gone : (∃ room, (room, id) ∈ db.roomMessages ∧ passed db reader room id) ∨
    sentTo db blocker id ∧ passed db reader mail id

/-- The posts among them, once for each room. -/
def posts (start : MessageId) : Finset (RoomId × MessageId) :=
  db.roomMessages.filter fun p =>
    sentBy db blocked p.2 ∧ start < p.2 ∧ passed db reader p.1 p.2

/-- The direct messages among them. -/
def letters (start : MessageId) : Finset MessageId :=
  (db.messages.keys.filter fun id =>
    sentBy db blocked id && sentTo db blocker id && start < id && passed db reader mail id).toFinset

/-- A report is the number of the messages and the least of their ids. -/
def Exact (messages : Set MessageId) : Option HiddenWhileBlocked → Prop
  | none => messages = ∅
  | some report => messages.encard = report.count ∧ IsLeast messages report.oldest

/-- As many letters as posts that are listed once more, and none of them the oldest message. Where
each message is in one place, there is no letter. -/
def Balanced (start : MessageId) : Prop :=
  let posts := posts db reader blocked start
  let unlisted := letters db reader blocker blocked start \ listed posts
  unlisted.card = (again posts).card ∧ ∀ letter ∈ unlisted, ∃ post ∈ listed posts, post < letter

instance (start : MessageId) : Decidable (Balanced db reader blocker blocked start) :=
  inferInstanceAs (Decidable (_ ∧ _))

end Hidden

section Report
variable {db : Database} {reader : UserId} {blocker blocked : String}

theorem passedOver_eq (start : MessageId) :
    passedOver db reader blocked start = posts db reader blocked start := rfl

theorem mem_posts {start id : MessageId} {room : RoomId} :
    (room, id) ∈ posts db reader blocked start ↔ (room, id) ∈ db.roomMessages ∧
      sentBy db blocked id ∧ start < id ∧ passed db reader room id :=
  Finset.mem_filter

theorem mem_letters {start id : MessageId} : id ∈ letters db reader blocker blocked start ↔
    sentBy db blocked id ∧ sentTo db blocker id ∧ start < id ∧ passed db reader mail id := by
  have known (row : sentBy db blocked id) : id ∈ db.messages.keys := by
    rw [RowTable.mem_keys_iff]
    unfold sentBy at row
    cases stored : db.messages.get? id with
    | none =>
        rw [stored] at row
        cases row
    | some _ => rfl
  unfold letters
  simp only [List.mem_toFinset, List.mem_filter, Bool.and_eq_true, decide_eq_true_iff]
  tauto

theorem hidden_iff {start id : MessageId} (since : blockedSince db blocker blocked = some start) :
    Hidden db reader blocker blocked id ↔
      id ∈ listed (posts db reader blocked start) ∪
        letters db reader blocker blocked start := by
  rw [Finset.mem_union, mem_listed, mem_letters]
  simp only [mem_posts]
  constructor
  · rintro ⟨sender, ⟨first, known, later⟩, ⟨room, post, gone⟩ | ⟨letter, gone⟩⟩
    · cases since.symm.trans known
      exact .inl ⟨room, post, sender, later, gone⟩
    · cases since.symm.trans known
      exact .inr ⟨sender, letter, later, gone⟩
  · rintro (⟨room, post, sender, later, gone⟩ | ⟨sender, letter, later, gone⟩)
    · exact ⟨sender, ⟨start, since, later⟩, .inl ⟨room, post, gone⟩⟩
    · exact ⟨sender, ⟨start, since, later⟩, .inr ⟨letter, gone⟩⟩

/-- What is reported counts listings of posts. -/
inductive Reports (db : Database) (reader : UserId) (blocker blocked : String) :
    Option HiddenWhileBlocked → Prop where
  | unknown : blockedSince db blocker blocked = none → Reports db reader blocker blocked none
  | nothing {start : MessageId} : blockedSince db blocker blocked = some start →
      listed (posts db reader blocked start) = ∅ → Reports db reader blocker blocked none
  | posts {start oldest : MessageId} : blockedSince db blocker blocked = some start →
      IsLeast (listed (posts db reader blocked start) : Set MessageId) oldest →
      Reports db reader blocker blocked (some ⟨(posts db reader blocked start).card, oldest⟩)

theorem hiddenWhileBlocked_reports {s s' : Storage} {report : Option HiddenWhileBlocked}
    (ran : hiddenWhileBlocked reader blocker blocked s = (.ok report, s')) :
    Reports s.db reader blocker blocked report ∧ s'.db = s.db := by
  obtain ⟨since, s₁, asked, rest⟩ := bind_eq_ok ran
  obtain ⟨since_, same⟩ := query_ok asked
  cases since with
  | none =>
      cases rest
      exact ⟨.unknown since_.symm, same⟩
  | some start =>
      obtain ⟨posts, s₂, asked', rest⟩ := bind_eq_ok rest
      obtain ⟨rfl, same'⟩ := query_ok asked'
      rw [same] at same' rest
      rw [passedOver_eq] at rest
      cases least : (listed (posts s.db reader blocked start)).min with
      | top =>
          have least_ : ((posts s.db reader blocked start).image (·.2)).min = none := least
          rw [least_] at rest
          cases rest
          exact ⟨.nothing since_.symm (Finset.min_eq_top.mp least), same'⟩
      | coe oldest =>
          have least_ : ((posts s.db reader blocked start).image (·.2)).min = some oldest :=
            least
          rw [least_] at rest
          cases rest
          refine ⟨.posts since_.symm ⟨Finset.mem_of_min least, fun id mem => ?_⟩, same'⟩
          exact Finset.min_le_of_eq mem least

theorem report_exact {report : Option HiddenWhileBlocked}
    (reports : Reports db reader blocker blocked report) :
    Exact {id | Hidden db reader blocker blocked id} report ↔
      ∀ start ∈ blockedSince db blocker blocked, Balanced db reader blocker blocked start := by
  have messages {start : MessageId} (since : blockedSince db blocker blocked = some start) :
      {id | Hidden db reader blocker blocked id} = ((listed (posts db reader blocked start) ∪
        letters db reader blocker blocked start : Finset MessageId) : Set MessageId) :=
    Set.ext fun id => hidden_iff since
  have only {start : MessageId} (since : blockedSince db blocker blocked = some start) :
      (∀ start ∈ blockedSince db blocker blocked, Balanced db reader blocker blocked start) ↔
        Balanced db reader blocker blocked start := by
    simp [since]
  cases reports with
  | unknown since =>
      have none_ : {id | Hidden db reader blocker blocked id} = ∅ := by
        apply Set.eq_empty_of_forall_notMem
        rintro id ⟨-, ⟨start, known, -⟩, -⟩
        cases since.symm.trans known
      have vacuous : ∀ start ∈ blockedSince db blocker blocked,
          Balanced db reader blocker blocked start := by
        intro start known
        cases since.symm.trans known
      exact ⟨fun _ => vacuous, fun _ => none_⟩
  | nothing since empty =>
      have none_ := Finset.image_eq_empty.mp empty
      rw [only since, Exact, messages since, Finset.coe_eq_empty, Balanced, none_]
      simp [listed, again, Finset.eq_empty_iff_forall_notMem]
  | posts since least =>
      rw [only since, Exact, messages since, Set.encard_coe_eq_coe_finsetCard, Nat.cast_inj,
        eq_comm]
      exact exact_iff _ _ least

/-- Where no post is in two rooms, every letter makes the report wrong. -/
theorem balanced_single {start : MessageId}
    (single : again (posts db reader blocked start) = ∅) :
    Balanced db reader blocker blocked start ↔
      letters db reader blocker blocked start ⊆ listed (posts db reader blocked start) := by
  unfold Balanced
  dsimp only
  rw [single, Finset.card_empty, Finset.card_eq_zero, Finset.sdiff_eq_empty_iff_subset]
  refine and_iff_left_of_imp fun subset => ?_
  rw [Finset.sdiff_eq_empty_iff_subset.mpr subset]
  simp

end Report

/-! ## Reading from the oldest -/

def unblocked (blocker blocked : String) (db : Database) : Database :=
  { db with
    userBlocks := db.userBlocks.filter fun b => !(b.blocker = blocker && b.blocked = blocked) }

/-- F from a message right after the block is lifted. -/
def readOn (session : SessionId) (auth : Auth) (blocked : String) (id : MessageId) (h : BbsHost) :
    Except HostError Response :=
  (handleReadForward session (some id)
    (unblockAndReport auth.userId auth.username.text blocked h).2).1

def Shows (db : Database) (id : MessageId) (answer : Except HostError Response) : Prop :=
  ∃ row hasPrev hasNext, db.messages.get? id = some row ∧
    answer = .ok (.prompt (buildMessageWithNav (mapMessageRow id row) hasPrev hasNext) false)

/-- The message is one of those read in the room that the session is in. -/
def ListedHere (auth : Auth) (db : Database) (id : MessageId) : Prop :=
  (db.rooms.get? auth.roomId).isSome ∧ minRowid < id ∧ id ∈ (messagesOf auth db).map (·.1)

/-- The oldest of the posts is. -/
def OldestHere (auth : Auth) (blocked : String) (db : Database) : Prop :=
  ∃ start ∈ blockedSince db auth.username.text blocked, ∃ oldest,
    IsLeast (listed (posts db auth.userId blocked start) : Set MessageId) oldest ∧
      ListedHere auth db oldest

theorem buildMessageWithNav_toList (msg : Message) (hasPrev hasNext : Bool) :
    ∃ rest, (buildMessageWithNav msg hasPrev hasNext).toList =
      '#' :: ((toString msg.id).toList ++ ' ' :: rest) := by
  unfold buildMessageWithNav formatMessage
  cases msg.recipient with
  | none => exact ⟨_, by simp [String.toList_append]; rfl⟩
  | some recipient => exact ⟨_, by simp [String.toList_append]; rfl⟩

section ReadOn
variable {session : SessionId} {r : SessionRecord} {auth : Auth} {room : Room} {h : BbsHost}
  {blocked : String}

theorem hidden_sure (reader : UserId) (blocker blocked : String) {s : Storage}
    (sure : s.faults = []) :
    ∃ report, hiddenWhileBlocked reader blocker blocked s = (.ok report, s) := by
  unfold hiddenWhileBlocked
  rw [bind_ok (query_sure _ sure)]
  cases (s.db.userBlocks.find? fun b => b.blocker = blocker && b.blocked = blocked).bind
      (·.blockedAtMessageId) with
  | none => exact ⟨_, rfl⟩
  | some start =>
      dsimp only
      rw [bind_ok (query_sure _ sure)]
      cases ((passedOver s.db reader blocked start).image (·.2)).min with
      | top => exact ⟨_, rfl⟩
      | coe oldest => exact ⟨_, rfl⟩

theorem unblock_sure (reader : UserId) (blocker blocked : String)
    (sure : h.store.faults = []) :
    ∃ response, unblockAndReport reader blocker blocked h = (.ok response,
      { h with store := { h.store with db := unblocked blocker blocked h.store.db } }) := by
  obtain ⟨report, asked⟩ := hidden_sure reader blocker blocked sure
  have passed : statement h.store = (.ok (), h.store) := by
    unfold statement
    rw [sure]
  have lifted : unblockUser blocker blocked h.store =
      (.ok (), { h.store with db := unblocked blocker blocked h.store.db }) := by
    unfold unblockUser execute
    rw [bind_ok passed]
    rfl
  have asked : Host.db StoreError.display (hiddenWhileBlocked reader blocker blocked) h =
      (.ok report, h) := by rw [db_ok asked]
  unfold unblockAndReport
  rw [bind_ok asked, bind_ok (db_ok lifted)]
  exact ⟨_, rfl⟩

theorem nav_id {m m' : Message} {hasPrev hasNext hasPrev' hasNext' : Bool}
    (same : buildMessageWithNav m hasPrev hasNext = buildMessageWithNav m' hasPrev' hasNext') :
    m.id = m'.id := by
  obtain ⟨rest, text⟩ := buildMessageWithNav_toList m hasPrev hasNext
  obtain ⟨rest', text'⟩ := buildMessageWithNav_toList m' hasPrev' hasNext'
  rw [same, text'] at text
  exact (Text.numbered_inj (List.cons.inj text).2).symm

theorem hears_shows {db : Database} {seen : Seen Message} {response : Response} {id : MessageId}
    (hears : Hears true room seen response)
    (stored : ∀ m, seen = .shown m → db.messages.get? m.id = some m.toMessageRow) :
    Shows db id (.ok response) ↔ ∃ m, seen = .shown m ∧ m.id = id := by
  have other {text : String} (first : text.toList.head? ≠ some '#') :
      ¬Shows db id (.ok (.prompt text false)) := by
    rintro ⟨row, hasPrev, hasNext, -, same⟩
    obtain ⟨rest, shown⟩ := buildMessageWithNav_toList (mapMessageRow id row) hasPrev hasNext
    injection same with same
    injection same with same
    rw [same, shown] at first
    exact first rfl
  cases hears with
  | shown msg hasPrev hasNext =>
      constructor
      · rintro ⟨row, hasPrev', hasNext', -, same⟩
        injection same with same
        injection same with same
        exact ⟨msg, rfl, nav_id same⟩
      · rintro ⟨m, same, rfl⟩
        cases same
        exact ⟨msg.toMessageRow, hasPrev, hasNext, stored msg rfl, rfl⟩
  | more => simpa using other (by decide)
  | endedAbove _ =>
      have first : (s!"No more messages in {room.name}.\n" ++
          "R - Backward  H - Help  X - Exit").toList.head? = some 'N' := by
        rw [String.toList_append, String.toList_append, String.toList_append]
        rfl
      simpa using other (by rw [first]; decide)
  | endedBelow wrong => cases wrong

theorem look_mem {forward : Bool} {db : Database} {position : Option MessageId}
    {skip : Message → Bool} {n : Nat} {m : Message} {rest : List Message}
    (found : look skip n (ahead forward auth db position) = .found m rest) :
    m ∈ ahead forward auth db position := by
  have kept : m ∈ (ahead forward auth db position).filter (!skip ·) := by
    rw [(look_found found).1]
    exact List.mem_cons_self
  exact (List.mem_filter.mp kept).1

/-- The first message from an id on is the one with that id, if it is listed at all. -/
theorem look_from {db : Database} {id : MessageId} {skip : Message → Bool}
    (shown : ∀ m ∈ inMessages auth db, m.id = id → skip m = false) :
    (∃ m rest, look skip maxBlockedSkip (ahead true auth db (some (startingAt id))) =
      .found m rest ∧ m.id = id) ↔ minRowid < id ∧ id ∈ (messagesOf auth db).map (·.1) := by
  have ids : (messagesOf auth db).map (·.1) = (inMessages auth db).map (·.id) := by
    unfold inMessages mapMessageRows
    rw [List.map_map]
    rfl
  rw [ids, ahead_forward]
  constructor
  · rintro ⟨m, rest, found, rfl⟩
    rw [← ahead_forward] at found
    have mem := look_mem found
    rw [ahead_forward] at mem
    obtain ⟨here, after⟩ := List.mem_filter.mp mem
    refine ⟨?_, List.mem_map_of_mem here⟩
    have after : max (m.id - 1) minRowid < m.id := by simpa [startingAt] using after
    exact (le_max_right _ _).trans_lt after
  · rintro ⟨low, mem⟩
    obtain ⟨m, here, rfl⟩ := List.mem_map.mp mem
    have sorted := inMessages_sorted auth db
    have start : startingAt m.id = m.id - 1 := max_eq_left (by unfold MessageId at *; omega)
    rw [start, Option.getD_some]
    have within : m ∈ (inMessages auth db).filter fun x => m.id - 1 < x.id :=
      List.mem_filter.mpr ⟨here, by simp⟩
    cases from_ : (inMessages auth db).filter fun x => m.id - 1 < x.id with
    | nil =>
        rw [from_] at within
        cases within
    | cons first rest =>
        have ordered := sorted.filter fun x => m.id - 1 < x.id
        rw [from_] at within ordered
        have first_ : first = m := by
          rcases List.mem_cons.mp within with same | later
          · exact same.symm
          · have before := (List.pairwise_cons.mp ordered).1 m later
            have mem : first ∈ (inMessages auth db).filter fun x => m.id - 1 < x.id := by
              rw [from_]
              exact List.mem_cons_self
            have after : m.id - 1 < first.id := by simpa using (List.mem_filter.mp mem).2
            unfold MessageId at *
            omega
        subst first_
        refine ⟨first, rest, ?_, rfl⟩
        unfold maxBlockedSkip look
        rw [shown first here rfl]
        rfl

theorem left_shown {behind : Option MessageId → List Message} {looked : Look Message}
    {seen : Seen Message} {position : Option MessageId} {m : Message}
    (left : Left behind looked seen position) :
    seen = .shown m ↔ ∃ rest, looked = .found m rest := by
  cases left with
  | found _ => simp
  | capped _ => simp
  | ended _ => simp

theorem unlisted (auth : Auth) (blocked : String) (db : Database) :
    blocked ∉ blockedBy auth (unblocked auth.username.text blocked db) := by
  unfold blockedBy unblocked
  simp only [List.mem_map, List.mem_filter, not_exists, not_and, and_imp]
  rintro b - kept mine rfl
  simp [of_decide_eq_true mine] at kept

theorem missing_room (online : Online session r auth h) (high : .user ≤ auth.level)
    (missing : h.store.db.rooms.get? auth.roomId = none) (after : Option Int) :
    (handleReadForward session after h).1 = .error (.notFound s!"room:{auth.roomId}") := by
  obtain ⟨h', asked, same⟩ := sessionAuthOrGuest_sure online
  have sure : h'.store.faults = [] := by rw [same.store]; exact online.sure
  have missing : h'.store.db.rooms.get? auth.roomId = none := by rw [same.store]; exact missing
  unfold handleReadForward reading withAuth
  rw [bind_ok asked]
  dsimp only
  rw [withGuestRule_passed (.inl high)]
  unfold withRoom RoomStore.getById
  rw [bind_ok (db_query_sure _ sure), missing]
  rfl

theorem readOn_shows (online : Online session r auth h) (high : .user ≤ auth.level)
    {id : MessageId} (sender : sentBy h.store.db blocked id) :
    Shows h.store.db id (readOn session auth blocked id h) ↔ ListedHere auth h.store.db id := by
  obtain ⟨response, ran⟩ :=
    unblock_sure auth.userId auth.username.text blocked online.sure
  have online₁ := online.store (s := { h.store with
    db := unblocked auth.username.text blocked h.store.db }) online.sure rfl
  unfold readOn
  rw [ran]
  cases room_ : h.store.db.rooms.get? auth.roomId with
  | none =>
      rw [missing_room online₁ high room_]
      constructor
      · rintro ⟨_, _, _, -, wrong⟩
        cases wrong
      · rintro ⟨known, -⟩
        rw [room_] at known
        cases known
  | some row =>
      have reader : Reader session r auth (mapRoomRow auth.roomId row) _ :=
        { toOnline := online₁, admitted := .inl high
          room := congrArg (Option.map (mapRoomRow auth.roomId)) room_ }
      obtain ⟨h', admitted, same, reader'⟩ := reading_reader reader
      have looked : lookUp session h' = (.ok (some (r.setLevel auth.level)), h') := by
        rw [lookUp, peek_apply, reader'.found]
      obtain ⟨answer, h'', r', seen, read, hears, -, -, -, left⟩ :=
        forwardFrom_pressed reader' (some (startingAt id))
      have answered : (handleReadForward session (some id) { h with store := { h.store with
          db := unblocked auth.username.text blocked h.store.db } }).1 = .ok answer := by
        unfold handleReadForward
        rw [admitted, bind_ok looked]
        exact congrArg Prod.fst read
      rw [same.store] at left
      have stored : ∀ m, seen = .shown m → h.store.db.messages.get? m.id = some m.toMessageRow := by
        intro m shown
        obtain ⟨rest, found⟩ := (left_shown left).mp shown
        have mem := look_mem found
        rw [ahead_forward] at mem
        exact inMessages_stored auth _ m (List.mem_filter.mp mem).1
      have shown : ∀ m ∈ inMessages auth h.store.db, m.id = id →
          isBlocked (blockedBy auth (unblocked auth.username.text blocked h.store.db)) m =
            false := by
        rintro m here rfl
        have stored := inMessages_stored auth _ m here
        have name : m.sender.text = blocked := by simpa [sentBy, stored] using sender
        unfold isBlocked
        rw [name]
        simpa using unlisted auth blocked h.store.db
      have seen_ : (∃ m, seen = .shown m ∧ m.id = id) ↔
          minRowid < id ∧ id ∈ (messagesOf auth h.store.db).map (·.1) := by
        rw [← look_from shown]
        simp only [left_shown left, exists_and_right]
        rfl
      rw [answered, hears_shows hears stored, seen_, ListedHere, room_]
      simp

end ReadOn

/-- A report is exact when no letter is among what it is about, and F opens the oldest message when
it is listed in the room of the session. -/
theorem block_report (blocked : String) :
    (∀ (s s' : Storage) (reader : UserId) (blocker : String) (report : Option HiddenWhileBlocked),
      hiddenWhileBlocked reader blocker blocked s = (.ok report, s') →
      (Exact {id | Hidden s.db reader blocker blocked id} report ↔
        ∀ start ∈ blockedSince s.db blocker blocked,
          Balanced s.db reader blocker blocked start)) ∧
    (∀ (session : SessionId) (r : SessionRecord) (auth : Auth) (h : BbsHost) (s' : Storage)
      (report : HiddenWhileBlocked), Online session r auth h → .user ≤ auth.level →
      hiddenWhileBlocked auth.userId auth.username.text blocked h.store = (.ok (some report), s') →
      (Shows h.store.db report.oldest (readOn session auth blocked report.oldest h) ↔
        OldestHere auth blocked h.store.db)) := by
  constructor
  · intro s s' reader blocker report ran
    exact report_exact (hiddenWhileBlocked_reports ran).1
  · intro session r auth h s' report online high ran
    obtain ⟨reports, -⟩ := hiddenWhileBlocked_reports ran
    cases reports with
    | @posts start oldest since least =>
        obtain ⟨room, post⟩ := mem_listed.mp (Finset.mem_coe.mp least.1)
        rw [readOn_shows online high (mem_posts.mp post).2.1]
        constructor
        · exact fun here => ⟨start, since, oldest, least, here⟩
        · rintro ⟨first, known, other, least', here⟩
          cases since.symm.trans known
          rwa [least.unique least']

/-- Alice has blocked Bob. -/
def blocking : List Input :=
  [.connect "telnet", .connect "telnet", .command 1 (.loginOneShot .alice "password"),
    .command 2 (.loginOneShot .bob "password"), .command 1 (.blockUser .bob none)]

def blockingThen (later : List Input) : BbsHost :=
  (blocking ++ later).foldl deliver (adminCreateUser "bob" "password" 10
    (adminCreateUser "alice" "password" 100 (.fresh .fresh)).2).2

def postedPast : BbsHost :=
  blockingThen [.command 2 (.enterMessage (some "hello")), .command 2 (.workflowReply "."),
    .command 1 .readNew]

theorem answers {α : Type} {m : StoreM α} {s : Storage} {a : α} (answer : (m s).1 = .ok a) :
    m s = (.ok a, (m s).2) := by
  rw [← answer]

theorem block_report_alice :
    Exact {id | Hidden postedPast.store.db 1 "alice" "bob" id} (some ⟨1, 1⟩) ∧
      Shows postedPast.store.db 1 (readOn 1 alices "bob" 1 postedPast) := by
  have ran : (hiddenWhileBlocked 1 "alice" "bob" postedPast.store).1 = .ok (some ⟨1, 1⟩) := by
    decide +kernel
  obtain ⟨r, room, -, reader⟩ : ∃ r room, postedPast.sessions.get? 1 = some r ∧
      Reader 1 r alices room postedPast :=
    Reader.known (by decide +kernel) (by decide +kernel) (by decide +kernel) (.inl (by decide))
      (.inl (by decide)) (by decide +kernel)
  have since : blockedSince postedPast.store.db "alice" "bob" = some 0 := by decide +kernel
  constructor
  · apply ((block_report "bob").1 postedPast.store _ 1 "alice" _ (answers ran)).mpr
    rw [since]
    rintro start known
    cases known
    decide +kernel
  · apply ((block_report "bob").2 1 r alices postedPast _ ⟨1, 1⟩ reader.toOnline (by decide)
      (answers ran)).mpr
    refine ⟨0, since, 1, ?_, by decide +kernel, by decide, by decide +kernel⟩
    have only : listed (posts postedPast.store.db 1 "bob" 0) = {1} := by decide +kernel
    show IsLeast (listed (posts postedPast.store.db 1 "bob" 0) : Set MessageId) 1
    rw [only]
    exact ⟨by simp, by simp⟩

def mailedPast : BbsHost :=
  blockingThen [.command 1 .goMail, .command 2 .goMail, .command 2 (.enterMessage none),
    .command 2 (.workflowReply "alice"), .command 2 (.workflowReply "hello"),
    .command 2 (.workflowReply "."), .command 1 .readNew]

/-- A letter that reading has passed over is not in the report. -/
theorem letter_unreported : ¬ ∀ (s s' : Storage) (reader : UserId) (blocker blocked : String)
    (report : Option HiddenWhileBlocked),
    hiddenWhileBlocked reader blocker blocked s = (.ok report, s') →
    Exact {id | Hidden s.db reader blocker blocked id} report := by
  intro claim
  have ran : (hiddenWhileBlocked 1 "alice" "bob" mailedPast.store).1 = .ok none := by
    decide +kernel
  have nothing := claim mailedPast.store _ 1 "alice" "bob" none (answers ran)
  have letter : Hidden mailedPast.store.db 1 "alice" "bob" 1 :=
    ⟨by decide +kernel, ⟨0, by decide +kernel, by decide⟩, .inr (by decide +kernel)⟩
  have mem : (1 : MessageId) ∈ {id | Hidden mailedPast.store.db 1 "alice" "bob" id} := letter
  rw [nothing] at mem
  exact mem

end SupplyDrop.Proof.BlockReport
