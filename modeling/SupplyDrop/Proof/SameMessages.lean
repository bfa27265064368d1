import Mathlib
import SupplyDrop.Library.Lines
import SupplyDrop.Proof.Accounts
import SupplyDrop.Proof.ReadNew
import SupplyDrop.Proof.Stepping

namespace SupplyDrop.Proof.SameMessages
open Library Library.Program Store Host Stepping

/-! ## The lines of a scan -/

theorem name_plain (name : Username) : '\n' ∉ name.text.toList :=
  fun mem => validateChars_plain name.valid '\n' mem (by decide)

theorem flatten_plain (content : String) : '\n' ∉ (flatten content).toList := by
  unfold flatten
  rw [String.toList_ofList]
  simp only [List.mem_map, not_exists, not_and]
  rintro c - turned
  split at turned
  · cases turned
  · next other => exact other turned

theorem scanLine_toList (msg : Message) : ∃ rest, (scanLine msg).toList =
    '#' :: ((toString msg.id).toList ++ ' ' :: rest) ∧ '\n' ∉ rest := by
  have flat := flatten_plain msg.content
  have name := name_plain msg.sender
  let ellipsis := if 40 < (flatten msg.content).toList.length then "…" else ""
  refine ⟨msg.sender.text.toList ++ ':' :: ' ' :: ((flatten msg.content).toList.take 40 ++
    ellipsis.toList), ?_, ?_⟩
  · have text : scanLine msg = "#" ++ toString msg.id ++ " " ++ msg.sender.text ++ ": " ++
        String.ofList ((flatten msg.content).toList.take 40) ++ ellipsis := rfl
    simp [text, String.toList_append]
  · have end_ : '\n' ∉ ellipsis.toList := by
      unfold ellipsis
      split
      · decide
      · decide
    have start : '\n' ∉ (flatten msg.content).toList.take 40 := fun mem => flat (List.mem_of_mem_take mem)
    simp [name, end_, start]

theorem scanLine_plain (msg : Message) : '\n' ∉ (scanLine msg).toList := by
  obtain ⟨rest, line, plain⟩ := scanLine_toList msg
  rw [line]
  have digits : '\n' ∉ (toString msg.id).toList := by
    intro mem
    rcases Text.number_plain msg.id '\n' mem with h | h
    · cases h
    · exact absurd h (by decide)
  simp only [List.mem_cons, List.mem_append, not_or]
  exact ⟨by decide, digits, by decide, plain⟩

/-- A line of the scan tells which message it is of. -/
theorem scanLine_id {a b : Message} (same : scanLine a = scanLine b) : a.id = b.id := by
  obtain ⟨rest, line, -⟩ := scanLine_toList a
  obtain ⟨rest', line', -⟩ := scanLine_toList b
  rw [same, line'] at line
  exact (Text.numbered_inj (List.cons.inj line).2).symm

/-! ## S -/

/-- What S says of these messages. -/
def scanOf (room : Room) (blocked : List String) (messages : List Message) : Response :=
  let page := buildPage (messages.take (meshPage * 2 + 1)) (meshPage * 2)
  let visible := visibleTo blocked page.messages
  if visible.isEmpty then .text s!"No messages in {room.name}."
  else .text ("\n".intercalate (scanLines room visible page.nextCursor))

/-- The posts of the room the reader is in, be it Mail or not. -/
def posts (auth : Auth) (db : Database) : List Message :=
  mapMessageRows (MessageStore.inRoom db auth.roomId)

def fromStart (messages : List Message) : List Message := messages.filter fun m => minRowid < m.id

section Scan
variable {session : SessionId} {r : SessionRecord} {auth : Auth} {room : Room} {h : BbsHost}
  {blocked : List String} {xs ys : List Message}

theorem scan_replies (reader : Reader session r auth room h) :
    (handleScan session h).1 =
      .ok (scanOf room (blockedBy auth h.store.db) (fromStart (posts auth h.store.db))) := by
  obtain ⟨h', admitted, same, reader'⟩ := reading_reader reader
  have store := same.store
  have page : db StoreError.display (MessageStore.listInRoom auth.roomId none (meshPage * 2)) h' =
      (.ok (buildPage ((fromStart (posts auth h.store.db)).take (meshPage * 2 + 1))
        (meshPage * 2)), h') := by
    rw [db_ok]
    unfold MessageStore.listInRoom fromStart posts mapMessageRows
    rw [bind_ok (query_sure _ reader'.sure), store, List.filter_map, ← List.map_take]
    rfl
  unfold handleScan
  rw [admitted, bind_ok page, bind_ok (blocksOf_sure auth reader'.sure), store]
  unfold scanOf
  dsimp only
  split
  · rfl
  · rfl

/-- A reader would see the same of both. -/
def ScansAlike (blocked : List String) (xs ys : List Message) : Prop :=
  visibleTo blocked (xs.take (meshPage * 2)) = visibleTo blocked (ys.take (meshPage * 2)) ∧
  (visibleTo blocked (xs.take (meshPage * 2)) ≠ [] →
    (meshPage * 2 < xs.length ↔ meshPage * 2 < ys.length))

def listing (visible : List Message) (more : Bool) : List String :=
  visible.map scanLine ++ if more then ["(more — type F <id> to read from a message)"] else []

theorem listing_plain (visible : List Message) (more : Bool) :
    ∀ l ∈ listing visible more, '\n' ∉ l.toList := by
  intro l mem
  rcases List.mem_append.mp mem with line | last
  · obtain ⟨msg, -, rfl⟩ := List.mem_map.mp line
    exact scanLine_plain msg
  · cases more with
    | false => cases last
    | true =>
        rw [List.mem_singleton.mp last]
        decide

theorem scanLine_ne_more (msg : Message) :
    scanLine msg ≠ "(more — type F <id> to read from a message)" := by
  intro same
  obtain ⟨rest, line, -⟩ := scanLine_toList msg
  rw [same] at line
  have first : some '(' = some '#' := congrArg List.head? line
  cases first

theorem listing_injective {more more' : Bool} (same : listing xs more = listing ys more') :
    xs.map (·.id) = ys.map (·.id) ∧ more = more' := by
  induction xs generalizing ys with
  | nil =>
      cases ys with
      | nil =>
          cases more <;> cases more' <;> first | exact ⟨rfl, rfl⟩ | cases same
      | cons b ys =>
          cases more with
          | false => cases same
          | true => exact absurd (List.cons.inj same).1.symm (scanLine_ne_more b)
  | cons a xs ih =>
      cases ys with
      | nil =>
          cases more' with
          | false => cases same
          | true => exact absurd (List.cons.inj same).1 (scanLine_ne_more a)
      | cons b ys =>
          obtain ⟨first, rest⟩ := List.cons.inj same
          obtain ⟨ids, last⟩ := ih rest
          exact ⟨by rw [List.map_cons, List.map_cons, scanLine_id first, ids], last⟩

theorem scanOf_sorted (room : Room) (blocked : List String)
    (sorted : xs.Pairwise fun a b => a.id < b.id) : scanOf room blocked xs =
      if (visibleTo blocked (xs.take (meshPage * 2))).isEmpty then
        .text s!"No messages in {room.name}."
      else .text ("\n".intercalate (s!"[{room.name} — scan]" ::
        listing (visibleTo blocked (xs.take (meshPage * 2))) (meshPage * 2 < xs.length))) := by
  unfold scanOf
  rw [buildPage_sorted _ sorted]
  dsimp only
  split
  · rfl
  · next some_ =>
    have more : ((if meshPage * 2 < xs.length then
        (xs.take (meshPage * 2)).getLast?.map (·.id) else none).isSome) =
        decide (meshPage * 2 < xs.length) := by
      split
      · next longer =>
        have nonempty : xs.take (meshPage * 2) ≠ [] := by
          intro none
          rw [none] at some_
          exact some_ rfl
        rw [decide_eq_true longer, Option.isSome_map]
        exact List.getLast?_isSome.mpr nonempty
      · next shorter => rw [decide_eq_false shorter]; rfl
    unfold scanLines listing
    rw [more]
    simp

theorem scanOf_same_iff {db : Database} (room : Room) (blocked : List String)
    (sorted : xs.Pairwise fun a b => a.id < b.id) (sorted' : ys.Pairwise fun a b => a.id < b.id)
    (stored : Stored db xs) (stored' : Stored db ys) :
    scanOf room blocked xs = scanOf room blocked ys ↔ ScansAlike blocked xs ys := by
  rw [scanOf_sorted room blocked sorted, scanOf_sorted room blocked sorted']
  have kept : Stored db (visibleTo blocked (xs.take (meshPage * 2))) :=
    fun m mem => stored m (List.mem_of_mem_take (List.mem_filter.mp mem).1)
  have kept' : Stored db (visibleTo blocked (ys.take (meshPage * 2))) :=
    fun m mem => stored' m (List.mem_of_mem_take (List.mem_filter.mp mem).1)
  unfold ScansAlike
  generalize visibleTo blocked (xs.take (meshPage * 2)) = vs at kept ⊢
  generalize visibleTo blocked (ys.take (meshPage * 2)) = ws at kept' ⊢
  have apart (lines : List String) : ("No messages in " ++ room.name ++ "." : String) ≠
      "\n".intercalate (("[" ++ room.name ++ " — scan]") :: lines) := by
    intro same
    have texts := congrArg String.toList same
    rw [String.toList_intercalate] at texts
    have first : some 'N' = some '[' := by
      cases lines with
      | nil => simpa using congrArg List.head? texts
      | cons l ls => simpa using congrArg List.head? texts
    cases first
  constructor
  · intro same
    by_cases empty : vs = []
    · by_cases empty' : ws = []
      · exact ⟨empty.trans empty'.symm, fun some_ => absurd empty some_⟩
      · rw [if_pos (List.isEmpty_iff.mpr empty), if_neg (List.isEmpty_iff.not.mpr empty')] at same
        exact absurd (Response.text.inj same) (apart _)
    · by_cases empty' : ws = []
      · rw [if_neg (List.isEmpty_iff.not.mpr empty), if_pos (List.isEmpty_iff.mpr empty')] at same
        exact absurd (Response.text.inj same).symm (apart _)
      · rw [if_neg (List.isEmpty_iff.not.mpr empty), if_neg (List.isEmpty_iff.not.mpr empty')] at same
        have some_ (more : Bool) : listing vs more ≠ [] := by simp [listing, empty]
        have some' (more : Bool) : listing ws more ≠ [] := by simp [listing, empty']
        have texts := Response.text.inj same
        rw [String.intercalate_cons_of_ne_nil (some_ _), String.intercalate_cons_of_ne_nil (some' _)]
          at texts
        have lines := Text.lines_injective (listing_plain _ _) (listing_plain _ _) (some_ _) (some' _)
          (String.append_right_inj _ |>.mp texts)
        obtain ⟨ids, more⟩ := listing_injective lines
        exact ⟨kept.same kept' ids, fun _ => by simpa using more⟩
  · rintro ⟨rfl, more⟩
    by_cases empty : vs = []
    · rw [if_pos (List.isEmpty_iff.mpr empty), if_pos (List.isEmpty_iff.mpr empty)]
    · simp only [more empty]

end Scan
/-! ## .FF -/

def skipped : Response := .text "Skipped to latest message."

def nothingHere : Response := .text "No messages in this room."

/-- Where .FF comes to from a state of the store. -/
def pointerAt (auth : Auth) (db : Database) (id : MessageId) : MessageId :=
  MessageStore.advanced (db.userRoomState auth.userId auth.roomId) id

section FastForward
variable {session : SessionId} {r : SessionRecord} {auth : Auth} {room : Room} {h : BbsHost}

theorem fastForward_runs (reader : Reader session r auth room h) :
    ∃ h', h'.store = h.store ∧ handleFastForward session h =
      match (posts auth h.store.db).getLast? with
      | none => (.ok nothingHere, h')
      | some latest =>
          if Unmarkable h.store.db auth.userId auth.roomId latest.id then
            (.error (.storage MessageStore.foreignKeyFailed.display), h')
          else (.ok skipped, { h' with store := { h.store with
            db := marked auth.userId auth.roomId latest.id h.store.db } }) := by
  obtain ⟨h', asked, same⟩ := sessionAuthOrGuest_sure reader.toOnline
  have reader' := reader.again same
  have store := same.store
  refine ⟨h', store, ?_⟩
  rw [← store]
  have recent : db StoreError.display (MessageStore.listRecentInRoom auth.roomId 1) h' =
      (.ok (mapMessageRows ((MessageStore.inRoom h'.store.db auth.roomId).reverse.take 1)), h') :=
    db_query_sure _ reader'.sure
  have latest : (mapMessageRows ((MessageStore.inRoom h'.store.db auth.roomId).reverse.take 1)).head? =
      (posts auth h'.store.db).getLast? := by
    unfold posts mapMessageRows
    rw [List.head?_map, List.getLast?_map, List.head?_take, if_neg (by decide), List.head?_reverse]
  unfold handleFastForward withAuth
  rw [bind_ok asked]
  dsimp only
  rw [withGuestRule_passed reader'.admitted, bind_ok recent, latest]
  cases (posts auth h'.store.db).getLast? with
  | none => rfl
  | some latest =>
      have ran := markRead_sure auth.userId auth.roomId latest.id reader'.sure
      dsimp only
      split
      · next unmarkable =>
        rw [if_pos unmarkable] at ran
        rw [bind_error (db_error ran)]
      · next markable =>
        rw [if_neg markable] at ran
        rw [bind_ok (db_ok ran)]
        rfl

end FastForward

/-! ## One set of messages -/

/-- .FF jumps to the newest of the messages. -/
def Skips (auth : Auth) (db : Database) (response : Response) (db' : Database) : Prop :=
  match (inMessages auth db).getLast? with
  | none => response = nothingHere
  | some newest => response = skipped ∧
      db'.userRoomState auth.userId auth.roomId = some (some (pointerAt auth db newest.id))

def unreadHere (auth : Auth) (db : Database) : List MessageId :=
  if auth.roomId = mail then MessageStore.unreadDirect db auth.username auth.userId auth.roomId
  else MessageStore.unreadInRoom db auth.userId auth.roomId

/-- Each command that reads does so among the messages of the room, in Mail the direct messages. -/
structure ReadsAlike (session : SessionId) (r : SessionRecord) (auth : Auth) (room : Room)
    (h : BbsHost) : Prop where
  scan : (handleScan session h).1 =
    .ok (scanOf room (blockedBy auth h.store.db) (ahead true auth h.store.db none))
  skip : ∀ response h', handleFastForward session h = (.ok response, h') →
    Skips auth h.store.db response h'.store.db
  new : ∀ response h', handleReadNew session h = (.ok response, h') →
    response = newOf room auth h.store.db
  step : Engaged r → ∀ forward, Pressed forward session auth room h
    (look (isBlocked (blockedBy auth h.store.db)) maxBlockedSkip
      (ahead forward auth h.store.db r.currentMessageId)) (press forward session h)
  caughtUp : ∀ h', handleFastForward session h = (.ok skipped, h') →
    unreadHere auth h'.store.db = []

/-- The post that .FF finds is as good as the newest of the messages, if a pointer can be put there
at all. -/
def LandsAlike (auth : Auth) (db : Database) : Prop :=
  match (posts auth db).getLast? with
  | none => inMessages auth db = []
  | some post => Unmarkable db auth.userId auth.roomId post.id ∨
      (inMessages auth db).getLast?.map (pointerAt auth db ·.id) = some (pointerAt auth db post.id)

/-- In Mail, the room's own posts pass for the direct messages. -/
def OneMailbox (auth : Auth) (db : Database) : Prop :=
  auth.roomId = mail →
    ScansAlike (blockedBy auth db) (fromStart (posts auth db)) (fromStart (inMessages auth db)) ∧
    LandsAlike auth db

section Same
variable {session : SessionId} {r : SessionRecord} {auth : Auth} {room : Room} {h : BbsHost}
  {db : Database}

theorem posts_sorted (auth : Auth) (db : Database) :
    (posts auth db).Pairwise fun a b => a.id < b.id :=
  List.pairwise_map.mpr (db.messages.sorted.sublist List.filter_sublist)

theorem posts_stored (auth : Auth) (db : Database) : Stored db (posts auth db) := by
  intro m mem
  obtain ⟨row, here, rfl⟩ := List.mem_map.mp mem
  exact (RowTable.mem_rows_iff ..).mp (List.mem_filter.mp here).1

theorem inMessages_elsewhere (elsewhere : auth.roomId ≠ mail) (db : Database) :
    inMessages auth db = posts auth db := by
  unfold inMessages posts messagesOf
  rw [if_neg elsewhere]

theorem unreadHere_eq (auth : Auth) (db : Database) : unreadHere auth db =
    ((inMessages auth db).filter fun m =>
      MessageStore.unread (db.userRoomState auth.userId auth.roomId) m.id).map (·.id) := by
  unfold unreadHere inMessages messagesOf mapMessageRows
  rw [List.filter_map, List.map_map]
  split
  · rfl
  · rfl

theorem advanced_le (state : Option (Option MessageId)) (id : MessageId) :
    id ≤ MessageStore.advanced state id := by
  cases state with
  | none => exact le_refl id
  | some pointer => exact le_max_left _ _

/-- Behind the newest message nothing is unread. -/
theorem caughtUp_at {pointer : MessageId} {newest : Message}
    (last : (inMessages auth db).getLast? = some newest) (beyond : newest.id ≤ pointer)
    (at_ : db.userRoomState auth.userId auth.roomId = some (some pointer)) :
    unreadHere auth db = [] := by
  rw [unreadHere_eq, at_, List.map_eq_nil_iff, List.filter_eq_nil_iff]
  intro m mem
  have before : m.id ≤ newest.id := by
    obtain ⟨init, split⟩ := List.getLast?_eq_some_iff.mp last
    have sorted := inMessages_sorted auth db
    rw [split] at mem sorted
    rcases List.mem_append.mp mem with earlier | same
    · exact ((List.pairwise_append.mp sorted).2.2 m earlier newest (List.mem_singleton_self _)).le
    · rw [List.mem_singleton.mp same]
  simpa [MessageStore.unread] using before.trans beyond

theorem skipped_ne : skipped ≠ nothingHere := by decide

theorem marked_at (auth : Auth) (db : Database) (id : MessageId) :
    (marked auth.userId auth.roomId id db).userRoomState auth.userId auth.roomId =
      some (some (pointerAt auth db id)) :=
  if_pos ⟨rfl, rfl⟩

theorem fastForward_messages (reader : Reader session r auth room h) {response : Response}
    {h' : BbsHost} (ran : handleFastForward session h = (.ok response, h')) :
    inMessages auth h'.store.db = inMessages auth h.store.db := by
  obtain ⟨h₁, store, same⟩ := fastForward_runs reader
  rw [same] at ran
  split at ran
  · cases ran
    rw [store]
  · split at ran
    · cases ran
    · cases ran
      rfl

theorem landsAlike_iff (reader : Reader session r auth room h) : LandsAlike auth h.store.db ↔
    ∀ response h', handleFastForward session h = (.ok response, h') →
      Skips auth h.store.db response h'.store.db := by
  obtain ⟨h₁, store, ran⟩ := fastForward_runs reader
  unfold LandsAlike Skips
  rw [ran]
  cases (posts auth h.store.db).getLast? with
  | none =>
      dsimp only
      constructor
      · intro none response h' same
        cases same
        rw [none]
        rfl
      · intro spec
        have skips := spec nothingHere h₁ rfl
        cases last : (inMessages auth h.store.db).getLast? with
        | none => exact List.getLast?_eq_none_iff.mp last
        | some newest =>
            rw [last] at skips
            exact absurd skips.1.symm skipped_ne
  | some post =>
      dsimp only
      split
      · next unmarkable => exact ⟨fun _ _ _ failed => (nomatch failed), fun _ => .inl unmarkable⟩
      · next markable =>
        constructor
        · rintro (unmarkable | lands) response h' same
          · exact absurd unmarkable markable
          · cases same
            obtain ⟨newest, last, same⟩ := Option.map_eq_some_iff.mp lands
            rw [last]
            exact ⟨rfl, by rw [same]; exact marked_at auth h.store.db post.id⟩
        · intro spec
          have skips := spec skipped _ rfl
          right
          cases last : (inMessages auth h.store.db).getLast? with
          | none =>
              rw [last] at skips
              exact absurd skips skipped_ne
          | some newest =>
              rw [last] at skips
              have at_ := (marked_at auth h.store.db post.id).symm.trans skips.2
              rw [Option.map_some, Option.some.inj (Option.some.inj at_)]

/-- .FF finds no mail where nothing has been posted. -/
theorem overlooks (reader : Reader session r auth room h) (unposted : posts auth h.store.db = [])
    (mailed : inMessages auth h.store.db ≠ []) : ¬ReadsAlike session r auth room h := by
  intro alike
  have lands := (landsAlike_iff reader).mpr alike.skip
  unfold LandsAlike at lands
  rw [unposted] at lands
  exact mailed lands

theorem reads_alike_iff (reader : Reader session r auth room h) :
    ReadsAlike session r auth room h ↔ OneMailbox auth h.store.db := by
  have sorted (xs : List Message) (ascending : xs.Pairwise fun a b => a.id < b.id) :
      (fromStart xs).Pairwise fun a b => a.id < b.id := ascending.filter _
  have stored {xs : List Message} (rows : Stored h.store.db xs) :
      Stored h.store.db (fromStart xs) := fun m mem => rows m (List.mem_filter.mp mem).1
  have scans := scanOf_same_iff room (blockedBy auth h.store.db)
    (sorted _ (posts_sorted auth h.store.db)) (sorted _ (inMessages_sorted auth h.store.db))
    (stored (posts_stored auth h.store.db)) (stored (inMessages_stored auth h.store.db))
  have start : ahead true auth h.store.db none = fromStart (inMessages auth h.store.db) :=
    ahead_forward none
  constructor
  · intro alike _
    have same := (scan_replies reader).symm.trans alike.scan
    rw [start] at same
    exact ⟨scans.mp (Except.ok.inj same), (landsAlike_iff reader).mpr alike.skip⟩
  · intro one
    have both : scanOf room (blockedBy auth h.store.db) (fromStart (posts auth h.store.db)) =
        scanOf room (blockedBy auth h.store.db) (fromStart (inMessages auth h.store.db)) ∧
        LandsAlike auth h.store.db := by
      by_cases inMail : auth.roomId = mail
      · exact ⟨scans.mpr (one inMail).1, (one inMail).2⟩
      · rw [inMessages_elsewhere inMail]
        refine ⟨rfl, ?_⟩
        unfold LandsAlike
        rw [inMessages_elsewhere inMail]
        split
        · next last => exact List.getLast?_eq_none_iff.mp last
        · next last => exact .inr (by rw [last]; rfl)
    have skips := (landsAlike_iff reader).mp both.2
    refine ⟨?_, skips, fun _ _ => readNew_replies reader,
      fun engaged forward => press_pressed forward reader engaged, ?_⟩
    · rw [scan_replies reader, both.1, start]
    · intro h' ran
      have jumped := skips skipped h' ran
      unfold Skips at jumped
      split at jumped
      · exact absurd jumped skipped_ne
      · next newest last =>
        apply caughtUp_at _ (advanced_le _ newest.id) jumped.2
        rw [fastForward_messages reader ran]
        exact last

end Same

theorem reads_alike_alice : ∃ r room, ReadsAlike 1 r alices room readersLobby := by
  obtain ⟨r, room, -, reader⟩ := alice_reads
  exact ⟨r, room, (reads_alike_iff reader).mpr fun inMail => absurd inMail (by decide)⟩

/-- Bob mails Alice, who goes to Mail. -/
def mailing : List Input :=
  [.connect "telnet", .connect "telnet", .command 1 (.loginOneShot .alice "password"),
    .command 2 (.loginOneShot .bob "password"), .command 2 .goMail,
    .command 2 (.enterMessage none), .command 2 (.workflowReply "alice"),
    .command 2 (.workflowReply "hello"), .command 2 (.workflowReply "."), .command 1 .goMail]

def mailReaders : BbsHost :=
  mailing.foldl deliver (adminCreateUser "bob" "password" 10
    (adminCreateUser "alice" "password" 100 (.fresh .fresh)).2).2

def aliceInMail : Auth := ⟨.alice, 1, .sysop, mail⟩

theorem mail_overlooked : ¬ ∀ (session : SessionId) (r : SessionRecord) (auth : Auth) (room : Room)
    (h : BbsHost), Reader session r auth room h → ReadsAlike session r auth room h := by
  intro claim
  obtain ⟨r, room, -, reader⟩ : ∃ r room, mailReaders.sessions.get? 1 = some r ∧
      Reader 1 r aliceInMail room mailReaders :=
    Reader.known (by decide +kernel) (by decide +kernel) (by decide +kernel) (.inl (by decide))
      (.inl (by decide)) (by decide +kernel)
  exact overlooks reader (by decide +kernel) (by decide +kernel)
    (claim 1 r aliceInMail room mailReaders reader)

end SupplyDrop.Proof.SameMessages
