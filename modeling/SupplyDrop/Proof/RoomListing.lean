import Mathlib
import SupplyDrop.Library.Clip
import SupplyDrop.Host.Process
import SupplyDrop.Proof.NextUnread

namespace SupplyDrop.Proof.RoomListing
open Library Library.Links Library.Program Store Host RoomWalk NextUnread

/-! ## A page of lines -/

def cost (line : String) : Nat := line.utf8ByteSize + 1

theorem pageOf_fitting (lines : List String) (used : Nat) :
    pageOf false used lines = Clip.fitting cost lines (lineBudget - used) := by
  induction lines generalizing used with
  | nil => rfl
  | cons line lines ih =>
      unfold pageOf Clip.fitting
      dsimp only
      rw [ih, Nat.sub_sub]
      have positive : 0 < cost line := Nat.succ_pos _
      by_cases fits : cost line ≤ lineBudget - used
      · have room : ¬lineBudget < used + (line.utf8ByteSize + 1) := by
          unfold cost at fits positive
          omega
        rw [if_pos fits, if_neg (by simpa using room)]
        rfl
      · have full : lineBudget < used + (line.utf8ByteSize + 1) := by
          unfold cost at fits
          omega
        rw [if_neg fits, if_pos (by simpa using full)]

def firstPage (lines : List String) : List String := pageOf true 0 lines

theorem firstPage_cons (line : String) (lines : List String) :
    firstPage (line :: lines) =
      line :: Clip.fitting cost lines (lineBudget - cost line) := by
  unfold firstPage pageOf
  dsimp only
  rw [pageOf_fitting, Nat.zero_add]
  rfl

theorem firstPage_begins (lines : List String) : firstPage lines <+: lines := by
  cases lines with
  | nil => exact List.prefix_rfl
  | cons line lines =>
      rw [firstPage_cons]
      exact (List.prefix_cons_inj line).mpr (Clip.fitting_prefix lines _)

theorem firstPage_length {lines : List String} (some_ : lines ≠ []) :
    0 < (firstPage lines).length := by
  cases lines with
  | nil => exact absurd rfl some_
  | cons line lines =>
      rw [firstPage_cons]
      exact Nat.succ_pos _

/-- A page goes beyond its budget only for a line that is alone on it. -/
theorem firstPage_cost {lines : List String} (several : 1 < (firstPage lines).length) :
    Clip.total cost (firstPage lines) ≤ lineBudget := by
  cases lines with
  | nil => exact absurd several (by decide)
  | cons line lines =>
      have rest : Clip.total cost (Clip.fitting cost lines (lineBudget - cost line)) ≤ _ :=
        Clip.total_fitting_le lines _
      rw [firstPage_cons] at several ⊢
      rw [Clip.total_cons]
      by_cases over_ : lineBudget < cost line
      · rw [Nat.sub_eq_zero_of_le over_.le] at several rest
        cases eq : Clip.fitting cost lines 0 with
        | nil =>
            rw [eq] at several
            exact absurd several (lt_irrefl 1)
        | cons second more =>
            rw [eq, Clip.total_cons] at rest
            unfold cost at rest
            omega
      · omega

/-! ## The bytes of a prompt -/

theorem bytes_lines {lines : List String} (some_ : lines ≠ []) :
    ("\n".intercalate lines).utf8ByteSize + 1 = Clip.total cost lines := by
  induction lines with
  | nil => exact absurd rfl some_
  | cons line lines ih =>
      cases lines with
      | nil => rw [String.intercalate_singleton, Clip.total_cons, Clip.total_nil, cost]
      | cons next rest =>
          have newline : "\n".utf8ByteSize = 1 := by decide +kernel
          rw [String.intercalate_cons_cons, String.utf8ByteSize_append, String.utf8ByteSize_append,
            Clip.total_cons, ← ih (List.cons_ne_nil next rest), newline, cost]
          omega

def frameBytes : Nat := 156

/-- The text of a prompt stays within one radio frame. -/
def InFrame : Response → Prop
  | .prompt text _ => text.utf8ByteSize ≤ frameBytes
  | _ => True

theorem listing_bytes {page : List String} (some_ : page ≠ []) (more : Bool) :
    InFrame (roomListing page more) ↔
      Clip.total cost page ≤ if more then 78 else 121 := by
  have bytes := bytes_lines some_
  have header : "Rooms:\n".utf8ByteSize = 7 := by decide +kernel
  have footer : "\nEnter # to join, X to cancel".utf8ByteSize = 29 := by decide +kernel
  have trailer : "\n(more — press K again for the next page)".utf8ByteSize = 43 := by
    decide +kernel
  have none_ : "".utf8ByteSize = 0 := rfl
  unfold roomListing InFrame frameBytes
  dsimp only
  rw [String.utf8ByteSize_append, String.utf8ByteSize_append, String.utf8ByteSize_append, header,
    footer]
  cases more with
  | true =>
      simp only [if_true]
      rw [trailer]
      omega
  | false =>
      simp only [Bool.false_eq_true, if_false]
      rw [none_]
      omega

/-! ## The pages of a list of rooms -/

variable {line : Room → String}

/-- How many of the rooms the first page shows. -/
def shown (line : Room → String) (rooms : List Room) : Nat := (firstPage (rooms.map line)).length

theorem shown_pos {rooms : List Room} (some_ : rooms ≠ []) : 0 < shown line rooms :=
  firstPage_length (by simpa using some_)

theorem shown_lines (line : Room → String) (rooms : List Room) :
    (rooms.take (shown line rooms)).map line = firstPage (rooms.map line) := by
  rw [List.map_take]
  exact (List.prefix_iff_eq_take.mp (firstPage_begins (rooms.map line))).symm

def pagesOf (line : Room → String) (rooms : List Room) : List (List Room) :=
  if rooms = [] then []
  else rooms.take (shown line rooms) :: pagesOf line (rooms.drop (shown line rooms))
termination_by rooms.length
decreasing_by
  next some_ =>
    have : 0 < shown line rooms := shown_pos some_
    have := List.length_pos_iff.mpr some_
    rw [List.length_drop]
    omega

theorem pagesOf_nil : pagesOf line [] = [] := by
  rw [pagesOf, if_pos rfl]

theorem pagesOf_some {rooms : List Room} (some_ : rooms ≠ []) :
    pagesOf line rooms =
      rooms.take (shown line rooms) :: pagesOf line (rooms.drop (shown line rooms)) := by
  rw [pagesOf, if_neg some_]

theorem pagesOf_isEmpty (rooms : List Room) : (pagesOf line rooms).isEmpty = rooms.isEmpty := by
  by_cases empty : rooms = []
  · rw [empty, pagesOf_nil]
    rfl
  · rw [pagesOf_some empty, List.isEmpty_cons, List.isEmpty_eq_false_iff.mpr empty]

/-- Properties of all pages, from the first of them to those of the rooms that are left. -/
theorem pages_induction (line : Room → String) {motive : List Room → Prop} (empty : motive [])
    (page : ∀ rooms, rooms ≠ [] → motive (rooms.drop (shown line rooms)) → motive rooms)
    (rooms : List Room) : motive rooms := by
  induction rooms using pagesOf.induct line with
  | case1 => exact empty
  | case2 rooms some_ ih => exact page rooms some_ ih

theorem pagesOf_flatten (rooms : List Room) : (pagesOf line rooms).flatten = rooms := by
  induction rooms using pages_induction line with
  | empty => rw [pagesOf_nil, List.flatten_nil]
  | page rooms some_ ih =>
      rw [pagesOf_some some_, List.flatten_cons, ih, List.take_append_drop]

theorem pagesOf_ne_nil (rooms : List Room) : ∀ page ∈ pagesOf line rooms, page ≠ [] := by
  induction rooms using pages_induction line with
  | empty =>
      rw [pagesOf_nil]
      exact fun page mem => absurd mem List.not_mem_nil
  | page rooms some_ ih =>
      rw [pagesOf_some some_]
      intro page mem
      rcases List.mem_cons.mp mem with rfl | later
      · rw [Ne, List.take_eq_nil_iff]
        rintro (none_ | empty)
        · exact (shown_pos some_).ne' none_
        · exact some_ empty
      · exact ih page later

/-- The prompts that show the pages, all but the last offering the next one. -/
def prompts (line : Room → String) : List (List Room) → List Response
  | [] => []
  | page :: rest => roomListing (page.map line) (!rest.isEmpty) :: prompts line rest

/-- No line is too long to be alone on a page: one that others follow may have 77 bytes, as the
offer of the next page stands below it, and the last one 120. -/
structure LinesFit (lines : List String) : Prop where
  followed : ∀ line ∈ lines.dropLast, line.utf8ByteSize ≤ 77
  last : ∀ line ∈ lines.getLast?, line.utf8ByteSize ≤ 120

theorem linesFit_append {page rest : List String} (some_ : rest ≠ []) :
    LinesFit (page ++ rest) ↔ (∀ line ∈ page, line.utf8ByteSize ≤ 77) ∧ LinesFit rest := by
  have front : (page ++ rest).dropLast = page ++ rest.dropLast := List.dropLast_append_of_ne_nil some_
  have back : (page ++ rest).getLast? = rest.getLast? := List.getLast?_append_of_ne_nil page some_
  constructor
  · rintro ⟨followed, last⟩
    rw [front] at followed
    rw [back] at last
    exact ⟨fun line mem => followed line (List.mem_append_left _ mem),
      fun line mem => followed line (List.mem_append_right _ mem), last⟩
  · rintro ⟨first, followed, last⟩
    refine ⟨?_, by rwa [back]⟩
    rw [front]
    intro line mem
    rcases List.mem_append.mp mem with early | late
    · exact first line early
    · exact followed line late

theorem short_lines {lines : List String} (several : 1 < (firstPage lines).length) :
    ∀ line ∈ firstPage lines, line.utf8ByteSize ≤ 77 := by
  intro line mem
  have whole := firstPage_cost several
  have part : cost line ≤ Clip.total cost (firstPage lines) :=
    List.single_le_sum (fun _ _ => Nat.zero_le _) _ (List.mem_map_of_mem mem)
  unfold cost lineBudget at *
  omega

theorem followed_inFrame {lines : List String} (some_ : lines ≠ []) :
    InFrame (roomListing (firstPage lines) true) ↔
      ∀ line ∈ firstPage lines, line.utf8ByteSize ≤ 77 := by
  have positive := firstPage_length some_
  rw [listing_bytes (List.ne_nil_of_length_pos positive), if_pos rfl]
  by_cases several : 1 < (firstPage lines).length
  · have within := firstPage_cost several
    exact iff_of_true (within.trans (by decide)) (short_lines several)
  · obtain ⟨line, alone⟩ := List.length_eq_one_iff.mp (show (firstPage lines).length = 1 by omega)
    rw [alone, Clip.total_cons, Clip.total_nil, cost]
    constructor
    · intro within line' mem
      rw [List.mem_singleton.mp mem]
      omega
    · intro short
      have := short line (List.mem_singleton_self line)
      omega

theorem last_inFrame {lines : List String} (some_ : lines ≠ []) :
    InFrame (roomListing (firstPage lines) false) ↔ LinesFit (firstPage lines) := by
  have positive := firstPage_length some_
  rw [listing_bytes (List.ne_nil_of_length_pos positive), if_neg Bool.false_ne_true]
  by_cases several : 1 < (firstPage lines).length
  · have within := firstPage_cost several
    have short := short_lines several
    refine iff_of_true (within.trans (by decide)) ⟨?_, ?_⟩
    · exact fun line mem => short line (List.dropLast_subset _ mem)
    · exact fun line mem => (short line (List.mem_of_getLast? mem)).trans (by decide)
  · obtain ⟨line, alone⟩ := List.length_eq_one_iff.mp (show (firstPage lines).length = 1 by omega)
    rw [alone, Clip.total_cons, Clip.total_nil, cost]
    constructor
    · intro within
      refine ⟨nofun, fun line' mem => ?_⟩
      have same : line = line' := Option.some.inj mem
      rw [← same]
      omega
    · intro fits
      have := fits.last line rfl
      omega

/-- All prompts stay within a frame exactly if no line is too long for the page it is on. -/
theorem prompts_inFrame (rooms : List Room) :
    (∀ response ∈ prompts line (pagesOf line rooms), InFrame response) ↔
      LinesFit (rooms.map line) := by
  induction rooms using pages_induction line with
  | empty =>
      rw [pagesOf_nil]
      exact iff_of_true (fun _ mem => absurd mem List.not_mem_nil) ⟨nofun, nofun⟩
  | page rooms some_ ih =>
      have some' : rooms.map line ≠ [] := by simpa using some_
      have lines : rooms.map line = firstPage (rooms.map line) ++
          (rooms.drop (shown line rooms)).map line := by
        rw [← shown_lines, ← List.map_append, List.take_append_drop]
      rw [pagesOf_some some_, prompts, List.forall_mem_cons, ih, shown_lines, pagesOf_isEmpty]
      by_cases over_ : rooms.drop (shown line rooms) = []
      · rw [over_, List.map_nil, List.append_nil] at lines
        rw [over_]
        have nothing : LinesFit (([] : List Room).map line) := ⟨nofun, nofun⟩
        rw [show (!([] : List Room).isEmpty) = false from rfl, last_inFrame some', ← lines]
        exact and_iff_left nothing
      · rw [List.isEmpty_eq_false_iff.mpr over_, show (!false) = true from rfl,
          followed_inFrame some']
        conv_rhs => rw [lines]
        exact (linesFit_append (by simpa using over_)).symm

/-! ## Pressing K -/

def pressK (session : SessionId) (awaitingReply : Bool) : HostM Response :=
  dispatch (handleWorkflowReply processFresh) session (Command.parse "K" awaitingReply)

def nextPage : Workflow → Option Nat
  | .rooms _ next => next
  | _ => none

/-- Where the next page starts, if a prompt offers one. -/
def continuation (session : SessionId) (response : Response) (h : BbsHost) : Option Nat :=
  match response with
  | .prompt _ _ => (h.sessions.get? session).bind fun r => nextPage r.workflow
  | _ => none

/-- The answers to `K`, pressed until no continuation is offered and with nothing between. -/
inductive Pressed (session : SessionId) : Bool → BbsHost → List Response → Prop
  | last {awaitingReply : Bool} {h h' : BbsHost} {response : Response}
      (ran : pressK session awaitingReply h = (.ok response, h'))
      (ends : continuation session response h' = none) : Pressed session awaitingReply h [response]
  | more {awaitingReply : Bool} {h h' : BbsHost} {response : Response} {next : Nat}
      {rest : List Response} (ran : pressK session awaitingReply h = (.ok response, h'))
      (offered : continuation session response h' = some next) (on : Pressed session true h' rest) :
      Pressed session awaitingReply h (response :: rest)

section Run
variable {session : SessionId} {r : SessionRecord} {auth : Auth} {h h' h₀ : BbsHost}
  {awaitingReply : Bool} {answers answers' : List Response}

theorem Pressed.unique (one : Pressed session awaitingReply h answers)
    (other : Pressed session awaitingReply h answers') : answers = answers' := by
  induction one generalizing answers' with
  | last ran ends =>
      cases other with
      | last ran' _ =>
          cases ran.symm.trans ran'
          rfl
      | more ran' offered _ =>
          cases ran.symm.trans ran'
          rw [ends] at offered
          cases offered
  | more ran offered on ih =>
      cases other with
      | last ran' ends =>
          cases ran.symm.trans ran'
          rw [ends] at offered
          cases offered
      | more ran' _ on' =>
          cases ran.symm.trans ran'
          rw [ih on']

theorem pressK_command (session : SessionId) (h : BbsHost) :
    pressK session false h = handleListRoomsFrom session 0 h := by
  have parsed : Command.parse "K" false = .listRooms := by decide +kernel
  rw [pressK, parsed]
  rfl

theorem pressK_reply {ids : List RoomId} {next : Nat} (found : h.sessions.get? session = some r)
    (waiting : r.workflow = .rooms ids (some next)) :
    pressK session true h = handleListRoomsFrom session next h := by
  have parsed : Command.parse "K" true = .workflowReply "K" := by decide +kernel
  have asked : workflowOf session h = (.ok (some (.rooms ids (some next))), h) := by
    rw [workflowOf, peek_apply, found, Option.map_some, waiting]
  have stays : ¬(Text.eqIgnoreAsciiCase (Text.trim "K") "x" ∨ (Text.trim "K").isEmpty) := by
    decide +kernel
  have further : Text.eqIgnoreAsciiCase (Text.trim "K") "k" := by decide +kernel
  rw [pressK, parsed]
  show handleWorkflowReply processFresh session "K" h = _
  unfold handleWorkflowReply
  rw [bind_ok asked]
  show roomsReply processFresh session ids (some next) "K" h = _
  unfold roomsReply
  rw [if_neg stays, if_pos further]

/-- The line of a room, with the messages in it that the session has yet to read. -/
def lineOf (auth : Auth) (db : Database) (room : Room) : String :=
  roomLine auth room (unreadMessages (at_ auth room.id) db).length

theorem lines_sure (auth : Auth) (sure : h.store.faults = []) (rooms : List Room) :
    (rooms.mapM fun room => do
      let unread ← unreadIn auth room.id
      pure (roomLine auth room unread) : HostM (List String)) h =
        (.ok (rooms.map (lineOf auth h.store.db)), h) := by
  induction rooms with
  | nil => rfl
  | cons room rooms ih =>
      have count : unreadIn auth room.id h =
          (.ok (unreadMessages (at_ auth room.id) h.store.db).length, h) :=
        unreadIn_sure (at_ auth room.id) sure
      have first : (do
          let unread ← unreadIn auth room.id
          pure (roomLine auth room unread) : HostM String) h =
          (.ok (lineOf auth h.store.db room), h) := by
        rw [bind_ok count]
        rfl
      rw [List.mapM_cons, bind_ok first, bind_ok ih]
      rfl

/-- Between two presses the session goes on being served, from the same store. -/
structure Serving (session : SessionId) (r : SessionRecord) (auth : Auth) (h₀ h : BbsHost) :
    Prop where
  online : Online session r auth h
  store : h.store = h₀.store
  guestRoom : h.guestRoomId = h₀.guestRoomId

theorem paginate_page (rooms : List Room) (start : Nat) :
    paginateRoomLines (rooms.map line) start =
      ((rooms.take (shown line rooms)).map line,
        if rooms.drop (shown line rooms) = [] then none else some (start + shown line rooms)) := by
  have left : ((firstPage (rooms.map line)).length < (rooms.map line).length) ↔
      rooms.drop (shown line rooms) ≠ [] := by
    rw [List.length_map, Ne, List.drop_eq_nil_iff, not_le]
    rfl
  rw [shown_lines]
  show (firstPage (rooms.map line), if (firstPage (rooms.map line)).length < (rooms.map line).length
    then some (start + (firstPage (rooms.map line)).length) else none) = _
  by_cases over_ : rooms.drop (shown line rooms) = []
  · rw [if_neg (fun more => left.mp more over_), if_pos over_]
  · rw [if_pos (left.mpr over_), if_neg over_]
    rfl

section Page
variable {ordered : List Room} {start : Nat}

/-- One press shows the page at `start` and keeps where the next one begins. -/
theorem listFrom_page (serving : Serving session r auth h₀ h)
    (listed : RoomStore.listReadable auth.level h₀.store =
      (.ok (ordered.filter fun r => r.minPermissionLevel ≤ auth.level), h₀.store))
    {rooms left page rest : List Room} (eq : ordered.filter (mayRead auth h₀.guestRoomId) = rooms)
    (here : rooms.drop start = left) (some_ : left ≠ [])
    (page_ : left.take (shown (lineOf auth h₀.store.db) left) = page)
    (rest_ : left.drop (shown (lineOf auth h₀.store.db) left) = rest) :
    ∃ h' r', handleListRoomsFrom session start h =
        (.ok (roomListing (page.map (lineOf auth h₀.store.db)) (!rest.isEmpty)), h') ∧
      Serving session r' auth h₀ h' ∧ r'.workflow = .rooms (rooms.map (·.id))
        (if rest = [] then none
          else some (start + shown (lineOf auth h₀.store.db) left)) := by
  obtain ⟨h₁, asked, same⟩ := sessionAuthOrGuest_sure serving.online
  have online := serving.online.again same
  have store : h₁.store = h₀.store := same.store.trans serving.store
  have guestRoom : h₁.guestRoomId = h₀.guestRoomId := same.guestRoom.trans serving.guestRoom
  have for_ : roomsFor auth h₁ = (.ok rooms, h₁) := by
    rw [← store] at listed
    rw [roomsFor_filters listed, guestRoom, eq]
  have numbered := lines_sure auth online.sure rooms
  rw [store] at numbered
  have inside : start < rooms.length := by
    rw [← not_le, ← List.drop_eq_nil_iff, here]
    exact some_
  have whole : (rooms.map (lineOf auth h₀.store.db)).isEmpty = false := by
    rw [List.isEmpty_eq_false_iff, Ne, List.map_eq_nil_iff]
    exact List.ne_nil_of_length_pos (Nat.zero_lt_of_lt inside)
  unfold handleListRoomsFrom withAuth
  rw [bind_ok asked]
  dsimp only
  rw [bind_ok for_, bind_ok numbered, whole, if_neg Bool.false_ne_true, if_pos
    (by rwa [List.length_map]), ← List.map_drop, here, paginate_page, page_, rest_]
  dsimp only
  generalize listing : Workflow.rooms (rooms.map (·.id)) _ = workflow
  have more : (if rest = [] then none
      else some (start + shown (lineOf auth h₀.store.db) left)).isSome = !rest.isEmpty := by
    cases rest <;> rfl
  rw [more]
  exact ⟨_, _, rfl, ⟨online.move _ workflow (fun r => r.setWorkflow workflow) rfl, store, guestRoom⟩,
    rfl⟩

/-- From the page at `start` on, the presses show the pages of the rooms that are left. -/
theorem pressed_from
    (listed : RoomStore.listReadable auth.level h₀.store =
      (.ok (ordered.filter fun r => r.minPermissionLevel ≤ auth.level), h₀.store))
    {rooms : List Room} (eq : ordered.filter (mayRead auth h₀.guestRoomId) = rooms)
    (left : List Room) (some_ : left ≠ []) (here : rooms.drop start = left)
    (serving : Serving session r auth h₀ h)
    (press : pressK session awaitingReply h = handleListRoomsFrom session start h) :
    Pressed session awaitingReply h
      (prompts (lineOf auth h₀.store.db) (pagesOf (lineOf auth h₀.store.db) left)) := by
  induction left using pages_induction (lineOf auth h₀.store.db)
    generalizing start r h awaitingReply with
  | empty => exact absurd rfl some_
  | page left _ ih =>
      generalize rest_ : left.drop (shown (lineOf auth h₀.store.db) left) = rest at ih
      obtain ⟨h', r', ran, serving', workflow⟩ :=
        listFrom_page serving listed eq here some_ rfl rest_
      rw [pagesOf_some some_, prompts, rest_, pagesOf_isEmpty]
      by_cases over_ : rest = []
      · rw [if_pos over_] at workflow
        rw [over_] at ran ⊢
        rw [pagesOf_nil]
        apply Pressed.last (press.trans ran)
        show (h'.sessions.get? session).bind (fun r => nextPage r.workflow) = none
        rw [serving'.online.found, Option.bind_some, workflow, nextPage]
      · rw [if_neg over_] at workflow
        have offered : (h'.sessions.get? session).bind (fun r => nextPage r.workflow) =
            some (start + shown (lineOf auth h₀.store.db) left) := by
          rw [serving'.online.found, Option.bind_some, workflow, nextPage]
        apply Pressed.more (press.trans ran) offered
        apply ih over_ _ serving' (pressK_reply serving'.online.found workflow)
        rw [← List.drop_drop, here, rest_]

/-! ## The whole list -/

/-- What `K` answers for a list that is shown on these pages. -/
def answersFor (line : Room → String) : List (List Room) → List Response
  | [] => [.text "No accessible rooms."]
  | pages => prompts line pages

/-- `K` shows pages that are not empty and hold, in the order of the walk, every room the session
may read and each of them once, and every prompt stays within one frame. -/
def Paged (session : SessionId) (auth : Auth) (order : List RoomId) (h : BbsHost) : Prop :=
  ∃ pages : List (List Room),
    Pressed session false h (answersFor (lineOf auth h.store.db) pages) ∧
      (∀ page ∈ pages, page ≠ []) ∧
      pages.flatten.map (·.id) = order.filter (· ∈ readable auth h.guestRoomId h.store.db) ∧
      ∀ response ∈ answersFor (lineOf auth h.store.db) pages, InFrame response

/-- The lines of the rooms the session may read, in the order of the walk. -/
def listedLines (auth : Auth) (order : List RoomId) (h : BbsHost) : List String :=
  ((order.filter (· ∈ readable auth h.guestRoomId h.store.db)).filterMap fun id =>
    (h.store.db.rooms.get? id).map (mapRoomRow id)).map (lineOf auth h.store.db)

theorem pressed_empty (online : Online session r auth h)
    (listed : RoomStore.listReadable auth.level h.store =
      (.ok (ordered.filter fun r => r.minPermissionLevel ≤ auth.level), h.store))
    (empty : ordered.filter (mayRead auth h.guestRoomId) = []) :
    Pressed session false h [.text "No accessible rooms."] := by
  obtain ⟨h', asked, same⟩ := sessionAuthOrGuest_sure online
  have for_ : roomsFor auth h' = (.ok [], h') := by
    rw [← same.store] at listed
    rw [roomsFor_filters listed, same.guestRoom, empty]
  have ran : handleListRoomsFrom session 0 h = (.ok (.text "No accessible rooms."), h') := by
    unfold handleListRoomsFrom withAuth
    rw [bind_ok asked]
    dsimp only
    rw [bind_ok for_]
    rfl
  exact .last ((pressK_command session h).trans ran) rfl

theorem paged_rooms (online : Online session r auth h)
    (listed : RoomStore.listReadable auth.level h.store =
      (.ok (ordered.filter fun r => r.minPermissionLevel ≤ auth.level), h.store))
    {rooms : List Room} (eq : ordered.filter (mayRead auth h.guestRoomId) = rooms) :
    Pressed session false h
        (answersFor (lineOf auth h.store.db) (pagesOf (lineOf auth h.store.db) rooms)) ∧
      ((∀ response ∈ answersFor (lineOf auth h.store.db) (pagesOf (lineOf auth h.store.db) rooms),
        InFrame response) ↔ LinesFit (rooms.map (lineOf auth h.store.db))) := by
  by_cases empty : rooms = []
  · rw [empty] at eq ⊢
    rw [pagesOf_nil]
    refine ⟨pressed_empty online listed eq, iff_of_true ?_ ⟨nofun, nofun⟩⟩
    intro response mem
    rw [List.mem_singleton.mp mem]
    exact trivial
  · have shows : answersFor (lineOf auth h.store.db) (pagesOf (lineOf auth h.store.db) rooms) =
        prompts (lineOf auth h.store.db) (pagesOf (lineOf auth h.store.db) rooms) := by
      rw [pagesOf_some empty]
      rfl
    rw [shows]
    exact ⟨pressed_from listed eq rooms empty List.drop_zero ⟨online, rfl, rfl⟩
      (pressK_command session h), prompts_inFrame rooms⟩

theorem room_list_paged_iff {order : List RoomId} (online : Online session r auth h)
    (walk : Walk (roomLinks h.store.db.rooms) order) :
    Paged session auth order h ↔ LinesFit (listedLines auth order h) := by
  obtain ⟨ordered, ids, stored, listed⟩ := listReadable_walk online.sure walk
  generalize eq : ordered.filter (mayRead auth h.guestRoomId) = rooms
  obtain ⟨pressed, frames⟩ := paged_rooms online (listed auth.level) eq
  have read : rooms.map (·.id) = order.filter (· ∈ readable auth h.guestRoomId h.store.db) := by
    rw [← ids, List.filter_map, ← eq]
    congr 1
    apply List.filter_congr
    intro room mem
    rw [Bool.eq_iff_iff, mayRead_iff (stored room mem)]
    exact decide_eq_true_iff.symm
  have lines : rooms.map (lineOf auth h.store.db) = listedLines auth order h := by
    unfold listedLines
    rw [← read, List.filterMap_map]
    congr 1
    rw [List.filterMap_congr (g := some), List.filterMap_some]
    intro room mem
    rw [← eq] at mem
    exact stored room (List.mem_of_mem_filter mem)
  rw [← lines, ← frames]
  constructor
  · rintro ⟨pages, pressed', -, -, within⟩
    rw [pressed.unique pressed']
    exact within
  · intro within
    refine ⟨_, pressed, pagesOf_ne_nil rooms, ?_, within⟩
    rw [pagesOf_flatten, read]

end Page
end Run

theorem room_list_paged_alice :
    Paged 1 Stepping.alices [lobby, mail, aides, 4, 5] Stepping.readersLobby := by
  obtain ⟨r, room, -, reader⟩ := Stepping.alice_reads
  exact (room_list_paged_iff reader.toOnline (seeded_walk (by decide +kernel))).mpr
    ⟨by decide +kernel, by decide +kernel⟩

/-- Alice, a sysop, has made a room with a long name and one more behind it. -/
def longNamed : BbsHost :=
  [.connect "meshcore", .command 1 (.loginOneShot .alice "password"),
    .command 1 (.createRoom
      "Announcements and discussion for the volunteers of the north shore repeater site"),
    .command 1 (.createRoom "Hiking")].foldl deliver
      (adminCreateUser "alice" "password" 100 (.fresh .fresh)).2

def promptBytes : Except HostError Response → Nat
  | .ok (.prompt text _) => text.utf8ByteSize
  | _ => 0

theorem promptBytes_inFrame {response : Response} (frame : InFrame response) :
    promptBytes (.ok response) ≤ frameBytes := by
  cases response with
  | prompt text hideInput => exact frame
  | _ => exact Nat.zero_le _

def continuationOf : Except HostError Response × BbsHost → Option Nat
  | (.ok response, h) => continuation 1 response h
  | _ => none

theorem prompt_beyond_frame : ¬∃ order, Paged 1 Stepping.alices order longNamed := by
  rintro ⟨order, pages, pressed, -, -, frames⟩
  generalize answersFor (lineOf Stepping.alices longNamed.store.db) pages = answers
    at pressed frames
  have first : continuationOf (pressK 1 false longNamed) = some 5 := by decide +kernel
  have second : frameBytes < promptBytes (pressK 1 true (pressK 1 false longNamed).2).1 := by
    decide +kernel
  cases pressed with
  | last ran ends =>
      rw [ran, continuationOf] at first
      cases ends.symm.trans first
  | more ran offered on =>
      rw [ran] at second
      cases on with
      | last ran' ends =>
          rw [ran'] at second
          exact absurd (promptBytes_inFrame (frames _ (by simp))) (not_le.mpr second)
      | more ran' offered' on' =>
          rw [ran'] at second
          exact absurd (promptBytes_inFrame (frames _ (by simp))) (not_le.mpr second)

end SupplyDrop.Proof.RoomListing
