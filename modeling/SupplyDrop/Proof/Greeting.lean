import Mathlib
import SupplyDrop.Proof.LoginPaths

namespace SupplyDrop.Proof.Greeting
open Library Library.Program Store Host

/-! ## Handlers that log nobody in -/

/-- What the handler returns, if it does. -/
structure Returns {α : Type} (m : HostM α) (Q : α → Prop) : Prop where
  holds : Discipline.returning.ensures m Q

namespace Returns
variable {α β : Type} {Q : β → Prop}

theorem anything (m : HostM α) : Returns m fun _ => True := ⟨fun _ _ _ => trivial⟩

theorem ret {a : β} (holds : Q a) : Returns (pure a : HostM β) Q :=
  ⟨Discipline.returning.ret holds⟩

theorem fail (e : HostError) : Returns (Program.fail e : HostM β) Q :=
  ⟨Discipline.returning.fail⟩

theorem bind {P : α → Prop} {m : HostM α} {f : α → HostM β} (first : Returns m P)
    (rest : ∀ a, P a → Returns (f a) Q) : Returns (m >>= f) Q :=
  ⟨Discipline.returning.bind first.holds fun a p => (rest a p).holds⟩

/-- Only what comes last is returned. -/
theorem seq {m : HostM α} {f : α → HostM β} (rest : ∀ a, Returns (f a) Q) : Returns (m >>= f) Q :=
  (anything m).bind fun a _ => rest a

end Returns

/-- The handler never answers that somebody is logged in. -/
def Silent (m : HostM Response) : Prop := Returns m fun response => loggedInAs response = none

namespace Silent
variable {α : Type} {session : SessionId}

theorem ret {response : Response} (other : loggedInAs response = none) :
    Silent (pure response : HostM Response) := Returns.ret other

theorem fail (e : HostError) : Silent (Program.fail e : HostM Response) := Returns.fail e

theorem seq {m : HostM α} {f : α → HostM Response} (rest : ∀ a, Silent (f a)) :
    Silent (m >>= f) := Returns.seq rest

/-- What has been answered is passed on later. -/
theorem answersLater {m : HostM Response} {f : Except HostError Response → HostM Response}
    (first : Silent m)
    (rest : ∀ r, (∀ response, r = .ok response → loggedInAs response = none) → Silent (f r)) :
    Silent ((Program.attempt m : HostM _) >>= f) :=
  Returns.bind ⟨Discipline.returning.attempt first.holds⟩ rest

theorem ite {p : Prop} [Decidable p] {m m' : HostM Response} (yes : Silent m) (no : Silent m') :
    Silent (if p then m else m') := by
  split
  · exact yes
  · exact no

/-- A refusal is no login. -/
def Refusal : Except Response Auth → Prop
  | .ok _ => True
  | .error response => loggedInAs response = none

theorem refuses_sessionAuth : Returns (sessionAuth session) Refusal := by
  refine ⟨?_⟩
  rintro h auth ⟨⟩
  dsimp only
  split
  · exact rfl
  · split
    · exact trivial
    · exact rfl

theorem refuses_sessionAuthUser : Returns (sessionAuthUser session) Refusal := by
  apply Returns.bind refuses_sessionAuth
  intro auth refusal
  cases auth with
  | error response => exact .ret refusal
  | ok auth =>
      apply Returns.seq
      intro level
      apply Returns.seq
      intro _
      split
      · exact .ret trivial
      · apply Returns.seq
        intro requireVerify
        split
        · exact .ret rfl
        · exact Returns.seq fun _ => .ret trivial

theorem refuses_sessionAuthOrGuest : Returns (sessionAuthOrGuest session) Refusal := by
  apply Returns.bind refuses_sessionAuthUser
  intro auth refusal
  cases auth with
  | ok auth => exact .ret trivial
  | error pending =>
      apply Returns.seq
      intro guestRoom
      split
      · apply Returns.seq
        intro again
        apply Returns.ret
        cases again with
        | ok auth => exact trivial
        | error _ => exact refusal
      · exact .ret refusal

theorem withAuth {auth : HostM (Except Response Auth)} {k : Auth → HostM Response}
    (refuses : Returns auth Refusal) (rest : ∀ auth, Silent (k auth)) :
    Silent (Host.withAuth auth k) := by
  apply Returns.bind refuses
  intro auth refusal
  cases auth with
  | ok auth => exact rest auth
  | error response => exact .ret refusal

theorem privileged {required : PermissionLevel} {refusal : Response}
    {k : Auth → HostM Response} (other : loggedInAs refusal = none)
    (rest : ∀ auth, Silent (k auth)) : Silent (Host.privileged session required refusal k) := by
  apply Silent.withAuth refuses_sessionAuthUser
  intro auth
  split
  · exact .ret other
  · exact rest auth

theorem withUser {username : Username} {missing : Response} {k : User → HostM Response}
    (other : loggedInAs missing = none) (rest : ∀ user, Silent (k user)) :
    Silent (Host.withUser username missing k) := by
  apply Silent.seq
  intro user
  cases user with
  | none => exact .ret other
  | some user => exact rest user

theorem withGuestRule {auth : Auth} {refusal : String} {k : HostM Response}
    (rest : Silent k) : Silent (Host.withGuestRule auth refusal k) := by
  apply Silent.seq
  intro guestRoom
  split
  · exact .ret rfl
  · exact rest

theorem withRoom {roomId : RoomId} {k : Room → HostM Response} (rest : ∀ room, Silent (k room)) :
    Silent (Host.withRoom roomId k) := by
  apply Silent.seq
  intro room
  cases room with
  | none => exact .fail _
  | some room => exact rest room

theorem whenIdle {k : HostM Response} (rest : Silent k) :
    Silent (Host.whenIdle session k) := by
  apply Silent.seq
  intro workflow
  split
  · exact .ret rfl
  · exact rest

theorem reading {k : Auth → Room → HostM Response} (rest : ∀ auth room, Silent (k auth room)) :
    Silent (Host.reading session k) :=
  .withAuth refuses_sessionAuthOrGuest fun auth => .withGuestRule (.withRoom (rest auth))

end Silent

section Handlers
variable (session : SessionId) {username : Username}

open Silent

theorem silent_help (topic : Option String) : Silent (handleHelp session topic) :=
  .seq fun _ => .ret rfl

theorem silent_whoami : Silent (handleWhoami session) := by
  apply Silent.seq
  intro r
  repeat' split
  · exact .ret rfl
  · exact .ret rfl
  · exact .seq fun _ => .ret rfl

theorem silent_cancel : Silent (handleCancel session) :=
  .seq fun _ => .ite (.ret rfl) (.seq fun _ => .ret rfl)

theorem silent_logout : Silent (handleLogout session) := .seq fun _ => .ret rfl

theorem silent_unknown (raw : String) : Silent (handleUnknown session raw) := by
  apply Silent.seq
  intro r
  split
  · exact .ret rfl
  · exact .ite (.ret rfl) (.ret rfl)

/-! ### Logging in, up to the password -/

theorem silent_startRegister (rawUsername : String) : Silent (startRegister session rawUsername) := by
  unfold startRegister
  split
  · exact .ret rfl
  · exact .seq fun _ => .ite (.ret rfl) (.seq fun _ => .ret rfl)

theorem silent_register (rawUsername : String) : Silent (handleRegister session rawUsername) := by
  apply Silent.seq
  intro found
  split
  · next refusal refused =>
    obtain ⟨r, -, busy⟩ := Option.bind_eq_some_iff.mp refused
    exact .ret (LoginWalk.busy_refuses busy)
  · exact silent_startRegister session rawUsername

theorem silent_startLogin : Silent (startLogin session username) := by
  apply Silent.seq
  intro user
  split
  · exact .ret rfl
  · exact .seq fun _ => .ret rfl

theorem silent_login : Silent (handleLogin session username) := by
  apply Silent.seq
  intro found
  split
  · next refusal refused =>
    obtain ⟨r, -, busy⟩ := Option.bind_eq_some_iff.mp refused
    exact .ret (LoginWalk.busy_refuses busy)
  · exact silent_startLogin session

/-! ### Rooms and reading -/

theorem silent_listRooms (start : Nat) : Silent (handleListRoomsFrom session start) :=
  .withAuth refuses_sessionAuthOrGuest fun _ => .seq fun _ => .seq fun _ =>
    .ite (.ret rfl) (.seq fun _ => .ret rfl)

theorem silent_repairPointer (auth : Auth) (room : Room) : Silent (repairPointer auth room) := by
  apply Silent.seq
  intro newest
  cases newest with
  | none => exact .ret rfl
  | some msg => exact .seq fun _ => .ret rfl

theorem silent_showNew (auth : Auth) (room : Room) (after : Option MessageId) :
    Silent (showNew auth room after) :=
  .seq fun _ => .seq fun _ => .seq fun _ => .ite (.ret rfl) (.ret rfl)

theorem silent_readNew : Silent (handleReadNew session) :=
  .reading fun auth room => .seq fun _ =>
    .ite (.seq fun _ => .ite (silent_repairPointer auth room) (silent_showNew auth room none))
      (silent_showNew auth room _)

/-- What `readNewUnlessEmpty` passes on is what N answered. -/
theorem shown_silently (room : Room) : Returns (readNewUnlessEmpty session room) fun shown =>
    ∀ response, shown = some response → loggedInAs response = none := by
  apply Returns.bind (silent_readNew session)
  intro response other
  apply Returns.ret
  intro response' same
  split at same
  · cases same
  · cases same
    exact other

theorem silent_shown {room : Room} {rest : HostM Response} (otherwise : Silent rest) :
    Silent (do
      let response ← readNewUnlessEmpty session room
      match response with
      | some response => pure response
      | none => rest) := by
  apply Returns.bind (shown_silently session room)
  intro shown other
  cases shown with
  | none => exact otherwise
  | some response => exact .ret (other response rfl)

theorem silent_tryRooms (auth : Auth) (rooms : List Room) (moved : Bool) :
    Silent (tryRooms session auth rooms moved) := by
  induction rooms generalizing moved with
  | nil => exact .seq fun _ => .ret rfl
  | cons room rest ih =>
      unfold tryRooms
      apply Silent.ite (ih moved)
      apply Silent.seq
      intro unread
      apply Silent.ite
      · exact .seq fun _ => silent_shown session (ih true)
      · exact ih moved

theorem silent_goNextUnread : Silent (handleGoNextUnread session) := by
  apply Silent.withAuth refuses_sessionAuthOrGuest
  intro auth
  apply Silent.seq
  intro rooms
  have hunts : Silent (huntUnread session auth rooms) := silent_tryRooms session auth _ _
  split
  · exact hunts
  · exact .seq fun _ => .ite (silent_shown session hunts) hunts

theorem silent_enterRoom (room : Room) (auth : Auth) : Silent (enterRoom session room auth) :=
  .ite (.ret rfl) (.seq fun _ => .ite (.ret rfl) (.seq fun _ => .seq fun _ => .ret rfl))

theorem silent_repeatOutcome : Silent (repeatOutcome session) := by
  apply Silent.seq
  intro r
  split <;> exact .ret rfl

theorem silent_changeRoom (target : String) : Silent (handleChangeRoom session target) := by
  apply Silent.ite (silent_repeatOutcome session)
  apply Silent.withAuth refuses_sessionAuthOrGuest
  intro auth
  apply Silent.seq
  intro room
  cases room with
  | none => exact .ret rfl
  | some room => exact silent_enterRoom session room auth

theorem silent_changeToRoom (roomId : RoomId) : Silent (handleChangeToRoom session roomId) := by
  apply Silent.withAuth refuses_sessionAuthOrGuest
  intro auth
  apply Silent.seq
  intro room
  cases room with
  | none => exact .ret rfl
  | some room => exact silent_enterRoom session room auth

theorem silent_readingIntro (auth : Auth) (room : Room) : Silent (readingIntro session auth room) :=
  .seq fun _ => .seq fun _ => .ret rfl

theorem silent_showMessage (auth : Auth) (msg : Message) (blocked : List String) :
    Silent (showMessage session auth msg blocked) :=
  .seq fun _ => .seq fun _ => .seq fun _ => .seq fun _ => .ret rfl

theorem silent_readForward (after : Option Int) : Silent (handleReadForward session after) := by
  apply Silent.reading
  intro auth room
  apply Silent.seq
  intro r
  apply Silent.ite (silent_readingIntro session auth room)
  apply Silent.seq
  intro blocked
  apply Silent.seq
  intro step
  cases step with
  | found msg => exact silent_showMessage session auth msg blocked
  | skipped at_ => exact .seq fun _ => .ret rfl
  | ended lastSkipped => exact .seq fun _ => .seq fun _ => .ret rfl

theorem silent_readReverse : Silent (handleReadReverse session) := by
  apply Silent.reading
  intro auth room
  apply Silent.seq
  intro r
  apply Silent.ite (silent_readingIntro session auth room)
  apply Silent.seq
  intro blocked
  apply Silent.seq
  intro step
  cases step with
  | found msg => exact silent_showMessage session auth msg blocked
  | skipped at_ => exact .seq fun _ => .ret rfl
  | ended lastSkipped => exact .ret rfl

theorem silent_scan : Silent (handleScan session) :=
  .reading fun _ _ => .seq fun _ => .seq fun _ => .ite (.ret rfl) (.ret rfl)

theorem silent_fastForward : Silent (handleFastForward session) := by
  apply Silent.withAuth refuses_sessionAuthOrGuest
  intro auth
  apply Silent.withGuestRule
  apply Silent.seq
  intro recent
  split
  · exact .seq fun _ => .ret rfl
  · exact .ret rfl

/-! ### Posting -/

theorem silent_stage (roomId : RoomId) (recipient : Option Username) (body : String) :
    Silent (stage session roomId recipient body) :=
  .seq fun _ => .seq fun _ => .ret rfl

theorem silent_enterMail (roomId : RoomId) (raw : String) : Silent (enterMail session roomId raw) := by
  unfold enterMail
  dsimp only
  split
  · exact .ret rfl
  · exact .seq fun _ => .ite (.ret rfl) (.ite (.ret rfl) (silent_stage session roomId _ _))

theorem silent_enterInline (roomId : RoomId) (room : Room) (inlineBody : Option String) :
    Silent (enterInline session roomId room inlineBody) := by
  unfold enterInline
  dsimp only
  split
  · exact .ite (.seq fun _ => .ret rfl) (.seq fun _ => .ret rfl)
  · exact .ite (silent_enterMail session _ _) (silent_stage session _ _ _)

theorem readOnly_refuses {auth : Auth} {room : Room} {refusal : Response}
    (refused : readOnlyFor auth room = some refusal) : loggedInAs refusal = none := by
  unfold readOnlyFor at refused
  split at refused
  · cases refused
    rfl
  · cases refused

theorem silent_enterMessage (inlineBody : Option String) :
    Silent (handleEnterMessage session inlineBody) := by
  apply Silent.withAuth refuses_sessionAuthOrGuest
  intro auth
  apply Silent.withGuestRule
  apply Silent.ite (.ret rfl)
  apply Silent.whenIdle
  apply Silent.withRoom
  intro room
  split
  · next refusal refused => exact .ret (readOnly_refuses refused)
  · exact silent_enterInline session auth.roomId room inlineBody

theorem silent_replyFromReading : Silent (handleReplyFromReading session) := by
  apply Silent.withAuth refuses_sessionAuthUser
  intro auth
  apply Silent.withRoom
  intro room
  split
  · next refusal refused => exact .ret (readOnly_refuses refused)
  · exact .seq fun _ => .seq fun _ => .ret rfl

theorem silent_sendDraft (roomId : RoomId) (recipient : Option Username) (body : String) :
    Silent (sendDraft session roomId recipient body) := by
  apply Silent.seq
  intro r
  split
  · exact .fail _
  · exact .seq fun _ => .seq fun _ => .seq fun _ => .ret rfl

theorem silent_composeReply (roomId : RoomId) (at_ : ComposeStage) (reply : String) :
    Silent (composeReply session roomId at_ reply) := by
  cases at_ with
  | awaitingRecipient =>
      unfold composeReply composeRecipient
      dsimp only
      split
      · exact .seq fun _ => .ret rfl
      · exact .seq fun _ => .ite (.seq fun _ => .ret rfl) (.seq fun _ => .ret rfl)
  | awaitingBody recipient =>
      unfold composeReply composeBody
      dsimp only
      split
      · exact .seq fun _ => .ret rfl
      · exact silent_stage session roomId recipient _
  | awaitingConfirmation recipient body =>
      unfold composeReply composeConfirm
      dsimp only
      split_ifs
      · exact .seq fun _ => .ret rfl
      · exact silent_stage session roomId recipient body
      · exact silent_sendDraft session roomId recipient body

theorem silent_delete (id : Int) : Silent (handleDelete session id) := by
  apply Silent.withAuth refuses_sessionAuthUser
  intro auth
  apply Silent.seq
  intro msg
  cases msg with
  | none => exact .ret rfl
  | some msg =>
      exact .seq fun _ => .ite (.ret rfl) (.ite (.ret rfl) (.seq fun _ => .seq fun _ => .ret rfl))

/-! ### Moderation and policy -/

theorem silent_whoIsOnline : Silent (handleWhoIsOnline session) :=
  .withAuth refuses_sessionAuthUser fun _ => .seq fun _ => .ret rfl

theorem silent_listPending : Silent (handleListPending session) := by
  apply Silent.privileged rfl
  intro auth
  apply Silent.seq
  intro allActive
  dsimp only
  split
  · exact .ret rfl
  · exact .seq fun _ => .ret rfl

theorem silent_advanceReviewPending (pending : List Username) (nextIndex : Nat) :
    Silent (advanceReviewPending session pending nextIndex) := by
  unfold advanceReviewPending
  split <;> exact .seq fun _ => .ret rfl

theorem silent_validateUser : Silent (handleValidateUser session username) :=
  .privileged rfl fun _ => .withUser rfl fun _ => .ite (.ret rfl)
    (.seq fun _ => .seq fun _ => .seq fun _ => .seq fun _ => .ret rfl)

theorem silent_applyLevel (auth : Auth) (user : User) (level : PermissionLevel) :
    Silent (applyLevel auth username user level) :=
  .seq fun _ => .seq fun _ => .seq fun _ => .ret rfl

theorem levelRefusal_refuses {user : User} {level : PermissionLevel} {refusal : Response}
    (refused : levelRefusal username user level = some refusal) : loggedInAs refusal = none := by
  unfold levelRefusal at refused
  split_ifs at refused <;> cases refused <;> rfl

theorem silent_setUserLevel (level : PermissionLevel) :
    Silent (handleSetUserLevel session username level) := by
  apply Silent.privileged rfl
  intro auth
  apply Silent.ite (.ret rfl)
  apply Silent.withUser rfl
  intro user
  split
  · next refusal refused => exact .ret (levelRefusal_refuses refused)
  · exact .ite (.seq fun _ => .ite (.ret rfl) (silent_applyLevel auth user level))
      (silent_applyLevel auth user level)

theorem silent_blockUser (force : Option Bool) : Silent (handleBlockUser session username force) :=
  .withAuth refuses_sessionAuthUser fun _ => .ite (.ret rfl) (.withUser rfl fun _ => .seq fun _ =>
    .ite (.ite (.ret rfl) (.seq fun _ => .ret rfl))
      (.ite (.seq fun _ => .seq fun _ => .ret rfl) (.ret rfl)))

theorem silent_banUser : Silent (handleBanUser session username) :=
  .privileged rfl fun _ => .withUser rfl fun _ => .ite (.ret rfl) (.ite (.ret rfl)
    (.seq fun _ => .seq fun _ => .seq fun _ => .seq fun _ => .ret rfl))

theorem silent_timeoutUser (days : Nat) : Silent (handleTimeoutUser session username days) := by
  apply Silent.privileged rfl
  intro auth
  apply Silent.withUser rfl
  intro user
  apply Silent.ite
  · unfold alreadyBarred
    exact .ret (by split <;> rfl)
  · exact .ite (.ret rfl) (.seq fun _ => .seq fun _ => .ret rfl)

theorem silent_unbanUser : Silent (handleUnbanUser session username) :=
  .privileged rfl fun _ => .withUser rfl fun _ => .ite (.ret rfl)
    (.seq fun _ => .seq fun _ => .seq fun _ => .ret rfl)

theorem silent_deleteUser : Silent (handleDeleteUser session username) :=
  .privileged rfl fun _ => .withUser rfl fun _ => .ite (.ret rfl) (.ite (.ret rfl)
    (.seq fun _ => .seq fun _ => .seq fun _ => .ret rfl))

theorem listFilter_refuses {filter : Option String} {level : PermissionLevel} {refusal : Response}
    (refused : listFilter filter level = .error refusal) : loggedInAs refusal = none := by
  unfold listFilter at refused
  split at refused
  · cases refused
  · split_ifs at refused <;> cases refused <;> rfl

theorem silent_listUsers (filter : Option String) : Silent (handleListUsers session filter) := by
  apply Silent.withAuth refuses_sessionAuthUser
  intro auth
  split
  · next refusal refused => exact .ret (listFilter_refuses refused)
  · exact .seq fun _ => .ite (.ret rfl) (.ret rfl)

theorem silent_searchUsers (query : String) : Silent (handleSearchUsers session query) :=
  .withAuth refuses_sessionAuthUser fun _ => .ite (.ret rfl) (.seq fun _ => .ite (.ret rfl) (.ret rfl))

theorem silent_userInfo : Silent (handleUserInfo session username) :=
  .withAuth refuses_sessionAuthUser fun _ => .withUser rfl fun _ => .seq fun _ => .ret rfl

theorem silent_editProfile : Silent (handleEditProfile session) :=
  .withAuth refuses_sessionAuthUser fun _ => .whenIdle (.seq fun _ => .ret rfl)

theorem silent_changePassword : Silent (handleChangePassword session) :=
  .withAuth refuses_sessionAuthUser fun _ => .whenIdle (.seq fun _ => .ret rfl)

theorem silent_setUserPassword : Silent (handleSetUserPassword session username) :=
  .privileged rfl fun _ => .withUser rfl fun _ => .seq fun _ => .seq fun _ => .seq fun _ => .ret rfl

theorem silent_createRoom (name : String) : Silent (handleCreateRoom session name) :=
  .privileged rfl fun _ => .seq fun _ => .ite (.ret rfl)
    (.seq fun _ => .seq fun _ => .seq fun _ => .ret rfl)

theorem silent_deleteRoom (name : String) : Silent (handleDeleteRoom session name) := by
  apply Silent.privileged rfl
  intro auth
  apply Silent.seq
  intro room
  cases room with
  | none => exact .ret rfl
  | some room => exact .ite (.ret rfl) (.seq fun _ => .seq fun _ => .ret rfl)

theorem silent_changeVerification (requireVerify : Bool) (action reply : String) :
    Silent (changeVerification session requireVerify action reply) :=
  .privileged rfl fun _ => .seq fun _ => .seq fun _ => .seq fun _ => .ret rfl

theorem silent_setGuestRoom (name : Option String) : Silent (handleSetGuestRoom session name) := by
  apply Silent.privileged rfl
  intro auth
  cases name with
  | none => exact .seq fun _ => .seq fun _ => .seq fun _ => .seq fun _ => .ret rfl
  | some roomName =>
      apply Silent.seq
      intro _
      apply Silent.seq
      intro ensured
      cases ensured with
      | error e => exact .seq fun _ => .ret rfl
      | ok _ => exact .seq fun _ => .seq fun _ => .ret rfl

/-! ### Replies -/

theorem silent_registerPassword (reply : String) :
    Silent (registerPassword session username reply) := by
  unfold registerPassword
  split
  · exact .ret rfl
  · exact .seq fun _ => .ret rfl

theorem silent_forceEnterNew (userId : UserId) (reply : String) :
    Silent (forceEnterNew session username userId reply) := by
  unfold forceEnterNew
  split
  · exact .ret rfl
  · exact .seq fun _ => .ret rfl

theorem silent_profileReply (reply : String) : Silent (profileReply session reply) := by
  apply Silent.withAuth refuses_sessionAuth
  intro auth
  split
  · exact .ret rfl
  · exact .seq fun _ => .ret rfl
  · exact .seq fun _ => .seq fun _ => .ret rfl

theorem silent_changePasswordReply (at_ : ChangePwdStage) (reply : String) :
    Silent (changePasswordReply session at_ reply) := by
  cases at_ with
  | verifyOld attempts =>
      exact .withAuth refuses_sessionAuth fun _ => .seq fun _ => .seq fun _ =>
        .ite (.seq fun _ => .ret rfl) (.ite (.seq fun _ => .ret rfl) (.seq fun _ => .ret rfl))
  | enterNew => exact .ite (.ret rfl) (.seq fun _ => .ret rfl)
  | confirmNew newPassword =>
      exact .ite (.seq fun _ => .ret rfl) (.withAuth refuses_sessionAuth fun _ => .seq fun _ =>
        .seq fun _ => .seq fun _ => .ret rfl)

theorem silent_deleteWhileReading (id : Int) : Silent (deleteWhileReading session id) := by
  apply Silent.seq
  intro r
  apply Silent.answersLater (silent_delete session id)
  intro response other
  apply Silent.seq
  intro _
  cases response with
  | ok response => exact .ret (other response rfl)
  | error e => exact .fail e

theorem silent_readingReply (reply : String) : Silent (readingReply session reply) := by
  unfold readingReply
  dsimp only
  apply Silent.ite (silent_readForward session none)
  apply Silent.ite (silent_readReverse session)
  apply Silent.ite (silent_replyFromReading session)
  apply Silent.ite (.ret rfl)
  split
  · exact silent_readForward session _
  · apply Silent.seq
    intro r
    split
    · exact silent_deleteWhileReading session _
    · exact .seq fun _ => .ret rfl

theorem silent_reviewThen (pending : List Username) (nextIndex : Nat) {decide : HostM Response}
    (decided : Silent decide) : Silent (reviewThen session pending nextIndex decide) := by
  apply Silent.answersLater decided
  intro response other
  apply Silent.seq
  intro _
  cases response with
  | ok response => exact .ret (other response rfl)
  | error e => exact .fail e

theorem silent_reviewReply (pending : List Username) (index : Nat) (reply : String) :
    Silent (reviewReply session pending index reply) := by
  unfold reviewReply
  split
  · exact .seq fun _ => .ret rfl
  · dsimp only
    apply Silent.ite (silent_reviewThen session pending _ (silent_validateUser session))
    apply Silent.ite (silent_reviewThen session pending _ (silent_banUser session))
    apply Silent.ite
    · exact .ite (.seq fun _ => .ret rfl) (silent_advanceReviewPending session pending _)
    · exact .ret rfl

end Handlers
/-! ## Commands that log somebody in -/

/-- The session is that of an account. -/
def Bound (session : SessionId) (h : BbsHost) : Prop :=
  ∃ r id, h.sessions.get? session = some r ∧ r.userId = some id ∧
    (h.store.db.users.get? id).isSome

/-- Who is told to be logged in is. -/
def Greeted (session : SessionId) (response : Response) (h : BbsHost) : Prop :=
  ∀ name, loggedInAs response = some name → Bound session h

section Commands
open LoginPaths
variable {session : SessionId} {r : SessionRecord} {guestRoom : Option RoomId}

theorem greets_silently {P : BbsHost → Prop} {m : HostM Response} (silent : Silent m) :
    Gives P m (Greeted session) := by
  intro h _
  refine ⟨trivial, fun response returned name logged => ?_⟩
  rw [silent.holds h response returned] at logged
  cases logged

theorem greets_after {α : Type} {P : BbsHost → Prop} {m : HostM α} {f : α → HostM Response}
    (rest : ∀ a, Gives (fun _ => True) (f a) (Greeted session)) :
    Gives P (m >>= f) (Greeted session) := by
  have anyway : Gives P m fun _ _ => True := fun _ _ => ⟨trivial, fun _ _ => trivial⟩
  exact anyway.bind rest

theorem session_greeted {response : Response} {h : BbsHost}
    (given : Session session r guestRoom response h) : Greeted session response h := by
  intro name logged
  obtain ⟨id, row, stored, -, record⟩ := given name logged
  exact ⟨_, id, record, rfl, by rw [stored]; rfl⟩

theorem greets_session {m : HostM Response}
    (gives : Gives (Waiting session r guestRoom) m (Session session r guestRoom)) :
    Gives (Waiting session r guestRoom) m (Greeted session) :=
  gives.conseq (fun _ => id) fun _ _ => session_greeted

/-- A handler that asks for the session first. -/
theorem greets_known {f : Option SessionRecord → HostM Response} {e : HostError}
    (unknown : f none = Program.fail e)
    (gives : ∀ r guestRoom, Gives (Waiting session r guestRoom) (lookUp session >>= f)
      (Session session r guestRoom)) :
    Gives (fun _ => True) (lookUp session >>= f) (Greeted session) := by
  intro h _
  cases found : h.sessions.get? session with
  | none =>
      rw [bind_apply, lookUp, peek_apply, found]
      dsimp only
      rw [unknown]
      exact ⟨trivial, fun _ answered => by cases answered⟩
  | some r => exact greets_session (gives r h.guestRoomId) h ⟨found, rfl⟩

theorem greets_loginOneshot (username : Username) (password : String) :
    Gives (fun _ => True) (handleLoginOneshot session username password) (Greeted session) :=
  greets_known rfl fun r guestRoom => (walk session r guestRoom).handleLoginOneshot username password

theorem greets_registerOneshot (rawUsername password : String) :
    Gives (fun _ => True) (handleRegisterOneshot session rawUsername password) (Greeted session) :=
  greets_known rfl fun r guestRoom =>
    (walk session r guestRoom).handleRegisterOneshot rawUsername password

/-- Every command but a reply. -/
theorem greets_dispatch {onReply : SessionId → String → HostM Response} (cmd : Command)
    (replies : ∀ reply, Gives (fun _ => True) (onReply session reply) (Greeted session)) :
    Gives (fun _ => True) (dispatch onReply session cmd) (Greeted session) := by
  cases cmd with
  | workflowReply reply => exact replies reply
  | loginOneShot username password => exact greets_loginOneshot username password
  | registerOneShot username password => exact greets_registerOneshot username password
  | help topic => exact greets_silently (silent_help session topic)
  | whoami => exact greets_silently (silent_whoami session)
  | logout => exact greets_silently (silent_logout session)
  | quit => exact greets_silently (silent_logout session)
  | register username => exact greets_silently (silent_register session username)
  | login username => exact greets_silently (silent_login session)
  | cancel => exact greets_silently (silent_cancel session)
  | listRooms => exact greets_silently (silent_listRooms session 0)
  | goNextUnread => exact greets_silently (silent_goNextUnread session)
  | changeRoom target => exact greets_silently (silent_changeRoom session target)
  | goMail => exact greets_silently (silent_changeToRoom session mail)
  | readNew => exact greets_silently (silent_readNew session)
  | readForward after => exact greets_silently (silent_readForward session after)
  | readReverse => exact greets_silently (silent_readReverse session)
  | scanMessages => exact greets_silently (silent_scan session)
  | fastForward => exact greets_silently (silent_fastForward session)
  | enterMessage body => exact greets_silently (silent_enterMessage session body)
  | deleteMessage id => exact greets_silently (silent_delete session id)
  | whoIsOnline => exact greets_silently (silent_whoIsOnline session)
  | listPending => exact greets_silently (silent_listPending session)
  | validateUser username => exact greets_silently (silent_validateUser session)
  | setUserLevel username level => exact greets_silently (silent_setUserLevel session level)
  | blockUser target force => exact greets_silently (silent_blockUser session force)
  | banUser username => exact greets_silently (silent_banUser session)
  | unbanUser username => exact greets_silently (silent_unbanUser session)
  | timeoutUser username days => exact greets_silently (silent_timeoutUser session days)
  | editProfile => exact greets_silently (silent_editProfile session)
  | changePassword => exact greets_silently (silent_changePassword session)
  | createRoom name => exact greets_silently (silent_createRoom session name)
  | deleteRoom name => exact greets_silently (silent_deleteRoom session name)
  | editRoom => exact greets_silently (.ret rfl)
  | editUser _ => exact greets_silently (.ret rfl)
  | listUsers filter => exact greets_silently (silent_listUsers session filter)
  | searchUsers query => exact greets_silently (silent_searchUsers session query)
  | userInfo username => exact greets_silently (silent_userInfo session)
  | deleteUser username => exact greets_silently (silent_deleteUser session)
  | setUserPassword username => exact greets_silently (silent_setUserPassword session)
  | openAccess => exact greets_silently (silent_changeVerification session _ _ _)
  | closeAccess => exact greets_silently (silent_changeVerification session _ _ _)
  | setGuestRoom name => exact greets_silently (silent_setGuestRoom session name)
  | unknown raw => exact greets_silently (silent_unknown session raw)

theorem barred_refuses : Returns (logOutIfAccountBarred session) fun barred =>
    ∀ response, barred = some response → loggedInAs response = none := by
  apply Returns.seq
  intro userId
  cases userId with
  | none => exact .ret nofun
  | some userId =>
      apply Returns.seq
      intro barred
      cases barred with
      | none => exact .ret nofun
      | some barred =>
          apply Returns.seq
          intro _
          apply Returns.ret
          rintro _ ⟨⟩
          rfl

theorem greets_processWith {onReply : SessionId → String → HostM Response} (cmd : Command)
    (replies : ∀ reply, Gives (fun _ => True) (onReply session reply) (Greeted session)) :
    Gives (fun _ => True) (processWith onReply session cmd) (Greeted session) := by
  have checked : Gives (fun _ => True) (logOutIfAccountBarred session) fun barred _ =>
      ∀ response, barred = some response → loggedInAs response = none :=
    fun h _ => ⟨trivial, fun barred returned => barred_refuses.holds h barred returned⟩
  apply checked.bind
  intro barred
  cases barred with
  | some response =>
      intro h other
      exact greets_silently (P := fun _ => True) (.ret (other response rfl)) h trivial
  | none =>
      apply greets_after
      intro _
      exact greets_after fun _ => greets_dispatch cmd replies

theorem greets_processFresh (cmd : Command) :
    Gives (fun _ => True) (processFresh session cmd) (Greeted session) :=
  greets_processWith cmd fun _ => greets_silently (.ret rfl)

/-! ### Replies -/

theorem greets_roomsReply (roomIds : List RoomId) (nextPageStart : Option Nat) (reply : String) :
    Gives (fun _ => True) (roomsReply processFresh session roomIds nextPageStart reply)
      (Greeted session) := by
  have leaves (trimmed : String) :
      Gives (fun _ => True) (leaveRoomList processFresh session trimmed) (Greeted session) := by
    apply greets_after
    intro _
    dsimp only
    split
    · exact greets_silently (silent_changeRoom session trimmed)
    · exact greets_processFresh _
  have chooses (trimmed : String) :
      Gives (fun _ => True) (chooseRoom processFresh session roomIds trimmed) (Greeted session) := by
    unfold chooseRoom
    split
    · exact greets_silently (.seq fun _ => silent_changeRoom session trimmed)
    · exact leaves trimmed
  unfold roomsReply
  dsimp only
  split_ifs
  · exact greets_silently (.seq fun _ => .ret rfl)
  · cases nextPageStart with
    | none => exact chooses _
    | some next => exact greets_silently (silent_listRooms session next)
  · exact chooses _

theorem greets_dispatchReply (workflow : Workflow) (reply : String) :
    Gives (Waiting session r guestRoom) (dispatchReply processFresh session workflow reply)
      (Greeted session) := by
  cases workflow with
  | none => exact greets_silently (.ret rfl)
  | register username stage =>
      cases stage with
      | password => exact greets_silently (silent_registerPassword session reply)
      | confirm password =>
          exact greets_session ((walk session r guestRoom).registerConfirm username password reply)
  | login username attempts =>
      exact greets_session ((walk session r guestRoom).loginReply username attempts reply)
  | compose roomId at_ => exact greets_silently (silent_composeReply session roomId at_ reply)
  | editProfile => exact greets_silently (silent_profileReply session reply)
  | changePassword at_ => exact greets_silently (silent_changePasswordReply session at_ reply)
  | forceChangePassword username userId stage =>
      cases stage with
      | enterNew => exact greets_silently (silent_forceEnterNew session userId reply)
      | confirmNew newPassword =>
          exact greets_session (forceConfirmNew_gives username userId newPassword reply)
  | reading => exact greets_silently (silent_readingReply session reply)
  | rooms roomIds nextPageStart =>
      have replies : Gives (Waiting session r guestRoom)
          (roomsReply processFresh session roomIds nextPageStart reply) (Greeted session) :=
        (greets_roomsReply roomIds nextPageStart reply).conseq (fun _ _ => trivial) fun _ _ => id
      exact replies
  | reviewPending pending index =>
      exact greets_silently (silent_reviewReply session pending index reply)

theorem greets_restartAuth {P : BbsHost → Prop} (escape : AuthEscape) :
    Gives P (restartAuth session escape) (Greeted session) := by
  apply greets_after
  intro _
  cases escape with
  | register username password =>
      cases password with
      | none => exact greets_silently (silent_register session username)
      | some password => exact greets_registerOneshot username password
  | login username password =>
      cases password with
      | none => exact greets_silently (silent_login session)
      | some password => exact greets_loginOneshot username password

theorem greets_answer (workflow : Workflow) (reply : String) (r : SessionRecord)
    (guestRoom : Option RoomId) :
    Gives (Waiting session r guestRoom)
      (match if isAuthWorkflow workflow then authEscape reply else none with
        | some escape => restartAuth session escape
        | none => dispatchReply processFresh session workflow reply) (Greeted session) := by
  split
  · exact greets_restartAuth _
  · exact greets_dispatchReply workflow reply

theorem greets_reply (reply : String) :
    Gives (fun _ => True) (handleWorkflowReply processFresh session reply) (Greeted session) := by
  apply (looks fun h : BbsHost => (h.sessions.get? session).map (·.workflow)).bind
  intro workflow
  cases workflow with
  | none => exact .fail fun _ _ => trivial
  | some workflow =>
      rintro h ⟨-, read⟩
      obtain ⟨r, found, -⟩ := Option.map_eq_some_iff.mp read.symm
      exact greets_answer workflow reply r h.guestRoomId h ⟨found, rfl⟩

/-- A session whose command is answered with a login is that of an account. -/
theorem processCommand_greets (session : SessionId) (cmd : Command) :
    Gives (fun _ => True) (processCommand session cmd) (Greeted session) :=
  greets_processWith cmd greets_reply

end Commands
end SupplyDrop.Proof.Greeting
