import Mathlib
import SupplyDrop.Proof.Conduct.Moderation

namespace SupplyDrop.Proof.Conduct
open Library Store Host

variable (D : Conduct) {session : SessionId}

/-! ## Replies -/

theorem registerReply
    (create : ∀ username password, D.holds (Host.createUserAndLogin session username password))
    (username : Username) (stage : RegisterStage) (reply : String) :
    D.holds (Host.registerReply session username stage reply) := by
  cases stage with
  | password =>
      apply D.ite
      · intro _
        exact D.reply _
      · intro _
        have harmless : Harmless (.register username (.confirm reply)) := trivial
        exact D.seq (D.setWorkflow harmless session) fun _ => D.reply _
  | confirm password =>
      apply D.ite
      · intro _
        have harmless : Harmless (.register username .password) := trivial
        exact D.seq (D.setWorkflow harmless session) fun _ => D.reply _
      · intro _
        exact create username password

theorem loginReply (login : ∀ user, D.holds (Host.finalizeLogin session user)) (hold : D.has .hold)
    (username : Username) (attempts : Nat) (reply : String) :
    D.holds (Host.loginReply session username attempts reply) := by
  apply D.seq (D.call (.findUser username))
  intro user
  cases user with
  | none => exact D.seq (D.clearWorkflow session) fun _ => D.reply _
  | some user =>
      apply D.seq D.now
      intro now
      apply D.seq (D.call (.verifyPassword _ _ _))
      intro ok
      have complete (user : User) :
          D.holds (Host.completeLogin session username user Host.onSession) :=
        D.completeLogin login (fun _ _ _ => D.hold hold) username user
      apply D.ite
      · intro _
        apply D.ite
        · intro _
          apply D.seq (D.resolve user)
          intro check
          cases check with
          | allowed u => exact complete u
          | suspended days => exact D.seq (D.clearWorkflow session) fun _ => D.reply _
          | permanentlyBanned => exact D.seq (D.clearWorkflow session) fun _ => D.reply _
        · intro _
          exact complete user
      · intro _
        apply D.seq (D.recordLoginFailure _)
        intro _
        apply D.ite
        · intro _
          exact D.seq (D.clearWorkflow session) fun _ => D.reply _
        · intro _
          have harmless : Harmless (.login username (attempts + 1)) := trivial
          exact D.seq (D.setWorkflow harmless session) fun _ => D.reply _

theorem profileReply (session : SessionId) (reply : String) :
    D.holds (Host.profileReply session reply) := by
  apply D.withAuth (D.sessionAuth session)
  intro auth
  split
  · exact D.reply _
  · exact D.seq (D.clearWorkflow session) fun _ => D.reply _
  · apply D.seq (D.call (.touchUser _ _ _))
    intro _
    exact D.seq (D.clearWorkflow session) fun _ => D.reply _

theorem changePasswordReply (session : SessionId) (stage : ChangePwdStage) (reply : String) :
    D.holds (Host.changePasswordReply session stage reply) := by
  cases stage with
  | verifyOld attempts =>
      apply D.withAuth (D.sessionAuth session)
      intro auth
      apply D.seq D.now
      intro now
      apply D.seq (D.call (.verifyPassword _ _ _))
      intro ok
      apply D.ite
      · intro _
        exact D.seq (D.changingPassword session _) fun _ => D.reply _
      · intro _
        apply D.ite
        · intro _
          exact D.seq (D.clearWorkflow session) fun _ => D.reply _
        · intro _
          exact D.seq (D.changingPassword session _) fun _ => D.reply _
  | enterNew =>
      apply D.ite
      · intro _
        exact D.reply _
      · intro _
        exact D.seq (D.changingPassword session _) fun _ => D.reply _
  | confirmNew newPassword =>
      apply D.ite
      · intro _
        exact D.seq (D.changingPassword session _) fun _ => D.reply _
      · intro _
        apply D.withAuth (D.sessionAuth session)
        intro auth
        apply D.seq D.now
        intro now
        apply D.seq (D.call (.setPassword _ _ _))
        intro _
        exact D.seq (D.clearWorkflow session) fun _ => D.reply _

theorem forceChangeReply (login : ∀ user, D.holds (Host.finalizeLogin session user))
    (hold : D.has .hold) (pardon : D.has .pardon) (username : Username) (userId : UserId) (stage : ForcePwdStage)
    (reply : String) : D.holds (Host.forceChangeReply session username userId stage reply) := by
  have held (stage : ForcePwdStage) :
      D.holds (Host.setWorkflow session (.forceChangePassword username userId stage)) := D.hold hold
  cases stage with
  | enterNew =>
      apply D.ite
      · intro _
        exact D.reply _
      · intro _
        exact D.seq (held _) fun _ => D.reply _
  | confirmNew newPassword =>
      apply D.ite
      · intro _
        exact D.seq (held _) fun _ => D.reply _
      · intro _
        apply D.seq D.now
        intro now
        apply D.seq (D.call (.setPassword _ _ _))
        intro _
        apply D.seq (D.use (.clearMustChange _) pardon)
        intro _
        apply D.seq (D.call (.findUser username))
        intro user
        cases user with
        | none => exact D.seq (D.clearWorkflow session) fun _ => D.reply _
        | some user => exact login user

theorem stopReading (session : SessionId) :
    D.holds (Host.onSession session fun r => r.stopReading) :=
  D.onSession fun _ => ⟨rfl, rfl, rfl, rfl, .inr trivial, .inl rfl⟩

theorem deleteWhileReading (delete : ∀ id, D.holds (Host.handleDelete session id)) (id : Int) :
    D.holds (Host.deleteWhileReading session id) := by
  apply D.seq (D.lookUp session)
  intro r
  apply D.seq (D.attempted (delete id))
  intro response
  apply D.seq (D.onlyIf (D.stopReading session))
  intro _
  cases response with
  | ok response => exact D.reply _
  | error e => exact D.refuse e

theorem readingReply (forward : ∀ after, D.holds (Host.handleReadForward session after))
    (reverse : D.holds (Host.handleReadReverse session))
    (answer : D.holds (Host.handleReplyFromReading session))
    (delete : ∀ id, D.holds (Host.handleDelete session id)) (reply : String) :
    D.holds (Host.readingReply session reply) := by
  unfold Host.readingReply
  dsimp only
  apply D.ite
  · intro _
    exact forward none
  · intro _
    apply D.ite
    · intro _
      exact reverse
    · intro _
      apply D.ite
      · intro _
        exact answer
      · intro _
        apply D.ite
        · intro _
          exact D.reply _
        · intro _
          split
          · exact forward _
          · apply D.seq (D.lookUp session)
            intro r
            split
            · exact D.deleteWhileReading delete _
            · exact D.seq (D.stopReading session) fun _ => D.reply _

theorem roomsReply {processFresh : SessionId → Command → HostM Response}
    (fresh : ∀ cmd, D.holds (processFresh session cmd))
    (change : ∀ target, D.holds (Host.handleChangeRoom session target)) (roomIds : List RoomId)
    (nextPageStart : Option Nat) (reply : String) :
    D.holds (Host.roomsReply processFresh session roomIds nextPageStart reply) := by
  have choose (trimmed : String) : D.holds (chooseRoom processFresh session roomIds trimmed) := by
    apply D.ite
    · intro _
      exact D.seq (D.clearWorkflow session) fun _ => change trimmed
    · intro _
      apply D.seq (D.clearWorkflow session)
      intro _
      exact D.ite (fun _ => change trimmed) fun _ => fresh _
  unfold Host.roomsReply
  dsimp only
  apply D.ite
  · intro _
    exact D.seq (D.clearWorkflow session) fun _ => D.reply _
  · intro _
    apply D.ite
    · intro _
      cases nextPageStart with
      | none => exact choose _
      | some next => exact D.handleListRoomsFrom session next
    · intro _
      exact choose _

theorem reviewThen {decide_ : HostM Response} (h : D.holds decide_) (pending : List Username)
    (nextIndex : Nat) : D.holds (Host.reviewThen session pending nextIndex decide_) := by
  apply D.seq (D.attempted h)
  intro result
  apply D.seq (D.advanceReviewPending session pending nextIndex)
  intro _
  cases result with
  | ok response => exact D.reply _
  | error e => exact D.refuse e

theorem reviewReply (validate : ∀ username, D.holds (Host.handleValidateUser session username))
    (ban : ∀ username, D.holds (Host.handleBanUser session username)) (pending : List Username)
    (index : Nat) (reply : String) : D.holds (Host.reviewReply session pending index reply) := by
  unfold Host.reviewReply
  split
  · exact D.seq (D.clearWorkflow session) fun _ => D.reply _
  · next username _ =>
    dsimp only
    apply D.ite
    · intro _
      exact D.reviewThen (validate username) pending _
    · intro _
      apply D.ite
      · intro _
        exact D.reviewThen (ban username) pending _
      · intro _
        apply D.ite
        · intro _
          apply D.ite
          · intro _
            exact D.seq (D.clearWorkflow session) fun _ => D.reply _
          · intro _
            exact D.advanceReviewPending session pending _
        · intro _
          exact D.reply _

theorem restartAuth
    (create : ∀ username password, D.holds (Host.createUserAndLogin session username password))
    (login : ∀ user, D.holds (Host.finalizeLogin session user)) (hold : D.has .hold)
    (escape : AuthEscape) : D.holds (Host.restartAuth session escape) := by
  apply D.seq (D.clearWorkflow session)
  intro _
  cases escape with
  | register username password =>
      cases password with
      | none => exact D.handleRegister session username
      | some password => exact D.handleRegisterOneshot create username password
  | login username password =>
      cases password with
      | none => exact D.handleLogin session username
      | some password => exact D.handleLoginOneshot login hold username password

/-- What a reply to the workflow may take, a command off the list of rooms apart. -/
def takesReply : Workflow → List Power
  | .register _ _ => [.enrol, .notify, .bind, .hold]
  | .login _ _ => [.enrol, .notify, .bind, .hold]
  | .compose _ _ => [.draft, .post]
  | .forceChangePassword _ _ _ => [.bind, .hold, .pardon]
  | .reading => [.show, .draft, .erase]
  | .rooms _ _ => [.move]
  | .reviewPending _ _ => [.level, .standing]
  | _ => []

theorem composeReply (draft : D.has .draft) (post : D.has .post) (roomId : RoomId)
    (stage : ComposeStage) (reply : String) :
    D.holds (Host.composeReply session roomId stage reply) := by
  cases stage with
  | awaitingRecipient => exact D.composeRecipient draft session roomId reply
  | awaitingBody recipient => exact D.composeBody draft session roomId recipient reply
  | awaitingConfirmation recipient body =>
      exact D.composeConfirm draft post session roomId recipient body reply

theorem dispatchReply {processFresh : SessionId → Command → HostM Response} {workflow : Workflow}
    (fresh : ∀ roomIds next, workflow = .rooms roomIds next → ∀ cmd, D.holds (processFresh session cmd))
    (has : ∀ p ∈ takesReply workflow, D.has p) (reply : String) :
    D.holds (Host.dispatchReply processFresh session workflow reply) := by
  cases workflow with
  | none => exact D.reply _
  | register username stage =>
      have bind := has .bind (by simp [takesReply])
      have create := D.createUserAndLogin (has .enrol (by simp [takesReply])) bind
        (has .notify (by simp [takesReply])) session
      exact D.registerReply create username stage reply
  | login username attempts =>
      have bind := has .bind (by simp [takesReply])
      exact D.loginReply (D.finalizeLogin bind session) (has .hold (by simp [takesReply])) username
        attempts reply
  | compose roomId stage =>
      exact D.composeReply (has .draft (by simp [takesReply])) (has .post (by simp [takesReply]))
        roomId stage reply
  | editProfile => exact D.profileReply session reply
  | changePassword stage => exact D.changePasswordReply session stage reply
  | forceChangePassword username userId stage =>
      have bind := has .bind (by simp [takesReply])
      exact D.forceChangeReply (D.finalizeLogin bind session) (has .hold (by simp [takesReply]))
        (has .pardon (by simp [takesReply])) username userId stage reply
  | reading =>
      have show_ := has .show (by simp [takesReply])
      exact D.readingReply (D.handleReadForward show_ session) (D.handleReadReverse show_ session)
        (D.handleReplyFromReading show_ (has .draft (by simp [takesReply])) session)
        (D.handleDelete show_ (has .erase (by simp [takesReply])) session) reply
  | rooms roomIds nextPageStart =>
      exact D.roomsReply (fresh _ _ rfl) (D.handleChangeRoom (has .move (by simp [takesReply])) session)
        roomIds nextPageStart reply
  | reviewPending pending index =>
      exact D.reviewReply (D.handleValidateUser (has .level (by simp [takesReply])) session)
        (D.banned (has .standing (by simp [takesReply])) session) pending index reply

theorem handleWorkflowReply {processFresh : SessionId → Command → HostM Response} {reply : String}
    (restart : ∀ escape, authEscape reply = some escape → D.holds (Host.restartAuth session escape))
    (rest : ∀ workflow, D.holds (Host.dispatchReply processFresh session workflow reply)) :
    D.holds (Host.handleWorkflowReply processFresh session reply) := by
  apply D.seq (D.workflowOf session)
  intro workflow
  cases workflow with
  | none => exact D.refuse _
  | some workflow =>
      dsimp only
      split
      · next escape found =>
        apply restart escape
        split at found
        · exact found
        · cases found
      · exact rest workflow

/-! ## Commands -/

theorem handleHelp (session : SessionId) (topic : Option String) :
    D.holds (Host.handleHelp session topic) := D.seq (D.lookUp session) fun _ => D.reply _

theorem handleWhoami (session : SessionId) : D.holds (Host.handleWhoami session) := by
  apply D.seq (D.lookUp session)
  intro r
  split
  · exact D.reply _
  · split
    · exact D.reply _
    · exact D.seq (D.tryCall (.getRoom _)) fun _ => D.reply _

theorem handleCancel (session : SessionId) : D.holds (Host.handleCancel session) := by
  apply D.seq (D.workflowOf session)
  intro workflow
  apply D.ite
  · intro _
    exact D.reply _
  · intro _
    exact D.seq (D.clearWorkflow session) fun _ => D.reply _

theorem handleLogout (close : D.has .close) (session : SessionId) :
    D.holds (Host.handleLogout session) :=
  D.seq (D.close close session) fun _ => D.reply _

theorem handleUnknown (session : SessionId) (raw : String) :
    D.holds (Host.handleUnknown session raw) := by
  apply D.seq (D.lookUp session)
  intro r
  split
  · exact D.reply _
  · exact D.ite (fun _ => D.reply _) fun _ => D.reply _

/-- What a command may take, a reply apart. -/
def takes : Command → List Power
  | .registerOneShot _ _ => [.enrol, .notify, .bind]
  | .loginOneShot _ _ => [.bind, .hold]
  | .logout => [.close]
  | .quit => [.close]
  | .goNextUnread => [.show, .move]
  | .changeRoom _ => [.move]
  | .goMail => [.move]
  | .readNew => [.show]
  | .readForward _ => [.show]
  | .readReverse => [.show]
  | .scanMessages => [.show]
  | .fastForward => [.show]
  | .enterMessage _ => [.draft]
  | .deleteMessage _ => [.show, .erase]
  | .validateUser _ => [.level]
  | .setUserLevel _ _ => [.level]
  | .banUser _ => [.standing]
  | .unbanUser _ => [.standing]
  | .timeoutUser _ _ => [.standing]
  | .deleteUser _ => [.standing, .oust]
  | .setUserPassword _ => [.reset]
  | .createRoom _ => [.rooms]
  | .deleteRoom _ => [.raze]
  | .setGuestRoom _ => [.guest, .rooms]
  | _ => []

theorem dispatch {onReply : SessionId → String → HostM Response} {cmd : Command}
    (has : ∀ p ∈ takes cmd, D.has p)
    (reply : ∀ text, cmd = .workflowReply text → D.holds (onReply session text)) :
    D.holds (Host.dispatch onReply session cmd) := by
  cases cmd with
  | help topic => exact D.handleHelp session topic
  | register username => exact D.handleRegister session username
  | login username => exact D.handleLogin session username
  | registerOneShot username password =>
      have create := D.createUserAndLogin (has .enrol (by simp [takes]))
        (has .bind (by simp [takes])) (has .notify (by simp [takes])) session
      exact D.handleRegisterOneshot create username password
  | loginOneShot username password =>
      exact D.handleLoginOneshot (D.finalizeLogin (has .bind (by simp [takes])) session)
        (has .hold (by simp [takes])) username password
  | logout => exact D.handleLogout (has .close (by simp [takes])) session
  | whoami => exact D.handleWhoami session
  | workflowReply text => exact reply text rfl
  | unknown raw => exact D.handleUnknown session raw
  | listRooms => exact D.handleListRoomsFrom session 0
  | goNextUnread =>
      exact D.handleGoNextUnread (has .show (by simp [takes])) (has .move (by simp [takes])) session
  | changeRoom target => exact D.handleChangeRoom (has .move (by simp [takes])) session target
  | goMail => exact D.handleChangeToRoom (has .move (by simp [takes])) session mail
  | readNew => exact D.handleReadNew (has .show (by simp [takes])) session
  | readForward after => exact D.handleReadForward (has .show (by simp [takes])) session after
  | readReverse => exact D.handleReadReverse (has .show (by simp [takes])) session
  | scanMessages => exact D.handleScan (has .show (by simp [takes])) session
  | fastForward => exact D.handleFastForward (has .show (by simp [takes])) session
  | enterMessage body => exact D.handleEnterMessage (has .draft (by simp [takes])) session body
  | deleteMessage id =>
      exact D.handleDelete (has .show (by simp [takes])) (has .erase (by simp [takes])) session id
  | quit => exact D.handleLogout (has .close (by simp [takes])) session
  | cancel => exact D.handleCancel session
  | whoIsOnline => exact D.handleWhoIsOnline session
  | listPending => exact D.handleListPending session
  | validateUser username => exact D.handleValidateUser (has .level (by simp [takes])) session username
  | setUserLevel username level =>
      exact D.handleSetUserLevel (has .level (by simp [takes])) session username level
  | blockUser target force => exact D.handleBlockUser session target force
  | banUser username => exact D.banned (has .standing (by simp [takes])) session username
  | unbanUser username => exact D.handleUnbanUser (has .standing (by simp [takes])) session username
  | timeoutUser username days =>
      have suspends (id : UserId) (until_ : Timestamp) : D.lets (UserStore.suspend id until_) :=
        D.powered (.suspend id until_) (has .standing (by simp [takes]))
      exact D.handleTimeoutUser suspends session username days
  | editProfile => exact D.handleEditProfile session
  | changePassword => exact D.handleChangePassword session
  | createRoom name => exact D.handleCreateRoom (has .rooms (by simp [takes])) session name
  | deleteRoom name => exact D.handleDeleteRoom (has .raze (by simp [takes])) session name
  | editRoom => exact D.reply _
  | editUser username => exact D.reply _
  | listUsers filter => exact D.handleListUsers session filter
  | searchUsers query => exact D.handleSearchUsers session query
  | userInfo username => exact D.handleUserInfo session username
  | deleteUser username =>
      exact D.handleDeleteUser (has .standing (by simp [takes])) (has .oust (by simp [takes])) session
        username
  | setUserPassword username =>
      exact D.handleSetUserPassword (has .reset (by simp [takes])) session username
  | openAccess => exact D.changeVerification session _ _ _
  | closeAccess => exact D.changeVerification session _ _ _
  | setGuestRoom name =>
      have guest := has .guest (by simp [takes])
      exact D.handleSetGuestRoom (D.guest guest none)
        (D.ensureGuestRoom guest (has .rooms (by simp [takes]))) session name

/-- What is done before every command. -/
theorem processWith {onReply : SessionId → String → HostM Response} {cmd : Command}
    (h : D.holds (Host.dispatch onReply session cmd)) :
    D.holds (Host.processWith onReply session cmd) := by
  apply D.seq (D.logOutIfAccountBarred session)
  intro barred
  cases barred with
  | some response => exact D.reply _
  | none =>
      have announced : D.holds (announce session cmd) := by
        unfold announce
        split
        · exact D.reply _
        · exact D.seq (D.lookUp session) fun _ => D.emit trivial
      apply D.seq announced
      intro _
      have forgot : D.holds (forgetOutcome session cmd) := by
        apply D.seq (D.sessionOnRadio session)
        intro onRadio
        apply D.ite
        · intro _
          exact D.reply _
        · intro _
          exact D.onSession fun _ => ⟨rfl, rfl, rfl, rfl, .inl rfl, .inr rfl⟩
      exact D.seq forgot fun _ => h

theorem processFresh {cmd : Command} (has : ∀ p ∈ takes cmd, D.has p) :
    D.holds (Host.processFresh session cmd) :=
  D.processWith (D.dispatch has fun _ _ => D.reply _)

/-! ## Requests of the web admin -/

theorem onResult {α : Type} {m : HostM α} {onError : HostError → Reply} {k : α → HostM Reply}
    (h : D.holds m) (rest : ∀ a, D.holds (k a)) : D.holds (Host.onResult m onError k) := by
  apply D.seq (D.attempted h)
  intro result
  cases result with
  | ok a => exact rest a
  | error e => exact D.reply _

theorem webAudit (caller : CurrentUser) (action : String) (target detail : Option String) :
    D.holds (Host.webAudit caller action target detail) := D.audit _ _ _ _

theorem sysopOnly {caller : CurrentUser} {text : String} {k : HostM Reply} (h : D.holds k) :
    D.holds (Host.sysopOnly caller text k) := D.ite (fun _ => D.reply _) fun _ => h

theorem afterStanding {caller : CurrentUser} {username : String} {body : UpdateUserBody}
    (suspend : ∀ days, body.suspendDays = some days → D.holds (Host.adminSuspendUser username days)) :
    D.holds (patchPassword caller username body.password
      (patchSuspension caller username body.suspendDays (pure .ok))) := by
  have suspension : D.holds (patchSuspension caller username body.suspendDays (pure .ok)) := by
    unfold patchSuspension
    split
    · exact D.reply _
    · next days asked =>
      exact D.onResult (suspend days asked) fun _ => D.seq (D.webAudit _ _ _ _) fun _ => D.reply _
  unfold patchPassword
  split
  · exact suspension
  · next pw _ =>
    apply D.onResult (D.adminSetPassword username pw)
    intro _
    exact D.seq (D.webAudit _ _ _ _) fun _ => suspension

theorem afterUpdate {caller : CurrentUser} {username : String} {body : UpdateUserBody}
    (suspend : ∀ days, body.suspendDays = some days → D.holds (Host.adminSuspendUser username days)) :
    D.holds (do
      auditStatus caller username body.status
      auditLevel caller username body.permissionLevel
      patchPassword caller username body.password
        (patchSuspension caller username body.suspendDays (pure .ok))) := by
  have status : D.holds (auditStatus caller username body.status) := by
    unfold auditStatus
    split
    · exact D.webAudit _ _ _ _
    · exact D.reply _
  have level : D.holds (auditLevel caller username body.permissionLevel) := by
    unfold auditLevel
    split
    · exact D.webAudit _ _ _ _
    · exact D.reply _
  exact D.seq status fun _ => D.seq level fun _ => D.afterStanding suspend

theorem apiUpdateUser {caller : CurrentUser} {username : String} {body : UpdateUserBody}
    (update : D.holds (Host.adminUpdateUser username body.status body.permissionLevel))
    (suspend : ∀ days, body.suspendDays = some days → D.holds (Host.adminSuspendUser username days)) :
    D.holds (Host.apiUpdateUser caller username body) := by
  unfold Host.apiUpdateUser
  split
  · exact D.reply _
  · apply D.ite
    · intro _
      apply D.onResult update
      intro _
      exact D.afterUpdate suspend
    · intro _
      exact D.afterStanding suspend

/-- What a request may take. -/
def takesRequest : WebRequest → List Power
  | .updateUser _ body => (if body.status.isSome || body.suspendDays.isSome then [.standing] else []) ++
      if body.permissionLevel.isSome then [.level] else []
  | .createRoom _ _ => [.rooms]
  | .updateRoom _ _ _ _ => [.rooms]
  | .deleteRoom _ => [.raze]
  | .deleteMessage _ => [.erase]
  | .killSession _ => []
  | .patchAccessPolicy patch => if patch.guestRoom.isSome then [.guest, .rooms] else []

def requestPowers : List Power := [.standing, .level, .rooms, .raze, .erase, .guest]

theorem takesRequest_subset (request : WebRequest) : takesRequest request ⊆ requestPowers := by
  cases request with
  | updateUser target body =>
      apply List.append_subset_of_subset_of_subset
      · split <;> simp [requestPowers]
      · split <;> simp [requestPowers]
  | patchAccessPolicy patch =>
      dsimp only [takesRequest]
      split <;> simp [requestPowers]
  | _ => simp [takesRequest, requestPowers]

theorem apiPatchAccessPolicy {caller : CurrentUser} {patch : AccessPolicyPatch}
    (guestRoom : ∀ name, patch.guestRoom = some name → D.holds (Host.adminSetGuestRoom name)) :
    D.holds (Host.apiPatchAccessPolicy caller patch) := by
  apply D.sysopOnly
  have rest : D.holds (patchGuestRoom patch.guestRoom do
      Host.webAudit caller "access_policy_change" none none
      let policy ← adminGetAccessPolicy
      pure ⟨200, .policy policy⟩) := by
    have done : D.holds (do
        Host.webAudit caller "access_policy_change" none none
        let policy ← adminGetAccessPolicy
        pure (⟨200, .policy policy⟩ : Reply)) :=
      D.seq (D.webAudit _ _ _ _) fun _ => D.seq (D.peek _) fun _ => D.reply _
    unfold patchGuestRoom
    split
    · exact done
    · next name asked => exact D.onResult (guestRoom name asked) fun _ => done
  unfold patchVerification
  split
  · exact rest
  · exact D.onResult (D.adminSetRequireVerify _) fun _ => rest

theorem handleRequest {caller : CurrentUser} {request : WebRequest}
    (has : ∀ p ∈ takesRequest request, D.has p) : D.holds (Host.handleRequest caller request) := by
  cases request with
  | updateUser username body =>
      apply D.apiUpdateUser
      · apply D.adminUpdateUser
        intro user newStatus newLevel status level
        have standing (some_ : newStatus.isSome) : D.has .standing := by
          rw [decoded_isSome status] at some_
          exact has .standing (by simp [takesRequest, some_])
        have levels (some_ : newLevel.isSome) : D.has .level := by
          rw [decoded_isSome level] at some_
          exact has .level (by simp [takesRequest, some_])
        apply D.applyUpdate
        · exact fun id => D.patch standing levels
        · exact fun some_ id => D.powered (.clearSuspension id) (standing some_)
      · intro days asked
        have standing : D.has .standing := has .standing (by simp [takesRequest, asked])
        exact D.adminSuspendUser (fun id until_ => D.powered (.suspend id until_) standing) username days
  | createRoom name description =>
      apply D.sysopOnly
      apply D.ite
      · intro _
        exact D.reply _
      · intro _
        apply D.ite
        · intro _
          exact D.reply _
        · intro _
          apply D.onResult (D.adminCreateRoom (has .rooms (by simp [takesRequest])) _ _)
          intro room
          exact D.seq (D.webAudit _ _ _ _) fun _ => D.reply _
  | updateRoom id description readOnly minPermissionLevel =>
      apply D.sysopOnly
      apply D.ite
      · intro _
        exact D.reply _
      · intro _
        apply D.onResult (D.adminUpdateRoom (has .rooms (by simp [takesRequest])) _ _ _ _)
        intro room
        exact D.seq (D.webAudit _ _ _ _) fun _ => D.reply _
  | deleteRoom id =>
      apply D.sysopOnly
      apply D.onResult (D.adminDeleteRoom (has .raze (by simp [takesRequest])) id)
      intro deleted
      exact D.ite (fun _ => D.seq (D.webAudit _ _ _ _) fun _ => D.reply _) fun _ => D.reply _
  | deleteMessage id =>
      apply D.sysopOnly
      apply D.onResult (D.use (.deleteMessage id) (has .erase (by simp [takesRequest])))
      intro deleted
      exact D.ite (fun _ => D.seq (D.webAudit _ _ _ _) fun _ => D.reply _) fun _ => D.reply _
  | killSession session =>
      apply D.sysopOnly
      apply D.onResult (D.kill session)
      intro killed
      exact D.ite (fun _ => D.seq (D.webAudit _ _ _ _) fun _ => D.reply _) fun _ => D.reply _
  | patchAccessPolicy patch =>
      apply D.apiPatchAccessPolicy
      intro name asked
      have guest := has .guest (by simp [takesRequest, asked])
      exact D.adminSetGuestRoom (D.guest guest none)
        (D.ensureGuestRoom guest (has .rooms (by simp [takesRequest, asked]))) name

theorem serve {username : String} {request : WebRequest}
    (h : ∀ caller, D.holds (Host.handleRequest caller request)) :
    D.holds (Host.serve username request) := by
  have authorized : D.holds (authorize username) :=
    D.seq (D.attempted (D.adminAccountLevel username)) fun _ => D.reply _
  apply D.seq authorized
  intro authorized
  cases authorized with
  | yes caller => exact h caller
  | no => exact D.reply _
  | unavailable => exact D.reply _

end SupplyDrop.Proof.Conduct
