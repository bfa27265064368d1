import Mathlib
import SupplyDrop.Proof.Conduct.Rooms

namespace SupplyDrop.Proof.Conduct
open Library Store Host

variable (D : Conduct)

/-! ## The web admin -/

theorem orFail {α : Type} (r : Except HostError α) :
    D.ensures (Host.orFail r) fun a => r = .ok a := by
  cases r with
  | ok a => exact D.ret rfl
  | error e => exact D.fail

theorem adminUser (username : String) : D.holds (Host.adminUser username) := by
  unfold Host.adminUser
  split
  · exact D.refuse _
  · next name _ =>
    apply D.seq (D.call (.findUser name))
    intro user
    cases user with
    | none => exact D.refuse _
    | some user => exact D.reply user

theorem countSysops : D.holds Host.countSysops :=
  D.seq (D.call (.listUsers _ _ _)) fun _ => D.reply _

theorem guardLastSysop (user : User) (level : Option PermissionLevel) (refusal : HostError) :
    D.holds (Host.guardLastSysop user level refusal) := by
  apply D.onlyIf
  apply D.seq D.countSysops
  intro sysops
  exact D.ite (fun _ => D.refuse _) fun _ => D.reply _

theorem guardActive (user : User) (status : Option UserStatus) (level : Option PermissionLevel) :
    D.holds (Host.guardActive user status level) :=
  D.ite (fun _ => D.refuse _) fun _ => D.reply _

theorem decoded_isSome {α : Type} {what : String} {decode : Nat → Option α} {field : Option Nat}
    {value : Option α} (h : decodeField what decode field = .ok value) :
    value.isSome = field.isSome := by
  unfold decodeField at h
  split at h
  · cases h
    rfl
  · split at h
    · cases h
      rfl
    · cases h

theorem endSessionsNamed (username reason : String) :
    D.holds (Host.endSessionsNamed username reason) := D.endSessions

theorem applyUpdate {status : Option UserStatus} {level : Option PermissionLevel}
    (writes : ∀ id, D.lets (UserStore.update id none status level none))
    (clears : status.isSome → ∀ id, D.lets (UserStore.clearSuspension id)) (user : User) :
    D.holds (Host.applyUpdate user status level) := by
  apply D.seq (D.db (writes user.id))
  intro _
  cases status with
  | none => exact D.reply _
  | some status => exact D.db (clears rfl user.id)

theorem reflectUpdate (username : String) (newStatus : Option UserStatus)
    (newLevel : Option PermissionLevel) : D.holds (do
      reflectStatus username newStatus
      reflectLevel username newLevel) := by
  have reflected : D.holds (reflectStatus username newStatus) := by
    unfold reflectStatus
    split
    · exact D.endSessionsNamed _ _
    · exact D.endSessionsNamed _ _
    · exact D.reply _
  apply D.seq reflected
  intro _
  cases newLevel with
  | none => exact D.reply _
  | some newLevel => exact D.relevel

theorem adminUpdateUser {status permissionLevel : Option Nat}
    (applied : ∀ user newStatus newLevel, decodeField "status" statusOf status = .ok newStatus →
      decodeField "permission_level" levelOf permissionLevel = .ok newLevel →
      D.holds (Host.applyUpdate user newStatus newLevel)) (username : String) :
    D.holds (Host.adminUpdateUser username status permissionLevel) := by
  apply D.seq (D.adminUser username)
  intro user
  apply D.bind (D.orFail _)
  intro newStatus decodedStatus
  apply D.bind (D.orFail _)
  intro newLevel decodedLevel
  apply D.seq (D.guardActive _ _ _)
  intro _
  apply D.seq (D.guardLastSysop _ _ _)
  intro _
  apply D.seq (applied user newStatus newLevel decodedStatus decodedLevel)
  intro _
  exact D.reflectUpdate username newStatus newLevel

theorem adminSuspendUser (suspends : ∀ id until_, D.lets (UserStore.suspend id until_))
    (username : String) (days : Nat) :
    D.holds (Host.adminSuspendUser username days) := by
  apply D.ite
  · intro _
    exact D.refuse _
  · intro _
    apply D.seq (D.adminUser username)
    intro user
    apply D.seq D.now
    intro now
    apply D.seq (D.db (suspends _ _))
    intro _
    exact D.endSessionsNamed _ _

theorem adminSetPassword (username password : String) :
    D.holds (Host.adminSetPassword username password) := by
  apply D.seq (D.adminUser username)
  intro user
  exact D.seq D.now fun _ => D.call (.setPassword _ _ _)

theorem adminAccountLevel (username : String) : D.holds (Host.adminAccountLevel username) := by
  unfold Host.adminAccountLevel
  split
  · exact D.reply _
  · next name _ =>
    apply D.seq (D.call (.findUser name))
    intro user
    cases user with
    | none => exact D.reply _
    | some user =>
        dsimp only
        cases user.status with
        | active => exact D.reply _
        | banned => exact D.seq (D.resolve user) fun _ => D.reply _
        | deleted => exact D.reply _

theorem adminCreateRoom (rooms : D.has .rooms) (name : String) (description : Option String) :
    D.holds (Host.adminCreateRoom name description) := by
  apply D.seq D.now
  intro now
  apply D.seq (D.use (.createRoom _ _ _ _ _) rooms)
  intro _
  apply D.seq (D.call .listRooms)
  intro listed
  split
  · exact D.reply _
  · exact D.refuse _

theorem adminUpdateRoom (rooms : D.has .rooms) (roomId : RoomId)
    (description : Option (Option String)) (readOnly : Option Bool)
    (minPermissionLevel : Option Nat) :
    D.holds (Host.adminUpdateRoom roomId description readOnly minPermissionLevel) := by
  apply D.seq (D.ensures_holds (D.orFail _))
  intro newLevel
  apply D.seq (D.use (.updateRoom _ _ _ _) rooms)
  intro _
  apply D.seq (D.call (.getRoom roomId))
  intro room
  cases room with
  | none => exact D.refuse _
  | some room => exact D.seq (D.call (.count _)) fun _ => D.reply _

theorem adminDeleteRoom (raze : D.has .raze) (roomId : RoomId) :
    D.holds (Host.adminDeleteRoom roomId) := by
  apply D.ite
  · intro _
    exact D.refuse _
  · intro _
    apply D.seq (D.tryUse (.deleteRoom roomId) raze)
    intro deleted
    split
    · exact D.reply _
    · exact D.reply _
    · exact D.refuse _

/-! ## Commands on accounts -/

theorem handleWhoIsOnline (session : SessionId) : D.holds (Host.handleWhoIsOnline session) :=
  D.withUserAuth fun _ => D.seq (D.peek _) fun _ => D.reply _

theorem reviewNext (session : SessionId) (pending : List Username) (index : Nat) :
    D.holds (Host.setWorkflow session (.reviewPending pending index)) := by
  have harmless : Harmless (.reviewPending pending index) := trivial
  exact D.setWorkflow harmless session

theorem handleListPending (session : SessionId) : D.holds (Host.handleListPending session) := by
  apply D.privileged
  intro auth
  apply D.seq (D.call (.listUsers _ _ _))
  intro allActive
  dsimp only
  split
  · exact D.reply _
  · exact D.seq (D.reviewNext session _ 0) fun _ => D.reply _

theorem advanceReviewPending (session : SessionId) (pending : List Username) (nextIndex : Nat) :
    D.holds (Host.advanceReviewPending session pending nextIndex) := by
  unfold Host.advanceReviewPending
  split
  · exact D.seq (D.clearWorkflow session) fun _ => D.reply _
  · exact D.seq (D.reviewNext session _ _) fun _ => D.reply _

theorem handleValidateUser (level : D.has .level) (session : SessionId) (username : Username) :
    D.holds (Host.handleValidateUser session username) := by
  apply D.privileged
  intro auth
  apply D.withUser
  intro user
  apply D.ite
  · intro _
    exact D.reply _
  · intro _
    apply D.seq (D.use (.setLevel _ _) level)
    intro _
    apply D.seq (D.setLevelsOf username .user)
    intro _
    apply D.seq (D.audit _ _ _ _)
    intro _
    exact D.seq (D.emit trivial) fun _ => D.reply _

theorem applyLevel (level : D.has .level) (auth : Auth) (username : Username) (user : User)
    (newLevel : PermissionLevel) : D.holds (Host.applyLevel auth username user newLevel) := by
  apply D.seq (D.use (.setLevel _ _) level)
  intro _
  have reflected : D.holds (reflectUserLevel username user newLevel) :=
    D.ite (fun _ => D.endSessionsOf _ _) fun _ => D.setLevelsOf _ _
  apply D.seq reflected
  intro _
  exact D.seq (D.call (.audit _ _ _ _)) fun _ => D.reply _

theorem handleSetUserLevel (level : D.has .level) (session : SessionId) (username : Username)
    (newLevel : PermissionLevel) :
    D.holds (Host.handleSetUserLevel session username newLevel) := by
  apply D.privileged
  intro auth
  apply D.ite
  · intro _
    exact D.reply _
  · intro _
    apply D.withUser
    intro user
    split
    · exact D.reply _
    · apply D.ite
      · intro _
        apply D.seq D.countSysops
        intro sysops
        exact D.ite (fun _ => D.reply _) fun _ => D.applyLevel level auth username user newLevel
      · intro _
        exact D.applyLevel level auth username user newLevel

theorem handleBlockUser (session : SessionId) (target : Username) (force : Option Bool) :
    D.holds (Host.handleBlockUser session target force) := by
  apply D.withUserAuth
  intro auth
  apply D.ite
  · intro _
    exact D.reply _
  · intro _
    apply D.withUser
    intro user
    apply D.seq (D.call (.isBlocking _ _))
    intro currently
    apply D.ite
    · intro _
      apply D.ite
      · intro _
        exact D.reply _
      · intro _
        exact D.seq (D.call (.block _ _)) fun _ => D.reply _
    · intro _
      apply D.ite
      · intro _
        apply D.seq (D.call (.hidden _ _ _))
        intro hidden
        exact D.seq (D.call (.unblock _ _)) fun _ => D.reply _
      · intro _
        exact D.reply _

theorem handleBanUser (bars : ∀ id, D.lets (UserStore.update id none (some .banned) none none))
    (clears : ∀ id, D.lets (UserStore.clearSuspension id)) (session : SessionId)
    (username : Username) : D.holds (Host.handleBanUser session username) := by
  apply D.privileged
  intro auth
  apply D.withUser
  intro user
  apply D.ite
  · intro _
    exact D.reply _
  · intro _
    apply D.ite
    · intro _
      exact D.reply _
    · intro _
      apply D.seq (D.db (bars _))
      intro _
      apply D.seq (D.db (clears _))
      intro _
      apply D.seq (D.endSessionsOf _ _)
      intro _
      exact D.seq (D.audit _ _ _ _) fun _ => D.reply _

theorem banned (standing : D.has .standing) (session : SessionId) (username : Username) :
    D.holds (Host.handleBanUser session username) := by
  apply D.handleBanUser
  · exact fun id => D.powered (.setStatus id _) standing
  · exact fun id => D.powered (.clearSuspension id) standing

theorem handleTimeoutUser (suspends : ∀ id until_, D.lets (UserStore.suspend id until_))
    (session : SessionId) (username : Username) (days : Nat) :
    D.holds (Host.handleTimeoutUser session username days) := by
  apply D.privileged
  intro auth
  apply D.withUser
  intro user
  apply D.ite
  · intro _
    exact D.reply _
  · intro _
    apply D.ite
    · intro _
      exact D.reply _
    · intro _
      apply D.seq (D.adminSuspendUser suspends _ _)
      intro _
      exact D.seq (D.audit _ _ _ _) fun _ => D.reply _

theorem handleUnbanUser (standing : D.has .standing) (session : SessionId) (username : Username) :
    D.holds (Host.handleUnbanUser session username) := by
  apply D.privileged
  intro auth
  apply D.withUser
  intro user
  apply D.ite
  · intro _
    exact D.reply _
  · intro _
    apply D.seq (D.use (.setStatus _ _) standing)
    intro _
    apply D.seq (D.use (.clearSuspension _) standing)
    intro _
    exact D.seq (D.audit _ _ _ _) fun _ => D.reply _

theorem handleDeleteUser (standing : D.has .standing) (oust : D.has .oust) (session : SessionId)
    (username : Username) : D.holds (Host.handleDeleteUser session username) := by
  apply D.privileged
  intro auth
  apply D.withUser
  intro user
  apply D.ite
  · intro _
    exact D.reply _
  · intro _
    apply D.ite
    · intro _
      exact D.reply _
    · intro _
      apply D.seq (D.use (.setStatus _ _) standing)
      intro _
      apply D.seq (D.oust oust username)
      intro _
      exact D.seq (D.audit _ _ _ _) fun _ => D.reply _

theorem handleListUsers (session : SessionId) (filter : Option String) :
    D.holds (Host.handleListUsers session filter) := by
  apply D.withUserAuth
  intro auth
  split
  · exact D.reply _
  · apply D.seq (D.call (.listUsers _ _ _))
    intro users
    exact D.ite (fun _ => D.reply _) fun _ => D.reply _

theorem handleSearchUsers (session : SessionId) (query : String) :
    D.holds (Host.handleSearchUsers session query) := by
  apply D.withUserAuth
  intro auth
  apply D.ite
  · intro _
    exact D.reply _
  · intro _
    apply D.seq (D.call (.listUsers _ _ _))
    intro all
    exact D.ite (fun _ => D.reply _) fun _ => D.reply _

theorem handleUserInfo (session : SessionId) (username : Username) :
    D.holds (Host.handleUserInfo session username) :=
  D.withUserAuth fun _ => D.withUser fun _ => D.seq (D.peek _) fun _ => D.reply _

theorem handleEditProfile (session : SessionId) : D.holds (Host.handleEditProfile session) := by
  apply D.withUserAuth
  intro auth
  apply D.whenIdle
  have harmless : Harmless .editProfile := trivial
  exact D.seq (D.setWorkflow harmless session) fun _ => D.reply _

theorem changingPassword (session : SessionId) (stage : ChangePwdStage) :
    D.holds (Host.setWorkflow session (.changePassword stage)) := by
  have harmless : Harmless (.changePassword stage) := trivial
  exact D.setWorkflow harmless session

theorem handleChangePassword (session : SessionId) :
    D.holds (Host.handleChangePassword session) :=
  D.withUserAuth fun _ => D.whenIdle (D.seq (D.changingPassword session _) fun _ => D.reply _)

theorem handleSetUserPassword (reset : D.has .reset) (session : SessionId) (target : Username) :
    D.holds (Host.handleSetUserPassword session target) := by
  apply D.privileged
  intro auth
  apply D.withUser
  intro user
  apply D.seq D.now
  intro now
  apply D.seq (D.use (.resetPassword _ _) reset)
  intro temp
  exact D.seq (D.audit _ _ _ _) fun _ => D.reply _

/-! ## Rooms and access -/

theorem handleCreateRoom (rooms : D.has .rooms) (session : SessionId) (name : String) :
    D.holds (Host.handleCreateRoom session name) := by
  apply D.privileged
  intro auth
  apply D.seq (D.call (.findRoom name))
  intro existing
  apply D.ite
  · intro _
    exact D.reply _
  · intro _
    apply D.seq D.now
    intro now
    apply D.seq (D.use (.createRoom _ _ _ _ _) rooms)
    intro roomId
    exact D.seq (D.audit _ _ _ _) fun _ => D.reply _

theorem handleDeleteRoom (raze : D.has .raze) (session : SessionId) (name : String) :
    D.holds (Host.handleDeleteRoom session name) := by
  apply D.privileged
  intro auth
  apply D.seq (D.call (.findRoom name))
  intro room
  cases room with
  | none => exact D.reply _
  | some room =>
      apply D.ite
      · intro _
        exact D.reply _
      · intro _
        apply D.seq (D.use (.deleteRoom _) raze)
        intro _
        exact D.seq (D.audit _ _ _ _) fun _ => D.reply _

theorem setPolicy (f : AccessPolicy → AccessPolicy) :
    D.holds (Host.poke fun m => m.setPolicy f) := D.quietly (fun _ => rfl) (fun _ => rfl) fun _ => rfl

theorem setRequireVerify (requireVerify : Bool) : D.holds (Host.setRequireVerify requireVerify) :=
  D.setPolicy _

theorem setGuestRoomName (name : Option String) : D.holds (Host.setGuestRoomName name) :=
  D.setPolicy _

theorem persistAccessPolicy : D.holds Host.persistAccessPolicy :=
  D.quietly (fun _ => rfl) (fun _ => rfl) fun _ => rfl

theorem changeVerification (session : SessionId) (requireVerify : Bool) (action reply : String) :
    D.holds (Host.changeVerification session requireVerify action reply) := by
  apply D.privileged
  intro auth
  apply D.seq (D.setRequireVerify _)
  intro _
  apply D.seq D.persistAccessPolicy
  intro _
  exact D.seq (D.audit _ _ _ _) fun _ => D.reply _

theorem ensureGuestRoom (guest : D.has .guest) (rooms : D.has .rooms) :
    D.holds Host.ensureGuestRoom := by
  apply D.seq (D.peek _)
  intro name
  cases name with
  | none => exact D.reply _
  | some name =>
      apply D.seq (D.tryCall (.findRoom name))
      intro found
      split
      · exact D.reply _
      · exact D.seq (D.guest guest _) fun _ => D.reply _
      · apply D.seq D.now
        intro now
        apply D.seq (D.tryUse (.createRoom _ _ _ _ _) rooms)
        intro created
        cases created with
        | error e => exact D.reply _
        | ok id =>
            apply D.seq (D.tryCall (.getRoom id))
            intro fetched
            split
            · exact D.reply _
            · exact D.reply _
            · exact D.seq (D.guest guest _) fun _ => D.reply _

theorem handleSetGuestRoom (clear : D.holds (setGuestRoomId none))
    (ensure : D.holds Host.ensureGuestRoom) (session : SessionId) (name : Option String) :
    D.holds (Host.handleSetGuestRoom session name) := by
  apply D.privileged
  intro auth
  cases name with
  | none =>
      apply D.seq (D.setGuestRoomName none)
      intro _
      apply D.seq clear
      intro _
      apply D.seq D.persistAccessPolicy
      intro _
      exact D.seq (D.audit _ _ _ _) fun _ => D.reply _
  | some roomName =>
      apply D.seq (D.setGuestRoomName _)
      intro _
      apply D.seq ensure
      intro ensured
      cases ensured with
      | error e => exact D.seq (D.setGuestRoomName none) fun _ => D.reply _
      | ok _ =>
          apply D.seq D.persistAccessPolicy
          intro _
          exact D.seq (D.audit _ _ _ _) fun _ => D.reply _

theorem adminSetGuestRoom (clear : D.holds (setGuestRoomId none))
    (ensure : D.holds Host.ensureGuestRoom) (name : Option String) :
    D.holds (Host.adminSetGuestRoom name) := by
  apply D.seq (D.setGuestRoomName name)
  intro _
  have settled : D.holds (settleGuestRoom name) := by
    cases name with
    | none => exact clear
    | some name => exact D.seq ensure fun _ => D.ensures_holds (D.orFail _)
  exact D.seq settled fun _ => D.persistAccessPolicy

theorem adminSetRequireVerify (requireVerify : Bool) :
    D.holds (Host.adminSetRequireVerify requireVerify) :=
  D.seq (D.setRequireVerify _) fun _ => D.persistAccessPolicy

end SupplyDrop.Proof.Conduct
