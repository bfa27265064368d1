import Mathlib
import SupplyDrop.Proof.Conduct.Rules

namespace SupplyDrop.Proof.Conduct
open Library Store Host

variable (D : Conduct) {session : SessionId}

/-! ## Standing of an account -/

theorem accountBarred (userId : UserId) : D.holds (Host.accountBarred userId) := by
  apply D.seq (D.tryCall (.getUser userId))
  intro user
  split
  · exact D.reply _
  · exact D.reply _
  · next u =>
    cases u.status with
    | active => exact D.reply _
    | banned => exact D.seq (D.resolve u) fun _ => D.reply _
    | deleted => exact D.reply _

theorem logOutIfAccountBarred (session : SessionId) :
    D.holds (Host.logOutIfAccountBarred session) := by
  apply D.seq (D.peek _)
  intro userId
  cases userId with
  | none => exact D.reply _
  | some userId =>
      apply D.seq (D.accountBarred userId)
      intro barred
      cases barred with
      | none => exact D.reply _
      | some barred =>
          exact D.seq (D.poke (fun _ => .logOutAccount) fun _ => .logOutAccount) fun _ =>
            D.reply _

/-! ## Login and registration -/

theorem quietly {f : Memory → Memory} (sessions : ∀ m, (f m).sessions = m.sessions)
    (guestRoom : ∀ m, (f m).guestRoomId = m.guestRoomId) (events : ∀ m, (f m).events = m.events) :
    D.holds (Host.poke f) := by
  apply D.poke
  · exact fun m => .same (sessions m) (guestRoom m)
  · exact fun m => .same (by rw [sessions]) (fun _ => by rw [sessions]) (events m)

theorem clearLoginFailures (username : String) : D.holds (Host.clearLoginFailures username) :=
  D.quietly (fun _ => rfl) (fun _ => rfl) fun _ => rfl

theorem recordLoginFailure (username : String) : D.holds (Host.recordLoginFailure username) := by
  apply D.seq (D.peek _)
  intro count
  exact D.seq (D.quietly (fun _ => rfl) (fun _ => rfl) fun _ => rfl) fun _ => D.reply _

theorem stampLastLogin (userId : UserId) : D.holds (Host.stampLastLogin userId) :=
  D.seq D.now fun _ => D.call (.touchUser _ _ _)

theorem initialRoom (level : PermissionLevel) : D.holds (Host.initialRoom level) := D.peek _

theorem finalizeLogin (bind : D.has .bind) (session : SessionId) (user : User) :
    D.holds (Host.finalizeLogin session user) := by
  apply D.seq (D.initialRoom _)
  intro room
  apply D.seq (D.onKnownSession (D.bind_ bind))
  intro _
  exact D.seq (D.emit trivial) fun _ => D.reply _

theorem completeLogin (login : ∀ user, D.holds (Host.finalizeLogin session user))
    {hold : SessionId → (SessionRecord → SessionRecord) → HostM Unit}
    (held : ∀ username userId stage, D.holds
      (hold session fun r => r.setWorkflow (.forceChangePassword username userId stage)))
    (username : Username) (user : User) :
    D.holds (Host.completeLogin session username user hold) := by
  apply D.seq (D.clearLoginFailures _)
  intro _
  apply D.seq (D.stampLastLogin _)
  intro _
  apply D.seq (D.call (.mustChange _))
  intro mustChange
  apply D.ite
  · intro _
    exact D.seq (held _ _ _) fun _ => D.reply _
  · intro _
    exact login user

theorem admitOneshot (login : ∀ user, D.holds (Host.finalizeLogin session user))
    (hold : D.has .hold) (username : Username) (user : User) :
    D.holds (Host.admitOneshot session username user) := by
  have complete (user : User) :
      D.holds (Host.completeLogin session username user Host.onKnownSession) :=
    D.completeLogin login (fun _ _ _ => D.onKnownSession (D.hold hold)) username user
  apply D.ite
  · intro _
    apply D.seq (D.resolve user)
    intro check
    cases check with
    | allowed u => exact complete u
    | suspended days => exact D.reply _
    | permanentlyBanned => exact D.reply _
  · intro _
    exact complete user

theorem loginNow (login : ∀ user, D.holds (Host.finalizeLogin session user)) (hold : D.has .hold)
    (username : Username) (password : String) :
    D.holds (Host.loginNow session username password) := by
  apply D.seq (D.peek _)
  intro wait
  cases wait with
  | some wait => exact D.reply _
  | none =>
      apply D.seq (D.call (.findUser username))
      intro user
      split
      · exact D.reply _
      · next user _ =>
        apply D.seq D.now
        intro now
        apply D.seq (D.call (.verifyPassword _ _ _))
        intro ok
        apply D.ite
        · intro _
          exact D.admitOneshot login hold username user
        · intro _
          exact D.seq (D.recordLoginFailure _) fun _ => D.reply _

theorem handleLoginOneshot (login : ∀ user, D.holds (Host.finalizeLogin session user))
    (hold : D.has .hold) (username : Username) (password : String) :
    D.holds (Host.handleLoginOneshot session username password) := by
  apply D.seq (D.lookUp session)
  intro found
  cases found with
  | none => exact D.refuse _
  | some r =>
      dsimp only
      split
      · exact D.reply _
      · exact D.loginNow login hold username password

theorem handleLogin (session : SessionId) (username : Username) :
    D.holds (Host.handleLogin session username) := by
  apply D.seq (D.lookUp session)
  intro found
  split
  · exact D.reply _
  · apply D.seq (D.call (.findUser username))
    intro user
    split
    · exact D.reply _
    · have harmless : Harmless (.login username 0) := trivial
      exact D.seq (D.onKnownSession (D.setWorkflow harmless session)) fun _ => D.reply _

theorem notifySysops (notify : D.has .notify) (username : Username) :
    D.holds (Host.notifySysops username) := by
  apply D.seq (D.tryCall (.listUsers _ _ _))
  intro users
  apply D.seq D.now
  intro now
  apply D.forM
  intro sysop
  exact D.seq (D.tryUse (.notifyUser _ _ _) notify) fun _ => D.reply _

theorem createUserAndLogin (enrol : D.has .enrol) (bind : D.has .bind) (notify : D.has .notify)
    (session : SessionId) (username : Username) (password : String) :
    D.holds (Host.createUserAndLogin session username password) := by
  apply D.seq D.now
  intro now
  apply D.seq (D.call (.listUsers _ _ _))
  intro someone
  apply D.seq (D.tryUse (.createUser _ _ _ _) enrol)
  intro created
  split
  · exact D.seq (D.clearWorkflow session) fun _ => D.reply _
  · exact D.refuse _
  · next userId =>
    apply D.seq (D.call (.setPassword _ _ _))
    intro _
    apply D.seq (D.initialRoom _)
    intro room
    apply D.seq (D.onKnownSession (D.bind_ bind))
    intro _
    have passing : Passing (.userCreated username) := trivial
    apply D.seq (D.emit passing)
    intro _
    apply D.ite
    · intro _
      exact D.reply _
    · intro _
      exact D.seq (D.notifySysops notify username) fun _ => D.reply _

theorem handleRegister (session : SessionId) (rawUsername : String) :
    D.holds (Host.handleRegister session rawUsername) := by
  apply D.seq (D.lookUp session)
  intro found
  split
  · exact D.reply _
  · unfold startRegister
    split
    · exact D.reply _
    · next username _ =>
      apply D.seq (D.call (.findUser username))
      intro existing
      apply D.ite
      · intro _
        exact D.reply _
      · intro _
        have harmless : Harmless (.register username .password) := trivial
        exact D.seq (D.onKnownSession (D.setWorkflow harmless session)) fun _ => D.reply _

theorem handleRegisterOneshot
    (create : ∀ username password, D.holds (Host.createUserAndLogin session username password))
    (rawUsername password : String) :
    D.holds (Host.handleRegisterOneshot session rawUsername password) := by
  apply D.seq (D.lookUp session)
  intro found
  cases found with
  | none => exact D.refuse _
  | some r =>
      dsimp only
      split
      · exact D.reply _
      · unfold registerNow
        split
        · exact D.reply _
        · next username _ =>
          apply D.ite
          · intro _
            exact D.reply _
          · intro _
            apply D.seq (D.call (.findUser username))
            intro existing
            exact D.ite (fun _ => D.reply _) fun _ => create username password

/-! ## A node's stored login -/

theorem meshNodeRestore (bind : D.has .bind) (session : SessionId) (pubkey : PublicKey)
    (ttlDays : Nat) : D.holds (Host.meshNodeRestore session pubkey ttlDays) := by
  apply D.seq (D.call (.lookupNode _ _))
  intro bound
  cases bound with
  | none => exact D.reply _
  | some userId =>
      apply D.seq (D.call (.getUser userId))
      intro user
      split
      · exact D.reply _
      · apply D.seq (D.stampLastLogin _)
        intro _
        apply D.seq (D.bind_ bind)
        intro _
        apply D.seq D.now
        intro now
        exact D.seq (D.call (.bindNode _ _ _)) fun _ => D.reply _

theorem meshNodeBind (session : SessionId) (pubkey : PublicKey) :
    D.holds (Host.meshNodeBind session pubkey) := by
  apply D.seq (D.peek _)
  intro userId
  cases userId with
  | none => exact D.reply _
  | some userId => exact D.seq D.now fun _ => D.call (.bindNode _ _ _)

theorem meshNodeUnbind (pubkey : PublicKey) : D.holds (Host.meshNodeUnbind pubkey) :=
  D.call (.unbindNode pubkey)

end SupplyDrop.Proof.Conduct
