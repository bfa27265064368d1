import Mathlib
import SupplyDrop.Host.Web
import SupplyDrop.Proof.StoreCalls
import SupplyDrop.Proof.Accounts
import SupplyDrop.Proof.Conduct.Reports

namespace SupplyDrop.Host
open Library Store

/-! ## As whom a session is served -/

/-- The level of an account as the host knows it: as stored, or as the session has it where the
account cannot be read. -/
def KnownLevel (h : BbsHost) (r : SessionRecord) (id : UserId) (level : PermissionLevel) : Prop :=
  (∃ row, h.store.db.users.get? id = some row ∧ level = row.permissionLevel) ∨
    (∀ user, (UserStore.getById id h.store).1 ≠ .ok (some user)) ∧ level = r.level

/-- Open access serves everyone as a `User` at least. -/
def Served (h : BbsHost) (session : SessionId) (auth : Auth) : Prop :=
  ∃ r known, h.sessions.get? session = some r ∧ r.username = some auth.username ∧
    r.userId = some auth.userId ∧ r.currentRoom = auth.roomId ∧ KnownLevel h r auth.userId known ∧
    (auth.level = known ∨
      known < .user ∧ h.accessPolicy.requireVerify = false ∧ auth.level = .user)

/-- What serving a session changes: the level it has, and the statements to come. -/
structure Refreshed (session : SessionId) (h h' : BbsHost) : Prop where
  sessions : ∀ id r', h'.sessions.get? id = some r' → ∃ r, h.sessions.get? id = some r ∧
    r' = r.setLevel r'.level ∧ (id ≠ session → r' = r)
  reported : Reported h.toMemory h'.toMemory
  policy : h'.accessPolicy = h.accessPolicy
  guestRoom : h'.guestRoomId = h.guestRoomId
  db : h'.store.db = h.store.db
  later : Later h.store h'.store

namespace Refreshed
variable {session : SessionId} {h h' : BbsHost}

theorem store (h : BbsHost) {s : Storage} (db : s.db = h.store.db) (later : Later h.store s) :
    Refreshed session h { h with store := s } :=
  ⟨fun _ r found => ⟨r, found, rfl, fun _ => rfl⟩, .refl _, rfl, rfl, db, later⟩

theorem reads (refreshed : Refreshed session h h') {s : Storage} (db : s.db = h'.store.db)
    (later : Later h'.store s) : Refreshed session h { h' with store := s } :=
  ⟨refreshed.sessions, refreshed.reported, refreshed.policy, refreshed.guestRoom,
    db.trans refreshed.db, refreshed.later.trans later⟩

theorem setLevel (refreshed : Refreshed session h h') (level : PermissionLevel) :
    Refreshed session h
      { h' with toMemory := h'.toMemory.update session fun r => r.setLevel level } := by
  refine ⟨?_, refreshed.reported.trans .update, refreshed.policy, refreshed.guestRoom, refreshed.db,
    refreshed.later⟩
  intro id r' found
  unfold Memory.update at found
  rw [RowTable.get?_update] at found
  split at found
  · next same =>
    obtain ⟨r₁, between, rfl⟩ := Option.map_eq_some_iff.mp found
    obtain ⟨r, before, eq, -⟩ := refreshed.sessions id r₁ between
    refine ⟨r, before, ?_, fun other => absurd same other⟩
    rw [eq]
    rfl
  · exact refreshed.sessions id r' found

end Refreshed

theorem currentLevel_spec (r : SessionRecord) (id : UserId) (h : BbsHost) :
    ∃ level s, currentLevel id r.level h = (.ok level, { h with store := s }) ∧
      s.db = h.store.db ∧ Later h.store s ∧ KnownLevel h r id level := by
  have same := Reads.getUser id h.store
  unfold currentLevel
  rcases read : UserStore.getById id h.store with ⟨found, s⟩
  rw [read] at same
  rw [Program.bind_apply, tryDb_of read]
  dsimp only
  split
  · next u =>
    obtain ⟨row, stored, eq⟩ := Option.map_eq_some_iff.mp (getById_ok read).symm
    exact ⟨_, s, rfl, same.1, same.2, .inl ⟨row, stored, (congrArg (·.permissionLevel) eq).symm⟩⟩
  · next other =>
    refine ⟨_, s, rfl, same.1, same.2, .inr ⟨?_, rfl⟩⟩
    intro user ok
    rw [read] at ok
    exact other user ok

theorem sessionAuth_apply (session : SessionId) (h : BbsHost) :
    (∃ e, sessionAuth session h = (.ok (.error e), h) ∧ ∀ r, h.sessions.get? session = some r →
      r.username.isSome → r.userId = none) ∨
    ∃ r username userId, h.sessions.get? session = some r ∧ r.username = some username ∧
      r.userId = some userId ∧
      sessionAuth session h = (.ok (.ok ⟨username, userId, r.level, r.currentRoom⟩), h) := by
  rw [sessionAuth, peek_apply]
  rcases found : h.sessions.get? session with _ | r
  · refine .inl ⟨_, rfl, fun r none_ => ?_⟩
    cases none_
  · dsimp only
    rcases name : r.username with _ | username
    · refine .inl ⟨_, rfl, fun r' same named => ?_⟩
      cases same
      rw [name] at named
      cases named
    · rcases id : r.userId with _ | userId
      · refine .inl ⟨_, rfl, fun r' same _ => ?_⟩
        cases same
        exact id
      · exact .inr ⟨r, username, userId, rfl, name, id, rfl⟩

/-- The session as it is recorded, for whoever asks in its name. -/
def SessionRecord.auth (r : SessionRecord) (username : Username) (userId : UserId) : Auth :=
  ⟨username, userId, r.level, r.currentRoom⟩

theorem sessionAuthUser_spec (session : SessionId) (h : BbsHost) :
    Refreshed session h (sessionAuthUser session h).2 ∧
      (∃ served, (sessionAuthUser session h).1 = .ok served) ∧
      (∀ auth, (sessionAuthUser session h).1 = .ok (.ok auth) → Served h session auth) ∧
      ∀ e, (sessionAuthUser session h).1 = .ok (.error e) → ∀ r username userId,
        (sessionAuthUser session h).2.sessions.get? session = some r → r.username = some username →
        r.userId = some userId → Served h session (r.auth username userId) := by
  unfold sessionAuthUser
  rw [Program.bind_apply]
  rcases sessionAuth_apply session h with
    ⟨e, asked, nobody⟩ | ⟨r, username, userId, found, name, id, asked⟩
  · rw [asked]
    refine ⟨.store h rfl (.refl _), ⟨_, rfl⟩, nofun, fun _ _ r' username userId there named id => ?_⟩
    rw [nobody r' there (by rw [named]; rfl)] at id
    cases id
  · rw [asked]
    dsimp only
    obtain ⟨level, s, read, db, later, known⟩ := currentLevel_spec r userId h
    have as_ (served : PermissionLevel) (level_ : served = level ∨
        level < .user ∧ h.accessPolicy.requireVerify = false ∧ served = .user) :
        Served h session ⟨username, userId, served, r.currentRoom⟩ :=
      ⟨r, level, found, name, id, rfl, known, level_⟩
    rw [Program.bind_apply, read]
    dsimp only
    have refreshed : ∃ h', onlyIf (level ≠ r.level) (onSession session fun r => r.setLevel level)
        { h with store := s } = (.ok (), h') ∧ Refreshed session h h' ∧
        h'.sessions.get? session = some (r.setLevel level) := by
      unfold onlyIf
      split
      · refine ⟨_, rfl, (Refreshed.store h db later).setLevel level, ?_⟩
        show (h.sessions.update session _).get? session = _
        rw [RowTable.get?_update, if_pos rfl, found]
        rfl
      · next same =>
        have same : level = r.level := by simpa using same
        refine ⟨_, rfl, .store h db later, ?_⟩
        rw [same]
        exact found
    obtain ⟨h', ran, refreshed, there⟩ := refreshed
    rw [Program.bind_apply, ran]
    dsimp only
    split
    · refine ⟨refreshed, ⟨_, rfl⟩, fun auth eq => ?_, nofun⟩
      cases eq
      exact as_ level (.inl rfl)
    · next low =>
      rw [Program.bind_apply, peek_apply]
      dsimp only
      split
      · refine ⟨refreshed, ⟨_, rfl⟩, nofun, fun _ _ r' username' userId' there' name' id' => ?_⟩
        have same : some (r.setLevel level) = some r' := there.symm.trans there'
        cases same
        have named : r.username = some username' := name'
        have user : r.userId = some userId' := id'
        rw [name] at named
        rw [id] at user
        cases named
        cases user
        exact as_ level (.inl rfl)
      · next open_ =>
        refine ⟨refreshed.setLevel .user, ⟨_, rfl⟩, fun auth eq => ?_, nofun⟩
        cases eq
        rw [refreshed.policy] at open_
        exact as_ .user (.inr ⟨not_le.mp low, by simpa using open_, rfl⟩)

/-- Guests are served at the level they have. -/
theorem sessionAuthOrGuest_spec (session : SessionId) (h : BbsHost) :
    Refreshed session h (sessionAuthOrGuest session h).2 ∧
      ∀ auth, (sessionAuthOrGuest session h).1 = .ok (.ok auth) → Served h session auth := by
  obtain ⟨refreshed, ⟨result, ran⟩, served, guest⟩ := sessionAuthUser_spec session h
  have whole : sessionAuthUser session h = (.ok result, (sessionAuthUser session h).2) :=
    Prod.ext ran rfl
  unfold sessionAuthOrGuest
  rw [Program.bind_ok whole]
  rcases result with e | auth
  · dsimp only
    rw [Program.bind_apply, peek_apply]
    dsimp only
    split
    · rcases sessionAuth_apply session (sessionAuthUser session h).2 with
        ⟨e', asked, -⟩ | ⟨r, username, userId, found, name, id, asked⟩
      · rw [Program.bind_ok asked]
        exact ⟨refreshed, nofun⟩
      · rw [Program.bind_ok asked]
        refine ⟨refreshed, fun auth eq => ?_⟩
        cases eq
        exact guest e ran r username userId found name id
    · exact ⟨refreshed, nofun⟩
  · refine ⟨refreshed, fun auth' eq => ?_⟩
    cases eq
    exact served auth ran

theorem le_sysop (level : PermissionLevel) : level ≤ .sysop := by
  cases level <;> decide

theorem below_sysop {auth : Auth} {user : User} (outranked : outranks auth user = true) :
    user.permissionLevel ≠ .sysop := by
  intro level
  have above := le_sysop auth.level
  simp only [outranks, level, decide_eq_true_eq] at outranked
  exact absurd outranked (not_lt.mpr above)

/-- What a privileged command comes to, where whoever asks is served at the level required. -/
theorem privileged_spec {session : SessionId} {required : PermissionLevel} {refusal : Response}
    {k : Auth → HostM Response} {h : BbsHost} {P : BbsHost → Prop}
    (refused : ∀ h', Refreshed session h h' → P h')
    (granted : ∀ auth h', Refreshed session h h' → Served h session auth → required ≤ auth.level →
      P (k auth h').2) : P (privileged session required refusal k h).2 := by
  obtain ⟨refreshed, ⟨result, ran⟩, served, -⟩ := sessionAuthUser_spec session h
  have whole : sessionAuthUser session h = (.ok result, (sessionAuthUser session h).2) :=
    Prod.ext ran rfl
  unfold privileged withAuth
  rw [Program.bind_ok whole]
  rcases result with e | auth
  · exact refused _ refreshed
  · dsimp only
    split
    · exact refused _ refreshed
    · next high => exact granted auth _ refreshed (served auth ran) (not_lt.mp high)

/-- What a privileged command on an account comes to, where the account is found. -/
theorem named_spec {session : SessionId} {required : PermissionLevel} {refusal missing : Response}
    {name : Username} {k : Auth → User → HostM Response} {h : BbsHost} {P : BbsHost → Prop}
    (refused : ∀ h', Refreshed session h h' → P h')
    (granted : ∀ auth user h', Refreshed session h h' → Served h session auth →
      required ≤ auth.level → h.store.db.users.get? user.id = some user.toUserRow →
      user.username = name → P (k auth user h').2) :
    P (privileged session required refusal (fun auth => withUser name missing (k auth)) h).2 := by
  apply privileged_spec refused
  intro auth h' refreshed served high
  have same := Reads.findUser name h'.store
  unfold withUser
  rcases read : UserStore.getByUsername name h'.store with ⟨r, s⟩
  rw [read] at same
  have refreshed' := refreshed.reads same.1 same.2
  cases r with
  | error e =>
      rw [Program.bind_error (db_error read)]
      exact refused _ refreshed'
  | ok user =>
      rw [Program.bind_ok (db_ok read)]
      cases user with
      | none => exact refused _ refreshed'
      | some user =>
          obtain ⟨stored, named⟩ := found_username read
          rw [refreshed.db] at stored
          exact granted auth user _ refreshed' served high stored named

/-! ## As whom a request is served -/

/-- The account of a web session, found by its name, has the level of the caller. -/
def CallerOf (h : BbsHost) (username : String) (caller : CurrentUser) : Prop :=
  caller.username = username ∧ ∃ name r, username? username = some name ∧
    (h.store.db.users.rows.find? fun r => r.2.username = name) = some r ∧
    caller.permissionLevel = r.2.permissionLevel

theorem standing_allowed {now : Timestamp} {fresh : Option User} {allowed : User}
    (h : standing now fresh = .allowed allowed) : fresh = some allowed := by
  unfold standing at h
  split at h
  · split at h
    · cases h
      rfl
    · split at h <;> cases h
    · cases h
  · cases h

/-- An account that is let in again has the level it had. -/
theorem resolveSuspension_level {user allowed : User} {h h' : BbsHost}
    (stored : h.store.db.users.get? user.id = some user.toUserRow)
    (ran : resolveSuspension user h = (.ok (.allowed allowed), h')) :
    allowed.permissionLevel = user.permissionLevel := by
  unfold resolveSuspension at ran
  cases until_ : user.suspendedUntil with
  | none =>
      rw [until_] at ran
      cases ran
  | some t =>
    rw [until_] at ran
    obtain ⟨now, h₁, looked, ran⟩ := Program.bind_eq_ok ran
    cases looked
    split at ran
    · obtain ⟨ended, h₂, lifted, ran⟩ := Program.bind_eq_ok ran
      obtain ⟨s, called, rfl⟩ := db_eq_ok lifted
      have effect := endExpired_effect user.id h.store.now h.store
      rw [called] at effect
      cases ended with
      | true =>
          cases ran
          rfl
      | false =>
          obtain ⟨fresh, h₃, read, ran⟩ := Program.bind_eq_ok ran
          obtain ⟨s', called', rfl⟩ := db_eq_ok read
          have found : fresh = some allowed := by
            have same : standing h.store.now fresh = .allowed allowed :=
              Except.ok.inj (congrArg Prod.fst ran)
            exact standing_allowed same
          have known := getById_ok called'
          rw [found] at known
          obtain ⟨row, there, eq⟩ := Option.map_eq_some_iff.mp known.symm
          rw [← eq]
          dsimp only at there
          rcases effect.2 with kept | wrote
          · rw [show s.db = _ from kept, stored] at there
            cases there
            rfl
          · rw [show s.db = _ from wrote, RowTable.get?_update, if_pos rfl, stored] at there
            cases there
            exact reactivate_permissionLevel h.store.now _
    · cases ran

theorem adminAccountLevel_spec {username : String} {level : PermissionLevel} {h h' : BbsHost}
    (ran : adminAccountLevel username h = (.ok (some level), h')) :
    ∃ name r, username? username = some name ∧
      (h.store.db.users.rows.find? fun r => r.2.username = name) = some r ∧
      level = r.2.permissionLevel := by
  unfold adminAccountLevel at ran
  cases name_ : username? username with
  | none =>
      rw [name_] at ran
      cases ran
  | some name =>
      rw [name_] at ran
      obtain ⟨found, h₁, read, ran⟩ := Program.bind_eq_ok ran
      obtain ⟨s, called, rfl⟩ := db_eq_ok read
      cases found with
      | none => cases ran
      | some user =>
          obtain ⟨r, first, eq⟩ := Option.map_eq_some_iff.mp (getByUsername_ok called).symm
          have stored : h.store.db.users.get? user.id = some user.toUserRow := (found_username called).1
          have level_ : user.permissionLevel = r.2.permissionLevel := by
            rw [← eq]
            rfl
          refine ⟨name, r, rfl, first, ?_⟩
          rw [← level_]
          cases status : user.status with
          | active =>
              simp only [status] at ran
              cases ran
              rfl
          | deleted =>
              simp only [status] at ran
              cases ran
          | banned =>
              simp only [status] at ran
              obtain ⟨check, h₂, resolved, ran⟩ := Program.bind_eq_ok ran
              have same := Reads.findUser name h.store
              rw [called] at same
              cases check with
              | allowed user' =>
                  cases ran
                  apply resolveSuspension_level ?_ resolved
                  dsimp only
                  rw [same.1]
                  exact stored
              | suspended days => cases ran
              | permanentlyBanned => cases ran

theorem authorize_spec {username : String} {caller : CurrentUser} {h : BbsHost}
    (served : (authorize username h).1 = .ok (.yes caller)) : CallerOf h username caller := by
  unfold authorize at served
  rw [Program.bind_apply, Program.attempt_apply] at served
  rcases read : adminAccountLevel username h with ⟨r, h'⟩
  rw [read] at served
  rcases r with e | level
  · cases served
  · rcases level with _ | level
    · cases served
    · dsimp only at served
      split at served
      · cases served
        exact ⟨rfl, adminAccountLevel_spec read⟩
      · cases served

end SupplyDrop.Host
