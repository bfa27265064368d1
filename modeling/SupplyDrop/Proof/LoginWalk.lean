import Mathlib
import SupplyDrop.Proof.Conduct.Invariant

namespace SupplyDrop.Proof
open Library Library.Program Store Host

def loggedInAs : Response → Option Username
  | .loggedIn user => some user
  | _ => none

/-! ## Accounts as they were read -/

/-- The account as it was read is the account as it is stored. -/
def Known (user : User) (h : BbsHost) : Prop :=
  ∃ row, h.store.db.users.get? user.id = some row ∧ row.username = user.username ∧
    row.permissionLevel = user.permissionLevel

theorem known_of_core {user : User} {h h' : BbsHost} (known : Known user h)
    (same : (h'.store.db.users.get? user.id).map core = (h.store.db.users.get? user.id).map core) :
    Known user h' := by
  obtain ⟨row, stored, name, level⟩ := known
  rw [stored] at same
  obtain ⟨row', stored', eq⟩ := Option.map_eq_some_iff.mp same
  have name' : row'.username = row.username := congrArg (·.1) eq
  have level' : row'.permissionLevel = row.permissionLevel := congrArg (·.2.1) eq
  exact ⟨row', stored', name'.trans name, level'.trans level⟩

theorem known_lifted {user : User} {h : BbsHost} {s : Storage} {id : UserId} (known : Known user h)
    (wrote : s.db = { h.store.db with
      users := h.store.db.users.update id (UserStore.reactivate h.store.now) }) :
    Known user { h with store := s } := by
  obtain ⟨row, stored, name, level⟩ := known
  have there : s.db.users.get? user.id = some (if user.id = id then
      UserStore.reactivate h.store.now row else row) := by
    rw [wrote, RowTable.get?_update, stored]
    split <;> rfl
  refine ⟨_, there, ?_, ?_⟩
  · rw [← name]
    split
    · exact reactivate_username _ row
    · rfl
  · rw [← level]
    split
    · exact reactivate_permissionLevel _ row
    · rfl

/-- A lookup of a name finds the account as it is stored. -/
theorem found_user {describe : StoreError → String} {username : Username} {user : User}
    {h h' : BbsHost} (ran : db describe (UserStore.getByUsername username) h = (.ok (some user), h')) :
    h'.store.db = h.store.db ∧ h.store.db.users.get? user.id = some user.toUserRow ∧
      user.username = username := by
  obtain ⟨s, called, rfl⟩ := db_eq_ok ran
  have reads := (Reads.findUser username h.store).1
  rw [called] at reads
  exact ⟨reads, found_username called⟩

theorem found_id {describe : StoreError → String} {id : UserId} {user : User} {h h' : BbsHost}
    (ran : db describe (UserStore.getById id) h = (.ok (some user), h')) :
    h'.store.db = h.store.db ∧ ∃ row, h.store.db.users.get? id = some row ∧ user = account id row := by
  obtain ⟨s, called, rfl⟩ := db_eq_ok ran
  have reads := (Reads.getUser id h.store).1
  rw [called] at reads
  obtain ⟨row, stored, eq⟩ := Option.map_eq_some_iff.mp (getById_ok called).symm
  exact ⟨reads, row, stored, eq.symm⟩

theorem found_node {describe : StoreError → String} {pubkey : PublicKey} {ttlDays : Nat}
    {id : UserId} {h h' : BbsHost}
    (ran : db describe (NodeCredentialStore.lookup pubkey ttlDays) h = (.ok (some id), h')) :
    h'.store.db = h.store.db ∧ ∃ node, h.store.db.nodeCredentials pubkey = some node ∧
      NodeCredentialStore.current node.lastAuth h.store.now ttlDays = true ∧ node.userId = id := by
  obtain ⟨s, called, rfl⟩ := db_eq_ok ran
  obtain ⟨now, s₁, got, rest⟩ := Program.bind_eq_ok called
  obtain ⟨rfl, rfl⟩ := Program.gets_ok got
  obtain ⟨eq, same⟩ := query_ok rest
  obtain ⟨node, known, id_⟩ := Option.map_eq_some_iff.mp eq.symm
  obtain ⟨bound, current⟩ := Option.filter_eq_some_iff.mp known
  exact ⟨same, node, bound, current, id_⟩

/-! ## The way to a login -/

/-- What is true before a login, wherever it ends and when it has an answer. -/
structure LoginWalk (session : SessionId) where
  before : BbsHost → Prop
  inside : BbsHost → Prop
  gives : Response → BbsHost → Prop
  stable : Stable before
  enter : ∀ h, before h → inside h
  memory : ∀ h m, before h → m.sessions = h.sessions → m.guestRoomId = h.guestRoomId →
    before { h with toMemory := m }
  settle : ∀ h workflow, before h → Harmless workflow → inside (setWorkflow session workflow h).2
  refused : ∀ response h, loggedInAs response = none → inside h → gives response h
  hold : ∀ h user stage, before h → Known user h →
    inside (setWorkflow session (.forceChangePassword user.username user.id stage) h).2
  login : ∀ user, Ensures inside
    (fun h => before h ∧ Known user h ∧ flagged h.store.db user.id = false)
    (finalizeLogin session user) gives
  create : ∀ username password, Ensures inside before
    (createUserAndLogin session username password) gives

namespace LoginWalk
variable {session : SessionId} (w : LoginWalk session)

def Login (user : User) (h : BbsHost) : Prop := w.before h ∧ Known user h

theorem reply {P : BbsHost → Prop} {response : Response} (inside : ∀ h, P h → w.inside h)
    (other : loggedInAs response = none) :
    Ensures w.inside P (pure response : HostM Response) w.gives :=
  .ret fun h holds => ⟨inside h holds, w.refused response h other (inside h holds)⟩

theorem refuse {P : BbsHost → Prop} {response : Response} (before : ∀ h, P h → w.before h)
    (other : loggedInAs response = none) :
    Ensures w.inside P (pure response : HostM Response) w.gives :=
  w.reply (fun h holds => w.enter h (before h holds)) other

/-- The workflow is put aside with the refusal. -/
theorem refuse_after {P : BbsHost → Prop} {response : Response} {workflow : Workflow}
    (harmless : Harmless workflow) (before : ∀ h, P h → w.before h)
    (other : loggedInAs response = none) : Ensures w.inside P (do
      setWorkflow session workflow
      pure response) w.gives := by
  have settled : Ensures w.inside P (setWorkflow session workflow) fun _ => w.inside := by
    intro h holds
    have inside := w.settle h workflow (before h holds) harmless
    exact ⟨inside, fun _ _ => inside⟩
  exact settled.bind fun _ => w.reply (fun _ => id) other

theorem looks {α : Type} {P : BbsHost → Prop} (f : BbsHost → α) (before : ∀ h, P h → w.before h) :
    Ensures w.inside P (Program.gets f : HostM α) fun _ => P :=
  .gets fun h holds => ⟨w.enter h (before h holds), holds⟩

theorem calls {α : Type} {user : User} {describe : StoreError → String} {m : StoreM α}
    (h : Ordinary m) : Ensures w.inside (w.Login user) (db describe m) fun _ => w.Login user := by
  rintro host ⟨before, known⟩
  obtain ⟨⟨aside, later⟩, -⟩ := ordinary_mild h host.store
  have before' := w.stable.aside host (m host.store).2 before aside later
  exact ⟨w.enter _ before', fun _ _ => ⟨before', known_of_core known (aside.users user.id)⟩⟩

theorem waits {α : Type} {describe : StoreError → String} {m : StoreM α} (h : Ordinary m) :
    Ensures w.inside w.before (db describe m) fun _ => w.before := by
  intro host before
  have before' := w.stable.ordinary h host before
  exact ⟨w.enter _ before', fun _ _ => before'⟩

theorem notes {P : BbsHost → Prop} {f : Memory → Memory} (before : ∀ h, P h → w.before h)
    (store : ∀ h m, P h → w.before { h with toMemory := m } → P { h with toMemory := m })
    (sessions : ∀ m, (f m).sessions = m.sessions)
    (guestRoom : ∀ m, (f m).guestRoomId = m.guestRoomId) :
    Ensures w.inside P (poke f) fun _ => P := by
  intro h holds
  have before' := w.memory h (f h.toMemory) (before h holds) (sessions _) (guestRoom _)
  exact ⟨w.enter _ before', fun _ _ => store h _ holds before'⟩

theorem stampLastLogin (user : User) :
    Ensures w.inside (w.Login user) (Host.stampLastLogin user.id) fun _ => w.Login user :=
  (w.looks (fun h : BbsHost => h.store.now) fun _ holds => holds.1).bind fun now =>
    w.calls (.touchUser user.id none (some now))

/-- The flag as it is read is the flag as it is stored. -/
theorem mustChange (user : User) : Ensures w.inside (w.Login user)
    (db (failed "must_change lookup") (CredentialStore.mustChangePassword user.id))
    fun flag h => w.Login user h ∧ flag = flagged h.store.db user.id := by
  intro host login
  obtain ⟨inside, kept⟩ := w.calls (.mustChange user.id) host login
  refine ⟨inside, fun flag returned => ⟨kept flag returned, ?_⟩⟩
  obtain ⟨s, ran, -⟩ := db_eq_ok (Prod.ext returned rfl)
  obtain ⟨read, same⟩ := query_ok ran
  rw [db_ok ran, read, flagged]
  dsimp only
  rw [same]

/-- How a login sets the workflow that holds it back. -/
theorem holds (user : User) {hold : SessionId → (SessionRecord → SessionRecord) → HostM Unit}
    (how : hold = onKnownSession ∨ hold = onSession) :
    Ensures w.inside (w.Login user) (hold session fun r =>
      r.setWorkflow (.forceChangePassword user.username user.id .enterNew)) fun _ => w.inside := by
  have held : Ensures w.inside (w.Login user) (onSession session fun r =>
      r.setWorkflow (.forceChangePassword user.username user.id .enterNew)) fun _ => w.inside := by
    rintro h ⟨before, known⟩
    have inside := w.hold h user .enterNew before known
    exact ⟨inside, fun _ _ => inside⟩
  rcases how with rfl | rfl
  · apply (w.looks (fun h : BbsHost => h.sessions.get? session) fun _ login => login.1).bind
    intro found
    cases found with
    | none => exact .fail fun h login => w.enter h login.1
    | some r => exact held
  · exact held

theorem completeLogin {username : Username} {user : User} (named : user.username = username)
    {hold : SessionId → (SessionRecord → SessionRecord) → HostM Unit}
    (how : hold = onKnownSession ∨ hold = onSession) :
    Ensures w.inside (w.Login user) (Host.completeLogin session username user hold) w.gives := by
  have cleared : Ensures w.inside (w.Login user) (clearLoginFailures username.text)
      fun _ => w.Login user :=
    w.notes (fun _ login => login.1) (fun _ _ login before => ⟨before, login.2⟩) (fun _ => rfl)
      fun _ => rfl
  apply cleared.bind
  intro _
  apply (w.stampLastLogin user).bind
  intro _
  apply (w.mustChange user).bind
  intro mustChange
  cases mustChange with
  | true =>
      rw [← named]
      have held := (w.holds user how).bind fun _ =>
        w.reply (fun _ => id) (rfl : loggedInAs operatorReset = none)
      exact held.conseq (fun _ login => login.1) fun _ _ => id
  | false =>
      exact (w.login user).conseq (fun _ login => ⟨login.1.1, login.1.2, login.2.symm⟩) fun _ _ => id

/-! ## An account read anew -/

theorem findUser (username : Username) : Ensures w.inside w.before
    (db StoreError.display (UserStore.getByUsername username)) fun found h => w.before h ∧
      ∀ user, found = some user → w.Login user h ∧ user.username = username := by
  intro h before
  obtain ⟨inside, kept⟩ := w.waits (.findUser username) h before
  refine ⟨inside, fun found returned => ⟨kept found returned, fun user eq => ?_⟩⟩
  subst eq
  obtain ⟨same, stored, named⟩ := found_user (Prod.ext returned rfl)
  refine ⟨⟨kept _ returned, user.toUserRow, ?_, rfl, rfl⟩, named⟩
  rw [same]
  exact stored

theorem getUser {P : BbsHost → Prop} {describe : StoreError → String} (id : UserId)
    (before : ∀ h, P h → w.before h) :
    Ensures w.inside P (db describe (UserStore.getById id)) fun found h =>
      w.before h ∧ ∀ user, found = some user → w.Login user h ∧ user.id = id ∧
        ∃ h₀, P h₀ ∧ h.store.db = h₀.store.db := by
  intro h holds
  obtain ⟨inside, kept⟩ := w.waits (.getUser id) h (before h holds)
  refine ⟨inside, fun found returned => ⟨kept found returned, fun user eq => ?_⟩⟩
  subst eq
  obtain ⟨same, row, stored, rfl⟩ := found_id (Prod.ext returned rfl)
  refine ⟨⟨kept _ returned, row, ?_, rfl, rfl⟩, rfl, h, holds, same⟩
  rw [same]
  exact stored

theorem resolveSuspension (user : User) : Ensures w.inside (w.Login user)
    (Host.resolveSuspension user) fun check h => w.before h ∧ ∀ allowed, check = .allowed allowed →
      w.Login allowed h ∧ allowed.username = user.username := by
  have denied {check : LoginSuspensionCheck} (other : ∀ allowed, check ≠ .allowed allowed) :
      Ensures w.inside (w.Login user) (pure check : HostM LoginSuspensionCheck) fun check h =>
        w.before h ∧ ∀ allowed, check = .allowed allowed →
          w.Login allowed h ∧ allowed.username = user.username :=
    .ret fun h login => ⟨w.enter h login.1, login.1, fun allowed eq => absurd eq (other allowed)⟩
  unfold Host.resolveSuspension
  split
  · apply denied
    intro allowed eq
    cases eq
  · have lifted : Ensures w.inside (w.Login user) (do
        let now ← Host.now
        db StoreError.display (UserStore.endExpiredSuspension user.id now)) fun _ => w.Login user := by
      rintro h ⟨before, known⟩
      have after : w.Login user ((do
          let now ← Host.now
          db StoreError.display (UserStore.endExpiredSuspension user.id now)) h).2 := by
        refine ⟨w.stable.lifted user.id h before, ?_⟩
        obtain ⟨-, kept | wrote⟩ := endExpired_effect user.id h.store.now h.store
        · exact known_of_core known (congrArg (fun db => (db.users.get? user.id).map core) kept)
        · exact known_lifted known wrote
      exact ⟨w.enter _ after.1, fun _ _ => after⟩
    intro h login
    rw [Program.bind_apply, now_apply]
    dsimp only
    split
    · have ended := lifted h login
      rw [Program.bind_apply, now_apply] at ended
      dsimp only at ended
      rw [Program.bind_apply]
      rcases ran : db StoreError.display (UserStore.endExpiredSuspension user.id h.store.now) h with
        ⟨r, h'⟩
      rw [ran] at ended
      rcases r with e | ended_
      · refine ⟨ended.1, fun check eq => ?_⟩
        cases eq
      · have login' : w.Login user h' := ended.2 ended_ rfl
        dsimp only
        split
        · refine ⟨ended.1, fun check eq => ⟨login'.1, fun allowed same => ?_⟩⟩
          cases eq
          cases same
          exact ⟨login', rfl⟩
        · have again : Ensures w.inside (w.Login user) (do
              let fresh ← db StoreError.display (UserStore.getById user.id)
              pure (standing h.store.now fresh)) fun check h => w.before h ∧
                ∀ allowed, check = .allowed allowed →
                  w.Login allowed h ∧ allowed.username = user.username := by
            apply (w.getUser user.id fun _ login => login.1).bind
            intro fresh
            refine Ensures.ret fun h read => ⟨w.enter h read.1, read.1, fun allowed same => ?_⟩
            obtain ⟨login, id, h₀, ⟨-, row, stored, name, -⟩, db⟩ :=
              read.2 allowed (standing_allowed same)
            obtain ⟨row', stored', name', -⟩ := login.2
            rw [id, db, stored] at stored'
            cases stored'
            exact ⟨login, name'.symm.trans name⟩
          exact again h' login'
    · apply denied
      · intro allowed eq
        cases eq
      · exact login

/-! ## The paths -/

theorem admitOneshot {username : Username} {user : User} (named : user.username = username) :
    Ensures w.inside (w.Login user) (Host.admitOneshot session username user) w.gives := by
  unfold Host.admitOneshot
  split
  · apply (w.resolveSuspension user).bind
    intro check
    cases check with
    | allowed user' =>
        intro h read
        obtain ⟨login, same⟩ := read.2 user' rfl
        exact w.completeLogin (same.trans named) (.inl rfl) h login
    | suspended days => exact w.refuse (fun _ read => read.1) rfl
    | permanentlyBanned => exact w.refuse (fun _ read => read.1) rfl
  · exact w.completeLogin named (.inl rfl)

theorem admitLogin {username : Username} {user : User} (named : user.username = username) :
    Ensures w.inside (w.Login user) (Host.admitLogin session username user) w.gives := by
  unfold Host.admitLogin
  split
  · apply (w.resolveSuspension user).bind
    intro check
    cases check with
    | allowed user' =>
        intro h read
        obtain ⟨login, same⟩ := read.2 user' rfl
        exact w.completeLogin (same.trans named) (.inr rfl) h login
    | suspended days => exact w.refuse_after (trivial : Harmless .none) (fun _ read => read.1) rfl
    | permanentlyBanned =>
        exact w.refuse_after (trivial : Harmless .none) (fun _ read => read.1) rfl
  · exact w.completeLogin named (.inr rfl)

theorem failure (username : String) : Ensures w.inside w.before (recordLoginFailure username)
    fun _ => w.before := by
  apply (w.looks (fun h : BbsHost => countFailure h.loginFailures h.clock username)
    fun _ => id).bind
  intro failures
  have noted : Ensures w.inside w.before (poke fun m => m.recordFailure username)
      fun _ => w.before :=
    w.notes (fun _ => id) (fun _ _ _ before => before) (fun _ => rfl) fun _ => rfl
  exact noted.bind fun _ => .ret fun h before => ⟨w.enter h before, before⟩

theorem loginNow (username : Username) (password : String) :
    Ensures w.inside w.before (Host.loginNow session username password) w.gives := by
  apply (w.looks (fun h : BbsHost => throttled h.loginFailures h.clock username.text)
    fun _ => id).bind
  intro wait
  cases wait with
  | some wait => exact w.refuse (fun _ => id) rfl
  | none =>
      apply (w.findUser username).bind
      intro found
      split
      · exact w.refuse (fun _ read => read.1) rfl
      · next user may =>
        have known : found = some user := (Option.filter_eq_some_iff.mp may).1
        intro h read
        obtain ⟨login, named⟩ := read.2 user known
        have rest : Ensures w.inside (w.Login user) (do
            let now ← Host.now
            let ok ← db (failed "verify password")
              (CredentialStore.verifyPassword user.id password now)
            if ok then Host.admitOneshot session username user
            else do
              let _ ← recordLoginFailure username.text
              pure loginFailed) w.gives := by
          apply (w.looks (fun h : BbsHost => h.store.now) fun _ login => login.1).bind
          intro now
          apply (w.calls (.verifyPassword user.id password now)).bind
          intro ok
          split
          · exact w.admitOneshot named
          · apply ((w.failure username.text).conseq (fun _ login => login.1) fun _ _ => id).bind
            exact fun _ => w.refuse (fun _ => id) rfl
        exact rest h login

theorem busy_refuses {r : SessionRecord} {refusal : Response} (h : busy r = some refusal) :
    loggedInAs refusal = none := by
  unfold busy at h
  split at h
  · cases h
    rfl
  · split at h
    · cases h
      rfl
    · cases h

theorem handleLoginOneshot (username : Username) (password : String) :
    Ensures w.inside w.before (Host.handleLoginOneshot session username password) w.gives := by
  apply (w.looks (fun h : BbsHost => h.sessions.get? session) fun _ => id).bind
  intro found
  cases found with
  | none => exact .fail w.enter
  | some r =>
      dsimp only
      split
      · next refusal refused => exact w.refuse (fun _ => id) (busy_refuses refused)
      · exact w.loginNow username password

theorem loginReply (username : Username) (attempts : Nat) (answer : String) :
    Ensures w.inside w.before (Host.loginReply session username attempts answer) w.gives := by
  apply (w.findUser username).bind
  intro found
  cases found with
  | none => exact w.refuse_after (trivial : Harmless .none) (fun _ read => read.1) rfl
  | some user =>
      intro h read
      obtain ⟨login, named⟩ := read.2 user rfl
      have rest : Ensures w.inside (w.Login user) (do
          let now ← Host.now
          let ok ← db (failed "verify password") (CredentialStore.verifyPassword user.id answer now)
          if ok then Host.admitLogin session username user
          else wrongPassword session username attempts) w.gives := by
        apply (w.looks (fun h : BbsHost => h.store.now) fun _ login => login.1).bind
        intro now
        apply (w.calls (.verifyPassword user.id answer now)).bind
        intro ok
        split
        · exact w.admitLogin named
        · apply ((w.failure username.text).conseq (fun _ login => login.1) fun _ _ => id).bind
          intro _
          split
          · exact w.refuse_after (trivial : Harmless .none) (fun _ => id) rfl
          · exact w.refuse_after (trivial : Harmless (.login username (attempts + 1)))
              (fun _ => id) rfl
      exact rest h login

theorem registerNow (rawUsername password : String) :
    Ensures w.inside w.before (Host.registerNow session rawUsername password) w.gives := by
  unfold Host.registerNow
  split
  · exact w.refuse (fun _ => id) rfl
  · split
    · exact w.refuse (fun _ => id) rfl
    · next username _ _ =>
      apply (w.waits (.findUser username)).bind
      intro existing
      split
      · exact w.refuse (fun _ => id) rfl
      · exact w.create _ _

theorem handleRegisterOneshot (rawUsername password : String) :
    Ensures w.inside w.before (Host.handleRegisterOneshot session rawUsername password)
      w.gives := by
  apply (w.looks (fun h : BbsHost => h.sessions.get? session) fun _ => id).bind
  intro found
  cases found with
  | none => exact .fail w.enter
  | some r =>
      dsimp only
      split
      · next refusal refused => exact w.refuse (fun _ => id) (busy_refuses refused)
      · exact w.registerNow rawUsername password

theorem registerConfirm (username : Username) (password answer : String) :
    Ensures w.inside w.before (Host.registerConfirm session username password answer) w.gives := by
  unfold Host.registerConfirm
  split
  · exact w.refuse_after (trivial : Harmless (.register username .password)) (fun _ => id) rfl
  · exact w.create username password

end LoginWalk
end SupplyDrop.Proof
