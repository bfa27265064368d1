import Mathlib
import SupplyDrop.Library.Run
import SupplyDrop.Host.System
import SupplyDrop.Proof.LoginWalk
import SupplyDrop.Proof.Conduct.Asked
import SupplyDrop.Proof.Conduct.Effects

namespace SupplyDrop.Proof.ForcedChange
open Library Library.Program Store Host

def holder (h : BbsHost) (session : SessionId) : Option UserId :=
  (h.sessions.get? session).bind (·.userId)

def BecomesBound (h h' : BbsHost) (session : SessionId) (id : UserId) : Prop :=
  holder h' session = some id ∧ holder h session ≠ some id

/-- The session repeats the new password that its account was told to choose. -/
def Completes (h : BbsHost) (input : Input) (session : SessionId) (id : UserId) : Prop :=
  ∃ r username newPassword, input = .command session (.workflowReply newPassword) ∧
    h.sessions.get? session = some r ∧
    r.workflow = .forceChangePassword username id (.confirmNew newPassword)

/-! ## What every step keeps -/

/-- Names are unique, only accounts have credentials, and a login is held back for the account it
names. -/
structure Sound (h : BbsHost) : Prop where
  names : ∀ id id' row row', h.store.db.users.get? id = some row →
    h.store.db.users.get? id' = some row' → row.username = row'.username → id = id'
  credentials : ∀ id, (h.store.db.userCredentials id).isSome → id ≤ h.store.db.users.seq
  held : ∀ session r username id stage, h.sessions.get? session = some r →
    r.workflow = .forceChangePassword username id stage →
    ∃ row, h.store.db.users.get? id = some row ∧ row.username = username

namespace Sound
variable {h : BbsHost} {s : Storage} {m : Memory}

/-- Accounts keep their names, and none is added. -/
theorem store (sound : Sound h) (seq : s.db.users.seq = h.store.db.users.seq)
    (users : ∀ id, (s.db.users.get? id).map (·.username) =
      (h.store.db.users.get? id).map (·.username))
    (credentials : ∀ id, (s.db.userCredentials id).isSome →
      (h.store.db.userCredentials id).isSome ∨ (h.store.db.users.get? id).isSome) :
    Sound { h with store := s } := by
  have before {id : UserId} {row : UserRow} (stored : s.db.users.get? id = some row) :
      ∃ row₀, h.store.db.users.get? id = some row₀ ∧ row₀.username = row.username := by
    have same := users id
    rw [stored] at same
    exact Option.map_eq_some_iff.mp same.symm
  constructor
  · intro id id' row row' stored stored' same
    obtain ⟨row₀, there, name⟩ := before stored
    obtain ⟨row₀', there', name'⟩ := before stored'
    exact sound.names id id' row₀ row₀' there there' (name.trans (same.trans name'.symm))
  · intro id known
    show id ≤ s.db.users.seq
    rw [seq]
    rcases credentials id known with old | account
    · exact sound.credentials id old
    · obtain ⟨row, stored⟩ := Option.isSome_iff_exists.mp account
      exact RowTable.le_seq stored
  · intro session r username id stage found forced
    obtain ⟨row₀, there, name⟩ := sound.held session r username id stage found forced
    have same := users id
    rw [there] at same
    obtain ⟨row, stored, eq⟩ := Option.map_eq_some_iff.mp same
    exact ⟨row, stored, eq.trans name⟩

theorem elsewhere (sound : Sound h) (users : s.db.users = h.store.db.users)
    (credentials : s.db.userCredentials = h.store.db.userCredentials) :
    Sound { h with store := s } := by
  apply sound.store
  · rw [users]
  · intro id
    rw [users]
  · intro id known
    rw [credentials] at known
    exact .inl known

theorem renamed (sound : Sound h) {id : UserId} {f : UserRow → UserRow}
    (wrote : s.db = { h.store.db with users := h.store.db.users.update id f })
    (same : ∀ r, (f r).username = r.username) : Sound { h with store := s } := by
  apply sound.store
  · rw [wrote]
    rfl
  · intro i
    rw [wrote, RowTable.get?_update]
    split
    · rw [Option.map_map]
      exact congrArg (Option.map · _) (funext same)
    · rfl
  · intro i known
    rw [wrote] at known
    exact .inl known

theorem sessions (sound : Sound h)
    (each : ∀ session r username id stage, m.sessions.get? session = some r →
      r.workflow = .forceChangePassword username id stage →
      ∃ r₀ stage, h.sessions.get? session = some r₀ ∧
        r₀.workflow = .forceChangePassword username id stage) :
    Sound { h with toMemory := m } where
  names := sound.names
  credentials := sound.credentials
  held session r username id stage found forced := by
    obtain ⟨r₀, stage₀, before, forced₀⟩ := each session r username id stage found forced
    exact sound.held session r₀ username id stage₀ before forced₀

theorem quiet (sound : Sound h) (quiet : Quiet h.toMemory m) : Sound { h with toMemory := m } := by
  apply sound.sessions
  intro session r' username id stage found forced
  rcases quiet.sessions session r' found with ⟨r, before, plain⟩ | ⟨transport, rfl⟩
  · rcases plain.workflow with same | harmless
    · exact ⟨r, stage, before, same.symm.trans forced⟩
    · rw [forced] at harmless
      exact harmless.elim
  · cases forced

/-- A change of a session to a workflow that holds nobody back. -/
theorem update (sound : Sound h) {session : SessionId} {f : SessionRecord → SessionRecord}
    (each : ∀ r username id stage, (f r).workflow = .forceChangePassword username id stage →
      r.workflow = .forceChangePassword username id stage) :
    Sound { h with toMemory := h.toMemory.update session f } := by
  apply sound.sessions
  intro i r' username id stage found forced
  unfold Memory.update at found
  rw [RowTable.get?_update] at found
  split at found
  · obtain ⟨r, before, rfl⟩ := Option.map_eq_some_iff.mp found
    exact ⟨r, stage, before, each r username id stage forced⟩
  · exact ⟨r', stage, found, forced⟩

/-- A login is held back for an account that is there. -/
theorem hold (sound : Sound h) {session : SessionId} {username : Username} {id : UserId}
    {stage : ForcePwdStage} {row : UserRow} (stored : h.store.db.users.get? id = some row)
    (named : row.username = username) :
    Sound (setWorkflow session (.forceChangePassword username id stage) h).2 where
  names := sound.names
  credentials := sound.credentials
  held i r' username' id' stage' found forced := by
    change (h.toMemory.update session _).sessions.get? i = some r' at found
    unfold Memory.update at found
    rw [RowTable.get?_update] at found
    split at found
    · obtain ⟨r, -, rfl⟩ := Option.map_eq_some_iff.mp found
      cases forced
      exact ⟨row, stored, named⟩
    · exact sound.held i r' username' id' stage' found forced

/-- A new account has a name of its own. -/
theorem enrol (sound : Sound h) {row : UserRow}
    (free : ∀ id r, h.store.db.users.get? id = some r → r.username ≠ row.username)
    (wrote : s.db = { h.store.db with users := h.store.db.users.insert row }) :
    Sound { h with store := s } := by
  have there (id : UserId) : s.db.users.get? id =
      if id = h.store.db.users.seq + 1 then some row else h.store.db.users.get? id := by
    rw [wrote, RowTable.get?_insert]
  constructor
  · intro id id' r r' stored stored' same
    dsimp only at stored stored'
    rw [there] at stored stored'
    split at stored <;> split at stored'
    · next new new' => rw [new, new']
    · cases stored
      exact absurd same.symm (free id' r' stored')
    · cases stored'
      exact absurd same (free id r stored)
    · exact sound.names id id' r r' stored stored' same
  · intro id known
    rw [wrote] at known ⊢
    have before := sound.credentials id known
    exact before.trans (Int.le_add_one (le_refl _))
  · intro session r username id stage found forced
    obtain ⟨row', stored, name⟩ := sound.held session r username id stage found forced
    refine ⟨row', ?_, name⟩
    dsimp only
    rw [there, if_neg ?_]
    · exact stored
    · rintro rfl
      rw [RowTable.get?_fresh] at stored
      cases stored

theorem effect (sound : Sound h) {p : Power} (effect : Effect h.store.db p s.db) :
    Sound { h with store := s } := by
  generalize wrote : s.db = db at effect
  cases effect with
  | enrolled free => exact sound.enrol free wrote
  | stood same => exact sound.renamed wrote fun r => (same r).1
  | graded => exact sound.renamed wrote fun _ => rfl
  | @reset id c known =>
      apply sound.store
      · rw [wrote]
      · intro i
        rw [wrote]
      · intro i there
        rw [wrote] at there
        dsimp only at there
        split at there
        · next same =>
          rw [same]
          exact known
        · exact .inl there
  | @pardoned id =>
      apply sound.store
      · rw [wrote]
      · intro i
        rw [wrote]
      · intro i there
        rw [wrote] at there
        dsimp only at there
        split at there
        · exact .inl (by simpa using there)
        · exact .inl there
  | erased => exact sound.elsewhere (congrArg (·.users) wrote) (congrArg (·.userCredentials) wrote)
  | kept | notified | opened | edited | razed | posted | mailed =>
      exact sound.elsewhere (by rw [wrote]) (by rw [wrote])

end Sound

theorem sound_invariant : Invariant Sound (· ≠ .hold) where
  aside h s sound aside _ := by
    apply sound.store aside.seq ?_ aside.known
    intro id
    have same := congrArg (Option.map (·.1)) (aside.users id)
    rw [Option.map_map, Option.map_map] at same
    exact same
  lift h s id sound _ wrote := by
    exact sound.renamed wrote (reactivate_username h.store.now)
  quiet h m sound quiet := sound.quiet quiet
  powered powered _ h sound := sound.effect (powered_effect powered h.store)
  patch id status level _ _ h sound := by
    obtain ⟨-, kept | wrote⟩ := update_fields id status level h.store
    · exact sound.elsewhere (by rw [kept]) (by rw [kept])
    · exact sound.renamed wrote fun _ => rfl
  bind _ h session username userId level room sound := by
    apply sound.update
    intro r username id stage forced
    cases forced
  hold free := absurd rfl free
  guest _ h roomId sound := ⟨sound.names, sound.credentials, sound.held⟩
  move _ h session roomId sound := by
    apply sound.update
    intro r username id stage forced
    unfold SessionRecord.moveTo at forced
    split at forced
    · cases forced
    · exact forced
  draft _ h session roomId stage sound := by
    apply sound.update
    intro r username id stage forced
    cases forced
  conclude _ h session outcome sound := by
    apply sound.update
    intro r username id stage forced
    cases forced

/-! ## What a step may bind -/

theorem holders_invariant (Q : SessionId → UserId → Prop) :
    Invariant (fun h => ∀ session id, holder h session = some id → Q session id) (· ≠ .bind) := by
  have same {h : BbsHost} {session : SessionId} {f : SessionRecord → SessionRecord}
      (held : ∀ session id, holder h session = some id → Q session id)
      (user : ∀ r, (f r).userId = r.userId) (i : SessionId) (id : UserId)
      (bound : holder { h with toMemory := h.toMemory.update session f } i = some id) : Q i id := by
    apply held
    unfold holder Memory.update at bound
    dsimp only at bound
    rw [RowTable.get?_update] at bound
    split at bound
    · rw [← bound]
      unfold holder
      cases h.sessions.get? i with
      | none => rfl
      | some r => exact (user r).symm
    · exact bound
  exact {
    aside := fun _ _ held _ _ => held
    lift := fun _ _ _ held _ _ => held
    quiet := by
      intro h m held quiet session id bound
      obtain ⟨r', found, user⟩ := Option.bind_eq_some_iff.mp bound
      rcases quiet.sessions session r' found with ⟨r, before, plain⟩ | ⟨transport, rfl⟩
      · apply held
        rw [plain.userId] at user
        exact Option.bind_eq_some_iff.mpr ⟨r, before, user⟩
      · cases user
    powered := fun _ _ _ held => held
    patch := fun _ _ _ _ _ _ held => held
    bind := fun free => absurd rfl free
    hold := fun _ h session username userId stage held => same held fun _ => rfl
    guest := fun _ _ _ held => held
    move := by
      intro _ h session roomId held
      apply same held
      intro r
      unfold SessionRecord.moveTo
      split <;> rfl
    draft := fun _ h session roomId stage held => same held fun _ => rfl
    conclude := fun _ h session outcome held => same held fun _ => rfl }

theorem flags_stable (flags : UserId → Bool) :
    Stable fun h => ∀ id, flagged h.store.db id = flags id where
  aside h s same aside _ := fun id => (aside.flags id).trans (same id)
  lift h s i same _ wrote := by
    intro id
    unfold flagged
    dsimp only
    rw [wrote]
    exact same id

section Step
variable (h₀ : BbsHost) (input : Input)

/-- Whom a session may be bound to by the step. -/
def Bindable (session : SessionId) (id : UserId) : Prop :=
  holder h₀ session = some id ∨ flagged h₀.store.db id = false ∨ Completes h₀ input session id

def Guarded (h : BbsHost) : Prop :=
  Sound h ∧ ∀ session id, holder h session = some id → Bindable h₀ input session id

/-- Nothing of the step has touched a flag yet. -/
def Early (h : BbsHost) : Prop :=
  Guarded h₀ input h ∧ ∀ id, flagged h.store.db id = flagged h₀.store.db id

def has (p : Power) : Prop := p ≠ .bind ∧ p ≠ .hold

theorem guarded_invariant : Invariant (Guarded h₀ input) has :=
  (sound_invariant.mono fun _ free => free.2).and
    ((holders_invariant (Bindable h₀ input)).mono fun _ free => free.1)

theorem early_stable : Stable (Early h₀ input) :=
  (guarded_invariant h₀ input).toStable.and (flags_stable (flagged h₀.store.db))

/-- Handlers that hold no login back and bind no session. -/
abbrev guarding : Conduct := (guarded_invariant h₀ input).conduct

end Step

section Handlers
variable {h₀ : BbsHost} {input : Input} {session : SessionId}

theorem guarding_iff {α : Type} {m : HostM α} :
    (guarding h₀ input).holds m ↔ Keeps (Guarded h₀ input) m := Discipline.keeping_iff

theorem hold_guarded {h : BbsHost} {username : Username} {id : UserId} {stage : ForcePwdStage}
    {row : UserRow} (guarded : Guarded h₀ input h) (stored : h.store.db.users.get? id = some row)
    (named : row.username = username) :
    Guarded h₀ input (setWorkflow session (.forceChangePassword username id stage) h).2 :=
  ⟨guarded.1.hold stored named,
    (holders_invariant _).hold (by decide) h session username id stage guarded.2⟩

/-- A session is bound to one it may be bound to. -/
theorem bind_guarded {h : BbsHost} {username : Username} {id : UserId} {level : PermissionLevel}
    {room : RoomId} (guarded : Guarded h₀ input h) (bindable : Bindable h₀ input session id) :
    Guarded h₀ input (onSession session (fun r => r.bindTo username id level room) h).2 := by
  refine ⟨sound_invariant.bind (by decide) h session username id level room guarded.1, ?_⟩
  intro i id' bound
  change ((h.toMemory.update session _).sessions.get? i).bind (·.userId) = some id' at bound
  unfold Memory.update at bound
  rw [RowTable.get?_update] at bound
  split at bound
  · next same =>
    obtain ⟨r, found, user⟩ := Option.bind_eq_some_iff.mp bound
    obtain ⟨r, -, rfl⟩ := Option.map_eq_some_iff.mp found
    cases user
    rw [same]
    exact bindable
  · exact guarded.2 i id' bound

theorem update_absent {h : BbsHost} {f : SessionRecord → SessionRecord}
    (guarded : Guarded h₀ input h) (absent : h.sessions.get? session = none) :
    Guarded h₀ input (onSession session f h).2 := by
  apply (guarded_invariant h₀ input).quiet h _ guarded
  refine ⟨rfl, le_refl _, fun i r found => .inl ⟨r, ?_, .refl r⟩⟩
  unfold Memory.update at found
  rw [RowTable.get?_update] at found
  split at found
  · next same =>
    rw [same, absent] at found
    cases found
  · exact found

/-- The binding that a login ends with, and what follows it. -/
theorem binds {P : BbsHost → Prop} {level : PermissionLevel} {username : Username} {id : UserId}
    {rest : HostM Response} (guarded : ∀ h, P h → Guarded h₀ input h)
    (bindable : ∀ h, P h → Bindable h₀ input session id) (after : (guarding h₀ input).holds rest) :
    Ensures (Guarded h₀ input) P (do
      let room ← initialRoom level
      onKnownSession session fun r => r.bindTo username id level room
      rest) fun _ _ => True := by
  apply Ensures.bind (Q := fun _ => P) (.gets fun h holds => ⟨guarded h holds, holds⟩)
  intro room
  have bound : Ensures (Guarded h₀ input) P
      (onKnownSession session fun r => r.bindTo username id level room)
      fun _ => Guarded h₀ input := by
    apply Ensures.bind (Q := fun _ => P) (.gets fun h holds => ⟨guarded h holds, holds⟩)
    intro found
    cases found with
    | none => exact .fail guarded
    | some r =>
        intro h holds
        have bound : Guarded h₀ input
            (onSession session (fun r => r.bindTo username id level room) h).2 :=
          bind_guarded (guarded h holds) (bindable h holds)
        exact ⟨bound, fun _ _ => bound⟩
  apply bound.bind
  intro _
  exact (Ensures.ofKeeps (guarding_iff.mp after)).conseq (fun _ holds => holds) fun _ _ _ => trivial

theorem finalizeLogin_guarded {P : BbsHost → Prop} (user : User)
    (guarded : ∀ h, P h → Guarded h₀ input h)
    (bindable : ∀ h, P h → Bindable h₀ input session user.id) :
    Ensures (Guarded h₀ input) P (finalizeLogin session user) fun _ _ => True :=
  binds guarded bindable
    ((guarding h₀ input).seq ((guarding h₀ input).emit trivial) fun _ => (guarding h₀ input).reply _)

/-- An account that was just made has no password yet, let alone one to be changed. -/
theorem create_bindable (username : Username) (level : PermissionLevel) (now : Timestamp) :
    Ensures (Guarded h₀ input) (Early h₀ input) (tryDb (UserStore.create username none level now))
      fun created h => Guarded h₀ input h ∧ ∀ id, created = .ok id → Bindable h₀ input session id := by
  rintro h ⟨guarded, flags⟩
  have kept := guarding_iff.mp ((guarding h₀ input).tryUse
    (.createUser username none level now) ⟨by decide, by decide⟩) h guarded
  refine ⟨kept, fun created returned => ⟨kept, fun id eq => ?_⟩⟩
  rcases made : UserStore.create username none level now h.store with ⟨result, s⟩
  rw [tryDb_of made] at returned
  cases returned
  rw [eq] at made
  obtain ⟨-, new, -⟩ := insertRow_ok made
  have unknown : h.store.db.userCredentials id = none := by
    by_contra known
    have old := guarded.1.credentials id (Option.isSome_iff_ne_none.mpr known)
    rw [new] at old
    exact absurd old (by simp)
  refine .inr (.inl ?_)
  rw [← flags, flagged, unknown]
  rfl

theorem createUserAndLogin_guarded (username : Username) (password : String) :
    Ensures (Guarded h₀ input) (Early h₀ input) (createUserAndLogin session username password)
      fun _ _ => True := by
  have calls {α : Type} {describe : StoreError → String} {m : StoreM α} (ordinary : Ordinary m) :
      Ensures (Guarded h₀ input) (Early h₀ input) (db describe m) fun _ => Early h₀ input := by
    intro h early
    have kept := (early_stable h₀ input).ordinary ordinary h early
    exact ⟨kept.1, fun _ _ => kept⟩
  have keeps {m : HostM Response} (holds : (guarding h₀ input).holds m) :
      Ensures (Guarded h₀ input) (Guarded h₀ input) m fun _ _ => True :=
    (Ensures.ofKeeps (guarding_iff.mp holds)).conseq (fun _ => id) fun _ _ _ => trivial
  apply Ensures.bind (Q := fun _ => Early h₀ input) (.gets fun h early => ⟨early.1, early⟩)
  intro now
  apply (calls (.listUsers none 1 0)).bind
  intro someone
  dsimp only
  generalize (if someone.isEmpty then PermissionLevel.sysop else .unvalidated) = level
  apply (create_bindable username level now).bind
  intro created
  split
  · refine (keeps ?_).conseq (fun _ holds => holds.1) fun _ _ => id
    exact (guarding h₀ input).seq ((guarding h₀ input).clearWorkflow session) fun _ =>
      (guarding h₀ input).reply _
  · exact .fail fun _ holds => holds.1
  · next userId =>
    have stored : Ensures (Guarded h₀ input)
        (fun h => Guarded h₀ input h ∧ Bindable h₀ input session userId)
        (db (failed "set password") (CredentialStore.setPassword userId password now))
        fun _ h => Guarded h₀ input h ∧ Bindable h₀ input session userId := by
      rintro h ⟨guarded, bindable⟩
      have kept := (guarded_invariant h₀ input).toStable.ordinary
        (.setPassword userId password now) h guarded
      exact ⟨kept, fun _ _ => ⟨kept, bindable⟩⟩
    have greeting : (guarding h₀ input).holds (do
        emit (.userCreated username)
        if someone.isEmpty then pure (.loggedIn username)
        else do
          notifySysops username
          pure (.loggedIn username) : HostM Response) := by
      have passing : Passing (.userCreated username) := trivial
      apply (guarding h₀ input).seq ((guarding h₀ input).emit passing)
      intro _
      apply (guarding h₀ input).ite
      · exact fun _ => (guarding h₀ input).reply _
      · intro _
        have notified := (guarding h₀ input).notifySysops ⟨by decide, by decide⟩ username
        exact (guarding h₀ input).seq notified fun _ => (guarding h₀ input).reply _
    refine (stored.bind fun _ => ?_).conseq (fun _ holds => ⟨holds.1, holds.2 userId rfl⟩)
      fun _ _ => id
    exact binds (fun _ holds => holds.1) (fun _ holds => holds.2) greeting

variable (h₀ input session) in
/-- A login binds the session to an account that need not change its password. -/
def walk : LoginWalk session where
  before := Early h₀ input
  inside := Guarded h₀ input
  gives _ _ := True
  stable := early_stable h₀ input
  enter _ early := early.1
  memory h m early sessions guestRoom :=
    ⟨(guarded_invariant h₀ input).quiet h m early.1 (.same sessions guestRoom), early.2⟩
  settle h workflow early harmless :=
    guarding_iff.mp ((guarding h₀ input).setWorkflow harmless session) h early.1
  refused _ _ _ _ := trivial
  hold h user stage early := by
    rintro ⟨row, stored, named, -⟩
    exact hold_guarded early.1 stored named
  login user := by
    apply finalizeLogin_guarded user
    · exact fun h holds => holds.1.1
    · rintro h ⟨early, -, free⟩
      exact .inr (.inl ((early.2 user.id).symm.trans free))
  create := createUserAndLogin_guarded

/-! ## The forced change itself -/

def HeldFor (h₀ : BbsHost) (input : Input) (username : Username) (id : UserId) (h : BbsHost) : Prop :=
  Guarded h₀ input h ∧ ∃ row, h.store.db.users.get? id = some row ∧ row.username = username

theorem heldFor_calls {α : Type} {username : Username} {id : UserId}
    {describe : StoreError → String} {m : StoreM α} (ordinary : Ordinary m) :
    Ensures (Guarded h₀ input) (HeldFor h₀ input username id) (db describe m)
      fun _ => HeldFor h₀ input username id := by
  rintro h ⟨guarded, row, stored, named⟩
  have guarded' := (guarded_invariant h₀ input).toStable.ordinary ordinary h guarded
  obtain ⟨⟨aside, -⟩, -⟩ := ordinary_mild ordinary h.store
  have same := aside.users id
  rw [stored] at same
  obtain ⟨row', stored', eq⟩ := Option.map_eq_some_iff.mp same
  have name : row'.username = row.username := congrArg (·.1) eq
  exact ⟨guarded', fun _ _ => ⟨guarded', row', stored', name.trans named⟩⟩

theorem heldFor_pardons {username : Username} {id : UserId} {describe : StoreError → String} :
    Ensures (Guarded h₀ input) (HeldFor h₀ input username id)
      (db describe (CredentialStore.clearMustChange id)) fun _ => HeldFor h₀ input username id := by
  rintro h ⟨guarded, row, stored, named⟩
  have guarded' := (guarded_invariant h₀ input).powered (.clearMustChange id)
    ⟨by decide, by decide⟩ h guarded
  have users : (CredentialStore.clearMustChange id h.store).2.db.users = h.store.db.users := by
    rcases (execute_effect _ h.store).2 with kept | wrote
    · exact congrArg (·.users) kept
    · exact congrArg (·.users) wrote
  refine ⟨guarded', fun _ _ => ⟨guarded', row, ?_, named⟩⟩
  show (CredentialStore.clearMustChange id h.store).2.db.users.get? id = some row
  rw [users]
  exact stored

/-- The login stays held back, with the response. -/
theorem holds_back (username : Username) (userId : UserId) (stage : ForcePwdStage)
    (response : Response) : Ensures (Guarded h₀ input) (HeldFor h₀ input username userId) (do
      setWorkflow session (.forceChangePassword username userId stage)
      pure response) fun _ _ => True := by
  have held : Ensures (Guarded h₀ input) (HeldFor h₀ input username userId)
      (setWorkflow session (.forceChangePassword username userId stage))
      fun _ => Guarded h₀ input := by
    rintro h ⟨guarded, row, stored, named⟩
    exact ⟨hold_guarded guarded stored named, fun _ _ => hold_guarded guarded stored named⟩
  exact held.bind fun _ => .ret fun _ guarded => ⟨guarded, trivial⟩

theorem forceConfirmNew_guarded {username : Username} {userId : UserId} {newPassword : String}
    (answer : String) (bindable : answer = newPassword → Bindable h₀ input session userId) :
    Ensures (Guarded h₀ input) (HeldFor h₀ input username userId)
      (forceConfirmNew session username userId newPassword answer) fun _ _ => True := by
  unfold forceConfirmNew
  split
  · exact holds_back username userId _ _
  · next same =>
    have bindable := bindable (not_not.mp same)
    apply Ensures.bind (Q := fun _ => HeldFor h₀ input username userId)
      (.gets fun h held => ⟨held.1, held⟩)
    intro now
    apply (heldFor_calls (.setPassword userId newPassword now)).bind
    intro _
    apply heldFor_pardons.bind
    intro _
    have found : Ensures (Guarded h₀ input) (HeldFor h₀ input username userId)
        (db StoreError.display (UserStore.getByUsername username)) fun found h =>
          Guarded h₀ input h ∧ ∀ user, found = some user → user.id = userId := by
      intro h held
      obtain ⟨guarded, kept⟩ := heldFor_calls (.findUser username) h held
      refine ⟨guarded, fun found returned => ⟨guarded, fun user eq => ?_⟩⟩
      subst eq
      obtain ⟨-, stored, named⟩ := found_user (Prod.ext returned rfl)
      obtain ⟨before, row, stored', named'⟩ := held
      exact before.1.names user.id userId _ row stored stored' (named.trans named'.symm)
    apply found.bind
    intro user
    cases user with
    | none =>
        have settled := guarding_iff.mp ((guarding h₀ input).clearWorkflow session)
        have cleared : Ensures (Guarded h₀ input) (Guarded h₀ input) (do
            clearWorkflow session
            pure (.error "Account no longer exists.") : HostM Response) fun _ _ => True :=
          (Ensures.ofKeeps settled).bind fun _ => .ret fun _ guarded => ⟨guarded, trivial⟩
        exact cleared.conseq (fun _ holds => holds.1) fun _ _ => id
    | some user =>
        apply finalizeLogin_guarded user (fun _ holds => holds.1)
        intro h holds
        rw [holds.2 user rfl]
        exact bindable

theorem forceChangeReply_guarded {username : Username} {userId : UserId} (stage : ForcePwdStage)
    (answer : String) (bindable : ∀ newPassword, stage = .confirmNew newPassword →
      answer = newPassword → Bindable h₀ input session userId) :
    Ensures (Guarded h₀ input) (HeldFor h₀ input username userId)
      (forceChangeReply session username userId stage answer) fun _ _ => True := by
  cases stage with
  | enterNew =>
      unfold forceChangeReply forceEnterNew
      dsimp only
      split
      · exact .ret fun _ held => ⟨held.1, trivial⟩
      · exact holds_back username userId _ _
  | confirmNew newPassword => exact forceConfirmNew_guarded answer (bindable newPassword rfl)

/-! ## The login that a node remembers -/

/-- The account that the node's stored login is of, if it may still be restored. -/
def Remembered (h : BbsHost) (pubkey : PublicKey) (ttlDays : Nat) (id : UserId) : Prop :=
  ∃ node row, h.store.db.nodeCredentials pubkey = some node ∧
    NodeCredentialStore.current node.lastAuth h.store.now ttlDays = true ∧ node.userId = id ∧
    h.store.db.users.get? id = some row ∧ row.status = .active

/-- A bound session is no other than before. -/
def Untouched (h₀ : BbsHost) (input : Input) (h : BbsHost) : Prop :=
  Guarded h₀ input h ∧ h.sessions = h₀.sessions

theorem untouched_calls {α : Type} {describe : StoreError → String} {m : StoreM α}
    (ordinary : Ordinary m) : Ensures (Guarded h₀ input) (Untouched h₀ input) (db describe m)
      fun _ => Untouched h₀ input := by
  intro h untouched
  have guarded := (guarded_invariant h₀ input).toStable.ordinary ordinary h untouched.1
  exact ⟨guarded, fun _ _ => ⟨guarded, untouched.2⟩⟩

theorem restores_guarded (user : User) (pubkey : PublicKey)
    (bindable : (h₀.sessions.get? session).isSome → Bindable h₀ input session user.id) :
    Ensures (Guarded h₀ input) (Untouched h₀ input) (do
      stampLastLogin user.id
      onSession session fun r => r.bindTo user.username user.id user.permissionLevel lobby
      let now ← Host.now
      db (failed "node_credential upsert") (NodeCredentialStore.upsert pubkey user.id now)
      pure (some user.username)) fun _ _ => True := by
  have stamped : Ensures (Guarded h₀ input) (Untouched h₀ input) (stampLastLogin user.id)
      fun _ => Untouched h₀ input := by
    apply Ensures.bind (Q := fun _ => Untouched h₀ input) (.gets fun _ holds => ⟨holds.1, holds⟩)
    exact fun now => untouched_calls (.touchUser user.id none (some now))
  apply stamped.bind
  intro _
  have bound : Ensures (Guarded h₀ input) (Untouched h₀ input)
      (onSession session fun r => r.bindTo user.username user.id user.permissionLevel lobby)
      fun _ => Guarded h₀ input := by
    rintro h ⟨guarded, same⟩
    have after : Guarded h₀ input (onSession session
        (fun r => r.bindTo user.username user.id user.permissionLevel lobby) h).2 := by
      cases found : h.sessions.get? session with
      | some r => exact bind_guarded guarded (bindable (by rw [← same, found]; rfl))
      | none => exact update_absent guarded found
    exact ⟨after, fun _ _ => after⟩
  apply bound.bind
  intro _
  have rest : (guarding h₀ input).holds (do
      let now ← Host.now
      db (failed "node_credential upsert") (NodeCredentialStore.upsert pubkey user.id now)
      pure (some user.username)) := by
    apply (guarding h₀ input).seq (guarding h₀ input).now
    intro now
    exact (guarding h₀ input).seq ((guarding h₀ input).call (.bindNode _ _ _)) fun _ =>
      (guarding h₀ input).reply _
  exact (Ensures.ofKeeps (guarding_iff.mp rest)).conseq (fun _ holds => holds) fun _ _ _ => trivial

theorem meshNodeRestore_guarded (pubkey : PublicKey) (ttlDays : Nat) (start : Guarded h₀ input h₀)
    (bindable : (h₀.sessions.get? session).isSome → ∀ id, Remembered h₀ pubkey ttlDays id →
      Bindable h₀ input session id) :
    Guarded h₀ input (meshNodeRestore session pubkey ttlDays h₀).2 := by
  have looked : Ensures (Guarded h₀ input) (fun h => h = h₀)
      (db (failed "node_credential lookup") (NodeCredentialStore.lookup pubkey ttlDays))
      fun bound h => (Untouched h₀ input h ∧ h.store.db = h₀.store.db) ∧ ∀ id, bound = some id →
        ∃ node, h₀.store.db.nodeCredentials pubkey = some node ∧
          NodeCredentialStore.current node.lastAuth h₀.store.now ttlDays = true ∧ node.userId = id := by
    rintro h rfl
    obtain ⟨guarded, kept⟩ := untouched_calls (.lookupNode pubkey ttlDays) h ⟨start, rfl⟩
    refine ⟨guarded, fun bound returned => ⟨⟨kept bound returned, ?_⟩, ?_⟩⟩
    · exact (Reads.lookupNode pubkey ttlDays h.store).1
    · rintro id rfl
      exact (found_node (Prod.ext returned rfl)).2
  have whole : Ensures (Guarded h₀ input) (fun h => h = h₀)
      (meshNodeRestore session pubkey ttlDays) fun _ _ => True := by
    apply looked.bind
    intro bound
    cases bound with
    | none => exact .ret fun _ holds => ⟨holds.1.1.1, trivial⟩
    | some userId =>
        have read : Ensures (Guarded h₀ input)
            (fun h => Untouched h₀ input h ∧ h.store.db = h₀.store.db)
            (db (failed "get user by id") (UserStore.getById userId)) fun user h =>
              Untouched h₀ input h ∧ ∀ u, user = some u →
                ∃ row, h₀.store.db.users.get? userId = some row ∧ u = account userId row := by
          rintro h ⟨untouched, same⟩
          obtain ⟨guarded, kept⟩ := untouched_calls (.getUser userId) h untouched
          refine ⟨guarded, fun user returned => ⟨kept user returned, ?_⟩⟩
          rintro u rfl
          rw [← same]
          exact (found_id (Prod.ext returned rfl)).2
        intro h holds
        obtain ⟨node, known, current, id_⟩ := holds.2 userId rfl
        refine read.bind (R := fun _ _ => True) ?_ h holds.1
        intro user
        split
        · exact .ret fun _ holds => ⟨holds.1.1, trivial⟩
        · next user' active =>
          obtain ⟨found, status⟩ := Option.filter_eq_some_iff.mp active
          rintro h ⟨untouched, stored⟩
          obtain ⟨row, there, rfl⟩ := stored user' found
          refine restores_guarded _ pubkey (fun there_ => ?_) h untouched
          exact bindable there_ userId
            ⟨node, row, known, current, id_, there, of_decide_eq_true status⟩
  exact (whole h₀ rfl).1

/-! ## Commands -/

/-- The command finds the flags as the step did, and the session in the workflow it was in or in
none. -/
structure Starting (h₀ : BbsHost) (session : SessionId) (h : BbsHost) : Prop where
  flags : ∀ id, flagged h.store.db id = flagged h₀.store.db id
  workflow : ∀ r, h.sessions.get? session = some r → r.workflow = .none ∨
    ∃ r₀, h₀.sessions.get? session = some r₀ ∧ r₀.workflow = r.workflow

theorem lasting_starting : Lasting fun h => Guarded h₀ input h ∧ Starting h₀ session h where
  aside h s holds aside later :=
    ⟨(guarded_invariant h₀ input).aside h s holds.1 aside later,
      (flags_stable _).aside h s holds.2.flags aside later, holds.2.workflow⟩
  lift h s id holds later wrote :=
    ⟨(guarded_invariant h₀ input).lift h s id holds.1 later wrote,
      (flags_stable _).lift h s id holds.2.flags later wrote, holds.2.workflow⟩
  ready h m holds ready := by
    refine ⟨(guarded_invariant h₀ input).quiet h m holds.1 ready.quiet, holds.2.flags, ?_⟩
    intro r' found
    obtain ⟨r, before, subdued⟩ := ready.sessions session r' found
    rcases subdued.workflow with same | none_
    · rw [same]
      exact holds.2.workflow r before
    · exact .inl none_

theorem restartAuth_guarded (escape : AuthEscape) (h : BbsHost) (early : Early h₀ input h) :
    Guarded h₀ input (restartAuth session escape h).2 := by
  have cleared : Ensures (Guarded h₀ input) (Early h₀ input) (clearWorkflow session)
      fun _ => Early h₀ input := by
    intro h early
    have guarded := guarding_iff.mp ((guarding h₀ input).clearWorkflow session) h early.1
    exact ⟨guarded, fun _ _ => ⟨guarded, early.2⟩⟩
  have keeps {m : HostM Response} (holds : (guarding h₀ input).holds m) :
      Ensures (Guarded h₀ input) (Early h₀ input) m fun _ _ => True :=
    (Ensures.ofKeeps (guarding_iff.mp holds)).conseq (fun _ early => early.1) fun _ _ _ => trivial
  have whole : Ensures (Guarded h₀ input) (Early h₀ input) (restartAuth session escape)
      fun _ _ => True := by
    apply cleared.bind
    intro _
    cases escape with
    | register username password =>
        cases password with
        | none => exact keeps ((guarding h₀ input).handleRegister session username)
        | some password => exact (walk h₀ input session).handleRegisterOneshot username password
    | login username password =>
        cases password with
        | none => exact keeps ((guarding h₀ input).handleLogin session username)
        | some password => exact (walk h₀ input session).handleLoginOneshot username password
  exact (whole h early).1

theorem dispatch_guarded {onReply : SessionId → String → HostM Response} (cmd : Command)
    (h : BbsHost) (fresh : ∀ text, cmd ≠ .workflowReply text) (early : Early h₀ input h) :
    Guarded h₀ input (dispatch onReply session cmd h).2 := by
  have other (ordinary : ∀ p ∈ Conduct.takes cmd, has p) :
      Guarded h₀ input (dispatch onReply session cmd h).2 :=
    guarding_iff.mp ((guarding h₀ input).dispatch ordinary fun text same =>
      absurd same (fresh text)) h early.1
  cases cmd with
  | registerOneShot username password =>
      exact ((walk h₀ input session).handleRegisterOneshot username password h early).1
  | loginOneShot username password =>
      exact ((walk h₀ input session).handleLoginOneshot username password h early).1
  | _ => exact other (by simp [Conduct.takes, has])

theorem dispatchReply_guarded (workflow : Workflow) (reply : String) (h : BbsHost)
    (unlisted : ∀ roomIds next, workflow ≠ .rooms roomIds next)
    (known : (h.sessions.get? session).map (·.workflow) = some workflow)
    (asked : input = .command session (.workflowReply reply))
    (early : Early h₀ input h) (starting : Starting h₀ session h) :
    Guarded h₀ input (dispatchReply processFresh session workflow reply h).2 := by
  have keeps (holds : (guarding h₀ input).holds (dispatchReply processFresh session workflow reply)) :
      Guarded h₀ input (dispatchReply processFresh session workflow reply h).2 :=
    guarding_iff.mp holds h early.1
  have other (ordinary : ∀ p ∈ Conduct.takesReply workflow, has p) :
      Guarded h₀ input (dispatchReply processFresh session workflow reply h).2 :=
    keeps ((guarding h₀ input).dispatchReply
      (fun roomIds next same => (unlisted roomIds next same).elim) ordinary reply)
  cases workflow with
  | register username stage =>
      cases stage with
      | password =>
          apply keeps
          apply (guarding h₀ input).ite
          · exact fun _ => (guarding h₀ input).reply _
          · intro _
            have harmless : Harmless (.register username (.confirm reply)) := trivial
            exact (guarding h₀ input).seq ((guarding h₀ input).setWorkflow harmless session)
              fun _ => (guarding h₀ input).reply _
      | confirm password =>
          exact ((walk h₀ input session).registerConfirm username password reply h early).1
  | login username attempts =>
      exact ((walk h₀ input session).loginReply username attempts reply h early).1
  | forceChangePassword username userId stage =>
      obtain ⟨r, found, forced⟩ := Option.map_eq_some_iff.mp known
      have held : HeldFor h₀ input username userId h :=
        ⟨early.1, early.1.1.held session r username userId stage found forced⟩
      apply (forceChangeReply_guarded stage reply ?_ h held).1
      rintro newPassword rfl rfl
      rcases starting.workflow r found with none_ | ⟨r₀, found₀, same⟩
      · rw [forced] at none_
        cases none_
      · exact .inr (.inr ⟨r₀, username, reply, asked, found₀, same.trans forced⟩)
  | rooms roomIds next => exact absurd rfl (unlisted roomIds next)
  | _ => exact other (by simp [Conduct.takesReply, has])

theorem processCommand_guarded (cmd : Command) (start : Guarded h₀ (.command session cmd) h₀) :
    Guarded h₀ (.command session cmd) (processCommand session cmd h₀).2 := by
  have inv := guarded_invariant h₀ (.command session cmd)
  have lasting (c : Command) : Lasting fun h =>
      Guarded h₀ (.command session cmd) h ∧ Starting h₀ session h := lasting_starting
  have starting : Starting h₀ session h₀ := ⟨fun _ => rfl, fun r found => .inr ⟨r, found, rfl⟩⟩
  apply inv.command lasting ?_ ?_ ?_ ?_ h₀ start fun _ _ => starting
  · intro target
    exact guarding_iff.mp
      ((guarding h₀ _).handleChangeRoom ⟨by decide, by decide⟩ session target)
  · intro c onReply h fresh guarded starting
    exact dispatch_guarded c h fresh ⟨guarded, starting.flags⟩
  · intro workflow reply h asked unlisted known guarded starting
    exact dispatchReply_guarded workflow reply h unlisted known (by rw [asked])
      ⟨guarded, starting.flags⟩ starting
  · intro escape h guarded starting
    exact restartAuth_guarded escape h ⟨guarded, starting.flags⟩

end Handlers

/-! ## Runs -/

/-- No login is restored, in a session of the host, of an account that must change its password,
unless it is that account's session. -/
def Allowed (input : Input) (h : BbsHost) : Prop :=
  match input with
  | .restoreNode session pubkey ttlDays => (h.sessions.get? session).isSome →
      ∀ id, Remembered h pubkey ttlDays id → holder h session = some id ∨
        flagged h.store.db id = false
  | _ => True

def step (input : Input) (h h' : BbsHost) : Prop := h' = deliver h input

theorem guarded_next {input : Input} {h : BbsHost} (sound : Sound h) (allowed : Allowed input h) :
    Guarded h input (deliver h input) := by
  have start : Guarded h input h := ⟨sound, fun _ _ bound => .inl bound⟩
  have keeps {α : Type} {m : HostM α} (holds : (guarding h input).holds m) :
      Guarded h input (m h).2 := guarding_iff.mp holds h start
  cases input with
  | connect transport => exact keeps ((guarding h _).open_ transport)
  | disconnect session => exact keeps ((guarding h _).close ⟨nofun, nofun⟩ session)
  | command session cmd => exact processCommand_guarded cmd start
  | restoreNode session pubkey ttlDays =>
      apply meshNodeRestore_guarded pubkey ttlDays start
      intro there id remembered
      rcases allowed there id remembered with own | free
      · exact .inl own
      · exact .inr (.inl free)
  | bindNode session pubkey => exact keeps ((guarding h _).meshNodeBind session pubkey)
  | unbindNode pubkey => exact keeps ((guarding h _).meshNodeUnbind pubkey)
  | request username request =>
      apply keeps
      apply (guarding h _).serve
      intro caller
      apply (guarding h _).handleRequest
      intro p mem
      have admin := Conduct.takesRequest_subset request mem
      simp only [Conduct.requestPowers, List.mem_cons, List.not_mem_nil, or_false] at admin
      rcases admin with rfl | rfl | rfl | rfl | rfl | rfl <;> exact ⟨by decide, by decide⟩
  | elapse now clock faults => exact ⟨⟨sound.names, sound.credentials, sound.held⟩, start.2⟩

/-- From a host that nobody has called yet, over a database whose accounts have names of their own
and whose credentials belong to accounts, whatever is asked of it: the step that binds a session to
an account whose password must be changed changes it, as long as no such account is restored. -/
theorem change_not_skipped {h h' : BbsHost} (nobody : ∀ session, h.sessions.get? session = none)
    (names : ∀ id id' row row', h.store.db.users.get? id = some row →
      h.store.db.users.get? id' = some row' → row.username = row'.username → id = id')
    (credentials : ∀ id, (h.store.db.userCredentials id).isSome → (h.store.db.users.get? id).isSome)
    (run : Reaches step Allowed h h') (input : Input) (allowed : Allowed input h')
    (session : SessionId) (id : UserId) (bound : BecomesBound h' (deliver h' input) session id)
    (must : flagged h'.store.db id = true) : Completes h' input session id := by
  have start : Sound h := by
    refine ⟨names, fun id known => ?_, fun session r username id stage found _ => ?_⟩
    · obtain ⟨row, stored⟩ := Option.isSome_iff_exists.mp (credentials id known)
      exact RowTable.le_seq stored
    · rw [nobody] at found
      cases found
  have sound : Sound h' := by
    apply run.invariant start
    rintro input t _ sound allowed rfl
    exact (guarded_next sound allowed).1
  rcases (guarded_next sound allowed).2 session id bound.1 with own | free | completes
  · exact absurd own bound.2
  · rw [free] at must
    cases must
  · exact completes

/-- Bob's radio is remembered when Alice, the Sysop, gives him a new password. No Sysop could be told
of his registration. -/
def bobReset : List Input :=
  [.connect "telnet", .command 1 (.registerOneShot "alice" "password"), .connect "meshcore",
    .elapse 0 0 [none, none, none, none, some "disk I/O error"],
    .command 2 (.registerOneShot "bob" "password"), .bindNode 2 7, .command 1 (.setUserPassword .bob),
    .connect "meshcore"]

/-- He logs in with it and chooses another. -/
def bobChanging : List Input :=
  bobReset ++ [.command 3 (.loginOneShot .bob "CCCCCCCCCCCC"),
    .command 3 (.workflowReply "swordfish")]

theorem fresh_names (id id' : UserId) (row row' : UserRow)
    (stored : (BbsHost.fresh .fresh).store.db.users.get? id = some row)
    (_ : (BbsHost.fresh .fresh).store.db.users.get? id' = some row')
    (_ : row.username = row'.username) : id = id' := by
  have none_ : (BbsHost.fresh .fresh).store.db.users.get? id = none := rfl
  rw [none_] at stored
  cases stored

theorem fresh_credentials (id : UserId)
    (known : ((BbsHost.fresh .fresh).store.db.userCredentials id).isSome) :
    ((BbsHost.fresh .fresh).store.db.users.get? id).isSome := by
  have none_ : (BbsHost.fresh .fresh).store.db.userCredentials id = none := rfl
  rw [none_] at known
  cases known

theorem change_not_skipped_bob : Completes (bobChanging.foldl deliver (.fresh .fresh))
    (.command 3 (.workflowReply "swordfish")) 3 2 := by
  have follows : Reaches.Follows deliver Allowed bobChanging (.fresh .fresh) :=
    ⟨trivial, trivial, trivial, trivial, trivial, trivial, trivial, trivial, trivial, trivial, trivial⟩
  have bound : BecomesBound (bobChanging.foldl deliver (.fresh .fresh)) (deliver
      (bobChanging.foldl deliver (.fresh .fresh)) (.command 3 (.workflowReply "swordfish"))) 3 2 :=
    ⟨by decide +kernel, by decide +kernel⟩
  have must : flagged (bobChanging.foldl deliver (.fresh .fresh)).store.db 2 = true := by
    decide +kernel
  exact change_not_skipped (fun _ => rfl) fresh_names fresh_credentials (Reaches.follow follows)
    (.command 3 (.workflowReply "swordfish")) trivial 3 2 bound must

theorem change_skipped : ¬ ∀ h h' : BbsHost, (∀ session, h.sessions.get? session = none) →
    (∀ id id' row row', h.store.db.users.get? id = some row →
      h.store.db.users.get? id' = some row' → row.username = row'.username → id = id') →
    (∀ id, (h.store.db.userCredentials id).isSome → (h.store.db.users.get? id).isSome) →
    Reaches step (fun _ _ => True) h h' → ∀ (input : Input) (session : SessionId) (id : UserId),
      BecomesBound h' (deliver h' input) session id → flagged h'.store.db id = true →
      Completes h' input session id := by
  intro claim
  have bound : BecomesBound (bobReset.foldl deliver (.fresh .fresh)) (deliver
      (bobReset.foldl deliver (.fresh .fresh)) (.restoreNode 3 7 30)) 3 2 :=
    ⟨by decide +kernel, by decide +kernel⟩
  have must : flagged (bobReset.foldl deliver (.fresh .fresh)).store.db 2 = true := by
    decide +kernel
  have run := Reaches.follow_free deliver bobReset (.fresh .fresh)
  obtain ⟨r, username, newPassword, asked, -⟩ := claim (.fresh .fresh) _ (fun _ => rfl) fresh_names
    fresh_credentials run (.restoreNode 3 7 30) 3 2 bound must
  cases asked

end SupplyDrop.Proof.ForcedChange
