import Mathlib
import SupplyDrop.Host.Registering
import SupplyDrop.Library.Run
import SupplyDrop.Proof.StoreCalls
import SupplyDrop.Store.Rooms

namespace SupplyDrop.Proof.FirstUser
open Library Store Host Registration

/-! ## The calls of a registration are the calls of `create_user_and_login` -/

section Calls
variable {username : Username} {password : String}

/-- The registration left to itself gets from the one to the other. -/
def Unfolds (username : Username) (password : String) (p q : RegisterPhase × Storage) : Prop :=
  ∃ n, (fun p : RegisterPhase × Storage => advance username password p.1 p.2)^[n] p = q

theorem Unfolds.refl (p : RegisterPhase × Storage) : Unfolds username password p p := ⟨0, rfl⟩

theorem Unfolds.after {p q : RegisterPhase × Storage}
    (rest : Unfolds username password (advance username password p.1 p.2) q) :
    Unfolds username password p q := by
  obtain ⟨n, reached⟩ := rest
  exact ⟨n + 1, by rwa [Function.iterate_succ_apply]⟩

/-- The calls that `m` makes are calls of the registration, from `phase` on. -/
def Tracks {α : Type} (username : Username) (password : String) (phase : RegisterPhase)
    (m : HostM α) (h : BbsHost) : Prop :=
  ∃ phase', Unfolds username password (phase, h.store) (phase', (m h).2.store)

namespace Tracks
variable {α β : Type} {phase : RegisterPhase} {h : BbsHost}

theorem silent {m : HostM α} (same : ∀ h, (m h).2.store = h.store) :
    Tracks username password phase m h := by
  refine ⟨phase, ?_⟩
  rw [same]
  exact .refl _

theorem call {describe : StoreError → String} {c : StoreM β} {next : β → RegisterPhase}
    {k : β → HostM α} (turn : advance username password phase h.store =
      (after next (c h.store).1, (c h.store).2))
    (rest : ∀ b h', Tracks username password (next b) (k b) h') :
    Tracks username password phase (db describe c >>= k) h := by
  rcases ran : c h.store with ⟨r, s⟩
  rw [ran] at turn
  cases r with
  | error e =>
      rw [Tracks, Program.bind_error (db_error ran)]
      exact ⟨.finished, .after (by rw [turn]; exact .refl _)⟩
  | ok b =>
      obtain ⟨phase', reached⟩ := rest b { h with store := s }
      rw [Tracks, Program.bind_ok (db_ok ran)]
      exact ⟨phase', .after (by rw [turn]; exact reached)⟩

theorem tryCall {c : StoreM β} {next : Except StoreError β → RegisterPhase}
    {k : Except StoreError β → HostM α} (turn : advance username password phase h.store =
      (next (c h.store).1, (c h.store).2))
    (rest : ∀ r h', Tracks username password (next r) (k r) h') :
    Tracks username password phase (tryDb c >>= k) h := by
  obtain ⟨phase', reached⟩ := rest (c h.store).1 { h with store := (c h.store).2 }
  exact ⟨phase', .after (by rw [turn]; exact reached)⟩

theorem atNow {k : Timestamp → HostM α} (rest : Tracks username password phase (k h.store.now) h) :
    Tracks username password phase (now >>= k) h := rest

theorem silently {m : HostM β} {k : β → HostM α} (same : ∀ h, (m h).2.store = h.store)
    (rest : ∀ b h', Tracks username password phase (k b) h') :
    Tracks username password phase (m >>= k) h := by
  have kept := same h
  rcases ran : m h with ⟨r, h'⟩
  rw [ran] at kept
  cases r with
  | error e =>
      rw [Tracks, Program.bind_error ran]
      exact ⟨phase, by rw [kept]; exact .refl _⟩
  | ok b =>
      rw [Tracks, Program.bind_ok ran, ← kept]
      exact rest b h'

theorem answer {m : HostM β} {a : α} (h' : Tracks username password phase m h) :
    Tracks username password phase (m >>= fun _ => pure a) h := by
  obtain ⟨phase', reached⟩ := h'
  refine ⟨phase', ?_⟩
  rw [Program.bind_apply]
  rcases ran : m h with ⟨r, h₁⟩
  rw [ran] at reached
  cases r <;> exact reached

end Tracks

theorem forM_tracks (sysops : List User) (now : Timestamp) (h : BbsHost) :
    Tracks username password (.notifying (sysops.map (·.username)) now)
      (sysops.forM fun sysop => do
        let _ ← tryDb (MessageStore.postDirect .bbs sysop.username (notice username) now)
        pure ()) h := by
  induction sysops generalizing h with
  | nil => exact .silent fun _ => rfl
  | cons sysop rest ih =>
      obtain ⟨phase', reached⟩ := ih { h with
        store := (MessageStore.postDirect .bbs sysop.username (notice username) now h.store).2 }
      exact ⟨phase', .after reached⟩

theorem notify_tracks (h : BbsHost) :
    Tracks username password .welcomed (notifySysops username) h := by
  obtain ⟨phase', reached⟩ : Tracks username password _ _ _ :=
    forM_tracks _ _ { h with store := (UserStore.list none 200 0 h.store).2 }
  exact ⟨phase', .after reached⟩

/-- Once the session is bound, only the notices are left to send. -/
theorem bound_tracks {session : SessionId} {f : RoomId → SessionRecord → SessionRecord}
    {level : PermissionLevel} {isFirst : Bool} (h : BbsHost) :
    Tracks username password (if levelFor isFirst = .sysop then .finished else .welcomed)
      (do
        let room ← initialRoom level
        onKnownSession session (f room)
        emit (.userCreated username)
        if isFirst then pure (.loggedIn username)
        else do
          notifySysops username
          pure (.loggedIn username) : HostM Response) h := by
  apply Tracks.silently (fun _ => rfl)
  intro room h
  apply Tracks.silently (onKnownSession_store _ _)
  intro _ h
  apply Tracks.silently (fun _ => rfl)
  intro _ h
  cases isFirst with
  | true => exact .silent fun _ => rfl
  | false => exact .answer (notify_tracks h)

theorem createUserAndLogin_tracks (session : SessionId) (h : BbsHost) :
    Tracks username password .free (createUserAndLogin session username password) h := by
  apply Tracks.atNow
  generalize at_ : h.store.now = now
  have looks : advance username password .free h.store =
      (after (fun users => .looked (levelFor users.isEmpty) now) (UserStore.list none 1 0 h.store).1,
        (UserStore.list none 1 0 h.store).2) := by
    rw [← at_]
    rfl
  apply Tracks.call looks
  intro users h
  have creates : advance username password (.looked (levelFor users.isEmpty) now) h.store =
      (after (fun userId => .created userId (levelFor users.isEmpty) now)
        (UserStore.create username none (levelFor users.isEmpty) now h.store).1,
        (UserStore.create username none (levelFor users.isEmpty) now h.store).2) := rfl
  apply Tracks.tryCall creates
  intro r h
  cases r with
  | error e => cases e <;> exact .silent fun _ => rfl
  | ok userId => exact .call rfl fun _ h => bound_tracks h

end Calls

/-! ## At most one first registration -/

def step (label : RegistrarLabel) (s t : Registrar) : Prop := t = s.next label

/-- The registration found the users table empty and has not inserted its account yet. -/
def claimsFirst (call : Registration) : Bool :=
  match call.phase with
  | .looked .sysop _ => true
  | _ => false

/-- No registration looks whether it is the first while one of another name, which is, has yet to
insert its account. -/
def Allowed : RegistrarLabel → Registrar → Prop
  | .turn i, s => ∀ call ∈ s.calls[i]?, call.phase = .free →
      ∀ other ∈ s.calls, claimsFirst other = true → other.username = call.username
  | _, _ => True

instance (s : Registrar) : (label : RegistrarLabel) → Decidable (Allowed label s)
  | .turn i => inferInstanceAs (Decidable (∀ call ∈ s.calls[i]?, call.phase = .free →
      ∀ other ∈ s.calls, claimsFirst other = true → other.username = call.username))
  | .register _ _ => isTrue trivial
  | .vanish _ => isTrue trivial
  | .elapse _ _ => isTrue trivial

def sysops (db : Database) : List (UserId × UserRow) :=
  db.users.rows.filter fun r => r.2.permissionLevel = .sysop

structure Sound (s : Registrar) : Prop where
  alone : ∀ a ∈ s.calls, ∀ b ∈ s.calls, claimsFirst a = true → claimsFirst b = true →
    a.username = b.username
  late : s.storage.db.users.rows ≠ [] → ∀ call ∈ s.calls, claimsFirst call = true →
    ∃ r ∈ s.storage.db.users.rows, r.2.username = call.username
  later : ∀ call ∈ s.calls, ∀ level now, call.phase = .looked level now → level ≠ .sysop →
    s.storage.db.users.rows ≠ []
  few : (sysops s.storage.db).length ≤ 1

theorem length_mapUserRows {rows : List (UserId × UserRow)} {users : List User}
    (mapped : mapUserRows rows = .ok users) : users.length = rows.length := by
  induction rows generalizing users with
  | nil =>
      cases mapped
      rfl
  | cons r rest ih =>
      rw [mapUserRows, List.mapM_cons] at mapped
      cases one : mapUserRow r.1 r.2 with
      | error e =>
          rw [one] at mapped
          cases mapped
      | ok user =>
          rw [one] at mapped
          cases more : mapUserRows rest with
          | error e =>
              rw [mapUserRows] at more
              simp [more, bind, Except.bind] at mapped
          | ok others =>
              rw [List.length_cons, ← ih more]
              rw [mapUserRows] at more
              simp only [more, bind, Except.bind, pure, Except.pure, Except.ok.injEq] at mapped
              rw [← mapped, List.length_cons]

theorem listed_isEmpty {users : List User} {s s' : Storage}
    (listed : UserStore.list none 1 0 s = (.ok users, s')) :
    users.isEmpty = s.db.users.rows.isEmpty := by
  obtain ⟨rows, s₁, read, decoded⟩ := Program.bind_eq_ok listed
  obtain ⟨rfl, -⟩ := query_ok read
  have one : (UserStore.page s.db.users.rows 1 0).length = min 1 s.db.users.rows.length := by
    simp [UserStore.page]
  have same : users.length = min 1 s.db.users.rows.length := by
    rw [← one]
    cases mapped : mapUserRows (UserStore.page s.db.users.rows 1 0) with
    | error e =>
        rw [mapped] at decoded
        cases decoded
    | ok found =>
        rw [mapped] at decoded
        cases decoded
        exact length_mapUserRows mapped
  rw [Bool.eq_iff_iff, List.isEmpty_iff_length_eq_zero, List.isEmpty_iff_length_eq_zero, same]
  omega

theorem after_looked {α : Type} {next : α → RegisterPhase} {r : Except StoreError α}
    {level : PermissionLevel} {now : Timestamp} (h : after next r = .looked level now) :
    ∃ a, r = .ok a ∧ next a = .looked level now := by
  cases r with
  | ok a => exact ⟨a, rfl, h⟩
  | error e => cases h

/-- What one call does to the table of users. -/
theorem advance_users (username : Username) (password : String) (phase : RegisterPhase)
    (s : Storage) :
    let r := advance username password phase s
    r.2.db.users = s.db.users ∧
      (∀ level now, r.1 = .looked level now →
        phase = .free ∧ level = levelFor s.db.users.rows.isEmpty) ∨
    ∃ row : UserRow, (∃ now, phase = .looked row.permissionLevel now) ∧ row.username = username ∧
      (∀ r ∈ s.db.users.rows, r.2.username ≠ username) ∧ (∀ level now, r.1 ≠ .looked level now) ∧
      r.2.db.users = s.db.users.insert row := by
  intro r
  cases phase with
  | begun =>
      refine .inl ⟨congrArg _ (Reads.findUser username s).1, fun level now looked => ?_⟩
      obtain ⟨user, -, next⟩ := after_looked looked
      split at next <;> cases next
  | free =>
      refine .inl ⟨congrArg _ (Reads.listUsers none 1 0 s).1, fun level now looked => ?_⟩
      obtain ⟨users, listed, next⟩ := after_looked looked
      cases next
      exact ⟨rfl, by rw [listed_isEmpty (Prod.ext listed rfl)]⟩
  | looked level now =>
      rcases made : UserStore.create username none level now s with ⟨result, s'⟩
      have turn : r = (after (fun userId => .created userId level now) result, s') := by
        simp only [r, advance, made]
      have kept : ∀ level now, r.1 ≠ .looked level now := by
        intro level' now' looked
        rw [turn] at looked
        obtain ⟨_, -, next⟩ := after_looked looked
        cases next
      cases result with
      | error e =>
          have same := insertRow_error (congrArg Prod.fst made)
          rw [show insertRow _ _ _ _ s = _ from made] at same
          exact .inl ⟨by rw [turn]; exact congrArg _ same, fun l t looked => (kept l t looked).elim⟩
      | ok id =>
          obtain ⟨fresh, -, filled⟩ := insertRow_ok made
          refine .inr ⟨⟨username, none, .active, level, now, none, none⟩, ⟨now, rfl⟩, rfl, ?_, kept, ?_⟩
          · intro row mem same
            have taken : (s.db.users.rows.any fun r => r.2.username = username) = true :=
              List.any_eq_true.mpr ⟨row, mem, by simpa using same⟩
            rw [taken] at fresh
            cases fresh
          · rw [turn, filled]
  | created userId level now =>
      refine .inl ⟨?_, fun level now looked => ?_⟩
      · have kept := setPassword_keeps (I := fun db => db.users = s.db.users) (fun _ _ same => same)
          userId password now
        exact kept s rfl
      · obtain ⟨_, -, next⟩ := after_looked looked
        split at next <;> cases next
  | welcomed =>
      exact .inl ⟨congrArg _ (Reads.listUsers none 200 0 s).1, fun level now looked => by cases looked⟩
  | notifying sysops now =>
      cases sysops with
      | nil => exact .inl ⟨rfl, fun level now looked => by cases looked⟩
      | cons sysop rest =>
          refine .inl ⟨?_, fun level now looked => by cases looked⟩
          have kept := postDirect_keeps (I := fun db => db.users = s.db.users) (fun _ _ same => same)
            .bbs sysop (notice username) now
          exact kept s rfl
  | finished => exact .inl ⟨rfl, fun level now looked => by cases looked⟩

theorem mem_setPhase {calls : List Registration} {i : Nat} {phase : RegisterPhase}
    {c : Registration} (mem : c ∈ Registrar.setPhase calls i phase) :
    c ∈ calls ∨ ∃ call, calls[i]? = some call ∧ c = { call with phase } := by
  obtain ⟨j, at_⟩ := List.mem_iff_getElem?.mp mem
  rw [Registrar.setPhase, List.getElem?_modify] at at_
  obtain ⟨call, found, eq⟩ := Option.map_eq_some_iff.mp at_
  split at eq
  · next same =>
    subst same
    exact .inr ⟨call, found, eq.symm⟩
  · rw [← eq]
    exact .inl (List.mem_of_getElem? found)

theorem claimsFirst_iff {call : Registration} :
    claimsFirst call = true ↔ ∃ now, call.phase = .looked .sysop now := by
  unfold claimsFirst
  split
  · next now looked => simp [looked]
  · next other =>
    constructor
    · intro claims
      cases claims
    · rintro ⟨now, looked⟩
      exact (other now looked).elim

section Turn
variable {s : Registrar} {i : Nat} {call : Registration} {phase : RegisterPhase} {storage : Storage}

/-- A call that does not touch the users, and may find out whether it is the first. -/
theorem sound_kept (sound : Sound s) (found : s.calls[i]? = some call)
    (allowed : call.phase = .free →
      ∀ other ∈ s.calls, claimsFirst other = true → other.username = call.username)
    (users : storage.db.users = s.storage.db.users)
    (looks : ∀ level now, phase = .looked level now →
      call.phase = .free ∧ level = levelFor s.storage.db.users.rows.isEmpty) :
    Sound ⟨storage, Registrar.setPhase s.calls i phase⟩ where
  alone := by
    intro a memA b memB claimsA claimsB
    rcases mem_setPhase memA with oldA | ⟨a', foundA, rfl⟩
    · rcases mem_setPhase memB with oldB | ⟨b', foundB, rfl⟩
      · exact sound.alone a oldA b oldB claimsA claimsB
      · obtain ⟨now, looked⟩ := claimsFirst_iff.mp claimsB
        cases found.symm.trans foundB
        exact allowed (looks _ now looked).1 a oldA claimsA
    · obtain ⟨now, looked⟩ := claimsFirst_iff.mp claimsA
      cases found.symm.trans foundA
      rcases mem_setPhase memB with oldB | ⟨b', foundB, rfl⟩
      · exact (allowed (looks _ now looked).1 b oldB claimsB).symm
      · cases found.symm.trans foundB
        rfl
  late := by
    intro some_ c mem claims
    dsimp only at some_ ⊢
    rw [users] at some_ ⊢
    rcases mem_setPhase mem with old | ⟨c', found', rfl⟩
    · exact sound.late some_ c old claims
    · obtain ⟨now, looked⟩ := claimsFirst_iff.mp claims
      have first := (looks _ now looked).2
      rw [List.isEmpty_eq_false_iff.mpr some_] at first
      cases first
  later := by
    intro c mem level now looked other
    dsimp only
    rw [users]
    rcases mem_setPhase mem with old | ⟨c', found', rfl⟩
    · exact sound.later c old level now looked other
    · intro none_
      apply other
      rw [(looks level now looked).2, none_]
      rfl
  few := by
    dsimp only [sysops]
    rw [users]
    exact sound.few

/-- A call that inserts the account of its registration. -/
theorem sound_inserted (sound : Sound s) (found : s.calls[i]? = some call) {row : UserRow}
    {now : Timestamp} (looked : call.phase = .looked row.permissionLevel now)
    (named : row.username = call.username)
    (fresh : ∀ r ∈ s.storage.db.users.rows, r.2.username ≠ call.username)
    (done : ∀ level now, phase ≠ .looked level now)
    (users : storage.db.users = s.storage.db.users.insert row) :
    Sound ⟨storage, Registrar.setPhase s.calls i phase⟩ := by
  have mem := List.mem_of_getElem? found
  have rows : storage.db.users.rows =
      s.storage.db.users.rows ++ [(s.storage.db.users.seq + 1, row)] := by
    rw [users]
    rfl
  have old : ∀ c ∈ Registrar.setPhase s.calls i phase, ∀ level now, c.phase = .looked level now →
      c ∈ s.calls := by
    intro c mem level now looked
    rcases mem_setPhase mem with old | ⟨call, -, rfl⟩
    · exact old
    · exact (done level now looked).elim
  -- a first registration inserts into the empty table
  have empty : row.permissionLevel = .sysop → s.storage.db.users.rows = [] := by
    intro first
    by_contra some_
    obtain ⟨r, mem', same⟩ := sound.late some_ call mem
      (claimsFirst_iff.mpr ⟨now, by rw [looked, first]⟩)
    exact fresh r mem' same
  constructor
  · intro a memA b memB claimsA claimsB
    obtain ⟨_, lookedA⟩ := claimsFirst_iff.mp claimsA
    obtain ⟨_, lookedB⟩ := claimsFirst_iff.mp claimsB
    exact sound.alone a (old a memA _ _ lookedA) b (old b memB _ _ lookedB) claimsA claimsB
  · intro _ c memC claims
    obtain ⟨_, lookedC⟩ := claimsFirst_iff.mp claims
    have memC' := old c memC _ _ lookedC
    dsimp only
    rw [rows]
    by_cases none_ : s.storage.db.users.rows = []
    · have first : row.permissionLevel = .sysop := by
        by_contra other
        exact sound.later call mem _ now looked other none_
      refine ⟨_, List.mem_append_right _ List.mem_cons_self, ?_⟩
      rw [named]
      exact sound.alone call mem c memC' (claimsFirst_iff.mpr ⟨now, by rw [looked, first]⟩) claims
    · obtain ⟨r, mem', same⟩ := sound.late none_ c memC' claims
      exact ⟨r, List.mem_append_left _ mem', same⟩
  · intro c memC level now' looked' other none_
    dsimp only at none_
    rw [rows] at none_
    exact List.append_ne_nil_of_right_ne_nil _ (List.cons_ne_nil _ _) none_
  · dsimp only [sysops]
    rw [rows, List.filter_append, List.length_append]
    by_cases first : row.permissionLevel = .sysop
    · simp [empty first, first]
    · simpa [first, sysops] using sound.few

end Turn

/-- Registrations that have not looked are of no account. -/
theorem sound_calls {s : Registrar} (sound : Sound s) {calls : List Registration}
    (old : ∀ c ∈ calls, ∀ level now, c.phase = .looked level now → c ∈ s.calls) :
    Sound { s with calls } where
  alone := by
    intro a memA b memB claimsA claimsB
    obtain ⟨_, lookedA⟩ := claimsFirst_iff.mp claimsA
    obtain ⟨_, lookedB⟩ := claimsFirst_iff.mp claimsB
    exact sound.alone a (old a memA _ _ lookedA) b (old b memB _ _ lookedB) claimsA claimsB
  late := by
    intro some_ c mem claims
    obtain ⟨_, looked⟩ := claimsFirst_iff.mp claims
    exact sound.late some_ c (old c mem _ _ looked) claims
  later := fun c mem level now looked => sound.later c (old c mem level now looked) level now looked
  few := sound.few

theorem sound_next {s : Registrar} (sound : Sound s) (label : RegistrarLabel)
    (allowed : Allowed label s) : Sound (s.next label) := by
  cases label with
  | register username password =>
      apply sound_calls sound
      intro c mem level now looked
      rcases List.mem_append.mp mem with old | new
      · exact old
      · rw [List.mem_singleton.mp new] at looked
        cases looked
  | turn i =>
      rw [Registrar.next, Registrar.turn]
      split
      · exact sound
      · next call found =>
        rcases advance_users call.username call.password call.phase s.storage with
          ⟨users, looks⟩ | ⟨row, ⟨now, looked⟩, named, fresh, done, users⟩
        · exact sound_kept sound found (allowed call found) users looks
        · exact sound_inserted sound found looked named fresh done users
  | vanish i =>
      apply sound_calls sound
      intro c mem level now looked
      rcases mem_setPhase mem with old | ⟨call, -, rfl⟩
      · exact old
      · cases looked
  | elapse now faults => exact ⟨sound.alone, sound.late, sound.later, sound.few⟩

/-- From an empty table of users, whatever registrations run side by side, at most one Sysop is
registered, as long as none looks while another that is the first has yet to insert its account. -/
theorem one_first_sysop {s t : Registrar} (users : s.storage.db.users.rows = [])
    (calls : s.calls = []) (run : Reaches step Allowed s t) :
    (sysops t.storage.db).length ≤ 1 := by
  have start : Sound s := by
    constructor
    · simp [calls]
    · simp [calls]
    · simp [calls]
    · simp [sysops, users]
  have kept : Sound t := by
    apply run.invariant start
    rintro label t _ sound allowed rfl
    exact sound_next sound label allowed
  exact kept.few

def emptyRegistrar : Registrar := ⟨Storage.fresh, []⟩

def aliceThenBob : List RegistrarLabel :=
  [.register .alice "password", .turn 0, .turn 0, .turn 0, .register .bob "password", .turn 1, .turn 1,
    .turn 1]

theorem one_first_sysop_alice :
    (sysops (aliceThenBob.foldl Registrar.next emptyRegistrar).storage.db).length ≤ 1 := by
  have follows : Reaches.Follows Registrar.next Allowed aliceThenBob emptyRegistrar := by
    decide +kernel
  exact one_first_sysop rfl rfl (Reaches.follow follows)

/-- Both registrations look before either inserts its account. -/
def sideBySide : List RegistrarLabel :=
  [.register .alice "password", .register .bob "password", .turn 0, .turn 0, .turn 1, .turn 1, .turn 0,
    .turn 1]

theorem two_first_sysops : ¬ ∀ s t : Registrar, s.storage.db.users.rows = [] → s.calls = [] →
    Reaches step (fun _ _ => True) s t → (sysops t.storage.db).length ≤ 1 := by
  intro claim
  have run := Reaches.follow_free Registrar.next sideBySide emptyRegistrar
  have two : (sysops (sideBySide.foldl Registrar.next emptyRegistrar).storage.db).length = 2 := by
    decide +kernel
  have few := claim _ _ rfl rfl run
  omega

end SupplyDrop.Proof.FirstUser
