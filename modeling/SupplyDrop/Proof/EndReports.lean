import Mathlib
import SupplyDrop.Proof.RoomsExist.Runs

namespace SupplyDrop.Proof.EndReports
open Library Library.Program Store Host RoomsExist

/-- The id was given to a session. -/
def Issued (m : Memory) (id : SessionId) : Prop := 0 < id ∧ id ≤ m.sessions.seq

/-- Every session that was opened is there, or was reported as ended once. -/
structure Balanced (m : Memory) : Prop where
  start : 0 ≤ m.sessions.seq
  opened : ∀ id transport, .sessionCreated id transport ∈ m.events → Issued m id
  once : ∀ id, Issued m id → tally id m = 1
  never : ∀ id, ¬ Issued m id → tally id m = 0

namespace Balanced
variable {m m' : Memory}

theorem reported (balanced : Balanced m) (reported : Reported m m') : Balanced m' := by
  have same (id : SessionId) : Issued m' id ↔ Issued m id := by rw [Issued, Issued, reported.seq]
  refine ⟨by rw [reported.seq]; exact balanced.start, fun id transport told => ?_, fun id => ?_,
    fun id => ?_⟩
  · exact (same id).mpr (balanced.opened id transport (reported.opened id transport told))
  · rw [same, reported.tally]
    exact balanced.once id
  · rw [same, reported.tally]
    exact balanced.never id

theorem opens (balanced : Balanced m) (transport : String) :
    Balanced (({ m with sessions := m.sessions.insert (.opened transport) } : Memory).emit
      (.sessionCreated (m.sessions.seq + 1) transport)) := by
  have start := balanced.start
  have others {id : SessionId} (other : id ≠ m.sessions.seq + 1) :
      tally id (({ m with sessions := m.sessions.insert (.opened transport) } : Memory).emit
        (.sessionCreated (m.sessions.seq + 1) transport)) = tally id m := by
    unfold tally Memory.emit
    rw [RowTable.get?_insert, if_neg other]
    simp [endsSession]
  have fresh : m.events.countP (endsSession (m.sessions.seq + 1)) = 0 := by
    have none_ := balanced.never (m.sessions.seq + 1) fun issued => by
      have := issued.2
      unfold SessionId at *
      omega
    rw [tally, RowTable.get?_fresh] at none_
    simpa using none_
  refine ⟨?_, fun id t told => ?_, fun id issued => ?_, fun id unissued => ?_⟩
  · show 0 ≤ m.sessions.seq + 1
    omega
  · rcases List.mem_append.mp told with before | new
    · obtain ⟨positive, low⟩ := balanced.opened id t before
      exact ⟨positive, low.trans (by show m.sessions.seq ≤ m.sessions.seq + 1; omega)⟩
    · cases List.mem_singleton.mp new
      exact ⟨by show 0 < m.sessions.seq + 1; omega, le_refl _⟩
  · by_cases new : id = m.sessions.seq + 1
    · unfold tally Memory.emit
      rw [new, RowTable.get?_insert, if_pos rfl, List.countP_append, fresh]
      simp [endsSession]
    · rw [others new]
      have low : id ≤ m.sessions.seq + 1 := issued.2
      apply balanced.once id ⟨issued.1, ?_⟩
      unfold SessionId at *
      omega
  · have old : id ≠ m.sessions.seq + 1 := by
      rintro rfl
      exact unissued ⟨by show 0 < m.sessions.seq + 1; omega, le_refl _⟩
    rw [others old]
    apply balanced.never id
    rintro ⟨positive, low⟩
    exact unissued ⟨positive, low.trans (by show m.sessions.seq ≤ m.sessions.seq + 1; omega)⟩

end Balanced

def Reports (h : BbsHost) : Prop := Balanced h.toMemory

theorem reports_stable : Stable Reports where
  aside _ _ balanced _ _ := balanced
  lift _ _ _ balanced _ _ := balanced

theorem reports_onSession {session : SessionId} {f : SessionRecord → SessionRecord} :
    Keeps Reports (onSession session f) :=
  fun _ balanced => Balanced.reported balanced .update

theorem endSession_reports {session : SessionId} {h : BbsHost} (balanced : Reports h)
    (there : (h.sessions.get? session).isSome) : Reports (endSession session h).2 :=
  Balanced.reported balanced (.close there)

theorem adminKillSession_reports (session : SessionId) : Keeps Reports (adminKillSession session) := by
  intro h balanced
  unfold adminKillSession
  rw [Program.bind_apply, lookUp, peek_apply]
  dsimp only
  cases found : h.sessions.get? session with
  | none => exact balanced
  | some r => exact Balanced.reported balanced (.close (by rw [found]; rfl))

/-- What handlers do that neither end a session that is not there nor end one unreported. -/
def balancing : Conduct where
  toDiscipline := .keeping Reports
  has p := p ≠ .close ∧ p ≠ .oust
  lets _ := True
  peek _ := Discipline.keeping_iff.mpr (.gets _)
  now := Discipline.keeping_iff.mpr (.gets _)
  poke _ reported := Discipline.keeping_iff.mpr fun h balanced => balanced.reported (reported h.toMemory)
  open_ transport := Discipline.keeping_iff.mpr fun _ balanced => balanced.opens transport
  kill session := Discipline.keeping_iff.mpr (adminKillSession_reports session)
  db _ := Discipline.keeping_iff.mpr fun _ balanced => balanced
  tryDb _ := Discipline.keeping_iff.mpr fun _ balanced => balanced
  ordinary _ := trivial
  powered _ _ := trivial
  resolve user := Discipline.keeping_iff.mpr (reports_stable.resolve user)
  patch _ _ := trivial
  bind_ _ := Discipline.keeping_iff.mpr reports_onSession
  hold _ := Discipline.keeping_iff.mpr reports_onSession
  close free := absurd rfl free.1
  oust free := absurd rfl free.2
  guest _ _ := Discipline.keeping_iff.mpr fun _ balanced =>
    balanced.reported (.same rfl (fun _ => rfl) rfl)
  move _ := Discipline.keeping_iff.mpr reports_onSession
  draft _ := Discipline.keeping_iff.mpr reports_onSession
  conclude _ := Discipline.keeping_iff.mpr reports_onSession

theorem balancing_iff {α : Type} {m : HostM α} : balancing.holds m ↔ Keeps Reports m :=
  Discipline.keeping_iff

/-! ## Commands -/

/-- An account of that name that `.DU` deletes. -/
def Deletable (h : BbsHost) (name : Username) : Prop :=
  ∃ id row, h.store.db.users.get? id = some row ∧ row.username = name ∧
    row.permissionLevel ≠ .sysop ∧ row.status ≠ .deleted

def Absent (h : BbsHost) (name : Username) : Prop :=
  ∀ id r, h.sessions.get? id = some r → r.username ≠ some name

/-- The session that logs out is there, and no account is deleted that is logged in. -/
def Fair (session : SessionId) (cmd : Command) (h : BbsHost) : Prop :=
  match cmd with
  | .logout | .quit => (h.sessions.get? session).isSome
  | .deleteUser name => Commands h session → Deletable h name → Absent h name
  | _ => True

theorem deletable_aside {h : BbsHost} {s : Storage} (aside : Aside h.store.db s.db) {name : Username}
    (deletable : Deletable { h with store := s } name) : Deletable h name := by
  obtain ⟨id, row, stored, named, below, present⟩ := deletable
  obtain ⟨before, found, eq⟩ := aside.before stored
  have name_ : before.username = row.username := congrArg (·.1) eq
  have level : before.permissionLevel = row.permissionLevel := congrArg (·.2.1) eq
  have status : before.status = row.status := congrArg (·.2.2.1) eq
  exact ⟨id, before, found, name_.trans named, by rw [level]; exact below, by rw [status]; exact present⟩

theorem deletable_lift {h : BbsHost} {s : Storage} {user : UserId}
    (wrote : s.db = { h.store.db with
      users := h.store.db.users.update user (UserStore.reactivate h.store.now) })
    {name : Username} (deletable : Deletable { h with store := s } name) : Deletable h name := by
  obtain ⟨id, row, stored, named, below, present⟩ := deletable
  obtain ⟨before, found, rfl | ⟨banned, rfl⟩⟩ := reactivated_row wrote stored
  · exact ⟨id, row, found, named, below, present⟩
  · exact ⟨id, before, found, named, below, by rw [banned]; exact nofun⟩

section Handlers
variable {session : SessionId}

theorem fair_of {h h' : BbsHost} {cmd : Command} (fair : Fair session cmd h)
    (live : ∀ id, (h.sessions.get? id).isSome → (h'.sessions.get? id).isSome)
    (commands : Commands h' session → Commands h session)
    (deletable : ∀ name, Deletable h' name → Deletable h name)
    (absent : ∀ name, Absent h name → Absent h' name) : Fair session cmd h' := by
  unfold Fair at fair ⊢
  split
  · exact live session fair
  · exact live session fair
  · exact fun sysop there => absent _ (fair (commands sysop) (deletable _ there))
  · trivial

theorem lasting_fair (cmd : Command) : Lasting fun h => Reports h ∧ Fair session cmd h where
  aside h s holds aside _ :=
    ⟨holds.1, fair_of holds.2 (fun _ => id) (commands_aside aside) (fun _ => deletable_aside aside)
      fun _ => id⟩
  lift h s user holds _ wrote :=
    ⟨holds.1, fair_of holds.2 (fun _ => id) (commands_lift wrote) (fun _ => deletable_lift wrote)
      fun _ => id⟩
  ready h m holds ready := by
    refine ⟨Balanced.reported holds.1 ready.reported, fair_of holds.2 ready.live (commands_ready ready)
      (fun _ => id) fun name absent i r' found named => ?_⟩
    obtain ⟨r, before, subdued⟩ := ready.sessions i r' found
    rw [subdued.same] at named
    exact absent i r before named

theorem refreshed_reports {h h' : BbsHost} (balanced : Reports h) (refreshed : Refreshed session h h') :
    Reports h' :=
  Balanced.reported balanced refreshed.reported

theorem handleLogout_reports (h : BbsHost) (balanced : Reports h)
    (there : (h.sessions.get? session).isSome) : Reports (handleLogout session h).2 :=
  endSession_reports balanced there

theorem handleDeleteUser_reports (name : Username) (h : BbsHost) (balanced : Reports h)
    (fair : Fair session (.deleteUser name) h) :
    Reports (handleDeleteUser session name h).2 := by
  apply named_spec fun h' => refreshed_reports balanced
  intro auth user h' refreshed served sysop stored named
  have balanced' := refreshed_reports balanced refreshed
  split
  · exact balanced'
  · next present =>
    split
    · exact balanced'
    · next outranked =>
      have above : outranks auth user = true := by simpa using outranked
      have below := below_sysop above
      have absent : Absent h name := fair (commands_of_served served sysop)
        ⟨user.id, user.toUserRow, stored, named, below, present⟩
      have absent' : Absent h' name := by
        intro i r' found same
        obtain ⟨r, before, eq, -⟩ := refreshed.sessions i r' found
        rw [eq] at same
        exact absent i r before same
      have written : Ensures Reports (fun h => Reports h ∧ Absent h name) (db StoreError.display
          (UserStore.update user.id none (some .deleted) none none))
          fun _ h => Reports h ∧ Absent h name :=
        fun h holds => ⟨holds.1, fun _ _ => holds⟩
      have removed : Ensures Reports (fun h => Reports h ∧ Absent h name) (removeSessionsOf name)
          fun _ => Reports := by
        rintro h ⟨balanced, absent⟩
        have kept : Reports (removeSessionsOf name h).2 :=
          Balanced.reported balanced (.filter fun id r found => by simpa using absent id r found)
        exact ⟨kept, fun _ _ => kept⟩
      have audited : balancing.holds (do
          audit auth.username.text "delete_user" (some name.text) none
          pure (.text s!"'{name.text}' has been deleted.") : HostM Response) :=
        balancing.seq (balancing.audit _ _ _ _) fun _ => balancing.reply _
      have whole := written.bind fun _ => removed.bind fun _ => .ofKeeps (balancing_iff.mp audited)
      exact (whole h' ⟨balanced', absent'⟩).1

theorem restartAuth_reports (escape : AuthEscape) : balancing.holds (restartAuth session escape) := by
  have free {p : Power} (other : p ≠ .close ∧ p ≠ .oust) : balancing.has p := other
  have bound := free (p := .bind) ⟨nofun, nofun⟩
  exact balancing.restartAuth
    (balancing.createUserAndLogin (free ⟨nofun, nofun⟩) bound (free ⟨nofun, nofun⟩) session)
    (balancing.finalizeLogin bound session) (free ⟨nofun, nofun⟩) escape

theorem processCommand_reports (cmd : Command) (h : BbsHost) (balanced : Reports h)
    (fair : ∀ c, Asks h session cmd c → Fair session c h) :
    Reports (processCommand session cmd h).2 := by
  apply Lasting.command lasting_fair ?_ ?_ ?_ ?_ ?_ ?_ h balanced fair
  · exact fun h m balanced _ reported => Balanced.reported balanced reported
  · exact fun start => balancing_iff.mp (balancing.handleListRoomsFrom session start)
  · intro target
    exact balancing_iff.mp (balancing.handleChangeRoom ⟨nofun, nofun⟩ session target)
  · intro c onReply h fresh balanced fair
    have other (ordinary : ∀ p ∈ Conduct.takes c, p ≠ .close ∧ p ≠ .oust) :
        Reports (dispatch onReply session c h).2 :=
      balancing_iff.mp (balancing.dispatch ordinary fun text same =>
        absurd same (fresh text)) h balanced
    cases c with
    | logout => exact handleLogout_reports h balanced fair
    | quit => exact handleLogout_reports h balanced fair
    | deleteUser name => exact handleDeleteUser_reports name h balanced fair
    | _ => exact other (by simp [Conduct.takes])
  · intro workflow reply h _ unlisted _ balanced _
    have ordinary : ∀ p ∈ Conduct.takesReply workflow, p ≠ .close ∧ p ≠ .oust := by
      cases workflow <;> simp [Conduct.takesReply]
    exact balancing_iff.mp (balancing.dispatchReply
      (fun roomIds next same => absurd same (unlisted roomIds next)) ordinary reply) h balanced
  · intro escape h balanced _
    exact balancing_iff.mp (restartAuth_reports escape) h balanced

end Handlers

/-! ## Runs -/

/-- Nobody ends a session that is not there, by a transport or by typing, and no Sysop types `.DU`
for somebody who is logged in. -/
def Allowed (input : Input) (h : BbsHost) : Prop :=
  match input with
  | .disconnect session => (h.sessions.get? session).isSome
  | .command session cmd => ∀ c, Asks h session cmd c → Fair session c h
  | _ => True

def step (input : Input) (h h' : BbsHost) : Prop := h' = deliver h input

theorem reports_next {input : Input} {h : BbsHost} (balanced : Reports h) (allowed : Allowed input h) :
    Reports (deliver h input) := by
  have keeps {α : Type} {m : HostM α} (holds : balancing.holds m) : Reports (m h).2 :=
    balancing_iff.mp holds h balanced
  cases input with
  | connect transport => exact keeps (balancing.open_ transport)
  | disconnect session => exact endSession_reports balanced allowed
  | command session cmd => exact processCommand_reports cmd h balanced allowed
  | restoreNode session pubkey ttlDays =>
      exact keeps (balancing.meshNodeRestore ⟨nofun, nofun⟩ session pubkey ttlDays)
  | bindNode session pubkey => exact keeps (balancing.meshNodeBind session pubkey)
  | unbindNode pubkey => exact keeps (balancing.meshNodeUnbind pubkey)
  | request username request =>
      apply keeps
      apply balancing.serve
      intro caller
      apply balancing.handleRequest
      intro p mem
      have taken := Conduct.takesRequest_subset request mem
      refine ⟨?_, ?_⟩ <;> rintro rfl <;> simp [Conduct.requestPowers] at taken
  | elapse now clock faults => exact Balanced.reported balanced (.same rfl (fun _ => rfl) rfl)

/-- Of a host that was just started, every session that was opened and is not there any more was
reported as ended exactly once, as long as none is ended that is not there, and nobody is deleted by
`.DU` who is logged in. -/
theorem ended_once {h h' : BbsHost} (sessions : h.sessions = .empty 0) (events : h.events = [])
    (run : Reaches step Allowed h h') {id : SessionId} {transport : String}
    (opened : .sessionCreated id transport ∈ h'.events) (gone : h'.sessions.get? id = none) :
    h'.events.countP (endsSession id) = 1 := by
  have start : Reports h := by
    refine ⟨by rw [sessions]; exact le_refl _, fun id transport told => ?_, fun id issued => ?_,
      fun id _ => ?_⟩
    · rw [events] at told
      cases told
    · rw [Issued, sessions] at issued
      exact absurd (issued.1.trans_le issued.2) (lt_irrefl _)
    · rw [tally, sessions, events]
      rfl
  have kept : Reports h' := by
    apply run.invariant (I := Reports) start
    rintro input t _ balanced allowed rfl
    exact reports_next balanced allowed
  have once := kept.once id (kept.opened id transport opened)
  rw [tally, gone] at once
  simpa using once

/-- The accounts of Alice, a Sysop, and of Bob, with nobody connected. -/
def staffed : BbsHost := (adminCreateUser "bob" "password" 10
  (adminCreateUser "alice" "password" 100 (.fresh .fresh)).2).2

theorem staffed_empty : staffed.sessions = .empty 0 := by
  have rows : staffed.sessions.rows = [] := List.isEmpty_iff.mp (by decide +kernel)
  have seq : staffed.sessions.seq = 0 := by decide +kernel
  generalize staffed.sessions = sessions at rows seq
  cases sessions
  cases rows
  cases seq
  rfl

def visit : List Input :=
  [.connect "telnet", .command 1 (.loginOneShot .alice "password"), .command 1 .logout]

theorem ended_once_alice : (visit.foldl deliver staffed).events.countP (endsSession 1) = 1 := by
  have typed {session : SessionId} {cmd : Command} {h : BbsHost} (fair : Fair session cmd h)
      (other : ∀ reply, cmd ≠ .workflowReply reply) : Allowed (.command session cmd) h := by
    rintro c (rfl | ⟨reply, replied, -, -⟩)
    · exact fair
    · exact absurd replied (other reply)
  have there : (((visit.take 2).foldl deliver staffed).sessions.get? 1).isSome := by
    decide +kernel
  have follows : Reaches.Follows deliver Allowed visit staffed :=
    ⟨trivial, typed trivial nofun, typed there nofun, trivial⟩
  have opened : .sessionCreated 1 "telnet" ∈ (visit.foldl deliver staffed).events := by
    decide +kernel
  exact ended_once staffed_empty (by decide +kernel) (Reaches.follow follows) opened
    (by decide +kernel)

/-- Alice deletes Bob while he is logged in. -/
def deletion : List Input :=
  [.connect "telnet", .connect "telnet", .command 1 (.loginOneShot .alice "password"),
    .command 2 (.loginOneShot .bob "password"), .command 1 (.deleteUser .bob)]

theorem ended_unreported : ¬ ∀ h h' : BbsHost, h.sessions = .empty 0 → h.events = [] →
    Reaches step (fun _ _ => True) h h' → ∀ id transport,
      .sessionCreated id transport ∈ h'.events → h'.sessions.get? id = none →
        h'.events.countP (endsSession id) = 1 := by
  intro claim
  have run := Reaches.follow_free deliver deletion staffed
  have once := claim staffed _ staffed_empty (by decide +kernel) run 2 "telnet"
    (by decide +kernel) (by decide +kernel)
  have silent : (deletion.foldl deliver staffed).events.countP (endsSession 2) = 0 := by
    decide +kernel
  rw [silent] at once
  cases once

end SupplyDrop.Proof.EndReports
