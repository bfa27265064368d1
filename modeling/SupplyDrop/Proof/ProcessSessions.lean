import Mathlib
import SupplyDrop.Library.Run
import SupplyDrop.Proof.Conduct.Invariant
import SupplyDrop.Transport.Process

namespace SupplyDrop.Proof.ProcessSessions
open Library Library.Program Store Host Transport Transport.Process

/-! ## A host that keeps a ledger for the process -/

structure Ledger where
  host : BbsHost
  opened : List SessionId
  -- the ends that were asked for
  ended : List SessionId

def onHost {α : Type} (m : HostM α) : Program Ledger HostError α :=
  zoom (·.host) (fun l host => { l with host }) m

def bookkeeper : HostApi Ledger where
  createSession transport := do
    let session ← onHost (bbsHost.createSession transport)
    modify fun l => { l with opened := l.opened ++ [session] }
    pure session
  endSession session := do
    modify fun l => { l with ended := l.ended ++ [session] }
    onHost (bbsHost.endSession session)
  processCommand session cmd := onHost (bbsHost.processCommand session cmd)
  meshNodeRestore session pubkey ttlDays := onHost (bbsHost.meshNodeRestore session pubkey ttlDays)
  meshNodeBind session pubkey := onHost (bbsHost.meshNodeBind session pubkey)
  meshNodeUnbind pubkey := onHost (bbsHost.meshNodeUnbind pubkey)
  authenticated session l := bbsHost.authenticated session l.host

abbrev Station := Transport.Station Plugin Ledger

/-! ## The two maps -/

/-- Each map undoes the other. -/
def Inverse (map : SessionMap) : Prop :=
  ∀ id session, (map.byId.get? id).map (·.sessionId) = some session ↔
    (map.bySession.get? session).map (·.2) = some id

namespace Inverse
variable {map : SessionMap}

theorem new : Inverse .new := fun _ _ => by simp [SessionMap.new]

theorem opens (inverse : Inverse map) {id : String} {session : SessionId}
    (closed : map.byId.get? id = none) (fresh : map.bySession.get? session = none) :
    Inverse (map.opens id session) := by
  intro i s
  have before := inverse i s
  simp only [SessionMap.opens, KeyedTable.get?_put]
  by_cases sameId : i = id
  · subst sameId
    by_cases sameSession : s = session
    · simp [sameSession]
    · simp only [closed, Option.map_none] at before
      simp [sameSession, Ne.symm sameSession, ← before]
  · by_cases sameSession : s = session
    · subst sameSession
      simp only [fresh, Option.map_none] at before
      simp [sameId, Ne.symm sameId, before]
    · simpa [sameId, sameSession] using before

theorem awaiting (inverse : Inverse map) (id : String) (awaitingReply : Bool) :
    Inverse (map.awaiting id awaitingReply) := by
  intro i s
  have before := inverse i s
  simp only [SessionMap.awaiting, KeyedTable.get?_modify]
  split
  · rwa [Option.map_map]
  · exact before

theorem closes (inverse : Inverse map) {entry : SessionEntry}
    (found : map.byId.get? entry.id = some entry) : Inverse (map.closes entry) := by
  intro i s
  have before := inverse i s
  have there := inverse entry.id entry.sessionId
  simp only [found, Option.map_some, true_iff] at there
  simp only [SessionMap.closes, KeyedTable.get?_erase]
  by_cases sameId : i = entry.id
  · subst sameId
    simp only [found, Option.map_some, Option.some.injEq] at before
    by_cases sameSession : s = entry.sessionId
    · simp [sameSession]
    · simp [sameSession, ← before, Ne.symm sameSession]
  · by_cases sameSession : s = entry.sessionId
    · subst sameSession
      rw [there, Option.some.injEq] at before
      simp [sameId, before, Ne.symm sameId]
    · simpa [sameId, sameSession] using before

theorem unheld (inverse : Inverse map) {session : SessionId} (unheld : session ∉ map.sessionIds) :
    map.bySession.get? session = none := by
  cases found : map.bySession.get? session with
  | none => rfl
  | some held =>
      have entry := (inverse held.2 session).mpr (by rw [found, Option.map_some])
      obtain ⟨e, there, same⟩ := Option.map_eq_some_iff.mp entry
      exact absurd (List.mem_map.mpr ⟨e, (KeyedTable.get?_eq_some.mp there).1, same⟩) unheld

end Inverse

theorem sessionIds_opens {map : SessionMap} {id : String} {session : SessionId}
    (closed : map.byId.get? id = none) :
    (map.opens id session).sessionIds = map.sessionIds ++ [session] := by
  have entries := KeyedTable.entries_put (t := map.byId) (a := ⟨id, session, false⟩) closed
  show ((map.byId.put ⟨id, session, false⟩).entries.map (·.sessionId)) = _
  rw [entries, List.map_append]
  rfl

theorem sessionIds_awaiting (map : SessionMap) (id : String) (awaitingReply : Bool) :
    (map.awaiting id awaitingReply).sessionIds = map.sessionIds := by
  unfold SessionMap.sessionIds SessionMap.awaiting KeyedTable.modify
  rw [List.map_map]
  apply List.map_congr_left
  intro e _
  simp only [Function.comp_apply]
  split <;> rfl

theorem sessionIds_closes {map : SessionMap} {entry : SessionEntry}
    (found : map.byId.get? entry.id = some entry) :
    map.sessionIds.Perm (entry.sessionId :: (map.closes entry).sessionIds) :=
  (KeyedTable.perm_erase found).map fun e : SessionEntry => e.sessionId

/-! ## What the handlers keep -/

theorem seq_invariant (n : SessionId) :
    Invariant (fun h => n ≤ h.sessions.seq) fun _ => True where
  aside _ _ low _ _ := low
  lift _ _ _ low _ _ := low
  quiet _ _ low quiet := low.trans quiet.seq
  powered _ _ _ low := low
  patch _ _ _ _ _ _ low := low
  bind _ _ _ _ _ _ _ low := low
  hold _ _ _ _ _ _ low := low
  guest _ _ _ low := low
  move _ _ _ _ low := low
  draft _ _ _ _ _ low := low
  conclude _ _ _ _ low := low

/-- What was opened for the process either was ended, once, or is in its maps. -/
structure Linked (s : Station) : Prop where
  inverse : Inverse s.sessions.sessions
  issued : ∀ session ∈ s.host.opened, session ≤ s.host.host.sessions.seq
  distinct : s.host.opened.Nodup
  balanced : s.host.opened.Perm (s.host.ended ++ s.sessions.sessions.sessionIds)

namespace Linked
variable {s : Station}

/-- The host hands out new numbers only, and what the process is told does not matter. -/
theorem elsewhere (linked : Linked s) {t : Station} (maps : t.sessions.sessions = s.sessions.sessions)
    (opened : t.host.opened = s.host.opened) (ended : t.host.ended = s.host.ended)
    (later : s.host.host.sessions.seq ≤ t.host.host.sessions.seq) : Linked t where
  inverse := by rw [maps]; exact linked.inverse
  issued := by
    rw [opened]
    exact fun session mem => (linked.issued session mem).trans later
  distinct := by rw [opened]; exact linked.distinct
  balanced := by rw [opened, ended, maps]; exact linked.balanced

theorem opens (linked : Linked s) {id : String} (closed : s.sessions.sessions.byId.get? id = none)
    {host : BbsHost} (issued : host.sessions.seq = s.host.host.sessions.seq + 1) :
    Linked { s with
      sessions := s.sessions.onSessions (·.opens id (s.host.host.sessions.seq + 1))
      host := ⟨host, s.host.opened ++ [s.host.host.sessions.seq + 1], s.host.ended⟩ } := by
  have fresh : s.host.host.sessions.seq + 1 ∉ s.host.opened := by
    intro mem
    have low := linked.issued _ mem
    unfold SessionId at *
    omega
  refine ⟨?_, ?_, ?_, ?_⟩
  · apply linked.inverse.opens closed
    apply linked.inverse.unheld
    intro held
    exact fresh (linked.balanced.mem_iff.mpr (List.mem_append_right _ held))
  · intro session mem
    show session ≤ host.sessions.seq
    rw [issued]
    rcases List.mem_append.mp mem with before | new
    · have low := linked.issued _ before
      unfold SessionId at *
      omega
    · rw [List.mem_singleton.mp new]
  · apply linked.distinct.append (List.nodup_singleton _)
    intro session before new
    rw [List.mem_singleton.mp new] at before
    exact fresh before
  · show (s.host.opened ++ [_]).Perm (s.host.ended ++ (s.sessions.sessions.opens id _).sessionIds)
    rw [sessionIds_opens closed, ← List.append_assoc]
    exact linked.balanced.append_right _

theorem closes (linked : Linked s) {entry : SessionEntry}
    (found : s.sessions.sessions.byId.get? entry.id = some entry) {host : BbsHost}
    (issued : host.sessions.seq = s.host.host.sessions.seq) :
    Linked { s with
      sessions := s.sessions.onSessions (·.closes entry)
      host := ⟨host, s.host.opened, s.host.ended ++ [entry.sessionId]⟩ } where
  inverse := linked.inverse.closes found
  issued := by
    intro session mem
    show session ≤ host.sessions.seq
    rw [issued]
    exact linked.issued session mem
  distinct := linked.distinct
  balanced := by
    show s.host.opened.Perm (s.host.ended ++ [entry.sessionId] ++
      (s.sessions.sessions.closes entry).sessionIds)
    rw [List.append_assoc]
    exact linked.balanced.trans ((sessionIds_closes found).append_left _)

end Linked

def linking : Discipline Station Empty := .keeping Linked

theorem linking_iff {α : Type} {m : TransportM Plugin Ledger Empty α} :
    linking.holds m ↔ Keeps Linked m := Discipline.keeping_iff

theorem linking_looking {α : Type} (f : Station → α) :
    linking.holds (looking f : TransportM Plugin Ledger Empty α) :=
  linking_iff.mpr (.gets _)

theorem linking_told {f : Plugin → Plugin} (maps : ∀ p, (f p).sessions = p.sessions) :
    linking.holds (onSessions f : TransportM Plugin Ledger Empty Unit) :=
  linking_iff.mpr fun s linked => linked.elsewhere (maps s.sessions) rfl rfl (le_refl _)

theorem respond_linked (id : String) (response : Response) :
    linking.holds (respond id response : TransportM Plugin Ledger Empty Unit) := by
  have sent (text : String) (hideInput : Bool) :
      linking.holds (sendText id text hideInput : TransportM Plugin Ledger Empty Unit) :=
    linking.seq (linking_looking _) fun _ => linking_told fun _ => rfl
  unfold respond
  split
  · exact linking.forM fun part => sent part _
  · split
    · exact sent _ _
    · exact linking.ret trivial

theorem handleRecv_linked (id line : String) : linking.holds (handleRecv bookkeeper id line) := by
  apply linking.seq (linking_looking _)
  intro entry
  cases entry with
  | none => exact linking.ret trivial
  | some e =>
      have asked : linking.holds (ask (bookkeeper.processCommand e.sessionId
          (.parse line e.awaitingReply)) : TransportM Plugin Ledger Empty _) := by
        apply linking_iff.mpr
        intro s linked
        apply linked.elsewhere (t := (ask _ s).2) rfl rfl rfl
        exact (seq_invariant _).keeps_processCommand _ _ s.host.host (le_refl _)
      apply linking.seq asked
      intro result
      have kept : linking.holds (onSessions (Plugin.onSessions
          (·.awaiting id (answered result).setsAwaitingReply)) :
          TransportM Plugin Ledger Empty Unit) := by
        apply linking_iff.mpr
        intro s linked
        refine ⟨linked.inverse.awaiting _ _, linked.issued, linked.distinct, ?_⟩
        show s.host.opened.Perm (s.host.ended ++ (s.sessions.sessions.awaiting id _).sessionIds)
        rw [sessionIds_awaiting]
        exact linked.balanced
      exact linking.seq kept fun _ => respond_linked _ _

theorem handleOpen_linked (transportName : String) {id : String} {s : Station} (linked : Linked s)
    (closed : s.sessions.sessions.byId.get? id = none) :
    Linked (handleOpen bookkeeper transportName id s).2 :=
  linked.opens closed rfl

theorem handleClose_linked (id : String) : Keeps Linked (handleClose bookkeeper id) := by
  intro s linked
  unfold handleClose looking
  rw [Program.bind_apply, gets_apply]
  dsimp only
  cases found : s.sessions.sessions.byId.get? id with
  | none => exact linked
  | some e =>
      rw [← KeyedTable.key_of_get? found] at found
      exact linked.closes found rfl

theorem forM_ended (sessions : List SessionId) (s : Station) :
    ∃ host : BbsHost, host.sessions.seq = s.host.host.sessions.seq ∧
      ((sessions.forM (endQuietly bookkeeper) : TransportM Plugin Ledger Empty Unit) s).2 =
        { s with host := ⟨host, s.host.opened, s.host.ended ++ sessions⟩ } := by
  induction sessions generalizing s with
  | nil => exact ⟨s.host.host, rfl, by rw [List.append_nil]; rfl⟩
  | cons session rest ih =>
      obtain ⟨host, seq, ran⟩ := ih (endQuietly bookkeeper session s).2
      refine ⟨host, seq, ran.trans ?_⟩
      show ({ s with host := ⟨host, s.host.opened, s.host.ended ++ [session] ++ rest⟩ } : Station) = _
      simp

theorem cleanUp_linked {s : Station} (linked : Linked s) :
    Linked (cleanUp bookkeeper s).2 ∧ (cleanUp bookkeeper s).2.sessions.sessions = .new := by
  obtain ⟨host, seq, ran⟩ := forM_ended s.sessions.sessions.sessionIds
    { s with sessions := s.sessions.onSessions fun _ => .new }
  have cleaned : (cleanUp bookkeeper s).2 = _ := ran
  rw [cleaned]
  refine ⟨⟨.new, ?_, linked.distinct, ?_⟩, rfl⟩
  · intro session mem
    show session ≤ host.sessions.seq
    rw [seq]
    exact linked.issued session mem
  · show s.host.opened.Perm (s.host.ended ++ s.sessions.sessions.sessionIds ++ [])
    rw [List.append_nil]
    exact linked.balanced

/-! ## Runs -/

/-- What may happen next: the process writes a line, others ask something of the host, or the
process exits. -/
inductive Event where
  | line (msg : Option PluginMsg)
  | others (input : Input)
  | exit

structure Process where
  station : Station
  exited : Bool

def start (clock : Instant) (host : BbsHost) : Process := ⟨⟨clock, .new, ⟨host, [], []⟩⟩, false⟩

def Process.next (transportName : String) (p : Process) : Event → Process
  | .line msg =>
      if p.exited then p
      else { p with station := (handlePluginMsg bookkeeper transportName msg p.station).2 }
  | .others input =>
      { p with station.host.host := deliver p.station.host.host input }
  | .exit => if p.exited then p else ⟨(cleanUp bookkeeper p.station).2, true⟩

def step (transportName : String) (event : Event) (p p' : Process) : Prop :=
  p' = p.next transportName event

/-- The maps undo each other, and once the process is gone every session that was opened for it was
ended once. -/
def Settled (p : Process) : Prop :=
  Inverse p.station.sessions.sessions ∧
    (p.exited = true → ∀ session ∈ p.station.host.opened, p.station.host.ended.count session = 1)

/-- The process opens an id that is open. -/
def Reopens (event : Event) (p : Process) : Prop :=
  match event with
  | .line (some (.open_ id)) =>
      p.exited = false ∧ (p.station.sessions.sessions.byId.get? id).isSome = true
  | _ => False

instance : ∀ event p, Decidable (Reopens event p)
  | .line (some (.open_ _)), _ => inferInstanceAs (Decidable (_ ∧ _))
  | .line (some (.ready _ _)), _ | .line (some (.recv _ _)), _ | .line (some (.close _)), _
  | .line none, _ | .others _, _ | .exit, _ => inferInstanceAs (Decidable False)

def Sound (p : Process) : Prop :=
  Linked p.station ∧ (p.exited = true → p.station.sessions.sessions = .new)

theorem handlePluginMsg_linked (transportName : String) {msg : Option PluginMsg} {s : Station}
    (linked : Linked s)
    (closed : ∀ id, msg = some (.open_ id) → s.sessions.sessions.byId.get? id = none) :
    Linked (handlePluginMsg bookkeeper transportName msg s).2 := by
  cases msg with
  | none => exact linked
  | some msg =>
      cases msg with
      | ready payloadLimit version =>
          exact linked.elsewhere (t := (handlePluginMsg _ _ _ s).2) rfl rfl rfl (le_refl _)
      | open_ id => exact handleOpen_linked transportName linked (closed id rfl)
      | recv id line => exact linking_iff.mp (handleRecv_linked id line) s linked
      | close id => exact handleClose_linked id s linked

theorem next_sound (transportName : String) {event : Event} {p : Process} (sound : Sound p)
    (distinct : ¬ Reopens event p) : Sound (p.next transportName event) := by
  obtain ⟨linked, cleared⟩ := sound
  cases event with
  | line msg =>
      show Sound (if p.exited then p
        else { p with station := (handlePluginMsg bookkeeper transportName msg p.station).2 })
      split
      · exact ⟨linked, cleared⟩
      · next running =>
        refine ⟨handlePluginMsg_linked transportName linked ?_, fun exited => absurd exited running⟩
        rintro id rfl
        by_contra found
        exact distinct ⟨by simpa using running, Option.isSome_iff_ne_none.mpr found⟩
  | others input =>
      refine ⟨linked.elsewhere rfl rfl rfl ?_, cleared⟩
      exact (seq_invariant _).delivered input (le_refl _) fun _ _ _ => le_refl _
  | exit =>
      show Sound (if p.exited then p else ⟨(cleanUp bookkeeper p.station).2, true⟩)
      split
      · exact ⟨linked, cleared⟩
      · obtain ⟨linked', cleared'⟩ := cleanUp_linked linked
        exact ⟨linked', fun _ => cleared'⟩

theorem start_sound (clock : Instant) (host : BbsHost) : Sound (start clock host) :=
  ⟨⟨.new, nofun, List.nodup_nil, .refl _⟩, nofun⟩

theorem Sound.settled {p : Process} (sound : Sound p) : Settled p := by
  refine ⟨sound.1.inverse, ?_⟩
  intro exited session mem
  have balanced := sound.1.balanced
  rw [sound.2 exited] at balanced
  have same : p.station.host.opened.Perm p.station.host.ended := by
    simpa [SessionMap.sessionIds, SessionMap.new, KeyedTable.empty] using balanced
  rw [← same.count_eq]
  exact List.count_eq_one_of_mem sound.1.distinct mem

/-- Whatever the process writes and whatever others ask of the host meanwhile, each session of the
process is ended once, as long as it opens no id that is open. -/
theorem sessions_balance {transportName : String} {clock : Instant} {host : BbsHost} {p : Process}
    (run : Reaches (step transportName) (fun event p => ¬ Reopens event p) (start clock host) p) :
    Settled p := by
  apply Sound.settled
  apply run.invariant (start_sound clock host)
  rintro event q _ sound distinct rfl
  exact next_sound transportName sound distinct

/-- One connection comes and goes, another writes lines and is there when the process exits. -/
def busy : List Event :=
  [.line (some (.ready 0 none)), .line (some (.open_ "a")), .others (.connect "web"),
    .line (some (.open_ "b")), .line (some (.recv "b" "register alice")), .line (some (.close "c")),
    .line (some (.close "a")), .line (some (.open_ "a")), .line none, .exit]

theorem sessions_balance_busy :
    Settled (busy.foldl (Process.next "hello") (start 0 (.fresh .fresh))) := by
  have follows : Reaches.Follows (Process.next "hello") (fun event p => ¬ Reopens event p) busy
      (start 0 (.fresh .fresh)) := by decide +kernel
  exact sessions_balance (Reaches.follow follows)

def reopening : List Event := [.line (some (.open_ "a")), .line (some (.open_ "a")), .exit]

/-- The second opening of an id leaves the session of the first behind. -/
theorem session_left_behind : ¬ ∀ (transportName : String) (clock : Instant) (host : BbsHost)
    (p : Process), Reaches (step transportName) (fun _ _ => True) (start clock host) p →
      Settled p := by
  intro claim
  have settled := claim "hello" 0 (.fresh .fresh) _
    (Reaches.follow_free (Process.next "hello") reopening _)
  have never := settled.2 rfl 1 (by decide +kernel)
  exact absurd never (by decide +kernel)

end SupplyDrop.Proof.ProcessSessions
