import Mathlib
import SupplyDrop.Library.Run
import SupplyDrop.Transport.MeshCore
import SupplyDrop.Transport.Meshtastic
import SupplyDrop.Proof.Greeting

namespace SupplyDrop.Proof.NodeBindings
open Library Library.Program Store Host Transport Greeting

/-! ## What the host keeps of a node -/

def accountOf (session : SessionId) (h : BbsHost) : Option UserId :=
  (h.sessions.get? session).bind (·.userId)

def boundTo (key : PublicKey) (h : BbsHost) : Option UserId :=
  (h.store.db.nodeCredentials key).map (·.userId)

/-- After a login the node's key is bound to the account of the session, and after a logout to
none. -/
def Settled (key : PublicKey) (session : SessionId) (response : Response) (h : BbsHost) : Prop :=
  match response with
  | .loggedIn _ => (accountOf session h).isSome ∧ boundTo key h = accountOf session h
  | .loggedOut => boundTo key h = none
  | _ => True

/-- The next statement does not fail. -/
def Sure (s : Storage) : Prop := ∀ e, s.faults.head? ≠ some (some e)

theorem statement_sure {s : Storage} (sure : Sure s) :
    ∃ s', statement s = (.ok (), s') ∧ s'.db = s.db := by
  unfold statement
  split
  · exact ⟨s, rfl, rfl⟩
  · exact ⟨_, rfl, rfl⟩
  · next e rest faults =>
    have impossible := sure e
    rw [faults] at impossible
    exact absurd rfl impossible

theorem upsert_sure {s : Storage} {id : UserId} (key : PublicKey) (sure : Sure s)
    (known : (s.db.users.get? id).isSome) (now : Timestamp) :
    ∃ s', NodeCredentialStore.upsert key id now s = (.ok (), s') ∧
      s'.db.nodeCredentials key = some ⟨id, now⟩ := by
  obtain ⟨s', ran, same⟩ := statement_sure sure
  unfold NodeCredentialStore.upsert
  rw [bind_ok ran, bind_apply, gets_apply]
  dsimp only
  rw [same, if_neg (by simpa using Option.isSome_iff_ne_none.mp known)]
  exact ⟨_, rfl, by simp⟩

theorem delete_sure {s : Storage} (key : PublicKey) (sure : Sure s) :
    ∃ s', NodeCredentialStore.delete key s = (.ok (), s') ∧ s'.db.nodeCredentials key = none := by
  obtain ⟨s', ran, same⟩ := statement_sure sure
  unfold NodeCredentialStore.delete execute
  rw [bind_ok ran, modify_apply]
  exact ⟨_, rfl, by simp⟩

theorem meshNodeBind_settles {session : SessionId} {key : PublicKey} {h : BbsHost}
    (sure : Sure h.store) (bound : Bound session h) (name : Username) :
    Settled key session (.loggedIn name) (meshNodeBind session key h).2 := by
  obtain ⟨r, id, found, account, known⟩ := bound
  have here : (h.sessions.get? session).bind (·.userId) = some id := by
    rw [found]
    exact account
  obtain ⟨s, ran, stored⟩ := upsert_sure key sure known h.store.now
  unfold meshNodeBind
  rw [bind_apply, peek_apply, here]
  dsimp only
  rw [bind_apply, now_apply]
  dsimp only
  rw [db_ok ran]
  refine ⟨?_, ?_⟩
  · rw [accountOf, here]
    rfl
  · rw [accountOf, here, boundTo, stored]
    rfl

theorem meshNodeUnbind_settles {session : SessionId} {key : PublicKey} {h : BbsHost}
    (sure : Sure h.store) : Settled key session .loggedOut (meshNodeUnbind key h).2 := by
  obtain ⟨s, ran, gone⟩ := delete_sure key sure
  rw [meshNodeUnbind, db_ok ran, Settled, boundTo, gone]
  rfl

/-! ## Between the answer and the credential -/

/-- The others leave accounts and sessions alone that far, and let the next statement pass. -/
structure Undisturbing (others : BbsHost → BbsHost) : Prop where
  accounts : ∀ h session id, accountOf session h = some id → accountOf session (others h) = some id
  users : ∀ h id, (h.store.db.users.get? id).isSome → ((others h).store.db.users.get? id).isSome
  sure : ∀ h, Sure (others h).store

theorem Undisturbing.bound {others : BbsHost → BbsHost} (undisturbing : Undisturbing others)
    {session : SessionId} {h : BbsHost} (bound : Bound session h) :
    Bound session (others h) := by
  obtain ⟨r, id, found, account, known⟩ := bound
  have here : accountOf session (others h) = some id := by
    apply undisturbing.accounts
    rw [accountOf, found]
    exact account
  obtain ⟨r', found', account'⟩ := Option.bind_eq_some_iff.mp here
  exact ⟨r', id, found', account', undisturbing.users h id known⟩

/-- What is asked of a handler: of the host when it goes on, and nothing when it gives up. -/
structure Leads {α ε β : Type} (P : BbsHost → Prop) (m : TransportM α BbsHost ε β)
    (R : β → BbsHost → Prop) : Prop where
  holds : Ensures (fun _ => True) (fun s => P s.host) m fun b s => R b s.host

namespace Leads
variable {α ε β γ : Type} {P : BbsHost → Prop} {Q : β → BbsHost → Prop} {R : γ → BbsHost → Prop}

theorem ret {b : β} (h : ∀ h, P h → Q b h) : Leads P (pure b : TransportM α BbsHost ε β) Q :=
  ⟨.ret fun s holds => ⟨trivial, h s.host holds⟩⟩

theorem fail {e : ε} : Leads P (Program.fail e : TransportM α BbsHost ε β) Q :=
  ⟨.fail fun _ _ => trivial⟩

theorem bind {m : TransportM α BbsHost ε β} {f : β → TransportM α BbsHost ε γ} (first : Leads P m Q)
    (rest : ∀ b, Leads (Q b) (f b) R) : Leads P (m >>= f) R :=
  ⟨first.holds.bind fun b => (rest b).holds⟩

/-- What comes before is of no consequence. -/
theorem seq {m : TransportM α BbsHost ε β} {f : β → TransportM α BbsHost ε γ}
    (rest : ∀ b, Leads (fun _ => True) (f b) R) : Leads P (m >>= f) R := by
  have anyway : Leads P m fun _ _ => True := ⟨fun _ _ => ⟨trivial, fun _ _ => trivial⟩⟩
  exact anyway.bind rest

theorem looking (f : Station α BbsHost → β) :
    Leads P (Transport.looking f : TransportM α BbsHost ε β) fun _ => P :=
  ⟨.gets fun _ holds => ⟨trivial, holds⟩⟩

theorem onSessions (f : α → α) :
    Leads P (Transport.onSessions f : TransportM α BbsHost ε Unit) fun _ => P :=
  ⟨.modify fun _ holds => ⟨trivial, holds⟩⟩

theorem wait (n : Nat) : Leads P (Transport.wait n : TransportM α BbsHost ε Unit) fun _ => P :=
  ⟨.modify fun _ holds => ⟨trivial, holds⟩⟩

theorem letOthers {others : BbsHost → BbsHost} {R : Unit → BbsHost → Prop}
    (h : ∀ h, P h → R () (others h)) :
    Leads P (Transport.letOthers others : TransportM α BbsHost ε Unit) R :=
  ⟨.modify fun s holds => ⟨trivial, h s.host holds⟩⟩

theorem ask {m : Program BbsHost HostError β} {R : Except HostError β → BbsHost → Prop}
    (h : ∀ h, P h → R (m h).1 (m h).2) :
    Leads P (Transport.ask m : TransportM α BbsHost ε _) R := by
  refine ⟨fun s holds => ⟨trivial, fun result returned => ?_⟩⟩
  cases returned
  exact h s.host holds

end Leads

/-- What the node is told of a command leaves its session so. -/
theorem command_greeted {session : SessionId} {cmd : Command} {h : BbsHost} {response : Response}
    (told : (processCommand session cmd h).1 = .ok response ∨ loggedInAs response = none) :
    Greeted session response (processCommand session cmd h).2 := by
  intro name logged
  rcases told with returned | other
  · exact (processCommand_greets session cmd h trivial).2 response returned name logged
  · rw [other] at logged
    cases logged

/-! ## MeshCore -/

section MeshCoreHandlers
open MeshCore
variable {adverts : AdvertKeys BbsHost} {cfg : MeshCore.Config} {sender : Sender}

/-- The session that answered is as the answer has it. -/
def Answered (done : MeshCore.Processed) : BbsHost → Prop := Greeted done.session done.response

theorem answer_greeted (session : SessionId) (cmd : Command) (h : BbsHost) :
    Greeted session (MeshCore.answered (processCommand session cmd h).1)
      (processCommand session cmd h).2 := by
  apply command_greeted
  cases (processCommand session cmd h).1 with
  | ok response => exact .inl rfl
  | error e => exact .inr rfl

theorem asks (session : SessionId) (refreshed : Bool) (cmd : Command) {P : BbsHost → Prop} :
    Leads P (ask (bbsHost.processCommand session cmd) : MeshM BbsHost _)
      fun result => Answered ⟨session, refreshed, MeshCore.answered result⟩ :=
  .ask fun h _ => answer_greeted session cmd h

theorem refresh_answered {P : BbsHost → Prop} (fullPubkey : Option PublicKey) (text : String)
    (cmd : Command) :
    Leads P (MeshCore.refresh bbsHost adverts cfg sender fullPubkey text cmd)
      Answered := by
  apply (Leads.onSessions _).bind
  intro _
  apply Leads.seq
  intro created
  cases created with
  | error e => exact .fail
  | ok fresh =>
      apply (Leads.onSessions _).bind
      intro _
      apply Leads.seq
      intro _
      apply Leads.seq
      intro _
      apply (asks fresh true _).bind
      intro result
      exact .ret fun _ => id

theorem process_answered (session : SessionId) (fullPubkey : Option PublicKey) (text : String)
    (cmd : Command) :
    Leads (fun _ => True) (MeshCore.process bbsHost adverts cfg sender session fullPubkey text cmd)
      Answered := by
  apply (asks session false cmd).bind
  intro result
  split
  · exact refresh_answered fullPubkey text cmd
  · exact .ret fun _ => id

theorem keepCredential_settles (keeps : 0 < cfg.nodeCredentialTtlDays) (key : PublicKey)
    (done : MeshCore.Processed) :
    Leads (fun h => Answered done h ∧ Sure h.store)
      (MeshCore.keepCredential bbsHost cfg (some key) done)
      fun _ => Settled key done.session done.response := by
  obtain ⟨session, refreshed, response⟩ := done
  unfold MeshCore.keepCredential
  rw [if_pos keeps]
  cases response with
  | loggedIn name =>
      have binds : Leads (fun h => Answered ⟨session, refreshed, .loggedIn name⟩ h ∧ Sure h.store)
          (ask (bbsHost.meshNodeBind session key) : MeshM BbsHost _)
          fun _ => Settled key session (.loggedIn name) :=
        .ask fun h ready => meshNodeBind_settles ready.2 (ready.1 name rfl) name
      exact binds.bind fun _ => .ret fun _ => id
  | loggedOut =>
      have unbinds : Leads (fun h => Answered ⟨session, refreshed, .loggedOut⟩ h ∧ Sure h.store)
          (ask (bbsHost.meshNodeUnbind key) : MeshM BbsHost _)
          fun _ => Settled key session .loggedOut :=
        .ask fun h ready => meshNodeUnbind_settles ready.2
      exact unbinds.bind fun _ => .ret fun _ => id
  | _ => exact .ret fun _ _ => trivial

variable {meanwhile : Meanwhile BbsHost}

theorem handle_settles (keeps : 0 < cfg.nodeCredentialTtlDays)
    (undisturbing : Undisturbing meanwhile.others) (key : PublicKey) (session : SessionId)
    (text : String) (awaitingReply : Bool) :
    Leads (fun _ => True)
      (MeshCore.handle bbsHost adverts cfg meanwhile sender session (some key) text awaitingReply)
      fun done => Settled key done.session done.response := by
  unfold MeshCore.handle
  cases MeshCore.parseCommand text cfg.commandPrefix awaitingReply with
  | none => exact .fail
  | some cmd =>
      apply Leads.seq
      intro _
      apply (process_answered session (some key) text cmd).bind
      intro done
      apply (Leads.wait _).bind
      intro _
      have others : Leads (Answered done) (letOthers meanwhile.others : MeshM BbsHost Unit)
          fun _ h => Answered done h ∧ Sure h.store :=
        .letOthers fun h answered =>
          ⟨fun name logged => undisturbing.bound (answered name logged), undisturbing.sure h⟩
      apply others.bind
      intro _
      apply (keepCredential_settles keeps key done).bind
      intro _
      have settles : Leads (Settled key done.session done.response) (settle sender done.response)
          fun _ => Settled key done.session done.response :=
        (Leads.looking _).bind fun _ => .onSessions _
      exact settles.bind fun _ => .ret fun _ => id

/-- The key by which the transport knows the node, once the node has a session. -/
def knownKey (adverts : AdvertKeys BbsHost) (sender : Sender)
    (s : Station MeshCore.SessionState BbsHost) : Option PublicKey :=
  match s.sessions sender with
  | some entry => entry.fullPubkey
  | none => adverts sender (createSession "meshcore" s.host).2

theorem opened_key {s s' : Station MeshCore.SessionState BbsHost} {opened : SessionId × Bool}
    (ran : MeshCore.getOrCreateSession bbsHost adverts sender s = (.ok opened, s')) :
    (s'.sessions sender).bind (·.fullPubkey) = knownKey adverts sender s := by
  unfold MeshCore.getOrCreateSession at ran
  rw [bind_apply, MeshCore.entryOf, looking, gets_apply] at ran
  unfold knownKey
  cases found : s.sessions sender with
  | some entry =>
      rw [found] at ran
      cases ran
      rw [found]
      rfl
  | none =>
      rw [found] at ran
      dsimp only at ran
      obtain ⟨created, s₁, asked, rest⟩ := bind_eq_ok ran
      cases asked
      have made : (createSession "meshcore" s.host).1 = .ok (s.host.sessions.seq + 1) := rfl
      rw [zoom_apply] at rest
      dsimp only [bbsHost] at rest
      rw [made] at rest
      dsimp only at rest ⊢
      rw [bind_apply, onSessions, modify_apply] at rest
      dsimp only at rest
      rw [bind_apply, seedPubkey, bind_apply, looking, gets_apply] at rest
      dsimp only at rest
      cases known : adverts sender (createSession "meshcore" s.host).2 with
      | none =>
          rw [known] at rest
          cases rest
          simp [MeshCore.SessionState.getOrInsert, found, MeshCore.SessionEntry.opened]
      | some key =>
          rw [known] at rest
          cases rest
          simp [MeshCore.SessionState.getOrInsert, found, MeshCore.SessionState.onEntry,
            MeshCore.SessionEntry.setFullPubkey]

theorem dispatch_settles (keeps : 0 < cfg.nodeCredentialTtlDays)
    (undisturbing : Undisturbing meanwhile.others) {timestamp : BitVec 32} {text : String}
    {s s' : Station MeshCore.SessionState BbsHost} {key : PublicKey}
    (known : knownKey adverts sender s = some key) {done : MeshCore.Processed}
    (ran : MeshCore.dispatchMessage bbsHost adverts cfg meanwhile sender timestamp text s =
      (.ok done, s')) : Settled key done.session done.response s'.host := by
  obtain ⟨⟨session, isNew⟩, s₁, opened, rest⟩ := bind_eq_ok ran
  rw [← opened_key opened] at known
  dsimp only at rest
  rw [bind_apply, MeshCore.entryOf, looking, gets_apply] at rest
  dsimp only at rest
  rw [known] at rest
  have whole : Leads (fun _ => True) (do
      let awaitingReply ← expireWorkflow bbsHost cfg sender session
      autoLogin bbsHost cfg session isNew (some key) awaitingReply
      wait meanwhile.beforeDedup
      deduplicate sender timestamp text awaitingReply
      MeshCore.handle bbsHost adverts cfg meanwhile sender session (some key) text awaitingReply)
      fun done => Settled key done.session done.response :=
    .seq fun awaitingReply => .seq fun _ => .seq fun _ => .seq fun _ =>
      handle_settles keeps undisturbing key session text awaitingReply
  have settled := (whole.holds s₁ trivial).2 done
  rw [rest] at settled
  exact settled rfl

end MeshCoreHandlers

/-! ## Meshtastic -/

namespace Nodes
open Meshtastic
variable {cfg : Meshtastic.Config} {node : NodeNum}

theorem answer_greeted (session : SessionId) (cmd : Command) (h : BbsHost) :
    Greeted session (Meshtastic.answered (processCommand session cmd h).1)
      (processCommand session cmd h).2 := by
  apply command_greeted
  cases (processCommand session cmd h).1 with
  | ok response => exact .inl rfl
  | error e => exact .inr rfl

theorem asks (session : SessionId) (cmd : Command) {P : BbsHost → Prop} :
    Leads P (ask (bbsHost.processCommand session cmd) : NodeM BbsHost _)
      fun result => Greeted session (Meshtastic.answered result) :=
  .ask fun h _ => answer_greeted session cmd h

theorem refresh_answered {P : BbsHost → Prop} (cmd : Command) :
    Leads P (Meshtastic.refresh bbsHost cfg node cmd) fun done => Greeted done.1 done.2 := by
  apply (Leads.onSessions _).bind
  intro _
  apply Leads.seq
  intro created
  cases created with
  | error e => exact .fail
  | ok fresh =>
      apply (Leads.onSessions _).bind
      intro _
      apply Leads.seq
      intro _
      exact (asks fresh cmd).bind fun result => .ret fun _ => id

theorem process_answered (session : SessionId) (cmd : Command) :
    Leads (fun _ => True) (Meshtastic.process bbsHost cfg node session cmd)
      fun done => Greeted done.1 done.2 := by
  apply (asks session cmd).bind
  intro result
  split
  · exact refresh_answered cmd
  · exact .ret fun _ => id

theorem keepCredential_settles (keeps : 0 < cfg.nodeCredentialTtlDays) (session : SessionId)
    (response : Response) :
    Leads (fun h => Greeted session response h ∧ Sure h.store)
      (Meshtastic.keepCredential bbsHost cfg node session response)
      fun _ => Settled (syntheticPubkey node) session response := by
  unfold Meshtastic.keepCredential
  rw [if_pos keeps]
  cases response with
  | loggedIn name =>
      have binds : Leads (fun h => Greeted session (.loggedIn name) h ∧ Sure h.store)
          (ask (bbsHost.meshNodeBind session (syntheticPubkey node)) : NodeM BbsHost _)
          fun _ => Settled (syntheticPubkey node) session (.loggedIn name) :=
        .ask fun h ready => meshNodeBind_settles ready.2 (ready.1 name rfl) name
      exact binds.bind fun _ => .ret fun _ => id
  | loggedOut =>
      have unbinds : Leads (fun h => Greeted session .loggedOut h ∧ Sure h.store)
          (ask (bbsHost.meshNodeUnbind (syntheticPubkey node)) : NodeM BbsHost _)
          fun _ => Settled (syntheticPubkey node) session .loggedOut :=
        .ask fun h ready => meshNodeUnbind_settles ready.2
      exact unbinds.bind fun _ => .ret fun _ => id
  | _ => exact .ret fun _ _ => trivial

theorem leave_settles (key : PublicKey) (session : SessionId) (response : Response) :
    Leads (Settled key session response) (leave bbsHost node response)
      fun _ => Settled key session response := by
  unfold leave
  split
  · next out =>
    subst out
    apply (Leads.looking _).bind
    intro entry
    apply (Leads.onSessions _).bind
    intro _
    cases entry with
    | none => exact .ret fun _ => id
    | some entry =>
        -- the host forgets the session and nothing else
        have ends : Leads (Settled key session .loggedOut)
            (ask (bbsHost.endSession entry.sessionId) : NodeM BbsHost _)
            fun _ => Settled key session .loggedOut := .ask fun _ settled => settled
        exact ends.bind fun _ => .ret fun _ => id
  · exact .ret fun _ => id

variable {meanwhile : Meanwhile BbsHost}

theorem handle_settles (keeps : 0 < cfg.nodeCredentialTtlDays)
    (undisturbing : Undisturbing meanwhile.others) (session : SessionId) (text : String)
    (awaitingReply : Bool) :
    Leads (fun _ => True)
      (Meshtastic.handle bbsHost cfg meanwhile node session text awaitingReply)
      fun done h => done.activeSession = done.session →
        Settled (syntheticPubkey node) done.activeSession done.response h := by
  unfold Meshtastic.handle
  cases Meshtastic.parseCommand text cfg.commandPrefix awaitingReply with
  | none => exact .fail
  | some cmd =>
      apply Leads.seq
      intro _
      apply (process_answered session cmd).bind
      rintro ⟨active, response⟩
      by_cases known : active = session
      · subst known
        apply (Leads.wait _).bind
        intro _
        have others : Leads (Greeted active response)
            (letOthers meanwhile.others : NodeM BbsHost Unit)
            fun _ h => Greeted active response h ∧ Sure h.store :=
          .letOthers fun h greeted =>
            ⟨fun name logged => undisturbing.bound (greeted name logged), undisturbing.sure h⟩
        apply others.bind
        intro _
        apply (keepCredential_settles keeps active response).bind
        intro _
        apply (Leads.onSessions _).bind
        intro _
        apply (leave_settles _ active response).bind
        intro _
        exact .ret fun _ settled _ => settled
      · apply Leads.seq
        intro _
        apply Leads.seq
        intro _
        apply Leads.seq
        intro _
        apply Leads.seq
        intro _
        apply Leads.seq
        intro _
        exact .ret fun _ _ same => absurd same known

theorem dispatch_settles (keeps : 0 < cfg.nodeCredentialTtlDays)
    (undisturbing : Undisturbing meanwhile.others) {text : String}
    {s s' : Station Meshtastic.SessionState BbsHost} {done : Meshtastic.Processed}
    (ran : Meshtastic.dispatchMessage bbsHost cfg meanwhile node text s = (.ok done, s'))
    (known : done.activeSession = done.session) :
    Settled (syntheticPubkey node) done.activeSession done.response s'.host := by
  have whole : Leads (fun _ => True)
      (Meshtastic.dispatchMessage bbsHost cfg meanwhile node text)
      fun done h => done.activeSession = done.session →
        Settled (syntheticPubkey node) done.activeSession done.response h := by
    apply Leads.seq
    rintro ⟨session, isNew⟩
    apply Leads.seq
    intro _
    apply Leads.seq
    intro _
    apply Leads.seq
    intro entry
    apply Leads.seq
    intro _
    exact handle_settles keeps undisturbing session text _
  have settled := (whole.holds s trivial).2 done
  rw [ran] at settled
  exact settled rfl known

end Nodes

/-! ## The radios over time -/

/-- What a text that was processed left of its node's key. -/
structure Credit where
  -- of the session that processed the command
  account : Option UserId
  response : Response
  binding : Option UserId

def Credit.kept (c : Credit) : Bool :=
  match c.response with
  | .loggedIn _ => c.account.isSome && c.binding = c.account
  | .loggedOut => c.binding = none
  | _ => true

/-- Both transports, the host behind them and what they did so far. -/
structure Radios where
  clock : Instant
  meshCore : MeshCore.SessionState
  meshtastic : Meshtastic.SessionState
  host : BbsHost
  credits : List Credit

structure Setup where
  adverts : MeshCore.AdvertKeys BbsHost
  meshCore : MeshCore.Config
  meshtastic : Meshtastic.Config

inductive Label where
  | meshCore (sender : MeshCore.Sender) (timestamp : BitVec 32) (text : String)
      (meanwhile : Meanwhile BbsHost)
  | meshtastic (node : Meshtastic.NodeNum) (text : String) (meanwhile : Meanwhile BbsHost)
  -- a frame that tells the key of a node
  | identify (sender : MeshCore.Sender) (pubkey : PublicKey)
  -- whatever else the host is asked to do, and the time that takes
  | others (act : BbsHost → BbsHost) (time : Nat)

namespace Radios

def initial (host : BbsHost) : Radios := ⟨0, fun _ => none, fun _ => none, host, []⟩

def coreStation (r : Radios) : Station MeshCore.SessionState BbsHost := ⟨r.clock, r.meshCore, r.host⟩

def tasticStation (r : Radios) : Station Meshtastic.SessionState BbsHost :=
  ⟨r.clock, r.meshtastic, r.host⟩

def next (setup : Setup) (r : Radios) : Label → Radios
  | .meshCore sender timestamp text meanwhile =>
      let ran := MeshCore.dispatchMessage bbsHost setup.adverts setup.meshCore meanwhile sender
        timestamp text r.coreStation
      let credit (done : MeshCore.Processed) : Credit :=
        ⟨accountOf done.session ran.2.host, done.response,
          (knownKey setup.adverts sender r.coreStation).bind fun key => boundTo key ran.2.host⟩
      ⟨ran.2.clock, ran.2.sessions, r.meshtastic, ran.2.host,
        r.credits ++ ran.1.toOption.toList.map credit⟩
  | .meshtastic node text meanwhile =>
      let ran := Meshtastic.dispatchMessage bbsHost setup.meshtastic meanwhile node text
        r.tasticStation
      let credit (done : Meshtastic.Processed) : Credit :=
        ⟨accountOf done.activeSession ran.2.host, done.response,
          boundTo (Meshtastic.syntheticPubkey node) ran.2.host⟩
      ⟨ran.2.clock, r.meshCore, ran.2.sessions, ran.2.host,
        r.credits ++ ran.1.toOption.toList.map credit⟩
  | .identify sender pubkey =>
      { r with meshCore := r.meshCore.onEntry sender (·.setFullPubkey pubkey) }
  | .others act time => { r with host := act r.host, clock := r.clock + time }

end Radios

/-- The session was found stale and replaced. -/
def replaced (outcome : Except Meshtastic.Exit Meshtastic.Processed) : Bool :=
  outcome.toOption.any fun done => done.activeSession ≠ done.session

/-- The transport keeps credentials and knows the node's key, nothing comes between the answer and
the credential, and on Meshtastic the host knows the node's session. -/
def Allowed (setup : Setup) (label : Label) (r : Radios) : Prop :=
  match label with
  | .meshCore sender _ _ meanwhile => 0 < setup.meshCore.nodeCredentialTtlDays ∧
      (knownKey setup.adverts sender r.coreStation).isSome ∧ Undisturbing meanwhile.others
  | .meshtastic node text meanwhile => 0 < setup.meshtastic.nodeCredentialTtlDays ∧
      Undisturbing meanwhile.others ∧ replaced (Meshtastic.dispatchMessage bbsHost setup.meshtastic
        meanwhile node text r.tasticStation).1 = false
  | _ => True

theorem settled_kept {key : PublicKey} {session : SessionId} {response : Response} {h : BbsHost}
    (settled : Settled key session response h) :
    Credit.kept ⟨accountOf session h, response, boundTo key h⟩ := by
  unfold Credit.kept
  cases response with
  | loggedIn name =>
      obtain ⟨account, same⟩ := settled
      simp [account, same]
  | loggedOut =>
      have unbound : boundTo key h = none := settled
      simp [unbound]
  | _ => rfl

theorem returned_ok {ε α : Type} {r : Except ε α} {a : α} (returned : a ∈ r.toOption.toList) :
    r = .ok a := by
  cases r with
  | error e => simp [Except.toOption] at returned
  | ok b => simpa [Except.toOption, eq_comm] using returned

theorem next_keeps {setup : Setup} {r : Radios} {label : Label} (allowed : Allowed setup label r)
    (kept : ∀ c ∈ r.credits, c.kept) : ∀ c ∈ (r.next setup label).credits, c.kept := by
  have more {credits : List Credit} (new : ∀ c ∈ credits, c.kept) :
      ∀ c ∈ r.credits ++ credits, c.kept := by
    intro c mem
    exact (List.mem_append.mp mem).elim (kept c) (new c)
  cases label with
  | identify sender pubkey => exact kept
  | others act time => exact kept
  | meshCore sender timestamp text meanwhile =>
      obtain ⟨keeps, known, undisturbing⟩ := allowed
      obtain ⟨key, known⟩ := Option.isSome_iff_exists.mp known
      apply more
      intro c mem
      obtain ⟨done, returned, rfl⟩ := List.mem_map.mp mem
      rw [known]
      exact settled_kept (dispatch_settles keeps undisturbing known
        (Prod.ext (returned_ok returned) rfl))
  | meshtastic node text meanwhile =>
      obtain ⟨keeps, undisturbing, fresh⟩ := allowed
      apply more
      intro c mem
      obtain ⟨done, returned, rfl⟩ := List.mem_map.mp mem
      have ran := returned_ok returned
      rw [ran] at fresh
      exact settled_kept (Nodes.dispatch_settles keeps undisturbing (Prod.ext ran rfl)
        (by simpa [replaced, Except.toOption] using fresh))

abbrev Runs (setup : Setup) : Radios → Radios → Prop :=
  Reaches (fun label r r' => r' = r.next setup label) (Allowed setup)

/-- No key is known from adverts, and both transports keep credentials. -/
def keeping : Setup := ⟨fun _ _ => none, ⟨none, 30, 0⟩, ⟨none, 30⟩⟩

/-- Meanwhile nothing happens, and no statement is to fail. -/
def calmly : Meanwhile BbsHost := ⟨0, 0, fun h => h.elapse h.store.now h.clock []⟩

theorem undisturbing_calmly : Undisturbing calmly.others where
  accounts _ _ _ := id
  users _ _ := id
  sure _ _ := nofun

/-- Where Alice has an account. -/
def alices : BbsHost := (adminCreateUser "alice" "password" 100 (.fresh .fresh)).2

def afterwards (labels : List Label) : Radios := labels.foldl (Radios.next keeping) (.initial alices)

/-- Between two texts of a node the host drops its session. -/
def loggingInLate : List Label :=
  [.meshtastic 7 "h" calmly, .others (fun h => (adminKillSession 1 h).2) 0,
    .meshtastic 7 "login alice password" calmly]

end SupplyDrop.Proof.NodeBindings
