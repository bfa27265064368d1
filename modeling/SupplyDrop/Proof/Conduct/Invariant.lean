import Mathlib
import SupplyDrop.Proof.Served
import SupplyDrop.Proof.Conduct.Ordinary
import SupplyDrop.Proof.Conduct.Commands

namespace SupplyDrop.Proof
open Library Store Host

/-- A fact about the host that ordinary operations and the lifting of a timeout leave true. -/
structure Stable (J : BbsHost → Prop) : Prop where
  aside : ∀ h s, J h → Aside h.store.db s.db → Later h.store s → J { h with store := s }
  lift : ∀ h s id, J h → Later h.store s → s.db = { h.store.db with
    users := h.store.db.users.update id (UserStore.reactivate h.store.now) } →
    J { h with store := s }

/-- What is asked of an invariant of the host, by the powers that handlers may use freely. -/
structure Invariant (J : BbsHost → Prop) (has : Power → Prop) : Prop extends Stable J where
  quiet : ∀ h m, J h → Quiet h.toMemory m → J { h with toMemory := m }
  powered : ∀ {p : Power} {α : Type} {m : StoreM α}, Powered p m → has p → ∀ h, J h →
    J { h with store := (m h.store).2 }
  patch : ∀ id status level, (status.isSome → has .standing) → (level.isSome → has .level) →
    ∀ h, J h → J { h with store := (UserStore.update id none status level none h.store).2 }
  bind : has .bind → ∀ h session username userId level room, J h →
    J { h with toMemory := h.toMemory.update session fun r => r.bindTo username userId level room }
  hold : has .hold → ∀ h session username userId stage, J h →
    J { h with toMemory := h.toMemory.update session fun r =>
      r.setWorkflow (.forceChangePassword username userId stage) }
  guest : has .guest → ∀ h roomId, J h → J { h with guestRoomId := roomId }
  move : has .move → ∀ h session roomId, J h →
    J { h with toMemory := h.toMemory.update session fun r => r.moveTo roomId }
  draft : has .draft → ∀ h session roomId stage, J h →
    J { h with toMemory := h.toMemory.update session fun r => r.setWorkflow (.compose roomId stage) }
  conclude : has .post → ∀ h session outcome, J h →
    J { h with toMemory := h.toMemory.update session fun r => r.concluded outcome }

namespace Stable
variable {J : BbsHost → Prop} (stable : Stable J) {α : Type}

theorem keeps_db {describe : StoreError → String} {m : StoreM α}
    (h : ∀ host, J host → J { host with store := (m host.store).2 }) :
    Program.Keeps J (Host.db describe m) := h

theorem keeps_tryDb {m : StoreM α} (h : ∀ host, J host → J { host with store := (m host.store).2 }) :
    Program.Keeps J (Host.tryDb m) := h

include stable in
theorem ordinary {m : StoreM α} (h : Ordinary m) (host : BbsHost) (holds : J host) :
    J { host with store := (m host.store).2 } := by
  obtain ⟨⟨aside, later⟩, -⟩ := ordinary_mild h host.store
  exact stable.aside host _ holds aside later

include stable in
theorem lifted (id : UserId) : Program.Keeps J (do
    let now ← Host.now
    Host.db StoreError.display (UserStore.endExpiredSuspension id now)) := by
  intro h holds
  obtain ⟨later, kept | wrote⟩ := endExpired_effect id h.store.now h.store
  · exact stable.aside h _ holds (by rw [kept]; exact .refl _) later
  · exact stable.lift h _ id holds later wrote

include stable in
theorem resolve (user : User) : Program.Keeps J (resolveSuspension user) := by
  unfold resolveSuspension
  split
  · exact .ret _
  · intro h holds
    rw [Program.bind_apply, now_apply]
    dsimp only
    split
    · have ended := stable.lifted user.id h holds
      rw [Program.bind_apply, now_apply] at ended
      dsimp only at ended
      rw [Program.bind_apply]
      rcases ran : Host.db StoreError.display
        (UserStore.endExpiredSuspension user.id h.store.now) h with ⟨r, h'⟩
      rw [ran] at ended
      cases r with
      | error e => exact ended
      | ok ended_ =>
          dsimp only
          split
          · exact ended
          · have read : Program.Keeps J (do
                let fresh ← Host.db StoreError.display (UserStore.getById user.id)
                pure (standing h.store.now fresh)) :=
              .bind (keeps_db (stable.ordinary (.getUser user.id))) fun _ => .ret _
            exact read h' ended
    · exact holds

include stable in
theorem adminAccountLevel (username : String) : Program.Keeps J (Host.adminAccountLevel username) := by
  unfold Host.adminAccountLevel
  split
  · exact .ret _
  · next name _ =>
    apply Program.Keeps.bind (keeps_db (stable.ordinary (.findUser name)))
    intro user
    cases user with
    | none => exact .ret _
    | some user =>
        dsimp only
        split
        · exact .ret _
        · exact .bind (stable.resolve user) fun _ => .ret _
        · exact .ret _

include stable in
theorem authorize (username : String) : Program.Keeps J (Host.authorize username) :=
  .bind (Program.Keeps.attempt (stable.adminAccountLevel username)) fun _ => .ret _

theorem and {K : BbsHost → Prop} (stable : Stable J) (stable' : Stable K) :
    Stable fun h => J h ∧ K h where
  aside h s holds aside later :=
    ⟨stable.aside h s holds.1 aside later, stable'.aside h s holds.2 aside later⟩
  lift h s id holds later wrote :=
    ⟨stable.lift h s id holds.1 later wrote, stable'.lift h s id holds.2 later wrote⟩

theorem keeps_onResult {α : Type} {m : HostM α} {onError : HostError → Reply} {k : α → HostM Reply}
    {h : BbsHost} (kept : J (m h).2) (rest : ∀ a, Program.Keeps J (k a)) :
    J (Host.onResult m onError k h).2 := by
  unfold Host.onResult
  rw [Program.bind_apply, Program.attempt_apply]
  rcases ran : m h with ⟨r, h'⟩
  rw [ran] at kept
  cases r with
  | ok a => exact rest a h' kept
  | error e => exact kept

/-- A request is handled where what is stable holds yet, for the caller it is served as. -/
theorem serve {K : BbsHost → Prop} (stable : Stable J) (weaker : ∀ h, J h → K h) {username : String}
    {request : WebRequest} {h : BbsHost} (holds : J h)
    (rest : ∀ caller h', CallerOf h username caller → J h' → K (handleRequest caller request h').2) :
    K (Host.serve username request h).2 := by
  have kept := stable.authorize username h holds
  have known (caller : CurrentUser) (yes : (Host.authorize username h).1 = .ok (.yes caller)) :
      CallerOf h username caller := authorize_spec yes
  unfold Host.serve
  rw [Program.bind_apply]
  rcases ran : Host.authorize username h with ⟨r, h'⟩
  rw [ran] at kept known
  rcases r with e | authorized
  · exact weaker _ kept
  · cases authorized with
    | yes caller => exact rest caller h' (known caller rfl) kept
    | no => exact weaker _ kept
    | unavailable => exact weaker _ kept

end Stable

namespace Invariant
variable {J K : BbsHost → Prop} {has : Power → Prop} (inv : Invariant J has)

theorem and (inv : Invariant J has) (inv' : Invariant K has) :
    Invariant (fun h => J h ∧ K h) has where
  toStable := inv.toStable.and inv'.toStable
  quiet h m holds quiet := ⟨inv.quiet h m holds.1 quiet, inv'.quiet h m holds.2 quiet⟩
  powered powered free h holds :=
    ⟨inv.powered powered free h holds.1, inv'.powered powered free h holds.2⟩
  patch id status level standing graded h holds :=
    ⟨inv.patch id status level standing graded h holds.1,
      inv'.patch id status level standing graded h holds.2⟩
  bind free h session username userId level room holds :=
    ⟨inv.bind free h session username userId level room holds.1,
      inv'.bind free h session username userId level room holds.2⟩
  hold free h session username userId stage holds :=
    ⟨inv.hold free h session username userId stage holds.1,
      inv'.hold free h session username userId stage holds.2⟩
  guest free h roomId holds := ⟨inv.guest free h roomId holds.1, inv'.guest free h roomId holds.2⟩
  move free h session roomId holds :=
    ⟨inv.move free h session roomId holds.1, inv'.move free h session roomId holds.2⟩
  draft free h session roomId stage holds :=
    ⟨inv.draft free h session roomId stage holds.1, inv'.draft free h session roomId stage holds.2⟩
  conclude free h session outcome holds :=
    ⟨inv.conclude free h session outcome holds.1, inv'.conclude free h session outcome holds.2⟩

/-- What holds whatever more powers a handler uses holds when it uses fewer. -/
theorem mono {fewer : Power → Prop} (inv : Invariant J has) (less : ∀ p, fewer p → has p) :
    Invariant J fewer where
  toStable := inv.toStable
  quiet := inv.quiet
  powered powered free := inv.powered powered (less _ free)
  patch id status level standing graded :=
    inv.patch id status level (fun some_ => less _ (standing some_)) fun some_ => less _ (graded some_)
  bind free := inv.bind (less _ free)
  hold free := inv.hold (less _ free)
  guest free := inv.guest (less _ free)
  move free := inv.move (less _ free)
  draft free := inv.draft (less _ free)
  conclude free := inv.conclude (less _ free)

include inv in
theorem keeps_poke {f : Memory → Memory} (quiet : ∀ m, Quiet m (f m)) : Program.Keeps J (poke f) :=
  fun h holds => inv.quiet h _ holds (quiet h.toMemory)

include inv in
theorem keeps_emit (event : DomainEvent) : Program.Keeps J (emit event) :=
  inv.keeps_poke fun _ => .same rfl rfl

include inv in
theorem keeps_createSession (transport : String) : Program.Keeps J (createSession transport) := by
  apply Program.Keeps.bind (.gets _)
  intro id
  apply Program.Keeps.bind (inv.keeps_poke fun _ => .insert)
  intro _
  exact .bind (inv.keeps_emit _) fun _ => .ret _

include inv in
theorem keeps_endSession (session : SessionId) : Program.Keeps J (endSession session) :=
  .bind (inv.keeps_poke fun _ => .filter) fun _ => inv.keeps_emit _

include inv in
theorem keeps_adminKillSession (session : SessionId) :
    Program.Keeps J (adminKillSession session) := by
  apply Program.Keeps.bind (.gets _)
  intro found
  apply Program.Keeps.bind
  · unfold onlyIf
    split
    · exact .bind (inv.keeps_poke fun _ => .filter) fun _ => inv.keeps_emit _
    · exact .ret _
  · intro _
    exact .ret _

/-- The discipline of handlers that keep `J`. -/
def conduct : Conduct where
  toDiscipline := .keeping J
  has := has
  lets m := ∀ h, J h → J { h with store := (m h.store).2 }
  peek _ := Discipline.keeping_iff.mpr (.gets _)
  now := Discipline.keeping_iff.mpr (.gets _)
  poke quiet _ := Discipline.keeping_iff.mpr (inv.keeps_poke quiet)
  open_ transport := Discipline.keeping_iff.mpr (inv.keeps_createSession transport)
  kill session := Discipline.keeping_iff.mpr (inv.keeps_adminKillSession session)
  db lets := Discipline.keeping_iff.mpr (Stable.keeps_db lets)
  tryDb lets := Discipline.keeping_iff.mpr (Stable.keeps_tryDb lets)
  ordinary := inv.ordinary
  powered := inv.powered
  resolve user := Discipline.keeping_iff.mpr (inv.resolve user)
  patch standing level := inv.patch _ _ _ standing level
  bind_ free := Discipline.keeping_iff.mpr fun h holds => inv.bind free h _ _ _ _ _ holds
  hold free := Discipline.keeping_iff.mpr fun h holds => inv.hold free h _ _ _ _ holds
  close _ session := Discipline.keeping_iff.mpr (inv.keeps_endSession session)
  oust _ _ := Discipline.keeping_iff.mpr (inv.keeps_poke fun _ => .filter)
  guest free roomId := Discipline.keeping_iff.mpr fun h holds => inv.guest free h roomId holds
  move free := Discipline.keeping_iff.mpr fun h holds => inv.move free h _ _ holds
  draft free := Discipline.keeping_iff.mpr fun h holds => inv.draft free h _ _ _ holds
  conclude free := Discipline.keeping_iff.mpr fun h holds => inv.conclude free h _ _ holds

end Invariant

/-! ## Handlers that may use every power -/

namespace Conduct
variable {D : Conduct} (all : ∀ p, D.has p)

include all in
theorem processCommand (session : SessionId) (cmd : Command) :
    D.holds (Host.processCommand session cmd) := by
  apply D.processWith
  apply D.dispatch fun p _ => all p
  intro text _
  apply D.handleWorkflowReply
  · intro escape _
    exact D.restartAuth (D.createUserAndLogin (all _) (all _) (all _) session)
      (D.finalizeLogin (all _) session) (all _) escape
  · intro workflow
    exact D.dispatchReply (fun _ _ _ _ => D.processFresh fun p _ => all p) (fun p _ => all p) text

end Conduct

namespace Invariant
variable {J : BbsHost → Prop} (inv : Invariant J fun _ => True)

include inv in
theorem keeps_processCommand (session : SessionId) (cmd : Command) :
    Program.Keeps J (Host.processCommand session cmd) :=
  Discipline.keeping_iff.mp (inv.conduct.processCommand (fun _ => trivial) session cmd)

include inv in
/-- What no power endangers holds whatever is asked of the host. -/
theorem delivered (input : Input) {h : BbsHost} (holds : J h)
    (elapses : ∀ now clock faults, J (h.elapse now clock faults)) : J (deliver h input) := by
  have keeps {α : Type} {m : HostM α} (follows : inv.conduct.holds m) : J (m h).2 :=
    Discipline.keeping_iff.mp follows h holds
  cases input with
  | connect transport => exact keeps (inv.conduct.open_ transport)
  | disconnect session => exact keeps (inv.conduct.close trivial session)
  | command session cmd => exact inv.keeps_processCommand session cmd h holds
  | restoreNode session pubkey ttlDays =>
      exact keeps (inv.conduct.meshNodeRestore trivial session pubkey ttlDays)
  | bindNode session pubkey => exact keeps (inv.conduct.meshNodeBind session pubkey)
  | unbindNode pubkey => exact keeps (inv.conduct.meshNodeUnbind pubkey)
  | request username request =>
      exact keeps (inv.conduct.serve fun _ => inv.conduct.handleRequest fun _ _ => trivial)
  | elapse now clock faults => exact elapses now clock faults

end Invariant
end SupplyDrop.Proof
