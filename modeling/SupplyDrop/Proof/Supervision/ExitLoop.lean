import Mathlib
import SupplyDrop.Proof.Supervision.Calls

namespace SupplyDrop.Proof.Supervision
open Plugin Library
variable {s s' : Slot} {p q : ProcessId} {x y : Process} {id : Nat}

/-! ## Steps of an exit loop -/

theorem sane_setProcess (sane : Sane s) (here : s.processes p = some x)
    (exited : Past y → y.running = false) (stage : Spawns x.stage → y.stage = x.stage)
    (spawns : Spawns y.stage → Spawns x.stage)
    (less : y.running = true → y.toldToStop = false → x.running = true ∧ x.toldToStop = false) :
    Sane (s.setProcess p y) := by
  obtain ⟨fresh, past⟩ := records_setProcess sane.records here exited
  have same : Spawns y.stage ↔ Spawns x.stage := ⟨spawns, fun h => by rwa [stage h]⟩
  refine ⟨fresh, past, sane.phase.mono (fun op busy => (underWay_setProcess here same op).mp busy)
    rfl ?_ (fun q hq => untold_setProcess here less hq) (fun none => none) (fun _ atMost => atMost)
    fun _ m _ hm tm => ⟨m, hm, tm⟩⟩
  intro q z hz hspawns
  by_cases eq : q = p
  · subst eq
    rw [here] at hz
    cases hz
    exact ⟨y, by simp [Slot.setProcess], stage hspawns⟩
  · exact ⟨z, by simpa [Slot.setProcess, Function.update_of_ne eq] using hz, rfl⟩

theorem sane_exit (sane : Sane s) {success : Bool} (step : s.exit p success = some s') :
    Sane s' := by
  unfold Slot.exit at step
  split at step
  next x here =>
    split at step
    next running =>
      cases step
      apply sane_setProcess sane here
      · exact fun _ => rfl
      · exact fun _ => rfl
      · exact id
      · exact fun h => by cases h
    next => cases step
  next => cases step

/-- The event waiting for `p`'s loop is a crash it will restart the plugin after. -/
def Delays (s : Slot) (p : ProcessId) : Prop :=
  ∃ x, s.processes p = some x ∧ x.event = some .crash ∧ x.loopRestarts = true

theorem sane_receive (sane : Sane s)
    (allowed : ∀ m, s.entry = some m → m.state = .running → Delays s p ∨ m.transport = some p)
    (step : s.receive p = some s') : Sane s' := by
  unfold Slot.receive at step
  split at step
  next x here =>
    split at step
    next event stage waiting =>
      have stopped : x.running = false := sane.exited p x here (.inl (by simp [waiting]))
      split at step
      next =>
        cases step
        apply sane_setProcess sane here
        · exact fun _ => stopped
        · exact fun spawns => by simp [stage, Spawns] at spawns
        · exact fun spawns => by simp [Spawns] at spawns
        · exact fun running => by simp [stopped] at running
      next ends =>
        cases step
        have halted : Sane { s with entry := s.entry.map Slot.haltRunning } := by
          cases entry : s.entry with
          | none =>
              have same : { s with entry := none } = s := by rw [← entry]
              simpa [same] using sane
          | some m =>
              apply sane_setEntry sane entry
              unfold Slot.haltRunning
              split
              next running =>
                refine .inr ⟨rfl, fun q tm => ?_⟩
                have own : m.transport = some p := by
                  apply (allowed m entry running).resolve_left
                  rintro ⟨x', here', crash, restarts⟩
                  rw [here] at here'
                  cases here'
                  rw [waiting] at crash
                  cases crash
                  exact ends ⟨rfl, restarts⟩
                rw [own] at tm
                cases tm
                exact not_untold_of_stopped here stopped
              next => exact .inl rfl
        apply sane_setProcess halted here
        · exact fun _ => stopped
        · exact fun spawns => by simp [stage, Spawns] at spawns
        · exact fun spawns => by simp [Spawns] at spawns
        · exact fun running => by simp [stopped] at running
    next => cases step
  next => cases step

theorem sane_wake (sane : Sane s) (allowed : s.entry = none ∨ (¬ Busy s ∧ AtMost s (some p)))
    (step : s.wake p = some s') : Sane s' := by
  unfold Slot.wake at step
  split at step
  next x here =>
    split at step
    next stage entry =>
      have stopped : x.running = false := sane.exited p x here (.inr (by simp [stage]))
      cases step
      apply sane_setProcess sane here
      · exact fun _ => stopped
      · exact fun spawns => by simp [stage, Spawns] at spawns
      · exact fun spawns => by simp [Spawns] at spawns
      · exact fun running => by simp [stopped] at running
    next m stage entry =>
      have stopped : x.running = false := sane.exited p x here (.inr (by simp [stage]))
      obtain ⟨quiet, atMost⟩ := allowed.resolve_left (by simp [entry])
      cases step
      obtain ⟨fresh, exited⟩ := records_setProcess (y := { x with stage := .respawning m.config })
        sane.records here fun _ => stopped
      refine ⟨fresh, exited, .loop p { x with stage := .respawning m.config }
        (by simp [Slot.setProcess]) ?_ ⟨atMost, fun q hq => ?_⟩⟩
      · intro op busy
        cases op with
        | inl id => exact absurd ⟨.inl id, busy⟩ quiet
        | inr q =>
            by_cases eq : q = p
            · rw [eq]
            · obtain ⟨z, hz, spawns⟩ := busy
              simp only [Slot.setProcess, Function.update_of_ne eq] at hz
              exact absurd ⟨.inr q, z, hz, spawns⟩ quiet
      · have before := untold_setProcess here (fun running => by simp [stopped] at running) hq
        obtain ⟨m₀, hm₀, tm⟩ := sane.of_quiet quiet before
        obtain ⟨m₁, hm₁, only⟩ := atMost
        rw [hm₀] at hm₁
        cases hm₁
        rw [tm] at only
        rcases only with none | own
        · cases none
        · cases own
          exact not_untold_of_stopped here stopped before
    next => cases step
  next => cases step

theorem sane_respawn (sane : Sane s) {outcome : Except String Unit}
    (step : s.respawn p outcome = some s') : Sane s' := by
  unfold Slot.respawn at step
  split at step
  next x here =>
    split at step
    next config stage =>
      have stopped : x.running = false := sane.exited p x here (.inr (by simp [stage]))
      obtain ⟨⟨atMost, none⟩, only⟩ := sane.of_loop here (by simp [stage, Spawns])
      rw [stage] at none
      have started := start_spec sane outcome config x.loopRestarts (.inr rfl)
      rcases run : s.start outcome config x.loopRestarts .unwatched with ⟨spawned, s₁⟩
      rw [run] at started step
      obtain ⟨records, entry, calls, ops, untold, kept⟩ := started
      cases step
      have here₁ : s₁.processes p = some x := kept p x here
      obtain ⟨fresh, exited⟩ := records_setProcess (y := { x with stage := .reviving spawned })
        records here₁ fun _ => stopped
      have same : Spawns (LoopStage.reviving spawned) ↔ Spawns x.stage := by
        rw [stage]
        exact Iff.rfl
      refine ⟨fresh, exited, .loop p { x with stage := .reviving spawned }
        (by simp [Slot.setProcess]) ?_ ⟨?_, fun q hq => ?_⟩⟩
      · exact fun op busy => only op ((ops op).mp ((underWay_setProcess here₁ same op).mp busy))
      · obtain ⟨m, hm, tm⟩ := atMost
        exact ⟨m, entry.trans hm, tm⟩
      · have before := untold_setProcess here₁ (fun running => by simp [stopped] at running) hq
        exact (untold q before).resolve_right (none q)
    next => cases step
  next => cases step

theorem watch_spec (spawned : Spawned) :
    (s.watch spawned).entry = s.entry ∧ (Records s → Records (s.watch spawned)) ∧
    (∀ op, UnderWay (s.watch spawned) op → UnderWay s op) ∧
    (∀ q, Untold (s.watch spawned) q → Untold s q) := by
  unfold Slot.watch
  split
  · exact ⟨rfl, id, fun _ => id, fun _ => id⟩
  next q =>
    split
    · exact ⟨rfl, id, fun _ => id, fun _ => id⟩
    next y here =>
      refine ⟨rfl, fun records => ?_, fun op busy => ?_, fun r hr => ?_⟩
      · apply records_setProcess records here
        intro past
        exact records.2 q y here (past.imp_right False.elim)
      · cases op with
        | inl id => exact busy
        | inr r =>
            obtain ⟨z, hz, spawns⟩ := busy
            simp only [Slot.setProcess] at hz
            by_cases eq : r = q
            · subst eq
              rw [Function.update_self] at hz
              cases hz
              exact spawns.elim
            · rw [Function.update_of_ne eq] at hz
              exact ⟨z, hz, spawns⟩
      · exact untold_setProcess (y := { y with stage := .watching }) here
          (fun running untold => ⟨running, untold⟩) hr

theorem sane_revive (sane : Sane s) (step : s.revive p = some s') : Sane s' := by
  unfold Slot.revive at step
  split at step
  next x here =>
    split at step
    next spawned stage =>
      have stopped : x.running = false := sane.exited p x here (.inr (by simp [stage]))
      obtain ⟨⟨⟨m, hm, -⟩, untold⟩, only⟩ := sane.of_loop here (by simp [stage, Spawns])
      rw [stage] at untold
      cases step
      obtain ⟨entry, records, ops, watched⟩ := watch_spec (s := { s with
        entry := s.entry.map (Slot.revived spawned) }.setProcess p { x with stage := .over }) spawned
      obtain ⟨fresh, exited⟩ := records (records_setProcess (s := { s with
        entry := s.entry.map (Slot.revived spawned) }) sane.records here fun _ => stopped)
      refine ⟨fresh, exited, .idle ?_ fun q hq => ?_⟩
      · rintro ⟨op, busy⟩
        have after := ops op busy
        cases op with
        | inl id => cases only (.inl id) after
        | inr q =>
            obtain ⟨z, hz, spawns⟩ := after
            simp only [Slot.setProcess] at hz
            by_cases eq : q = p
            · subst eq
              rw [Function.update_self] at hz
              cases hz
              exact spawns.elim
            · rw [Function.update_of_ne eq] at hz
              exact eq (Sum.inr.inj (only (.inr q) ⟨z, hz, spawns⟩))
      · have before := untold_setProcess (s := { s with
          entry := s.entry.map (Slot.revived spawned) }) here
          (fun running => by simp [stopped] at running) (watched q hq)
        have launched := untold q before
        cases launched
        rw [entry]
        simp only [Slot.setProcess, hm, Option.map_some]
        exact ⟨_, rfl, rfl⟩
    next => cases step
  next => cases step

/-! ## Undisturbed steps -/

/-- No call on a plugin comes between two steps of another operation on it, and an exit loop acts on
an entry only when the entry's process is its own, or there is none. -/
def Undisturbed (s : Slot) : Act → Prop
  | .load _ _ _ => ¬ Busy s
  | .add _ _ _ => s.entry.isSome ∨ ¬ Busy s
  | .enable _ => (∀ m, s.entry = some m → m.transport.isSome ∨ m.state = .starting) ∨ ¬ Busy s
  | .disable | .restart _ | .remove _ => s.entry = none ∨ ¬ Busy s
  | .receive p => ∀ m, s.entry = some m → m.state = .running → Delays s p ∨ m.transport = some p
  | .wake p => s.entry = none ∨ (¬ Busy s ∧ AtMost s (some p))
  | _ => True

theorem ifNew_eq {next : Slot} (step : s.ifNew id next = some s') : s' = next := by
  unfold Slot.ifNew at step
  split at step
  · cases step
  · cases step
    rfl

theorem sane_step (sane : Sane s) {act : Act} (undisturbed : Undisturbed s act)
    (step : s.step act = some s') : Sane s' := by
  cases act with
  | load config dropIn outcome => exact sane_load sane undisturbed step
  | add id toPluginsD config =>
      cases ifNew_eq step
      exact sane_add sane undisturbed toPluginsD config
  | enable id =>
      cases ifNew_eq step
      exact sane_enable sane undisturbed
  | disable =>
      cases step
      exact sane_disable sane undisturbed
  | restart id =>
      cases ifNew_eq step
      exact sane_restart sane undisturbed
  | remove id =>
      cases ifNew_eq step
      exact sane_remove sane undisturbed
  | spawn id outcome => exact sane_spawn sane step
  | record id => exact sane_record sane step
  | finishRemoval id => exact sane_finishRemoval sane step
  | exit p success => exact sane_exit sane step
  | receive p => exact sane_receive sane undisturbed step
  | wake p => exact sane_wake sane undisturbed step
  | respawn p outcome => exact sane_respawn sane step
  | revive p => exact sane_revive sane step

theorem sane_empty : Sane .empty where
  fresh := fun _ _ => rfl
  exited := fun _ _ here => by cases here
  phase := by
    refine .idle ?_ ?_
    · rintro ⟨id | p, _, here⟩
      · cases here
      · cases here.1
    · rintro p ⟨x, here, -⟩
      cases here

/-! ## The exit of a superseded process -/

/-- The process whose exit the step comes from. -/
def exitOf : Act → Option ProcessId
  | .exit p _ | .receive p | .wake p | .respawn p _ | .revive p => some p
  | _ => none

theorem start_entry (outcome : Except String Unit) (config : ProcessPluginConfig) (restarts : Bool)
    (stage : LoopStage) : (s.start outcome config restarts stage).2.entry = s.entry := by
  unfold Slot.start
  cases outcome with
  | ok _ => rfl
  | error why => by_cases enabled : config.enabled = true <;> simp [enabled, Slot.launchProcess, Slot.setProcess]

theorem superseded_keeps (sane : Sane s) {act : Act} (undisturbed : Undisturbed s act)
    (step : s.step act = some s') (own : exitOf act = some p) {m : ManagedPlugin}
    (here : s.entry = some m) (current : m.transport = some q) (other : q ≠ p) :
    s'.entry = some m := by
  rw [← here]
  cases act with
  | exit p' success =>
      simp only [Slot.step, Slot.exit] at step
      split at step
      · split at step
        · cases step
          rfl
        · cases step
      · cases step
  | receive p' =>
      cases own
      simp only [Slot.step, Slot.receive] at step
      split at step
      next x at' =>
        split at step
        next event stage waiting =>
          split at step
          · cases step
            rfl
          next ends =>
            cases step
            have notRunning : m.state ≠ .running := by
              intro running
              rcases undisturbed m here running with ⟨x', at'', crash, restarts⟩ | same
              · rw [at'] at at''
                cases at''
                rw [waiting] at crash
                cases crash
                exact ends ⟨rfl, restarts⟩
              · rw [current] at same
                exact other (Option.some.inj same)
            simp [Slot.setProcess, here, Slot.haltRunning, notRunning]
        next => cases step
      next => cases step
  | wake p' =>
      simp only [Slot.step, Slot.wake] at step
      split at step
      · split at step
        · cases step
          rfl
        · cases step
          rfl
        · cases step
      · cases step
  | respawn p' outcome =>
      simp only [Slot.step, Slot.respawn] at step
      split at step
      next x at' =>
        split at step
        next config stage =>
          cases step
          exact start_entry outcome config x.loopRestarts .unwatched
        next => cases step
      next => cases step
  | revive p' =>
      cases own
      simp only [Slot.step, Slot.revive] at step
      split at step
      next x at' =>
        split at step
        next spawned stage =>
          obtain ⟨⟨⟨m', hm', only⟩, -⟩, -⟩ := sane.of_loop at' (by simp [stage, Spawns])
          rw [here] at hm'
          cases hm'
          rw [current] at only
          rcases only with none | same
          · cases none
          · exact absurd (Option.some.inj same) other
        next => cases step
      next => cases step
  | _ => cases own

end SupplyDrop.Proof.Supervision
