import Mathlib
import SupplyDrop.Proof.Supervision.ExitLoop

namespace SupplyDrop.Proof.Supervision
open Plugin Library
variable {s s' : Slot} {p q : ProcessId} {x y : Process} {id : Nat}

/-! ## A plugin that is off -/

/-- The state of a plugin, and whether the last of its calls to complete or begin was one that
disabled or removed it. -/
structure Watched where
  slot : Slot
  off : Bool

def offAfter (act : Act) (w : Watched) : Bool :=
  match act with
  | .load _ _ _ | .add _ _ _ | .enable _ | .restart _ => false
  | .disable => w.slot.entry.isSome || w.off
  | .finishRemoval _ => true
  | _ => w.off

def Watched.step (act : Act) (w : Watched) : Option Watched :=
  (w.slot.step act).map fun slot => { slot, off := offAfter act w }

/-- Nothing under way will start a process. -/
structure Off (s : Slot) : Prop where
  spawning : ∀ id purpose config, s.calls id ≠ some (.spawning purpose config)
  recording : ∀ id purpose config spawned, s.calls id ≠ some (.recording purpose config spawned)
  entry : ∀ m, s.entry = some m → m.config.enabled = false
  respawning : ∀ p x config, s.processes p = some x → x.stage = .respawning config →
    config.enabled = false

theorem off_of_quiet (quiet : ¬ Busy s) (entry : ∀ m, s.entry = some m → m.config.enabled = false) :
    Off s where
  spawning := fun id _ _ here => quiet ⟨.inl id, _, here⟩
  recording := fun id _ _ _ here => quiet ⟨.inl id, _, here⟩
  entry := entry
  respawning := fun p x _ here stage => absurd ⟨.inr p, x, here, by simp [stage, Spawns]⟩ quiet

theorem Off.setProcess (off : Off s)
    (stage : ∀ config, y.stage = .respawning config → config.enabled = false) :
    Off (s.setProcess p y) where
  spawning := off.spawning
  recording := off.recording
  entry := off.entry
  respawning := by
    intro q z config hz respawning
    simp only [Slot.setProcess] at hz
    by_cases eq : q = p
    · subst eq
      rw [Function.update_self] at hz
      cases hz
      exact stage config respawning
    · rw [Function.update_of_ne eq] at hz
      exact off.respawning q z config hz respawning

theorem Off.mapEntry (off : Off s) {f : ManagedPlugin → ManagedPlugin}
    (same : ∀ m, (f m).config = m.config) : Off { s with entry := s.entry.map f } where
  spawning := off.spawning
  recording := off.recording
  entry := by
    intro m hm
    obtain ⟨m₀, hm₀, rfl⟩ := Option.map_eq_some_iff.mp hm
    rw [same]
    exact off.entry m₀ hm₀
  respawning := off.respawning

theorem Off.start (off : Off s) (outcome : Except String Unit) (config : ProcessPluginConfig)
    (restarts : Bool) : Off (s.start outcome config restarts .unwatched).2 := by
  have launched : Off (s.launchProcess config restarts .unwatched) := by
    have placed := off.setProcess (p := s.next)
      (y := ⟨config.restartOnCrash, restarts, config.enabled, false, none, .unwatched⟩)
      (fun _ eq => by cases eq)
    exact ⟨placed.spawning, placed.recording, placed.entry, placed.respawning⟩
  unfold Slot.start
  cases outcome with
  | ok _ => exact launched
  | error why => by_cases enabled : config.enabled = true <;> simpa [enabled]

theorem haltRunning_config (m : ManagedPlugin) : (Slot.haltRunning m).config = m.config := by
  unfold Slot.haltRunning
  split <;> rfl

theorem revived_config (spawned : Spawned) (m : ManagedPlugin) :
    (Slot.revived spawned m).config = m.config := by
  cases spawned <;> rfl

theorem Off.watch (off : Off s) (spawned : Spawned) : Off (s.watch spawned) := by
  unfold Slot.watch
  split
  · exact off
  · split
    · exact off
    · exact off.setProcess fun _ eq => by cases eq

theorem off_disable (allowed : s.entry = none ∨ ¬ Busy s)
    (off : s.entry.isSome ∨ Off s) : Off s.disable := by
  unfold Slot.disable
  cases here : s.entry with
  | none => exact off.resolve_left (by simp [here])
  | some m =>
      have quiet := allowed.resolve_left (by simp [here])
      refine off_of_quiet (not_busy_setEntry (quiet_stop quiet m.transport)) ?_
      rintro m' eq
      cases eq
      rfl

theorem off_remove (off : Off s) : Off (s.removePlugin id) := by
  unfold Slot.removePlugin
  cases here : s.entry with
  | none => exact off
  | some m =>
      have other : ∀ id' call, (Function.update s.calls id (some (.removing m.transport))) id' =
          some call → call = .removing m.transport ∨ s.calls id' = some call := by
        intro id' call eq
        by_cases same : id' = id
        · subst same
          rw [Function.update_self] at eq
          exact .inl (Option.some.inj eq).symm
        · rw [Function.update_of_ne same] at eq
          exact .inr eq
      constructor
      · intro id' purpose config eq
        rcases other _ _ eq with removing | before
        · cases removing
        · exact off.spawning _ _ _ before
      · intro id' purpose config spawned eq
        rcases other _ _ eq with removing | before
        · cases removing
        · exact off.recording _ _ _ _ before
      · exact fun _ eq => by cases eq
      · exact off.respawning

theorem off_finishRemoval (sane : Sane s) (step : s.finishRemoval id = some s') : Off s' := by
  unfold Slot.finishRemoval at step
  split at step
  next transport here =>
    obtain ⟨⟨gone, -⟩, only⟩ := sane.of_call here
    cases step
    apply off_of_quiet
    · exact quiet_clearCall fun op busy => only op ((underWay_stop transport op).mp busy)
    · intro m hm
      have absent : (s.stop transport).entry = none := (stop_entry transport).trans gone
      simp only [Slot.setCall] at hm
      rw [absent] at hm
      cases hm
  next => cases step

theorem off_loop (off : Off s) {act : Act} (loop : exitOf act = some p)
    (step : s.step act = some s') : Off s' := by
  cases act with
  | exit p' success =>
      simp only [Slot.step, Slot.exit] at step
      split at step
      next x here =>
        split at step
        · cases step
          exact off.setProcess fun config stage => off.respawning p' x config here stage
        · cases step
      next => cases step
  | receive p' =>
      simp only [Slot.step, Slot.receive] at step
      split at step
      · split at step
        · split at step
          · cases step
            exact off.setProcess fun _ eq => by cases eq
          · cases step
            exact (off.mapEntry haltRunning_config).setProcess fun _ eq => by cases eq
        · cases step
      · cases step
  | wake p' =>
      simp only [Slot.step, Slot.wake] at step
      split at step
      · split at step
        · cases step
          exact off.setProcess fun _ eq => by cases eq
        next m stage entry =>
          cases step
          apply off.setProcess
          intro config eq
          cases eq
          exact off.entry m entry
        · cases step
      · cases step
  | respawn p' outcome =>
      simp only [Slot.step, Slot.respawn] at step
      split at step
      next x here =>
        split at step
        next config stage =>
          cases step
          exact (off.start outcome config x.loopRestarts).setProcess fun _ eq => by cases eq
        next => cases step
      next => cases step
  | revive p' =>
      simp only [Slot.step, Slot.revive] at step
      split at step
      · split at step
        next spawned stage =>
          cases step
          exact ((off.mapEntry (revived_config spawned)).setProcess fun _ eq => by cases eq).watch
            spawned
        next => cases step
      · cases step
  | _ => cases loop

theorem off_step {w w' : Watched} (sane : Sane w.slot) {act : Act}
    (undisturbed : Undisturbed w.slot act) (fits : w.off = true → Off w.slot)
    (step : w.step act = some w') (still : w'.off = true) : Off w'.slot := by
  obtain ⟨slot, next, rfl⟩ := Option.map_eq_some_iff.mp step
  cases act with
  | load config dropIn outcome => cases still
  | add id toPluginsD config => cases still
  | enable id => cases still
  | restart id => cases still
  | disable =>
      cases next
      apply off_disable undisturbed
      have which : w.slot.entry.isSome ∨ w.off = true := by simpa [offAfter] using still
      exact which.imp_right fits
  | remove id =>
      cases ifNew_eq next
      exact off_remove (fits still)
  | spawn id outcome =>
      simp only [Slot.step, Slot.spawnTransport] at next
      split at next
      next purpose config here => exact absurd here ((fits still).spawning _ _ _)
      next => cases next
  | record id =>
      simp only [Slot.step, Slot.record] at next
      split at next
      next purpose config spawned here => exact absurd here ((fits still).recording _ _ _ _)
      next => cases next
  | finishRemoval id => exact off_finishRemoval sane next
  | exit p success => exact off_loop (fits still) rfl next
  | receive p => exact off_loop (fits still) rfl next
  | wake p => exact off_loop (fits still) rfl next
  | respawn p outcome => exact off_loop (fits still) rfl next
  | revive p => exact off_loop (fits still) rfl next

theorem running_setProcess (here : s.processes p = some x)
    (less : y.running = true → x.running = true) (h : Running (s.setProcess p y) q) :
    Running s q := by
  obtain ⟨z, hz, running⟩ := h
  simp only [Slot.setProcess] at hz
  by_cases eq : q = p
  · subst eq
    rw [Function.update_self] at hz
    cases hz
    exact ⟨x, here, less running⟩
  · rw [Function.update_of_ne eq] at hz
    exact ⟨z, hz, running⟩

theorem running_stop {t : Option ProcessId} (h : Running (s.stop t) q) : Running s q := by
  obtain ⟨z, hz, running⟩ := h
  rw [stop_processes] at hz
  obtain ⟨y, hy, rfl⟩ := Option.map_eq_some_iff.mp hz
  refine ⟨y, hy, ?_⟩
  split at running <;> exact running

theorem running_start (outcome : Except String Unit) {config : ProcessPluginConfig}
    (restarts : Bool) (stage : LoopStage) (disabled : config.enabled = false)
    (h : Running (s.start outcome config restarts stage).2 q) : Running s q := by
  have launched : Running (s.launchProcess config restarts stage) q → Running s q := by
    rintro ⟨z, hz, running⟩
    by_cases eq : q = s.next
    · subst eq
      simp only [Slot.launchProcess, Slot.setProcess, Function.update_self] at hz
      cases hz
      rw [disabled] at running
      cases running
    · rw [launch_other eq] at hz
      exact ⟨z, hz, running⟩
  unfold Slot.start at h
  cases outcome with
  | ok _ => exact launched h
  | error why =>
      simp only [disabled, Bool.false_eq_true, if_false] at h
      exact launched h

theorem running_watch {spawned : Spawned} (h : Running (s.watch spawned) q) : Running s q := by
  unfold Slot.watch at h
  split at h
  · exact h
  · split at h
    · exact h
    next y here => exact running_setProcess (y := { y with stage := .watching }) here id h

theorem not_started_of_loop (sane : Sane s) (off : Off s) {act : Act} (loop : exitOf act = some p)
    (step : s.step act = some s') (h : Running s' q) : Running s q := by
  cases act with
  | exit p' success =>
      simp only [Slot.step, Slot.exit] at step
      split at step
      next x here =>
        split at step
        · cases step
          exact running_setProcess here (fun running => by cases running) h
        · cases step
      next => cases step
  | receive p' =>
      simp only [Slot.step, Slot.receive] at step
      split at step
      next x here =>
        split at step
        · split at step
          · cases step
            exact running_setProcess (y := { x with event := none, stage := .delaying }) here id h
          · cases step
            exact running_setProcess (s := { s with entry := s.entry.map Slot.haltRunning })
              (y := { x with event := none, stage := .over }) here id h
        · cases step
      next => cases step
  | wake p' =>
      simp only [Slot.step, Slot.wake] at step
      split at step
      next x here =>
        split at step
        · cases step
          exact running_setProcess (y := { x with stage := .over }) here id h
        next m _ _ =>
          cases step
          exact running_setProcess (y := { x with stage := .respawning m.config }) here id h
        · cases step
      next => cases step
  | respawn p' outcome =>
      simp only [Slot.step, Slot.respawn] at step
      split at step
      next x here =>
        split at step
        next config stage =>
          cases step
          have disabled := off.respawning p' x config here stage
          apply running_start outcome x.loopRestarts .unwatched disabled
          obtain ⟨-, -, -, -, -, kept⟩ := start_spec sane outcome config x.loopRestarts (.inr rfl)
          exact running_setProcess (y := { x with stage := .reviving _ }) (kept p' x here) id h
        next => cases step
      next => cases step
  | revive p' =>
      simp only [Slot.step, Slot.revive] at step
      split at step
      next x here =>
        split at step
        next spawned stage =>
          cases step
          exact running_setProcess (s := { s with entry := s.entry.map (Slot.revived spawned) })
            (y := { x with stage := .over }) here id (running_watch h)
        next => cases step
      next => cases step
  | _ => cases loop

theorem not_started (sane : Sane s) (off : Off s) {act : Act}
    (loaded : ∀ config dropIn outcome, act ≠ .load config dropIn outcome)
    (step : s.step act = some s') (h : Running s' q) : Running s q := by
  cases act with
  | load config dropIn outcome => exact absurd rfl (loaded config dropIn outcome)
  | add id toPluginsD config =>
      cases ifNew_eq step
      unfold Slot.addPlugin at h
      split at h <;> exact h
  | enable id =>
      cases ifNew_eq step
      unfold Slot.enable at h
      split at h
      · exact h
      · dsimp only at h
        split at h <;> exact h
  | disable =>
      cases step
      unfold Slot.disable at h
      split at h
      · exact h
      · exact running_stop h
  | restart id =>
      cases ifNew_eq step
      unfold Slot.restartPlugin at h
      split at h
      · exact h
      · exact running_stop h
  | remove id =>
      cases ifNew_eq step
      unfold Slot.removePlugin at h
      split at h <;> exact h
  | spawn id outcome =>
      simp only [Slot.step, Slot.spawnTransport] at step
      split at step
      next purpose config here => exact absurd here (off.spawning _ _ _)
      next => cases step
  | record id =>
      simp only [Slot.step, Slot.record] at step
      split at step
      next purpose config spawned here => exact absurd here (off.recording _ _ _ _)
      next => cases step
  | finishRemoval id =>
      simp only [Slot.step, Slot.finishRemoval] at step
      split at step
      next transport here =>
        cases step
        exact running_stop h
      next => cases step
  | exit p success => exact not_started_of_loop sane off rfl step h
  | receive p => exact not_started_of_loop sane off rfl step h
  | wake p => exact not_started_of_loop sane off rfl step h
  | respawn p outcome => exact not_started_of_loop sane off rfl step h
  | revive p => exact not_started_of_loop sane off rfl step h

end SupplyDrop.Proof.Supervision
