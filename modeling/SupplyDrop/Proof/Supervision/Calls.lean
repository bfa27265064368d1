import Mathlib
import SupplyDrop.Proof.Supervision.Phase

namespace SupplyDrop.Proof.Supervision
open Plugin Library
variable {s s' : Slot} {p q : ProcessId} {x y : Process} {id : Nat}

/-! ## Processes stay sane -/

def Records (s : Slot) : Prop :=
  (∀ p, s.next ≤ p → s.processes p = none) ∧
    ∀ p x, s.processes p = some x → Past x → x.running = false

theorem records_setProcess (records : Records s) (here : s.processes p = some x)
    (exited : Past y → y.running = false) : Records (s.setProcess p y) := by
  constructor
  · intro q hq
    simp only [Slot.setProcess] at hq ⊢
    have ne : q ≠ p := by
      rintro rfl
      rw [records.1 q hq] at here
      cases here
    rw [Function.update_of_ne ne]
    exact records.1 q hq
  · intro q z hz past
    simp only [Slot.setProcess] at hz
    by_cases eq : q = p
    · subst eq
      rw [Function.update_self] at hz
      cases hz
      exact exited past
    · rw [Function.update_of_ne eq] at hz
      exact records.2 q z hz past

theorem records_stop (records : Records s) (t : Option ProcessId) : Records (s.stop t) := by
  constructor
  · intro q hq
    rw [stop_next] at hq
    rw [stop_processes, records.1 q hq]
    rfl
  · intro q z hz past
    rw [stop_processes] at hz
    obtain ⟨y, hy, rfl⟩ := Option.map_eq_some_iff.mp hz
    by_cases told : t = some q
    · simp only [told, if_true] at past ⊢
      exact records.2 q y hy past
    · simp only [told, if_false] at past ⊢
      exact records.2 q y hy past

theorem records_launch {config : ProcessPluginConfig} {restarts : Bool} {stage : LoopStage}
    (records : Records s) (waits : stage = .watching ∨ stage = .unwatched) :
    Records (s.launchProcess config restarts stage) := by
  constructor
  · intro q hq
    have later : s.next + 1 ≤ q := hq
    rw [launch_other (Nat.ne_of_gt later)]
    exact records.1 q (Nat.le_of_succ_le later)
  · intro q z hz past
    by_cases eq : q = s.next
    · subst eq
      simp only [Slot.launchProcess, Slot.setProcess, Function.update_self] at hz
      cases hz
      rcases waits with rfl | rfl <;> simp [Past] at past
    · rw [launch_other eq] at hz
      exact records.2 q z hz past

theorem Sane.records (sane : Sane s) : Records s := ⟨sane.fresh, sane.exited⟩

/-! ## Steps of a call -/

theorem not_busy_setEntry {m : ManagedPlugin} (quiet : ¬ Busy s) : ¬ Busy (s.setEntry m) := quiet

theorem only_setCall {call : Call} (quiet : ¬ Busy s) (op : Nat ⊕ ProcessId)
    (busy : UnderWay (s.setCall id (some call)) op) : op = .inl id := by
  cases op with
  | inr p => exact absurd ⟨.inr p, busy⟩ quiet
  | inl id' =>
      by_cases eq : id' = id
      · rw [eq]
      · obtain ⟨call', here⟩ := busy
        simp only [Slot.setCall, Function.update_of_ne eq] at here
        exact absurd ⟨.inl id', call', here⟩ quiet

theorem quiet_clearCall (only : ∀ op, UnderWay s op → op = .inl id) :
    ¬ Busy (s.setCall id none) := by
  rintro ⟨op, busy⟩
  cases op with
  | inr p => cases only (.inr p) busy
  | inl id' =>
      obtain ⟨call, here⟩ := busy
      simp only [Slot.setCall] at here
      by_cases eq : id' = id
      · subst eq
        simp at here
      · rw [Function.update_of_ne eq] at here
        exact eq (Sum.inl.inj (only (.inl id') ⟨call, here⟩))

theorem start_spec (sane : Sane s) (outcome : Except String Unit) (config : ProcessPluginConfig)
    (restarts : Bool) {stage : LoopStage} (waits : stage = .watching ∨ stage = .unwatched) :
    Records (s.start outcome config restarts stage).2 ∧
    (s.start outcome config restarts stage).2.entry = s.entry ∧
    (s.start outcome config restarts stage).2.calls = s.calls ∧
    (∀ op, UnderWay (s.start outcome config restarts stage).2 op ↔ UnderWay s op) ∧
    (∀ p, Untold (s.start outcome config restarts stage).2 p →
      (s.start outcome config restarts stage).1 = .ok p ∨ Untold s p) ∧
    (∀ p x, s.processes p = some x →
      (s.start outcome config restarts stage).2.processes p = some x) := by
  have launched : Records (s.launchProcess config restarts stage) ∧
      (∀ op, UnderWay (s.launchProcess config restarts stage) op ↔ UnderWay s op) ∧
      (∀ p, Untold (s.launchProcess config restarts stage) p → p = s.next ∨ Untold s p) ∧
      (∀ p x, s.processes p = some x →
        (s.launchProcess config restarts stage).processes p = some x) := by
    refine ⟨records_launch sane.records waits, underWay_launch sane ?_, fun _ => untold_launch, ?_⟩
    · rcases waits with rfl | rfl <;> exact id
    · intro p x here
      have ne : p ≠ s.next := by
        rintro rfl
        rw [sane.fresh _ le_rfl] at here
        cases here
      rw [launch_other ne, here]
  obtain ⟨records, ops, untold, kept⟩ := launched
  have ok : ∀ p, Untold (s.launchProcess config restarts stage) p →
      (Except.ok s.next : Spawned) = .ok p ∨ Untold s p := by
    intro p hp
    exact (untold p hp).imp_left fun eq => by rw [eq]
  cases outcome with
  | ok _ => exact ⟨records, rfl, rfl, ops, ok, kept⟩
  | error why =>
      by_cases enabled : config.enabled = true
      · have refused : s.start (.error why) config restarts stage = (.error why, s) := by
          simp [Slot.start, enabled]
        rw [refused]
        exact ⟨sane.records, rfl, rfl, fun _ => Iff.rfl, fun _ => .inr, fun _ _ => id⟩
      · have bare : s.start (.error why) config restarts stage =
            (.ok s.next, s.launchProcess config restarts stage) := by
          simp [Slot.start, enabled]
        rw [bare]
        exact ⟨records, rfl, rfl, ops, ok, kept⟩

theorem Sane.none_untold (sane : Sane s) (quiet : ¬ Busy s)
    (bare : ∀ m, s.entry = some m → m.transport = none) : ¬ Untold s p := by
  intro hp
  obtain ⟨m, hm, tm⟩ := sane.of_quiet quiet hp
  rw [bare m hm] at tm
  cases tm

theorem initPlugin_launched {p : ProcessId} {config : ProcessPluginConfig} {dropIn : Bool}
    (enabled : config.enabled = true) :
    (initPlugin (.ok p) config dropIn).transport = some p := by
  unfold initPlugin
  rw [if_pos enabled]
  rfl

theorem sane_load (sane : Sane s) (quiet : ¬ Busy s) {config : ProcessPluginConfig} {dropIn : Bool}
    {outcome : Except String Unit} (step : s.load config dropIn outcome = some s') : Sane s' := by
  unfold Slot.load at step
  split at step
  · cases step
  next absent =>
  have bare : ∀ m, s.entry = some m → m.transport = none := by
    intro m hm
    simp [hm] at absent
  split at step
  next enabled =>
    have started := start_spec sane outcome config config.restartOnCrash (.inl rfl)
    rcases run : s.start outcome config config.restartOnCrash .watching with ⟨spawned, s₁⟩
    rw [run] at started step
    obtain ⟨records, -, -, ops, untold, -⟩ := started
    cases step
    refine ⟨records.1, records.2, .idle (fun ⟨op, busy⟩ => quiet ⟨op, (ops op).mp busy⟩) fun p hp => ?_⟩
    have launched := (untold p hp).resolve_right (sane.none_untold quiet bare)
    cases launched
    exact ⟨_, rfl, initPlugin_launched enabled⟩
  next =>
    cases step
    exact ⟨sane.fresh, sane.exited,
      .idle quiet fun p hp => absurd hp (sane.none_untold quiet bare)⟩

theorem sane_add (sane : Sane s) (allowed : s.entry.isSome ∨ ¬ Busy s) (toPluginsD : Bool)
    (config : ProcessPluginConfig) : Sane (s.addPlugin id toPluginsD config) := by
  unfold Slot.addPlugin
  split
  · exact sane
  next absent =>
  have quiet := allowed.resolve_left absent
  have bare : ∀ m, s.entry = some m → m.transport = none := by
    intro m hm
    simp [hm] at absent
  refine ⟨sane.fresh, sane.exited, ?_⟩
  have none : ∀ p, ¬ Untold s p := fun p => sane.none_untold quiet bare
  apply Phase.call id _ (Function.update_self ..)
  · exact only_setCall (not_busy_setEntry quiet)
  · split
    next enabled => exact ⟨⟨⟨_, rfl, .inl rfl⟩, fun _ _ => enabled⟩, none⟩
    next => exact ⟨⟨⟨_, rfl, .inl rfl⟩, fun _ eq => by cases eq⟩, fun p hp => absurd hp (none p)⟩

/-- A change of the entry that takes no transport from it but one whose process does not run. -/
theorem sane_setEntry (sane : Sane s) {m m' : ManagedPlugin} (here : s.entry = some m)
    (same : m'.transport = m.transport ∨
      m'.transport = none ∧ ∀ p, m.transport = some p → ¬ Untold s p) :
    Sane (s.setEntry m') := by
  refine ⟨sane.fresh, sane.exited, ?_⟩
  refine sane.phase.mono (fun _ busy => busy) rfl (fun p x hx _ => ⟨x, hx, rfl⟩)
    (fun _ hp => hp) ?_ ?_ ?_
  · intro none
    rw [here] at none
    cases none
  · rintro t ⟨m₀, hm, tm⟩
    rw [here] at hm
    cases hm
    rcases same with same | ⟨bare, -⟩
    · exact ⟨m', rfl, by rwa [same]⟩
    · exact ⟨m', rfl, .inl bare⟩
  · intro p m₀ hp hm tm
    rw [here] at hm
    cases hm
    rcases same with same | ⟨-, dead⟩
    · exact ⟨m', rfl, same.trans tm⟩
    · exact absurd hp (dead p tm)

theorem sane_enable (sane : Sane s)
    (allowed : (∀ m, s.entry = some m → m.transport.isSome ∨ m.state = .starting) ∨ ¬ Busy s) :
    Sane (s.enable id) := by
  unfold Slot.enable
  cases here : s.entry with
  | none => exact sane
  | some m =>
      dsimp only
      split
      next starts =>
        have idle : ¬ (m.transport.isSome ∨ m.state = .starting) := by
          rintro (some | starting)
          · obtain ⟨p, hp⟩ := Option.isSome_iff_exists.mp some
            have noTransport : m.transport.isNone := starts.1
            simp [hp] at noTransport
          · exact starts.2 starting
        have quiet := allowed.resolve_left fun h => idle (h m here)
        have bare : m.transport = none := Option.isNone_iff_eq_none.mp starts.1
        have untold : ∀ p, ¬ Untold s p := by
          intro p
          apply sane.none_untold quiet
          intro m' hm'
          rw [here] at hm'
          cases hm'
          exact bare
        refine ⟨sane.fresh, sane.exited, ?_⟩
        apply Phase.call id _ (Function.update_self ..)
        · exact only_setCall (not_busy_setEntry quiet)
        · exact ⟨⟨⟨_, rfl, .inl bare⟩, fun _ eq => by cases eq⟩, untold⟩
      next => exact sane_setEntry sane here (.inl rfl)

theorem Sane.untold_after_stop (sane : Sane s) (quiet : ¬ Busy s) {m : ManagedPlugin}
    (here : s.entry = some m) : ¬ Untold (s.stop m.transport) p := by
  intro hp
  obtain ⟨before, notTold⟩ := untold_stop hp
  obtain ⟨m', hm', tm'⟩ := sane.of_quiet quiet before
  rw [here] at hm'
  cases hm'
  exact notTold tm'

theorem quiet_stop (quiet : ¬ Busy s) (t : Option ProcessId) : ¬ Busy (s.stop t) :=
  fun ⟨op, busy⟩ => quiet ⟨op, (underWay_stop t op).mp busy⟩

theorem sane_disable (sane : Sane s) (allowed : s.entry = none ∨ ¬ Busy s) : Sane s.disable := by
  unfold Slot.disable
  cases here : s.entry with
  | none => exact sane
  | some m =>
      have quiet := allowed.resolve_left (by simp [here])
      obtain ⟨fresh, exited⟩ := records_stop sane.records m.transport
      refine ⟨fresh, exited, ?_⟩
      exact .idle (quiet_stop quiet _) fun p hp => absurd hp (sane.untold_after_stop quiet here)

theorem sane_restart (sane : Sane s) (allowed : s.entry = none ∨ ¬ Busy s) :
    Sane (s.restartPlugin id) := by
  unfold Slot.restartPlugin
  cases here : s.entry with
  | none => exact sane
  | some m =>
      have quiet := allowed.resolve_left (by simp [here])
      obtain ⟨fresh, exited⟩ := records_stop sane.records m.transport
      refine ⟨fresh, exited, ?_⟩
      apply Phase.call id _ (Function.update_self ..)
      · exact only_setCall (not_busy_setEntry (quiet_stop quiet _))
      · exact ⟨⟨⟨_, rfl, .inl rfl⟩, fun _ eq => by cases eq⟩,
          fun p => sane.untold_after_stop quiet here⟩

theorem sane_remove (sane : Sane s) (allowed : s.entry = none ∨ ¬ Busy s) :
    Sane (s.removePlugin id) := by
  unfold Slot.removePlugin
  cases here : s.entry with
  | none => exact sane
  | some m =>
      have quiet := allowed.resolve_left (by simp [here])
      refine ⟨sane.fresh, sane.exited, ?_⟩
      apply Phase.call id _ (Function.update_self ..)
      · exact only_setCall (s := { s with entry := none }) quiet
      · refine ⟨rfl, fun p hp => ?_⟩
        obtain ⟨m', hm', tm'⟩ := sane.of_quiet quiet hp
        rw [here] at hm'
        cases hm'
        exact tm'

theorem sane_spawn (sane : Sane s) {outcome : Except String Unit}
    (step : s.spawnTransport id outcome = some s') : Sane s' := by
  unfold Slot.spawnTransport at step
  split at step
  next purpose config here =>
    obtain ⟨⟨⟨bare, wanted⟩, none⟩, only⟩ := sane.of_call here
    have started := start_spec sane outcome config config.restartOnCrash (.inl rfl)
    rcases run : s.start outcome config config.restartOnCrash .watching with ⟨spawned, s₁⟩
    rw [run] at started step
    obtain ⟨records, entry, calls, ops, untold, -⟩ := started
    cases step
    refine ⟨records.1, records.2, ?_⟩
    apply Phase.call id _ (Function.update_self ..)
    · intro op busy
      cases op with
      | inr p => exact only _ ((ops _).mp busy)
      | inl id' =>
          by_cases eq : id' = id
          · rw [eq]
          · apply only
            apply (ops _).mp
            obtain ⟨call, at'⟩ := busy
            simp only [Slot.setCall, Function.update_of_ne eq] at at'
            exact ⟨call, at'⟩
    · refine ⟨⟨?_, fun _ _ => wanted⟩, fun p hp => (untold p hp).resolve_right (none p)⟩
      obtain ⟨m, hm, tm⟩ := bare
      exact ⟨m, entry.trans hm, tm⟩
  next => cases step

theorem recorded_transport {purpose : Purpose} {config : ProcessPluginConfig}
    {m : ManagedPlugin} (wanted : Wanted purpose config) :
    ∃ m', Slot.recorded purpose config (.ok p) (some m) = some m' ∧ m'.transport = some p := by
  cases purpose with
  | add toPluginsD => exact ⟨_, rfl, initPlugin_launched (wanted toPluginsD rfl)⟩
  | enable => exact ⟨_, rfl, rfl⟩
  | restart => exact ⟨_, rfl, rfl⟩

theorem sane_record (sane : Sane s) (step : s.record id = some s') : Sane s' := by
  unfold Slot.record at step
  split at step
  next purpose config spawned here =>
    obtain ⟨⟨⟨⟨m, hm, -⟩, wanted⟩, untold⟩, only⟩ := sane.of_call here
    cases step
    refine ⟨sane.fresh, sane.exited, .idle ?_ fun p hp => ?_⟩
    · exact quiet_clearCall (s := { s with entry := _ }) only
    · have launched := untold p hp
      cases launched
      rw [hm]
      exact recorded_transport (wanted p rfl)
  next => cases step

theorem sane_finishRemoval (sane : Sane s) (step : s.finishRemoval id = some s') : Sane s' := by
  unfold Slot.finishRemoval at step
  split at step
  next transport here =>
    obtain ⟨⟨-, untold⟩, only⟩ := sane.of_call here
    cases step
    obtain ⟨fresh, exited⟩ := records_stop sane.records transport
    refine ⟨fresh, exited, .idle ?_ fun p hp => ?_⟩
    · exact quiet_clearCall fun op busy => only op ((underWay_stop transport op).mp busy)
    · obtain ⟨before, notTold⟩ := untold_stop (q := p) hp
      exact absurd (untold p before) notTold
  next => cases step

end SupplyDrop.Proof.Supervision
