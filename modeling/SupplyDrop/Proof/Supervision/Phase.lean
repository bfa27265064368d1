import Mathlib
import SupplyDrop.Plugin.Supervision

namespace SupplyDrop.Proof.Supervision
open Plugin Library

/-! ## Operations under way -/

def Spawns (stage : LoopStage) : Prop :=
  match stage with
  | .respawning _ | .reviving _ => True
  | _ => False

/-- A call, or the exit loop of a process, is between two of its steps. -/
def UnderWay (s : Slot) : Nat ⊕ ProcessId → Prop
  | .inl id => ∃ call, s.calls id = some call
  | .inr p => ∃ x, s.processes p = some x ∧ Spawns x.stage

def Busy (s : Slot) : Prop := ∃ op, UnderWay s op

def Running (s : Slot) (p : ProcessId) : Prop := ∃ x, s.processes p = some x ∧ x.running = true

/-- A process runs that nobody has told to stop. -/
def Untold (s : Slot) (p : ProcessId) : Prop :=
  ∃ x, s.processes p = some x ∧ x.running = true ∧ x.toldToStop = false

/-- The plugin has no transport but `p`. -/
def AtMost (s : Slot) (p : Option ProcessId) : Prop :=
  ∃ m, s.entry = some m ∧ (m.transport = none ∨ m.transport = p)

/-- Nothing is spawned for a plugin that is added disabled. -/
def Wanted (purpose : Purpose) (config : ProcessPluginConfig) : Prop :=
  ∀ toPluginsD, purpose = .add toPluginsD → config.enabled = true

def CallFits (s : Slot) : Call → Prop
  | .spawning purpose config => (AtMost s none ∧ Wanted purpose config) ∧ ∀ p, ¬ Untold s p
  | .recording purpose config spawned =>
      (AtMost s none ∧ ∀ p, spawned = .ok p → Wanted purpose config) ∧
        ∀ p, Untold s p → spawned = .ok p
  | .removing transport => s.entry = none ∧ ∀ p, Untold s p → transport = some p

def LoopFits (s : Slot) (p : ProcessId) (stage : LoopStage) : Prop :=
  AtMost s (some p) ∧ match stage with
    | .respawning _ => ∀ q, ¬ Untold s q
    | .reviving spawned => ∀ q, Untold s q → spawned = .ok q
    | _ => False

/-- What the one operation under way leaves in the plugin's entry and among its processes. -/
inductive Phase (s : Slot) : Prop where
  | idle (quiet : ¬ Busy s)
      (held : ∀ p, Untold s p → ∃ m, s.entry = some m ∧ m.transport = some p)
  | call (id : Nat) (call : Call) (here : s.calls id = some call)
      (only : ∀ op, UnderWay s op → op = .inl id) (fits : CallFits s call)
  | loop (p : ProcessId) (x : Process) (here : s.processes p = some x)
      (only : ∀ op, UnderWay s op → op = .inr p) (fits : LoopFits s p x.stage)

/-- A process whose exit its loop has seen, or can see, no longer runs. -/
def Past (x : Process) : Prop :=
  x.event.isSome ∨ (match x.stage with
    | .delaying | .respawning _ | .reviving _ => True
    | _ => False)

structure Sane (s : Slot) : Prop where
  fresh : ∀ p, s.next ≤ p → s.processes p = none
  exited : ∀ p x, s.processes p = some x → Past x → x.running = false
  phase : Phase s

/-- At most one process of the plugin has not been told to stop. -/
theorem untold_unique {s : Slot} (sane : Sane s) {p q : ProcessId} (hp : Untold s p)
    (hq : Untold s q) : p = q := by
  cases sane.phase with
  | idle quiet held =>
      obtain ⟨m, hm, tm⟩ := held p hp
      obtain ⟨m', hm', tm'⟩ := held q hq
      rw [hm] at hm'
      cases hm'
      rw [tm] at tm'
      exact Option.some.inj tm'
  | call id call here only fits =>
      cases call with
      | spawning purpose config => exact absurd hp (fits.2 p)
      | recording purpose config spawned =>
          have eq := (fits.2 p hp).symm.trans (fits.2 q hq)
          exact Except.ok.inj eq
      | removing transport => exact Option.some.inj ((fits.2 p hp).symm.trans (fits.2 q hq))
  | loop r x here only fits =>
      obtain ⟨-, fits⟩ := fits
      cases stage : x.stage with
      | respawning config =>
          rw [stage] at fits
          exact absurd hp (fits p)
      | reviving spawned =>
          rw [stage] at fits
          exact Except.ok.inj ((fits p hp).symm.trans (fits q hq))
      | _ =>
          rw [stage] at fits
          exact fits.elim

/-! ## What changes and what does not -/

variable {s s' : Slot} {p q : ProcessId} {x y : Process} {id : Nat}

theorem underWay_setProcess (here : s.processes p = some x) (same : Spawns y.stage ↔ Spawns x.stage)
    (op : Nat ⊕ ProcessId) : UnderWay (s.setProcess p y) op ↔ UnderWay s op := by
  cases op with
  | inl id => exact Iff.rfl
  | inr q =>
      simp only [UnderWay, Slot.setProcess]
      by_cases eq : q = p
      · subst eq
        simp [here, same]
      · simp [Function.update_of_ne eq]

theorem untold_setProcess (here : s.processes p = some x)
    (less : y.running = true → y.toldToStop = false → x.running = true ∧ x.toldToStop = false)
    (h : Untold (s.setProcess p y) q) : Untold s q := by
  obtain ⟨z, hz, running, untold⟩ := h
  simp only [Slot.setProcess] at hz
  by_cases eq : q = p
  · subst eq
    rw [Function.update_self] at hz
    cases hz
    exact ⟨x, here, less running untold⟩
  · rw [Function.update_of_ne eq] at hz
    exact ⟨z, hz, running, untold⟩

theorem not_untold_of_stopped (here : s.processes p = some x) (stopped : x.running = false) :
    ¬ Untold s p := by
  rintro ⟨z, hz, running, -⟩
  rw [here] at hz
  cases hz
  rw [stopped] at running
  cases running

theorem stop_entry (t : Option ProcessId) : (s.stop t).entry = s.entry := by
  unfold Slot.stop
  split
  · rfl
  · split <;> rfl

theorem stop_calls (t : Option ProcessId) : (s.stop t).calls = s.calls := by
  unfold Slot.stop
  split
  · rfl
  · split <;> rfl

theorem stop_next (t : Option ProcessId) : (s.stop t).next = s.next := by
  unfold Slot.stop
  split
  · rfl
  · split <;> rfl

/-- A process that is told to stop is as it was but for that. -/
theorem stop_processes (t : Option ProcessId) (q : ProcessId) :
    (s.stop t).processes q =
      (s.processes q).map fun y => if t = some q then { y with toldToStop := true } else y := by
  unfold Slot.stop
  cases t with
  | none => cases s.processes q <;> simp
  | some p =>
      cases here : s.processes p with
      | none =>
          by_cases eq : p = q
          · subst eq
            simp [here]
          · cases h : s.processes q <;> simp [here, eq, h]
      | some x =>
          by_cases eq : p = q
          · subst eq
            simp [Slot.setProcess, here]
          · have other := Ne.symm eq
            cases h : s.processes q <;>
              simp [here, Slot.setProcess, Function.update_of_ne other, eq, h]

theorem underWay_stop (t : Option ProcessId) (op : Nat ⊕ ProcessId) :
    UnderWay (s.stop t) op ↔ UnderWay s op := by
  cases op with
  | inl id => simp [UnderWay, stop_calls]
  | inr q =>
      simp only [UnderWay, stop_processes]
      cases h : s.processes q with
      | none => simp
      | some y => by_cases told : t = some q <;> simp [told]

theorem untold_stop {t : Option ProcessId} (h : Untold (s.stop t) q) :
    Untold s q ∧ t ≠ some q := by
  obtain ⟨z, hz, running, untold⟩ := h
  rw [stop_processes] at hz
  obtain ⟨y, hy, rfl⟩ := Option.map_eq_some_iff.mp hz
  by_cases told : t = some q
  · simp [told] at untold
  · simp only [told, if_false] at running untold
    exact ⟨⟨y, hy, running, untold⟩, told⟩

section
variable {config : ProcessPluginConfig} {restarts : Bool} {stage : LoopStage}

theorem launch_other (ne : q ≠ s.next) :
    (s.launchProcess config restarts stage).processes q = s.processes q := by
  simp [Slot.launchProcess, Slot.setProcess, Function.update_of_ne ne]

theorem untold_launch (h : Untold (s.launchProcess config restarts stage) q) :
    q = s.next ∨ Untold s q := by
  by_cases eq : q = s.next
  · exact .inl eq
  · obtain ⟨z, hz, rest⟩ := h
    rw [launch_other eq] at hz
    exact .inr ⟨z, hz, rest⟩

theorem underWay_launch (sane : Sane s) (waits : ¬ Spawns stage) (op : Nat ⊕ ProcessId) :
    UnderWay (s.launchProcess config restarts stage) op ↔ UnderWay s op := by
  cases op with
  | inl id => exact Iff.rfl
  | inr q =>
      simp only [UnderWay]
      by_cases eq : q = s.next
      · subst eq
        simp [Slot.launchProcess, Slot.setProcess, sane.fresh _ le_rfl, waits]
      · rw [launch_other eq]

end

/-! ## The phase a step finds -/

theorem Sane.of_call (sane : Sane s) {call : Call} (here : s.calls id = some call) :
    CallFits s call ∧ ∀ op, UnderWay s op → op = .inl id := by
  have underWay : UnderWay s (.inl id) := ⟨call, here⟩
  cases sane.phase with
  | idle quiet held => exact absurd ⟨_, underWay⟩ quiet
  | call id' call' here' only fits =>
      cases only _ underWay
      rw [here] at here'
      cases here'
      exact ⟨fits, only⟩
  | loop p x here' only fits => cases only _ underWay

theorem Sane.of_loop (sane : Sane s) (here : s.processes p = some x) (spawns : Spawns x.stage) :
    LoopFits s p x.stage ∧ ∀ op, UnderWay s op → op = .inr p := by
  have underWay : UnderWay s (.inr p) := ⟨x, here, spawns⟩
  cases sane.phase with
  | idle quiet held => exact absurd ⟨_, underWay⟩ quiet
  | call id' call' here' only fits => cases only _ underWay
  | loop p' x' here' only fits =>
      cases only _ underWay
      rw [here] at here'
      cases here'
      exact ⟨fits, only⟩

theorem Sane.of_quiet (sane : Sane s) (quiet : ¬ Busy s) (hp : Untold s p) :
    ∃ m, s.entry = some m ∧ m.transport = some p := by
  cases sane.phase with
  | idle _ held => exact held p hp
  | call id call here only fits => exact absurd ⟨.inl id, call, here⟩ quiet
  | loop p x here only fits =>
      refine absurd ⟨.inr p, x, here, ?_⟩ quiet
      obtain ⟨-, fits⟩ := fits
      cases stage : x.stage with
      | respawning config => trivial
      | reviving spawned => trivial
      | _ =>
          rw [stage] at fits
          exact fits.elim

/-- A step that starts and finishes no operation, and takes the transport only of a process that
does not run, keeps the phase. -/
theorem Phase.mono (h : Phase s) (ops : ∀ op, UnderWay s' op → UnderWay s op)
    (calls : s'.calls = s.calls)
    (stages : ∀ p x, s.processes p = some x → Spawns x.stage →
      ∃ x', s'.processes p = some x' ∧ x'.stage = x.stage)
    (untold : ∀ p, Untold s' p → Untold s p) (gone : s.entry = none → s'.entry = none)
    (bound : ∀ t, AtMost s t → AtMost s' t)
    (held : ∀ p m, Untold s' p → s.entry = some m → m.transport = some p →
      ∃ m', s'.entry = some m' ∧ m'.transport = some p) : Phase s' := by
  cases h with
  | idle quiet heldBy =>
      refine .idle (fun ⟨op, busy⟩ => quiet ⟨op, ops op busy⟩) fun p hp => ?_
      obtain ⟨m, hm, tm⟩ := heldBy p (untold p hp)
      exact held p m hp hm tm
  | call id call here only fits =>
      refine .call id call (by rw [calls, here]) (fun op busy => only op (ops op busy)) ?_
      cases call with
      | spawning purpose config =>
          exact ⟨fits.1.imp_left (bound _), fun p hp => fits.2 p (untold p hp)⟩
      | recording purpose config spawned =>
          exact ⟨fits.1.imp_left (bound _), fun p hp => fits.2 p (untold p hp)⟩
      | removing transport => exact ⟨gone fits.1, fun p hp => fits.2 p (untold p hp)⟩
  | loop p x here only fits =>
      have spawns : Spawns x.stage := by
        obtain ⟨-, fits⟩ := fits
        cases stage : x.stage with
        | respawning config => trivial
        | reviving spawned => trivial
        | _ =>
            rw [stage] at fits
            exact fits.elim
      obtain ⟨x', here', same⟩ := stages p x here spawns
      refine .loop p x' here' (fun op busy => only op (ops op busy)) ?_
      obtain ⟨atMost, fits⟩ := fits
      refine ⟨bound _ atMost, ?_⟩
      rw [same]
      cases stage : x.stage with
      | respawning config =>
          rw [stage] at fits
          exact fun q hq => fits q (untold q hq)
      | reviving spawned =>
          rw [stage] at fits
          exact fun q hq => fits q (untold q hq)
      | _ =>
          rw [stage] at fits
          exact fits.elim

end SupplyDrop.Proof.Supervision
