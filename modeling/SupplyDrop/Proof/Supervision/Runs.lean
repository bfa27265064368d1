import Mathlib
import SupplyDrop.Library.Run
import SupplyDrop.Proof.Supervision.Off

namespace SupplyDrop.Proof.Supervision
open Plugin Library

/-! ## Over a run of the manager -/

def ManagerStep (label : String × Act) (s s' : String → Watched) : Prop :=
  ∃ w, (s label.1).step label.2 = some w ∧ s' = Function.update s label.1 w

def fresh : String → Watched := fun _ => ⟨.empty, false⟩

/-- What a step on one plugin must not do. -/
structure StepSafe (act : Act) (w w' : Watched) : Prop where
  superseded : ∀ p m q, exitOf act = some p → w.slot.entry = some m → m.transport = some q →
    q ≠ p → w'.slot.entry = some m
  notStarted : w.off = true → (∀ config dropIn outcome, act ≠ .load config dropIn outcome) →
    ∀ p, Running w'.slot p → Running w.slot p

def Standing (w : Watched) : Prop := Sane w.slot ∧ (w.off = true → Off w.slot)

theorem standing_step {w w' : Watched} (standing : Standing w) {act : Act}
    (undisturbed : Undisturbed w.slot act) (step : w.step act = some w') : Standing w' := by
  obtain ⟨sane, off⟩ := standing
  obtain ⟨slot, next, eq⟩ := Option.map_eq_some_iff.mp step
  refine ⟨?_, off_step sane undisturbed off step⟩
  rw [← eq]
  exact sane_step sane undisturbed next

theorem stepSafe_of_standing {w w' : Watched} (standing : Standing w) {act : Act}
    (undisturbed : Undisturbed w.slot act) (step : w.step act = some w') : StepSafe act w w' := by
  obtain ⟨sane, off⟩ := standing
  obtain ⟨slot, next, rfl⟩ := Option.map_eq_some_iff.mp step
  exact ⟨fun p m q own here current other =>
      superseded_keeps sane undisturbed next own here current other,
    fun isOff loaded p => not_started sane (off isOff) loaded next⟩

def weatherConfig (restartOnCrash : Bool) : ProcessPluginConfig :=
  ⟨"weather", "/usr/bin/weather", [], true, restartOnCrash, 5⟩

def loaded : String → Watched :=
  Function.update fresh "weather"
    ⟨(Slot.empty.launchProcess (weatherConfig true) true .watching).setEntry
      (initPlugin (.ok 0) (weatherConfig true) false), false⟩

theorem quiet_empty : ¬ Busy .empty := by
  rintro ⟨id | p, _, here⟩
  · cases here
  · cases here.1

def play : List Act → Watched → Option Watched
  | [], w => some w
  | act :: rest, w => (w.step act).bind (play rest)

theorem reaches_play (name : String) (acts : List Act) {s : String → Watched} {w : Watched}
    (run : Reaches ManagerStep (fun _ _ => True) fresh s) (played : play acts (s name) = some w) :
    ∃ t, Reaches ManagerStep (fun _ _ => True) fresh t ∧ t name = w := by
  induction acts generalizing s with
  | nil =>
      cases played
      exact ⟨s, run, rfl⟩
  | cons act rest ih =>
      obtain ⟨next, step, later⟩ := Option.bind_eq_some_iff.mp played
      have taken : ManagerStep (name, act) s (Function.update s name next) := ⟨next, step, rfl⟩
      apply ih (run.step trivial taken)
      simpa using later

/-- A plugin is restarted, and the process it had exits once the new one is recorded. -/
def restartedActs (restartOnCrash : Bool) : List Act :=
  [.load (weatherConfig restartOnCrash) false (.ok ()), .restart 7, .spawn 7 (.ok ()), .record 7,
    .exit 0 false]

def restartedEntry : ManagedPlugin where
  config := weatherConfig false
  fromPluginsD := false
  state := .running
  restartCount := 1
  transport := some 1

end SupplyDrop.Proof.Supervision
