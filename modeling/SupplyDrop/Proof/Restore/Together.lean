import Mathlib
import SupplyDrop.Proof.Restore.CrashSafety

namespace SupplyDrop.Proof.Restore
open SupplyDrop.Restore Library
variable {C : Type} {site : Site C} {start : Start} {m p c : C} {w cfg : Option C} {n : Nat}
  {t₀ t : Files RestoreFile C}

/-- The process stops between the swap and the config's taking its place, or between the dropping
of a rejected restore's config and the setting aside of its database. -/
def StopsApart (start : Start) : Prop :=
  StopsAfterSwap start ∨ start.fate (.rename .pending .failed) = .dies

/-- The database is the old one, or the old one with its WAL folded. -/
def Unreplaced (site : Site C) (m : C) (w main wal : Option C) : Prop :=
  main = some m ∧ (wal = w ∨ wal = none) ∨
    main = some (contents site m w) ∧ (wal = none ∨ wal = some site.emptied)

theorem unreplaced_steady (site : Site C) (m : C) (w : Option C) :
    Steady site fun main wal _ => Unreplaced site m w main wal where
  folded := by
    rintro d w' - (⟨main, rfl | none⟩ | ⟨main, none | emptied⟩)
    · cases main
      exact .inr ⟨rfl, .inr rfl⟩
    · cases none
    · cases none
    · cases emptied
      rw [site.replay_emptied]
      exact .inr ⟨main, .inr rfl⟩
  gone := by
    rintro d w' - (⟨main, -⟩ | ⟨main, -⟩) -
    · exact .inl ⟨main, .inr rfl⟩
    · exact .inr ⟨main, .inl rfl⟩
  noShm := fun _ _ _ unreplaced => unreplaced

theorem unreplaced_db {db wal : Option C} (unreplaced : Unreplaced site m w db wal) :
    ∃ d, db = some d := by
  rcases unreplaced with ⟨main, -⟩ | ⟨main, -⟩ <;> exact ⟨_, main⟩

theorem unreplaced_noWal {db wal : Option C} (unreplaced : Unreplaced site m w db wal) :
    Unreplaced site m w db none := by
  rcases unreplaced with ⟨main, -⟩ | ⟨main, -⟩
  · exact .inl ⟨main, .inr rfl⟩
  · exact .inr ⟨main, .inl rfl⟩

/-! ## Database and config -/

/-- Database and config were both taken, or neither was, or the config could not be merged and the
database was taken alone. -/
inductive Together (site : Site C) (m p c : C) (w cfg db config : Option C) : Prop where
  | both {merged : C} (restored : db = some p) (merges : Merges site c cfg merged)
      (taken : config = some merged)
  | neither (kept : db = some m ∨ db = some (contents site m w)) (same : config = cfg)
  | alone (restored : db = some p) (unmerged : ¬ ∃ merged, Merges site c cfg merged)
      (same : config = cfg)

/-- The restore is confirmed and neither part of it is taken. -/
abbrev Waiting (site : Site C) (m p c : C) (w cfg : Option C) : Layout C → Prop :=
  Before (fun main wal _ => Unreplaced site m w main wal) p (some c) cfg

def Finished (site : Site C) (m p c : C) (w cfg : Option C) (l : Layout C) : Prop :=
  l.pending = none ∧ Together site m p c w cfg l.db l.config

theorem together_of_unreplaced {db wal config : Option C}
    (unreplaced : Unreplaced site m w db wal) (same : config = cfg) :
    Together site m p c w cfg db config :=
  .neither (unreplaced.imp And.left And.left) same

theorem together_of_settled {S : Option C → Option C → Option C → Prop} {l l' : Layout C}
    (smooth : ¬ SomeFails start) (after : After S p (some c) cfg l) (retired : l.pending = none)
    (settled : ConfigSettled site start l l') : Finished site m p c w cfg l' := by
  obtain ⟨rest, -, config⟩ := settled
  have db : l'.db = some p := by
    rw [rest]
    exact after.db
  have pending : l'.pending = none := by
    rw [rest]
    exact retired
  refine ⟨pending, ?_⟩
  rcases config with ⟨c', merged, included, merges, taken⟩ | ⟨same, unmerged⟩
  · rw [after.pendingConfig] at included
    cases included
    rw [after.config] at merges
    exact .both db merges taken
  · have reason := (unmerged c after.pendingConfig).resolve_right smooth
    rw [after.config] at reason same
    exact .alone db reason same

/-! ## One start -/

theorem restart_finished (smooth : ¬ SomeFails start)
    (finished : Finished site m p c w cfg (layout n t₀)) :
    Ends (fun t => Waiting site m p c w cfg (layout n t) ∨ Finished site m p c w cfg (layout n t))
      (fun _ => False) (fun t => t = t₀) (applyPendingRestore site start)
      fun _ t => (layout n t).pendingConfig = none ∧ Finished site m p c w cfg (layout n t) := by
  have missing : t₀.look .pending = none := finished.1
  apply Ends.bind (Q := fun there t => there = false ∧ t = t₀)
  · apply Ends.isThere
    rintro t rfl
    exact ⟨by simp [Files.has, missing], rfl⟩
  intro there
  apply Ends.given
  rintro rfl
  apply Ends.bind (Q := fun _ t => (layout n t).pendingConfig = none ∧
    Finished site m p c w cfg (layout n t))
  · apply Ends.ignoring
    apply Ends.remove
    · rintro - t rfl
      exact .inr finished
    · rintro t rfl (⟨why, failed⟩ | ⟨-, none⟩)
      · exact absurd ⟨_, why, by simp, failed⟩ smooth
      · exact ⟨none, finished⟩
    · rintro - t rfl
      rw [layout_drop]
      exact ⟨rfl, finished⟩
  · exact fun _ => Ends.ret fun _ ht => ht

/-- The config of a rejected restore is gone, its database not yet set aside. -/
def Dropped (site : Site C) (m p c : C) (w cfg : Option C) (l : Layout C) : Prop :=
  l.pendingConfig = none ∧ l.pending = some p ∧ Together site m p c w cfg l.db l.config

theorem dropConfig_ends (smooth : ¬ SomeFails start) :
    Ends (fun t => Waiting site m p c w cfg (layout n t) ∨ Finished site m p c w cfg (layout n t))
      (fun _ => False) (fun t => Waiting site m p c w cfg (layout n t))
      (Disk.ignoring (Disk.remove start.fate .pendingConfig))
      fun _ t => Dropped site m p c w cfg (layout n t) := by
  apply Ends.ignoring
  apply Ends.remove
  · exact fun _ t ht => .inl ht
  · rintro t ht (⟨why, failed⟩ | ⟨-, none⟩)
    · exact absurd ⟨_, why, by simp, failed⟩ smooth
    · have included : t.look .pendingConfig = some c := ht.pendingConfig
      rw [none] at included
      cases included
  · intro _ t ht
    rw [layout_drop]
    exact ⟨rfl, ht.pending, together_of_unreplaced ht.live ht.config⟩

theorem setAsideDropped_ends (smooth : ¬ SomeFails start) (whole : ¬ StopsApart start) :
    Ends (fun t => Waiting site m p c w cfg (layout n t) ∨ Finished site m p c w cfg (layout n t))
      (fun _ => False) (fun t => Dropped site m p c w cfg (layout n t)) (setAside start .failed)
      fun _ t => (layout n t).pendingConfig = none ∧ Finished site m p c w cfg (layout n t) := by
  apply Ends.bind (Q := fun _ t => (layout n t).pendingConfig = none ∧
    Finished site m p c w cfg (layout n t))
  · apply Ends.tried (F := fun _ => False)
    · apply Ends.rename
      · exact fun dies => absurd (.inr dies) whole
      · rintro t ht (⟨why, failed⟩ | ⟨-, none⟩)
        · exact smooth ⟨_, why, by simp, failed⟩
        · have there : t.look .pending = some p := ht.2.1
          rw [none] at there
          cases there
      · intro _ t c' ht _
        rw [layout_store, layout_drop]
        exact ⟨ht.1, rfl, ht.2.2⟩
    · exact fun _ _ ht => ht.elim
  · intro r
    cases r <;> exact Ends.ret fun _ ht => ht

theorem restart_waiting (smooth : ¬ SomeFails start) (whole : ¬ StopsApart start)
    (stamp : n = nextSnapshotStamp start (checkpointed site start t₀))
    (waiting : Waiting site m p c w cfg (layout n t₀)) :
    Ends (fun t => Waiting site m p c w cfg (layout n t) ∨ Finished site m p c w cfg (layout n t))
      (fun _ => False) (fun t => t = t₀) (applyPendingRestore site start)
      fun _ t => (layout n t).pendingConfig = none ∧ Finished site m p c w cfg (layout n t) := by
  have tidies : ¬ StopsAfterSwap start := fun stops => whole (.inl stops)
  have pending : t₀.look .pending = some p := waiting.pending
  obtain ⟨d, db⟩ := unreplaced_db waiting.live
  apply Ends.bind (Q := fun there t => there = true ∧ t = t₀)
  · apply Ends.isThere
    rintro t rfl
    exact ⟨by simp [Files.has, pending], rfl⟩
  intro there
  apply Ends.given
  rintro rfl
  apply Ends.bind_tried
    (Q := fun taken t => taken.1 = some n ∧ (layout n t).pending = none ∧
      After (fun main wal _ => Unreplaced site m w main wal) p (some c) cfg (layout n t))
    (F := fun t => Waiting site m p c w cfg (layout n t))
  · apply ((apply_ends (unreplaced_steady site m w) stamp waiting db
      fun _ _ _ _ unreplaced => unreplaced_noWal unreplaced).weaken _ fun _ ht => ht).conseq
        (fun _ ht => ht)
    · rintro ⟨snapshot, hasWalCopy⟩ t ⟨taken, after, retired⟩
      refine ⟨taken, retired.resolve_right ?_, after⟩
      rintro ⟨why, failed⟩
      exact smooth ⟨_, why, by simp, failed⟩
    · rintro t (before | ⟨-, stops⟩)
      · exact .inl before
      · exact absurd stops tidies
  · rintro ⟨snapshot, hasWalCopy⟩
    apply Ends.given
    rintro rfl
    have settling : ∀ l, l.pending = none →
        After (fun main wal _ => Unreplaced site m w main wal) p (some c) cfg l →
        Ends (fun t => Waiting site m p c w cfg (layout n t) ∨
            Finished site m p c w cfg (layout n t)) (fun _ => False) (fun t => layout n t = l)
          (applyPendingConfig site start)
          fun _ t => (layout n t).pendingConfig = none ∧
            Finished site m p c w cfg (layout n t) := by
      intro l retired after
      apply (applyPendingConfig_ends.weaken _ fun _ ht => ht).conseq (fun _ ht => ht)
      · rintro _ t ⟨settled, used⟩
        exact ⟨used.resolve_right smooth, together_of_settled smooth after retired settled⟩
      · rintro t (⟨-, stops⟩ | settled)
        · exact absurd stops tidies
        · exact .inr (together_of_settled smooth after retired settled)
    apply Ends.bind (Q := fun _ t => (layout n t).pending = none ∧
      After (fun main wal _ => Unreplaced site m w main wal) p (some c) cfg (layout n t))
    · apply (pruneOldSnapshots_ends (Q := fun l => l.pending = none ∧
        After (fun main wal _ => Unreplaced site m w main wal) p (some c) cfg l)).weaken
      · exact fun _ ht => absurd ht.2 tidies
      · exact fun _ ht => ht
    intro _
    apply Ends.bind (Q := fun _ t => (layout n t).pendingConfig = none ∧
      Finished site m p c w cfg (layout n t))
    · exact fun t ht => settling _ ht.1 ht.2 t rfl
    · exact fun _ => Ends.ret fun _ ht => ht
  · intro reason
    apply Ends.bind (dropConfig_ends smooth)
    intro _
    apply Ends.bind (setAsideDropped_ends smooth whole)
    exact fun _ => Ends.ret fun _ ht => ht

theorem restart_ends (smooth : ¬ SomeFails start) (whole : ¬ StopsApart start)
    (stamp : n = nextSnapshotStamp start (checkpointed site start t₀))
    (standing : Waiting site m p c w cfg (layout n t₀) ∨ Finished site m p c w cfg (layout n t₀)) :
    (Waiting site m p c w cfg (layout n (applyPendingRestore site start t₀).2) ∨
      Finished site m p c w cfg (layout n (applyPendingRestore site start t₀).2)) ∧
    ∀ outcome, (applyPendingRestore site start t₀).1 = .ok outcome →
      (layout n (applyPendingRestore site start t₀).2).pendingConfig = none ∧
      Finished site m p c w cfg (layout n (applyPendingRestore site start t₀).2) := by
  have ends : Ends
      (fun t => Waiting site m p c w cfg (layout n t) ∨ Finished site m p c w cfg (layout n t))
      (fun _ => False) (fun t => t = t₀) (applyPendingRestore site start)
      fun _ t => (layout n t).pendingConfig = none ∧ Finished site m p c w cfg (layout n t) :=
    standing.elim (restart_waiting smooth whole stamp) (restart_finished smooth)
  have left := ends t₀ rfl
  rcases run : applyPendingRestore site start t₀ with ⟨r, t'⟩
  rw [run] at left
  cases r with
  | ok outcome => exact ⟨.inr left.2, fun _ _ => left⟩
  | error halt =>
      cases halt with
      | failed why => exact left.elim
      | died => exact ⟨left, fun _ eq => by cases eq⟩

/-! ## Over a run of starts -/

/-- A layout that does not look at the snapshots is the same for every stamp. -/
theorem standing_any {k : Nat}
    (standing : Waiting site m p c w cfg (layout n t) ∨ Finished site m p c w cfg (layout n t)) :
    Waiting site m p c w cfg (layout k t) ∨ Finished site m p c w cfg (layout k t) := by
  rcases standing with ⟨live, pending, pendingConfig, config⟩ | finished
  · exact .inl ⟨live, pending, pendingConfig, config⟩
  · exact .inr finished

/-- In a run of starts in which no operation fails and no start stops between the two parts of a
restore, every start that completes leaves nothing pending, and both parts taken or neither, or,
when the config can't be merged, the database alone. -/
theorem restore_settles (site : Site C) (m p c : C) (w cfg : Option C)
    (t₀ t : Files RestoreFile C) (main : t₀.look .db = some m)
    (wal : t₀.look (.sidecar .wal) = w) (confirmed : t₀.look .pending = some p)
    (included : t₀.look .pendingConfig = some c) (config : t₀.look .config = cfg)
    (run : Reaches (Restart site) (fun start _ => ¬ SomeFails start ∧ ¬ StopsApart start) t₀ t)
    (start : Start) (smooth : ¬ SomeFails start) (whole : ¬ StopsApart start)
    (outcome : ApplyOutcome) (completes : (applyPendingRestore site start t).1 = .ok outcome) :
    (applyPendingRestore site start t).2.look .pending = none ∧
    (applyPendingRestore site start t).2.look .pendingConfig = none ∧
    Together site m p c w cfg ((applyPendingRestore site start t).2.look .db)
      ((applyPendingRestore site start t).2.look .config) := by
  have standing : Waiting site m p c w cfg (layout 0 t) ∨
      Finished site m p c w cfg (layout 0 t) := by
    apply run.invariant
      (I := fun t => Waiting site m p c w cfg (layout 0 t) ∨ Finished site m p c w cfg (layout 0 t))
    · exact .inl ⟨.inl ⟨main, .inl wal⟩, confirmed, included, config⟩
    · rintro start t t' standing ⟨smooth, whole⟩ rfl
      exact standing_any (restart_ends smooth whole rfl (standing_any standing)).1
  obtain ⟨used, pending, together⟩ :=
    (restart_ends smooth whole rfl (standing_any standing)).2 outcome completes
  exact ⟨pending, used, together⟩

/-! ## A restore with settings -/

def settingsFiles : Files RestoreFile (List Nat) :=
  (confirmedFiles.store .pendingConfig [7]).store .config [5]

def settingsSite : Site (List Nat) := { logSite with configPath := some "config.toml" }

theorem smooth_stoppedAt (op : FileOp RestoreFile) (checkpoint : Checkpoint) :
    ¬ SomeFails (stoppedAt op checkpoint) := by
  rintro ⟨other, why, -, failed⟩
  simp only [stoppedAt] at failed
  split at failed <;> cases failed

theorem whole_stoppedAt {op : FileOp RestoreFile} (before : afterSwap op = false)
    (other : op ≠ .rename .pending .failed) (checkpoint : Checkpoint) :
    ¬ StopsApart (stoppedAt op checkpoint) := by
  have only : ∀ op', (stoppedAt op checkpoint).fate op' = .dies → op' = op := by
    intro op' dies
    simp only [stoppedAt] at dies
    split at dies
    · assumption
    · cases dies
  rintro (⟨op', after, dies⟩ | dies)
  · rw [only op' dies, before] at after
    cases after
  · exact other (only _ dies).symm

def runsThrough (checkpoint : Checkpoint) : Start :=
  { stoppedAt .list checkpoint with fate := fun _ => .done }

theorem smooth_runsThrough (checkpoint : Checkpoint) : ¬ SomeFails (runsThrough checkpoint) := by
  rintro ⟨_, _, -, failed⟩
  cases failed

theorem whole_runsThrough (checkpoint : Checkpoint) : ¬ StopsApart (runsThrough checkpoint) := by
  rintro (⟨_, -, dies⟩ | dies) <;> cases dies

theorem restore_settles_retried :
    Together settingsSite [1] [9] [7] (some [2]) (some [5])
      ((applyPendingRestore settingsSite (runsThrough (.folded false))
        (applyPendingRestore settingsSite (stoppedAt (.rename .pending .db) (.folded true))
          settingsFiles).2).2.look .db)
      ((applyPendingRestore settingsSite (runsThrough (.folded false))
        (applyPendingRestore settingsSite (stoppedAt (.rename .pending .db) (.folded true))
          settingsFiles).2).2.look .config) :=
  (restore_settles settingsSite [1] [9] [7] (some [2]) (some [5]) settingsFiles _ rfl rfl rfl rfl rfl
    (.step .start ⟨smooth_stoppedAt _ _, whole_stoppedAt rfl (by simp) _⟩ rfl)
    (runsThrough (.folded false)) (smooth_runsThrough _) (whole_runsThrough _)
    (.applied (some 101) false (.applied (some .preRestore))) (by decide +kernel)).2.2

/-- Where the config is is not known: the database is restored, the settings are not. -/
theorem settings_left_behind :
    (∀ op why, (runsThrough (.folded true)).fate op ≠ .fails why) ∧
    settingsFiles.look .pending = some [9] ∧ settingsFiles.look .pendingConfig = some [7] ∧
    (applyPendingRestore logSite (runsThrough (.folded true)) settingsFiles).1 =
      .ok (.applied (some 100) false (.failed
        "the location of the config file is not known, so it was not restored")) ∧
    (applyPendingRestore logSite (runsThrough (.folded true)) settingsFiles).2.look
      .pending = none ∧
    (applyPendingRestore logSite (runsThrough (.folded true)) settingsFiles).2.look
      .pendingConfig = none ∧
    (applyPendingRestore logSite (runsThrough (.folded true)) settingsFiles).2.look
      .db = some [9] ∧
    (applyPendingRestore logSite (runsThrough (.folded true)) settingsFiles).2.look
      .config = some [5] := by
  refine ⟨?_, rfl, rfl, ?_⟩
  · intro op why failed
    cases failed
  · decide +kernel

end SupplyDrop.Proof.Restore
