import Mathlib
import SupplyDrop.Library.Run
import SupplyDrop.Proof.Restore.Apply
import SupplyDrop.Proof.Restore.Config

namespace SupplyDrop.Proof.Restore
open SupplyDrop.Restore Library
variable {C : Type} {site : Site C} {start : Start} {S : Option C → Option C → Option C → Prop}
  {p : C} {n : Nat} {t₀ : Files RestoreFile C}

def Restart (site : Site C) (start : Start) (t t' : Files RestoreFile C) : Prop :=
  (applyPendingRestore site start t).2 = t'

/-! ## What a start leaves -/

/-- The live database has not been replaced. -/
def Still (S : Option C → Option C → Option C → Prop) (p : C) (l : Layout C) : Prop :=
  S l.db l.wal l.shm ∧ (l.pending = none ∨ l.pending = some p)

structure Swapped (S : Option C → Option C → Option C → Prop) (p : C) (l : Layout C) : Prop where
  db : l.db = some p
  wal : l.wal = none
  shm : l.shm = none
  pending : l.pending = none ∨ l.pending = some p
  saved : S l.snapshot l.snapshotWal none

theorem Before.still {c cfg : Option C} {l : Layout C} (before : Before S p c cfg l) :
    Still S p l := ⟨before.live, .inr before.pending⟩

theorem After.swapped {c cfg : Option C} {l : Layout C} (after : After S p c cfg l) :
    Swapped S p l := ⟨after.db, after.wal, after.shm, after.pending, after.saved⟩

theorem ConfigSettled.swapped {l l' : Layout C} (settled : ConfigSettled site start l l')
    (swapped : Swapped S p l) : Swapped S p l' := by
  obtain ⟨db, wal, shm, pending, saved⟩ := swapped
  rw [settled.rest]
  exact ⟨db, wal, shm, pending, saved⟩

theorem discardConfig_ends {E : Files RestoreFile C → Prop} :
    Ends (fun t => Still S p (layout n t)) E (fun t => Still S p (layout n t))
      (Disk.ignoring (Disk.remove start.fate .pendingConfig))
      fun _ t => Still S p (layout n t) := by
  apply Ends.ignoring
  apply Ends.remove
  · exact fun _ _ ht => ht
  · exact fun _ ht _ => ht
  · intro _ t ht
    rw [layout_drop]
    exact ht

theorem setAsideFailed_ends {E : Files RestoreFile C → Prop} :
    Ends (fun t => Still S p (layout n t)) E (fun t => Still S p (layout n t))
      (setAside start .failed) fun _ t => Still S p (layout n t) := by
  apply Ends.bind (Q := fun _ t => Still S p (layout n t))
  · apply Ends.tried (F := fun t => Still S p (layout n t))
    · apply Ends.rename
      · exact fun _ _ ht => ht
      · exact fun _ ht _ => ht
      · intro _ t c ht _
        rw [layout_store, layout_drop]
        exact ⟨ht.1, .inl rfl⟩
    · exact fun _ _ ht => ht
  · intro renamed
    cases renamed <;> exact Ends.ret fun _ ht => ht

theorem settleConfig_ends {E : Files RestoreFile C → Prop} :
    Ends (fun t => Swapped S p (layout n t)) E (fun t => Swapped S p (layout n t))
      (applyPendingConfig site start) fun _ t => Swapped S p (layout n t) := by
  have each : ∀ l, Swapped S p l →
      Ends (fun t => Swapped S p (layout n t)) E (fun t => layout n t = l)
        (applyPendingConfig site start) fun _ t => Swapped S p (layout n t) := by
    intro l swapped
    apply (applyPendingConfig_ends.weaken _ fun _ ht => ht).conseq (fun _ ht => ht)
    · exact fun _ t ht => ht.1.swapped swapped
    · rintro t (⟨rfl, -⟩ | settled)
      · exact swapped
      · exact settled.swapped swapped
  exact fun t ht => each _ ht t rfl

theorem applyPendingRestore_ends (steady : Steady site S) {d : C} (db : t₀.look .db = some d)
    (stamp : n = nextSnapshotStamp start (checkpointed site start t₀))
    (still : Still S p (layout n t₀))
    (quiet : Disturbed site start t₀ → ∀ d w shm, S (some d) (some w) shm → S (some d) none shm) :
    Ends (fun t => Still S p (layout n t) ∨ Swapped S p (layout n t)) (fun _ => False)
      (fun t => t = t₀) (applyPendingRestore site start)
      fun outcome t => match outcome with
        | .nothingPending => Still S p (layout n t)
        | .rejected _ _ => Still S p (layout n t)
        | .applied _ _ _ => Swapped S p (layout n t) := by
  apply Ends.bind (Q := fun there t => there = t₀.has .pending ∧ t = t₀)
  · apply Ends.isThere
    rintro t rfl
    exact ⟨rfl, rfl⟩
  intro there
  apply Ends.given
  intro confirmed
  cases there with
  | false =>
      apply Ends.bind (Q := fun _ t => Still S p (layout n t))
      · apply (discardConfig_ends.weaken (fun _ ht => .inl ht) fun _ ht => ht).conseq
        · rintro t rfl
          exact still
        · exact fun _ _ ht => ht
      · exact fun _ => Ends.ret fun _ ht => ht
  | true =>
      have pending : (layout n t₀).pending = some p := by
        rcases still.2 with missing | there
        · have missing : t₀.look .pending = none := missing
          simp [Files.has, missing] at confirmed
        · exact there
      have before : Before S p (layout n t₀).pendingConfig (layout n t₀).config (layout n t₀) :=
        ⟨still.1, pending, rfl, rfl⟩
      apply Ends.bind_tried (Q := fun taken t => taken.1 = some n ∧ Swapped S p (layout n t))
        (F := fun t => Still S p (layout n t))
      · apply ((apply_ends steady stamp before db quiet).weaken _ fun _ ht => ht.still).conseq
          (fun _ ht => ht)
        · exact fun r t ht => ⟨ht.1, ht.2.1.swapped⟩
        · exact fun t ht => ht.imp Before.still fun after => after.1.swapped
      · rintro ⟨snapshot, hasWalCopy⟩
        apply Ends.given
        rintro rfl
        apply Ends.bind (Q := fun _ t => Swapped S p (layout n t))
        · exact pruneOldSnapshots_ends.weaken (fun _ ht => .inr ht.1) fun _ ht => ht
        intro _
        apply Ends.bind (Q := fun _ t => Swapped S p (layout n t))
        · exact settleConfig_ends.weaken (fun _ ht => .inr ht) fun _ ht => ht
        · exact fun _ => Ends.ret fun _ ht => ht
      · intro reason
        apply Ends.bind (Q := fun _ t => Still S p (layout n t))
        · exact discardConfig_ends.weaken (fun _ ht => .inl ht) fun _ ht => ht
        intro _
        apply Ends.bind (Q := fun _ t => Still S p (layout n t))
        · exact setAsideFailed_ends.weaken (fun _ ht => .inl ht) fun _ ht => ht
        · exact fun _ => Ends.ret fun _ ht => ht

theorem start_leaves (start : Start) (steady : Steady site S) {d : C} (db : t₀.look .db = some d)
    (stamp : n = nextSnapshotStamp start (checkpointed site start t₀))
    (still : Still S p (layout n t₀))
    (quiet : Disturbed site start t₀ → ∀ d w shm, S (some d) (some w) shm → S (some d) none shm) :
    (Still S p (layout n (applyPendingRestore site start t₀).2) ∨
      Swapped S p (layout n (applyPendingRestore site start t₀).2)) ∧
    ∀ why aside, (applyPendingRestore site start t₀).1 = .ok (.rejected why aside) →
      Still S p (layout n (applyPendingRestore site start t₀).2) := by
  have ends := applyPendingRestore_ends steady db stamp still quiet t₀ rfl
  rcases run : applyPendingRestore site start t₀ with ⟨r, t'⟩
  rw [run] at ends
  cases r with
  | error halt =>
      cases halt with
      | failed why => exact ends.elim
      | died => exact ⟨ends, fun _ _ eq => by cases eq⟩
  | ok outcome =>
      cases outcome with
      | nothingPending => exact ⟨.inl ends, fun _ _ _ => ends⟩
      | rejected why aside => exact ⟨.inl ends, fun _ _ _ => ends⟩
      | applied snapshot hasWalCopy config => exact ⟨.inr ends, fun _ _ eq => by cases eq⟩

/-! ## Over a run of starts -/

/-- The database `m` with its WAL `w` replayed. -/
def contents (site : Site C) (m : C) (w : Option C) : C :=
  match w with
  | none => m
  | some w => site.replay m w

/-- `main` and `wal` are `m` and its own WAL `w`, or `m` with all of `w` folded into it. -/
def Intact (site : Site C) (m : C) (w main wal : Option C) : Prop :=
  main = some m ∧ wal = w ∨
    main = some (contents site m w) ∧ (wal = none ∨ wal = some site.emptied)

/-- The restored database is in place, with no sidecar beside it. -/
def Replaced (p : C) (db wal shm : Option C) : Prop := db = some p ∧ wal = none ∧ shm = none

/-- What one start, from `t` to `t'`, must not break. -/
structure SwapSafe (site : Site C) (m : C) (w : Option C) (p : C) (t t' : Files RestoreFile C)
    (outcome : Except Halt ApplyOutcome) : Prop where
  live : Intact site m w (t'.look .db) (t'.look (.sidecar .wal)) ∨
    Replaced p (t'.look .db) (t'.look (.sidecar .wal)) (t'.look (.sidecar .shm))
  snapshot : Intact site m w (t.look .db) (t.look (.sidecar .wal)) →
    ¬ Intact site m w (t'.look .db) (t'.look (.sidecar .wal)) →
    ∃ k, Intact site m w (t'.look (.snapshot k)) (t'.look (.snapshotWal k))
  rejected : ∀ why aside, outcome = .ok (.rejected why aside) →
    (Intact site m w (t.look .db) (t.look (.sidecar .wal)) →
      Intact site m w (t'.look .db) (t'.look (.sidecar .wal))) ∧
    (Replaced p (t.look .db) (t.look (.sidecar .wal)) (t.look (.sidecar .shm)) →
      Replaced p (t'.look .db) (t'.look (.sidecar .wal)) (t'.look (.sidecar .shm)))

theorem intact_steady (site : Site C) (m : C) (w : Option C) :
    Steady site fun main wal _ => Intact site m w main wal where
  folded := by
    rintro d w' - (⟨main, rfl⟩ | ⟨main, none | emptied⟩)
    · cases main
      exact .inr ⟨rfl, .inr rfl⟩
    · cases none
    · cases emptied
      rw [site.replay_emptied]
      exact .inr ⟨main, .inr rfl⟩
  gone := by
    rintro d w' - (⟨main, rfl⟩ | ⟨main, -⟩) same
    · cases main
      exact .inr ⟨congrArg some same.symm, .inl rfl⟩
    · exact .inr ⟨main, .inl rfl⟩
  noShm := fun _ _ _ intact => intact

theorem replaced_steady (site : Site C) (p : C) : Steady site (Replaced p) where
  folded := fun _ _ _ replaced => by cases replaced.2.1
  gone := fun _ _ _ replaced => by cases replaced.2.1
  noShm := fun _ _ _ replaced => ⟨replaced.1, replaced.2.1, rfl⟩

variable {m : C} {w : Option C}

/-- Between starts the live database is the old one or the restored one. -/
def Sound (site : Site C) (m : C) (w : Option C) (p : C) (t : Files RestoreFile C) : Prop :=
  (Intact site m w (t.look .db) (t.look (.sidecar .wal)) ∨
    Replaced p (t.look .db) (t.look (.sidecar .wal)) (t.look (.sidecar .shm))) ∧
  (t.look .pending = none ∨ t.look .pending = some p)

theorem restart_of_replaced (site : Site C) {t : Files RestoreFile C}
    (replaced : Replaced p (t.look .db) (t.look (.sidecar .wal)) (t.look (.sidecar .shm)))
    (pending : t.look .pending = none ∨ t.look .pending = some p) (start : Start) :
    Replaced p ((applyPendingRestore site start t).2.look .db)
      ((applyPendingRestore site start t).2.look (.sidecar .wal))
      ((applyPendingRestore site start t).2.look (.sidecar .shm)) ∧
    ((applyPendingRestore site start t).2.look .pending = none ∨
      (applyPendingRestore site start t).2.look .pending = some p) := by
  obtain ⟨left, -⟩ := start_leaves start (replaced_steady site p) replaced.1 rfl
    ⟨replaced, pending⟩ (fun _ _ _ _ beside => by cases beside.2.1)
  rcases left with still | swapped
  · exact still
  · exact ⟨⟨swapped.db, swapped.wal, swapped.shm⟩, swapped.pending⟩

theorem intact_db {db wal : Option C} (intact : Intact site m w db wal) : ∃ d, db = some d := by
  rcases intact with ⟨main, -⟩ | ⟨main, -⟩ <;> exact ⟨_, main⟩

theorem restart_of_intact {t : Files RestoreFile C}
    (intact : Intact site m w (t.look .db) (t.look (.sidecar .wal)))
    (pending : t.look .pending = none ∨ t.look .pending = some p)
    (undisturbed : ¬ Disturbed site start t) :
    SwapSafe site m w p t (applyPendingRestore site start t).2
        (applyPendingRestore site start t).1 ∧
      Sound site m w p (applyPendingRestore site start t).2 := by
  obtain ⟨d, db⟩ := intact_db intact
  obtain ⟨left, rejected⟩ := start_leaves start (intact_steady site m w) db rfl
    ⟨intact, pending⟩ fun disturbed => absurd disturbed undisturbed
  have live : Intact site m w ((applyPendingRestore site start t).2.look .db)
      ((applyPendingRestore site start t).2.look (.sidecar .wal)) ∨
      Replaced p ((applyPendingRestore site start t).2.look .db)
        ((applyPendingRestore site start t).2.look (.sidecar .wal))
        ((applyPendingRestore site start t).2.look (.sidecar .shm)) := by
    rcases left with still | swapped
    · exact .inl still.1
    · exact .inr ⟨swapped.db, swapped.wal, swapped.shm⟩
  refine ⟨⟨live, ?_, ?_⟩, live, ?_⟩
  · intro _ changed
    rcases left with still | swapped
    · exact absurd still.1 changed
    · exact ⟨_, swapped.saved⟩
  · intro why aside outcome
    refine ⟨fun _ => (rejected why aside outcome).1, fun replaced => ?_⟩
    exact (restart_of_replaced site replaced pending start).1
  · exact left.elim (fun still => still.2) fun swapped => swapped.pending

theorem restart_sound {t : Files RestoreFile C} (sound : Sound site m w p t)
    (undisturbed : ¬ Disturbed site start t) :
    SwapSafe site m w p t (applyPendingRestore site start t).2
        (applyPendingRestore site start t).1 ∧
      Sound site m w p (applyPendingRestore site start t).2 := by
  by_cases intact : Intact site m w (t.look .db) (t.look (.sidecar .wal))
  · exact restart_of_intact intact sound.2 undisturbed
  · have replaced := sound.1.resolve_left intact
    obtain ⟨still, pending⟩ := restart_of_replaced site replaced sound.2 start
    exact ⟨⟨.inr still, fun old => absurd old intact,
      fun _ _ _ => ⟨fun old => absurd old intact, fun _ => still⟩⟩, .inr still, pending⟩

/-- In a run of starts none of which loses its way with the WAL moved, every start leaves the old
database whole or the restored one in its place. -/
theorem restore_swap_safe (site : Site C) (m p : C) (w : Option C) (t₀ t : Files RestoreFile C)
    (main : t₀.look .db = some m) (wal : t₀.look (.sidecar .wal) = w)
    (confirmed : t₀.look .pending = some p)
    (run : Reaches (Restart site) (fun start t => ¬ Disturbed site start t) t₀ t) (start : Start)
    (undisturbed : ¬ Disturbed site start t) :
    SwapSafe site m w p t (applyPendingRestore site start t).2
      (applyPendingRestore site start t).1 := by
  have sound : Sound site m w p t := by
    apply run.invariant (I := Sound site m w p)
    · exact ⟨.inl (.inl ⟨main, wal⟩), .inr confirmed⟩
    · rintro start t t' sound undisturbed rfl
      exact (restart_sound sound undisturbed).2
  exact (restart_sound sound undisturbed).1

/-! ## A WAL lost -/

def logSite : Site (List Nat) where
  replay := (· ++ ·)
  emptied := []
  replay_emptied := List.append_nil
  mergeForRestore := fun _ restored => .ok restored
  emptyText := []
  tooLarge := fun _ => false
  configPath := none
  pendingConfigPath := "pending_restore.config.toml"

def confirmedFiles : Files RestoreFile (List Nat) :=
  ((Files.blank.store .db [1]).store (.sidecar .wal) [2]).store .pending [9]

def stoppedAt (op : FileOp RestoreFile) (checkpoint : Checkpoint) : Start where
  now := 100
  checkpoint := checkpoint
  dataDirFull := none
  dbDirFull := none
  fate := fun other => if other = op then .dies else .done

theorem not_disturbed_of_folded {t : Files RestoreFile C} (removed : Bool)
    (folded : start.checkpoint = .folded removed) : ¬ Disturbed site start t := by
  rintro ⟨⟨why, damaged⟩, -⟩
  rw [folded] at damaged
  cases damaged

theorem restore_swap_safe_retried :
    SwapSafe logSite [1] (some [2]) [9]
      (applyPendingRestore logSite (stoppedAt (.rename .pending .db) (.folded true))
        confirmedFiles).2
      (applyPendingRestore logSite (stoppedAt .list (.folded false))
        (applyPendingRestore logSite (stoppedAt (.rename .pending .db) (.folded true))
          confirmedFiles).2).2
      (applyPendingRestore logSite (stoppedAt .list (.folded false))
        (applyPendingRestore logSite (stoppedAt (.rename .pending .db) (.folded true))
          confirmedFiles).2).1 :=
  restore_swap_safe logSite [1] [9] (some [2]) confirmedFiles _ rfl rfl rfl
    (.step .start (not_disturbed_of_folded true rfl) rfl) _
    (not_disturbed_of_folded false rfl)

/-- The database can't be opened to fold its WAL, and the process stops after the WAL was moved and
before the restored file is in place: the old database is left without its WAL. -/
theorem wal_left_aside :
    confirmedFiles.look .db = some [1] ∧ confirmedFiles.look (.sidecar .wal) = some [2] ∧
    confirmedFiles.look .pending = some [9] ∧
    ¬ SwapSafe logSite [1] (some [2]) [9] confirmedFiles
      (applyPendingRestore logSite (stoppedAt (.rename .pending .db) (.damaged "malformed"))
        confirmedFiles).2
      (applyPendingRestore logSite (stoppedAt (.rename .pending .db) (.damaged "malformed"))
        confirmedFiles).1 := by
  refine ⟨rfl, rfl, rfl, fun safe => ?_⟩
  have db : (applyPendingRestore logSite (stoppedAt (.rename .pending .db) (.damaged "malformed"))
      confirmedFiles).2.look .db = some [1] := by decide +kernel
  have wal : (applyPendingRestore logSite (stoppedAt (.rename .pending .db) (.damaged "malformed"))
      confirmedFiles).2.look (.sidecar .wal) = none := by decide +kernel
  have live := safe.live
  rw [db, wal] at live
  rcases live with (⟨-, beside⟩ | ⟨folded, -⟩) | ⟨restored, -⟩
  · cases beside
  · simp [contents, logSite] at folded
  · cases restored

end SupplyDrop.Proof.Restore
