import Mathlib
import SupplyDrop.Proof.Restore.Steps

namespace SupplyDrop.Proof.Restore
open SupplyDrop.Restore Library
variable {C : Type}

/-! ## What is kept of the live database -/

/-- A condition on the database, its WAL and its `-shm` that folding the WAL keeps, and losing one
with nothing in it. -/
structure Steady (site : Site C) (S : Option C → Option C → Option C → Prop) : Prop where
  folded : ∀ d w shm, S (some d) (some w) shm → S (some (site.replay d w)) (some site.emptied) shm
  gone : ∀ d w shm, S (some d) (some w) shm → site.replay d w = d → S (some d) none shm
  noShm : ∀ db wal shm, S db wal shm → S db wal none

/-- The restore is still to be done. -/
structure Before (S : Option C → Option C → Option C → Prop) (p : C) (c cfg : Option C)
    (l : Layout C) : Prop where
  live : S l.db l.wal l.shm
  pending : l.pending = some p
  pendingConfig : l.pendingConfig = c
  config : l.config = cfg

/-- The restored database is in place, and what it replaced is in the snapshot. -/
structure After (S : Option C → Option C → Option C → Prop) (p : C) (c cfg : Option C)
    (l : Layout C) : Prop where
  db : l.db = some p
  wal : l.wal = none
  shm : l.shm = none
  pending : l.pending = none ∨ l.pending = some p
  saved : S l.snapshot l.snapshotWal none
  pendingConfig : l.pendingConfig = c
  config : l.config = cfg

/-- With a WAL in place that the checkpoint could not fold, the run gets as far as moving it away
and then loses it. -/
def Disturbed (site : Site C) (start : Start) (t : Files RestoreFile C) : Prop :=
  (∃ why, start.checkpoint = .damaged why) ∧
  (∃ d w, t.look .db = some d ∧ t.look (.sidecar .wal) = some w ∧ site.replay d w ≠ d) ∧
  t.has .pending ∧ start.fate (.stat .pending) = .done ∧ start.dataDirFull = none ∧
  course start.fate (snapshotOps (nextSnapshotStamp start t) true ++
    [.flush .pending, .rename (.sidecar .wal) (.aside .wal)]) = .done ∧
  SwapLosesWal start (t.has (.sidecar .shm))

/-! ## The checkpoint -/

def checkpointed (site : Site C) (start : Start) (t : Files RestoreFile C) :
    Files RestoreFile C :=
  match start.checkpoint with
  | .folded removed => foldWal site removed t
  | _ => t

variable {site : Site C} {start : Start} {S : Option C → Option C → Option C → Prop} {p d : C}
  {c cfg : Option C} {t₀ : Files RestoreFile C}

theorem Steady.foldWal_before (steady : Steady site S) (removed : Bool) {n : Nat}
    (before : Before S p c cfg (layout n t₀)) (db : t₀.look .db = some d) :
    Before S p c cfg (layout n (foldWal site removed t₀)) ∧
    (∃ d', (layout n (foldWal site removed t₀)).db = some d') ∧
    S (layout n (foldWal site removed t₀)).db none (layout n (foldWal site removed t₀)).shm := by
  obtain ⟨live, pending, pendingConfig, config⟩ := before
  have dbAt : (layout n t₀).db = some d := db
  cases wal : t₀.look (.sidecar .wal) with
  | none =>
      have walAt : (layout n t₀).wal = none := wal
      rw [dbAt, walAt] at live
      cases removed with
      | false =>
          simp only [foldWal, db, wal, Bool.false_eq_true, if_false]
          exact ⟨⟨by rwa [dbAt, walAt], pending, pendingConfig, config⟩, ⟨d, dbAt⟩, by rwa [dbAt]⟩
      | true =>
          have noShm := steady.noShm _ _ _ live
          simp only [foldWal, db, wal, if_true, layout_drop]
          exact ⟨⟨by rwa [← dbAt] at noShm, pending, pendingConfig, config⟩, ⟨d, dbAt⟩,
            by rwa [← dbAt] at noShm⟩
  | some w =>
      have walAt : (layout n t₀).wal = some w := wal
      rw [dbAt, walAt] at live
      have folded := steady.folded d w _ live
      have gone := steady.gone _ _ _ folded (site.replay_emptied _)
      cases removed with
      | false =>
          simp only [foldWal, db, wal, Bool.false_eq_true, if_false, layout_store]
          exact ⟨⟨folded, pending, pendingConfig, config⟩, ⟨_, rfl⟩, gone⟩
      | true =>
          have noShm := steady.noShm _ _ _ gone
          simp only [foldWal, db, wal, if_true, layout_drop, layout_store]
          exact ⟨⟨noShm, pending, pendingConfig, config⟩, ⟨_, rfl⟩, noShm⟩

/-- What is known of the live files once the checkpoint has been settled. -/
structure Settled (start : Start) (S : Option C → Option C → Option C → Prop) (withWal : Bool)
    (l : Layout C) : Prop where
  db : ∃ d, l.db = some d
  wal : withWal = true → l.wal.isSome ∧ ∃ why, start.checkpoint = .damaged why
  bare : withWal = false → S l.db none l.shm

theorem checkpointWal_ends (steady : Steady site S) {n : Nat}
    (before : Before S p c cfg (layout n t₀)) (db : t₀.look .db = some d) :
    Ends (fun t => Before S p c cfg (layout n t)) (fun t => Before S p c cfg (layout n t))
      (fun t => t = t₀) (checkpointWal site start)
      fun withWal t => Settled start S withWal (layout n (checkpointed site start t₀)) ∧
        Before S p c cfg (layout n (checkpointed site start t₀)) ∧
        t = checkpointed site start t₀ := by
  have same : ∀ t, t = t₀ → Before S p c cfg (layout n t) := by
    rintro t rfl
    exact before
  unfold checkpointWal checkpointed
  cases outcome : start.checkpoint with
  | inUse => exact Ends.fail same
  | busyOrLocked why => exact Ends.fail same
  | dies => exact same
  | folded removed =>
      obtain ⟨folded, there, bare⟩ := steady.foldWal_before removed before db
      rintro t rfl
      exact ⟨⟨there, by simp, fun _ => bare⟩, folded, rfl⟩
  | damaged why =>
      apply Ends.isThere
      rintro t rfl
      refine ⟨⟨⟨d, db⟩, fun there => ⟨there, why, outcome⟩, fun missing => ?_⟩, before, rfl⟩
      have wal : t.look (.sidecar .wal) = none := by simpa [Files.has] using missing
      have live := before.live
      rwa [show (layout n t).wal = none from wal] at live

theorem before_sameLive {l l' : Layout C} (before : Before S p c cfg l) (same : SameLive l l') :
    Before S p c cfg l' := by
  obtain ⟨_, _, rfl⟩ := same
  exact ⟨before.live, before.pending, before.pendingConfig, before.config⟩

theorem before_of_kept {l l' : Layout C} (steady : Steady site S) (before : Before S p c cfg l)
    (kept : Kept (S l.db none l.shm) l l') : Before S p c cfg l' := by
  obtain ⟨db, wal, shm, pending, pendingConfig, config⟩ := kept
  refine ⟨?_, pending.trans before.pending, pendingConfig.trans before.pendingConfig,
    config.trans before.config⟩
  have live : S l'.db l'.wal l.shm := by
    rw [db]
    rcases wal with wal | ⟨wal, lost⟩
    · rw [wal]
      exact before.live
    · rwa [wal]
  rcases shm with shm | shm
  · rwa [shm]
  · rw [shm]
    exact steady.noShm _ _ _ live

theorem snapshotLive_ends (steady : Steady site S) {n : Nat}
    (stamp : n = nextSnapshotStamp start (checkpointed site start t₀))
    (before : Before S p c cfg (layout n t₀)) (db : t₀.look .db = some d) :
    Ends (fun t => Before S p c cfg (layout n t)) (fun t => Before S p c cfg (layout n t))
      (fun t => t = t₀) (snapshotLive site start)
      fun r t => (start.dataDirFull = none ∧ r.1 = n ∧
          course start.fate (snapshotOps n r.2) = .done) ∧
        Settled start S r.2 (layout n (checkpointed site start t₀)) ∧
        Before S p c cfg (layout n (checkpointed site start t₀)) ∧
        layout n t = (layout n (checkpointed site start t₀)).snapped r.2 := by
  have same : ∀ t, t = t₀ → Before S p c cfg (layout n t) := by
    rintro t rfl
    exact before
  apply Ends.bind (Q := fun _ t => start.dataDirFull = none ∧ t = t₀)
  · unfold ensureFreeSpace
    cases full : start.dataDirFull with
    | none => exact Ends.ret fun t ht => ⟨rfl, ht⟩
    | some why => exact Ends.fail same
  intro _
  apply Ends.given
  intro space
  apply Ends.bind (checkpointWal_ends steady before db)
  intro withWal
  apply Ends.given
  intro settled
  apply Ends.given
  intro ready
  apply Ends.bind (Q := fun stamp t => stamp = n ∧ layout n t = layout n (checkpointed site start t₀))
  · apply Ends.gets
    rintro t rfl
    exact ⟨stamp.symm, rfl⟩
  intro k
  apply Ends.given
  rintro rfl
  obtain ⟨d', there⟩ := settled.db
  apply Ends.bind_tried
    (Q := fun _ t => course start.fate (snapshotOps k withWal) = .done ∧
      layout k t = (layout k (checkpointed site start t₀)).snapped withWal)
    (F := fun t => Before S p c cfg (layout k t))
  · apply (copySnapshot_ends there fun h => (settled.wal h).1).weaken
    · exact fun t ht => before_sameLive ready ht
    · exact fun t ht => before_sameLive ready ht
  · exact fun _ => Ends.ret fun t ht => ⟨⟨space, rfl, ht.1⟩, settled, ready, ht.2⟩
  · intro why
    have removing : ∀ file : RestoreFile, (file = .snapshot k ∨ file = .snapshotWal k) →
        Ends (fun t => Before S p c cfg (layout k t)) (fun t => Before S p c cfg (layout k t))
          (fun t => Before S p c cfg (layout k t))
          (Disk.ignoring (Disk.remove start.fate file)) fun _ t => Before S p c cfg (layout k t) := by
      intro file which
      apply Ends.ignoring
      apply Ends.remove
      · exact fun _ _ ht => ht
      · exact fun _ ht _ => ht
      · intro _ t ⟨live, pending, pendingConfig, config⟩
        rw [layout_drop]
        rcases which with rfl | rfl <;> constructor <;> simpa [Layout.set]
    apply Ends.bind (removing _ (.inl rfl))
    intro _
    apply Ends.bind (removing _ (.inr rfl))
    exact fun _ => Ends.fail fun _ ht => ht

/-! ## The whole of `apply` -/

theorem losesWal_of_settled (steady : Steady site S) {n : Nat} {withWal : Bool}
    (stamp : n = nextSnapshotStamp start (checkpointed site start t₀))
    (pending : t₀.has .pending) (stat : start.fate (.stat .pending) = .done)
    (space : start.dataDirFull = none)
    (copied : course start.fate (snapshotOps n withWal) = .done)
    (flushed : start.fate (.flush .pending) = .done)
    (settled : Settled start S withWal (layout n (checkpointed site start t₀)))
    (ready : Before S p c cfg (layout n (checkpointed site start t₀)))
    (quiet : Disturbed site start t₀ → ∀ d w shm, S (some d) (some w) shm → S (some d) none shm) :
    LosesWal start ((layout n (checkpointed site start t₀)).snapped withWal)
      (S (layout n (checkpointed site start t₀)).db none
        (layout n (checkpointed site start t₀)).shm) := by
  intro _ renamed loses
  cases withWal with
  | false => exact settled.bare rfl
  | true =>
      obtain ⟨there, why, damaged⟩ := settled.wal rfl
      have untouched : checkpointed site start t₀ = t₀ := by simp [checkpointed, damaged]
      rw [untouched] at settled ready there loses stamp ⊢
      obtain ⟨d, db⟩ := settled.db
      obtain ⟨w, wal⟩ := Option.isSome_iff_exists.mp there
      have live := ready.live
      rw [db, wal] at live
      rw [db]
      by_cases changes : site.replay d w = d
      · exact steady.gone d w _ live changes
      · refine quiet ⟨⟨why, damaged⟩, ⟨d, w, db, wal, changes⟩, pending, stat, space, ?_, loses⟩ d w _
          live
        rw [← stamp, course_append, copied]
        simp [course, flushed, renamed]

theorem apply_ends (steady : Steady site S) {n : Nat}
    (stamp : n = nextSnapshotStamp start (checkpointed site start t₀))
    (before : Before S p c cfg (layout n t₀)) (db : t₀.look .db = some d)
    (quiet : Disturbed site start t₀ → ∀ d w shm, S (some d) (some w) shm → S (some d) none shm) :
    Ends (fun t => Before S p c cfg (layout n t) ∨
        After S p c cfg (layout n t) ∧ StopsAfterSwap start)
      (fun t => Before S p c cfg (layout n t)) (fun t => t = t₀) (Restore.apply site start)
      fun r t => r.1 = some n ∧ After S p c cfg (layout n t) ∧
        ((layout n t).pending = none ∨ ∃ why, start.fate (.remove .pending) = .fails why) := by
  have same : ∀ t, t = t₀ → Before S p c cfg (layout n t) := by
    rintro t rfl
    exact before
  have pending : t₀.look .pending = some p := before.pending
  apply Ends.bind (Q := fun _ t => start.fate (.stat .pending) = .done ∧ t = t₀)
  · apply Ends.explaining
    apply Ends.stat
    · exact fun _ t ht => .inl (same t ht)
    · exact fun t ht _ => same t ht
    · exact fun fated t ht => ⟨fated, ht⟩
  intro _
  apply Ends.given
  intro stat
  apply Ends.bind (Q := fun live t => live = true ∧ t = t₀)
  · apply Ends.isThere
    rintro t rfl
    exact ⟨by simp [Files.has, db], rfl⟩
  intro live
  apply Ends.given
  rintro rfl
  apply Ends.bind ((snapshotLive_ends steady stamp before db).weaken (fun _ ht => .inl ht)
    fun _ ht => ht)
  rintro ⟨k, withWal⟩
  apply Ends.given
  rintro ⟨space, stamped, copied⟩
  apply Ends.given
  intro settled
  apply Ends.given
  intro ready
  have readyAt : ∀ t, layout n t = (layout n (checkpointed site start t₀)).snapped withWal →
      Before S p c cfg (layout n t) := by
    intro t ht
    rw [ht]
    exact ⟨ready.live, ready.pending, ready.pendingConfig, ready.config⟩
  apply Ends.bind (Q := fun snapshot t => snapshot.1 = some n ∧
    layout n t = (layout n (checkpointed site start t₀)).snapped withWal)
  · exact Ends.ret fun t ht => ⟨congrArg some stamped, ht⟩
  intro snapshot
  apply Ends.given
  intro taken
  apply Ends.bind (Q := fun _ t => start.fate (.flush .pending) = .done ∧
    layout n t = (layout n (checkpointed site start t₀)).snapped withWal)
  · apply Ends.explaining
    apply Ends.flush
    · exact fun _ t ht => .inl (readyAt t ht)
    · exact fun t ht _ => readyAt t ht
    · exact fun fated t ht => ⟨fated, ht⟩
  intro _
  apply Ends.given
  intro flushed
  have loses := losesWal_of_settled steady stamp (by simp [Files.has, pending]) stat space copied
    flushed settled ready quiet
  have saved : S ((layout n (checkpointed site start t₀)).snapped withWal).snapshot
      ((layout n (checkpointed site start t₀)).snapped withWal).snapshotWal none := by
    cases withWal with
    | true => exact steady.noShm _ _ _ ready.live
    | false =>
        have fresh : (layout n (checkpointed site start t₀)).snapshotWal = none := by
          rw [stamp]
          exact nextSnapshotStamp_free start _
        have bare := steady.noShm _ _ _ (settled.bare rfl)
        simpa [Layout.snapped, fresh] using bare
  have after : ∀ {l' : Layout C},
      Installed ((layout n (checkpointed site start t₀)).snapped withWal) l' →
      After S p c cfg l' := by
    rintro l' ⟨db, wal, shm, retired, pendingConfig, config, snapshot, snapshotWal⟩
    refine ⟨db.trans ready.pending, wal, shm, retired.imp_right fun h => h.trans ready.pending, ?_,
      pendingConfig.trans ready.pendingConfig, config.trans ready.config⟩
    rw [snapshot, snapshotWal]
    exact saved
  have kept : ∀ t, Kept (S (layout n (checkpointed site start t₀)).db none
      (layout n (checkpointed site start t₀)).shm)
      ((layout n (checkpointed site start t₀)).snapped withWal) (layout n t) →
      Before S p c cfg (layout n t) := by
    intro t ht
    apply before_of_kept steady (l := (layout n (checkpointed site start t₀)).snapped withWal)
    · exact ⟨ready.live, ready.pending, ready.pendingConfig, ready.config⟩
    · exact ht
  apply Ends.bind (Q := fun _ t =>
    Retired start ((layout n (checkpointed site start t₀)).snapped withWal) (layout n t))
  · apply (swap_ends loses (p := p) ready.pending).weaken
    · rintro t (ht | ⟨ht, tidying⟩)
      · exact .inl (kept t ht)
      · exact .inr ⟨after ht, tidying⟩
    · exact kept
  · exact fun _ => Ends.ret fun t ht => ⟨taken, after ht.1, ht.2⟩

end SupplyDrop.Proof.Restore
