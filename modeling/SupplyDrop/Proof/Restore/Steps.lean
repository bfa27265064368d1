import Mathlib
import SupplyDrop.Restore.Apply

namespace SupplyDrop.Proof.Restore
open SupplyDrop.Restore Library

/-! ## What a restore can change -/

/-- The files a restore works on, with the snapshot stamped `n`. -/
@[ext] structure Layout (C : Type) where
  db : Option C
  wal : Option C
  shm : Option C
  walAside : Option C
  shmAside : Option C
  pending : Option C
  pendingConfig : Option C
  config : Option C
  snapshot : Option C
  snapshotWal : Option C

variable {C : Type}

def Layout.set (n : Nat) (l : Layout C) (file : RestoreFile) (c : Option C) : Layout C :=
  match file with
  | .db => { l with db := c }
  | .sidecar .wal => { l with wal := c }
  | .sidecar .shm => { l with shm := c }
  | .aside .wal => { l with walAside := c }
  | .aside .shm => { l with shmAside := c }
  | .pending => { l with pending := c }
  | .pendingConfig => { l with pendingConfig := c }
  | .config => { l with config := c }
  | .snapshot k => if k = n then { l with snapshot := c } else l
  | .snapshotWal k => if k = n then { l with snapshotWal := c } else l
  | _ => l

def layout (n : Nat) (t : Files RestoreFile C) : Layout C where
  db := t.look .db
  wal := t.look (.sidecar .wal)
  shm := t.look (.sidecar .shm)
  walAside := t.look (.aside .wal)
  shmAside := t.look (.aside .shm)
  pending := t.look .pending
  pendingConfig := t.look .pendingConfig
  config := t.look .config
  snapshot := t.look (.snapshot n)
  snapshotWal := t.look (.snapshotWal n)

@[simp] theorem layout_store (n : Nat) (t : Files RestoreFile C) (file : RestoreFile) (c : C) :
    layout n (t.store file c) = (layout n t).set n file (some c) := by
  cases file <;> (try (rename_i ext; cases ext)) <;> simp [layout, Layout.set, eq_comm]
  all_goals split <;> simp_all

@[simp] theorem layout_drop (n : Nat) (t : Files RestoreFile C) (file : RestoreFile) :
    layout n (t.drop file) = (layout n t).set n file none := by
  cases file <;> (try (rename_i ext; cases ext)) <;> simp [layout, Layout.set, eq_comm]
  all_goals split <;> simp_all

/-! ## Where the swap goes wrong -/

variable (start : Start)

def Sidecar.putBack (ext : Sidecar) : FileOp RestoreFile := .rename (.aside ext) (.sidecar ext)

/-- How putting the restored file at the database's path comes out. -/
def installCourse : Fate :=
  match start.fate (.rename .pending .db) with
  | .fails _ => match start.dbDirFull with
      | some full => .fails full
      | none =>
          match course start.fate [.copy .pending .copyFallbackTmp, .flush .copyFallbackTmp,
            .rename .copyFallbackTmp .db] with
          | .fails why => match start.fate (.remove .copyFallbackTmp) with
              | .dies => .dies
              | _ => .fails why
          | other => other
  | other => other

/-- With the WAL out of the way, the process stops before the restored file is in place, or gives
the swap up and does not get the WAL back. -/
def SwapLosesWal (shm : Bool) : Prop :=
  match (if shm then start.fate (.rename (.sidecar .shm) (.aside .shm)) else .done) with
  | .dies => True
  | .fails _ => start.fate (Sidecar.putBack .wal) ≠ .done
  | .done => match installCourse start with
      | .dies => True
      | .fails _ => start.fate (Sidecar.putBack .wal) ≠ .done
      | .done => False

/-- The live database is as in `l`, but for a WAL that may be `lost`. -/
structure Kept (lost : Prop) (l l' : Layout C) : Prop where
  db : l'.db = l.db
  wal : l'.wal = l.wal ∨ l'.wal = none ∧ lost
  shm : l'.shm = l.shm ∨ l'.shm = none
  pending : l'.pending = l.pending
  pendingConfig : l'.pendingConfig = l.pendingConfig
  config : l'.config = l.config

/-- The restored file is in the database's place. -/
structure Installed (l l' : Layout C) : Prop where
  db : l'.db = l.pending
  wal : l'.wal = none
  shm : l'.shm = none
  pending : l'.pending = none ∨ l'.pending = l.pending
  pendingConfig : l'.pendingConfig = l.pendingConfig
  config : l'.config = l.config
  snapshot : l'.snapshot = l.snapshot
  snapshotWal : l'.snapshotWal = l.snapshotWal

/-! ## Moving the sidecars, and back -/

def Layout.moved (l : Layout C) (wal shm : Bool) : Layout C :=
  { l with
    wal := if wal then none else l.wal
    walAside := if wal then l.wal else l.walAside
    shm := if shm then none else l.shm
    shmAside := if shm then l.shm else l.shmAside }

def movedSidecars (wal shm : Bool) : List Sidecar :=
  (if wal then [.wal] else []) ++ (if shm then [.shm] else [])

variable {start} {n : Nat} {l : Layout C} {lost : Prop} {E : Files RestoreFile C → Prop}

theorem putShmBack_ends :
    Ends (fun t => Kept lost l (layout n t)) E
      (fun t => Kept lost l (layout n t) ∧ (layout n t).shmAside = l.shm)
      (restoreSidecars start [.shm]) fun _ t => Kept lost l (layout n t) := by
  apply Ends.bind (Q := fun _ t => Kept lost l (layout n t))
  · apply Ends.ignoring
    apply Ends.rename
    · exact fun _ _ ht => ht.1
    · exact fun _ ht _ => ht.1
    · intro _ t c ⟨kept, aside⟩ found
      have back : some c = l.shm := found.symm.trans aside
      obtain ⟨db, wal, -, pending, pendingConfig, config⟩ := kept
      constructor <;> simp_all [Layout.set]
  · exact fun _ => Ends.ret fun _ ht => ht

theorem restoreSidecars_ends {w s : Bool} (wal : w = true → l.wal.isSome)
    (put : w = true → start.fate (Sidecar.putBack .wal) ≠ .done → lost) :
    Ends (fun t => Kept lost l (layout n t)) E (fun t => layout n t = l.moved w s)
      (restoreSidecars start (movedSidecars w s)) fun _ t => Kept lost l (layout n t) := by
  have rest : ∀ {P : Files RestoreFile C → Prop}, (∀ t, P t → Kept lost l (layout n t) ∧
      (s = true → (layout n t).shmAside = l.shm)) →
      Ends (fun t => Kept lost l (layout n t)) E P
        (restoreSidecars start (if s then [.shm] else [])) fun _ t => Kept lost l (layout n t) := by
    intro P pre
    cases s with
    | false => exact Ends.ret fun t ht => (pre t ht).1
    | true =>
        apply putShmBack_ends.conseq
        · exact fun t ht => ⟨(pre t ht).1, (pre t ht).2 rfl⟩
        · exact fun _ _ ht => ht
  cases w with
  | false =>
      apply rest
      intro t ht
      rw [ht]
      cases s <;> constructor <;> (try constructor) <;> simp [Layout.moved]
  | true =>
      have gone : ∀ t, layout n t = l.moved true s → lost → Kept lost l (layout n t) ∧
          (s = true → (layout n t).shmAside = l.shm) := by
        intro t ht isLost
        rw [ht]
        cases s <;> constructor <;> (try constructor) <;> simp [Layout.moved, isLost]
      apply Ends.bind (Q := fun _ t => Kept lost l (layout n t) ∧
        (s = true → (layout n t).shmAside = l.shm))
      · apply Ends.ignoring
        apply Ends.rename
        · exact fun dies t ht => (gone t ht (put rfl (by simp [Sidecar.putBack, dies]))).1
        · intro t ht failed
          apply gone t ht
          apply put rfl
          rcases failed with ⟨why, failed⟩ | ⟨-, missing⟩
          · simp [Sidecar.putBack, failed]
          · have aside : (layout n t).walAside = none := missing
            rw [ht] at aside
            simp [Layout.moved] at aside
            simp [aside] at wal
        · intro _ t c ht found
          have aside : (layout n t).walAside = some c := found
          rw [ht] at aside
          simp only [Layout.moved, if_true] at aside
          simp only [layout_store, layout_drop, ht]
          cases s <;> constructor <;> (try constructor) <;> simp [Layout.moved, Layout.set, aside]
      · intro _
        exact rest fun _ ht => ht

/-- The process stops, or gives up, once it has moved the WAL: the WAL is `lost`. -/
def LosesWal (start : Start) (l : Layout C) (lost : Prop) : Prop :=
  l.wal.isSome → start.fate (.rename (.sidecar .wal) (.aside .wal)) = .done →
    SwapLosesWal start l.shm.isSome → lost

/-- All the sidecars there were are out of the way. -/
def Aside (start : Start) (n : Nat) (l : Layout C) (moved : List Sidecar)
    (t : Files RestoreFile C) : Prop :=
  moved = movedSidecars l.wal.isSome l.shm.isSome ∧
  ((l.wal.isSome → start.fate (.rename (.sidecar .wal) (.aside .wal)) = .done) ∧
    (l.shm.isSome → start.fate (.rename (.sidecar .shm) (.aside .shm)) = .done)) ∧
  layout n t = l.moved l.wal.isSome l.shm.isSome

theorem kept_moved {w s : Bool} {l' : Layout C} (same : l' = l.moved w s) (h : w = true → lost) :
    Kept lost l l' := by
  subst same
  cases w <;> cases s <;> constructor <;> simp_all [Layout.moved]

theorem moveShm_ends (loses : LosesWal start l lost)
    (done : l.wal.isSome → start.fate (.rename (.sidecar .wal) (.aside .wal)) = .done) :
    Ends (fun t => Kept lost l (layout n t)) (fun t => Kept lost l (layout n t))
      (fun t => layout n t = l.moved l.wal.isSome false)
      (moveAside start [.shm] (if l.wal.isSome then [.wal] else [])) (Aside start n l) := by
  apply Ends.bind (Q := fun there t => there = l.shm.isSome ∧
    layout n t = l.moved l.wal.isSome false)
  · apply Ends.isThere
    intro t ht
    have same : (layout n t).shm = l.shm := by rw [ht]; simp [Layout.moved]
    exact ⟨congrArg Option.isSome same, ht⟩
  · intro there
    apply Ends.given
    intro present
    cases there with
    | false =>
        apply Ends.ret
        intro t ht
        simp only [Aside, ← present]
        exact ⟨by simp [movedSidecars], ⟨done, by simp⟩, ht⟩
    | true =>
        have stops : start.fate (.rename (.sidecar .shm) (.aside .shm)) = .dies →
            l.wal.isSome = true → lost := by
          intro dies there
          apply loses there (done there)
          simp [SwapLosesWal, ← present, dies]
        apply Ends.bind_tried
          (Q := fun _ t => start.fate (.rename (.sidecar .shm) (.aside .shm)) = .done ∧
            layout n t = l.moved l.wal.isSome true)
          (F := fun t => (∃ why,
            start.fate (.rename (.sidecar .shm) (.aside .shm)) = .fails why) ∧
              layout n t = l.moved l.wal.isSome false)
        · apply Ends.rename
          · exact fun dies t ht => kept_moved ht (stops dies)
          · rintro t ht (failed | ⟨-, missing⟩)
            · exact ⟨failed, ht⟩
            · have shm : (layout n t).shm = none := missing
              rw [ht] at shm
              simp [Layout.moved] at shm
              simp [shm] at present
          · intro fated t c ht found
            have shm : (layout n t).shm = some c := found
            rw [ht] at shm
            simp only [Layout.moved, Bool.false_eq_true, if_false] at shm
            refine ⟨fated, ?_⟩
            rw [layout_store, layout_drop, ht]
            simp [Layout.moved, Layout.set, shm]
        · intro _
          apply Ends.given
          intro fated
          apply Ends.ret
          intro t ht
          simp only [Aside, ← present]
          exact ⟨by simp [movedSidecars], ⟨done, fun _ => fated⟩, ht⟩
        · intro why
          apply Ends.given
          rintro ⟨_, failed⟩
          have back : movedSidecars l.wal.isSome false =
              if l.wal.isSome then [.wal] else [] := by simp [movedSidecars]
          rw [← back]
          apply Ends.bind (Q := fun _ t => Kept lost l (layout n t))
          · apply restoreSidecars_ends id
            intro there notBack
            apply loses there (done there)
            simpa [SwapLosesWal, ← present, failed] using notBack
          · exact fun _ => Ends.fail fun _ ht => ht

theorem moveSidecarsAside_ends (loses : LosesWal start l lost) :
    Ends (fun t => Kept lost l (layout n t)) (fun t => Kept lost l (layout n t))
      (fun t => layout n t = l) (moveSidecarsAside start) (Aside start n l) := by
  have whole : ∀ t, layout n t = l → layout n t = l.moved false false := fun _ ht => ht
  apply Ends.bind (Q := fun there t => there = l.wal.isSome ∧ layout n t = l)
  · apply Ends.isThere
    intro t ht
    have same : (layout n t).wal = l.wal := by rw [ht]
    exact ⟨congrArg Option.isSome same, ht⟩
  · intro there
    apply Ends.given
    intro present
    cases there with
    | false =>
        have rest := moveShm_ends (n := n) loses (by simp [← present])
        rw [← present] at rest
        exact rest.conseq whole fun _ _ ht => ht
    | true =>
        apply Ends.bind_tried
          (Q := fun _ t => start.fate (.rename (.sidecar .wal) (.aside .wal)) = .done ∧
            layout n t = l.moved true false) (F := fun t => layout n t = l)
        · apply Ends.rename
          · exact fun _ t ht => kept_moved (whole t ht) (by simp)
          · exact fun t ht _ => ht
          · intro fated t c ht found
            have wal : (layout n t).wal = some c := found
            rw [ht] at wal
            refine ⟨fated, ?_⟩
            rw [layout_store, layout_drop, ht]
            simp [Layout.moved, Layout.set, wal]
        · intro _
          apply Ends.given
          intro fated
          have rest := moveShm_ends (n := n) loses fun _ => fated
          rw [← present] at rest
          exact rest
        · intro why
          apply Ends.bind (Q := fun _ t => Kept lost l (layout n t))
          · exact Ends.ret fun t ht => kept_moved (whole t ht) (by simp)
          · exact fun _ => Ends.fail fun _ ht => ht

/-! ## Putting the restored file in place -/

/-- The operations that come after the swap, up to the one that puts the config in place. -/
def afterSwap : FileOp RestoreFile → Bool
  | .remove .pending | .rename .pending .applied | .remove (.aside _) => true
  | .list | .remove (.snapshot _) | .remove (.snapshotWal _) => true
  | .stat .config | .read _ | .write _ | .rename (.tmpOf _) _ | .remove (.tmpOf _) => true
  | _ => false

def StopsAfterSwap (start : Start) : Prop := ∃ op, afterSwap op = true ∧ start.fate op = .dies

/-- Installed, and the pending file is gone unless it could not be removed. -/
def Retired (start : Start) (l l' : Layout C) : Prop :=
  Installed l l' ∧ (l'.pending = none ∨ ∃ why, start.fate (.remove .pending) = .fails why)

variable {m : Layout C} {p : C}

theorem installed_at (bare : m.wal = none ∧ m.shm = none) (pending : m.pending = some p)
    {t : Files RestoreFile C} {file : RestoreFile}
    (file' : file = .pending ∨ file = .copyFallbackTmp) (ht : layout n t = m)
    (found : t.look file = some p) : Installed m (layout n ((t.drop file).store .db p)) := by
  rw [layout_store, layout_drop, ht]
  obtain ⟨wal, shm⟩ := bare
  rcases file' with rfl | rfl <;> constructor <;> simp [Layout.set, wal, shm, pending]

theorem retire_ends (start : Start) :
    Ends (fun t => Installed m (layout n t) ∧ StopsAfterSwap start) E
      (fun t => Installed m (layout n t))
      (do let removed ← Disk.tried (Disk.remove start.fate .pending)
          match removed with
          | .ok () => pure ()
          | .error _ => do
              let _ ← setAside start .applied
              pure ())
      fun _ t => Retired start m (layout n t) := by
  have retired : ∀ {c : Option C} {l' : Layout C}, Installed m l' → c = none →
      Installed m (l'.set n .pending c) := by
    rintro c l' ⟨db, wal, shm, pending, pendingConfig, config, snapshot, snapshotWal⟩ rfl
    constructor <;> simp_all [Layout.set]
  apply Ends.bind (Q := fun r t => match r with
    | .ok () => Retired start m (layout n t)
    | .error _ => Installed m (layout n t) ∧
        ((layout n t).pending = none ∨ ∃ why, start.fate (.remove .pending) = .fails why))
  · apply Ends.tried (F := fun t => Installed m (layout n t) ∧
      ((layout n t).pending = none ∨ ∃ why, start.fate (.remove .pending) = .fails why))
    · apply Ends.remove
      · exact fun dies t ht => ⟨ht, _, rfl, dies⟩
      · rintro t ht (failed | ⟨-, missing⟩)
        · exact ⟨ht, .inr failed⟩
        · exact ⟨ht, .inl missing⟩
      · intro _ t ht
        rw [layout_drop]
        exact ⟨retired ht rfl, .inl (by simp [Layout.set])⟩
    · exact fun _ _ ht => ht
  · intro r
    cases r with
    | ok _ => exact Ends.ret fun _ ht => ht
    | error why =>
        apply Ends.bind (Q := fun _ t => Retired start m (layout n t))
        · apply Ends.bind (Q := fun _ t => Retired start m (layout n t))
          · apply Ends.tried (F := fun t => Retired start m (layout n t))
            · apply Ends.rename
              · exact fun dies t ht => ⟨ht.1, _, rfl, dies⟩
              · exact fun t ht _ => ht
              · intro _ t c ht _
                rw [layout_store, layout_drop]
                exact ⟨retired ht.1 rfl, .inl (by simp [Layout.set])⟩
            · exact fun _ _ ht => ht
          · intro renamed
            cases renamed <;> exact Ends.ret fun _ ht => ht
        · exact fun _ => Ends.ret fun _ ht => ht

theorem installByCopy_ends (bare : m.wal = none ∧ m.shm = none) (pending : m.pending = some p)
    {err : String} (renamed : start.fate (.rename .pending .db) = .fails err) :
    Ends (fun t => layout n t = m ∧ installCourse start = .dies ∨
        Installed m (layout n t) ∧ StopsAfterSwap start)
      (fun t => layout n t = m ∧ ∃ why, installCourse start = .fails why)
      (fun t => layout n t = m) (installByCopy start)
      fun _ t => Retired start m (layout n t) := by
  apply Ends.bind (Q := fun _ t => start.dbDirFull = none ∧ layout n t = m)
  · unfold ensureFreeSpace
    cases full : start.dbDirFull with
    | none => exact Ends.ret fun t ht => ⟨rfl, ht⟩
    | some why => exact Ends.fail fun t ht => ⟨ht, why, by simp [installCourse, renamed, full]⟩
  · intro _
    apply Ends.given
    intro space
    have course_eq : installCourse start =
        match course start.fate [.copy .pending .copyFallbackTmp, .flush .copyFallbackTmp,
          .rename .copyFallbackTmp .db] with
        | .fails why => match start.fate (.remove .copyFallbackTmp) with
            | .dies => .dies
            | _ => .fails why
        | other => other := by simp only [installCourse, renamed, space]
    -- a failure on the way to the rename leaves the live files alone
    have gaveUp : ∀ t, layout n t = m → (∃ why, course start.fate [.copy .pending .copyFallbackTmp,
        .flush .copyFallbackTmp, .rename .copyFallbackTmp .db] = .fails why) →
        layout n t = m ∧ (start.fate (.remove .copyFallbackTmp) = .dies →
          installCourse start = .dies) ∧ (start.fate (.remove .copyFallbackTmp) ≠ .dies →
          ∃ why, installCourse start = .fails why) := by
      rintro t ht ⟨why, failed⟩
      rw [course_eq, failed]
      refine ⟨ht, fun dies => by simp [dies], fun lives => ⟨why, ?_⟩⟩
      cases fated : start.fate (.remove .copyFallbackTmp) with
      | dies => exact absurd fated lives
      | done => rfl
      | fails _ => rfl
    have pendingAt : ∀ t, layout n t = m → t.look .pending = some p := by
      intro t ht
      have same : (layout n t).pending = m.pending := by rw [ht]
      exact same.trans pending
    apply Ends.bind (Q := fun r t => match r with
      | .ok () => Installed m (layout n t)
      | .error _ => layout n t = m ∧ (start.fate (.remove .copyFallbackTmp) = .dies →
          installCourse start = .dies) ∧ (start.fate (.remove .copyFallbackTmp) ≠ .dies →
          ∃ why, installCourse start = .fails why))
    · apply Ends.tried (F := fun t => layout n t = m ∧ ∃ why, course start.fate
        [.copy .pending .copyFallbackTmp, .flush .copyFallbackTmp, .rename .copyFallbackTmp .db] =
          .fails why)
      · apply Ends.bind (Q := fun _ t => start.fate (.copy .pending .copyFallbackTmp) = .done ∧
          layout n t = m ∧ t.look .copyFallbackTmp = some p)
        · apply Ends.copy
          · intro dies t ht
            exact .inl ⟨ht, by simp [course_eq, course, dies]⟩
          · rintro t ht (⟨why, failed⟩ | ⟨-, missing⟩)
            · exact ⟨ht, why, by simp [course, failed]⟩
            · simp [pendingAt t ht] at missing
          · intro fated t c ht found
            rw [pendingAt t ht] at found
            cases found
            exact ⟨fated, by rw [layout_store, ht]; rfl, by simp⟩
        · intro _
          apply Ends.given
          intro copied
          apply Ends.bind (Q := fun _ t => start.fate (.flush .copyFallbackTmp) = .done ∧
            layout n t = m ∧ t.look .copyFallbackTmp = some p)
          · apply Ends.flush
            · intro dies t ht
              exact .inl ⟨ht.1, by simp [course_eq, course, copied, dies]⟩
            · rintro t ht (⟨why, failed⟩ | ⟨-, missing⟩)
              · exact ⟨ht.1, why, by simp [course, copied, failed]⟩
              · simp [ht.2] at missing
            · exact fun fated t ht => ⟨fated, ht⟩
          · intro _
            apply Ends.given
            intro flushed
            apply Ends.rename
            · intro dies t ht
              exact .inl ⟨ht.1, by simp [course_eq, course, copied, flushed, dies]⟩
            · rintro t ht (⟨why, failed⟩ | ⟨-, missing⟩)
              · exact ⟨ht.1, why, by simp [course, copied, flushed, failed]⟩
              · simp [ht.2] at missing
            · intro fated t c ht found
              rw [ht.2] at found
              cases found
              exact installed_at bare pending (.inr rfl) ht.1 ht.2
      · exact fun _ t ht => gaveUp t ht.1 ht.2
    · intro r
      cases r with
      | ok _ =>
          apply (retire_ends (E := fun t => layout n t = m ∧ ∃ why, installCourse start = .fails why)
            start).weaken
          · exact fun _ ht => .inr ht
          · exact fun _ ht => ht
      | error why =>
          apply Ends.bind (Q := fun _ t => layout n t = m ∧ ∃ why, installCourse start = .fails why)
          · apply Ends.ignoring
            apply Ends.remove
            · exact fun dies t ht => .inl ⟨ht.1, ht.2.1 dies⟩
            · rintro t ht (⟨_, failed⟩ | ⟨fated, -⟩)
              · exact ⟨ht.1, ht.2.2 (by simp [failed])⟩
              · exact ⟨ht.1, ht.2.2 (by simp [fated])⟩
            · intro fated t ht
              exact ⟨by rw [layout_drop, ht.1]; rfl, ht.2.2 (by simp [fated])⟩
          · exact fun _ => Ends.fail fun _ ht => ht

theorem install_ends (bare : m.wal = none ∧ m.shm = none) (pending : m.pending = some p) :
    Ends (fun t => layout n t = m ∧ installCourse start = .dies ∨
        Installed m (layout n t) ∧ StopsAfterSwap start)
      (fun t => layout n t = m ∧ ∃ why, installCourse start = .fails why)
      (fun t => layout n t = m) (install start) fun _ t => Retired start m (layout n t) := by
  have pendingAt : ∀ t, layout n t = m → t.look .pending = some p := by
    intro t ht
    have same : (layout n t).pending = m.pending := by rw [ht]
    exact same.trans pending
  apply Ends.bind (Q := fun r t => match r with
    | .ok () => Retired start m (layout n t)
    | .error _ => (∃ why, start.fate (.rename .pending .db) = .fails why) ∧ layout n t = m)
  · apply Ends.tried (F := fun t =>
      (∃ why, start.fate (.rename .pending .db) = .fails why) ∧ layout n t = m)
    · apply Ends.rename
      · exact fun dies t ht => .inl ⟨ht, by simp [installCourse, dies]⟩
      · rintro t ht (failed | ⟨-, missing⟩)
        · exact ⟨failed, ht⟩
        · simp [pendingAt t ht] at missing
      · intro _ t c ht found
        rw [pendingAt t ht] at found
        cases found
        refine ⟨installed_at bare pending (.inl rfl) ht (pendingAt t ht), .inl ?_⟩
        simp [Layout.set]
    · exact fun _ _ ht => ht
  · intro r
    cases r with
    | ok _ => exact Ends.ret fun _ ht => ht
    | error _ =>
        apply Ends.given
        rintro ⟨_, renamed⟩
        exact (installByCopy_ends bare pending renamed).explaining

theorem removeAsides_ends {Q : Layout C → Prop}
    (frame : ∀ l' ext, Q l' → Q (l'.set n (.aside ext) none)) (exts : List Sidecar) :
    Ends (fun t => Q (layout n t) ∧ StopsAfterSwap start) E (fun t => Q (layout n t))
      (removeAsides start exts) fun _ t => Q (layout n t) := by
  induction exts with
  | nil => exact Ends.ret fun _ ht => ht
  | cons ext rest ih =>
      apply Ends.bind (Q := fun _ t => Q (layout n t))
      · apply Ends.ignoring
        apply Ends.remove
        · exact fun dies t ht => ⟨ht, _, rfl, dies⟩
        · exact fun t ht _ => ht
        · intro _ t ht
          rw [layout_drop]
          exact frame _ _ ht
      · exact fun _ => ih

theorem swap_ends (loses : LosesWal start l lost) (pending : l.pending = some p) :
    Ends (fun t => Kept lost l (layout n t) ∨ Installed l (layout n t) ∧ StopsAfterSwap start)
      (fun t => Kept lost l (layout n t)) (fun t => layout n t = l) (swap start)
      fun _ t => Retired start l (layout n t) := by
  have bare : (l.moved l.wal.isSome l.shm.isSome).wal = none ∧
      (l.moved l.wal.isSome l.shm.isSome).shm = none := by
    constructor
    · cases h : l.wal <;> simp [Layout.moved, h]
    · cases h : l.shm <;> simp [Layout.moved, h]
  have installed : ∀ {l' : Layout C}, Installed (l.moved l.wal.isSome l.shm.isSome) l' →
      Installed l l' := by
    rintro l' ⟨db, wal, shm, pending, pendingConfig, config, snapshot, snapshotWal⟩
    exact ⟨db, wal, shm, pending, pendingConfig, config, snapshot, snapshotWal⟩
  apply Ends.bind (Q := Aside start n l)
  · exact (moveSidecarsAside_ends loses).weaken (fun _ ht => .inl ht) fun _ ht => ht
  · intro moved
    apply Ends.given
    rintro rfl
    apply Ends.given
    rintro ⟨wal, shm⟩
    have gaveUp : installCourse start ≠ .done → SwapLosesWal start l.shm.isSome ∨
        start.fate (Sidecar.putBack .wal) = .done := by
      intro undone
      by_cases back : start.fate (Sidecar.putBack .wal) = .done
      · exact .inr back
      · apply Or.inl
        cases hs : l.shm.isSome <;> cases h : installCourse start <;>
          simp_all [SwapLosesWal]
    have stopped : ∀ t, layout n t = l.moved l.wal.isSome l.shm.isSome →
        installCourse start = .dies → Kept lost l (layout n t) := by
      intro t ht dies
      apply kept_moved ht
      intro there
      apply loses there (wal there)
      cases hs : l.shm.isSome with
      | false => simp [SwapLosesWal, dies]
      | true => simp [SwapLosesWal, shm hs, dies]
    apply Ends.bind (Q := fun r t => match r with
      | .ok () => Retired start l (layout n t)
      | .error _ => (∃ why, installCourse start = .fails why) ∧
          layout n t = l.moved l.wal.isSome l.shm.isSome)
    · apply Ends.tried (F := fun t => (∃ why, installCourse start = .fails why) ∧
        layout n t = l.moved l.wal.isSome l.shm.isSome)
      · apply ((install_ends bare pending).weaken _ fun _ ht => ⟨ht.2, ht.1⟩).conseq
          (fun _ ht => ht) fun _ _ ht => ⟨installed ht.1, ht.2⟩
        rintro t (⟨ht, dies⟩ | ⟨done, tidying⟩)
        · exact .inl (stopped t ht dies)
        · exact .inr ⟨installed done, tidying⟩
      · exact fun _ _ ht => ht
    · intro r
      cases r with
      | ok _ =>
          apply (removeAsides_ends (Q := Retired start l) _ _).weaken
          · exact fun _ ht => .inr ⟨ht.1.1, ht.2⟩
          · exact fun _ ht => ht
          · rintro l' ext ⟨⟨db, wal, shm, pending, pendingConfig, config, snapshot, snapshotWal⟩, gone⟩
            cases ext <;>
              exact ⟨⟨db, wal, shm, pending, pendingConfig, config, snapshot, snapshotWal⟩, gone⟩
      | error _ =>
          apply Ends.given
          rintro ⟨_, failed⟩
          apply Ends.bind (Q := fun _ t => Kept lost l (layout n t))
          · apply (restoreSidecars_ends (E := fun t => Kept lost l (layout n t)) id _).weaken
            · exact fun _ ht => .inl ht
            · exact fun _ ht => ht
            · intro there notBack
              exact loses there (wal there) ((gaveUp (by simp [failed])).resolve_right notBack)
          · exact fun _ => Ends.fail fun _ ht => ht

/-! ## The snapshot -/

theorem le_foldr_max {stamps : List Nat} {k : Nat} (mem : k ∈ stamps) : k ≤ stamps.foldr max 0 := by
  induction stamps with
  | nil => cases mem
  | cons a rest ih =>
      rcases List.mem_cons.mp mem with rfl | later
      · exact le_max_left _ _
      · exact (ih later).trans (le_max_right _ _)

theorem firstFree_notMem {taken : List Nat} (fuel stamp : Nat)
    (enough : ∀ k ∈ taken, k < stamp + fuel) : firstFree taken fuel stamp ∉ taken := by
  induction fuel generalizing stamp with
  | zero => exact fun mem => lt_irrefl _ (enough _ mem)
  | succ fuel ih =>
      unfold firstFree
      split
      · apply ih
        intro k hk
        have bound := enough k hk
        omega
      · assumption

theorem nextSnapshotStamp_free (start : Start) (t : Files RestoreFile C) :
    t.look (.snapshotWal (nextSnapshotStamp start t)) = none := by
  have fresh : nextSnapshotStamp start t ∉ takenStamps t := by
    apply firstFree_notMem
    intro k hk
    have bound := le_foldr_max hk
    omega
  by_contra found
  apply fresh
  obtain ⟨c, hc⟩ := Option.ne_none_iff_exists'.mp found
  obtain ⟨e, he, -⟩ := Option.map_eq_some_iff.mp hc
  have entry := KeyedTable.get?_eq_some.mp he
  exact List.mem_filterMap.mpr ⟨e, entry.1, by rw [entry.2]; rfl⟩

def copyOps (source target : RestoreFile) : List (FileOp RestoreFile) :=
  [.copy source (.partialOf target), .flush (.partialOf target),
    .rename (.partialOf target) target]

def snapshotOps (stamp : Nat) (withWal : Bool) : List (FileOp RestoreFile) :=
  copyOps .db (.snapshot stamp) ++
    if withWal then copyOps (.sidecar .wal) (.snapshotWal stamp) else []

variable {c : C}

theorem copyDurably_ends {source target : RestoreFile}
    (found : ∀ t, layout n t = l → t.look source = some c) :
    Ends (fun t => layout n t = l) (fun t => layout n t = l) (fun t => layout n t = l)
      (copyDurably start source target)
      fun _ t => course start.fate (copyOps source target) = .done ∧
        layout n t = l.set n target (some c) := by
  apply Ends.bind (Q := fun r t => match r with
    | .ok () => course start.fate (copyOps source target) = .done ∧
        layout n t = l.set n target (some c)
    | .error _ => layout n t = l)
  · apply Ends.tried (F := fun t => layout n t = l)
    · apply Ends.bind (Q := fun _ t => start.fate (.copy source (.partialOf target)) = .done ∧
        layout n t = l ∧ t.look (.partialOf target) = some c)
      · apply Ends.copy
        · exact fun _ _ ht => ht
        · exact fun _ ht _ => ht
        · intro fated t c' ht there
          rw [found t ht] at there
          cases there
          exact ⟨fated, by rw [layout_store, ht]; rfl, by simp⟩
      · intro _
        apply Ends.given
        intro copied
        apply Ends.bind (Q := fun _ t => start.fate (.flush (.partialOf target)) = .done ∧
          layout n t = l ∧ t.look (.partialOf target) = some c)
        · apply Ends.flush
          · exact fun _ _ ht => ht.1
          · exact fun _ ht _ => ht.1
          · exact fun fated t ht => ⟨fated, ht⟩
        · intro _
          apply Ends.given
          intro flushed
          apply Ends.rename
          · exact fun _ _ ht => ht.1
          · exact fun _ ht _ => ht.1
          · intro fated t c' ht there
            rw [ht.2] at there
            cases there
            refine ⟨by simp [copyOps, course, copied, flushed, fated], ?_⟩
            rw [layout_store, layout_drop, ht.1]
            rfl
    · exact fun _ _ ht => ht
  · intro r
    cases r with
    | ok _ => exact Ends.ret fun _ ht => ht
    | error why =>
        apply Ends.bind (Q := fun _ t => layout n t = l)
        · apply Ends.ignoring
          apply Ends.remove
          · exact fun _ _ ht => ht
          · exact fun _ ht _ => ht
          · intro _ t ht
            rw [layout_drop, ht]
            rfl
        · exact fun _ => Ends.fail fun _ ht => ht

/-- `l` with a snapshot taken of its database, and of its WAL when that is to go with it. -/
def Layout.snapped (l : Layout C) (withWal : Bool) : Layout C :=
  { l with
    snapshot := l.db
    snapshotWal := if withWal then l.wal else l.snapshotWal }

/-- The live database is as in `l`, whatever became of the snapshot. -/
def SameLive (l l' : Layout C) : Prop :=
  ∃ snapshot snapshotWal, l' = { l with snapshot, snapshotWal }

theorem copySnapshot_ends {d : C} {withWal : Bool} (db : l.db = some d)
    (wal : withWal = true → l.wal.isSome) :
    Ends (fun t => SameLive l (layout n t)) (fun t => SameLive l (layout n t))
      (fun t => layout n t = l) (copySnapshot start n withWal)
      fun _ t => course start.fate (snapshotOps n withWal) = .done ∧
        layout n t = l.snapped withWal := by
  have same : ∀ t, layout n t = l → SameLive l (layout n t) := fun t ht => ⟨_, _, ht⟩
  apply Ends.bind (Q := fun _ t => course start.fate (copyOps .db (.snapshot n)) = .done ∧
    layout n t = l.set n (.snapshot n) l.db)
  · apply Ends.explaining
    rw [db]
    apply (copyDurably_ends _).weaken same same
    rintro t rfl
    exact db
  · intro _
    apply Ends.given
    intro copied
    have setDb : l.set n (.snapshot n) l.db = { l with snapshot := l.db } := by
      simp [Layout.set]
    rw [setDb]
    cases withWal with
    | false =>
        apply Ends.ret
        intro t ht
        refine ⟨by simp [snapshotOps, copied], ?_⟩
        rw [ht]
        simp [Layout.snapped]
    | true =>
        obtain ⟨w, hw⟩ := Option.isSome_iff_exists.mp (wal rfl)
        have sameSet : ∀ t, layout n t = { l with snapshot := l.db } → SameLive l (layout n t) :=
          fun t ht => ⟨_, _, ht⟩
        apply Ends.explaining
        apply ((copyDurably_ends (c := w) _).weaken sameSet sameSet).conseq (fun _ ht => ht)
        · rintro _ t ⟨copiedWal, ht⟩
          refine ⟨by simp [snapshotOps, course_append, copied, copiedWal], ?_⟩
          rw [ht]
          simp [Layout.set, Layout.snapped, hw]
        · intro t ht
          have sameWal : (layout n t).wal = l.wal := by rw [ht]
          exact sameWal.trans hw

end SupplyDrop.Proof.Restore
