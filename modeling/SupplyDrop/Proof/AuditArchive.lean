import Mathlib
import SupplyDrop.Library.Run
import SupplyDrop.Host.Archive
import SupplyDrop.Store.Rooms

namespace SupplyDrop.Proof.AuditArchive
open Library Library.Program Store Host Host.Archiver

/-! ## What may be removed -/

def Live (a : Archiver) (e : AuditEntry) : Prop :=
  a.storage.db.auditLog.get? e.id = some e.toAuditRow

def Dated (row : AuditRow) (year : Int) (month : Nat) : Prop :=
  row.createdAt.year = year ∧ row.createdAt.month = month

/-- The archive of the entry's own month is complete and has the entry. -/
def Kept (a : Archiver) (e : AuditEntry) : Prop :=
  ∃ f, a.archives e.createdAt.year e.createdAt.month = some f ∧ f.through.isSome ∧ e ∈ f.entries

/-- What the writer makes of a month: entries of that month only, and every live entry of the month
up to the id in the header. -/
structure Genuine (a : Archiver) (year : Int) (month : Nat) (f : ArchiveFile) (through : Int) :
    Prop where
  dated : ∀ e ∈ f.entries, Dated e.toAuditRow year month
  bounded : through ≤ a.storage.db.auditLog.seq
  complete : ∀ e, Live a e → Dated e.toAuditRow year month → e.id ≤ through → e ∈ f.entries

def Numbered (a : Archiver) : Prop :=
  0 ≤ a.storage.db.auditLog.seq ∧ ∀ e, Live a e → 0 < e.id

/-- `initial` are the files that were there before the first run, which may hold anything. -/
structure Sound (initial : Int → Nat → Option ArchiveFile) (seen : AuditEntry → Prop)
    (a : Archiver) : Prop where
  numbered : Numbered a
  genuine : ∀ year month f through, a.archives year month = some f → f.through = some through →
    initial year month = some f ∨ Genuine a year month f through
  kept : ∀ e, seen e → Live a e ∨ Kept a e

/-! ## Steps that change neither the log nor the archives -/

structure Same (a₀ a : Archiver) : Prop where
  db : a.storage.db = a₀.storage.db
  archives : a.archives = a₀.archives
  lookFails : a.lookFails = a₀.lookFails
  readFails : a.readFails = a₀.readFails

theorem Same.refl (a : Archiver) : Same a a := ⟨rfl, rfl, rfl, rfl⟩

theorem Same.live {a₀ a : Archiver} (same : Same a₀ a) (e : AuditEntry) : Live a e ↔ Live a₀ e := by
  rw [Live, Live, same.db]

theorem Sound.same {initial : Int → Nat → Option ArchiveFile} {seen : AuditEntry → Prop}
    {a₀ a : Archiver} (h : Sound initial seen a₀) (same : Same a₀ a) : Sound initial seen a := by
  obtain ⟨⟨nonneg, positive⟩, genuine, kept⟩ := h
  simp only [← same.live, Kept, ← same.archives] at positive genuine kept
  refine ⟨⟨by rwa [same.db], positive⟩, fun year month f through named range => ?_, kept⟩
  rcases genuine year month f through named range with old | ⟨dated, bounded, complete⟩
  · exact .inl old
  · refine .inr ⟨dated, by rwa [same.db], fun e live => complete e ?_⟩
    exact (same.live e).mp live

section Quiet
variable {a₀ : Archiver}

theorem tick_same : Ensures (Same a₀) (Same a₀) tick fun _ => Same a₀ := by
  intro a same
  unfold tick
  split
  · exact ⟨same, fun _ _ => same⟩
  · exact ⟨same, fun _ _ => same⟩
  · exact ⟨⟨same.db, same.archives, same.lookFails, same.readFails⟩,
      fun _ _ => ⟨same.db, same.archives, same.lookFails, same.readFails⟩⟩

theorem file_same (describe : String → String) :
    Ensures (Same a₀) (Same a₀) (file describe) fun _ => Same a₀ := by
  refine tick_same.bind fun _ a same => ?_
  have moved (rest : List (Option String)) : Same a₀ { a with fileFaults := rest } :=
    ⟨same.db, same.archives, same.lookFails, same.readFails⟩
  dsimp only
  split
  · exact ⟨same, fun _ _ => same⟩
  · exact ⟨moved _, fun _ _ => moved _⟩
  · exact ⟨moved _, fun _ _ => moved _⟩

theorem query_same {α : Type} (f : Database → α) :
    Ensures (Same a₀) (Same a₀) (db (query f)) fun x a => Same a₀ a ∧ x = f a₀.storage.db := by
  refine tick_same.bind fun _ a same => ?_
  have moved : Same a₀ { a with storage := (query f a.storage).2 } :=
    ⟨(query_db f a.storage).trans same.db, same.archives, same.lookFails, same.readFails⟩
  refine ⟨moved, fun x eq => ⟨moved, ?_⟩⟩
  rcases ran : query f a.storage with ⟨r, s'⟩
  simp only [ran] at eq
  cases r with
  | error e => cases eq
  | ok y =>
      cases eq
      rw [(query_ok ran).1, same.db]

theorem lookUp_same (year : Int) (month : Nat) :
    Ensures (Same a₀) (Same a₀) (lookUp year month) fun x a =>
      Same a₀ a ∧ x = if a₀.lookFails then none else a₀.archives year month := by
  refine tick_same.bind fun _ => Ensures.gets fun a same => ⟨same, same, ?_⟩
  rw [same.lookFails, same.archives]

theorem archivedThrough_same (f : ArchiveFile) :
    Ensures (Same a₀) (Same a₀) (archivedThrough f) fun x a =>
      Same a₀ a ∧ x = if a₀.readFails then none else f.through := by
  refine tick_same.bind fun _ => Ensures.gets fun a same => ⟨same, same, ?_⟩
  rw [same.readFails]

end Quiet

/-! ## The range of a month -/

theorem monthRange_holds (year : Int) (month : Nat) (r : Int × AuditRow) :
    (monthRange year month).holds r = true ↔ Dated r.2 year month := by
  obtain ⟨id, row⟩ := r
  obtain ⟨low, high⟩ := row.createdAt.valid
  by_cases december : month = 12
  · simp [monthRange, december, MonthRange.holds, AuditTime.inRange, AuditTime.beforeMonth, Dated]
    omega
  · simp [monthRange, december, MonthRange.holds, AuditTime.inRange, AuditTime.beforeMonth, Dated]
    omega

theorem live_iff_mem (a : Archiver) (r : Int × AuditRow) :
    Live a (auditEntry r) ↔ r ∈ a.storage.db.auditLog.rows :=
  (RowTable.mem_rows_iff _ r.1 r.2).symm

/-! ## The batches -/

def Pending (range : MonthRange) (through after : Int) (r : Int × AuditRow) : Bool :=
  after < r.1 && r.1 ≤ through && range.holds r

theorem pending_after_page {rows : List (Int × AuditRow)} {range : MonthRange}
    {through after : Int} {limit : Nat} {last : Int × AuditRow}
    (sorted : rows.Pairwise fun a b => a.1 < b.1)
    (page : ((rows.filter (Pending range through after)).take limit).getLast? = some last) :
    (∀ r ∈ rows.filter (Pending range through after),
      r ∈ (rows.filter (Pending range through after)).take limit ∨
        r ∈ rows.filter (Pending range through last.1)) ∧
    (rows.filter (Pending range through last.1)).length <
      (rows.filter (Pending range through after)).length := by
  have inPage : last ∈ (rows.filter (Pending range through after)).take limit :=
    List.mem_of_getLast? page
  have pending := List.mem_filter.mp (List.mem_of_mem_take inPage)
  have beyond : after < last.1 := by
    have := pending.2
    simp only [Pending, Bool.and_eq_true, decide_eq_true_eq] at this
    exact this.1.1
  constructor
  · intro r mem
    have ordered := sorted.sublist (List.filter_sublist (p := Pending range through after))
    rw [← List.take_append_drop limit (rows.filter (Pending range through after)),
      List.pairwise_append] at ordered
    rw [← List.take_append_drop limit (rows.filter (Pending range through after)),
      List.mem_append] at mem
    refine mem.imp_right fun later => List.mem_filter.mpr ?_
    obtain ⟨old, holds⟩ := List.mem_filter.mp (List.mem_of_mem_drop later)
    have above := ordered.2.2 last inPage r later
    simp only [Pending, Bool.and_eq_true, decide_eq_true_eq] at holds ⊢
    exact ⟨old, ⟨above, holds.1.2⟩, holds.2⟩
  · have fewer : rows.filter (Pending range through last.1) =
        (rows.filter (Pending range through after)).filter (Pending range through last.1) := by
      rw [List.filter_filter]
      refine List.filter_congr fun r _ => ?_
      simp only [Pending]
      grind
    rw [fewer]
    refine List.length_filter_lt_length_iff_exists.mpr ⟨last, ?_, ?_⟩
    · exact List.mem_filter.mpr pending
    · simp [Pending]

/-- What the batches have written once all ids up to `after` are done. -/
structure Covers (a : Archiver) (range : MonthRange) (through after : Int)
    (written : List AuditEntry) : Prop where
  dated : ∀ e ∈ written, range.holds (e.id, e.toAuditRow)
  rest : ∀ r ∈ a.storage.db.auditLog.rows, r.1 ≤ through → range.holds r → auditEntry r ∈ written ∨
    r ∈ a.storage.db.auditLog.rows.filter (Pending range through after)

theorem Covers.page {a : Archiver} {range : MonthRange} {through after : Int} {limit : Nat}
    {written : List AuditEntry} {last : Int × AuditRow} (covers : Covers a range through after written)
    (page : ((a.storage.db.auditLog.rows.filter (Pending range through after)).take limit).getLast? =
      some last) :
    Covers a range through last.1 (written ++
      ((a.storage.db.auditLog.rows.filter (Pending range through after)).take limit).map auditEntry)
    where
  dated e mem := by
    rcases List.mem_append.mp mem with old | new
    · exact covers.dated e old
    · obtain ⟨r, taken, rfl⟩ := List.mem_map.mp new
      have holds := (List.mem_filter.mp (List.mem_of_mem_take taken)).2
      simp only [Pending, Bool.and_eq_true] at holds
      exact holds.2
  rest r stored under holds := by
    rcases covers.rest r stored under holds with old | left
    · exact .inl (List.mem_append_left _ old)
    · rcases (pending_after_page a.storage.db.auditLog.sorted page).1 r left with taken | later
      · exact .inl (List.mem_append_right _ (List.mem_map_of_mem taken))
      · exact .inr later

theorem writeBatches_covers {a₀ : Archiver} {range : MonthRange} {through : Int} :
    ∀ fuel after written,
      (a₀.storage.db.auditLog.rows.filter (Pending range through after)).length < fuel →
      Covers a₀ range through after written →
      Ensures (Same a₀) (Same a₀) (writeBatches through range fuel after written) fun entries a =>
        Same a₀ a ∧ (∀ e ∈ entries, range.holds (e.id, e.toAuditRow)) ∧
          ∀ r ∈ a₀.storage.db.auditLog.rows, r.1 ≤ through → range.holds r → auditEntry r ∈ entries := by
  intro fuel
  induction fuel with
  | zero => intro after written short; omega
  | succ fuel ih =>
      intro after written short covers
      refine (query_same _).bind fun batch => Ensures.given fun fetched => ?_
      have batchEq : batch = ((a₀.storage.db.auditLog.rows.filter
        (Pending range through after)).take batchSize).map auditEntry := fetched
      subst batchEq
      rw [List.getLast?_map]
      cases page : ((a₀.storage.db.auditLog.rows.filter (Pending range through after)).take
          batchSize).getLast? with
      | none =>
          refine Ensures.ret fun a same => ⟨same, same, covers.dated, fun r stored under holds => ?_⟩
          have nothing := (List.take_eq_nil_iff.mp (List.getLast?_eq_none_iff.mp page)).resolve_left
            (by decide)
          rcases covers.rest r stored under holds with done | left
          · exact done
          · rw [nothing] at left
            cases left
      | some last =>
          have fewer := (pending_after_page a₀.storage.db.auditLog.sorted page).2
          exact (file_same writing).bind fun _ => ih last.1 _ (by omega) (covers.page page)

/-! ## Changes to the log and to the archives -/

section Changes
variable {initial : Int → Nat → Option ArchiveFile} {seen : AuditEntry → Prop} {a : Archiver}

/-- The file at the month's name can go without an entry that is gone from the log going with it. -/
def Replaceable (seen : AuditEntry → Prop) (a : Archiver) (year : Int) (month : Nat) : Prop :=
  ∀ f, a.archives year month = some f → f.through.isSome → ∀ e ∈ f.entries, seen e → Live a e

theorem Sound.setArchive {year : Int} {month : Nat} {new : Option ArchiveFile}
    (h : Sound initial seen a) (aside : List ArchiveFile) (old : Replaceable seen a year month)
    (genuine : ∀ f through, new = some f → f.through = some through →
      Genuine a year month f through) :
    Sound initial seen { a.setArchive year month new with aside } where
  numbered := h.numbered
  genuine y m f through named range := by
    by_cases here : y = year ∧ m = month
    · obtain ⟨rfl, rfl⟩ := here
      obtain ⟨dated, bounded, complete⟩ := genuine f through (by simpa [Archiver.setArchive] using named)
        range
      exact .inr ⟨dated, bounded, complete⟩
    · rw [Archiver.setArchive] at named
      refine (h.genuine y m f through ((if_neg here).symm.trans named) range).imp_right ?_
      exact fun ⟨dated, bounded, complete⟩ => ⟨dated, bounded, complete⟩
  kept e noticed := by
    rcases h.kept e noticed with live | ⟨f, named, readable, mem⟩
    · exact .inl live
    · by_cases here : e.createdAt.year = year ∧ e.createdAt.month = month
      · obtain ⟨rfl, rfl⟩ := here
        exact .inl (old f named readable e mem noticed)
      · exact .inr ⟨f, (if_neg here).trans named, readable, mem⟩

theorem Sound.delete {storage : Storage} {p : Int → AuditRow → Bool} (h : Sound initial seen a)
    (cleared : storage.db.auditLog = a.storage.db.auditLog.filter fun id row => !p id row)
    (archived : ∀ e, Live a e → p e.id e.toAuditRow → Kept a e) :
    Sound initial seen { a with storage } := by
  have live_iff (e : AuditEntry) : Live { a with storage } e ↔ Live a e ∧ p e.id e.toAuditRow = false := by
    simp only [Live, cleared, RowTable.get?_filter, Option.filter_eq_some_iff, Bool.not_eq_true']
  have seq_eq : storage.db.auditLog.seq = a.storage.db.auditLog.seq := by
    rw [cleared, RowTable.seq_filter]
  refine ⟨⟨by show 0 ≤ storage.db.auditLog.seq; rw [seq_eq]; exact h.numbered.1,
    fun e live => h.numbered.2 e ((live_iff e).mp live).1⟩, fun y m f through named range => ?_,
    fun e noticed => ?_⟩
  · refine (h.genuine y m f through named range).imp_right fun ⟨dated, bounded, complete⟩ => ?_
    refine ⟨dated, by show through ≤ storage.db.auditLog.seq; rwa [seq_eq], fun e live => ?_⟩
    exact complete e ((live_iff e).mp live).1
  · rcases h.kept e noticed with live | kept
    · cases gone : p e.id e.toAuditRow with
      | false => exact .inl ((live_iff e).mpr ⟨live, gone⟩)
      | true => exact .inr (archived e live gone)
    · exact .inr kept

theorem Sound.insert {storage : Storage} {row : AuditRow} (h : Sound initial seen a)
    (written : storage.db.auditLog = a.storage.db.auditLog.insert row) :
    Sound initial seen { a with storage } := by
  have live_iff (e : AuditEntry) : Live { a with storage } e ↔
      (if e.id = a.storage.db.auditLog.seq + 1 then some row
        else a.storage.db.auditLog.get? e.id) = some e.toAuditRow := by
    rw [Live, written, RowTable.get?_insert]
  have seq_eq : storage.db.auditLog.seq = a.storage.db.auditLog.seq + 1 := by
    rw [written, RowTable.seq_insert]
  have nonneg := h.numbered.1
  refine ⟨⟨by show 0 ≤ storage.db.auditLog.seq; omega, fun e live => ?_⟩,
    fun y m f through named range => ?_, fun e noticed => ?_⟩
  · rw [live_iff] at live
    split at live
    · omega
    · exact h.numbered.2 e live
  · refine (h.genuine y m f through named range).imp_right fun ⟨dated, bounded, complete⟩ => ?_
    refine ⟨dated, by show through ≤ storage.db.auditLog.seq; omega, fun e live here under => ?_⟩
    rw [live_iff, if_neg (by omega)] at live
    exact complete e live here under
  · refine (h.kept e noticed).imp_left fun live => ?_
    have := RowTable.le_seq live
    rwa [live_iff, if_neg (by omega)]

theorem db_run {α : Type} {m : StoreM α} (a₀ : Archiver) {I : Archiver → Prop}
    {R : α → Archiver → Prop} (start : ∀ a, Same a₀ a → I a)
    (ran : ∀ a, Same a₀ a → I { a with storage := (m a.storage).2 } ∧
      ∀ x, (m a.storage).1 = .ok x → R x { a with storage := (m a.storage).2 }) :
    Ensures I (Same a₀) (db m) R := by
  refine (tick_same.weaken start).bind fun _ a same => ⟨(ran a same).1, fun x eq => ?_⟩
  dsimp only at eq
  cases result : (m a.storage).1 with
  | error e =>
      rw [result] at eq
      cases eq
  | ok y =>
      rw [result] at eq
      cases eq
      exact (ran a same).2 _ result

theorem delete_db (count : Storage → Nat) (f : Database → Database) (s : Storage) :
    ((do let removed ← Program.gets count; execute f; pure removed : StoreM Nat) s).2.db = s.db ∨
      ((do let removed ← Program.gets count; execute f; pure removed : StoreM Nat) s).2.db = f s.db := by
  have same := statement_db s
  rw [Program.bind_apply, Program.gets_apply, execute]
  dsimp only
  rw [Program.bind_apply, Program.bind_apply]
  rcases started : statement s with ⟨r, s'⟩
  rw [started] at same
  cases r with
  | error e => exact .inl same
  | ok u => exact .inr (congrArg f same)

theorem write_db (actor action : String) (target detail : Option String) (s : Storage) :
    (AuditStore.write actor action target detail s).2.db = s.db ∨
      ∃ row, (AuditStore.write actor action target detail s).2.db =
        { s.db with auditLog := s.db.auditLog.insert row } := by
  rw [AuditStore.write, Program.bind_apply, Program.gets_apply]
  dsimp only
  rw [Program.bind_apply]
  split
  · next id s' inserted => exact .inr ⟨_, (insertRow_ok inserted).2.2⟩
  · next e s' failed =>
      have kept := insertRow_error (congrArg Prod.fst failed)
      rw [failed] at kept
      exact .inl kept

theorem Sound.write {actor action : String} {target detail : Option String}
    (h : Sound initial seen a) : Sound initial seen
      { a with storage := (AuditStore.write actor action target detail a.storage).2 } := by
  rcases write_db actor action target detail a.storage with same | ⟨row, written⟩
  · exact h.same ⟨same, rfl, rfl, rfl⟩
  · exact h.insert (congrArg Database.auditLog written)

theorem recordArchiving_sound (filename detail : String) :
    Keeps (Sound initial seen) (recordArchiving filename detail) := by
  have recorded : Keeps (Sound initial seen)
      (db (AuditStore.write "system" "archive_audit_log" (some filename) (some detail))) := by
    intro a sound
    exact (db_run a (R := fun _ _ => True) (fun a' same => sound.same same)
      (fun a' same => ⟨(sound.same same).write, fun _ _ => trivial⟩) a (Same.refl a)).1
  refine recorded.attempt.bind fun result => ?_
  cases result with
  | ok u => exact Keeps.ret ()
  | error stop =>
      cases stop with
      | error e => exact Keeps.ret ()
      | crashed => exact Keeps.fail _

end Changes

/-! ## A month -/

/-- What recovery needs of a readable file at the month's name. -/
structure Recoverable (initial : Int → Nat → Option ArchiveFile) (seen : AuditEntry → Prop)
    (a : Archiver) (year : Int) (month : Nat) (f : ArchiveFile) (through : Int) : Prop where
  unread : a.lookFails = true ∨ a.readFails = true → ∀ e ∈ f.entries, seen e → Live a e
  bound : a.lookFails = false → a.readFails = false → ∀ e, Live a e → e.id ≤ through →
    Dated e.toAuditRow year month ∧ (initial year month = some f → e ∈ f.entries)

def Admitted (initial : Int → Nat → Option ArchiveFile) (seen : AuditEntry → Prop) (a : Archiver)
    (year : Int) (month : Nat) : Prop :=
  (∃ e, Live a e ∧ Dated e.toAuditRow year month) →
    ∀ f through, a.archives year month = some f → f.through = some through →
      Recoverable initial seen a year month f through

section Month
variable {initial : Int → Nat → Option ArchiveFile} {seen : AuditEntry → Prop} {a₀ : Archiver}
  {year : Int} {month : Nat}

theorem Sound.finishClear {f : ArchiveFile} {through : Int} {storage : Storage}
    (sound : Sound initial seen a₀) (named : a₀.archives year month = some f)
    (range : f.through = some through)
    (bound : ∀ e, Live a₀ e → e.id ≤ through →
      Dated e.toAuditRow year month ∧ (initial year month = some f → e ∈ f.entries))
    (cleared : storage.db.auditLog = a₀.storage.db.auditLog.filter fun id _ => !(id ≤ through)) :
    Sound initial seen { a₀ with storage } := by
  refine sound.delete (p := fun id _ => id ≤ through) cleared fun e live under => ?_
  obtain ⟨⟨rfl, rfl⟩, held⟩ := bound e live (by simpa using under)
  refine ⟨f, named, by simp [range], ?_⟩
  rcases sound.genuine _ _ f through named range with old | genuine
  · exact held old
  · exact genuine.complete e live ⟨rfl, rfl⟩ (by simpa using under)

theorem settleExisting_sound (sound : Sound initial seen a₀)
    (admitted : ∀ f through, a₀.archives year month = some f → f.through = some through →
      Recoverable initial seen a₀ year month f through) :
    Ensures (Sound initial seen) (Same a₀) (settleExisting year month) fun afresh a =>
      Sound initial seen a ∧ (afresh = true → a.storage.db = a₀.storage.db ∧
        Replaceable seen a year month) := by
  have keep (a : Archiver) (same : Same a₀ a) : Sound initial seen a := sound.same same
  refine ((lookUp_same year month).weaken keep).bind fun found => Ensures.given fun looked => ?_
  have unreadable : a₀.lookFails = true ∨ a₀.readFails = true → Replaceable seen a₀ year month := by
    intro failed f named readable
    obtain ⟨through, range⟩ := Option.isSome_iff_exists.mp readable
    exact (admitted f through named range).unread failed
  cases found with
  | none =>
      refine Ensures.ret fun a same => ⟨keep a same, keep a same, fun _ => ⟨same.db, ?_⟩⟩
      intro f named readable e mem noticed
      rw [same.archives] at named
      rw [same.live]
      cases fails : a₀.lookFails with
      | true => exact unreadable (.inl fails) f named readable e mem noticed
      | false =>
          rw [fails, named] at looked
          cases looked
  | some f =>
      have present : a₀.lookFails = false ∧ a₀.archives year month = some f := by
        cases fails : a₀.lookFails with
        | true =>
            rw [fails] at looked
            cases looked
        | false =>
            rw [fails] at looked
            exact ⟨rfl, looked.symm⟩
      obtain ⟨looks, named⟩ := present
      refine ((archivedThrough_same f).weaken keep).bind fun archived => Ensures.given fun read => ?_
      cases archived with
      | some through =>
          have header : a₀.readFails = false ∧ f.through = some through := by
            cases fails : a₀.readFails with
            | true =>
                rw [fails] at read
                cases read
            | false =>
                rw [fails] at read
                exact ⟨rfl, read.symm⟩
          obtain ⟨reads, range⟩ := header
          have bound := (admitted f through named range).bound looks reads
          refine ((query_same _).weaken keep).bind fun stranded => Ensures.given fun _ => ?_
          split
          · refine Ensures.bind (Q := fun _ => Sound initial seen) (db_run _ keep fun a same => ?_)
              fun _ => Ensures.ret fun a sound => ⟨sound, sound, fun afresh => by cases afresh⟩
            have after : Sound initial seen
                { a with storage := (AuditStore.deleteThrough through a.storage).2 } := by
              rcases delete_db _ _ a.storage with kept | cleared
              · exact (keep a same).same ⟨kept, rfl, rfl, rfl⟩
              · refine (keep a same).finishClear (same.archives ▸ named) range (fun e live => ?_)
                  (congrArg Database.auditLog cleared)
                exact bound e ((same.live e).mp live)
            exact ⟨after, fun _ _ => after⟩
          · exact Ensures.ret fun a same =>
              ⟨keep a same, keep a same, fun afresh => by cases afresh⟩
      | none =>
          have replaceable : Replaceable seen a₀ year month := by
            cases fails : a₀.readFails with
            | true => exact unreadable (.inr fails)
            | false =>
                intro g there readable
                rw [named] at there
                cases there
                rw [fails] at read
                rw [show f.through = none from read.symm] at readable
                cases readable
          refine Ensures.bind (Q := fun _ a => Sound initial seen a ∧
            a.storage.db = a₀.storage.db ∧ a.archives year month = none) ?_ fun _ => ?_
          · refine ((file_same _).weaken keep).bind fun _ => Ensures.modify fun a same => ?_
            have moved : Sound initial seen
                { a.setArchive year month none with aside := f :: a.aside } := by
              refine (keep a same).setArchive _ (fun g there readable e mem noticed => ?_)
                fun g through none => by cases none
              rw [same.live]
              exact replaceable g (same.archives ▸ there) readable e mem noticed
            exact ⟨moved, moved, same.db, if_pos ⟨rfl, rfl⟩⟩
          · refine Ensures.ret fun a ⟨sound, stored, gone⟩ => ⟨sound, sound, fun _ => ⟨stored, ?_⟩⟩
            intro g there
            rw [gone] at there
            cases there

theorem Sound.clear {storage : Storage} {f : ArchiveFile} {through : Int}
    (sound : Sound initial seen a₀) (named : a₀.archives year month = some f)
    (readable : f.through.isSome)
    (complete : ∀ e, Live a₀ e → Dated e.toAuditRow year month → e.id ≤ through → e ∈ f.entries)
    (cleared : storage.db.auditLog = a₀.storage.db.auditLog.filter fun id row =>
      !(id ≤ through && (monthRange year month).holds (id, row))) :
    Sound initial seen { a₀ with storage } := by
  refine sound.delete (p := fun id row => id ≤ through && (monthRange year month).holds (id, row))
    cleared fun e live removed => ?_
  obtain ⟨under, holds⟩ := Bool.and_eq_true_iff.mp removed
  obtain ⟨rfl, rfl⟩ := (monthRange_holds year month _).mp holds
  exact ⟨f, named, readable, complete e live ⟨rfl, rfl⟩ (of_decide_eq_true under)⟩

theorem covers_start (sound : Sound initial seen a₀) (range : MonthRange) (through : Int) :
    Covers a₀ range through 0 [] where
  dated e mem := by cases mem
  rest r stored under holds := by
    have positive := sound.numbered.2 (auditEntry r) ((live_iff_mem a₀ r).mpr stored)
    refine .inr (List.mem_filter.mpr ⟨stored, ?_⟩)
    simp only [Pending, Bool.and_eq_true, decide_eq_true_eq]
    exact ⟨⟨positive, under⟩, holds⟩

theorem writeArchive_sound (through : Int) (sound : Sound initial seen a₀)
    (replaceable : Replaceable seen a₀ year month)
    (bounded : through ≤ a₀.storage.db.auditLog.seq) :
    Ensures (Sound initial seen) (Same a₀)
      (writeArchive year month through (monthRange year month)) fun _ => Sound initial seen := by
  have keep (a : Archiver) (same : Same a₀ a) : Sound initial seen a := sound.same same
  refine ((query_same _).weaken keep).bind fun first => Ensures.given fun _ => ?_
  refine Ensures.bind (Q := fun _ => Same a₀) (Ensures.gets fun a same => ⟨keep a same, same⟩)
    fun takenAt => ?_
  refine ((file_same _).weaken keep).bind fun _ => ?_
  refine Ensures.bind (Q := fun fuel a => Same a₀ a ∧ fuel = a₀.storage.db.auditLog.rows.length + 1)
    (Ensures.gets fun a same => ⟨keep a same, same, by rw [same.db]⟩)
    fun fuel => Ensures.given fun enough => ?_
  have short : (a₀.storage.db.auditLog.rows.filter
      (Pending (monthRange year month) through 0)).length < fuel := by
    have := List.length_filter_le (Pending (monthRange year month) through 0)
      a₀.storage.db.auditLog.rows
    omega
  refine ((writeBatches_covers fuel 0 [] short (covers_start sound _ _)).weaken keep).bind
    fun written => Ensures.given fun ⟨dated, complete⟩ => ?_
  refine ((file_same _).weaken keep).bind fun _ => ?_
  -- the archive is in place, and what it was written from is still live
  refine Ensures.bind (Q := fun _ a => ∃ a₁, Same a₁ a ∧ Sound initial seen a₁ ∧
      a₁.archives year month = some ⟨some through, written⟩ ∧
      ∀ e, Live a₁ e → Dated e.toAuditRow year month → e.id ≤ through → e ∈ written)
    (Ensures.modify fun a same => ?_) fun _ => ?_
  · have held (e : AuditEntry) (live : Live a e) (here : Dated e.toAuditRow year month)
        (under : e.id ≤ through) : e ∈ written :=
      complete (e.id, e.toAuditRow) ((live_iff_mem a₀ _).mp ((same.live e).mp live)) under
        ((monthRange_holds year month _).mpr here)
    have placed : Sound initial seen (a.setArchive year month (some ⟨some through, written⟩)) := by
      refine (keep a same).setArchive a.aside (fun f there readable e mem noticed => ?_)
        fun f range named header => ?_
      · rw [same.live]
        exact replaceable f (same.archives ▸ there) readable e mem noticed
      · cases named
        cases header
        exact ⟨fun e mem => (monthRange_holds year month _).mp (dated e mem),
          by rwa [same.db], held⟩
    exact ⟨placed, _, Same.refl _, placed, if_pos ⟨rfl, rfl⟩, held⟩
  · intro a ⟨a₁, same₁, sound₁, named, held⟩
    have keep₁ (a : Archiver) (same : Same a₁ a) : Sound initial seen a := sound₁.same same
    refine Ensures.bind ((file_same _).weaken keep₁) (fun _ => ?_) a same₁
    refine Ensures.bind (Q := fun _ => Same a₁) (Ensures.gets fun a same => ⟨keep₁ a same, same⟩)
      fun sizeBytes => ?_
    refine Ensures.bind (Q := fun _ => Sound initial seen) (db_run _ keep₁ fun a same => ?_)
      fun _ => ?_
    · have cleared : Sound initial seen { a with
          storage := (AuditStore.deleteInRange through (monthRange year month) a.storage).2 } := by
        rcases delete_db _ _ a.storage with kept | cleared
        · exact (keep₁ a same).same ⟨kept, rfl, rfl, rfl⟩
        · refine (keep₁ a same).clear (same.archives ▸ named) rfl (fun e live => ?_)
            (congrArg Database.auditLog cleared)
          exact held e ((same.live e).mp live)
      exact ⟨cleared, fun _ _ => cleared⟩
    · exact (Ensures.ofKeeps (recordArchiving_sound _ _)).bind
        fun _ => Ensures.ret fun a sound => ⟨sound, sound⟩

theorem adminArchiveAuditLog_sound (sound : Sound initial seen a₀)
    (admitted : Admitted initial seen a₀ year month) :
    Ensures (Sound initial seen) (Same a₀) (adminArchiveAuditLog year month)
      fun _ => Sound initial seen := by
  have keep (a : Archiver) (same : Same a₀ a) : Sound initial seen a := sound.same same
  unfold adminArchiveAuditLog
  split
  · exact Ensures.fail keep
  · refine ((query_same _).weaken keep).bind fun latest => Ensures.given fun found => ?_
    cases latest with
    | none => exact Ensures.ret fun a same => ⟨keep a same, keep a same⟩
    | some through =>
        have bounded : through ≤ a₀.storage.db.auditLog.seq := by
          have mem := List.max?_mem found.symm
          obtain ⟨r, stored, rfl⟩ := List.mem_map.mp mem
          exact a₀.storage.db.auditLog.bounded r (List.mem_of_mem_filter stored)
        refine ((query_same _).weaken keep).bind fun count => Ensures.given fun counted => ?_
        split
        · exact Ensures.ret fun a same => ⟨keep a same, keep a same⟩
        · next nonzero =>
            have some_row : ∃ e, Live a₀ e ∧ Dated e.toAuditRow year month := by
              rw [counted] at nonzero
              obtain ⟨r, mem⟩ := List.exists_mem_of_ne_nil _ (mt List.length_eq_zero_iff.mpr nonzero)
              obtain ⟨stored, holds⟩ := List.mem_filter.mp mem
              refine ⟨auditEntry r, (live_iff_mem a₀ r).mpr stored, ?_⟩
              exact (monthRange_holds year month r).mp (Bool.and_eq_true_iff.mp holds).2
            refine ((file_same _).weaken keep).bind fun _ => ?_
            refine (settleExisting_sound sound (admitted some_row)).bind fun afresh => ?_
            cases afresh with
            | false => exact Ensures.ret fun a settled => ⟨settled.1, settled.1⟩
            | true =>
                intro a ⟨sound', settled⟩
                obtain ⟨stored, replaceable⟩ := settled rfl
                have written := writeArchive_sound through sound' replaceable
                  (by rw [stored]; exact bounded)
                have returned (archive : AdminAuditArchive) : Ensures (Sound initial seen)
                    (Sound initial seen) (pure (some archive) : ArchiveM _)
                    fun _ => Sound initial seen :=
                  Ensures.ret fun a sound => ⟨sound, sound⟩
                exact (written.bind returned) a (Same.refl a)

end Month

/-! ## A run touches no other month's file -/

section Elsewhere
variable {others : Int → Nat → Option ArchiveFile} {year : Int} {month : Nat}

def Elsewhere (others : Int → Nat → Option ArchiveFile) (year : Int) (month : Nat) (a : Archiver) :
    Prop :=
  ∀ y m, ¬ (y = year ∧ m = month) → a.archives y m = others y m

theorem Elsewhere.setArchive {a : Archiver} {f : Option ArchiveFile}
    (h : Elsewhere others year month a) (aside : List ArchiveFile) :
    Elsewhere others year month { a.setArchive year month f with aside } :=
  fun y m other => (if_neg other).trans (h y m other)

theorem tick_elsewhere : Keeps (Elsewhere others year month) tick := by
  intro a h
  unfold tick
  split <;> exact h

theorem db_elsewhere {α : Type} (m : StoreM α) : Keeps (Elsewhere others year month) (db m) :=
  tick_elsewhere.bind fun _ _ h => h

theorem file_elsewhere (describe : String → String) :
    Keeps (Elsewhere others year month) (file describe) := by
  refine tick_elsewhere.bind fun _ a h => ?_
  dsimp only
  split <;> exact h

theorem settleExisting_elsewhere :
    Keeps (Elsewhere others year month) (settleExisting year month) := by
  refine (tick_elsewhere.bind fun _ => Keeps.gets _).bind fun found => ?_
  cases found with
  | none => exact Keeps.ret _
  | some f =>
      refine (tick_elsewhere.bind fun _ => Keeps.gets _).bind fun archived => ?_
      cases archived with
      | some through =>
          refine (db_elsewhere _).bind fun stranded => ?_
          split
          · exact (db_elsewhere _).bind fun _ => Keeps.ret _
          · exact Keeps.ret _
      | none =>
          refine Keeps.bind ?_ fun _ => Keeps.ret _
          exact (file_elsewhere _).bind fun _ => Keeps.modify fun a h => h.setArchive _

theorem writeBatches_elsewhere (through : Int) (range : MonthRange) (fuel : Nat) :
    ∀ after written,
      Keeps (Elsewhere others year month) (writeBatches through range fuel after written) := by
  induction fuel with
  | zero => exact fun after written => Keeps.ret _
  | succ fuel ih =>
      intro after written
      refine (db_elsewhere _).bind fun batch => ?_
      split
      · exact Keeps.ret _
      · exact (file_elsewhere _).bind fun _ => ih _ _

theorem writeArchive_elsewhere (through : Int) (range : MonthRange) :
    Keeps (Elsewhere others year month) (writeArchive year month through range) := by
  refine (db_elsewhere _).bind fun _ => (Keeps.gets _).bind fun _ => ?_
  refine (file_elsewhere _).bind fun _ => (Keeps.gets _).bind fun _ => ?_
  refine (writeBatches_elsewhere _ _ _ _ _).bind fun _ => (file_elsewhere _).bind fun _ => ?_
  refine (Keeps.modify fun a h => h.setArchive a.aside).bind fun _ => ?_
  refine (file_elsewhere _).bind fun _ => (Keeps.gets _).bind fun _ => ?_
  refine (db_elsewhere _).bind fun _ => Keeps.bind ?_ fun _ => Keeps.ret _
  refine (db_elsewhere _).attempt.bind fun recorded => ?_
  split
  · exact Keeps.fail _
  · exact Keeps.ret _

theorem adminArchiveAuditLog_elsewhere :
    Keeps (Elsewhere others year month) (adminArchiveAuditLog year month) := by
  unfold adminArchiveAuditLog
  split
  · exact Keeps.fail _
  · refine (db_elsewhere _).bind fun latest => ?_
    cases latest with
    | none => exact Keeps.ret _
    | some through =>
        refine (db_elsewhere _).bind fun count => ?_
        split
        · exact Keeps.ret _
        · refine (file_elsewhere _).bind fun _ => settleExisting_elsewhere.bind fun afresh => ?_
          cases afresh with
          | false => exact Keeps.ret _
          | true => exact (writeArchive_elsewhere _ _).bind fun _ => Keeps.ret _

end Elsewhere

/-! ## Runs -/

structure World where
  archiver : Archiver
  -- every entry the log has had
  seen : AuditEntry → Prop

def World.start (a : Archiver) : World := ⟨a, Live a⟩

def World.next (w : World) (a : Archiver) : World := ⟨a, fun e => w.seen e ∨ Live a e⟩

/-- What goes wrong, and when, is chosen afresh for each step. -/
structure Conditions where
  now : Timestamp
  faults : List (Option String)
  fileFaults : List (Option String)
  crashAfter : Option Nat
  lookFails : Bool
  readFails : Bool

def Conditions.on (c : Conditions) (a : Archiver) : Archiver :=
  let storage := { a.storage with now := c.now, faults := c.faults }
  { a with storage := storage, fileFaults := c.fileFaults, crashAfter := c.crashAfter
           lookFails := c.lookFails, readFails := c.readFails }

def Conditions.of (a : Archiver) : Conditions :=
  ⟨a.storage.now, a.storage.faults, a.fileFaults, a.crashAfter, a.lookFails, a.readFails⟩

inductive Event where
  | write (actor action : String) (target detail : Option String)
  | archive (year : Int) (month : Nat)

def Event.run : Event → Archiver → Archiver
  | .write actor action target detail, a => (db (AuditStore.write actor action target detail) a).2
  | .archive year month, a => (adminArchiveAuditLog year month a).2

def Step (event : Event × Conditions) (w w' : World) : Prop :=
  w' = w.next (event.1.run (event.2.on w.archiver))

def Allowed (initial : Int → Nat → Option ArchiveFile) (event : Event × Conditions) (w : World) :
    Prop :=
  match event.1 with
  | .write .. => True
  | .archive year month => Admitted initial w.seen (event.2.on w.archiver) year month

theorem Sound.next {initial : Int → Nat → Option ArchiveFile} {w : World} {a : Archiver}
    (h : Sound initial w.seen a) : Sound initial (w.next a).seen a where
  numbered := h.numbered
  genuine := h.genuine
  kept e noticed := noticed.elim (h.kept e) .inl

theorem Sound.conditions {initial : Int → Nat → Option ArchiveFile} {seen : AuditEntry → Prop}
    {a : Archiver} (h : Sound initial seen a) (c : Conditions) : Sound initial seen (c.on a) where
  numbered := h.numbered
  genuine y m f through named range := by
    refine (h.genuine y m f through named range).imp_right fun ⟨dated, bounded, complete⟩ => ?_
    exact ⟨dated, bounded, complete⟩
  kept := h.kept

theorem step_sound {initial : Int → Nat → Option ArchiveFile} {event : Event × Conditions}
    {w w' : World} (sound : Sound initial w.seen w.archiver) (allowed : Allowed initial event w)
    (step : Step event w w') : Sound initial w'.seen w'.archiver := by
  subst step
  obtain ⟨event, conditions⟩ := event
  have before := sound.conditions conditions
  refine Sound.next (w := w) ?_
  cases event with
  | write actor action target detail =>
      exact (db_run _ (R := fun _ _ => True) (fun a same => before.same same)
        (fun a same => ⟨(before.same same).write, fun _ _ => trivial⟩) _ (Same.refl _)).1
  | archive year month => exact (adminArchiveAuditLog_sound before allowed _ (Same.refl _)).1

theorem start_sound {a : Archiver} (numbered : Numbered a) :
    Sound a.archives (World.start a).seen a where
  numbered := numbered
  genuine _ _ _ _ named _ := .inl named
  kept _ noticed := .inl noticed

/-- An entry leaves the log only for the complete archive of its own month, and no other archive
that a run has made has it. -/
theorem removed_only_archived (a : Archiver) (numbered : Numbered a) (w : World)
    (run : Reaches Step (Allowed a.archives) (World.start a) w) (e : AuditEntry) (noticed : w.seen e) :
    Live w.archiver e ∨
      Kept w.archiver e ∧ ∀ year month f, w.archiver.archives year month = some f →
        f.through.isSome → e ∈ f.entries → Dated e.toAuditRow year month ∨
          a.archives year month = some f := by
  have sound : Sound a.archives w.seen w.archiver :=
    run.invariant (I := fun w => Sound a.archives w.seen w.archiver) (start_sound numbered)
      fun _ _ _ => step_sound
  refine (sound.kept e noticed).imp_right fun kept => ⟨kept, fun year month f named readable mem => ?_⟩
  obtain ⟨through, range⟩ := Option.isSome_iff_exists.mp readable
  rcases sound.genuine year month f through named range with old | genuine
  · exact .inr old
  · exact .inl (genuine.dated e mem)

def entryOf (id : Int) (month : Nat) (valid : 1 ≤ month ∧ month ≤ 12) : AuditEntry :=
  { id, actor := "sysop", action := "ban", target := some "bob", detail := none
    createdAt := ⟨2026, month, 0, valid⟩ }

def january : AuditEntry := entryOf 1 1 (by decide)
def february : AuditEntry := entryOf 2 2 (by decide)

def twoMonths : Archiver where
  storage :=
    let log : RowTable AuditRow := .empty 0
    let log := (log.insert january.toAuditRow).insert february.toAuditRow
    { Storage.fresh with db := { Storage.fresh.db with auditLog := log } }
  archives _ _ := none
  aside := []
  sizeOf f := f.entries.length
  fileFaults := []
  crashAfter := none
  lookFails := false
  readFails := false

theorem twoMonths_numbered : Numbered twoMonths := by
  refine ⟨by decide, fun e live => ?_⟩
  have stored := (RowTable.mem_rows_iff _ _ _).mpr live
  have ids : ∀ r ∈ twoMonths.storage.db.auditLog.rows, 0 < r.1 := by decide
  exact ids _ stored

theorem removed_only_archived_january :
    Kept (Event.run (.archive 2026 1) twoMonths) january := by
  have run : Reaches Step (Allowed twoMonths.archives) (World.start twoMonths)
      ((World.start twoMonths).next (Event.run (.archive 2026 1) twoMonths)) := by
    have allowed : Allowed twoMonths.archives (.archive 2026 1, .of twoMonths)
        (World.start twoMonths) := by
      intro _ f through none
      cases none
    exact .step .start allowed rfl
  have gone : ¬ Live (Event.run (.archive 2026 1) twoMonths) january := by
    unfold Live
    decide +kernel
  exact ((removed_only_archived twoMonths twoMonths_numbered _ run january
    (.inl (show Live twoMonths january by unfold Live; decide))).resolve_left gone).1

/-- The disk fails whenever January is archived; February's run dies between placing its archive and
clearing the log; and the next run takes what that archive's last id reaches. -/
def stranding : List (Event × Conditions) :=
  let calm := Conditions.of twoMonths
  let full := { calm with fileFaults := [some "disk full"] }
  let dies := { calm with crashAfter := some 10 }
  [(.archive 2026 1, full), (.archive 2026 2, dies), (.archive 2026 1, full),
    (.archive 2026 2, calm)]

def World.runs (w : World) : List (Event × Conditions) → World
  | [] => w
  | event :: rest => (w.next (event.1.run (event.2.on w.archiver))).runs rest

theorem runs_reaches (events : List (Event × Conditions)) : ∀ w : World,
    Reaches Step (fun _ _ => True) w (w.runs events) := by
  induction events with
  | nil => exact fun w => .start
  | cons event rest ih =>
      intro w
      exact (Reaches.step .start trivial rfl).trans (ih _)

theorem runs_seen (events : List (Event × Conditions)) {e : AuditEntry} :
    ∀ w : World, w.seen e → (w.runs events).seen e := by
  induction events with
  | nil => exact fun w noticed => noticed
  | cons event rest ih => exact fun w noticed => ih _ (.inl noticed)

theorem runs_elsewhere {year : Int} {month : Nat} (events : List (Event × Conditions)) :
    ∀ w : World, (∀ event ∈ events, event.1 ≠ .archive year month) →
      (w.runs events).archiver.archives year month = w.archiver.archives year month := by
  induction events with
  | nil => exact fun w _ => rfl
  | cons event rest ih =>
      intro w other
      refine (ih _ fun event mem => other event (List.mem_cons_of_mem _ mem)).trans ?_
      obtain ⟨event, conditions⟩ := event
      cases event with
      | write actor action target detail =>
          have kept : Keeps (Elsewhere w.archiver.archives year (month + 1))
            (db (AuditStore.write actor action target detail)) := db_elsewhere _
          exact kept (conditions.on w.archiver) (fun _ _ _ => rfl) year month (by omega)
      | archive y m =>
          have kept : Keeps (Elsewhere w.archiver.archives y m) (adminArchiveAuditLog y m) :=
            adminArchiveAuditLog_elsewhere
          refine kept (conditions.on w.archiver) (fun _ _ _ => rfl) year month ?_
          rintro ⟨rfl, rfl⟩
          exact other _ (List.mem_cons_self ..) rfl

theorem stranding_january :
    (((World.start twoMonths).runs stranding).archiver.archives 2026 1).isNone := by
  decide +kernel

theorem stranding_february :
    (((World.start twoMonths).runs stranding).archiver.archives 2026 2).all
      fun f => january ∉ f.entries := by
  decide +kernel

theorem removed_without_archive : ∃ w, Numbered twoMonths ∧
    Reaches Step (fun _ _ => True) (World.start twoMonths) w ∧
    w.seen january ∧ ¬ Live w.archiver january ∧
    ∀ year month f, w.archiver.archives year month = some f → january ∉ f.entries := by
  refine ⟨(World.start twoMonths).runs stranding, twoMonths_numbered, runs_reaches _ _,
    runs_seen _ _ ?_, ?_, ?_⟩
  · show Live twoMonths january
    unfold Live
    decide
  · unfold Live
    decide +kernel
  · intro year month f named
    by_cases first : year = 2026 ∧ month = 1
    · obtain ⟨rfl, rfl⟩ := first
      have none := stranding_january
      rw [named] at none
      cases none
    · by_cases second : year = 2026 ∧ month = 2
      · obtain ⟨rfl, rfl⟩ := second
        have held := stranding_february
        rw [named] at held
        simpa using held
      · rw [runs_elsewhere] at named
        · cases named
        · simp [stranding, eq_comm, first, second]

/-! ## Catching up is archiving month after month -/

theorem archiveMonths_state (months : Nat) (year : Int) (month : Nat) (a : Archiver) :
    (archiveMonths (months + 1) year month a).2 = (adminArchiveAuditLog year month a).2 ∨
      (archiveMonths (months + 1) year month a).2 =
        (archiveMonths months (nextMonth year month).1 (nextMonth year month).2
          (adminArchiveAuditLog year month a).2).2 := by
  rw [archiveMonths, Program.bind_apply, Program.attempt_apply]
  dsimp only
  cases (adminArchiveAuditLog year month a).1 with
  | ok archive =>
      refine .inr ?_
      dsimp only
      rw [Program.bind_apply]
      rcases archiveMonths months (nextMonth year month).1 (nextMonth year month).2
        (adminArchiveAuditLog year month a).2 with ⟨written | e, a'⟩ <;> cases archive <;> rfl
  | error stop =>
      cases stop with
      | crashed => exact .inl rfl
      | error e =>
          refine .inr ?_
          dsimp only
          rw [Program.bind_apply]
          rcases archiveMonths months (nextMonth year month).1 (nextMonth year month).2
            (adminArchiveAuditLog year month a).2 with ⟨written | e, a'⟩ <;> rfl

theorem archiveMonths_reaches (months : Nat) : ∀ (year : Int) (month : Nat) (w : World),
    ∃ seen, Reaches Step (fun _ _ => True) w
      ⟨(archiveMonths months year month w.archiver).2, seen⟩ := by
  induction months with
  | zero => exact fun year month w => ⟨w.seen, .start⟩
  | succ months ih =>
      intro year month w
      have first : Step (.archive year month, .of w.archiver) w
          (w.next (adminArchiveAuditLog year month w.archiver).2) := rfl
      rcases archiveMonths_state months year month w.archiver with stopped | carriedOn
      · rw [stopped]
        exact ⟨_, .step .start trivial first⟩
      · obtain ⟨seen, rest⟩ := ih (nextMonth year month).1 (nextMonth year month).2
          (w.next (adminArchiveAuditLog year month w.archiver).2)
        rw [carriedOn]
        exact ⟨seen, (Reaches.step .start trivial first).trans rest⟩

/-- Looking for the oldest month aside, a catch-up run takes the steps of archiving one month and no
others. -/
theorem adminArchiveDueAuditMonths_reaches (beforeYear : Int) (beforeMonth : Nat) (w : World) :
    ∃ a seen, Same w.archiver a ∧ Reaches Step (fun _ _ => True) ⟨a, w.seen⟩
      ⟨(adminArchiveDueAuditMonths beforeYear beforeMonth w.archiver).2, seen⟩ := by
  have looked := @query_same w.archiver _ (fun db =>
    ((db.auditLog.rows.map (·.2.createdAt)).mergeSort AuditTime.earlier).head?.map
      fun t => (t.year, t.month)) w.archiver (Same.refl _)
  rw [adminArchiveDueAuditMonths, Program.bind_apply, AuditStore.oldestMonth]
  split
  · next oldest a found =>
      rw [found] at looked
      cases oldest with
      | none => exact ⟨a, w.seen, looked.1, .start⟩
      | some first =>
          obtain ⟨seen, run⟩ := archiveMonths_reaches
            ((beforeYear - first.1) * 12 + (beforeMonth - first.2)).toNat first.1 first.2 ⟨a, w.seen⟩
          exact ⟨a, seen, looked.1, run⟩
  · next e a failed =>
      rw [failed] at looked
      exact ⟨a, w.seen, looked.1, .start⟩

end SupplyDrop.Proof.AuditArchive
