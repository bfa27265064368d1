import Mathlib
import SupplyDrop.Library.KeyedTable
import SupplyDrop.Library.Program

namespace SupplyDrop.Library

/-! ## Files -/

abbrev Files (N C : Type) := KeyedTable (Prod.fst : N × C → N)

namespace Files
variable {N C : Type} [DecidableEq N] (t : Files N C)

def blank : Files N C := KeyedTable.empty

def look (n : N) : Option C := (t.get? n).map Prod.snd

def has (n : N) : Bool := (t.look n).isSome

def store (n : N) (c : C) : Files N C := t.put (n, c)

def drop (n : N) : Files N C := t.erase n

@[simp] theorem look_store (n i : N) (c : C) :
    (t.store n c).look i = if i = n then some c else t.look i := by
  unfold look store
  rw [KeyedTable.get?_put]
  split <;> rfl

@[simp] theorem look_drop (n i : N) : (t.drop n).look i = if i = n then none else t.look i := by
  unfold look drop
  rw [KeyedTable.get?_erase]
  split <;> rfl

end Files

/-! ## Operations that may fail, or not come to run -/

inductive FileOp (N : Type) where
  | stat (file : N)
  | read (file : N)
  | flush (file : N)
  | write (file : N)
  | remove (file : N)
  | rename (source target : N)
  | copy (source target : N)
  | list
deriving DecidableEq

/-- What comes of an operation: it is done, it fails and changes nothing, or the process stops
before it. -/
inductive Fate where
  | done
  | fails (why : String)
  | dies
deriving DecidableEq

inductive Halt where
  | failed (why : String)
  | died
deriving DecidableEq

/-- The operation fails, or is done where a file is `missing`. -/
def Missed {N : Type} (fate : FileOp N → Fate) (op : FileOp N) (missing : Prop) : Prop :=
  (∃ why, fate op = .fails why) ∨ fate op = .done ∧ missing

/-- How operations done one after the other come out, when the first that is not done ends them. -/
def course {N : Type} (fate : FileOp N → Fate) : List (FileOp N) → Fate
  | [] => .done
  | op :: rest => match fate op with
      | .done => course fate rest
      | other => other

theorem course_append {N : Type} (fate : FileOp N → Fate) (first rest : List (FileOp N)) :
    course fate (first ++ rest) = match course fate first with
      | .done => course fate rest
      | other => other := by
  induction first with
  | nil => rfl
  | cons op ops ih =>
      simp only [List.cons_append, course]
      cases fate op with
      | done => exact ih
      | fails why => rfl
      | dies => rfl

abbrev DiskM (N C : Type) := Program (Files N C) Halt

namespace Disk
variable {N C α β : Type} [DecidableEq N] (fate : FileOp N → Fate)

def noSuchFile : String := "No such file or directory (os error 2)"

def operate (op : FileOp N) (effect : Files N C → Option (α × Files N C)) : DiskM N C α := fun t =>
  match fate op with
  | .dies => (.error .died, t)
  | .fails why => (.error (.failed why), t)
  | .done => match effect t with
      | none => (.error (.failed noSuchFile), t)
      | some (a, t') => (.ok a, t')

def isThere (n : N) : DiskM N C Bool := Program.gets fun t => t.has n

def stat (n : N) : DiskM N C Unit := operate fate (.stat n) fun t => (t.look n).map fun _ => ((), t)

def read (n : N) : DiskM N C C := operate fate (.read n) fun t => (t.look n).map fun c => (c, t)

def flush (n : N) : DiskM N C Unit :=
  operate fate (.flush n) fun t => (t.look n).map fun _ => ((), t)

def write (n : N) (c : C) : DiskM N C Unit := operate fate (.write n) fun t => some ((), t.store n c)

def remove (n : N) : DiskM N C Unit :=
  operate fate (.remove n) fun t => (t.look n).map fun _ => ((), t.drop n)

def rename (source target : N) : DiskM N C Unit :=
  operate fate (.rename source target) fun t =>
    (t.look source).map fun c => ((), (t.drop source).store target c)

def copy (source target : N) : DiskM N C Unit :=
  operate fate (.copy source target) fun t =>
    (t.look source).map fun c => ((), t.store target c)

def list : DiskM N C (List N) := operate fate .list fun t => some (t.entries.map Prod.fst, t)

/-- The outcome as a value, unless the process dies. -/
def tried (m : DiskM N C α) : DiskM N C (Except String α) := fun t =>
  match m t with
  | (.ok a, t') => (.ok (.ok a), t')
  | (.error (.failed why), t') => (.ok (.error why), t')
  | (.error .died, t') => (.error .died, t')

def ignoring (m : DiskM N C Unit) : DiskM N C Unit := do
  let _ ← tried m
  pure ()

def explaining (describe : String → String) (m : DiskM N C α) : DiskM N C α :=
  Program.mapError (fun h => match h with
    | .failed why => .failed (describe why)
    | .died => .died) m

end Disk

/-! ## What a program leaves, wherever it ends -/

/-- From `P`, a result comes with `R` and a failure with `E`, and where the process dies `I` holds. -/
def Ends {N C α : Type} (I E P : Files N C → Prop) (m : DiskM N C α) (R : α → Files N C → Prop) :
    Prop :=
  Program.Triple P m fun r t => match r with
    | .ok a => R a t
    | .error (.failed _) => E t
    | .error .died => I t

namespace Ends
variable {N C α β : Type} {fate : FileOp N → Fate} {I J E F P P' : Files N C → Prop}
  {R R' : α → Files N C → Prop}

theorem ret {a : α} (h : ∀ t, P t → R a t) : Ends I E P (pure a) R := h

theorem fail {why : String} (h : ∀ t, P t → E t) : Ends I E P (Program.fail (.failed why)) R := h

theorem bind {m : DiskM N C α} {f : α → DiskM N C β} {R : β → Files N C → Prop}
    {Q : α → Files N C → Prop} (hm : Ends I E P m Q) (hf : ∀ a, Ends I E (Q a) (f a) R) :
    Ends I E P (m >>= f) R := by
  intro t ht
  have first := hm t ht
  rw [Program.bind_apply]
  rcases h : m t with ⟨r, t'⟩
  rw [h] at first
  cases r with
  | ok a => exact hf a t' first
  | error e => cases e <;> exact first

theorem conseq {m : DiskM N C α} (h : Ends I E P' m R') (pre : ∀ t, P t → P' t)
    (post : ∀ a t, R' a t → R a t) : Ends I E P m R := by
  intro t ht
  have ends := h t (pre t ht)
  rcases hm : m t with ⟨r, t'⟩
  rw [hm] at ends
  cases r with
  | ok a => exact post a t' ends
  | error e => cases e <;> exact ends

theorem gets {f : Files N C → α} (h : ∀ t, P t → R (f t) t) :
    Ends I E P (Program.gets f) R := h

theorem isThere [DecidableEq N] {n : N} {R : Bool → Files N C → Prop} (h : ∀ t, P t → R (t.has n) t) :
    Ends I E P (Disk.isThere n) R := h

theorem given {p : Prop} {m : DiskM N C α} (h : p → Ends I E P m R) :
    Ends I E (fun t => p ∧ P t) m R :=
  fun t ht => h ht.1 t ht.2

theorem operate {op : FileOp N} {effect : Files N C → Option (α × Files N C)}
    (dies : fate op = .dies → ∀ t, P t → I t)
    (fails : ∀ t, P t → Missed fate op (effect t = none) → E t)
    (done : fate op = .done → ∀ t a t', P t → effect t = some (a, t') → R a t') :
    Ends I E P (Disk.operate fate op effect) R := by
  intro t ht
  unfold Disk.operate
  cases h : fate op with
  | dies => exact dies h t ht
  | fails why => exact fails t ht (.inl ⟨why, h⟩)
  | done =>
      cases found : effect t with
      | none => exact fails t ht (.inr ⟨h, found⟩)
      | some out => exact done h t out.1 out.2 ht found

section
variable [DecidableEq N] {n source target : N} {Q : Unit → Files N C → Prop}

theorem rename (dies : fate (.rename source target) = .dies → ∀ t, P t → I t)
    (fails : ∀ t, P t → Missed fate (.rename source target) (t.look source = none) → E t)
    (done : fate (.rename source target) = .done → ∀ t c, P t → t.look source = some c →
      Q () ((t.drop source).store target c)) :
    Ends I E P (Disk.rename fate source target) Q := by
  apply operate dies
  · intro t ht failed
    exact fails t ht (Or.imp_right (And.imp_right Option.map_eq_none_iff.mp) failed)
  · intro fated t a t' ht found
    obtain ⟨c, hc, eq⟩ := Option.map_eq_some_iff.mp found
    cases eq
    exact done fated t c ht hc

theorem copy (dies : fate (.copy source target) = .dies → ∀ t, P t → I t)
    (fails : ∀ t, P t → Missed fate (.copy source target) (t.look source = none) → E t)
    (done : fate (.copy source target) = .done → ∀ t c, P t → t.look source = some c →
      Q () (t.store target c)) :
    Ends I E P (Disk.copy fate source target) Q := by
  apply operate dies
  · intro t ht failed
    exact fails t ht (Or.imp_right (And.imp_right Option.map_eq_none_iff.mp) failed)
  · intro fated t a t' ht found
    obtain ⟨c, hc, eq⟩ := Option.map_eq_some_iff.mp found
    cases eq
    exact done fated t c ht hc

theorem remove (dies : fate (.remove n) = .dies → ∀ t, P t → I t)
    (fails : ∀ t, P t → Missed fate (.remove n) (t.look n = none) → E t)
    (done : fate (.remove n) = .done → ∀ t, P t → Q () (t.drop n)) :
    Ends I E P (Disk.remove fate n) Q := by
  apply operate dies
  · intro t ht failed
    exact fails t ht (Or.imp_right (And.imp_right Option.map_eq_none_iff.mp) failed)
  · intro fated t a t' ht found
    obtain ⟨c, hc, eq⟩ := Option.map_eq_some_iff.mp found
    cases eq
    exact done fated t ht

theorem write {c : C} (dies : fate (.write n) = .dies → ∀ t, P t → I t)
    (fails : ∀ t, P t → (∃ why, fate (.write n) = .fails why) → E t)
    (done : fate (.write n) = .done → ∀ t, P t → Q () (t.store n c)) :
    Ends I E P (Disk.write fate n c) Q := by
  apply operate dies
  · intro t ht failed
    exact fails t ht (Or.elim failed id fun none => by cases none.2)
  · intro fated t a t' ht found
    cases found
    exact done fated t ht

theorem flush (dies : fate (.flush n) = .dies → ∀ t, P t → I t)
    (fails : ∀ t, P t → Missed fate (.flush n) (t.look n = none) → E t)
    (done : fate (.flush n) = .done → ∀ t, P t → Q () t) :
    Ends I E P (Disk.flush fate n) Q := by
  apply operate dies
  · intro t ht failed
    exact fails t ht (Or.imp_right (And.imp_right Option.map_eq_none_iff.mp) failed)
  · intro fated t a t' ht found
    obtain ⟨c, hc, eq⟩ := Option.map_eq_some_iff.mp found
    cases eq
    exact done fated t ht

theorem stat (dies : fate (.stat n) = .dies → ∀ t, P t → I t)
    (fails : ∀ t, P t → Missed fate (.stat n) (t.look n = none) → E t)
    (done : fate (.stat n) = .done → ∀ t, P t → Q () t) :
    Ends I E P (Disk.stat fate n) Q := by
  apply operate dies
  · intro t ht failed
    exact fails t ht (Or.imp_right (And.imp_right Option.map_eq_none_iff.mp) failed)
  · intro fated t a t' ht found
    obtain ⟨c, hc, eq⟩ := Option.map_eq_some_iff.mp found
    cases eq
    exact done fated t ht

theorem read {R : C → Files N C → Prop} (dies : fate (.read n) = .dies → ∀ t, P t → I t)
    (fails : ∀ t, P t → Missed fate (.read n) (t.look n = none) → E t)
    (done : ∀ t c, P t → t.look n = some c → R c t) :
    Ends I E P (Disk.read fate n) R := by
  apply operate dies
  · intro t ht failed
    exact fails t ht (Or.imp_right (And.imp_right Option.map_eq_none_iff.mp) failed)
  · intro _ t a t' ht found
    obtain ⟨c, hc, eq⟩ := Option.map_eq_some_iff.mp found
    cases eq
    exact done t _ ht hc

end

theorem weaken {m : DiskM N C α} (h : Ends J F P m R) (died : ∀ t, J t → I t)
    (failed : ∀ t, F t → E t) : Ends I E P m R := by
  intro t ht
  have ends := h t ht
  rcases hm : m t with ⟨r, t'⟩
  rw [hm] at ends
  cases r with
  | ok a => exact ends
  | error e =>
      cases e with
      | failed why => exact failed t' ends
      | died => exact died t' ends

theorem tried {m : DiskM N C α} {R : Except String α → Files N C → Prop}
    (h : Ends I F P m fun a => R (.ok a)) (failed : ∀ why t, F t → R (.error why) t) :
    Ends I E P (Disk.tried m) R := by
  intro t ht
  have ends := h t ht
  unfold Disk.tried
  rcases hm : m t with ⟨r, t'⟩
  rw [hm] at ends
  cases r with
  | ok a => exact ends
  | error e =>
      cases e with
      | failed why => exact failed why t' ends
      | died => exact ends

theorem bind_tried {m : DiskM N C α} {f : Except String α → DiskM N C β} {Q : α → Files N C → Prop}
    {R : β → Files N C → Prop} (body : Ends I F P m Q) (done : ∀ a, Ends I E (Q a) (f (.ok a)) R)
    (failed : ∀ why, Ends I E F (f (.error why)) R) : Ends I E P (Disk.tried m >>= f) R := by
  intro t ht
  have ends := body t ht
  rw [Program.bind_apply]
  unfold Disk.tried
  rcases hm : m t with ⟨r, t'⟩
  rw [hm] at ends
  cases r with
  | ok a => exact done a t' ends
  | error e =>
      cases e with
      | failed why => exact failed why t' ends
      | died => exact ends

theorem ignoring {m : DiskM N C Unit} {Q : Files N C → Prop} (h : Ends I Q P m fun _ => Q) :
    Ends I E P (Disk.ignoring m) fun _ => Q :=
  bind (tried (R := fun _ => Q) h fun _ _ ht => ht) fun _ => ret fun _ ht => ht

theorem explaining {describe : String → String} {m : DiskM N C α} (h : Ends I E P m R) :
    Ends I E P (Disk.explaining describe m) R := by
  intro t ht
  have ends := h t ht
  unfold Disk.explaining
  rw [Program.mapError_apply]
  rcases hm : m t with ⟨r, t'⟩
  rw [hm] at ends
  cases r with
  | ok a => exact ends
  | error e => cases e <;> exact ends

end Ends
end SupplyDrop.Library
