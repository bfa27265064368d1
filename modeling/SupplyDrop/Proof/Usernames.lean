import Mathlib
import SupplyDrop.Library.Program
import SupplyDrop.Migrations.Usernames

namespace SupplyDrop.Proof.Usernames
open Library Store Migrations

/-! ## Lower-case and suffixed names -/

theorem digit_or_minus (i : Int) {c : Char} (h : c ∈ (toString i).toList) :
    c.isDigit = true ∨ c = '-' := by
  have digits (n : Nat) (h : c ∈ n.repr.toList) : c.isDigit = true := by
    rw [Nat.toList_repr] at h
    exact Nat.isDigit_of_mem_toDigits (b := 10) (by decide) (by decide) h
  rw [Int.toString_eq_repr, Int.repr_eq_if] at h
  split at h
  · exact .inl (digits _ h)
  · rw [String.toList_append] at h
    rcases List.mem_append.mp h with sign | rest
    · exact .inr (by simpa using sign)
    · exact .inl (digits _ rest)

theorem toLower_digit {c : Char} (h : c.isDigit = true ∨ c = '-') : c.toLower = c := by
  rcases h with digit | rfl
  · rw [Char.isDigit_iff_toNat] at digit
    unfold Char.toLower
    split
    · next upper =>
      have low : 65 ≤ c.val.toNat := UInt32.le_iff_toNat_le.mp upper.1
      have high : c.val.toNat ≤ 57 := digit.2
      omega
    · rfl
  · rfl

@[simp] theorem lower_lower (s : String) : lower (lower s) = lower s := Text.toAsciiLowercase_idem s

theorem lower_suffixed (name : String) (id : UserId) :
    lower (suffixed name id) = suffixed name id := by
  have number : (toString id).toList.map Char.toLower = (toString id).toList := by
    rw [List.map_congr_left (g := fun c => c) fun c h => toLower_digit (digit_or_minus id h)]
    exact List.map_id' _
  apply String.toList_injective
  simp only [suffixed, lower, Text.toAsciiLowercase, String.toList_ofList, String.toList_append,
    List.map_append, number]
  simp

theorem suffixed_ne_lower (name : String) (id : UserId) : suffixed name id ≠ lower name := by
  intro h
  have lengths := congrArg (fun s => s.toList.length) h
  simp [suffixed] at lengths

theorem suffixed_inj {a b : String} {i j : UserId} (h : suffixed a i = suffixed b j) : i = j := by
  have tail (name : String) (id : UserId) :
      (suffixed name id).toList.reverse.takeWhile (· ≠ '_') = (toString id).toList.reverse := by
    have digits : ∀ c ∈ (toString id).toList.reverse, decide (c ≠ '_') = true := by
      intro c mem
      rw [decide_eq_true_eq]
      rintro rfl
      have number := digit_or_minus id (List.mem_reverse.mp mem)
      simp at number
    simp only [suffixed, String.toList_append, List.reverse_append]
    rw [List.takeWhile_append_of_pos digits]
    simp
  have same := congrArg (fun s => s.toList.reverse.takeWhile (· ≠ '_')) h
  simp only [tail] at same
  exact Int.repr_inj.mp (String.toList_injective (List.reverse_injective same))

/-! ## Accounts by name -/

section Accounts
variable {users : RowTable String} {id : UserId} {name : String}

def Distinct (users : RowTable String) : Prop :=
  ∀ i j name, users.get? i = some name → users.get? j = some name → i = j

theorem distinct_iff : (users.rows.map (·.2)).Nodup ↔ Distinct users := by
  constructor
  · intro nodup i j name hi hj
    rw [← RowTable.mem_rows_iff] at hi hj
    have same := List.inj_on_of_nodup_map nodup hi hj rfl
    exact congrArg Prod.fst same
  · intro distinct
    have rows : users.rows.Nodup := users.keys_nodup.of_map _
    refine rows.map_on ?_
    rintro ⟨i, a⟩ hi ⟨j, b⟩ hj (rfl : a = b)
    rw [RowTable.mem_rows_iff] at hi hj
    rw [distinct i j a hi hj]

theorem idOf_eq_some (distinct : Distinct users) :
    idOf users name = some id ↔ users.get? id = some name := by
  constructor
  · intro h
    obtain ⟨r, found, rfl⟩ := Option.map_eq_some_iff.mp h
    have eq : r.2 = name := by simpa using List.find?_some found
    rw [← eq]
    exact RowTable.get?_of_find? found
  · intro stored
    cases found : users.rows.find? fun r => r.2 = name with
    | none =>
        have missed := List.find?_eq_none.mp found (id, name) ((users.mem_rows_iff _ _).mpr stored)
        simp at missed
    | some r =>
        have eq : r.2 = name := by simpa using List.find?_some found
        have there := RowTable.get?_of_find? found
        rw [eq] at there
        rw [idOf, found, Option.map_some, distinct r.1 id name there stored]

theorem idOf_eq_none (distinct : Distinct users) :
    idOf users name = none ↔ ∀ id, users.get? id ≠ some name := by
  rw [Option.eq_none_iff_forall_ne_some]
  exact forall_congr' fun id => not_congr (idOf_eq_some distinct)

/-- An account whose mixed-case name is up to case another account's too. -/
def Colliding (users : RowTable String) (id : UserId) (name : String) : Prop :=
  name ≠ lower name ∧ shared users id name = true

instance (users : RowTable String) (id : UserId) (name : String) :
    Decidable (Colliding users id name) := inferInstanceAs (Decidable (_ ∧ _))

theorem shared_iff : shared users id name = true ↔
    ∃ i n, users.get? i = some n ∧ lower n = lower name ∧ i ≠ id := by
  simp only [shared, List.any_eq_true, Bool.and_eq_true, decide_eq_true_eq]
  constructor
  · rintro ⟨⟨i, n⟩, mem, same, other⟩
    exact ⟨i, n, (users.mem_rows_iff i n).mp mem, same, other⟩
  · rintro ⟨i, n, stored, same, other⟩
    exact ⟨(i, n), (users.mem_rows_iff i n).mpr stored, same, other⟩

/-- Two accounts with one name up to case are both shared. -/
theorem shared_of_same {i j : UserId} {a b : String} (hi : users.get? i = some a)
    (same : lower a = lower b) (other : i ≠ j) : shared users j b = true :=
  shared_iff.mpr ⟨i, a, hi, same, other⟩

theorem lowerUsername_colliding (h : Colliding users id name) :
    lowerUsername users id name = name :=
  if_neg fun both => both.2 h.2

theorem lowerUsername_other (h : ¬ Colliding users id name) :
    lowerUsername users id name = lower name := by
  unfold lowerUsername
  split
  · rfl
  · next skip =>
    by_contra mixed
    exact h ⟨mixed, by_contra fun alone => skip ⟨mixed, alone⟩⟩

@[simp] theorem lower_lowerUsername (users : RowTable String) (id : UserId) (name : String) :
    lower (lowerUsername users id name) = lower name := by
  unfold lowerUsername
  split <;> simp

theorem lowerUsername_mixed :
    lowerUsername users id name ≠ lower (lowerUsername users id name) ↔
      Colliding users id name := by
  by_cases h : Colliding users id name
  · rw [lower_lowerUsername, lowerUsername_colliding h]
    exact iff_of_true h.1 h
  · rw [lower_lowerUsername, lowerUsername_other h]
    exact iff_of_false (fun ne => ne rfl) h

/-- The name the two migrations leave an account with. -/
def finalName (users : RowTable String) (id : UserId) (name : String) : String :=
  if Colliding users id name then suffixed name id else lower name

theorem suffixUsername_lowerUsername :
    suffixUsername id (lowerUsername users id name) = finalName users id name := by
  unfold suffixUsername finalName
  by_cases h : Colliding users id name
  · rw [if_pos (lowerUsername_mixed.mpr h), if_pos h, lowerUsername_colliding h]
  · rw [if_neg (mt lowerUsername_mixed.mp h), if_neg h, lowerUsername_other h]

theorem lower_finalName : lower (finalName users id name) = finalName users id name := by
  unfold finalName
  split
  · exact lower_suffixed name id
  · exact lower_lower name

end Accounts

/-! ## The statements on `users` -/

section Users
variable {users : RowTable String} {db db' : NamedTables}

theorem setUsernames_ok {set : UserId → String → String} (h : setUsernames set db = .ok db') :
    db'.users = db.users.map set ∧ db'.blocks = db.blocks ∧ db'.messages = db.messages ∧
      db'.auditActors = db.auditActors := by
  unfold setUsernames at h
  split at h
  · cases h
  · cases h
    exact ⟨rfl, rfl, rfl, rfl⟩

theorem setUsernames_succeeds {set : UserId → String → String}
    (waits : ∀ i a j b, db.users.get? i = some a → db.users.get? j = some b → set i a ≠ a →
      b = set i a → set j b = b)
    (after : Distinct (db.users.map set)) : ∃ db', setUsernames set db = .ok db' := by
  have none : UniqueUpdate.clashes (·.2) (fun r : Int × String => (r.1, set r.1 r.2)) []
      db.users.rows = false := by
    rw [UniqueUpdate.clashes_iff db.usernames]
    · have nodup := distinct_iff.mpr after
      simpa [RowTable.map, Function.comp_def] using nodup
    · rintro ⟨i, a⟩ hi ⟨j, b⟩ hj changed taken
      rw [RowTable.mem_rows_iff] at hi hj
      exact waits i a j b hi hj changed taken
  unfold setUsernames
  rw [dif_neg (by simp [none])]
  exact ⟨_, rfl⟩

theorem get?_lowered (id : UserId) :
    (users.map (lowerUsername users)).get? id =
      (users.get? id).map (lowerUsername users id) := RowTable.get?_map _ _ _

theorem distinct_lowered (distinct : Distinct users) :
    Distinct (users.map (lowerUsername users)) := by
  intro i j name hi hj
  rw [get?_lowered] at hi hj
  obtain ⟨a, ha, ra⟩ := Option.map_eq_some_iff.mp hi
  obtain ⟨b, hb, rb⟩ := Option.map_eq_some_iff.mp hj
  by_contra other
  have same : lower a = lower b := by
    rw [← lower_lowerUsername users i, ra, ← rb, lower_lowerUsername]
  have sharedA := shared_of_same hb same.symm (Ne.symm other)
  have sharedB := shared_of_same ha same other
  have keptA : lowerUsername users i a = a := if_neg fun both => both.2 sharedA
  have keptB : lowerUsername users j b = b := if_neg fun both => both.2 sharedB
  rw [← keptA, ra, ← rb, keptB] at ha
  exact other (distinct i j b ha hb)

theorem lowerUsername_succeeds (db : NamedTables) :
    ∃ db', setUsernames (lowerUsername db.users) db = .ok db' := by
  apply setUsernames_succeeds _ (distinct_lowered (distinct_iff.mp db.usernames))
  intro i a j b hi hj changed taken
  have lowered : lowerUsername db.users i a = lower a := by
    unfold lowerUsername at changed ⊢
    split
    · rfl
    · next skip =>
      rw [if_neg skip] at changed
      exact absurd rfl changed
  rw [lowered] at changed taken
  have alone : ¬ shared db.users i a = true := by
    intro both
    exact changed (by rw [← lowered, lowerUsername_colliding ⟨Ne.symm changed, both⟩])
  by_cases same : j = i
  · subst same
    rw [hi] at hj
    cases hj
    exact absurd taken.symm changed
  · exact absurd (shared_of_same hj (by simp [taken]) same) alone

/-- No account is to be given the name of one that collides with another. -/
def SuffixFree (users : RowTable String) : Prop :=
  ∀ id name, users.get? id = some name → Colliding users id name →
    ∀ i n, users.get? i = some n → ¬ Colliding users i n → lower n ≠ suffixed name id

theorem distinct_final_iff (distinct : Distinct users) :
    Distinct (users.map (finalName users)) ↔ SuffixFree users := by
  have final (i : UserId) (n : String) : (users.map (finalName users)).get? i = some n ↔
      ∃ a, users.get? i = some a ∧ finalName users i a = n := by
    rw [RowTable.get?_map, Option.map_eq_some_iff]
  constructor
  · intro after id name stored colliding i n there free taken
    have first : finalName users id name = suffixed name id := if_pos colliding
    have second : finalName users i n = suffixed name id := (if_neg free).trans taken
    have same := after id i _ ((final _ _).mpr ⟨name, stored, first⟩)
      ((final _ _).mpr ⟨n, there, second⟩)
    subst same
    rw [stored] at there
    cases there
    exact free colliding
  · intro free i j name hi hj
    obtain ⟨a, ha, ra⟩ := (final _ _).mp hi
    obtain ⟨b, hb, rb⟩ := (final _ _).mp hj
    unfold finalName at ra rb
    by_cases ca : Colliding users i a
    · rw [if_pos ca] at ra
      by_cases cb : Colliding users j b
      · rw [if_pos cb] at rb
        exact suffixed_inj (ra.trans rb.symm)
      · rw [if_neg cb] at rb
        exact absurd (rb.trans ra.symm) (free i a ha ca j b hb cb)
    · rw [if_neg ca] at ra
      by_cases cb : Colliding users j b
      · rw [if_pos cb] at rb
        exact absurd (ra.trans rb.symm) (free j b hb cb i a ha ca)
      · rw [if_neg cb] at rb
        by_contra other
        have same : lower a = lower b := ra.trans rb.symm
        have lowerA : a = lower a := by
          by_contra mixed
          exact ca ⟨mixed, shared_of_same hb same.symm (Ne.symm other)⟩
        have lowerB : b = lower b := by
          by_contra mixed
          exact cb ⟨mixed, shared_of_same ha same other⟩
        rw [lowerA, same, ← lowerB] at ha
        exact other (distinct i j b ha hb)

theorem get?_suffixed (lowered : db.users = users.map (lowerUsername users)) (id : UserId) :
    (db.users.map suffixUsername).get? id = (users.map (finalName users)).get? id := by
  rw [lowered, RowTable.get?_map, RowTable.get?_map, RowTable.get?_map]
  cases users.get? id with
  | none => rfl
  | some name => simp only [Option.map_some, suffixUsername_lowerUsername]

theorem suffix_succeeds (lowered : db.users = users.map (lowerUsername users))
    (after : Distinct (users.map (finalName users))) :
    ∃ db', setUsernames suffixUsername db = .ok db' := by
  apply setUsernames_succeeds
  · intro i a j b _ _ changed taken
    have suffix : suffixUsername i a = suffixed a i := by
      unfold suffixUsername at changed ⊢
      split
      · rfl
      · next skip =>
        rw [if_neg skip] at changed
        exact absurd rfl changed
    rw [suffix] at taken
    subst taken
    exact if_neg fun mixed => mixed (lower_suffixed a i).symm
  · intro i j name
    rw [get?_suffixed lowered, get?_suffixed lowered]
    exact after i j name

end Users

/-! ## The statements on `user_blocks` -/

section Blocks
variable {users : RowTable String} {db db' : NamedTables} {blocks : List BlockRow}

theorem setBlocks_ok {set : BlockRow → BlockRow} (h : setBlocks set db = .ok db') :
    db'.blocks = db.blocks.map set ∧ db'.users = db.users ∧ db'.messages = db.messages ∧
      db'.auditActors = db.auditActors := by
  unfold setBlocks at h
  split at h
  · cases h
  · cases h
    exact ⟨rfl, rfl, rfl, rfl⟩

def Apart (set : BlockRow → BlockRow) (blocks : List BlockRow) : Prop :=
  ∀ r ∈ blocks, ∀ q ∈ blocks, set r = set q → r = q

theorem apart_of_ok {set : BlockRow → BlockRow} (h : setBlocks set db = .ok db') :
    Apart set db.blocks := by
  intro r hr q hq same
  have nodup := db'.pairs
  rw [(setBlocks_ok h).1] at nodup
  exact List.inj_on_of_nodup_map nodup hr hq same

theorem setBlocks_succeeds {set : BlockRow → BlockRow}
    (waits : ∀ r ∈ db.blocks, set r ≠ r → set r ∈ db.blocks → set (set r) = set r)
    (apart : Apart set db.blocks) : ∃ db', setBlocks set db = .ok db' := by
  have none : UniqueUpdate.clashes id set [] db.blocks = false := by
    rw [UniqueUpdate.clashes_iff (by simpa using db.pairs)]
    · exact db.pairs.map_on apart
    · rintro r hr q hq changed rfl
      exact waits r hr changed hq
  unfold setBlocks
  rw [dif_neg (by simp [none])]
  exact ⟨_, rfl⟩

variable {column : Column}

/-- No two rows that the statement lowers become one. -/
def NoMerge (column : Column) (blocks : List BlockRow) : Prop :=
  ∀ r ∈ blocks, ∀ q ∈ blocks, lowers column blocks r → lowers column blocks q →
    column.write (lower (column.read r)) r = column.write (lower (column.read q)) q → r = q

theorem apart_lowerColumn : Apart (lowerColumn column blocks) blocks ↔ NoMerge column blocks := by
  constructor
  · intro apart r hr q hq lr lq same
    apply apart r hr q hq
    rwa [lowerColumn, if_pos lr, lowerColumn, if_pos lq]
  · intro noMerge r hr q hq same
    unfold lowerColumn at same
    by_cases lr : lowers column blocks r
    · by_cases lq : lowers column blocks q
      · rw [if_pos lr, if_pos lq] at same
        exact noMerge r hr q hq lr lq same
      · rw [if_pos lr, if_neg lq] at same
        exact absurd (same ▸ hq) lr.2
    · by_cases lq : lowers column blocks q
      · rw [if_neg lr, if_pos lq] at same
        exact absurd (same ▸ hr) lq.2
      · rwa [if_neg lr, if_neg lq] at same

theorem lowerColumn_succeeds (column : Column) (db : NamedTables) (noMerge : NoMerge column db.blocks) :
    ∃ db', setBlocks (lowerColumn column db.blocks) db = .ok db' := by
  apply setBlocks_succeeds _ (apart_lowerColumn.mpr noMerge)
  intro r _ changed taken
  unfold lowerColumn at changed taken
  split at taken
  · next lr => exact absurd taken lr.2
  · next lr =>
    rw [if_neg lr] at changed
    exact absurd rfl changed

theorem suffixedOf_suffixed (name : String) (id : UserId) :
    suffixedOf users (suffixed name id) = suffixed name id := by
  unfold suffixedOf
  split
  · exact if_neg fun mixed => mixed (lower_suffixed name id).symm
  · rfl

theorem suffixedOf_lower {s : String} (h : s = lower s) : suffixedOf users s = s := by
  unfold suffixedOf
  split
  · exact if_neg fun mixed => mixed h
  · rfl

/-- Either the text stays, or it is of mixed case, names an account and is suffixed. -/
theorem suffixedOf_cases (users : RowTable String) (s : String) :
    suffixedOf users s = s ∨
      s ≠ lower s ∧ ∃ id, idOf users s = some id ∧ suffixedOf users s = suffixed s id := by
  unfold suffixedOf
  split
  · next id named =>
    by_cases mixed : s ≠ lower s
    · exact .inr ⟨mixed, id, named, if_pos mixed⟩
    · exact .inl (if_neg mixed)
  · exact .inl rfl

theorem suffixColumn_succeeds (column : Column) (apart : Apart (suffixColumn column users) db.blocks) :
    ∃ db', setBlocks (suffixColumn column users) db = .ok db' := by
  apply setBlocks_succeeds _ apart
  intro r _ _ _
  simp only [suffixColumn, column.read_write, column.write_write]
  rcases suffixedOf_cases users (column.read r) with same | ⟨-, id, -, suffix⟩
  · rw [same, same]
  · rw [suffix, suffixedOf_suffixed]

end Blocks

/-! ## The accounts texts name -/

section Texts
variable {users : RowTable String} {s : String} {id : UserId}

/-- The lower-case form of a text names the account the text named, or none when it named none. -/
def Follows (users : RowTable String) (s : String) : Prop :=
  (∀ id, users.get? id = some s → ¬ Colliding users id s) ∧
  ((∀ id, users.get? id ≠ some s) → ∀ id name, users.get? id = some name →
    (Colliding users id name → suffixed name id ≠ lower s) ∧
    (¬ Colliding users id name → lower name ≠ lower s))

variable (distinct : Distinct users) (free : SuffixFree users)
include distinct free

theorem idOf_final : idOf (users.map (finalName users)) s = some id ↔
    ∃ name, users.get? id = some name ∧ finalName users id name = s := by
  rw [idOf_eq_some ((distinct_final_iff distinct).mpr free), RowTable.get?_map,
    Option.map_eq_some_iff]

theorem follows_iff :
    idOf (users.map (finalName users)) (lower s) = idOf users s ↔ Follows users s := by
  constructor
  · intro same
    refine ⟨fun id stored colliding => ?_, fun nobody id name stored => ?_⟩
    · rw [(idOf_eq_some distinct).mpr stored, idOf_final distinct free] at same
      obtain ⟨name, there, final⟩ := same
      rw [stored] at there
      cases there
      rw [finalName, if_pos colliding] at final
      exact suffixed_ne_lower s id final
    · rw [(idOf_eq_none distinct).mpr nobody] at same
      have other : finalName users id name ≠ lower s := by
        intro final
        have named := (idOf_final distinct free).mpr ⟨name, stored, final⟩
        rw [same] at named
        cases named
      constructor
      · intro colliding taken
        exact other ((if_pos colliding).trans taken)
      · intro alone taken
        exact other ((if_neg alone).trans taken)
  · rintro ⟨own, nobody⟩
    cases named : idOf users s with
    | some id =>
        have stored := (idOf_eq_some distinct).mp named
        rw [idOf_final distinct free]
        exact ⟨s, stored, if_neg (own id stored)⟩
    | none =>
        rw [Option.eq_none_iff_forall_ne_some]
        intro id final
        obtain ⟨name, stored, eq⟩ := (idOf_final distinct free).mp final
        obtain ⟨colliding, alone⟩ := nobody ((idOf_eq_none distinct).mp named) id name stored
        unfold finalName at eq
        split at eq
        · next h => exact colliding h eq
        · next h => exact alone h eq

omit free in
theorem idOf_lowered (mixed : s ≠ lower s) :
    idOf (users.map (lowerUsername users)) s = some id ↔
      users.get? id = some s ∧ Colliding users id s := by
  rw [idOf_eq_some (distinct_lowered distinct), get?_lowered, Option.map_eq_some_iff]
  constructor
  · rintro ⟨name, stored, rfl⟩
    have colliding := lowerUsername_mixed.mp mixed
    rw [lowerUsername_colliding colliding]
    exact ⟨stored, colliding⟩
  · rintro ⟨stored, colliding⟩
    exact ⟨s, stored, lowerUsername_colliding colliding⟩

/-- A text left in mixed case is suffixed with the account it names, which has to collide. -/
theorem kept_iff (mixed : s ≠ lower s) :
    idOf (users.map (finalName users)) (suffixedOf (users.map (lowerUsername users)) s) =
        idOf users s ↔
      ∀ id, users.get? id = some s → Colliding users id s := by
  rcases suffixedOf_cases (users.map (lowerUsername users)) s with same | ⟨-, id, named, suffix⟩
  · have nobody : idOf (users.map (finalName users)) s = none := by
      rw [Option.eq_none_iff_forall_ne_some]
      intro id final
      obtain ⟨name, -, rfl⟩ := (idOf_final distinct free).mp final
      exact mixed lower_finalName.symm
    rw [same, nobody, eq_comm, idOf_eq_none distinct]
    refine forall_congr' fun id => ⟨fun absent stored => absurd stored absent, ?_⟩
    intro collides stored
    have named := (idOf_lowered distinct mixed).mpr ⟨stored, collides stored⟩
    rw [suffixedOf, named] at same
    simp only [if_pos mixed] at same
    exact mixed (by rw [← same, lower_suffixed])
  · obtain ⟨stored, colliding⟩ := (idOf_lowered distinct mixed).mp named
    have final := (idOf_final distinct free).mpr ⟨s, stored, if_pos colliding⟩
    rw [suffix, final, (idOf_eq_some distinct).mpr stored]
    refine iff_of_true rfl fun id' stored' => ?_
    rw [distinct id' id s stored' stored]
    exact colliding

/-- No two rows become one through a suffix, when their texts still name the accounts they named:
no other text then names the account that gets the suffix. -/
theorem apart_suffixColumn (column : Column) {rows : List BlockRow}
    (known : ∀ r ∈ rows, ∃ x, (column.read r = x ∨ column.read r = lower x) ∧
      idOf (users.map (finalName users))
        (suffixedOf (users.map (lowerUsername users)) (column.read r)) = idOf users x) :
    Apart (suffixColumn column (users.map (lowerUsername users))) rows := by
  -- a suffixed text and one that stays cannot meet
  have never {r q : BlockRow} (hq : q ∈ rows) {id : UserId} (mixed : column.read r ≠ lower (column.read r))
      (named : idOf (users.map (lowerUsername users)) (column.read r) = some id)
      (stays : suffixedOf (users.map (lowerUsername users)) (column.read q) = column.read q)
      (same : suffixed (column.read r) id = column.read q) : False := by
    obtain ⟨stored, colliding⟩ := (idOf_lowered distinct mixed).mp named
    obtain ⟨x, from_, keeps⟩ := known q hq
    rw [stays, ← same, (idOf_final distinct free).mpr ⟨_, stored, if_pos colliding⟩, eq_comm,
      idOf_eq_some distinct, stored] at keeps
    cases keeps
    rcases from_ with eq | eq
    · rw [eq] at same
      exact mixed (by rw [← same, lower_suffixed])
    · rw [eq] at same
      exact suffixed_ne_lower _ _ same
  intro r hr q hq same
  have texts := congrArg column.read same
  simp only [suffixColumn, column.read_write] at texts
  have eq : column.read r = column.read q := by
    rcases suffixedOf_cases (users.map (lowerUsername users)) (column.read r) with
      stays | ⟨mixed, id, named, suffix⟩
    · rcases suffixedOf_cases (users.map (lowerUsername users)) (column.read q) with
        stays' | ⟨mixed', id', named', suffix'⟩
      · rwa [stays, stays'] at texts
      · rw [stays, suffix'] at texts
        exact (never hr mixed' named' stays texts.symm).elim
    · rcases suffixedOf_cases (users.map (lowerUsername users)) (column.read q) with
        stays' | ⟨mixed', id', named', suffix'⟩
      · rw [suffix, stays'] at texts
        exact (never hq mixed named stays' texts).elim
      · rw [suffix, suffix'] at texts
        have stored := ((idOf_lowered distinct mixed).mp named).1
        have stored' := ((idOf_lowered distinct mixed').mp named').1
        rw [suffixed_inj texts, stored'] at stored
        exact (Option.some.inj stored).symm
  have back := congrArg (column.write (column.read r)) same
  simp only [suffixColumn, column.write_write] at back
  rwa [column.write_read, eq, column.write_read] at back

theorem apart_suffixBlocker {rows : List BlockRow}
    (known : ∀ r ∈ rows, ∃ x, (r.blocker = x ∨ r.blocker = lower x) ∧
      idOf (users.map (finalName users))
        (suffixedOf (users.map (lowerUsername users)) r.blocker) = idOf users x) :
    Apart (suffixBlocker (users.map (lowerUsername users))) rows :=
  apart_suffixColumn distinct free .blocker known

theorem apart_suffixBlocked {rows : List BlockRow}
    (known : ∀ r ∈ rows, ∃ x, (r.blocked = x ∨ r.blocked = lower x) ∧
      idOf (users.map (finalName users))
        (suffixedOf (users.map (lowerUsername users)) r.blocked) = idOf users x) :
    Apart (suffixBlocked (users.map (lowerUsername users))) rows :=
  apart_suffixColumn distinct free .blocked known

end Texts

/-! ## The rows of `user_blocks` -/

section Rows
variable {users : RowTable String} {blocks : List BlockRow} {column : Column}

/-- What a row needs for its column to name the same account: lowered, its text follows its
account; left in mixed case, the account it names has to be left so too. -/
def Keeps (users : RowTable String) (column : Column) (blocks : List BlockRow) (r : BlockRow) :
    Prop :=
  if column.read r = lower (column.read r) ∨ lowers column blocks r then
    Follows users (column.read r)
  else ∀ id, users.get? id = some (column.read r) → Colliding users id (column.read r)

theorem read_lowerColumn (r : BlockRow) : column.read (lowerColumn column blocks r) =
    if column.read r = lower (column.read r) ∨ lowers column blocks r then
      lower (column.read r) else column.read r := by
  unfold lowerColumn
  by_cases h : lowers column blocks r
  · rw [if_pos h, if_pos (.inr h), column.read_write]
  · rw [if_neg h]
    split
    · next low => exact low.resolve_right h
    · rfl

theorem keeps_iff (column : Column) (blocks : List BlockRow) (distinct : Distinct users)
    (free : SuffixFree users) (r : BlockRow) :
    idOf (users.map (finalName users)) (suffixedOf (users.map (lowerUsername users))
        (column.read (lowerColumn column blocks r))) = idOf users (column.read r) ↔
      Keeps users column blocks r := by
  rw [read_lowerColumn, Keeps]
  split
  · rw [suffixedOf_lower (lower_lower _).symm]
    exact follows_iff distinct free
  · next h => exact kept_iff distinct free fun low => h (.inl low)

theorem read_lowerColumn_cases (column : Column) (blocks : List BlockRow) (r : BlockRow) :
    column.read (lowerColumn column blocks r) = column.read r ∨
      column.read (lowerColumn column blocks r) = lower (column.read r) := by
  rw [read_lowerColumn]
  split
  · exact .inr rfl
  · exact .inl rfl

-- the same of each column by name
theorem blocker_keeps_iff (distinct : Distinct users) (free : SuffixFree users) (r : BlockRow) :
    idOf (users.map (finalName users)) (suffixedOf (users.map (lowerUsername users))
        (lowerBlocker blocks r).blocker) = idOf users r.blocker ↔
      Keeps users .blocker blocks r := keeps_iff .blocker blocks distinct free r

theorem blocked_keeps_iff (distinct : Distinct users) (free : SuffixFree users) (r : BlockRow) :
    idOf (users.map (finalName users)) (suffixedOf (users.map (lowerUsername users))
        (lowerBlocked blocks r).blocked) = idOf users r.blocked ↔
      Keeps users .blocked blocks r := keeps_iff .blocked blocks distinct free r

theorem blocker_cases (blocks : List BlockRow) (r : BlockRow) : (lowerBlocker blocks r).blocker = r.blocker ∨
    (lowerBlocker blocks r).blocker = lower r.blocker := read_lowerColumn_cases .blocker blocks r

theorem blocked_cases (blocks : List BlockRow) (r : BlockRow) : (lowerBlocked blocks r).blocked = r.blocked ∨
    (lowerBlocked blocks r).blocked = lower r.blocked := read_lowerColumn_cases .blocked blocks r

end Rows

/-! ## Both migrations -/

section Migrations
variable {db mid db' : NamedTables}

structure IdentityKept (db db' : NamedTables) : Prop where
  lower_case : ∀ id name, db'.users.get? id = some name → name = lower name
  distinct : Distinct db'.users
  messages : List.Forall₂ (fun m m' : MailRow =>
    idOf db'.users m'.sender = idOf db.users m.sender ∧
    m'.recipient.map (idOf db'.users) = m.recipient.map (idOf db.users)) db.messages db'.messages
  blocks : List.Forall₂ (fun r r' : BlockRow =>
    idOf db'.users r'.blocker = idOf db.users r.blocker ∧
    idOf db'.users r'.blocked = idOf db.users r.blocked) db.blocks db'.blocks

/-- The databases the two migrations are right for. -/
structure Undisturbed (db : NamedTables) : Prop where
  users : SuffixFree db.users
  messages : ∀ m ∈ db.messages, Follows db.users m.sender ∧
    ∀ name, m.recipient = some name → Follows db.users name
  blockers : ∀ r ∈ db.blocks, Keeps db.users .blocker db.blocks r
  blockersApart : NoMerge .blocker db.blocks
  -- the second statement finds the rows as the first leaves them
  blocked : ∀ r ∈ db.blocks.map (lowerBlocker db.blocks),
    Keeps db.users .blocked (db.blocks.map (lowerBlocker db.blocks)) r
  blockedApart : NoMerge .blocked (db.blocks.map (lowerBlocker db.blocks))

theorem lowerMessage_eq (m : MailRow) :
    lowerRecipient (lowerSender m) = ⟨lower m.sender, m.recipient.map lower⟩ := by
  obtain ⟨sender, recipient⟩ := m
  have sent : lowerSender ⟨sender, recipient⟩ = ⟨lower sender, recipient⟩ := by
    unfold lowerSender
    split
    · rfl
    · next same => rw [← not_not.mp same]
  rw [sent]
  cases recipient with
  | none => rfl
  | some name =>
      unfold lowerRecipient
      dsimp only
      split
      · rfl
      · next same => rw [Option.map_some, ← not_not.mp same]

/-- The rows of `user_blocks` after the first statement of `0008`. -/
abbrev once (db : NamedTables) : List BlockRow := db.blocks.map (lowerBlocker db.blocks)

abbrev twice (db : NamedTables) : List BlockRow := (once db).map (lowerBlocked (once db))

theorem lowercase_ok (h : lowercaseUsernames db = .ok mid) :
    mid.users = db.users.map (lowerUsername db.users) ∧ mid.blocks = twice db ∧
      mid.messages = db.messages.map (fun m => ⟨lower m.sender, m.recipient.map lower⟩) ∧
      NoMerge .blocker db.blocks ∧ NoMerge .blocked (once db) := by
  obtain ⟨db₁, first, h⟩ := except_bind_eq_ok.mp h
  obtain ⟨db₂, second, h⟩ := except_bind_eq_ok.mp h
  obtain ⟨db₃, third, h⟩ := except_bind_eq_ok.mp h
  cases h
  obtain ⟨users₁, blocks₁, messages₁, -⟩ := setUsernames_ok first
  obtain ⟨blocks₂, users₂, messages₂, -⟩ := setBlocks_ok second
  obtain ⟨blocks₃, users₃, messages₃, -⟩ := setBlocks_ok third
  have apart₂ := apart_of_ok second
  have apart₃ := apart_of_ok third
  rw [blocks₁] at blocks₂ apart₂
  rw [blocks₂] at blocks₃ apart₃
  refine ⟨?_, blocks₃, ?_, apart_lowerColumn.mp apart₂, apart_lowerColumn.mp apart₃⟩
  · rw [users₃, users₂, users₁]
  · rw [messages₃, messages₂, messages₁, List.map_map]
    exact List.map_congr_left fun m _ => lowerMessage_eq m

theorem lowercase_succeeds (blockers : NoMerge .blocker db.blocks)
    (blocked : NoMerge .blocked (once db)) : ∃ mid, lowercaseUsernames db = .ok mid := by
  obtain ⟨db₁, first⟩ := lowerUsername_succeeds db
  have blocks₁ := (setUsernames_ok first).2.1
  obtain ⟨db₂, second⟩ := lowerColumn_succeeds .blocker db₁
    (by rwa [blocks₁])
  have blocks₂ := (setBlocks_ok second).1
  rw [blocks₁] at blocks₂
  obtain ⟨db₃, third⟩ := lowerColumn_succeeds .blocked db₂
    (by rw [blocks₂]; exact blocked)
  exact ⟨_, except_bind_eq_ok.mpr ⟨db₁, first, except_bind_eq_ok.mpr ⟨db₂, second,
    except_bind_eq_ok.mpr ⟨db₃, third, rfl⟩⟩⟩⟩

theorem fix_ok (h : fixCaseCollisions mid = .ok db') :
    db'.users = mid.users.map suffixUsername ∧
      db'.blocks = (mid.blocks.map (suffixBlocker mid.users)).map (suffixBlocked mid.users) ∧
      db'.messages = mid.messages := by
  obtain ⟨db₁, first, h⟩ := except_bind_eq_ok.mp h
  obtain ⟨db₂, second, third⟩ := except_bind_eq_ok.mp h
  obtain ⟨blocks₁, users₁, messages₁, -⟩ := setBlocks_ok first
  obtain ⟨blocks₂, users₂, messages₂, -⟩ := setBlocks_ok second
  obtain ⟨users₃, blocks₃, messages₃, -⟩ := setUsernames_ok third
  rw [users₁] at blocks₂ users₂
  rw [users₂] at users₃
  rw [blocks₁] at blocks₂
  exact ⟨users₃, blocks₃.trans blocks₂, messages₃.trans (messages₂.trans messages₁)⟩

theorem blocked_lowerBlocker (blocks : List BlockRow) (r : BlockRow) :
    (lowerBlocker blocks r).blocked = r.blocked := by
  unfold lowerBlocker lowerColumn
  split <;> rfl

theorem blocker_lowerBlocked (blocks : List BlockRow) (r : BlockRow) :
    (lowerBlocked blocks r).blocker = r.blocker := by
  unfold lowerBlocked lowerColumn
  split <;> rfl

@[simp] theorem blocker_suffixBlocker (users : RowTable String) (r : BlockRow) :
    (suffixBlocker users r).blocker = suffixedOf users r.blocker := rfl

@[simp] theorem blocked_suffixBlocker (users : RowTable String) (r : BlockRow) :
    (suffixBlocker users r).blocked = r.blocked := rfl

@[simp] theorem blocker_suffixBlocked (users : RowTable String) (r : BlockRow) :
    (suffixBlocked users r).blocker = r.blocker := rfl

@[simp] theorem blocked_suffixBlocked (users : RowTable String) (r : BlockRow) :
    (suffixBlocked users r).blocked = suffixedOf users r.blocked := rfl

theorem idOf_migrated (lowered : mid.users = db.users.map (lowerUsername db.users))
    (suffix : db'.users = mid.users.map suffixUsername) (name : String) :
    idOf db'.users name = idOf (db.users.map (finalName db.users)) name := by
  have same (id : UserId) : db'.users.get? id = (db.users.map (finalName db.users)).get? id := by
    rw [suffix]
    exact get?_suffixed lowered id
  have distinct := distinct_iff.mp db'.usernames
  have distinct' : Distinct (db.users.map (finalName db.users)) := by
    intro i j n
    rw [← same, ← same]
    exact distinct i j n
  ext id
  rw [idOf_eq_some distinct, idOf_eq_some distinct', same]

/-- A block row names the accounts it named, at every step of the two migrations. -/
theorem blocks_kept_iff (free : SuffixFree db.users)
    (lowered : mid.users = db.users.map (lowerUsername db.users)) (mid_blocks : mid.blocks = twice db)
    (fixed : fixCaseCollisions mid = .ok db') :
    List.Forall₂ (fun r r' : BlockRow => idOf db'.users r'.blocker = idOf db.users r.blocker ∧
        idOf db'.users r'.blocked = idOf db.users r.blocked) db.blocks db'.blocks ↔
      (∀ r ∈ db.blocks, Keeps db.users .blocker db.blocks r) ∧
        ∀ r ∈ once db, Keeps db.users .blocked (once db) r := by
  have distinct := distinct_iff.mp db.usernames
  obtain ⟨users', blocks', -⟩ := fix_ok fixed
  rw [blocks', mid_blocks, List.forall₂_map_right_iff, List.forall₂_map_right_iff,
    List.forall₂_map_right_iff, List.forall₂_map_right_iff, List.forall₂_same, List.forall_mem_map,
    ← forall₂_and]
  refine forall₂_congr fun r _ => and_congr ?_ ?_
  · rw [blocker_suffixBlocked, blocker_suffixBlocker, blocker_lowerBlocked,
      idOf_migrated lowered users', lowered]
    exact blocker_keeps_iff distinct free r
  · rw [← blocked_lowerBlocker db.blocks r, ← blocked_keeps_iff distinct free,
      blocked_suffixBlocked, blocked_suffixBlocker, idOf_migrated lowered users', lowered]

theorem messages_kept_iff (free : SuffixFree db.users)
    (lowered : mid.users = db.users.map (lowerUsername db.users))
    (mid_messages : mid.messages = db.messages.map fun m =>
      ⟨lower m.sender, m.recipient.map lower⟩)
    (fixed : fixCaseCollisions mid = .ok db') :
    List.Forall₂ (fun m m' : MailRow => idOf db'.users m'.sender = idOf db.users m.sender ∧
        m'.recipient.map (idOf db'.users) = m.recipient.map (idOf db.users))
        db.messages db'.messages ↔
      ∀ m ∈ db.messages, Follows db.users m.sender ∧
        ∀ name, m.recipient = some name → Follows db.users name := by
  have distinct := distinct_iff.mp db.usernames
  obtain ⟨users', -, messages'⟩ := fix_ok fixed
  rw [messages', mid_messages, List.forall₂_map_right_iff, List.forall₂_same]
  refine forall₂_congr fun m _ => and_congr ?_ ?_
  · rw [idOf_migrated lowered users']
    exact follows_iff distinct free
  · cases m.recipient with
    | none => simp
    | some name =>
        simp only [Option.map_some, Option.some.injEq, forall_eq']
        rw [idOf_migrated lowered users']
        exact follows_iff distinct free

theorem suffixFree_iff (lowered : mid.users = db.users.map (lowerUsername db.users))
    (suffix : db'.users = mid.users.map suffixUsername) :
    Distinct db'.users ↔ SuffixFree db.users := by
  rw [← distinct_final_iff (distinct_iff.mp db.usernames)]
  refine forall_congr' fun i => forall_congr' fun j => forall_congr' fun name => ?_
  rw [suffix, get?_suffixed lowered, get?_suffixed lowered]

theorem fix_succeeds (sound : Undisturbed db)
    (lowered : mid.users = db.users.map (lowerUsername db.users))
    (mid_blocks : mid.blocks = twice db) : ∃ db', fixCaseCollisions mid = .ok db' := by
  have distinct := distinct_iff.mp db.usernames
  have apart₁ : Apart (suffixBlocker mid.users) mid.blocks := by
    rw [lowered, mid_blocks]
    apply apart_suffixBlocker distinct sound.users
    intro r hr
    obtain ⟨r₁, hr₁, rfl⟩ := List.mem_map.mp hr
    obtain ⟨r₀, hr₀, rfl⟩ := List.mem_map.mp hr₁
    have kept := (blocker_keeps_iff distinct sound.users r₀).mpr (sound.blockers r₀ hr₀)
    rw [← blocker_lowerBlocked (once db)] at kept
    have cases := blocker_cases db.blocks r₀
    rw [← blocker_lowerBlocked (once db)] at cases
    exact ⟨_, cases, kept⟩
  obtain ⟨db₁, first⟩ := suffixColumn_succeeds .blocker apart₁
  obtain ⟨blocks₁, users₁, -⟩ := setBlocks_ok first
  have apart₂ : Apart (suffixBlocked mid.users) db₁.blocks := by
    rw [blocks₁, lowered, mid_blocks]
    apply apart_suffixBlocked distinct sound.users
    intro r hr
    obtain ⟨r₂, hr₂, rfl⟩ := List.mem_map.mp hr
    obtain ⟨r₁, hr₁, rfl⟩ := List.mem_map.mp hr₂
    have kept := (blocked_keeps_iff distinct sound.users r₁).mpr (sound.blocked r₁ hr₁)
    exact ⟨_, blocked_cases (once db) r₁, kept⟩
  obtain ⟨db₂, second⟩ := suffixColumn_succeeds .blocked apart₂
  obtain ⟨-, users₂, -⟩ := setBlocks_ok second
  obtain ⟨db₃, third⟩ := suffix_succeeds ((users₂.trans users₁).trans lowered)
    ((distinct_final_iff distinct).mpr sound.users)
  refine ⟨db₃, except_bind_eq_ok.mpr ⟨db₁, first, except_bind_eq_ok.mpr ⟨db₂, ?_, third⟩⟩⟩
  rw [users₁]
  exact second

theorem undisturbed_of_kept (lowercased : lowercaseUsernames db = .ok mid)
    (fixed : fixCaseCollisions mid = .ok db') (kept : IdentityKept db db') : Undisturbed db := by
  obtain ⟨lowered, mid_blocks, mid_messages, blockersApart, blockedApart⟩ :=
    lowercase_ok lowercased
  have free := (suffixFree_iff lowered (fix_ok fixed).1).mp kept.distinct
  have messages := (messages_kept_iff free lowered mid_messages fixed).mp kept.messages
  obtain ⟨blockers, blocked⟩ := (blocks_kept_iff free lowered mid_blocks fixed).mp kept.blocks
  exact ⟨free, messages, blockers, blockersApart, blocked, blockedApart⟩

theorem kept_of_undisturbed (sound : Undisturbed db) :
    ∃ mid db', lowercaseUsernames db = .ok mid ∧ fixCaseCollisions mid = .ok db' ∧
      IdentityKept db db' := by
  obtain ⟨mid, lowercased⟩ := lowercase_succeeds sound.blockersApart sound.blockedApart
  obtain ⟨lowered, mid_blocks, mid_messages, -⟩ := lowercase_ok lowercased
  obtain ⟨db', fixed⟩ := fix_succeeds sound lowered mid_blocks
  refine ⟨mid, db', lowercased, fixed, ?_, ?_, ?_, ?_⟩
  · intro id name stored
    rw [(fix_ok fixed).1, get?_suffixed lowered, RowTable.get?_map] at stored
    obtain ⟨old, -, rfl⟩ := Option.map_eq_some_iff.mp stored
    exact lower_finalName.symm
  · exact (suffixFree_iff lowered (fix_ok fixed).1).mpr sound.users
  · exact (messages_kept_iff sound.users lowered mid_messages fixed).mpr sound.messages
  · exact (blocks_kept_iff sound.users lowered mid_blocks fixed).mpr
      ⟨sound.blockers, sound.blocked⟩

theorem identity_kept_iff (db : NamedTables) :
    (∃ mid db', lowercaseUsernames db = .ok mid ∧ fixCaseCollisions mid = .ok db' ∧
      IdentityKept db db') ↔ Undisturbed db :=
  ⟨fun ⟨_, _, lowercased, fixed, kept⟩ => undisturbed_of_kept lowercased fixed kept,
    kept_of_undisturbed⟩

end Migrations

-- a message of the second of two accounts whose names differ in case
def twoAlices : NamedTables where
  users :=
    { rows := [(1, "alice"), (2, "Alice")], seq := 2, sorted := by simp, bounded := by simp }
  blocks := []
  messages := [⟨"Alice", some "alice"⟩]
  auditActors := []
  usernames := by decide
  pairs := List.nodup_nil

theorem sender_handed_over :
    ¬ ∃ mid db', lowercaseUsernames twoAlices = .ok mid ∧ fixCaseCollisions mid = .ok db' ∧
      IdentityKept twoAlices db' := by
  rintro ⟨mid, db', lowercased, fixed, kept⟩
  have sound := undisturbed_of_kept lowercased fixed kept
  have follows := (sound.messages _ List.mem_cons_self).1
  exact follows.1 2 rfl (by decide +kernel)

end SupplyDrop.Proof.Usernames
