import Mathlib
import SupplyDrop.Library.Text

namespace SupplyDrop.Library.Text

/-! ## Numbers of a fixed width -/

/-- The last digits of a number. -/
def digits : Nat → Nat → List Char
  | 0, _ => []
  | width + 1, n => digits width (n / 10) ++ [Nat.digitChar (n % 10)]

theorem digitChar_lt : ∀ a < 10, ∀ b < 10, [Nat.digitChar a] < [Nat.digitChar b] ↔ a < b := by
  decide

@[simp] theorem length_digits (width n : Nat) : (digits width n).length = width := by
  induction width generalizing n with
  | zero => rfl
  | succ width ih => simp [digits, ih]

theorem append_lt_append {p q : List Char} (width : p.length = q.length) (r s : List Char) :
    p ++ r < q ++ s ↔ p < q ∨ p = q ∧ r < s := by
  induction p generalizing q with
  | nil =>
      cases q with
      | nil => simp
      | cons d q => cases width
  | cons c p ih =>
      cases q with
      | nil => cases width
      | cons d q =>
          have ih := ih (Nat.succ.inj width)
          simp only [List.cons_append, List.cons_lt_cons_iff, ih, List.cons.injEq]
          tauto

theorem eq_of_lt_iff {x y : List Char} {a b : Nat} (less : x < y ↔ a < b) (more : y < x ↔ b < a)
    (same : x = y) : a = b := by
  rw [same] at less more
  simp only [lt_irrefl, false_iff] at less more
  omega

theorem digits_lt {width a b : Nat} (ha : a < 10 ^ width) (hb : b < 10 ^ width) :
    digits width a < digits width b ↔ a < b := by
  induction width generalizing a b with
  | zero =>
      have same : a = b := by omega
      simp [digits, same]
  | succ width ih =>
      have short {n : Nat} (hn : n < 10 ^ (width + 1)) : n / 10 < 10 ^ width := by
        rw [pow_succ] at hn
        omega
      have less := ih (short ha) (short hb)
      have more := ih (short hb) (short ha)
      have same : digits width (a / 10) = digits width (b / 10) ↔ a / 10 = b / 10 :=
        ⟨eq_of_lt_iff less more, fun numbers => by rw [numbers]⟩
      have last := digitChar_lt (a % 10) (by omega) (b % 10) (by omega)
      unfold digits
      rw [append_lt_append (by simp), less, same, last]
      omega

theorem digits_inj {width a b : Nat} (ha : a < 10 ^ width) (hb : b < 10 ^ width) :
    digits width a = digits width b ↔ a = b :=
  ⟨eq_of_lt_iff (digits_lt ha hb) (digits_lt hb ha), fun numbers => by rw [numbers]⟩

theorem digits_zero (width : Nat) : digits width 0 = List.replicate width '0' := by
  induction width with
  | zero => rfl
  | succ width ih =>
      rw [digits, Nat.zero_div, ih, List.replicate_succ']
      rfl

theorem padded_toDigits {width n : Nat} (small : n < 10 ^ (width + 1)) :
    List.replicate (width + 1 - (Nat.toDigits 10 n).length) '0' ++ Nat.toDigits 10 n =
      digits (width + 1) n := by
  induction width generalizing n with
  | zero =>
      have digit : n < 10 := by omega
      simp [Nat.toDigits_of_lt_base digit, digits, Nat.mod_eq_of_lt digit]
  | succ width ih =>
      rw [Nat.toDigits_eq_if (by decide)]
      split
      · next digit =>
        rw [digits, Nat.div_eq_of_lt digit, digits_zero, Nat.mod_eq_of_lt digit]
        rfl
      · have parts : n / 10 < 10 ^ (width + 1) := by
          rw [pow_succ] at small
          omega
        rw [digits, ← ih parts, List.append_assoc, List.length_append]
        simp

@[simp] theorem toList_pushn (s : String) (c : Char) (n : Nat) :
    (s.pushn c n).toList = s.toList ++ List.replicate n c := by
  induction n with
  | zero => simp [String.pushn_eq_repeat_push, Nat.repeat]
  | succ n ih =>
      rw [String.pushn_eq_repeat_push] at ih ⊢
      rw [Nat.repeat, String.toList_push, ih, List.replicate_succ', List.append_assoc]

theorem zeroPadded_toList {width n : Nat} (small : n < 10 ^ (width + 1)) :
    (zeroPadded (width + 1) (n : Nat)).toList = digits (width + 1) n := by
  have plain : ¬(n : Int) < 0 := by omega
  have shown : toString n = String.ofList (Nat.toDigits 10 n) := rfl
  rw [← padded_toDigits small]
  simp [zeroPadded, plain, shown]

/-! ## Numbers read back -/

theorem parseDigits_eq {cs : List Char} (digits : ∀ c ∈ cs, c.isDigit) (n : Nat) :
    parseDigits cs n = some (Nat.ofDigitChars 10 cs n) := by
  induction cs generalizing n with
  | nil => rfl
  | cons c cs ih =>
      obtain ⟨digit, digits⟩ := List.forall_mem_cons.mp digits
      rw [parseDigits, if_pos digit, ih digits, Nat.ofDigitChars_cons]
      rfl

theorem parseInt_digits {cs : List Char} (digits : ∀ c ∈ cs, c.isDigit) (some_ : cs ≠ []) :
    parseInt (String.ofList cs) = some (Nat.ofDigitChars 10 cs 0 : Int) := by
  cases cs with
  | nil => exact absurd rfl some_
  | cons c cs =>
      have digit := digits c List.mem_cons_self
      have minus : c ≠ '-' := fun same => absurd (same ▸ digit) (by decide)
      have plus : c ≠ '+' := fun same => absurd (same ▸ digit) (by decide)
      unfold parseInt
      rw [String.toList_ofList]
      split
      · next same => exact absurd (List.cons.inj same).1 minus
      · next same => exact absurd (List.cons.inj same).1 plus
      · next same =>
        rw [← same, parseDigits_eq digits]
        rfl
      · next same => cases same

theorem toDigits_isDigit (n : Nat) : ∀ c ∈ Nat.toDigits 10 n, c.isDigit := fun _ mem =>
  Nat.isDigit_of_mem_toDigits (by decide) (by decide) mem

theorem parseInt_toString (n : Int) : parseInt (toString n) = some n := by
  cases n with
  | ofNat n =>
      show parseInt (String.ofList (Nat.toDigits 10 n)) = _
      rw [parseInt_digits (toDigits_isDigit n) Nat.toDigits_ne_nil, Nat.ofDigitChars_ten_toDigits]
      rfl
  | negSucc n =>
      have text : (toString (Int.negSucc n)).toList = '-' :: Nat.toDigits 10 (n + 1) := by
        show ("-" ++ String.ofList (Nat.toDigits 10 (n + 1))).toList = _
        rw [String.toList_append, String.toList_ofList, String.toList_ofList]
        rfl
      cases shape : Nat.toDigits 10 (n + 1) with
      | nil => exact absurd shape Nat.toDigits_ne_nil
      | cons c cs =>
          have digits := toDigits_isDigit (n + 1)
          have value := Nat.ofDigitChars_ten_toDigits (n := n + 1)
          rw [shape] at digits value text
          unfold parseInt
          rw [text]
          show (parseDigits (c :: cs) 0).map (fun n => -(n : Int)) = _
          rw [parseDigits_eq digits, value]
          rfl

theorem digitChar_isDigit {c : Char} (digit : c.isDigit) :
    c.toNat - 48 < 10 ∧ Nat.digitChar (c.toNat - 48) = c := by
  have all : ∀ k < 10, Nat.digitChar k = Char.ofNat (48 + k) := by decide
  unfold Char.isDigit at digit
  have low : 48 ≤ c.toNat := by
    have := (Bool.and_eq_true _ _ ▸ digit : _ ∧ _).1
    exact UInt32.le_iff_toNat_le.mp (of_decide_eq_true this)
  have high : c.toNat ≤ 57 := by
    have := (Bool.and_eq_true _ _ ▸ digit : _ ∧ _).2
    exact UInt32.le_iff_toNat_le.mp (of_decide_eq_true this)
  refine ⟨by omega, ?_⟩
  rw [all _ (by omega), Nat.add_sub_cancel' low, Char.ofNat_toNat]

/-- Digits of a number again, when they are read as one. -/
theorem digits_ofDigitChars {cs : List Char} (all : ∀ c ∈ cs, c.isDigit) :
    digits cs.length (Nat.ofDigitChars 10 cs 0) = cs := by
  induction cs using List.reverseRecOn with
  | nil => rfl
  | append_singleton cs c ih =>
      have front : ∀ d ∈ cs, d.isDigit := fun d mem => all d (List.mem_append_left [c] mem)
      obtain ⟨small, char⟩ := digitChar_isDigit (all c (List.mem_append_right cs List.mem_cons_self))
      have value : Nat.ofDigitChars 10 (cs ++ [c]) 0 =
          10 * Nat.ofDigitChars 10 cs 0 + (c.toNat - 48) := by
        rw [Nat.ofDigitChars_append, Nat.ofDigitChars_cons, Nat.ofDigitChars_nil]
        rfl
      have high : Nat.ofDigitChars 10 (cs ++ [c]) 0 / 10 = Nat.ofDigitChars 10 cs 0 := by omega
      have low : Nat.ofDigitChars 10 (cs ++ [c]) 0 % 10 = c.toNat - 48 := by omega
      rw [List.length_append, List.length_singleton, digits, high, low, ih front, char]

theorem ofDigitChars_lt {cs : List Char} (all : ∀ c ∈ cs, c.isDigit) :
    Nat.ofDigitChars 10 cs 0 < 10 ^ cs.length := by
  induction cs using List.reverseRecOn with
  | nil => exact Nat.one_pos
  | append_singleton cs c ih =>
      have front := ih fun d mem => all d (List.mem_append_left [c] mem)
      have digit := (digitChar_isDigit (all c (List.mem_append_right cs List.mem_cons_self))).1
      have zero : '0'.toNat = 48 := rfl
      rw [Nat.ofDigitChars_append, Nat.ofDigitChars_cons, Nat.ofDigitChars_nil, List.length_append,
        List.length_singleton, pow_succ]
      omega

theorem digits_isDigit (width n : Nat) : ∀ c ∈ digits width n, c.isDigit := by
  have digit : ∀ k < 10, (Nat.digitChar k).isDigit := by decide
  induction width generalizing n with
  | zero => exact fun c mem => absurd mem List.not_mem_nil
  | succ width ih =>
      intro c mem
      obtain mem | mem := List.mem_append.mp mem
      · exact ih (n / 10) c mem
      · rw [List.mem_singleton.mp mem]
        exact digit _ (Nat.mod_lt n (by decide))

theorem ofDigitChars_digits {width n : Nat} (small : n < 10 ^ width) :
    Nat.ofDigitChars 10 (digits width n) 0 = n := by
  have digit : ∀ k < 10, (Nat.digitChar k).toNat - '0'.toNat = k := by decide
  induction width generalizing n with
  | zero =>
      rw [pow_zero] at small
      rw [digits, Nat.ofDigitChars_nil]
      omega
  | succ width ih =>
      have front := ih (n := n / 10) (by rw [pow_succ] at small; omega)
      rw [digits, Nat.ofDigitChars_append, front, Nat.ofDigitChars_cons, Nat.ofDigitChars_nil,
        digit _ (Nat.mod_lt n (by decide))]
      omega

end SupplyDrop.Library.Text
