import Mathlib

/-!
# Text as Rust's standard library treats it

`str` methods over `String`, each through its list of characters.
-/

namespace SupplyDrop.Library.Text

def isWhitespace (c : Char) : Bool :=
  (0x9 ≤ c.toNat && c.toNat ≤ 0xD) || c.toNat = 0x20 || c.toNat = 0x85 || c.toNat = 0xA0 ||
    c.toNat = 0x1680 || (0x2000 ≤ c.toNat && c.toNat ≤ 0x200A) || c.toNat = 0x2028 ||
    c.toNat = 0x2029 || c.toNat = 0x202F || c.toNat = 0x205F || c.toNat = 0x3000

def isAsciiWhitespace (c : Char) : Bool :=
  c.toNat = 0x20 || c.toNat = 0x9 || c.toNat = 0xA || c.toNat = 0xC || c.toNat = 0xD

def isControl (c : Char) : Bool :=
  c.toNat ≤ 0x1F || (0x7F ≤ c.toNat && c.toNat ≤ 0x9F)

def isAscii (c : Char) : Bool := c.toNat ≤ 0x7F

def trimStart (s : String) : String := String.ofList (s.toList.dropWhile isWhitespace)

def trimEnd (s : String) : String := String.ofList (s.toList.rdropWhile isWhitespace)

def trim (s : String) : String := trimEnd (trimStart s)

def toAsciiLowercase (s : String) : String := String.ofList (s.toList.map Char.toLower)

def eqIgnoreAsciiCase (s t : String) : Bool := toAsciiLowercase s = toAsciiLowercase t

/-- The upper case of a character: the ASCII letters, and every other character whose upper case is
made of ASCII letters alone (dotless i, long s, sharp s and the Latin ligatures). -/
def upperChars (c : Char) : List Char :=
  match c.toNat with
  | 0x131 => ['I']
  | 0x17F => ['S']
  | 0xDF => ['S', 'S']
  | 0xFB00 => ['F', 'F']
  | 0xFB01 => ['F', 'I']
  | 0xFB02 => ['F', 'L']
  | 0xFB03 => ['F', 'F', 'I']
  | 0xFB04 => ['F', 'F', 'L']
  | 0xFB05 => ['S', 'T']
  | 0xFB06 => ['S', 'T']
  | _ => [c.toUpper]

/-- `str::to_uppercase`, exact wherever the result is compared with ASCII text. -/
def toUppercase (s : String) : String := String.ofList (s.toList.flatMap upperChars)

/-- `str::to_lowercase`, exact wherever the result is looked for in ASCII text: the Kelvin sign is
the only other character whose lower case is ASCII. -/
def toLowercase (s : String) : String :=
  String.ofList (s.toList.map fun c => if c.toNat = 0x212A then 'k' else c.toLower)

def stripPrefix (p s : String) : Option String :=
  if p.toList.isPrefixOf s.toList then some (String.ofList (s.toList.drop p.toList.length))
  else none

def stripSuffix (p s : String) : Option String :=
  if p.toList.isSuffixOf s.toList then
    some (String.ofList (s.toList.take (s.toList.length - p.toList.length)))
  else none

def splitOnce (p : Char → Bool) (s : String) : Option (String × String) :=
  match s.toList.dropWhile (!p ·) with
  | [] => none
  | _ :: rest => some (String.ofList (s.toList.takeWhile (!p ·)), String.ofList rest)

/-- The maximal runs of characters that are not white space. -/
def splitWhitespace (s : String) : List String :=
  ((s.toList.splitBy fun a b => isWhitespace a == isWhitespace b).filter fun run =>
    !run.any isWhitespace).map String.ofList

def contains (s t : String) : Bool := s.toList.tails.any (t.toList.isPrefixOf ·)

def parseDigits : List Char → Nat → Option Nat
  | [], n => some n
  | c :: cs, n => if c.isDigit then parseDigits cs (10 * n + (c.toNat - 48)) else none

def parseInt (s : String) : Option Int :=
  match s.toList with
  | '-' :: c :: cs => (parseDigits (c :: cs) 0).map fun n => -(n : Int)
  | '+' :: c :: cs => (parseDigits (c :: cs) 0).map fun n => (n : Int)
  | c :: cs => (parseDigits (c :: cs) 0).map fun n => (n : Int)
  | [] => none

def parseI64 (s : String) : Option Int :=
  (parseInt s).filter fun n => -2 ^ 63 ≤ n ∧ n < 2 ^ 63

def parseU8 (s : String) : Option Nat :=
  if s.toList.head? = some '-' then none
  else (parseInt s).bind fun n => if n < 256 then some n.toNat else none

def zeroPadded (width : Nat) (n : Int) : String :=
  let digits := toString n.natAbs
  let sign := if n < 0 then "-" else ""
  sign ++ "".pushn '0' (width - sign.length - digits.length) ++ digits

theorem toAsciiLowercase_idem (s : String) :
    toAsciiLowercase (toAsciiLowercase s) = toAsciiLowercase s := by
  simp [toAsciiLowercase, Function.comp_def]

theorem stripPrefix_append (p s : String) : stripPrefix p (p ++ s) = some s := by
  rw [stripPrefix, String.toList_append, if_pos (List.isPrefixOf_iff_prefix.mpr ⟨_, rfl⟩),
    List.drop_left, String.ofList_toList]

theorem stripPrefix_some {p s r : String} : stripPrefix p s = some r ↔ s = p ++ r := by
  constructor
  · intro cut
    unfold stripPrefix at cut
    split_ifs at cut with starts
    obtain ⟨rest, eq⟩ := List.isPrefixOf_iff_prefix.mp starts
    rw [← Option.some.inj cut]
    apply String.toList_inj.mp
    rw [String.toList_append, String.toList_ofList, ← eq, List.drop_left]
  · rintro rfl
    exact stripPrefix_append p r

theorem stripSuffix_append (s p : String) : stripSuffix p (s ++ p) = some s := by
  rw [stripSuffix, String.toList_append, if_pos (List.isSuffixOf_iff_suffix.mpr ⟨_, rfl⟩),
    List.length_append, Nat.add_sub_cancel, List.take_left, String.ofList_toList]

theorem stripSuffix_some {p s r : String} : stripSuffix p s = some r ↔ s = r ++ p := by
  constructor
  · intro cut
    unfold stripSuffix at cut
    split_ifs at cut with ends
    obtain ⟨front, eq⟩ := List.isSuffixOf_iff_suffix.mp ends
    rw [← Option.some.inj cut]
    apply String.toList_inj.mp
    rw [String.toList_append, String.toList_ofList, ← eq, List.length_append, Nat.add_sub_cancel,
      List.take_left]
  · rintro rfl
    exact stripSuffix_append r p

theorem mem_trim {text : String} {c : Char} (h : c ∈ (trim text).toList) :
    c ∈ text.toList := by
  have first : c ∈ (trimStart text).toList := by
    simp only [trim, trimEnd, String.toList_ofList] at h
    exact (List.rdropWhile_prefix _ _).subset h
  simp only [trimStart, String.toList_ofList] at first
  exact (List.dropWhile_suffix _).subset first

theorem trim_plain {s : String} (h : ∀ c ∈ s.toList, isWhitespace c = false) : trim s = s := by
  have start : trimStart s = s := by
    rw [trimStart, List.dropWhile_eq_self_iff.mpr, String.ofList_toList]
    intro some_
    rw [h _ (List.getElem_mem some_)]
    exact Bool.false_ne_true
  rw [trim, start, trimEnd, List.rdropWhile_eq_self_iff.mpr, String.ofList_toList]
  intro some_
  rw [h _ (List.getLast_mem some_)]
  exact Bool.false_ne_true

end SupplyDrop.Library.Text
