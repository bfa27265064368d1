import Mathlib
import SupplyDrop.Library.Digits
import SupplyDrop.Host.AuditText

namespace SupplyDrop.Host.AuditText
open Library Library.Columns Library.Utf8 Store

/-! ## Fields -/

def lineEscapes : Escapes Char where
  mark := '\\'
  code c := if c = '\\' then some '\\' else if c = '\t' then some 't'
    else if c = '\n' then some 'n' else none
  read c := if c = '\\' then some '\\' else if c = 't' then some '\t'
    else if c = 'n' then some '\n' else none
  read_code := by
    intro c d coded
    split_ifs at coded with backslash tab feed
    · rw [backslash, ← Option.some.inj coded]
      rfl
    · rw [tab, ← Option.some.inj coded]
      rfl
    · rw [feed, ← Option.some.inj coded]
      rfl
  marks := by decide

theorem replace_toList (c : Char) (t s : String) :
    (replace c t s).toList = s.toList.flatMap fun d => if d = c then t.toList else [d] := by
  rw [replace, String.toList_ofList]

/-- The replacements one after the other escape each character once. -/
theorem replaced (v : String) :
    (replace '\n' "\\n" (replace '\t' "\\t" (replace '\\' "\\\\" v))).toList =
      escape lineEscapes v.toList := by
  rw [replace_toList, replace_toList, replace_toList, List.flatMap_assoc, List.flatMap_assoc,
    escape]
  congr 1
  funext c
  by_cases backslash : c = '\\'
  · rw [backslash]
    rfl
  by_cases tab : c = '\t'
  · rw [tab]
    rfl
  by_cases feed : c = '\n'
  · rw [feed]
    rfl
  simp [lineEscapes, backslash, tab, feed]

theorem field_toList (s : Option String) :
    (field s).toList =
      if s.getD "" = "" then ['-'] else escape lineEscapes (s.getD "").toList := by
  cases s with
  | none => rfl
  | some v =>
      unfold field
      dsimp only [Option.getD_some]
      by_cases empty : v = ""
      · rw [if_pos empty, if_pos empty]
        rfl
      · rw [if_neg empty, if_neg empty, replaced]

theorem field_getD (s : Option String) : field (some (s.getD "")) = field s := by
  cases s with
  | none => rfl
  | some v => rfl

theorem escaped_clean {c : Char} (breaks : c = '\t' ∨ c = '\n') (s : List Char) :
    c ∉ escape lineEscapes s := by
  apply not_mem_escape
  · obtain rfl | rfl := breaks <;> decide
  · obtain rfl | rfl := breaks <;> decide
  · intro d coded
    simp only [lineEscapes] at coded
    split_ifs at coded with h₁ h₂ h₃
    all_goals
      obtain rfl | rfl := breaks <;> cases coded

theorem field_clean {c : Char} (breaks : c = '\t' ∨ c = '\n') (s : Option String) :
    c ∉ (field s).toList := by
  rw [field_toList]
  split_ifs
  · obtain rfl | rfl := breaks <;> decide
  · exact escaped_clean breaks _

/-- A field as it is read: the placeholder is an empty one. -/
def readField (s : String) : Option String :=
  if s = "-" then some "" else (unescape lineEscapes s.toList).map String.ofList

theorem escape_dash {s : List Char} (escaped : escape lineEscapes s = ['-']) : s = ['-'] :=
  escape_injective lineEscapes (escaped.trans (by decide : ['-'] = escape lineEscapes ['-']))

theorem readField_field {s : Option String} (plain : s ≠ some "-") :
    readField (field s) = some (s.getD "") := by
  have text := field_toList s
  by_cases empty : s.getD "" = ""
  · rw [if_pos empty] at text
    rw [readField, if_pos (String.toList_inj.mp text), empty]
  · rw [if_neg empty] at text
    have other : field s ≠ "-" := by
      intro dash
      rw [dash] at text
      have same : (s.getD "").toList = "-".toList := escape_dash text.symm
      cases s with
      | none => exact empty rfl
      | some v => exact plain (congrArg some (String.toList_inj.mp same))
    rw [readField, if_neg other, text, unescape_escape]
    exact congrArg some String.ofList_toList

/-! ## Entries -/

/-- A time as the table's default stamps it has nothing in it that breaks a line. -/
def Stamped (t : String) : Prop := '\t' ∉ t.toList ∧ '\n' ∉ t.toList

def columnsOf (e : AdminAuditEntry) : List (List Char) :=
  [(toString e.id).toList, e.createdAt.toList, (field (some e.actor)).toList,
    (field (some e.action)).toList, (field e.target).toList, (field e.detail).toList]

theorem formatEntry_toList (e : AdminAuditEntry) :
    (formatEntry e).toList = ['\t'].intercalate (columnsOf e) := by
  unfold formatEntry columnsOf
  simp only [String.toList_append, List.intercalate_cons_cons, List.intercalate_singleton,
    List.append_assoc]
  rfl

/-- What an entry says, an absent field being an empty one. -/
structure EntryText where
  id : Int
  createdAt : String
  actor : String
  action : String
  target : String
  detail : String
deriving DecidableEq

def AdminAuditEntry.text (e : AdminAuditEntry) : EntryText :=
  ⟨e.id.toInt, e.createdAt, e.actor, e.action, e.target.getD "", e.detail.getD ""⟩

def readEntry (line : String) : Option EntryText :=
  match (line.toList.splitOn '\t').map String.ofList with
  | [id, createdAt, actor, action, target, detail] => do
      let id ← Text.parseInt id
      let actor ← readField actor
      let action ← readField action
      let target ← readField target
      let detail ← readField detail
      pure ⟨id, createdAt, actor, action, target, detail⟩
  | _ => none

/-- No field is the placeholder itself. -/
def AdminAuditEntry.Plain (e : AdminAuditEntry) : Prop :=
  e.actor ≠ "-" ∧ e.action ≠ "-" ∧ e.target ≠ some "-" ∧ e.detail ≠ some "-"

theorem columnsOf_clean {e : AdminAuditEntry} (stamped : Stamped e.createdAt) {c : Char}
    (breaks : c = '\t' ∨ c = '\n') : ∀ column ∈ columnsOf e, c ∉ column := by
  have number : c ∉ (toString e.id).toList := by
    intro mem
    obtain same | digit := Text.number_plain e.id.toInt c mem
    · obtain rfl | rfl := breaks <;> cases same
    · obtain rfl | rfl := breaks <;> cases digit
  have time : c ∉ e.createdAt.toList := by
    obtain rfl | rfl := breaks
    · exact stamped.1
    · exact stamped.2
  simp only [columnsOf, List.forall_mem_cons]
  exact ⟨number, time, field_clean breaks _, field_clean breaks _, field_clean breaks _,
    field_clean breaks _, fun _ mem => absurd mem List.not_mem_nil⟩

theorem formatEntry_line {e : AdminAuditEntry} (stamped : Stamped e.createdAt) :
    '\n' ∉ (formatEntry e).toList ∧ (formatEntry e).toList.count '\t' = 5 := by
  rw [formatEntry_toList]
  constructor
  · intro mem
    obtain same | ⟨column, inside, mem⟩ := mem_intercalate mem
    · cases same
    · exact columnsOf_clean stamped (.inr rfl) column inside mem
  · rw [count_intercalate (columnsOf_clean stamped (.inl rfl))]
    rfl

theorem readEntry_formatEntry {e : AdminAuditEntry} (stamped : Stamped e.createdAt)
    (plain : e.Plain) : readEntry (formatEntry e) = some e.text := by
  obtain ⟨actor, action, target, detail⟩ := plain
  have columns : ((formatEntry e).toList.splitOn '\t').map String.ofList =
      [toString e.id, e.createdAt, field (some e.actor), field (some e.action), field e.target,
        field e.detail] := by
    rw [formatEntry_toList, List.splitOn_intercalate '\t' (columnsOf_clean stamped (.inl rfl))
      (List.cons_ne_nil _ _)]
    simp only [columnsOf, List.map_cons, List.map_nil, String.ofList_toList]
  have id : Text.parseInt (toString e.id) = some e.id.toInt := Text.parseInt_toString e.id.toInt
  rw [readEntry, columns]
  dsimp only
  rw [id, readField_field (fun same => actor (Option.some.inj same)),
    readField_field (fun same => action (Option.some.inj same)), readField_field target,
    readField_field detail]
  rfl

theorem formatEntry_eq_iff {a b : AdminAuditEntry} (stamped : Stamped a.createdAt)
    (stamped' : Stamped b.createdAt) (plain : a.Plain) (plain' : b.Plain) :
    formatEntry a = formatEntry b ↔ a.text = b.text := by
  constructor
  · intro same
    have read := readEntry_formatEntry stamped plain
    rw [same, readEntry_formatEntry stamped' plain'] at read
    exact (Option.some.inj read).symm
  · intro same
    obtain ⟨id, time, actor, action, target, detail⟩ := EntryText.mk.inj same
    have number : a.id = b.id := Int64.toInt_inj.mp id
    unfold formatEntry
    rw [← field_getD a.target, ← field_getD a.detail, number, time, actor, action, target, detail,
      field_getD, field_getD]

/-! ## Rows of the table -/

theorem zeroPadded_clean {c : Char} (sign : c ≠ '-') (digit : ¬c.isDigit) (width : Nat) (n : Int) :
    c ∉ (Text.zeroPadded width n).toList := by
  have zero : c ≠ '0' := fun same => digit (same ▸ by decide)
  have number : c ∉ Nat.toDigits 10 n.natAbs := fun mem => digit (Text.toDigits_isDigit _ c mem)
  unfold Text.zeroPadded
  dsimp only
  split
  · simp [sign, zero, number]
  · simp [zero, number]

theorem stamped_of_parts {t : AuditTime} : Stamped (auditTimeText t) := by
  have clean (width : Nat) (n : Int) :
      '\t' ∉ (Text.zeroPadded width n).toList ∧ '\n' ∉ (Text.zeroPadded width n).toList :=
    ⟨zeroPadded_clean (by decide) (by decide) width n,
      zeroPadded_clean (by decide) (by decide) width n⟩
  unfold auditTimeText Stamped
  simp [clean]

theorem adminEntry_stamped (id : Int64) (row : AuditRow) : Stamped (adminEntry id row).createdAt :=
  stamped_of_parts

/-! ## Lines of a header -/

theorem lines_cons {l rest : String} (plain : '\n' ∉ l.toList) :
    Text.lines (l ++ "\n" ++ rest) = l :: Text.lines rest := by
  have chars : (l ++ "\n" ++ rest).toList = l.toList ++ '\n' :: rest.toList := by
    rw [String.toList_append, String.toList_append, List.append_assoc]
    rfl
  have other : ∀ c ∈ l.toList, (c == '\n') = false := fun c mem =>
    beq_eq_false_iff_ne.mpr fun same => plain (same ▸ mem)
  unfold Text.lines List.splitOn
  rw [chars, List.splitOnP_append_cons_of_forall_mem other '\n' (beq_self_eq_true _), List.map_cons,
    String.ofList_toList]

theorem lines_ne_nil (text : String) : Text.lines text ≠ [] := fun empty =>
  List.splitOnP_ne_nil _ _ (List.map_eq_nil_iff.mp empty)

theorem stripSuffix_absent {c : Char} {word l : String} (mem : c ∈ word.toList)
    (absent : c ∉ l.toList) : Text.stripSuffix word l = none := by
  rw [Text.stripSuffix, if_neg]
  intro suffix
  exact absent ((List.isSuffixOf_iff_suffix.mp suffix).subset mem)

theorem strLines_cons {l rest : String} (plain : '\n' ∉ l.toList) (plain' : '\r' ∉ l.toList) :
    strLines (l ++ "\n" ++ rest) = l :: strLines rest := by
  have kept : (Text.stripSuffix "\r" l).getD l = l := by
    rw [stripSuffix_absent (c := '\r') (by decide) plain', Option.getD_none]
  unfold strLines
  dsimp only
  rw [lines_cons plain, List.dropLast_cons_of_ne_nil (lines_ne_nil rest), List.map_cons, kept,
    List.getLast?_cons_of_ne_nil (lines_ne_nil rest), List.cons_append]

theorem splitOnceAt_append {c : Char} {front : String} (word : String) (clean : c ∉ front.toList)
    (rest : String) :
    splitOnceAt (String.ofList (c :: word.toList)) (front ++ String.ofList (c :: word.toList) ++ rest) =
      some (front, rest) := by
  have chars : (front ++ String.ofList (c :: word.toList) ++ rest).toList =
      front.toList ++ c :: (word.toList ++ rest.toList) := by
    rw [String.toList_append, String.toList_append, String.toList_ofList, List.append_assoc]
    rfl
  rw [splitOnceAt, chars, String.toList_ofList, cutAt_append clean]
  simp only [Option.map_some, String.ofList_toList]

theorem parseUnsigned_toString {bits n : Nat} (small : n < 2 ^ bits) :
    parseUnsigned bits (toString n) = some n := by
  have digits := Text.toDigits_isDigit n
  have number : Text.parseInt (toString n) = some (n : Int) := Text.parseInt_toString n
  have sign : ¬(toString n).toList.head? = some '-' := by
    intro first
    have mem : '-' ∈ Nat.toDigits 10 n := by
      simpa using List.mem_of_mem_head? first
    exact absurd (digits '-' mem) (by decide)
  rw [parseUnsigned, if_neg sign, number, Option.bind_some, if_pos (by exact_mod_cast small),
    Int.toNat_natCast]

theorem parseI64_toString (n : Int64) : Text.parseI64 (toString n) = some n.toInt := by
  have number : Text.parseInt (toString n) = some n.toInt := Text.parseInt_toString n.toInt
  have low := n.le_toInt
  have high := n.toInt_lt
  rw [Text.parseI64, number, Option.filter_some, if_pos]
  exact decide_eq_true ⟨low, high⟩

theorem splitOnce_append {c : Char} {front sep : String} (single : sep.toList = [c])
    (clean : c ∉ front.toList) (rest : String) :
    Text.splitOnce (· = c) (front ++ sep ++ rest) = some (front, rest) := by
  have chars : (front ++ sep ++ rest).toList = front.toList ++ c :: rest.toList := by
    rw [String.toList_append, String.toList_append, single, List.append_assoc]
    rfl
  have other : ∀ d ∈ front.toList, (!decide (d = c)) = true := fun d mem => by
    rw [Bool.not_eq_true', decide_eq_false_iff_not]
    exact fun same => clean (same ▸ mem)
  rw [Text.splitOnce, chars, List.dropWhile_append_of_pos other, List.takeWhile_append_of_pos other]
  simp

theorem negative_head {n : Int} (negative : n < 0) : (toString n).toList.head? = some '-' := by
  obtain ⟨m, rfl⟩ := Int.eq_negSucc_of_lt_zero negative
  show ("-" ++ String.ofList (Nat.toDigits 10 (m + 1))).toList.head? = _
  rw [String.toList_append]
  rfl

theorem nonnegative_digits {n : Int} (positive : 0 ≤ n) : ∀ c ∈ (toString n).toList, c.isDigit := by
  obtain ⟨m, rfl⟩ := Int.eq_ofNat_of_zero_le positive
  intro c mem
  have chars : (toString (m : Int)).toList = Nat.toDigits 10 m := String.toList_ofList
  rw [chars] at mem
  exact Text.toDigits_isDigit m c mem

theorem number_ne_nil (n : Int) : (toString n).toList ≠ [] := by
  obtain positive | negative := le_or_gt 0 n
  · obtain ⟨m, rfl⟩ := Int.eq_ofNat_of_zero_le positive
    have chars : (toString (m : Int)).toList = Nat.toDigits 10 m := String.toList_ofList
    rw [chars]
    exact Nat.toDigits_ne_nil
  · intro empty
    have head := negative_head negative
    rw [empty] at head
    cases head

theorem parseHeaderRange_line (count : UInt64) (range : String) :
    parseHeaderRange ("# entries: " ++ (toString count ++ " (ids " ++ (range ++ ")"))) =
      if range ≠ "" ∧ '-' ∈ range.toList ∧ ¬range.toList.head? = some '-' then do
        let (first, last) ← Text.splitOnce (· = '-') range
        let first ← Text.parseI64 first
        let last ← Text.parseI64 last
        if 0 ≤ first ∧ first ≤ last then some last else none
      else none := by
  have number : parseUnsigned 64 (toString count) = some count.toNat :=
    parseUnsigned_toString count.toNat_lt
  have clean : ' ' ∉ (toString count).toList := by
    intro mem
    exact absurd (nonnegative_digits (Int.natCast_nonneg count.toNat) ' ' mem) (by decide)
  have cut : splitOnceAt " (ids " (toString count ++ " (ids " ++ (range ++ ")")) =
      some (toString count, range ++ ")") :=
    splitOnceAt_append "(ids " clean (range ++ ")")
  unfold parseHeaderRange
  rw [Text.stripPrefix_append]
  simp only [Option.bind_eq_bind, Option.bind_some, cut, number, Text.stripSuffix_append]

theorem parseHeaderRange_entriesLine (count : UInt64) (firstId lastId : Int64) :
    parseHeaderRange (entriesLine count firstId lastId) =
      if 0 ≤ firstId.toInt ∧ firstId.toInt ≤ lastId.toInt then some lastId.toInt else none := by
  let range := toString firstId ++ "-" ++ toString lastId
  have shape : entriesLine count firstId lastId =
      "# entries: " ++ (toString count ++ " (ids " ++ (range ++ ")")) := by
    unfold entriesLine
    simp only [range, String.append_assoc]
  have first : range.toList.head? = (toString firstId).toList.head? := by
    rw [String.toList_append, String.toList_append, List.append_assoc]
    exact List.head?_append_of_ne_nil _ (number_ne_nil firstId.toInt)
  have dash : '-' ∈ range.toList := by
    rw [String.toList_append, String.toList_append]
    exact List.mem_append_left _ (List.mem_append_right _ (by decide))
  have some_ : range ≠ "" := by
    intro empty
    rw [empty] at dash
    cases dash
  rw [shape, parseHeaderRange_line]
  by_cases positive : 0 ≤ firstId.toInt
  · have digits := nonnegative_digits positive
    have noDash : '-' ∉ (toString firstId).toList := fun mem =>
      absurd (digits '-' mem) (by decide)
    have head : ¬range.toList.head? = some '-' := by
      rw [first]
      exact fun dash => noDash (List.mem_of_mem_head? dash)
    have split : Text.splitOnce (· = '-') range = some (toString firstId, toString lastId) :=
      splitOnce_append rfl noDash _
    rw [if_pos ⟨some_, dash, head⟩, split]
    simp only [Option.bind_eq_bind, Option.bind_some, parseI64_toString]
  · have head : range.toList.head? = some '-' := by
      rw [first]
      exact negative_head (not_le.mp positive)
    rw [if_neg fun ok => ok.2.2 head, if_neg fun ok => positive ok.1]

/-! ## Reading a header back -/

theorem fractionDigits_range {width frac : Nat} (small : frac < 10 ^ width) :
    ∀ k ∈ UserStore.fractionDigits width frac, 48 ≤ k ∧ k < 58 := by
  induction width generalizing frac with
  | zero => exact fun k mem => absurd mem List.not_mem_nil
  | succ n ih =>
      rw [UserStore.fractionDigits]
      split
      · exact fun k mem => absurd mem List.not_mem_nil
      · have digit : frac / 10 ^ n < 10 := Nat.div_lt_of_lt_mul (pow_succ 10 n ▸ small)
        intro k mem
        obtain rfl | mem := List.mem_cons.mp mem
        · exact ⟨Nat.le_add_left 48 _, Nat.add_lt_add_right digit 48⟩
        · exact ih (Nat.mod_lt frac (by positivity)) k mem

/-- The ends of a line. -/
def EndsLine (c : Char) : Prop := c = '\n' ∨ c = '\r'

theorem toRfc3339_clean {c : Char} (ends : EndsLine c) (t : Timestamp) :
    c ∉ (toRfc3339 t).toList := by
  have sign : c ≠ '-' := by obtain rfl | rfl := ends <;> decide
  have digit : ¬c.isDigit := by obtain rfl | rfl := ends <;> decide
  have marks : c ∉ ['T', 'Z', ':', '.'] := by obtain rfl | rfl := ends <;> decide
  have clean := zeroPadded_clean sign digit
  have small : (t % Calendar.nanosPerSecond).toNat < 10 ^ 9 := by
    unfold Calendar.nanosPerSecond
    omega
  have fraction : c ∉ (UserStore.fractionDigits 9 (t % Calendar.nanosPerSecond).toNat).map
      Char.ofNat := by
    intro mem
    obtain ⟨k, inside, rfl⟩ := List.mem_map.mp mem
    obtain ⟨low, high⟩ := fractionDigits_range small k inside
    have all : ∀ k < 58, 48 ≤ k → (Char.ofNat k).isDigit := by decide
    exact digit (all k high low)
  simp only [List.mem_cons, List.not_mem_nil, or_false, not_or] at marks
  obtain ⟨letterT, letterZ, colon, dot⟩ := marks
  unfold toRfc3339
  dsimp only
  split
  · simp [clean, sign, letterT, letterZ, colon]
  · simp [clean, sign, letterT, letterZ, colon, dot, fraction]

theorem headRange_cons {l rest : String} (plain : '\n' ∉ l.toList) (plain' : '\r' ∉ l.toList)
    (sharp : l.toList.head? = some '#') :
    headRange (l ++ "\n" ++ rest) = (parseHeaderRange l).or (headRange rest) := by
  have kept : decide (l.toList.head? = some '#') = true := decide_eq_true sharp
  rw [headRange, strLines_cons plain plain', List.takeWhile_cons, kept, if_pos rfl,
    List.findSome?_cons]
  cases parseHeaderRange l with
  | none => rfl
  | some last => rfl

theorem headRange_join {ls : List String} (body : String)
    (clean : ∀ l ∈ ls, '\n' ∉ l.toList ∧ '\r' ∉ l.toList ∧ l.toList.head? = some '#') :
    headRange (String.join (ls.map fun line => line ++ "\n") ++ body) =
      (ls.findSome? parseHeaderRange).or (headRange body) := by
  induction ls with
  | nil =>
      rw [List.map_nil, String.join_nil, String.empty_append]
      rfl
  | cons l ls ih =>
      obtain ⟨⟨plain, plain', sharp⟩, clean⟩ := List.forall_mem_cons.mp clean
      rw [List.map_cons, String.join_cons, String.append_assoc, headRange_cons plain plain' sharp,
        ih clean, List.findSome?_cons]
      cases parseHeaderRange l with
      | none => rfl
      | some last => rfl

theorem taken_clean {c : Char} (ends : EndsLine c) (now : Timestamp) :
    c ∉ ("# taken: " ++ toRfc3339 now).toList := by
  have word : c ∉ "# taken: ".toList := by obtain rfl | rfl := ends <;> decide
  rw [String.toList_append]
  exact fun mem => (List.mem_append.mp mem).elim word (toRfc3339_clean ends now)

theorem entriesLine_clean {c : Char} (ends : EndsLine c) (count : UInt64) (firstId lastId : Int64) :
    c ∉ (entriesLine count firstId lastId).toList := by
  have number (n : Int) : c ∉ (toString n).toList := by
    intro mem
    obtain same | digit := Text.number_plain n c mem
    · obtain rfl | rfl := ends <;> cases same
    · obtain rfl | rfl := ends <;> cases digit
  have start : c ∉ "# entries: ".toList := by obtain rfl | rfl := ends <;> decide
  have ids : c ∉ " (ids ".toList := by obtain rfl | rfl := ends <;> decide
  have dash : c ∉ "-".toList := by obtain rfl | rfl := ends <;> decide
  have stop : c ∉ ")".toList := by obtain rfl | rfl := ends <;> decide
  unfold entriesLine
  simp only [String.toList_append, List.mem_append, not_or]
  exact ⟨⟨⟨⟨⟨⟨start, number count.toNat⟩, ids⟩, number firstId.toInt⟩, dash⟩, number lastId.toInt⟩,
    stop⟩

theorem headerLines_clean (count : UInt64) (firstId lastId : Int64) (now : Timestamp) :
    ∀ l ∈ headerLines count firstId lastId (toRfc3339 now),
      '\n' ∉ l.toList ∧ '\r' ∉ l.toList ∧ l.toList.head? = some '#' := by
  have sharp (word rest : String) (first : word.toList.head? = some '#') :
      (word ++ rest).toList.head? = some '#' := by
    rw [String.toList_append, List.head?_append, first]
    rfl
  simp only [headerLines, List.forall_mem_cons]
  refine ⟨by decide +kernel, ⟨taken_clean (.inl rfl) now, taken_clean (.inr rfl) now, ?_⟩,
    ⟨entriesLine_clean (.inl rfl) count firstId lastId,
      entriesLine_clean (.inr rfl) count firstId lastId, ?_⟩, by decide +kernel, by decide +kernel,
    by decide +kernel, fun _ mem => absurd mem List.not_mem_nil⟩
  · exact sharp "# taken: " _ rfl
  · unfold entriesLine
    simp only [String.append_assoc]
    exact sharp "# entries: " _ rfl

theorem parseHeaderRange_other {l : String} (other : Text.stripPrefix "# entries: " l = none) :
    parseHeaderRange l = none := by
  rw [parseHeaderRange, other]
  rfl

theorem parseHeaderRange_taken (takenAt : String) :
    parseHeaderRange ("# taken: " ++ takenAt) = none := by
  have differs : "# entries: ".toList.isPrefixOf ("# taken: ".toList ++ takenAt.toList) = false :=
    rfl
  apply parseHeaderRange_other
  rw [Text.stripPrefix, String.toList_append, differs]
  rfl

theorem headRange_header (count : UInt64) (firstId lastId : Int64) (now : Timestamp)
    (body : String) :
    headRange (header count firstId lastId (toRfc3339 now) ++ body) =
      if 0 ≤ firstId.toInt ∧ firstId.toInt ≤ lastId.toInt then some lastId.toInt
      else headRange body := by
  have first : parseHeaderRange "# Supply Drop BBS audit log archive" = none := by decide +kernel
  have columns : parseHeaderRange
      "# columns: id\\tcreated_at\\tactor\\taction\\ttarget\\tdetail" = none := by decide +kernel
  have note : parseHeaderRange
      "# '-' means the field was empty. Tabs and newlines inside a field are" = none := by
    decide +kernel
  have rule : parseHeaderRange
      "# written as \\t and \\n so one entry is always one line." = none := by decide +kernel
  rw [header, headRange_join body (headerLines_clean count firstId lastId now)]
  simp only [headerLines, List.findSome?_cons, List.findSome?_nil, first, columns, note, rule,
    parseHeaderRange_taken, parseHeaderRange_entriesLine]
  by_cases good : 0 ≤ firstId.toInt ∧ firstId.toInt ≤ lastId.toInt
  · rw [if_pos good, if_pos good]
    rfl
  · rw [if_neg good, if_neg good]
    rfl

/-! ## Names of archives -/

/-- The test between the fixed parts of a name. -/
def stemOk (stem : String) : Bool :=
  let bytes := asBytes stem
  if bytes.length ≠ 7 ∨ bytes[4]? ≠ some 0x2D then false
  else if !(bytes.zipIdx.all fun b => if b.2 = 4 then true else isAsciiDigit b.1) then false
  else match parseUnsigned 32 (String.ofList (stem.toList.drop 5)) with
    | some month => 1 ≤ month && month ≤ 12
    | none => false

theorem isAuditArchive_stem {name : String} :
    isAuditArchive name = true ↔ ∃ stem, name = "audit-" ++ (stem ++ ".zip") ∧ stemOk stem = true := by
  constructor
  · intro accepted
    unfold isAuditArchive at accepted
    split at accepted
    · cases accepted
    · next rest front =>
      split at accepted
      · cases accepted
      · next stem back =>
        rw [Text.stripSuffix_some.mp back] at front
        exact ⟨stem, Text.stripPrefix_some.mp front, accepted⟩
  · rintro ⟨stem, rfl, ok⟩
    unfold isAuditArchive
    rw [Text.stripPrefix_append]
    dsimp only
    rw [Text.stripSuffix_append]
    exact ok

theorem isAsciiDigit_char {c : Char} (ascii : c.toNat < 0x80) :
    isAsciiDigit (UInt8.ofNat c.toNat) = c.isDigit := by
  have byte : (UInt8.ofNat c.toNat).toNat = c.toNat := by
    rw [UInt8.toNat_ofNat']
    omega
  rw [Bool.eq_iff_iff]
  simp only [isAsciiDigit, Char.isDigit, Bool.and_eq_true, decide_eq_true_eq, ge_iff_le,
    UInt8.le_iff_toNat_le, UInt32.le_iff_toNat_le, byte]
  exact Iff.rfl

theorem byte_dash {c : Char} (ascii : c.toNat < 0x80) : UInt8.ofNat c.toNat = 0x2D ↔ c = '-' := by
  have byte : (UInt8.ofNat c.toNat).toNat = c.toNat := by
    rw [UInt8.toNat_ofNat']
    omega
  rw [← UInt8.toNat_inj, byte, ← Char.toNat_inj]
  exact Iff.rfl

theorem parseUnsigned_digits {bits : Nat} {cs : List Char} (digits : ∀ c ∈ cs, c.isDigit)
    (some_ : cs ≠ []) (small : Nat.ofDigitChars 10 cs 0 < 2 ^ bits) :
    parseUnsigned bits (String.ofList cs) = some (Nat.ofDigitChars 10 cs 0) := by
  have sign : ¬(String.ofList cs).toList.head? = some '-' := by
    rw [String.toList_ofList]
    intro first
    exact absurd (digits '-' (List.mem_of_mem_head? first)) (by decide)
  rw [parseUnsigned, if_neg sign, Text.parseInt_digits digits some_, Option.bind_some,
    if_pos (by exact_mod_cast small), Int.toNat_natCast]

theorem stemOk_chars {stem : String} {a b c d e f g : Char}
    (chars : stem.toList = [a, b, c, d, e, f, g]) (ascii : ∀ x ∈ stem.toList, x.toNat < 0x80) :
    stemOk stem = true ↔ (∀ x ∈ [a, b, c, d], x.isDigit) ∧ e = '-' ∧ (∀ x ∈ [f, g], x.isDigit) ∧
      1 ≤ Nat.ofDigitChars 10 [f, g] 0 ∧ Nat.ofDigitChars 10 [f, g] 0 ≤ 12 := by
  have bytes := asBytes_ascii ascii
  rw [chars] at bytes ascii
  simp only [List.forall_mem_cons] at ascii
  obtain ⟨ha, hb, hc, hd, he, hf, hg, -⟩ := ascii
  have checked : stemOk stem =
      if e ≠ '-' then false
      else if !((a.isDigit && (b.isDigit && (c.isDigit && d.isDigit))) && (f.isDigit && g.isDigit))
      then false
      else match parseUnsigned 32 (String.ofList [f, g]) with
        | some month => 1 ≤ month && month ≤ 12
        | none => false := by
    unfold stemOk
    simp [bytes, chars, List.zipIdx_cons, isAsciiDigit_char, byte_dash, ha, hb, hc, hd, he, hf, hg,
      Bool.and_assoc]
  have digits : ((a.isDigit && (b.isDigit && (c.isDigit && d.isDigit))) &&
      (f.isDigit && g.isDigit)) = true ↔
        (∀ x ∈ [a, b, c, d], x.isDigit) ∧ ∀ x ∈ [f, g], x.isDigit := by
    simp
  rw [checked]
  by_cases dash : e = '-'
  · rw [if_neg (not_not.mpr dash)]
    by_cases all : (∀ x ∈ [a, b, c, d], x.isDigit) ∧ ∀ x ∈ [f, g], x.isDigit
    · have small : Nat.ofDigitChars 10 [f, g] 0 < 2 ^ 32 :=
        (Text.ofDigitChars_lt all.2).trans (show 10 ^ 2 < 2 ^ 32 by decide)
      rw [digits.mpr all, parseUnsigned_digits all.2 (List.cons_ne_nil _ _) small]
      simp [all, dash]
    · rw [Bool.eq_false_iff.mpr (mt digits.mp all)]
      exact iff_of_false nofun fun ok => all ⟨ok.1, ok.2.2.1⟩
  · rw [if_pos dash]
    exact iff_of_false nofun fun ok => dash ok.2.1

theorem stemOk_bytes {stem : String} (ok : stemOk stem = true) :
    (asBytes stem).length = 7 ∧ ∀ b ∈ asBytes stem, b < 0x80 := by
  unfold stemOk at ok
  dsimp only at ok
  split_ifs at ok with shape others
  push Not at shape
  simp only [Bool.not_eq_true', Bool.not_eq_false] at others
  refine ⟨shape.1, fun b mem => ?_⟩
  obtain ⟨i, inside, rfl⟩ := List.mem_iff_getElem.mp mem
  have pair : ((asBytes stem)[i], i) ∈ (asBytes stem).zipIdx :=
    List.mem_zipIdx_iff_getElem?.mpr (List.getElem?_eq_getElem inside)
  have tested := List.all_eq_true.mp others _ pair
  dsimp only at tested
  by_cases dash : i = 4
  · subst dash
    rw [List.getElem?_eq_getElem inside] at shape
    rw [Option.some.inj shape.2]
    decide
  · rw [if_neg dash] at tested
    have high := of_decide_eq_true (Bool.and_eq_true _ _ ▸ tested : _ ∧ _).2
    exact UInt8.lt_of_le_of_lt high (by decide)

theorem archiveName_stem (year month : Nat) : archiveName year month =
    "audit-" ++ (Text.zeroPadded 4 year ++ "-" ++ Text.zeroPadded 2 month ++ ".zip") := by
  unfold archiveName
  simp only [String.append_assoc]

theorem stem_toList {year month : Nat} (years : year ≤ 9999) (months : month ≤ 12) :
    (Text.zeroPadded 4 year ++ "-" ++ Text.zeroPadded 2 month).toList =
      Text.digits 4 year ++ '-' :: Text.digits 2 month := by
  rw [String.toList_append, String.toList_append, Text.zeroPadded_toList (by omega),
    Text.zeroPadded_toList (by omega), List.append_assoc]
  rfl

theorem isAuditArchive_iff (name : String) :
    isAuditArchive name = true ↔
      ∃ year month : Nat, year ≤ 9999 ∧ 1 ≤ month ∧ month ≤ 12 ∧ name = archiveName year month := by
  rw [isAuditArchive_stem]
  constructor
  · rintro ⟨stem, rfl, ok⟩
    obtain ⟨length, low⟩ := stemOk_bytes ok
    have ascii := ascii_of_asBytes low
    rw [asBytes_ascii ascii, List.length_map] at length
    match chars : stem.toList, length with
    | [a, b, c, d, e, f, g], _ =>
        obtain ⟨years, rfl, months, first, last⟩ := (stemOk_chars chars ascii).mp ok
        have small : Nat.ofDigitChars 10 [a, b, c, d] 0 < 10 ^ 4 := Text.ofDigitChars_lt years
        have front : Text.digits 4 (Nat.ofDigitChars 10 [a, b, c, d] 0) = [a, b, c, d] :=
          Text.digits_ofDigitChars years
        have back : Text.digits 2 (Nat.ofDigitChars 10 [f, g] 0) = [f, g] :=
          Text.digits_ofDigitChars months
        refine ⟨_, _, Nat.le_of_lt_succ small, first, last, ?_⟩
        rw [archiveName_stem]
        congr 2
        apply String.toList_inj.mp
        rw [stem_toList (Nat.le_of_lt_succ small) last, chars, front, back]
        rfl
  · rintro ⟨year, month, years, first, last, rfl⟩
    refine ⟨_, archiveName_stem year month, ?_⟩
    have chars := stem_toList years last
    have left := Text.digits_isDigit 4 year
    have right := Text.digits_isDigit 2 month
    have value : Nat.ofDigitChars 10 (Text.digits 2 month) 0 = month :=
      Text.ofDigitChars_digits (by omega)
    match shape : Text.digits 4 year, Text.length_digits 4 year, shape' : Text.digits 2 month,
      Text.length_digits 2 month with
    | [a, b, c, d], _, [f, g], _ =>
        rw [shape] at chars left
        rw [shape'] at chars right value
        apply (stemOk_chars chars ?_).mpr
        · exact ⟨left, rfl, right, by omega, by omega⟩
        · rw [chars]
          intro x mem
          have small (digit : x.isDigit) : x.toNat < 0x80 := by
            have := (Text.digitChar_isDigit digit).1
            omega
          obtain mem | mem := List.mem_append.mp mem
          · exact small (left x mem)
          · obtain rfl | mem := List.mem_cons.mp mem
            · decide
            · exact small (right x mem)

/-! ## The format -/

theorem audit_archive_format :
    (∀ e : AdminAuditEntry, Stamped e.createdAt →
        '\n' ∉ (formatEntry e).toList ∧ (formatEntry e).toList.count '\t' = 5 ∧
          (e.Plain → readEntry (formatEntry e) = some e.text)) ∧
      (∀ a b : AdminAuditEntry, Stamped a.createdAt → Stamped b.createdAt → a.Plain → b.Plain →
        (formatEntry a = formatEntry b ↔ a.text = b.text)) ∧
      (∀ (count : UInt64) (firstId lastId : Int64) (now : Timestamp),
        headRange (header count firstId lastId (toRfc3339 now)) =
          if 0 ≤ firstId.toInt ∧ firstId.toInt ≤ lastId.toInt then some lastId.toInt else none) ∧
      ∀ name, isAuditArchive name = true ↔
        ∃ year month : Nat, year ≤ 9999 ∧ 1 ≤ month ∧ month ≤ 12 ∧ name = archiveName year month := by
  refine ⟨fun e stamped => ?_, fun a b => formatEntry_eq_iff, fun count firstId lastId now => ?_,
    isAuditArchive_iff⟩
  · obtain ⟨line, tabs⟩ := formatEntry_line stamped
    exact ⟨line, tabs, readEntry_formatEntry stamped⟩
  · have read := headRange_header count firstId lastId now ""
    rwa [String.append_empty] at read

/-- An entry without a target. -/
def untargeted : AdminAuditEntry :=
  ⟨7, "web:alice", "set_access_policy", none, some "guest\tread\\", "2026-09-01T00:00:00Z"⟩

theorem audit_archive_format_untargeted :
    (formatEntry untargeted).toList.count '\t' = 5 ∧
      readEntry (formatEntry untargeted) = some untargeted.text :=
  have format := audit_archive_format.1 untargeted ⟨by decide, by decide⟩
  ⟨format.2.1, format.2.2 ⟨by decide, by decide, by decide, by decide⟩⟩

/-- A target that is absent, and one that is empty. -/
theorem empty_target_lost :
    ∃ a b : AdminAuditEntry, a ≠ b ∧ formatEntry a = formatEntry b :=
  ⟨untargeted, { untargeted with target := some "" }, by decide, rfl⟩

end SupplyDrop.Host.AuditText
