import Mathlib
import SupplyDrop.Transport.MeshCore
import SupplyDrop.Transport.Meshtastic

namespace SupplyDrop.Proof.ParserAgreement
open Library Store Host Transport

def stops (word : String) : Prop := word = "cancel" ∨ word = "stop"

instance (word : String) : Decidable (stops word) := inferInstanceAs (Decidable (_ ∨ _))

/-- The word a line is dispatched on. -/
def firstKeyword (text : String) : String :=
  Text.toAsciiLowercase (splitFirstWord (Text.trim text)).1

/-! ## The three tables -/

/-- A table of keywords with a row of its own for `cancel` and `stop`. -/
def withStop (keywords : String → String → Option String → Command) (text keyword : String)
    (rest : Option String) : Command :=
  if stops keyword then .cancel else keywords text keyword rest

theorem parseSetLevel_aide (rest : Option String) :
    parseSetLevel rest .aide =
      withUsername rest (.setUserLevel · .aide) (.help (some ".aide")) := rfl

theorem parseSetLevel_sysop (rest : Option String) :
    parseSetLevel rest .sysop =
      withUsername rest (.setUserLevel · .sysop) (.help (some ".sysop")) := rfl

theorem parseSetLevel_user (rest : Option String) :
    parseSetLevel rest .user =
      withUsername rest (.setUserLevel · .user) (.help (some ".user")) := rfl

theorem keyword_meshCore (text : String) {keyword : String} (rest : Option String)
    (register : keyword ≠ "register") (login : keyword ≠ "login") :
    MeshCore.parseKeyword text keyword rest = withStop Host.parseKeyword text keyword rest := by
  unfold MeshCore.parseKeyword withStop
  split
  case h_49 =>
    rw [if_neg (by rintro (rfl | rfl) <;> contradiction)]
    unfold Host.parseKeyword
    split
    all_goals first | contradiction | rfl
  case h_4 => exact absurd rfl register
  case h_5 => exact absurd rfl login
  case h_16 =>
    cases found : rest.bind Text.parseI64 <;>
      simp only [stops, Host.parseKeyword, String.reduceEq, or_self, if_false, found]
  all_goals simp only [stops, Host.parseKeyword, String.reduceEq, or_self, or_true, or_false,
    if_true, if_false, parseSetLevel_aide, parseSetLevel_sysop, parseSetLevel_user]

theorem keyword_meshtastic (text : String) {keyword : String} (rest : Option String)
    (register : keyword ≠ "register") (login : keyword ≠ "login") :
    Meshtastic.parseKeyword text keyword rest = withStop Host.parseKeyword text keyword rest := by
  unfold Meshtastic.parseKeyword withStop
  split
  case h_49 =>
    rw [if_neg (by rintro (rfl | rfl) <;> contradiction)]
    unfold Host.parseKeyword
    split
    all_goals first | contradiction | rfl
  case h_4 => exact absurd rfl register
  case h_5 => exact absurd rfl login
  case h_17 =>
    cases found : rest.bind Text.parseI64 <;>
      simp only [stops, Host.parseKeyword, String.reduceEq, or_self, if_false, found]
  all_goals simp only [stops, Host.parseKeyword, String.reduceEq, or_self, or_true, or_false,
    if_true, if_false, parseSetLevel_aide, parseSetLevel_sysop, parseSetLevel_user]

theorem keyword_stop (text : String) {keyword : String} (rest : Option String)
    (stop : stops keyword) : Host.parseKeyword text keyword rest = .unknown text := by
  rcases stop with rfl | rfl <;> rfl

/-! ## A whole line -/

/-- What every parser makes of a line before it looks at the keyword. -/
def parseLine (keywords : String → String → Option String → Command) (text : String)
    (awaitingReply : Bool) : Command :=
  if stops (Text.toAsciiLowercase text) then .cancel
  else if awaitingReply then .workflowReply text
  else if text.isEmpty then .unknown ""
  else keywords text (Text.toAsciiLowercase (splitFirstWord text).1) (splitFirstWord text).2

theorem parse_line (text : String) (a : Bool) :
    Command.parse text a = parseLine Host.parseKeyword (Text.trim text) a := by
  unfold Command.parse parseLine
  dsimp only
  by_cases whole : stops (Text.toAsciiLowercase (Text.trim text))
  · rw [if_pos whole]
    exact if_pos whole
  · rw [if_neg whole]
    exact if_neg whole

theorem parseTrimmed_line (keywords : String → String → Option String → Command) (text : String)
    (a : Bool) : parseTrimmed keywords text none a = some (parseLine keywords text a) := by
  unfold parseTrimmed parseLine
  dsimp only
  by_cases whole : stops (Text.toAsciiLowercase text)
  · rw [if_pos whole]
    exact if_pos whole
  · rw [if_neg whole]
    refine (if_neg whole).trans ?_
    cases a
    · rfl
    · rfl

theorem meshtastic_line (text : String) (a : Bool) :
    Meshtastic.parseCommand text none a =
      some (parseLine Meshtastic.parseKeyword (Text.trim text) a) :=
  parseTrimmed_line _ _ a

theorem meshCore_line {text : String} (a : Bool) (plain : '\x00' ∉ text.toList) :
    MeshCore.parseCommand text none a =
      some (parseLine MeshCore.parseKeyword (Text.trim text) a) := by
  have kept (l : List Char) (h : ∀ c ∈ l, c ∈ text.toList) :
      l.dropWhile (· = '\x00') = l := by
    cases l with
    | nil => rfl
    | cons c l =>
        rw [List.dropWhile_cons_of_neg]
        rintro nul
        have same : c = '\x00' := by simpa using nul
        exact plain (same ▸ h c List.mem_cons_self)
  have inside : ∀ c ∈ (Text.trim text).toList, c ∈ text.toList := fun c => Text.mem_trim
  have trimmed : ((Text.trim text).toList.dropWhile (· = '\x00')).rdropWhile (· = '\x00') =
      (Text.trim text).toList := by
    rw [kept _ inside, List.rdropWhile, kept, List.reverse_reverse]
    intro c hc
    exact inside c (List.mem_reverse.mp hc)
  unfold MeshCore.parseCommand
  dsimp only
  rw [trimmed, String.ofList_toList]
  exact parseTrimmed_line _ _ a

/-- A row for `cancel` and `stop` matters only to a line that goes on after the word. -/
theorem line_withStop_iff (text : String) (a : Bool) :
    parseLine (withStop Host.parseKeyword) text a = parseLine Host.parseKeyword text a ↔
      a = true ∨ ¬ stops (Text.toAsciiLowercase (splitFirstWord text).1) ∨
        stops (Text.toAsciiLowercase text) := by
  unfold parseLine
  by_cases whole : stops (Text.toAsciiLowercase text)
  · simp [whole]
  · cases a with
    | true => simp [whole]
    | false =>
        simp only [whole, Bool.false_eq_true, if_false, false_or, or_false]
        by_cases stop : stops (Text.toAsciiLowercase (splitFirstWord text).1)
        · have more : text.isEmpty = false := by
            by_contra empty
            have none : text = "" := by simpa using empty
            subst none
            revert stop
            decide
          simp [more, withStop, stop, keyword_stop]
        · simp [withStop, stop]

theorem line_congr {keywords keywords' : String → String → Option String → Command} (text : String)
    (a : Bool)
    (same : ∀ rest, keywords text (Text.toAsciiLowercase (splitFirstWord text).1) rest =
      keywords' text (Text.toAsciiLowercase (splitFirstWord text).1) rest) :
    parseLine keywords text a = parseLine keywords' text a := by
  simp only [parseLine, same]

theorem parsers_agree_iff (text : String) (a : Bool) (plain : '\x00' ∉ text.toList)
    (register : firstKeyword text ≠ "register") (login : firstKeyword text ≠ "login") :
    (MeshCore.parseCommand text none a = some (Command.parse text a) ∧
      Meshtastic.parseCommand text none a = some (Command.parse text a)) ↔
      a = true ∨ ¬ stops (firstKeyword text) ∨
        stops (Text.toAsciiLowercase (Text.trim text)) := by
  have core := line_congr (Text.trim text) a fun rest =>
    keyword_meshCore (Text.trim text) rest register login
  have tastic := line_congr (Text.trim text) a fun rest =>
    keyword_meshtastic (Text.trim text) rest register login
  rw [meshCore_line a plain, meshtastic_line, parse_line, core, tastic, and_self,
    Option.some.injEq]
  exact line_withStop_iff (Text.trim text) a

theorem parsers_agree_timeout :
    MeshCore.parseCommand "TimeOut bob 3" none false = some (Command.parse "TimeOut bob 3" false) ∧
      Meshtastic.parseCommand "TimeOut bob 3" none false =
        some (Command.parse "TimeOut bob 3" false) := by
  apply (parsers_agree_iff "TimeOut bob 3" false ?_ ?_ ?_).mpr
  all_goals decide +kernel

/-- The radios cancel; the canonical parser does not know the command. -/
theorem parsers_disagree :
    ¬ ∀ (text : String) (a : Bool), '\x00' ∉ text.toList → firstKeyword text ≠ "register" →
      firstKeyword text ≠ "login" →
      MeshCore.parseCommand text none a = some (Command.parse text a) ∧
        Meshtastic.parseCommand text none a = some (Command.parse text a) := by
  intro agree
  have same := (agree "cancel now" false (by decide +kernel) (by decide +kernel)
    (by decide +kernel)).1
  revert same
  decide +kernel

end SupplyDrop.Proof.ParserAgreement
