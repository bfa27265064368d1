import SupplyDrop.Host.Parse
import SupplyDrop.Proof.Accounts

namespace SupplyDrop.Proof.NewUsernames
open Library Store Host
variable {raw : String} {u : Username}

/-- What `Username` makes of a text before it looks at it. -/
def normalized (raw : String) : String :=
  Text.toAsciiLowercase ((Text.stripPrefix "@" raw).getD raw)

theorem tryFrom_ok : Username.tryFrom raw = .ok u ↔ normalized raw = u.text := by
  unfold Username.tryFrom
  dsimp only
  split
  · constructor
    · intro made
      exact congrArg Username.text (Except.ok.inj made)
    · intro same
      exact congrArg Except.ok (Username.ext_text same)
  · next e refused =>
    constructor
    · intro made
      cases made
    · intro same
      rw [← normalized, same, u.valid] at refused
      cases refused

theorem new_ok :
    Username.new raw = .ok u ↔ normalized raw = u.text ∧ u.text ≠ "bbs" ∧ u.text ≠ "system" := by
  rw [← tryFrom_ok, ← not_or]
  unfold Username.new
  cases Username.tryFrom raw with
  | error e => exact ⟨nofun, fun made => nomatch made.1⟩
  | ok name =>
      dsimp only
      split_ifs with reserved
      · refine ⟨nofun, fun ⟨same, free⟩ => ?_⟩
        cases same
        exact absurd reserved free
      · exact ⟨fun same => by cases same; exact ⟨rfl, reserved⟩, And.left⟩

theorem normalized_text (u : Username) : normalized u.text = u.text := tryFrom_ok.mp (tryFrom_text u)

/-! ## White space around a name -/

theorem toLower_whitespace {c : Char} (h : Text.isWhitespace c) : c.toLower = c := by
  have upper : ¬ (65 ≤ c.toNat ∧ c.toNat ≤ 90) := by
    simp only [Text.isWhitespace, Bool.or_eq_true, Bool.and_eq_true, decide_eq_true_eq] at h
    omega
  unfold Char.toLower
  rw [dif_neg]
  exact fun ⟨low, high⟩ => upper ⟨UInt32.le_iff_toNat_le.mp low, UInt32.le_iff_toNat_le.mp high⟩

theorem mem_stripped {c : Char} (other : c ≠ '@') (mem : c ∈ raw.toList) :
    c ∈ ((Text.stripPrefix "@" raw).getD raw).toList := by
  cases cut : Text.stripPrefix "@" raw with
  | none => exact mem
  | some rest =>
      rw [Text.stripPrefix_some.mp cut, String.toList_append, List.mem_append] at mem
      rcases mem with sign | mem
      · exact absurd (List.mem_singleton.mp sign) other
      · exact mem

/-- A text that makes a name without being trimmed has no white space. -/
theorem plain_of_normalized (made : normalized raw = u.text) :
    ∀ c ∈ raw.toList, Text.isWhitespace c = false := by
  intro c mem
  by_contra white
  rw [Bool.not_eq_false] at white
  have other : c ≠ '@' := by
    rintro rfl
    exact absurd white (by decide)
  have inside : c ∈ u.text.toList := by
    rw [← made, normalized, Text.toAsciiLowercase, String.toList_ofList]
    exact List.mem_map.mpr ⟨c, mem_stripped other mem, toLower_whitespace white⟩
  exact validateChars_plain u.valid c inside (by simp [white])

/-! ## New names -/

theorem validateNewUsername_ok (accepted : validateNewUsername raw = .ok u) :
    normalized (Text.trim raw) = u.text ∧ 3 ≤ u.text.toList.length ∧
      u.text ≠ "bbs" ∧ u.text ≠ "system" := by
  unfold validateNewUsername at accepted
  dsimp only at accepted
  rw [← normalized] at accepted
  split_ifs at accepted with none short bad ends
  have made : Username.new (normalized (Text.trim raw)) = .ok u := by
    cases made : Username.new (normalized (Text.trim raw)) with
    | error e => rw [made] at accepted; cases accepted
    | ok name => rw [made] at accepted; exact congrArg Except.ok (Except.ok.inj accepted)
  obtain ⟨same, free⟩ := new_ok.mp made
  have plain : '@' ∉ (normalized (Text.trim raw)).toList := by
    intro mem
    simp only [Bool.not_eq_true', Bool.not_eq_false, List.all_eq_true] at bad
    exact absurd (bad '@' mem) (by decide)
  rw [normalized, stripPrefix_at plain, Option.getD_none, normalized, Text.toAsciiLowercase_idem,
    ← normalized] at same
  exact ⟨same, same ▸ not_lt.mp short, free⟩

/-- What names promise of a text that is typed. -/
def Lawful (raw : String) : Prop :=
  (∀ u, Username.new raw = .ok u →
      Username.new u.text = .ok u ∧ Username.tryFrom u.text = .ok u) ∧
    ∀ u, validateNewUsername raw = .ok u →
      Username.new raw = .ok u ∧ Text.toAsciiLowercase u.text = u.text ∧ 3 ≤ u.text.toList.length ∧
        u.text ≠ "bbs" ∧ u.text ≠ "system"

theorem new_idempotent (made : Username.new raw = .ok u) : Username.new u.text = .ok u :=
  new_ok.mpr ⟨normalized_text u, (new_ok.mp made).2⟩

/-- An accepted name is what the text itself makes where there was nothing to trim. -/
theorem new_iff_trimmed (accepted : validateNewUsername raw = .ok u) :
    Username.new raw = .ok u ↔ Text.trim raw = raw := by
  obtain ⟨same, -, free⟩ := validateNewUsername_ok accepted
  constructor
  · intro made
    exact Text.trim_plain (plain_of_normalized (new_ok.mp made).1)
  · intro trimmed
    rw [trimmed] at same
    exact new_ok.mpr ⟨same, free⟩

theorem username_laws_iff (raw : String) :
    Lawful raw ↔ ((∃ u, validateNewUsername raw = .ok u) → Text.trim raw = raw) := by
  constructor
  · rintro lawful ⟨u, accepted⟩
    exact (new_iff_trimmed accepted).mp (lawful.2 u accepted).1
  · intro trimmed
    refine ⟨fun u made => ⟨new_idempotent made, tryFrom_text u⟩, fun u accepted => ?_⟩
    obtain ⟨-, long, free⟩ := validateNewUsername_ok accepted
    exact ⟨(new_iff_trimmed accepted).mpr (trimmed ⟨u, accepted⟩), u.lower, long, free⟩

theorem username_laws_fail : ¬ Lawful " alice" := by
  intro lawful
  have accepted : validateNewUsername " alice" = .ok .alice := by decide +kernel
  have made := (lawful.2 .alice accepted).1
  have refused : Username.new " alice" = .error (.disallowedCharacter ' ') := by decide +kernel
  rw [refused] at made
  cases made

end SupplyDrop.Proof.NewUsernames
