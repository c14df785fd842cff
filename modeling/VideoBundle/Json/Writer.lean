import VideoBundle.Value.Basic
import VideoBundle.Text.Points
import VideoBundle.Text.Hex

/-!
# Writing JSON texts

Written texts are ASCII on one line: a comma and a colon are followed by a space, and every unit
outside printable ASCII is escaped.

Main results:

- `writeUnits_ascii`: a written text holds printable ASCII only.
-/

namespace VideoBundle
namespace Json

/-- One unit inside a written text. -/
def writeUnit (u : UInt16) : List Char :=
  if u = 0x22 then ['\\', '"']
  else if u = 0x5C then ['\\', '\\']
  else if u = 0xA then ['\\', 'n']
  else if u = 0xD then ['\\', 'r']
  else if u = 0x9 then ['\\', 't']
  else if u = 0xC then ['\\', 'f']
  else if u = 0x8 then ['\\', 'b']
  else if 0x20 ≤ u.toNat ∧ u.toNat ≤ 0x7E then [Char.ofNat u.toNat]
  else '\\' :: 'u' :: Text.hexNumeral Text.lowerHex 4 u.toNat

/-- A text in quotes. -/
def writeUnits (us : UnitText) : List Char :=
  '"' :: (us.flatMap writeUnit ++ ['"'])

/-- A number; the values that are not finite are names. -/
def writeNumber : Number → List Char
  | .int n => integerDigits n
  | .float .nan => "NaN".toList
  | .float (.infinite false) => "Infinity".toList
  | .float (.infinite true) => "-Infinity".toList
  | .float x => x.numeral

mutual

/-- The text of a value. -/
def write : Value UnitText → List Char
  | .null => "null".toList
  | .bool b => (if b then "true" else "false").toList
  | .number n => writeNumber n
  | .text us => writeUnits us
  | .list items => '[' :: (writeItems items ++ [']'])
  | .object entries => '{' :: (writeEntries entries ++ ['}'])

/-- The texts of list items, with commas between them. -/
def writeItems : List (Value UnitText) → List Char
  | [] => []
  | [v] => write v
  | v :: w :: vs => write v ++ ", ".toList ++ writeItems (w :: vs)

/-- The texts of object entries, with commas between them. -/
def writeEntries : List (UnitText × Value UnitText) → List Char
  | [] => []
  | [(k, v)] => writeUnits k ++ ": ".toList ++ write v
  | (k, v) :: e :: es => writeUnits k ++ ": ".toList ++ write v ++ ", ".toList ++ writeEntries (e :: es)

end

/-- The text of a value with texts as strings. -/
def encode (v : Value String) : String :=
  String.ofList (write (v.mapText UnitText.ofString))

/-- A string in quotes. -/
def literal (s : String) : String :=
  String.ofList (writeUnits (UnitText.ofString s))

/-- A list of strings. -/
def literalList (items : List String) : String :=
  encode (.list (items.map .text))

theorem ascii_hexDigit : ∀ n < 16, 0x20 ≤ (Text.hexDigit Text.lowerHex n).toNat ∧
    (Text.hexDigit Text.lowerHex n).toNat ≤ 0x7E := by
  decide

/-- A hex numeral is printable ASCII, at any width. -/
theorem ascii_hexNumeral (width n : Nat) :
    ∀ c ∈ Text.hexNumeral Text.lowerHex width n, 0x20 ≤ c.toNat ∧ c.toNat ≤ 0x7E := by
  induction width generalizing n with
  | zero => simp [Text.hexNumeral]
  | succ width ih =>
      intro c hc
      rw [Text.hexNumeral, List.mem_append, List.mem_singleton] at hc
      rcases hc with hc | rfl
      · exact ih (n / 16) c hc
      · have hmod : Text.hexDigit Text.lowerHex n = Text.hexDigit Text.lowerHex (n % 16) := by
          simp [Text.hexDigit]
        rw [hmod]
        exact ascii_hexDigit (n % 16) (Nat.mod_lt _ (by decide))

/-- A 16-bit unit is written in printable ASCII: what is not plain is escaped. -/
theorem ascii_writeUnit (u : UInt16) : ∀ c ∈ writeUnit u, 0x20 ≤ c.toNat ∧ c.toNat ≤ 0x7E := by
  intro c hc
  unfold writeUnit at hc
  split at hc
  · simp only [List.mem_cons, List.not_mem_nil, or_false] at hc
    rcases hc with rfl | rfl <;> decide
  split at hc
  · simp only [List.mem_cons, List.not_mem_nil, or_false] at hc
    rcases hc with rfl | rfl <;> decide
  split at hc
  · simp only [List.mem_cons, List.not_mem_nil, or_false] at hc
    rcases hc with rfl | rfl <;> decide
  split at hc
  · simp only [List.mem_cons, List.not_mem_nil, or_false] at hc
    rcases hc with rfl | rfl <;> decide
  split at hc
  · simp only [List.mem_cons, List.not_mem_nil, or_false] at hc
    rcases hc with rfl | rfl <;> decide
  split at hc
  · simp only [List.mem_cons, List.not_mem_nil, or_false] at hc
    rcases hc with rfl | rfl <;> decide
  split at hc
  · simp only [List.mem_cons, List.not_mem_nil, or_false] at hc
    rcases hc with rfl | rfl <;> decide
  split at hc
  · rename_i hrange
    rw [List.mem_singleton] at hc
    have hval : (Char.ofNat u.toNat).toNat = u.toNat := toNat_charOfNat (.inl (by omega))
    rw [hc, hval]
    exact hrange
  · rcases List.mem_cons.1 hc with rfl | hc
    · decide
    rcases List.mem_cons.1 hc with rfl | hc
    · decide
    exact ascii_hexNumeral 4 u.toNat c hc

/-- A written text holds printable ASCII only. -/
theorem writeUnits_ascii (us : UnitText) : ∀ c ∈ writeUnits us, 0x20 ≤ c.toNat ∧ c.toNat ≤ 0x7E := by
  intro c hc
  simp only [writeUnits, List.mem_cons, List.mem_append, List.mem_flatMap, List.not_mem_nil,
    or_false] at hc
  rcases hc with rfl | ⟨u, _, hu⟩ | rfl
  · decide
  · exact ascii_writeUnit u c hu
  · decide

end Json
end VideoBundle
