import VideoBundle.Value.Basic
import VideoBundle.Text.Quoted

/-!
# Display of values

How values appear in messages.  Texts are quoted, lists stand in square brackets, objects in braces;
null and the truth values are capitalised words.
-/

namespace VideoBundle
namespace Value

variable {τ : Type}

/-- The word for the kind of a value. -/
def kindName : Value τ → String
  | null => "NoneType"
  | bool _ => "bool"
  | number (.int _) => "int"
  | number (.float _) => "float"
  | text _ => "str"
  | list _ => "list"
  | object _ => "dict"

mutual

/-- The display of a value. -/
def display : Value String → List Char
  | null => "None".toList
  | bool b => (if b then "True" else "False").toList
  | number n => n.display
  | text t => Text.quoted t.toList
  | list items => '[' :: (displayItems items ++ [']'])
  | object entries => '{' :: (displayEntries entries ++ ['}'])

/-- The displays of list items, with commas between them. -/
def displayItems : List (Value String) → List Char
  | [] => []
  | [v] => display v
  | v :: w :: vs => display v ++ ", ".toList ++ displayItems (w :: vs)

/-- The displays of object entries, with commas between them. -/
def displayEntries : List (String × Value String) → List Char
  | [] => []
  | [(k, v)] => Text.quoted k.toList ++ ": ".toList ++ display v
  | (k, v) :: e :: es =>
      Text.quoted k.toList ++ ": ".toList ++ display v ++ ", ".toList ++ displayEntries (e :: es)

end

mutual

/-- Whether all numbers in a value can be written, without which the value has no display. -/
def isWritable : Value τ → Bool
  | number n => n.isWritable
  | list items => areWritableItems items
  | object entries => areWritableEntries entries
  | _ => true

/-- Whether all numbers in list items can be written. -/
def areWritableItems : List (Value τ) → Bool
  | [] => true
  | v :: vs => isWritable v && areWritableItems vs

/-- Whether all numbers in object entries can be written. -/
def areWritableEntries : List (τ × Value τ) → Bool
  | [] => true
  | (_, v) :: es => isWritable v && areWritableEntries es

end

/-- The display of a value as a string. -/
def displayText (v : Value String) : String := String.ofList v.display

/-- A text itself, and the display of any other value. -/
def plainText : Value String → String
  | text t => t
  | v => v.displayText

end Value
end VideoBundle
