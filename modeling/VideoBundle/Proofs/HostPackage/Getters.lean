import Mathlib.Data.List.Infix
import VideoBundle.HostPackage.Forwarder
import VideoBundle.Proofs.Json.Ascii
import VideoBundle.Text.Lines

/-!
# Getters of host packages

A forwarding module goes through a list of names and makes a getter for each.  The list is written as a
JSON text at the start of a line of its code, from where it can be read back: lines are told apart
because no written text holds a line feed, and the line is known by how it ends.

Main results:

- `decode_literalList`: a written list of texts is read back.
- `splitWhere_joinLines`: lines without line feeds are told apart again.
- `getters?_forwarder`: the names for which a forwarding module makes getters, read off its code.
-/

namespace VideoBundle

/-! ## Written texts and lines -/

/-- A written text stands on one line. -/
theorem newline_not_mem_literal (s : String) : '\n' ∉ (Json.literal s).toList := by
  rw [Json.literal, String.toList_ofList]
  exact Json.newline_not_mem_write (.text (UnitText.ofString s))

/-- A written list of texts stands on one line. -/
theorem newline_not_mem_literalList (items : List String) :
    '\n' ∉ (Json.literalList items).toList := by
  rw [Json.literalList, Json.encode, String.toList_ofList]
  exact Json.newline_not_mem_write _

/-- A written list of texts is read back. -/
theorem decode_literalList (items : List String) :
    Json.decode (Json.literalList items) = .ok (.list (items.map .text)) := by
  refine Json.decode_encode _ ?_ ?_
  · rw [Value.isWritable_list_iff, List.forall_mem_map]
    exact fun _ _ => rfl
  · rw [Value.hasDistinctKeys_list_iff, List.forall_mem_map]
    exact fun _ _ => trivial

/-- Lines without line feeds are told apart again. -/
theorem splitWhere_joinLines {lines : List String} (hne : lines ≠ [])
    (h : ∀ line ∈ lines, '\n' ∉ line.toList) :
    Text.splitWhere (· = '\n') (joinLines lines).toList = lines.map String.toList := by
  rw [joinLines, String.toList_intercalate]
  refine Text.splitWhere_intercalate (by decide) (by simpa using hne) ?_
  rw [List.forall_mem_map]
  intro line hline c hc
  refine decide_eq_false ?_
  rintro rfl
  exact h line hline hc

/-! ## The code of a forwarding module -/

namespace HostPackage

/-- What follows the list of names in the line that makes the getters. -/
def getterLoop : List Char := ".forEach(function (name) \x7b".toList

/-- The list of texts that a line goes through to make getters. -/
def loopedNames? (line : List Char) : Option (List String) :=
  match line.dropSuffix? getterLoop with
  | none => none
  | some list =>
      match Json.decode (String.ofList list) with
      | .ok (.list items) => items.mapM Value.text?
      | _ => none

/-- The names for which a forwarding module makes getters, read off its code. -/
def getters? (code : String) : Option (List String) :=
  (Text.splitWhere (· = '\n') code.toList).findSome? loopedNames?

theorem getLast?_getterLoop : getterLoop.getLast? = some '\x7b' := by decide +kernel

/-- A line that ends in a semicolon makes no getters. -/
theorem loopedNames?_semicolon {line : List Char} (h : line.getLast? = some ';') :
    loopedNames? line = none := by
  cases hdrop : line.dropSuffix? getterLoop with
  | none => rw [loopedNames?, hdrop]
  | some list =>
      obtain ⟨tail, heq, htail⟩ := List.dropSuffix?_eq_some_iff.1 hdrop
      rw [heq, eq_of_beq htail, List.getLast?_append, getLast?_getterLoop] at h
      simp at h

/-- A list of texts is read back as the names in it. -/
theorem mapM_text? (names : List String) : (names.map Value.text).mapM Value.text? = some names := by
  induction names with
  | nil => rfl
  | cons name names ih => rw [List.map_cons, List.mapM_cons, ih]; rfl

/-- The line with the list of names makes the getters. -/
theorem loopedNames?_literalList (names : List String) :
    loopedNames? ((Json.literalList names).toList ++ getterLoop) = some names := by
  have hdrop : ((Json.literalList names).toList ++ getterLoop).dropSuffix? getterLoop =
      some (Json.literalList names).toList :=
    List.dropSuffix?_eq_some_iff.2 ⟨getterLoop, rfl, beq_self_eq_true _⟩
  simp only [loopedNames?, hdrop, String.ofList_toList, decode_literalList, mapM_text?]

/-- The names for which a forwarding module makes getters are those for which it was written. -/
theorem getters?_forwarder (name : String) (names : List String) :
    getters? (forwarder name names) = some (forwardedNames names) := by
  have hends : ∀ s t : String, t.toList.getLast? = some ';' →
      loopedNames? (s ++ t).toList = none := by
    intro s t ht
    apply loopedNames?_semicolon
    rw [String.toList_append, List.getLast?_append, ht, Option.some_or]
  rw [getters?, forwarder, splitWhere_joinLines (List.cons_ne_nil _ _)]
  · -- Four lines stand in front of the one that makes the getters.
    have hproperty : loopedNames?
        "Object.defineProperty(exports, \"__esModule\", \x7b value: true \x7d);".toList = none :=
      loopedNames?_semicolon (by decide +kernel)
    have hmaker : loopedNames? (Json.literalList (forwardedNames names) ++
        ".forEach(function (name) \x7b").toList = some (forwardedNames names) := by
      rw [String.toList_append]
      exact loopedNames?_literalList _
    simp only [List.map_cons, List.findSome?_cons, hends _ ";" (by decide +kernel),
      hends _ "] : undefined;" (by decide +kernel), hends _ ");" (by decide +kernel), hproperty,
      hmaker]
  · simp only [List.forall_mem_cons, String.toList_append, List.mem_append, not_or]
    refine ⟨?_, ⟨⟨?_, newline_not_mem_literal _⟩, ?_⟩, ⟨⟨?_, newline_not_mem_literal _⟩, ?_⟩, ?_,
      ⟨newline_not_mem_literalList _, ?_⟩, ?_, ?_, ?_, ?_, ?_, ?_,
      List.forall_mem_nil _⟩ <;> decide +kernel

end HostPackage

end VideoBundle
