import VideoBundle.Number.Basic
import VideoBundle.OrderedMap

/-!
# Values

A value is what a request or a data file can hold: nothing, a truth value, a number, a text, a list,
or an object whose entries keep their order.  The type of texts is a parameter, because data files can
hold texts that are no `String`.

Main results:

- `mapText_mapText`: changing texts twice is changing them once.
- `mapText_eq_self_of_texts`: changing none of the texts of a value changes nothing.
-/

namespace VideoBundle

/-- A value with texts of type `τ`. -/
inductive Value (τ : Type) where
  | null
  | bool (b : Bool)
  | number (n : Number)
  | text (t : τ)
  | list (items : List (Value τ))
  | object (entries : List (τ × Value τ))

/-- Entries of an object with texts as strings. -/
abbrev Fields := List (String × Value String)

namespace Value

variable {σ τ ρ : Type}

/-! ## Changing texts -/

mutual

/-- The value with `f` applied to every text and every key. -/
def mapText (f : σ → τ) : Value σ → Value τ
  | null => null
  | bool b => bool b
  | number n => number n
  | text t => text (f t)
  | list items => list (mapTextItems f items)
  | object entries => object (mapTextEntries f entries)

/-- `mapText` on the items of a list. -/
def mapTextItems (f : σ → τ) : List (Value σ) → List (Value τ)
  | [] => []
  | v :: vs => mapText f v :: mapTextItems f vs

/-- `mapText` on the entries of an object. -/
def mapTextEntries (f : σ → τ) : List (σ × Value σ) → List (τ × Value τ)
  | [] => []
  | (k, v) :: es => (f k, mapText f v) :: mapTextEntries f es

end

mutual

/-- Changing texts twice is changing them once. -/
theorem mapText_mapText (f : σ → τ) (g : τ → ρ) (v : Value σ) :
    mapText g (mapText f v) = mapText (fun t => g (f t)) v := by
  cases v with
  | null => rfl
  | bool b => rfl
  | number n => rfl
  | text t => rfl
  | list items => simp only [mapText, mapTextItems_mapTextItems f g items]
  | object entries => simp only [mapText, mapTextEntries_mapTextEntries f g entries]

/-- Mapping items twice is mapping them once. -/
theorem mapTextItems_mapTextItems (f : σ → τ) (g : τ → ρ) (vs : List (Value σ)) :
    mapTextItems g (mapTextItems f vs) = mapTextItems (fun t => g (f t)) vs := by
  cases vs with
  | nil => rfl
  | cons v vs =>
      simp only [mapTextItems, mapText_mapText f g v, mapTextItems_mapTextItems f g vs]

theorem mapTextEntries_mapTextEntries (f : σ → τ) (g : τ → ρ) (es : List (σ × Value σ)) :
    mapTextEntries g (mapTextEntries f es) = mapTextEntries (fun t => g (f t)) es := by
  cases es with
  | nil => rfl
  | cons e es =>
      obtain ⟨k, v⟩ := e
      simp only [mapTextEntries, mapText_mapText f g v, mapTextEntries_mapTextEntries f g es]

end

mutual

/-- The texts of a value, its keys among them. -/
def texts : Value τ → List τ
  | text t => [t]
  | list items => textsOfItems items
  | object entries => textsOfEntries entries
  | _ => []

/-- `texts` for the items of a list. -/
def textsOfItems : List (Value τ) → List τ
  | [] => []
  | v :: vs => texts v ++ textsOfItems vs

/-- `texts` for the entries of an object. -/
def textsOfEntries : List (τ × Value τ) → List τ
  | [] => []
  | (k, v) :: es => k :: (texts v ++ textsOfEntries es)

end

mutual

/-- Changing none of the texts of a value changes nothing. -/
theorem mapText_eq_self_of_texts {f : τ → τ} {v : Value τ} (h : ∀ t ∈ v.texts, f t = t) :
    v.mapText f = v := by
  cases v with
  | null | bool _ | number _ => rfl
  | text t => exact congrArg text (h t (List.mem_singleton_self t))
  | list items => exact congrArg list (mapTextItems_eq_self_of_texts h)
  | object entries => exact congrArg object (mapTextEntries_eq_self_of_texts h)

/-- Items whose texts stay the same stay the same. -/
theorem mapTextItems_eq_self_of_texts {f : τ → τ} {vs : List (Value τ)}
    (h : ∀ t ∈ textsOfItems vs, f t = t) : mapTextItems f vs = vs := by
  cases vs with
  | nil => rfl
  | cons v vs =>
      rw [textsOfItems, List.forall_mem_append] at h
      rw [mapTextItems, mapText_eq_self_of_texts h.1, mapTextItems_eq_self_of_texts h.2]

theorem mapTextEntries_eq_self_of_texts {f : τ → τ} {es : List (τ × Value τ)}
    (h : ∀ t ∈ textsOfEntries es, f t = t) : mapTextEntries f es = es := by
  cases es with
  | nil => rfl
  | cons e es =>
      obtain ⟨k, v⟩ := e
      rw [textsOfEntries, List.forall_mem_cons, List.forall_mem_append] at h
      rw [mapTextEntries, h.1, mapText_eq_self_of_texts h.2.1, mapTextEntries_eq_self_of_texts h.2.2]

end

/-- Changing no text changes nothing. -/
theorem mapText_eq_self (f : τ → τ) (hf : ∀ t, f t = t) (v : Value τ) : mapText f v = v :=
  mapText_eq_self_of_texts fun t _ => hf t

/-! ## Equality -/

mutual

/-- Equality of values is decidable when equality of texts is. -/
def decideEq [DecidableEq τ] : (v w : Value τ) → Decidable (v = w)
  | null, null => isTrue rfl
  | bool a, bool b =>
      if h : a = b then isTrue (by rw [h]) else isFalse (by simpa using h)
  | number a, number b =>
      if h : a = b then isTrue (by rw [h]) else isFalse (by simpa using h)
  | text a, text b =>
      if h : a = b then isTrue (by rw [h]) else isFalse (by simpa using h)
  | list vs, list ws =>
      match decideEqItems vs ws with
      | isTrue h => isTrue (by rw [h])
      | isFalse h => isFalse (by simpa using h)
  | object es, object fs =>
      match decideEqEntries es fs with
      | isTrue h => isTrue (by rw [h])
      | isFalse h => isFalse (by simpa using h)
  | null, bool _ | null, number _ | null, text _ | null, list _ | null, object _ => isFalse (by simp)
  | bool _, null | bool _, number _ | bool _, text _ | bool _, list _ | bool _, object _ =>
      isFalse (by simp)
  | number _, null | number _, bool _ | number _, text _ | number _, list _ | number _, object _ =>
      isFalse (by simp)
  | text _, null | text _, bool _ | text _, number _ | text _, list _ | text _, object _ =>
      isFalse (by simp)
  | list _, null | list _, bool _ | list _, number _ | list _, text _ | list _, object _ =>
      isFalse (by simp)
  | object _, null | object _, bool _ | object _, number _ | object _, text _ | object _, list _ =>
      isFalse (by simp)

/-- `decideEq` on the items of two lists. -/
def decideEqItems [DecidableEq τ] : (vs ws : List (Value τ)) → Decidable (vs = ws)
  | [], [] => isTrue rfl
  | v :: vs, w :: ws =>
      match decideEq v w, decideEqItems vs ws with
      | isTrue h, isTrue k => isTrue (by rw [h, k])
      | isFalse h, _ => isFalse fun e => h (List.cons.inj e).1
      | _, isFalse k => isFalse fun e => k (List.cons.inj e).2
  | [], _ :: _ => isFalse (by simp)
  | _ :: _, [] => isFalse (by simp)

/-- `decideEq` on the entries of two objects. -/
def decideEqEntries [DecidableEq τ] : (es fs : List (τ × Value τ)) → Decidable (es = fs)
  | [], [] => isTrue rfl
  | (k, v) :: es, (l, w) :: fs =>
      if hk : k = l then
        match decideEq v w, decideEqEntries es fs with
        | isTrue h, isTrue r => isTrue (by rw [hk, h, r])
        | isFalse h, _ => isFalse fun e => h (Prod.mk.inj (List.cons.inj e).1).2
        | _, isFalse r => isFalse fun e => r (List.cons.inj e).2
      else isFalse fun e => hk (Prod.mk.inj (List.cons.inj e).1).1
  | [], _ :: _ => isFalse (by simp)
  | _ :: _, [] => isFalse (by simp)

end

instance [DecidableEq τ] : DecidableEq (Value τ) := decideEq

/-! ## Reading values -/

/-- The entry of an object under a key; nothing for other values. -/
def field? [DecidableEq τ] (v : Value τ) (key : τ) : Option (Value τ) :=
  match v with
  | object entries => lookupEntry key entries
  | _ => none

/-- The value, unless it is null. -/
def nonNull? : Value τ → Option (Value τ)
  | null => none
  | v => some v

/-- The text of a text value. -/
def text? : Value τ → Option τ
  | text t => some t
  | _ => none

/-- The truth value of a truth value. -/
def bool? : Value τ → Option Bool
  | bool b => some b
  | _ => none

/-- The number of a number value. -/
def number? : Value τ → Option Number
  | number n => some n
  | _ => none

/-- The entries of an object. -/
def object? : Value τ → Option (List (τ × Value τ))
  | object entries => some entries
  | _ => none

/-- Whether a string value counts as true: everything but null, false, zero and what is empty. -/
def isTruthy : Value String → Bool
  | null => false
  | bool b => b
  | number (.int n) => n != 0
  | number (.float x) => !x.isZero
  | text t => t != ""
  | list items => !items.isEmpty
  | object entries => !entries.isEmpty

end Value
end VideoBundle
