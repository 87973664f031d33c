import InvocationBridge.Http.Header
import Mathlib

/-!
The texts that are read as methods, header names and header values.
-/

namespace InvocationBridge.Http

/-- A text is no token if it is empty or has a character that tokens do not allow. -/
theorem isToken_eq_false_iff {text : String} :
    isToken text.toList = false ↔ text = "" ∨ ∃ c ∈ text.toList, isTokenChar c = false := by
  rw [isToken, Bool.and_eq_false_iff, List.all_eq_false]
  simp

/-- Methods are read by their exact name; there is no folding of case. -/
theorem Method.parse?_eq_some_iff {name : String} {method : Method} :
    parse? name = some method ↔ method.name = name := by
  rw [parse?]
  constructor
  · intro h
    split at h <;> cases h
    rfl
  · intro h
    subst h
    exact dif_pos method.isToken_name

/-- Only letters have another lower case, and a letter is a token character in either case. -/
theorem isTokenChar_toLower (c : Char) : isTokenChar c.toLower = isTokenChar c := by
  by_cases hUpper : c.isUpper = true
  · have hLetters : ∀ n : Fin 26,
        isTokenChar (Char.ofNat (65 + n)).toLower = isTokenChar (Char.ofNat (65 + n)) := by decide
    have hRange : 65 ≤ c.toNat ∧ c.toNat ≤ 90 := by
      simpa [Char.isUpper, UInt32.le_iff_toNat_le] using hUpper
    have hLetter := hLetters ⟨c.toNat - 65, by omega⟩
    rwa [Nat.add_sub_cancel' hRange.1, Char.ofNat_toNat] at hLetter
  · rw [Char.toLower_eq_of_not_isUpper hUpper]

theorem isToken_map_toLower (cs : List Char) : isToken (cs.map Char.toLower) = isToken cs := by
  rw [isToken, isToken, List.all_map, List.isEmpty_map]
  congr 2
  funext c
  exact isTokenChar_toLower c

/-- A text is a way to write a header name, of which case is no part. -/
def Spells (text : String) (name : HeaderName) : Prop :=
  isToken text.toList ∧ text.toList.length ≤ maxNameLength ∧
    text.toList.map Char.toLower = name.text.toList

instance (text : String) (name : HeaderName) : Decidable (Spells text name) :=
  inferInstanceAs (Decidable (_ ∧ _ ∧ _))

namespace HeaderName

/-- Whether a text can name a header does not depend on its case, and the length limit counts
its characters. -/
theorem isHeaderName_lowered_iff (text : String) :
    isHeaderName (String.ofList (text.toList.map Char.toLower)) = true ↔
      isToken text.toList = true ∧ text.toList.length ≤ maxNameLength := by
  have hLower : (text.toList.map Char.toLower).all (fun c => c.toLower == c) = true := by
    simp
  rw [isHeaderName, String.toList_ofList, isToken_map_toLower, List.length_map, hLower]
  simp

/-- A text names a header exactly if it spells the name in some mixture of cases. -/
theorem parse?_eq_some_iff {text : String} {name : HeaderName} :
    parse? text = some name ↔ Spells text name := by
  have hLowered := isHeaderName_lowered_iff text
  simp only [parse?, Spells]
  constructor
  · intro h
    split at h
    · next hName =>
        cases h
        obtain ⟨hToken, hLength⟩ := hLowered.mp hName
        exact ⟨hToken, hLength, String.toList_ofList.symm⟩
    · cases h
  · intro h
    obtain ⟨hToken, hLength, hText⟩ := h
    rw [dif_pos (hLowered.mpr ⟨hToken, hLength⟩)]
    cases name
    simp only [hText, String.ofList_toList]

end HeaderName

namespace HeaderValue

/-- The values among some texts are the octets of those that are none but allowed. -/
theorem map_octets_filterMap_ofText? (texts : List String) :
    (texts.filterMap ofText?).map octets =
      (texts.map Bytes.ofText).filter fun octets => octets.all isValueOctet := by
  induction texts with
  | nil => rfl
  | cons text rest ih =>
      rw [List.filterMap_cons, List.map_cons, List.filter_cons]
      by_cases hValid : (Bytes.ofText text).all isValueOctet
      · rw [ofText?, parse?, dif_pos hValid, if_pos hValid, ← ih]
        rfl
      · rw [ofText?, parse?, dif_neg hValid, if_neg hValid, ← ih]

end HeaderValue

namespace Headers

/-- Reading a header after it was set, as one equation for that name and all others. -/
theorem values_put (headers : Headers) (name other : HeaderName)
    (values : List HeaderValue) :
    (headers.put name values).values other =
      if name = other then values else headers.values other := by
  split
  · next hName => rw [← hName, values_put_self]
  · next hName => exact headers.values_put_of_ne (Ne.symm hName) values

end Headers

end InvocationBridge.Http
