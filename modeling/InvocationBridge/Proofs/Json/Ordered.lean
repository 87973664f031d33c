import InvocationBridge.Json.Reader.Value
import InvocationBridge.Proofs.Except

/-!
The values that can be read, and the order of their fields.

Whatever a text repeats or in which order it has the names, no reader gives two fields of one name.
The lemmas about `moreItems` and `moreMembers` carry any property from what is inside to the whole,
and `given_of_value` gathers what they say about a value.
-/

namespace InvocationBridge.Json

/-- All objects inside a value have their fields in order. -/
inductive Ordered : Json → Prop where
  | null : Ordered .null
  | bool (b : Bool) : Ordered (.bool b)
  | num (n : Number) : Ordered (.num n)
  | str (s : String) : Ordered (.str s)
  | arr {items : List Json} (hItems : ∀ v ∈ items, Ordered v) : Ordered (.arr items)
  | obj {fields : Fields Json} (hSorted : fields.Sorted)
      (hFields : ∀ field ∈ fields, Ordered field.2) : Ordered (.obj fields)

namespace Reader

section Items

variable {α : Type} {item : Bytes → Except Fault (α × Bytes)} {Good : α → Prop}

/-- If single items can only be read as good ones, then so are those of the whole list. The
induction is on the fuel, which bounds the items that are left. -/
theorem forall_of_moreItems (hItem : ∀ bs v rest, item bs = .ok (v, rest) → Good v) {fuel : Nat}
    {bs rest : Bytes} {vs : List α} (h : moreItems item fuel bs = .ok (vs, rest)) :
    ∀ v ∈ vs, Good v := by
  induction fuel generalizing bs vs rest with
  | zero => cases h
  | succ fuel ih =>
      rw [moreItems] at h
      split at h
      · cases h
      · split at h
        · cases h
          exact fun _ hNone => nomatch hNone
        · split at h
          · split at h
            · cases h
            · split at h
              · cases h
              · obtain ⟨⟨v, after⟩, hFirst, hRest⟩ := bind_eq_ok_iff.mp h
                obtain ⟨⟨more, last⟩, hMore, hList⟩ := bind_eq_ok_iff.mp hRest
                cases hList
                exact List.forall_mem_cons.mpr ⟨hItem _ _ _ hFirst, ih hMore⟩
          · cases h

/-- The list as a whole, from its opening bracket on. -/
theorem forall_of_items (hItem : ∀ bs v rest, item bs = .ok (v, rest) → Good v) {bs rest : Bytes}
    {vs : List α} (h : items item bs = .ok (vs, rest)) : ∀ v ∈ vs, Good v := by
  rw [items] at h
  split at h
  · cases h
  · split at h
    · cases h
      exact fun _ hNone => nomatch hNone
    · obtain ⟨⟨v, after⟩, hFirst, hRest⟩ := bind_eq_ok_iff.mp h
      obtain ⟨⟨more, last⟩, hMore, hList⟩ := bind_eq_ok_iff.mp hRest
      cases hList
      exact List.forall_mem_cons.mpr ⟨hItem _ _ _ hFirst, forall_of_moreItems hItem hMore⟩

end Items

section Members

variable {σ : Type} {member : σ → String → Bytes → Except Fault (σ × Bytes)} (Good : σ → Prop)

/-- What holds of the members seen so far, and is kept by one more, holds when the
object is closed. -/
theorem good_of_moreMembers
    (hMember : ∀ seen name bs next rest, Good seen → member seen name bs = .ok (next, rest) →
      Good next)
    {fuel : Nat} {seen last : σ} {bs rest : Bytes} (hSeen : Good seen)
    (h : moreMembers member fuel seen bs = .ok (last, rest)) : Good last := by
  induction fuel generalizing seen bs with
  | zero => cases h
  | succ fuel ih =>
      rw [moreMembers] at h
      split at h
      · cases h
      · split at h
        · cases h
          exact hSeen
        · split at h
          · split at h
            · cases h
            · split at h
              · obtain ⟨⟨name, after⟩, -, hNamed⟩ := bind_eq_ok_iff.mp h
                obtain ⟨⟨next, after⟩, hNext, hRest⟩ := bind_eq_ok_iff.mp hNamed
                exact ih (hMember _ _ _ _ _ hSeen hNext) hRest
              · split at h <;> cases h
          · cases h

/-- The object as a whole: the property only has to hold of no members at all. -/
theorem good_of_members
    (hMember : ∀ seen name bs next rest, Good seen → member seen name bs = .ok (next, rest) →
      Good next)
    {start last : σ} {bs rest : Bytes} (hStart : Good start)
    (h : members member start bs = .ok (last, rest)) : Good last := by
  rw [members] at h
  split at h
  · cases h
  · split at h
    · cases h
      exact hStart
    · split at h
      · obtain ⟨⟨name, after⟩, -, hNamed⟩ := bind_eq_ok_iff.mp h
        obtain ⟨⟨next, after⟩, hNext, hRest⟩ := bind_eq_ok_iff.mp hNamed
        exact good_of_moreMembers Good hMember (hMember _ _ _ _ _ hStart hNext) hRest
      · cases h

end Members

/-- A value that can be read, with arrays and objects nested at most `depth` deep. -/
inductive Given : Nat → Json → Prop where
  | null {depth : Nat} : Given depth .null
  | bool {depth : Nat} (b : Bool) : Given depth (.bool b)
  | num {depth : Nat} {n : Number} {negative : Bool} {bs rest : Bytes}
      (hNumber : number negative bs = .ok (n, rest)) : Given depth (.num n)
  | str {depth : Nat} (s : String) : Given depth (.str s)
  | arr {depth : Nat} {items : List Json} (hItems : ∀ v ∈ items, Given depth v) :
      Given (depth + 1) (.arr items)
  | obj {depth : Nat} {fields : Fields Json} (hSorted : fields.Sorted)
      (hFields : ∀ field ∈ fields, Given depth field.2) : Given (depth + 1) (.obj fields)

/-- Adding a field leaves a value that can be read, if the field can be read one level below. -/
theorem Given.insert {depth : Nat} {fields : Fields Json} {v : Json}
    (h : Given (depth + 1) (.obj fields)) (name : String) (hValue : Given depth v) :
    Given (depth + 1) (.obj (fields.insert name v)) := by
  cases h with
  | obj hSorted hFields =>
      refine .obj (Fields.sorted_insert name v hSorted) fun inserted hInserted => ?_
      rcases Fields.mem_insert hInserted with rfl | hOld
      · exact hValue
      · exact hFields inserted hOld

theorem given_of_field {depth : Nat} {reader : Bytes → Except Fault (Json × Bytes)}
    (hReader : ∀ bs v rest, reader bs = .ok (v, rest) → Given depth v) {fields next : Fields Json}
    {name : String} {bs rest : Bytes} (hFields : Given (depth + 1) (.obj fields))
    (h : field reader fields name bs = .ok (next, rest)) : Given (depth + 1) (.obj next) := by
  obtain ⟨after, -, hColon⟩ := bind_eq_ok_iff.mp h
  obtain ⟨⟨v, last⟩, hValue, hInsert⟩ := bind_eq_ok_iff.mp hColon
  cases hInsert
  exact hFields.insert name (hReader _ _ _ hValue)

/-- A value that was read is nested no deeper than its limit, and has its fields in order all
the way down. -/
theorem given_of_value {depth : Nat} {bs rest : Bytes} {v : Json}
    (h : value depth bs = .ok (v, rest)) : Given depth v := by
  induction depth using Nat.strongRecOn generalizing bs v rest with
  | ind depth ih =>
      rw [value.eq_def] at h
      split at h
      · cases h
      -- The first octet tells the kind of the value.
      split at h
      · obtain ⟨_, -, hNull⟩ := map_eq_ok_iff.mp h
        cases hNull
        exact .null
      split at h
      · obtain ⟨_, -, hTrue⟩ := map_eq_ok_iff.mp h
        cases hTrue
        exact .bool true
      split at h
      · obtain ⟨_, -, hFalse⟩ := map_eq_ok_iff.mp h
        cases hFalse
        exact .bool false
      split at h
      · obtain ⟨⟨n, _⟩, hNumber, hNum⟩ := map_eq_ok_iff.mp h
        cases hNum
        exact .num hNumber
      split at h
      · obtain ⟨⟨n, _⟩, hNumber, hNum⟩ := map_eq_ok_iff.mp h
        cases hNum
        exact .num hNumber
      split at h
      · obtain ⟨⟨s, _⟩, -, hString⟩ := map_eq_ok_iff.mp h
        cases hString
        exact .str s
      split at h
      · split at h
        · cases h
        · next inner =>
            obtain ⟨⟨vs, _⟩, hItems, hArray⟩ := map_eq_ok_iff.mp h
            cases hArray
            exact .arr (forall_of_items (fun _ _ _ => ih inner (Nat.lt_succ_self inner)) hItems)
      split at h
      · split at h
        · cases h
        · next inner =>
            obtain ⟨⟨fields, _⟩, hMembers, hObject⟩ := map_eq_ok_iff.mp h
            cases hObject
            refine good_of_members (fun fields => Given (inner + 1) (.obj fields)) ?_
              (.obj .nil nofun) hMembers
            intro seen name bs next rest hSeen
            exact given_of_field (fun _ _ _ => ih inner (Nat.lt_succ_self inner)) hSeen
      · cases h

theorem Given.ordered {depth : Nat} {v : Json} (h : Given depth v) : v.Ordered := by
  induction h with
  | null => exact .null
  | bool b => exact .bool b
  | num => exact .num _
  | str s => exact .str s
  | arr _ ih => exact .arr ih
  | obj hSorted _ ih => exact .obj hSorted ih

end Reader

/-- A whole text gives a value within the limit of the parser, with its fields in order. -/
theorem given_of_parse {text : Bytes} {v : Json} (h : parse text = .ok v) :
    Reader.Given Reader.depthLimit v := by
  rw [parse, Reader.whole] at h
  split at h
  · cases h
  · next hValue =>
      split at h
      · cases h
        exact Reader.given_of_value hValue
      · cases h

/-- An object that stands in a field of an ordered value has its own fields in order. -/
theorem Ordered.sorted_of_field? {v : Json} (h : v.Ordered) {name : String} {fields : Fields Json}
    (hField : v.field? name = some (.obj fields)) : fields.Sorted := by
  cases h with
  | obj _ hInner =>
      cases hInner _ (Fields.mem_of_get? hField) with
      | obj hSorted _ => exact hSorted
  | _ => cases hField

/-- Every value that was read is ordered. -/
theorem ordered_of_parse {text : Bytes} {v : Json} (h : parse text = .ok v) : v.Ordered :=
  (given_of_parse h).ordered

end InvocationBridge.Json
