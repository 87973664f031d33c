/-!
Named fields: lists of name and value kept in increasing order of the names.

Names are compared by code points, which is also the order of their UTF-8 octets. `get?` reads a
field, `insert` sets one, and the other operations are built from these. `get?_insert` says what is
read after a field was set, and `sorted_insert` that the order is kept.
-/

namespace InvocationBridge

abbrev Fields (α : Type) := List (String × α)

namespace Fields

variable {α β : Type}

/-- The value of the field `name`. -/
def get? (name : String) : Fields α → Option α
  | [] => none
  | (n, v) :: rest => if n = name then some v else get? name rest

def contains (name : String) (fields : Fields α) : Bool := (get? name fields).isSome

/-- Set the field `name`, in its place in the order. -/
def insert (name : String) (value : α) : Fields α → Fields α
  | [] => [(name, value)]
  | (n, v) :: rest =>
    if name = n then (name, value) :: rest
    else if name < n then (name, value) :: (n, v) :: rest
    else (n, v) :: insert name value rest

/-- Set every field of `source`, in its order. -/
def insertAll (source target : Fields α) : Fields α :=
  source.foldl (fun fields (n, v) => insert n v fields) target

/-- The fields of a list of settings, of which the last for each name counts. -/
def ofList (settings : List (String × α)) : Fields α := insertAll settings []

def mapValues (f : α → β) (fields : Fields α) : Fields β := fields.map fun (n, v) => (n, f v)

/-- Strictly increasing names, which every operation keeps. -/
def Sorted (fields : Fields α) : Prop := fields.Pairwise (·.1 < ·.1)

@[simp] theorem get?_insert_self (name : String) (value : α) (fields : Fields α) :
    get? name (insert name value fields) = some value := by
  induction fields with
  | nil => simp [insert, get?]
  | cons field rest ih =>
    by_cases hName : name = field.1
    · simp [insert, get?, hName]
    · by_cases hLess : name < field.1
      · simp [insert, get?, hName, hLess]
      · simp [insert, get?, hName, hLess, ih, Ne.symm hName]

theorem get?_insert_of_ne {name other : String} (h : other ≠ name) (value : α)
    (fields : Fields α) : get? other (insert name value fields) = get? other fields := by
  induction fields with
  | nil => simp [insert, get?, Ne.symm h]
  | cons field rest ih =>
    by_cases hName : name = field.1
    · subst hName
      simp [insert, get?, Ne.symm h]
    · by_cases hLess : name < field.1
      · simp [insert, get?, hName, hLess, Ne.symm h]
      · simp [insert, get?, hName, hLess, ih]

/-- Inserting adds nothing but the setting itself; the value it replaces may be gone. -/
theorem mem_insert {name : String} {value : α} {fields : Fields α} {field : String × α}
    (h : field ∈ insert name value fields) : field = (name, value) ∨ field ∈ fields := by
  induction fields with
  | nil => simpa [insert] using h
  | cons first rest ih =>
    simp only [insert] at h
    split at h
    · simp only [List.mem_cons] at h ⊢
      exact h.imp_right Or.inr
    · split at h
      · simpa using h
      · rcases List.mem_cons.mp h with rfl | hRest
        · simp
        · exact (ih hRest).imp_right (List.mem_cons_of_mem first)

/-- Reading after an insertion, for the inserted name and for every other one at once. -/
theorem get?_insert (name other : String) (value : α) (fields : Fields α) :
    get? other (insert name value fields) =
      if other = name then some value else get? other fields := by
  by_cases h : other = name
  · simp [h]
  · simp [h, get?_insert_of_ne h]

/-- What is read is in the table. The converse needs the table to be sorted, since an unsorted
one can hold a name twice. -/
theorem mem_of_get? {name : String} {value : α} {fields : Fields α}
    (h : get? name fields = some value) : (name, value) ∈ fields := by
  induction fields with
  | nil => simp [get?] at h
  | cons first rest ih =>
    rw [get?] at h
    split at h
    · rename_i hName
      obtain rfl := Option.some.inj h
      exact hName ▸ List.mem_cons_self
    · exact List.mem_cons_of_mem first (ih h)

theorem contains_iff_mem (name : String) (fields : Fields α) :
    contains name fields ↔ name ∈ fields.map Prod.fst := by
  induction fields with
  | nil => simp [contains, get?]
  | cons first rest ih =>
    by_cases hName : first.1 = name
    · simp [contains, get?, hName]
    · simpa [contains, get?, hName, Ne.symm hName] using ih

theorem get?_eq_none_of_not_mem {name : String} {fields : Fields α}
    (h : name ∉ fields.map Prod.fst) : get? name fields = none := by
  rwa [← contains_iff_mem, contains, Option.not_isSome_iff_eq_none] at h

/-- Merging loses no name of either side, whatever the values are. -/
theorem contains_insertAll (name : String) (source target : Fields α) :
    contains name (insertAll source target) = (contains name source || contains name target) := by
  induction source generalizing target with
  | nil => rfl
  | cons first rest ih =>
    have hTail := ih (insert first.1 first.2 target)
    by_cases hName : first.1 = name
    · simpa [insertAll, contains, get?, hName] using hTail
    · simpa [insertAll, contains, get?, hName, get?_insert_of_ne (Ne.symm hName)] using hTail

theorem get?_insertAll_of_get?_eq_none {name : String} {source : Fields α}
    (h : get? name source = none) (target : Fields α) :
    get? name (insertAll source target) = get? name target := by
  induction source generalizing target with
  | nil => rfl
  | cons first rest ih =>
    rw [get?] at h
    split at h
    · simp at h
    · rename_i hName
      have hTail := ih h (insert first.1 first.2 target)
      rwa [get?_insert_of_ne (Ne.symm hName)] at hTail

/-- The last of the values that a list of settings has for a name. -/
def HasLast (settings : List (String × α)) (name : String) (value : α) : Prop :=
  ∃ before after, settings = before ++ (name, value) :: after ∧ ∀ later ∈ after, later.1 ≠ name

/-- A setting in front is the last word on its name only if nothing behind it speaks about that
name. -/
theorem hasLast_cons_iff (setting : String × α) (settings : List (String × α)) (name : String)
    (value : α) : HasLast (setting :: settings) name value ↔
      HasLast settings name value ∨
        (∀ later ∈ settings, later.1 ≠ name) ∧ setting = (name, value) := by
  constructor
  · rintro ⟨before, after, hSettings, hLater⟩
    cases before with
    | nil =>
        obtain ⟨rfl, rfl⟩ := List.cons.inj hSettings
        exact .inr ⟨hLater, rfl⟩
    | cons first before => exact .inl ⟨before, after, (List.cons.inj hSettings).2, hLater⟩
  · rintro (⟨before, after, rfl, hLater⟩ | ⟨hLater, rfl⟩)
    · exact ⟨setting :: before, after, rfl, hLater⟩
    · exact ⟨[], settings, rfl, hLater⟩

/-- A merged table answers with the last setting of a name, and falls back to what was there
before if the settings do not mention it. -/
theorem get?_insertAll_eq_some_iff (settings : List (String × α)) (fields : Fields α)
    (name : String) (value : α) : get? name (insertAll settings fields) = some value ↔
      HasLast settings name value ∨
        (∀ setting ∈ settings, setting.1 ≠ name) ∧ get? name fields = some value := by
  induction settings generalizing fields with
  | nil => simp [HasLast, insertAll]
  | cons setting settings ih =>
      have hStep : insertAll (setting :: settings) fields =
          insertAll settings (insert setting.1 setting.2 fields) := rfl
      rw [hStep, ih, get?_insert, hasLast_cons_iff, List.forall_mem_cons]
      grind

/-- A table built from settings keeps the last value of each name, however often it is set. -/
theorem get?_ofList_eq_some_iff (settings : List (String × α)) (name : String) (value : α) :
    get? name (ofList settings) = some value ↔ HasLast settings name value := by
  simp [ofList, get?_insertAll_eq_some_iff, get?]

theorem get?_ofList_eq_none_iff (settings : List (String × α)) (name : String) :
    get? name (ofList settings) = none ↔ ∀ value, (name, value) ∉ settings := by
  rw [← Option.not_isSome_iff_eq_none, ← contains, ofList, contains_insertAll, Bool.or_eq_true,
    contains_iff_mem]
  simp [contains, get?]

theorem lt_of_not_lt_of_ne {a b : String} (hLess : ¬ a < b) (hNe : a ≠ b) : b < a := by
  by_cases h : b < a
  · exact h
  · exact absurd (String.le_antisymm (String.not_lt.mp h) (String.not_lt.mp hLess)) hNe

/-- An insertion puts the name in its place, so that sorted tables stay sorted. -/
theorem sorted_insert (name : String) (value : α) {fields : Fields α} (h : Sorted fields) :
    Sorted (insert name value fields) := by
  induction fields with
  | nil => simp [insert, Sorted]
  | cons first rest ih =>
    obtain ⟨hFirst, hRest⟩ := List.pairwise_cons.mp h
    simp only [insert]
    split
    · rename_i hName
      exact List.pairwise_cons.mpr ⟨fun field hField => hName ▸ hFirst field hField, hRest⟩
    · rename_i hNe
      split
      · rename_i hLess
        refine List.pairwise_cons.mpr ⟨fun field hField => ?_, h⟩
        rcases List.mem_cons.mp hField with rfl | hOld
        · exact hLess
        · exact String.lt_trans hLess (hFirst field hOld)
      · rename_i hNotLess
        refine List.pairwise_cons.mpr ⟨fun field hField => ?_, ih hRest⟩
        rcases mem_insert hField with rfl | hOld
        · exact lt_of_not_lt_of_ne hNotLess hNe
        · exact hFirst field hOld

theorem get?_cons_self (name : String) (value : α) (rest : Fields α) :
    get? name ((name, value) :: rest) = some value := by
  rw [get?, if_pos rfl]

theorem get?_eq_none_of_forall_lt {name : String} {fields : Fields α}
    (h : ∀ field ∈ fields, name < field.1) : get? name fields = none := by
  cases hGet : get? name fields with
  | none => rfl
  | some value => exact absurd (h _ (mem_of_get? hGet)) (String.lt_irrefl name)

/-- Fields in order have one value for each name. -/
theorem get?_eq_some_iff_mem {fields : Fields α} (h : Sorted fields) {name : String} {value : α} :
    get? name fields = some value ↔ (name, value) ∈ fields := by
  refine ⟨mem_of_get?, ?_⟩
  intro hMem
  induction fields with
  | nil => cases hMem
  | cons first rest ih =>
    obtain ⟨hFirst, hRest⟩ := List.pairwise_cons.mp h
    rcases List.mem_cons.mp hMem with hSame | hLater
    · rw [← hSame, get?_cons_self]
    · have hNe : first.1 ≠ name := by
        intro hName
        exact String.lt_irrefl name (hName ▸ hFirst (name, value) hLater)
      rw [get?, if_neg hNe, ih hRest hLater]

theorem le_of_get?_cons {first : String × α} {rest : Fields α} (h : Sorted (first :: rest))
    {name : String} {value : α} (hGet : get? name (first :: rest) = some value) :
    first.1 ≤ name := by
  rcases List.mem_cons.mp (mem_of_get? hGet) with hSame | hLater
  · exact hSame ▸ String.le_refl name
  · exact String.not_lt.mp (String.lt_asymm ((List.pairwise_cons.mp h).1 _ hLater))

/-- Fields in order are known by what is read from them. -/
theorem eq_of_get?_eq {fields others : Fields α} (hFields : Sorted fields) (hOthers : Sorted others)
    (h : ∀ name, get? name fields = get? name others) : fields = others := by
  induction fields generalizing others with
  | nil =>
    cases others with
    | nil => rfl
    | cons other others => simpa [get?] using h other.1
  | cons first rest ih =>
    cases others with
    | nil => simpa [get?] using h first.1
    | cons other others =>
      obtain ⟨name, value⟩ := first
      obtain ⟨otherName, otherValue⟩ := other
      -- Both lists have both names, so that neither can be before the other.
      have hName : name = otherName :=
        String.le_antisymm (le_of_get?_cons hFields ((h otherName).trans (get?_cons_self ..)))
          (le_of_get?_cons hOthers ((h name).symm.trans (get?_cons_self ..)))
      subst hName
      have hValue : value = otherValue := by simpa [get?] using h name
      obtain ⟨hFirst, hRest⟩ := List.pairwise_cons.mp hFields
      obtain ⟨hOther, hOthers⟩ := List.pairwise_cons.mp hOthers
      rw [hValue, ih hRest hOthers fun later => ?_]
      by_cases hLater : name = later
      · subst hLater
        rw [get?_eq_none_of_forall_lt hFirst, get?_eq_none_of_forall_lt hOther]
      · simpa [get?, hLater] using h later

/-- Merging sorted tables: the source wins, the target fills in. -/
theorem get?_insertAll {source : Fields α} (h : Sorted source) (name : String)
    (target : Fields α) :
    get? name (insertAll source target) = (get? name source).or (get? name target) := by
  induction source generalizing target with
  | nil => rfl
  | cons first rest ih =>
    obtain ⟨hFirst, hRest⟩ := List.pairwise_cons.mp h
    have hTail := ih hRest (insert first.1 first.2 target)
    by_cases hName : first.1 = name
    · subst hName
      rw [get?_eq_none_of_forall_lt hFirst, get?_insert_self] at hTail
      rw [get?_cons_self]
      exact hTail
    · rw [get?_insert_of_ne (Ne.symm hName)] at hTail
      rw [get?, if_neg hName]
      exact hTail

theorem sorted_insertAll (source : Fields α) {target : Fields α} (h : Sorted target) :
    Sorted (insertAll source target) := by
  induction source generalizing target with
  | nil => exact h
  | cons first rest ih => exact ih (sorted_insert first.1 first.2 h)

/-- A table built from settings is sorted in whatever order they come. -/
theorem sorted_ofList (settings : List (String × α)) : Sorted (ofList settings) :=
  sorted_insertAll settings List.Pairwise.nil

theorem sorted_of_map_fst (names : List String) {fields : Fields α}
    (hNames : fields.map Prod.fst = names) (hSorted : names.Pairwise (· < ·)) : Sorted fields := by
  subst hNames
  exact List.pairwise_map.mp hSorted

/-- A name behind all others is appended, which is how a sorted list is read back unchanged. -/
theorem insert_of_forall_lt {name : String} (value : α) {fields : Fields α}
    (h : ∀ field ∈ fields, field.1 < name) :
    insert name value fields = fields ++ [(name, value)] := by
  induction fields with
  | nil => rfl
  | cons first rest ih =>
    obtain ⟨hFirst, hRest⟩ := List.forall_mem_cons.mp h
    have hNe : name ≠ first.1 := fun hName => String.lt_irrefl _ (hName ▸ hFirst)
    rw [insert, if_neg hNe, if_neg (String.lt_asymm hFirst), ih hRest]
    rfl

theorem insertAll_of_sorted {source target : Fields α} (h : Sorted (target ++ source)) :
    insertAll source target = target ++ source := by
  induction source generalizing target with
  | nil => simp [insertAll]
  | cons first rest ih =>
    have hLast : ∀ field ∈ target, field.1 < first.1 :=
      fun field hField => (List.pairwise_append.mp h).2.2 field hField first List.mem_cons_self
    have hRest : insertAll rest (target ++ [first]) = target ++ first :: rest := by
      rw [ih (by simpa using h)]
      simp
    simpa [insertAll, insert_of_forall_lt first.2 hLast] using hRest

/-- Fields in order are what they make when they are set one by one. -/
theorem ofList_of_sorted {fields : Fields α} (h : Sorted fields) : ofList fields = fields :=
  insertAll_of_sorted (by simpa using h)

theorem get?_mapValues (f : α → β) (name : String) (fields : Fields α) :
    get? name (mapValues f fields) = (get? name fields).map f := by
  induction fields with
  | nil => rfl
  | cons first rest ih =>
    by_cases h : first.1 = name
    · simp [mapValues, get?, h]
    · simpa [mapValues, get?, h] using ih

theorem sorted_mapValues (f : α → β) {fields : Fields α} (h : Sorted fields) :
    Sorted (mapValues f fields) :=
  List.pairwise_map.mpr h

end Fields

end InvocationBridge
