import InvocationBridge.Web.Path

/-!
Segments of paths and patterns.

Slashes only divide: `segments_append_slash` cuts a path at any slash, so that paths which differ in
leading, trailing and repeated slashes have the same segments. `Writes` puts words between slashes,
as many as one likes, and `segments_eq_iff` says that the segments are these words again. A segment
of a pattern is a parameter if and only if it is a name in braces.
-/

namespace InvocationBridge

namespace Text

theorem splitAt_ne_nil (sep : Char) (cs : List Char) : splitAt sep cs ≠ [] := by
  cases cs with
  | nil => simp [splitAt]
  | cons c cs =>
      rw [splitAt]
      split
      · simp
      · split <;> simp

/-- A separator divides a text into two that are split by themselves. -/
theorem splitAt_append (sep : Char) (before after : List Char) :
    splitAt sep (before ++ sep :: after) = splitAt sep before ++ splitAt sep after := by
  induction before with
  | nil => simp [splitAt]
  | cons c cs ih =>
      rw [List.cons_append, splitAt, splitAt, ih]
      by_cases hSep : c = sep
      · simp [hSep]
      · cases hWords : splitAt sep cs with
        | nil => exact absurd hWords (splitAt_ne_nil sep cs)
        | cons word words => simp [hSep]

theorem splitAt_of_not_mem {sep : Char} {cs : List Char} (h : sep ∉ cs) :
    splitAt sep cs = [cs] := by
  induction cs with
  | nil => rfl
  | cons c cs ih =>
      obtain ⟨hFirst, hRest⟩ := List.ne_and_not_mem_of_not_mem_cons h
      rw [splitAt, if_neg (Ne.symm hFirst), ih hRest]

end Text

namespace Path

@[simp] theorem segments_empty : segments "" = [] := rfl

/-- A slash anywhere cuts a path in two. -/
theorem segments_append_slash (before after : String) :
    segments (before ++ "/" ++ after) = segments before ++ segments after := by
  have hChars : (before ++ "/" ++ after).toList = before.toList ++ '/' :: after.toList := by
    simp
  rw [segments, hChars, Text.splitAt_append, List.filter_append, List.map_append]
  rfl

/-- Paths that differ in slashes only: before the first segment, after the last, or next to other
slashes. -/
inductive Respells : String → String → Prop where
  | leading (path : String) : Respells ("/" ++ path) path
  | trailing (path : String) : Respells (path ++ "/") path
  | repeated (before after : String) : Respells (before ++ "//" ++ after) (before ++ "/" ++ after)
  | refl (path : String) : Respells path path
  | symm {path other : String} (h : Respells path other) : Respells other path
  | trans {path middle other : String} (hFirst : Respells path middle)
      (hLast : Respells middle other) : Respells path other

/-- Slashes at either end and repeated slashes do not change the segments. -/
theorem Respells.segments_eq {path other : String} (h : Respells path other) :
    segments path = segments other := by
  induction h with
  | leading path => simpa using segments_append_slash "" path
  | trailing path => simpa using segments_append_slash path ""
  | repeated before after =>
      have hTwice : before ++ "//" ++ after = before ++ "/" ++ "" ++ "/" ++ after := by
        rw [show "//" = "/" ++ "/" from rfl, String.append_empty, ← String.append_assoc]
      rw [hTwice, segments_append_slash, segments_append_slash, segments_append_slash,
        segments_empty, List.append_nil]
  | refl path => rfl
  | symm h ih => exact ih.symm
  | trans hFirst hLast ihFirst ihLast => exact ihFirst.trans ihLast

/-- A word that can stand between slashes. -/
structure IsWord (word : String) : Prop where
  nonempty : word ≠ ""
  slashless : '/' ∉ word.toList

instance (word : String) : Decidable (IsWord word) :=
  decidable_of_iff (word ≠ "" ∧ '/' ∉ word.toList) ⟨fun h => ⟨h.1, h.2⟩, fun h => ⟨h.1, h.2⟩⟩

/-- A text with some words in order: between two of them is a slash or more, and before the first
and after the last is any number of slashes. -/
inductive Writes : List String → String → Prop where
  | nothing : Writes [] ""
  | slash {words : List String} {text : String} (h : Writes words text) : Writes words ("/" ++ text)
  | last (word : String) : Writes [word] word
  | next (word : String) {words : List String} {text : String} (h : Writes words text) :
      Writes (word :: words) (word ++ "/" ++ text)

theorem segments_of_isWord {word : String} (h : IsWord word) : segments word = [word] := by
  have hChars : word.toList ≠ [] := by simpa using h.nonempty
  simp [segments, Text.splitAt_of_not_mem h.slashless, hChars]

theorem segments_slash_append (path : String) : segments ("/" ++ path) = segments path := by
  simpa using segments_append_slash "" path

/-- The words that a path is written from are its segments. -/
theorem Writes.segments_eq {words : List String} {text : String} (h : Writes words text)
    (hWords : ∀ word ∈ words, IsWord word) : segments text = words := by
  induction h with
  | nothing => rfl
  | slash h ih => rw [segments_slash_append, ih hWords]
  | last word => exact segments_of_isWord (hWords word (List.mem_singleton_self word))
  | next word h ih =>
      obtain ⟨hWord, hRest⟩ := List.forall_mem_cons.mp hWords
      rw [segments_append_slash, segments_of_isWord hWord, ih hRest, List.singleton_append]

/-- The words between the slashes of a path, in order. -/
structure Divides (path : String) (words : List String) : Prop where
  isWord : ∀ word ∈ words, IsWord word
  writes : Writes words path

theorem divides_nil : Divides "" [] := ⟨nofun, .nothing⟩

theorem divides_singleton {word : String} (h : IsWord word) : Divides word [word] :=
  ⟨List.forall_mem_singleton.mpr h, .last word⟩

theorem Divides.slash {path : String} {words : List String} (h : Divides path words) :
    Divides ("/" ++ path) words := ⟨h.isWord, h.writes.slash⟩

theorem Divides.cons {path word : String} {words : List String} (h : Divides path words)
    (hWord : IsWord word) : Divides (word ++ "/" ++ path) (word :: words) :=
  ⟨List.forall_mem_cons.mpr ⟨hWord, h.isWord⟩, h.writes.next word⟩

/-- Every path is some words between slashes, namely its segments. -/
theorem divides_segments (path : String) : Divides path (segments path) := by
  by_cases hSlash : '/' ∈ path.toList
  -- The path is cut at its first slash, so that there is at most one segment before it.
  · obtain ⟨before, after, hPath, hBefore⟩ := List.eq_append_cons_of_mem hSlash
    have hCut : path = String.ofList before ++ "/" ++ String.ofList after := by
      rw [← String.toList_inj, hPath]
      simp
    have hRest := divides_segments (String.ofList after)
    by_cases hEmpty : before = []
    · rw [hCut, hEmpty, String.ofList_nil, String.empty_append, segments_slash_append]
      exact hRest.slash
    · have hWord : IsWord (String.ofList before) := ⟨by simpa using hEmpty, by simpa using hBefore⟩
      rw [hCut, segments_append_slash, segments_of_isWord hWord]
      exact hRest.cons hWord
  · by_cases hEmpty : path = ""
    · subst hEmpty
      exact divides_nil
    · have hWord : IsWord path := ⟨hEmpty, hSlash⟩
      rw [segments_of_isWord hWord]
      exact divides_singleton hWord
termination_by path.toList.length
decreasing_by
  rw [hPath, String.toList_ofList, List.length_append, List.length_cons]
  omega

/-- A path divides into its segments and into nothing else. -/
theorem segments_eq_iff (path : String) (words : List String) :
    segments path = words ↔ Divides path words := by
  constructor
  · rintro rfl
    exact divides_segments path
  · intro h
    exact h.writes.segments_eq h.isWord

/-- Paths have one way to be divided, so that a relation between their words is one between their
segments. -/
theorem exists_divides_iff {path other : String} {relation : List String → List String → Prop} :
    (∃ words others, Divides path words ∧ Divides other others ∧ relation words others) ↔
      relation (segments path) (segments other) := by
  simp [← segments_eq_iff]

/-- Two paths are divided alike exactly if they have the same segments. -/
theorem divides_eq_iff (path other : String) :
    Divides path = Divides other ↔ segments path = segments other := by
  constructor
  · intro h
    rw [segments_eq_iff, h]
    exact divides_segments other
  · intro h
    funext words
    rw [← segments_eq_iff, ← segments_eq_iff, h]

/-- A segment of a pattern that stands for any one segment of a path: a name in braces. -/
structure Names (segment name : String) : Prop where
  braces : segment = "\x7b" ++ name ++ "\x7d"
  valid : isName name.toList

/-- A name is read out of braces exactly if it is put into them. -/
theorem bracedName?_eq_some_iff (cs : List Char) (name : String) :
    bracedName? cs = some name ↔ cs = '\x7b' :: name.toList ++ ['\x7d'] ∧ isName name.toList := by
  constructor
  · intro h
    unfold bracedName? at h
    split at h
    · next rest =>
        split at h
        · next hBraced =>
            obtain ⟨hLast, hName⟩ := hBraced
            obtain rfl := Option.some.inj h
            obtain ⟨inner, rfl⟩ := List.getLast?_eq_some_iff.mp hLast
            simpa using hName
        · cases h
    · cases h
  · rintro ⟨rfl, hName⟩
    simp [bracedName?, hName]

theorem names_iff (segment name : String) :
    Names segment name ↔ bracedName? segment.toList = some name := by
  rw [bracedName?_eq_some_iff]
  constructor
  · rintro ⟨rfl, hName⟩
    exact ⟨by simp, hName⟩
  · rintro ⟨hChars, hName⟩
    refine ⟨String.toList_inj.mp ?_, hName⟩
    rw [hChars]
    simp

/-- Segments that name a parameter are read as one. -/
theorem parse_eq_parameter_iff (segment name : String) :
    Segment.parse segment = .parameter name ↔ Names segment name := by
  rw [names_iff, Segment.parse]
  cases bracedName? segment.toList <;> simp

theorem Names.unique {segment name other : String} (h : Names segment name)
    (hOther : Names segment other) : name = other := by
  rw [names_iff] at h hOther
  exact Option.some.inj (h.symm.trans hOther)

/-- All other segments are read as they are written. -/
theorem parse_eq_literal_iff (segment text : String) :
    Segment.parse segment = .literal text ↔ segment = text ∧ ∀ name, ¬ Names segment name := by
  simp only [names_iff, Segment.parse]
  cases bracedName? segment.toList <;> simp

end Path

end InvocationBridge
