import InvocationBridge.Proofs.Web.Segments

/-!
Patterns and paths as they are written, and what is read back.

`Segment.text` writes a segment of a pattern, and `Segment.fill` the segment of a path in its place.
`parse_written` ties these to the reading of patterns and the matching of paths, in both directions.
-/

namespace InvocationBridge

namespace Path

namespace Segment

/-- The segment as patterns write it. -/
def text : Segment → String
  | literal text => text
  | parameter name => "\x7b" ++ name ++ "\x7d"

/-- The segment of a path in place of a segment of the pattern. -/
def fill (parameters : PathParameters) : Segment → String
  | literal text => text
  | parameter name => (parameters.get? name).getD ""

end Segment

namespace Pattern

def names (pattern : Pattern) : List String :=
  pattern.filterMap fun
    | .literal _ => none
    | .parameter name => some name

@[simp] theorem names_literal (text : String) (pattern : Pattern) :
    names (.literal text :: pattern) = names pattern := rfl

@[simp] theorem names_parameter (name : String) (pattern : Pattern) :
    names (.parameter name :: pattern) = name :: names pattern := rfl

/-- A pattern of which every segment can be told from what is written for it. -/
structure IsLegible (pattern : Pattern) : Prop where
  literals : ∀ text, .literal text ∈ pattern → IsWord text ∧ ∀ name, ¬ Names text name
  names : ∀ name ∈ pattern.names, isName name.toList
  distinct : pattern.names.Nodup

/-- A value for each parameter of a pattern, and for nothing else. -/
structure Assigns (pattern : Pattern) (parameters : PathParameters) : Prop where
  sorted : parameters.Sorted
  names : ∀ name, parameters.contains name ↔ name ∈ pattern.names
  values : ∀ name value, parameters.get? name = some value → IsWord value

/-- The names of a pattern are those of its parameters. -/
theorem mem_names_iff {pattern : Pattern} {name : String} :
    name ∈ pattern.names ↔ .parameter name ∈ pattern := by
  rw [names, List.mem_filterMap]
  constructor
  · rintro ⟨segment, hSegment, hName⟩
    cases segment with
    | literal text => cases hName
    | parameter other =>
        cases hName
        exact hSegment
  · intro h
    exact ⟨_, h, rfl⟩

theorem slashless_of_isName {cs : List Char} (h : isName cs) : '/' ∉ cs := by
  cases cs with
  | nil => exact List.not_mem_nil
  | cons c cs =>
      rw [isName, Bool.and_eq_true, List.all_eq_true] at h
      intro hMem
      rcases List.mem_cons.mp hMem with rfl | hMem
      · exact absurd h.1 (by decide)
      · exact absurd (h.2 _ hMem) (by decide)

/-- A name in braces is a word, so that it can stand as a segment. -/
theorem isWord_braced {name : String} (h : isName name.toList) :
    IsWord ("\x7b" ++ name ++ "\x7d") where
  nonempty hEmpty := by simpa using congrArg String.toList hEmpty
  slashless := by simp [slashless_of_isName h]

/-- Every segment of a legible pattern can be written, and is read as itself. -/
theorem IsLegible.text_of_mem {pattern : Pattern} (h : pattern.IsLegible) {segment : Segment}
    (hSegment : segment ∈ pattern) :
    IsWord segment.text ∧ Segment.parse segment.text = segment := by
  cases segment with
  | literal text =>
      obtain ⟨hWord, hNoName⟩ := h.literals text hSegment
      exact ⟨hWord, (parse_eq_literal_iff text text).mpr ⟨rfl, hNoName⟩⟩
  | parameter name =>
      have hName := h.names name (mem_names_iff.mpr hSegment)
      exact ⟨isWord_braced hName, (parse_eq_parameter_iff _ name).mpr ⟨rfl, hName⟩⟩

/-- A legible pattern is what its text parses to, with any slashes around the segments. -/
theorem IsLegible.parse_eq {pattern : Pattern} (h : pattern.IsLegible) {text : String}
    (hText : Writes (pattern.map Segment.text) text) : parse text = pattern := by
  have hWords : ∀ word ∈ pattern.map Segment.text, IsWord word :=
    List.forall_mem_map.mpr fun _ hSegment => (h.text_of_mem hSegment).1
  rw [parse, hText.segments_eq hWords, List.map_map]
  exact List.map_congr_left (fun _ hSegment => (h.text_of_mem hSegment).2) |>.trans (List.map_id _)

section Matching

variable {parameters result : PathParameters} {pattern : Pattern} {words : List String}

/-- A segment of a pattern takes a segment of a path, and maybe sets a parameter. -/
inductive Takes : Segment → PathParameters → String → PathParameters → Prop where
  | literal (text : String) (parameters : PathParameters) :
      Takes (.literal text) parameters text parameters
  | parameter (name word : String) (parameters : PathParameters) :
      Takes (.parameter name) parameters word (parameters.insert name word)

theorem matchSegments_nil_eq_some_iff (parameters result : PathParameters) (words : List String) :
    matchSegments parameters [] words = some result ↔ words = [] ∧ parameters = result := by
  cases words <;> simp [matchSegments]

/-- A pattern matches one segment at a time: the first segment takes the first word, and the
others take the rest. -/
theorem matchSegments_cons_eq_some_iff (parameters result : PathParameters) (segment : Segment)
    (pattern : Pattern) (words : List String) :
    matchSegments parameters (segment :: pattern) words = some result ↔
      ∃ word rest taken, words = word :: rest ∧ Takes segment parameters word taken ∧
        matchSegments taken pattern rest = some result := by
  constructor
  · intro h
    cases words with
    | nil => cases segment <;> cases h
    | cons word rest =>
        cases segment with
        | literal expected =>
            rw [matchSegments, Option.ite_none_right_eq_some] at h
            obtain ⟨rfl, hRest⟩ := h
            exact ⟨_, rest, _, rfl, .literal .., hRest⟩
        | parameter name => exact ⟨word, rest, _, rfl, .parameter .., h⟩
  · rintro ⟨word, rest, taken, rfl, hTakes, hRest⟩
    cases hTakes with
    | literal => rwa [matchSegments, if_pos rfl]
    | parameter => exact hRest

/-- A segment takes the word that it is filled with. -/
theorem exists_takes_fill (segment : Segment) (parameters assigned : PathParameters) :
    ∃ taken, Takes segment parameters (segment.fill assigned) taken := by
  cases segment with
  | literal text => exact ⟨_, .literal ..⟩
  | parameter name => exact ⟨_, .parameter ..⟩

/-- Taking a word keeps the parameters sorted. -/
theorem Takes.sorted {segment : Segment} {word : String} {taken : PathParameters}
    (h : Takes segment parameters word taken) (hSorted : parameters.Sorted) : taken.Sorted := by
  cases h with
  | literal => exact hSorted
  | parameter => exact Fields.sorted_insert _ _ hSorted

theorem sorted_of_matchSegments (hSorted : parameters.Sorted)
    (h : matchSegments parameters pattern words = some result) : result.Sorted := by
  induction pattern generalizing parameters words with
  | nil =>
      obtain ⟨-, rfl⟩ := (matchSegments_nil_eq_some_iff ..).mp h
      exact hSorted
  | cons segment pattern ih =>
      obtain ⟨word, rest, taken, -, hTakes, hRest⟩ := (matchSegments_cons_eq_some_iff ..).mp h
      exact ih (hTakes.sorted hSorted) hRest

/-- A pattern matches what it is filled with, whatever the values are. -/
theorem exists_matchSegments_fill (parameters assigned : PathParameters) (pattern : Pattern) :
    ∃ result, matchSegments parameters pattern (pattern.map (Segment.fill assigned)) =
      some result := by
  induction pattern generalizing parameters with
  | nil => exact ⟨parameters, rfl⟩
  | cons segment pattern ih =>
      obtain ⟨taken, hTakes⟩ := exists_takes_fill segment parameters assigned
      obtain ⟨result, hResult⟩ := ih taken
      exact ⟨result, (matchSegments_cons_eq_some_iff ..).mpr ⟨_, _, taken, rfl, hTakes, hResult⟩⟩

/-- What a match sets gives back the words when it is filled into the pattern. Parameters that the
pattern does not have stay as they were. -/
theorem fill_of_matchSegments (hDistinct : pattern.names.Nodup)
    (h : matchSegments parameters pattern words = some result) :
    pattern.map (Segment.fill result) = words ∧
      (∀ name ∈ pattern.names, result.contains name) ∧
      ∀ name ∉ pattern.names, result.get? name = parameters.get? name := by
  induction pattern generalizing parameters words with
  | nil =>
      obtain ⟨rfl, rfl⟩ := (matchSegments_nil_eq_some_iff ..).mp h
      exact ⟨rfl, nofun, fun _ _ => rfl⟩
  | cons segment pattern ih =>
      obtain ⟨word, rest, taken, rfl, hTakes, hRest⟩ := (matchSegments_cons_eq_some_iff ..).mp h
      cases hTakes with
      | literal =>
          obtain ⟨hFill, hNames, hOthers⟩ := ih hDistinct hRest
          exact ⟨congrArg (word :: ·) hFill, hNames, hOthers⟩
      | parameter name =>
          rw [names_parameter, List.nodup_cons] at hDistinct
          obtain ⟨hFill, hNames, hOthers⟩ := ih hDistinct.2 hRest
          -- No later segment has this name, so that it keeps its value.
          have hWord : result.get? name = some word := by
            rw [hOthers name hDistinct.1, Fields.get?_insert_self]
          refine ⟨?_, ?_, ?_⟩
          · rw [List.map_cons, hFill, Segment.fill, hWord, Option.getD_some]
          · rw [names_parameter, List.forall_mem_cons, Fields.contains, hWord]
            exact ⟨rfl, hNames⟩
          · intro other hOther
            rw [names_parameter, List.mem_cons, not_or] at hOther
            rw [hOthers other hOther.2, Fields.get?_insert_of_ne hOther.1]

/-- A literal takes itself and nothing else, wherever it stands in a pattern. -/
theorem matchSegments_append_literal_iff (before after : Pattern) (text : String) :
    matchSegments parameters (before ++ .literal text :: after) words = some result ↔
      ∃ front back, front.length = before.length ∧ words = front ++ text :: back ∧
        matchSegments parameters (before ++ after) (front ++ back) = some result := by
  induction before generalizing parameters words with
  | nil =>
      rw [List.nil_append, matchSegments_cons_eq_some_iff]
      constructor
      · rintro ⟨word, rest, taken, rfl, hTakes, hRest⟩
        cases hTakes
        exact ⟨[], rest, rfl, rfl, hRest⟩
      · rintro ⟨front, back, hLength, rfl, hRest⟩
        obtain rfl := List.length_eq_zero_iff.mp hLength
        exact ⟨text, back, parameters, rfl, .literal .., hRest⟩
  | cons segment before ih =>
      rw [List.cons_append, matchSegments_cons_eq_some_iff]
      constructor
      · rintro ⟨word, rest, taken, rfl, hTakes, hRest⟩
        obtain ⟨front, back, hLength, rfl, hOthers⟩ := ih.mp hRest
        exact ⟨word :: front, back, congrArg Nat.succ hLength, rfl,
          (matchSegments_cons_eq_some_iff ..).mpr ⟨_, _, taken, rfl, hTakes, hOthers⟩⟩
      · rintro ⟨front, back, hLength, rfl, hOthers⟩
        cases front with
        | nil => cases hLength
        | cons word front =>
            obtain ⟨_, _, taken, hWords, hTakes, hRest⟩ :=
              (matchSegments_cons_eq_some_iff ..).mp hOthers
            obtain ⟨rfl, rfl⟩ := List.cons.inj hWords
            exact ⟨word, _, taken, rfl, hTakes,
              ih.mpr ⟨front, back, Nat.succ.inj hLength, rfl, hRest⟩⟩

end Matching

/-- Every parameter of the pattern has a value, and this is a word. -/
theorem Assigns.get?_of_mem {pattern : Pattern} {parameters : PathParameters}
    (h : Assigns pattern parameters) {name : String} (hName : name ∈ pattern.names) :
    ∃ value, parameters.get? name = some value ∧ IsWord value := by
  obtain ⟨value, hValue⟩ := Option.isSome_iff_exists.mp ((h.names name).mpr hName)
  exact ⟨value, hValue, h.values name value hValue⟩

theorem Assigns.get?_of_not_mem {pattern : Pattern} {parameters : PathParameters}
    (h : Assigns pattern parameters) {name : String} (hName : name ∉ pattern.names) :
    parameters.get? name = none := by
  rwa [← h.names, Fields.contains, Option.not_isSome_iff_eq_none] at hName

/-- A legible pattern is filled with words, so that the segments of the path are not
divided any further. -/
theorem Assigns.isWord_fill {pattern : Pattern} {parameters : PathParameters}
    (h : Assigns pattern parameters) (hLegible : pattern.IsLegible) :
    ∀ word ∈ pattern.map (Segment.fill parameters), IsWord word := by
  rw [List.forall_mem_map]
  intro segment hSegment
  cases segment with
  | literal text => exact (hLegible.literals text hSegment).1
  | parameter name =>
      obtain ⟨value, hValue, hWord⟩ := h.get?_of_mem (mem_names_iff.mpr hSegment)
      rwa [Segment.fill, hValue, Option.getD_some]

/-- A match assigns the parameters, and filling them in again gives the segments of the path.
Names must be distinct, or only the last value would be left. -/
theorem assigns_of_match? {pattern : Pattern} (hDistinct : pattern.names.Nodup) {path : String}
    {parameters : PathParameters} (h : pattern.match? path = some parameters) :
    Assigns pattern parameters ∧ pattern.map (Segment.fill parameters) = segments path := by
  obtain ⟨hFill, hNames, hOthers⟩ := fill_of_matchSegments hDistinct h
  have hPresent : ∀ name value, parameters.get? name = some value → name ∈ pattern.names := by
    intro name value hValue
    refine Decidable.byContradiction fun hName => ?_
    simp [hOthers name hName, Fields.get?] at hValue
  refine ⟨⟨sorted_of_matchSegments List.Pairwise.nil h, ?_, ?_⟩, hFill⟩
  · intro name
    refine ⟨fun hContains => ?_, hNames name⟩
    obtain ⟨value, hValue⟩ := Option.isSome_iff_exists.mp hContains
    exact hPresent name value hValue
  · intro name value hValue
    -- The value is what the parameter is filled with, hence a segment of the path.
    have hWord : value ∈ segments path := by
      rw [← hFill, List.mem_map]
      refine ⟨.parameter name, mem_names_iff.mp (hPresent name value hValue), ?_⟩
      rw [Segment.fill, hValue, Option.getD_some]
    exact (divides_segments path).isWord value hWord

/-- Conversely, a path that is written from the pattern matches it with the same values. -/
theorem Assigns.match?_eq_some {pattern : Pattern} {parameters : PathParameters}
    (h : Assigns pattern parameters) (hLegible : pattern.IsLegible) {path : String}
    (hPath : Writes (pattern.map (Segment.fill parameters)) path) :
    pattern.match? path = some parameters := by
  obtain ⟨captured, hCaptured⟩ := exists_matchSegments_fill [] parameters pattern
  rw [← hPath.segments_eq (h.isWord_fill hLegible)] at hCaptured
  obtain ⟨hAssigns, hFill⟩ := assigns_of_match? hLegible.distinct hCaptured
  rw [hPath.segments_eq (h.isWord_fill hLegible)] at hFill
  have hSame : captured = parameters := by
    refine Fields.eq_of_get?_eq hAssigns.sorted h.sorted fun name => ?_
    by_cases hName : name ∈ pattern.names
    · obtain ⟨value, hValue, -⟩ := hAssigns.get?_of_mem hName
      obtain ⟨other, hOther, -⟩ := h.get?_of_mem hName
      have hFilled := List.map_inj_left.mp hFill _ (mem_names_iff.mp hName)
      rw [Segment.fill, Segment.fill, hValue, hOther] at hFilled
      rw [hValue, hOther]
      exact congrArg some hFilled
    · rw [hAssigns.get?_of_not_mem hName, h.get?_of_not_mem hName]
  exact hCaptured.trans (congrArg some hSame)

/-- Braces around anything but a name are part of a literal. -/
theorem parse_braced {inner : String} (h : ¬ isName inner.toList) :
    Segment.parse ("\x7b" ++ inner ++ "\x7d") = .literal ("\x7b" ++ inner ++ "\x7d") := by
  refine (parse_eq_literal_iff ..).mpr ⟨rfl, fun name hNames => h ?_⟩
  have hSame : inner.toList = name.toList := by
    simpa using congrArg String.toList hNames.braces
  rw [hSame]
  exact hNames.valid

/-- A legible pattern is read back from what is written for it. The paths that match it are those
that are written for some values of its parameters, and the match gives just these values. Braces
around anything but an identifier are taken as they stand. -/
theorem parse_written :
    (∀ (pattern : Pattern) (text : String), pattern.IsLegible →
      Writes (pattern.map Segment.text) text →
      parse text = pattern ∧
      ∀ parameters path,
        ((parse text).match? path = some parameters ↔
          Assigns pattern parameters ∧ Writes (pattern.map (Segment.fill parameters)) path) ∧
        ((parse text).match? path = some parameters →
          pattern.map (Segment.fill parameters) = segments path)) ∧
    ∀ inner text before after, ¬ isName inner.toList →
      segments text = before ++ ("\x7b" ++ inner ++ "\x7d") :: after →
      ∀ parameters path, (parse text).match? path = some parameters ↔
        ∃ front back, front.length = before.length ∧
          segments path = front ++ ("\x7b" ++ inner ++ "\x7d") :: back ∧
          matchSegments [] ((before ++ after).map Segment.parse) (front ++ back) =
            some parameters := by
  constructor
  · intro pattern text hLegible hText
    rw [hLegible.parse_eq hText]
    refine ⟨rfl, fun parameters path => ⟨⟨?_, ?_⟩, ?_⟩⟩
    · intro hMatch
      obtain ⟨hAssigns, hFill⟩ := assigns_of_match? hLegible.distinct hMatch
      exact ⟨hAssigns, ((segments_eq_iff ..).mp hFill.symm).writes⟩
    · intro ⟨hAssigns, hPath⟩
      exact hAssigns.match?_eq_some hLegible hPath
    · intro hMatch
      exact (assigns_of_match? hLegible.distinct hMatch).2
  · intro inner text before after hInner hText parameters path
    rw [match?, parse, hText, List.map_append, List.map_cons, parse_braced hInner,
      matchSegments_append_literal_iff, List.length_map, List.map_append]

/-- A pattern in which one literal has an accent and one has braces. -/
def reviewPattern : Pattern :=
  [.literal "pets", .parameter "id", .literal "é", .literal "\x7b1\x7d"]

def reviewText : String := "//pets/\x7bid\x7d//é/\x7b1\x7d/"

theorem parse_written_reviewPattern :
    parse reviewText = reviewPattern ∧
    reviewPattern.match? "pets//\x7bid\x7d/é/\x7b1\x7d" = some [("id", "\x7bid\x7d")] ∧
    ∀ path parameters, reviewPattern.match? path = some parameters →
      "\x7b1\x7d" ∈ segments path := by
  have hSegments : ∀ segment ∈ reviewPattern,
      IsWord segment.text ∧ Segment.parse segment.text = segment := by decide
  have hLegible : reviewPattern.IsLegible := by
    refine ⟨fun text hText => ?_, by decide, by decide⟩
    obtain ⟨hWord, hParse⟩ := hSegments _ hText
    exact ⟨hWord, ((parse_eq_literal_iff ..).mp hParse).2⟩
  have hText : Writes (reviewPattern.map Segment.text) reviewText :=
    .slash (.slash (.next "pets" (.next "\x7bid\x7d" (.slash (.next "é"
      (.next "\x7b1\x7d" .nothing))))))
  have hSorted : Fields.Sorted [("id", "\x7bid\x7d")] := List.pairwise_singleton ..
  have hAssigns : Assigns reviewPattern [("id", "\x7bid\x7d")] := by
    refine ⟨hSorted, fun name => Fields.contains_iff_mem .., fun name value hValue => ?_⟩
    obtain ⟨-, rfl⟩ : name = "id" ∧ value = "\x7bid\x7d" := by
      simpa using (Fields.get?_eq_some_iff_mem hSorted).mp hValue
    decide
  have hPath : Writes (reviewPattern.map (Segment.fill [("id", "\x7bid\x7d")]))
      "pets//\x7bid\x7d/é/\x7b1\x7d" :=
    .next "pets" (.slash (.next "\x7bid\x7d" (.next "é" (.last "\x7b1\x7d"))))
  obtain ⟨hParse, hMatch⟩ := parse_written.1 reviewPattern reviewText hLegible hText
  rw [hParse] at hMatch
  refine ⟨hParse, (hMatch _ _).1.mpr ⟨hAssigns, hPath⟩, ?_⟩
  intro path parameters hOther
  have hLast := parse_written.2 "1" reviewText ["pets", "\x7bid\x7d", "é"] [] (by decide)
    (by decide) parameters path
  rw [hParse] at hLast
  obtain ⟨front, back, -, hPath, -⟩ := hLast.mp hOther
  rw [hPath]
  exact List.mem_append_right front List.mem_cons_self

end Pattern

end Path

end InvocationBridge
