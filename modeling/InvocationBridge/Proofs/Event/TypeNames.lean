import InvocationBridge.Event.Catalog
import InvocationBridge.Message.Reply

/-!
What declared types are recognised by.

A type can be written with blanks around it, references and a path before its name, and arguments
after it. `Denotes` gives the name that counts, and `Wraps` puts a type into wrappers, as many as
there are. Neither the path nor the wrappers decide on the kind of an event or the form of an
answer: `simple_recognizes` says that only the name does.
-/

namespace InvocationBridge

namespace TypeName

def IsBlank (cs : List Char) : Prop := ∀ c ∈ cs, Text.isBlank c

-- Named, because there is also a way to decide this by going through all characters.
instance (cs : List Char) : Decidable (IsBlank cs) := List.decidableBAll _ cs

/-- The modules before a name, up to the last separator, if there are any. -/
def IsPath (path : List Char) : Prop :=
  path = [] ∨ '<' ∉ path ∧ ∃ c ∈ path.getLast?, c = ':' ∨ c = '.'

instance (path : List Char) : Decidable (IsPath path) :=
  have : Decidable (∃ c ∈ path.getLast?, c = ':' ∨ c = '.') := Option.decidableExistsMem _
  inferInstanceAs (Decidable (path = [] ∨ '<' ∉ path ∧ ∃ c ∈ path.getLast?, c = ':' ∨ c = '.'))

/-- What may stand before a name: blanks, references and a path. -/
def Leads (lead : List Char) : Prop :=
  ∃ before references path, lead = before ++ List.replicate references '&' ++ path ∧
    IsBlank before ∧ IsPath path

/-- A name in one piece. -/
def IsIdentifier (name : List Char) : Prop :=
  ∀ c ∈ name, c ∉ ['<', ':', '.', '&'] ∧ ¬ Text.isBlank c

instance (name : List Char) : Decidable (IsIdentifier name) := List.decidableBAll _ name

/-- A type inside of wrappers, none or many, each written in its own way. -/
inductive Wraps (inner : List Char) : List Char → Prop where
  | bare : Wraps inner inner
  | layer {lead wrapper text after : List Char} (hLead : Leads lead) (hWrapper : wrapper ∈ wrappers)
      (hText : Wraps inner text) (hAfter : IsBlank after) :
      Wraps inner (lead ++ wrapper ++ '<' :: text ++ '>' :: after)

/-- A type that is known by its own name. Its arguments can be any text, unless it is a wrapper. -/
inductive Denotes (name : List Char) : List Char → Prop where
  | plain {lead after : List Char} (hName : IsIdentifier name) (hLead : Leads lead)
      (hAfter : IsBlank after) : Denotes name (lead ++ name ++ after)
  | generic {lead : List Char} (hName : IsIdentifier name) (hLead : Leads lead)
      (hOther : name ∉ wrappers) (arguments : List Char) :
      Denotes name (lead ++ name ++ '<' :: arguments)

theorem dropWhile_append_eq {p : Char → Bool} {before text : List Char}
    (hBefore : ∀ c ∈ before, p c) (hFirst : ∀ c ∈ text.head?, ¬ p c) :
    (before ++ text).dropWhile p = text := by
  rw [List.dropWhile_append_of_pos hBefore]
  cases text with
  | nil => rfl
  | cons c cs => exact List.dropWhile_cons_of_neg (hFirst c rfl)

/-- If the path ends in a character that stops the search, then the search stops within the path
and does not touch the rest. -/
theorem dropWhile_append_of_getLast? {p : Char → Bool} {path : List Char} {last : Char}
    (hLast : path.getLast? = some last) (hStop : ¬ p last) (rest : List Char) :
    (path.dropWhile p).getLast? = some last ∧
      (path ++ rest).dropWhile p = path.dropWhile p ++ rest := by
  induction path with
  | nil => simp at hLast
  | cons c cs ih =>
      by_cases hDrop : p c
      · have hMore : cs.getLast? = some last := by
          cases cs with
          | nil =>
              obtain rfl : c = last := by simpa using hLast
              exact absurd hDrop hStop
          | cons next cs => simpa using hLast
        simpa [hDrop] using ih hMore
      · simp [hDrop, hLast]

theorem forall_head?_append {P : Char → Prop} {cs rest : List Char} (h : ∀ c ∈ cs.head?, P c)
    (hRest : ∀ c ∈ rest.head?, P c) : ∀ c ∈ (cs ++ rest).head?, P c := by
  cases cs with
  | nil => exact hRest
  | cons c cs => exact h

theorem forall_getLast?_append {P : Char → Prop} {cs rest : List Char}
    (h : ∀ c ∈ cs.getLast?, P c) (hRest : ∀ c ∈ rest.getLast?, P c) :
    ∀ c ∈ (cs ++ rest).getLast?, P c := by
  intro c hLast
  rw [List.getLast?_append, Option.mem_def, Option.or_eq_some_iff] at hLast
  rcases hLast with hLast | ⟨-, hLast⟩
  · exact hRest c hLast
  · exact h c hLast

/-- Trimming drops the blanks in front and then those behind. The text between them may itself
contain blanks. -/
theorem trimmed_of_dropWhile_eq {cs text after : List Char}
    (hFront : cs.dropWhile Text.isBlank = text ++ after) (hAfter : IsBlank after)
    (hLast : ∀ c ∈ text.getLast?, ¬ Text.isBlank c) : Text.trimmed cs = text := by
  have hBack : (after.reverse ++ text.reverse).dropWhile Text.isBlank = text.reverse :=
    dropWhile_append_eq (fun c hc => hAfter c (List.mem_reverse.mp hc))
      (by rwa [List.head?_reverse])
  rw [Text.trimmed, hFront, List.reverse_append, hBack, List.reverse_reverse]

/-- Trimming takes off the blanks around a text, and nothing of the text. -/
theorem trimmed_append {before text after : List Char} (hBefore : IsBlank before)
    (hAfter : IsBlank after) (hFirst : ∀ c ∈ text.head?, ¬ Text.isBlank c)
    (hLast : ∀ c ∈ text.getLast?, ¬ Text.isBlank c) :
    Text.trimmed (before ++ text ++ after) = text := by
  cases text with
  | nil =>
      have hAll : ∀ c ∈ before ++ after, Text.isBlank c := by
        intro c hc
        exact (List.mem_append.mp hc).elim (hBefore c) (hAfter c)
      have hFront : (before ++ after ++ []).dropWhile Text.isBlank = [] ++ [] :=
        dropWhile_append_eq hAll nofun
      have hTrimmed := trimmed_of_dropWhile_eq hFront nofun hLast
      rwa [List.append_nil] at hTrimmed ⊢
  | cons c cs =>
      have hFront : (before ++ (c :: cs ++ after)).dropWhile Text.isBlank = c :: cs ++ after :=
        dropWhile_append_eq hBefore hFirst
      rw [← List.append_assoc] at hFront
      exact trimmed_of_dropWhile_eq hFront hAfter hLast

/-- References and blanks around a type are stripped, however many ampersands there are. -/
theorem bare_of_references {before rest after : List Char} (hBefore : IsBlank before)
    (hAfter : IsBlank after) (hFirst : ∀ c ∈ rest.head?, ¬ Text.isBlank c ∧ ¬ c == '&')
    (hLast : ∀ c ∈ rest.getLast?, ¬ Text.isBlank c) (references : Nat) :
    bare (before ++ List.replicate references '&' ++ rest ++ after) = rest := by
  have hReferences : ∀ c ∈ List.replicate references '&', ¬ Text.isBlank c ∧ c == '&' := by
    intro c hc
    obtain rfl := List.eq_of_mem_replicate hc
    decide
  have hTrimmed : Text.trimmed (before ++ (List.replicate references '&' ++ rest) ++ after) =
      List.replicate references '&' ++ rest := by
    refine trimmed_append hBefore hAfter (forall_head?_append ?_ fun c hc => (hFirst c hc).1)
      (forall_getLast?_append ?_ hLast)
    · exact fun c hc => (hReferences c (List.mem_of_mem_head? hc)).1
    · exact fun c hc => (hReferences c (List.mem_of_getLast? hc)).1
  rw [bare, List.append_assoc before, hTrimmed]
  exact dropWhile_append_eq (fun c hc => (hReferences c hc).2) fun c hc => (hFirst c hc).2

/-- A path in front of a type is kept by stripping, up to blanks and references of its own. -/
theorem exists_bare_eq_of_path {path rest after : List Char} (hOpen : '<' ∉ path)
    (hEnd : ∃ c ∈ path.getLast?, c = ':' ∨ c = '.') (hAfter : IsBlank after)
    (hLast : ∀ c ∈ rest.getLast?, ¬ Text.isBlank c) :
    ∃ left, IsPath left ∧ bare (path ++ rest ++ after) = left ++ rest := by
  obtain ⟨separator, hEnd, hSeparator⟩ := hEnd
  have hStop : ¬ Text.isBlank separator ∧ ¬ separator == '&' := by
    rcases hSeparator with rfl | rfl <;> decide
  obtain ⟨hKept, hFront⟩ := dropWhile_append_of_getLast? hEnd hStop.1 (rest ++ after)
  rw [← List.append_assoc, ← List.append_assoc] at hFront
  have hTrimmed : Text.trimmed (path ++ rest ++ after) = path.dropWhile Text.isBlank ++ rest := by
    refine trimmed_of_dropWhile_eq hFront hAfter (forall_getLast?_append ?_ hLast)
    intro c hc
    obtain rfl : separator = c := Option.some.inj (hKept.symm.trans hc)
    exact hStop.1
  obtain ⟨hLeft, hBare⟩ := dropWhile_append_of_getLast? (p := (· == '&')) hKept hStop.2 rest
  refine ⟨(path.dropWhile Text.isBlank).dropWhile (· == '&'), .inr ⟨?_, separator, hLeft,
    hSeparator⟩, ?_⟩
  · intro hMem
    exact hOpen ((List.dropWhile_sublist _).subset ((List.dropWhile_sublist _).subset hMem))
  · rw [bare, hTrimmed, hBare]

/-- Of what stands before a name, at most a path is left. -/
theorem exists_bare_eq {lead rest after : List Char} (hLead : Leads lead) (hAfter : IsBlank after)
    (hFirst : ∀ c ∈ rest.head?, ¬ Text.isBlank c ∧ ¬ c == '&')
    (hLast : ∀ c ∈ rest.getLast?, ¬ Text.isBlank c) :
    ∃ path, IsPath path ∧ bare (lead ++ rest ++ after) = path ++ rest := by
  obtain ⟨before, references, path, rfl, hBefore, hPath⟩ := hLead
  rcases hPath with rfl | ⟨hOpen, separator, hEnd, hSeparator⟩
  · refine ⟨[], .inl rfl, ?_⟩
    rw [List.append_nil]
    exact bare_of_references hBefore hAfter hFirst hLast references
  -- With a path, what stands before it is taken for a part of it.
  · refine exists_bare_eq_of_path ?_ ⟨separator, ?_, hSeparator⟩ hAfter hLast
    · have hBlank : '<' ∉ before := fun hMem => absurd (hBefore _ hMem) (by decide)
      simp [hBlank, hOpen]
    · rw [List.getLast?_append, Option.mem_def.mp hEnd]
      rfl

/-- The last part of a qualified name is its identifier, with either separator. -/
theorem lastPart_append {path name : List Char} (hPath : IsPath path)
    (hName : IsIdentifier name) : lastPart (path ++ name) = name := by
  have hPart : ∀ c ∈ name.reverse, (c != ':' && c != '.') = true := by
    intro c hc
    have hIn := (hName c (List.mem_reverse.mp hc)).1
    simp only [List.mem_cons, List.not_mem_nil, not_or] at hIn
    simp [hIn]
  have hStop : path.reverse.takeWhile (fun c => c != ':' && c != '.') = [] := by
    rcases hPath with rfl | ⟨-, separator, hEnd, hSeparator⟩
    · rfl
    · rw [← List.head?_reverse] at hEnd
      obtain ⟨rest, hRest⟩ := List.head?_eq_some_iff.mp hEnd
      rw [hRest]
      rcases hSeparator with rfl | rfl <;> rfl
  rw [lastPart, List.reverse_append, List.takeWhile_append_of_pos hPart, hStop, List.append_nil,
    List.reverse_reverse]

theorem base_append {text arguments : List Char} (hOpen : '<' ∉ text)
    (hArguments : ∀ c ∈ arguments.head?, c = '<') : base (text ++ arguments) = text := by
  have hText : ∀ c ∈ text, (c != '<') = true := by
    intro c hc
    exact bne_iff_ne.mpr (ne_of_mem_of_not_mem hc hOpen)
  rw [base, List.takeWhile_append_of_pos hText]
  cases arguments with
  | nil => exact List.append_nil text
  | cons c cs => simp [hArguments c rfl]

/-- The arguments reach from the first bracket to the last character, so nested brackets stay
inside. -/
theorem arguments?_append {text : List Char} (hOpen : '<' ∉ text) (inner : List Char) :
    arguments? (text ++ '<' :: (inner ++ ['>'])) = some inner := by
  have hRest : (text ++ '<' :: (inner ++ ['>'])).dropWhile (· != '<') = '<' :: (inner ++ ['>']) :=
    dropWhile_append_eq (fun c hc => bne_iff_ne.mpr (ne_of_mem_of_not_mem hc hOpen)) (by simp)
  simp [arguments?, hRest]

theorem arguments?_eq_none {text : List Char} (hOpen : '<' ∉ text) : arguments? text = none := by
  have hRest : (text ++ []).dropWhile (· != '<') = [] :=
    dropWhile_append_eq (fun c hc => bne_iff_ne.mpr (ne_of_mem_of_not_mem hc hOpen)) nofun
  rw [List.append_nil] at hRest
  rw [arguments?, hRest]

/-- A wrapper with arguments is looked through: the simple name is that of the argument. -/
theorem simpleChars_of_wrapper {cs inner : List Char} (hName : lastPart (base (bare cs)) ∈ wrappers)
    (hArguments : arguments? (bare cs) = some inner) : simpleChars cs = simpleChars inner := by
  rw [simpleChars]
  split
  · next hInner =>
      obtain rfl := Option.some.inj (hArguments.symm.trans hInner)
      exact if_pos (List.contains_iff_mem.mpr hName)
  · next hNone => simp [hArguments] at hNone

/-- Anything but a wrapper with arguments is called by its own last part. -/
theorem simpleChars_of_other {cs : List Char}
    (h : lastPart (base (bare cs)) ∉ wrappers ∨ arguments? (bare cs) = none) :
    simpleChars cs = lastPart (base (bare cs)) := by
  rw [simpleChars]
  split
  · next hInner =>
      rcases h with hOther | hNone
      · exact if_neg fun hName => hOther (List.contains_iff_mem.mp hName)
      · simp [hNone] at hInner
  · rfl

/-- The wrappers are identifiers themselves, which lets lemmas about identifiers speak about
them. -/
theorem isIdentifier_of_wrapper : ∀ wrapper ∈ wrappers, IsIdentifier wrapper := by decide

theorem IsIdentifier.not_mem_open {name : List Char} (h : IsIdentifier name) : '<' ∉ name :=
  fun hMem => absurd (h _ hMem).1 (by decide)

theorem IsPath.not_mem_open {path : List Char} (h : IsPath path) : '<' ∉ path := by
  rcases h with rfl | ⟨hOpen, -⟩
  · exact List.not_mem_nil
  · exact hOpen

/-- A type is split at its arguments, and its name is found before them. -/
theorem name_of_leads {lead name arguments after : List Char} (hLead : Leads lead)
    (hName : IsIdentifier name) (hArguments : ∀ c ∈ arguments.head?, c = '<')
    (hLast : ∀ c ∈ arguments.getLast?, ¬ Text.isBlank c) (hAfter : IsBlank after) :
    lastPart (base (bare (lead ++ name ++ arguments ++ after))) = name ∧
      ∃ front, '<' ∉ front ∧ bare (lead ++ name ++ arguments ++ after) = front ++ arguments := by
  have hFirst : ∀ c ∈ (name ++ arguments).head?, ¬ Text.isBlank c ∧ ¬ c == '&' := by
    refine forall_head?_append ?_ ?_
    · intro c hc
      obtain ⟨hPiece, hBlank⟩ := hName c (List.mem_of_mem_head? hc)
      simp only [List.mem_cons, List.not_mem_nil, not_or] at hPiece
      exact ⟨hBlank, by simp [hPiece]⟩
    · intro c hc
      obtain rfl := hArguments c hc
      decide
  obtain ⟨path, hPath, hBare⟩ := exists_bare_eq hLead hAfter hFirst
    (forall_getLast?_append (fun c hc => (hName c (List.mem_of_getLast? hc)).2) hLast)
  rw [← List.append_assoc, ← List.append_assoc] at hBare
  have hOpen : '<' ∉ path ++ name := by simp [hPath.not_mem_open, hName.not_mem_open]
  refine ⟨?_, path ++ name, hOpen, hBare⟩
  rw [hBare, base_append hOpen hArguments, lastPart_append hPath hName]

/-- Every text is a core and the blanks behind it. -/
theorem exists_eq_append_blank (text : List Char) : ∃ core after, text = core ++ after ∧
    IsBlank after ∧ ∀ c ∈ core.getLast?, ¬ Text.isBlank c := by
  refine ⟨(text.reverse.dropWhile Text.isBlank).reverse,
    (text.reverse.takeWhile Text.isBlank).reverse, ?_, ?_, ?_⟩
  · rw [← List.reverse_append, List.takeWhile_append_dropWhile, List.reverse_reverse]
  · intro c hc
    exact List.all_eq_true.mp List.all_takeWhile c (List.mem_reverse.mp hc)
  · intro c hc
    have hStopped := List.head?_dropWhile_not Text.isBlank text.reverse
    rw [List.getLast?_reverse, Option.mem_def] at hc
    rw [hc] at hStopped
    simpa using hStopped

/-- Trimming takes off blanks at either end, and nothing else. -/
theorem exists_eq_append_trimmed (cs : List Char) : ∃ before after,
    cs = before ++ Text.trimmed cs ++ after ∧ IsBlank before ∧ IsBlank after := by
  obtain ⟨core, after, hCore, hAfter, hLast⟩ := exists_eq_append_blank (cs.dropWhile Text.isBlank)
  refine ⟨cs.takeWhile Text.isBlank, after, ?_, ?_, hAfter⟩
  · rw [trimmed_of_dropWhile_eq hCore hAfter hLast, List.append_assoc, ← hCore,
      List.takeWhile_append_dropWhile]
  · intro c hc
    exact List.all_eq_true.mp List.all_takeWhile c hc

/-- What stands around the type in a wrapper makes no difference. -/
theorem Wraps.simpleChars_eq {inner whole : List Char} (h : Wraps inner whole) :
    simpleChars whole = simpleChars inner := by
  induction h with
  | bare => rfl
  | layer hLead hWrapper hText hAfter ih =>
      rename_i lead wrapper text after
      have hArguments : ∀ c ∈ ('<' :: (text ++ ['>'])).head?, c = '<' := by simp
      have hLast : ∀ c ∈ ('<' :: (text ++ ['>'])).getLast?, ¬ Text.isBlank c := by
        intro c hc
        obtain rfl : '>' = c := by simpa [List.getLast?_cons] using hc
        decide
      obtain ⟨hName, front, hOpen, hBare⟩ := name_of_leads hLead
        (isIdentifier_of_wrapper wrapper hWrapper) hArguments hLast hAfter
      have hWhole : lead ++ wrapper ++ '<' :: text ++ '>' :: after =
          lead ++ wrapper ++ '<' :: (text ++ ['>']) ++ after := by simp
      rw [hWhole, ← ih]
      refine simpleChars_of_wrapper (by rwa [hName]) ?_
      rw [hBare, arguments?_append hOpen]

/-- Whatever way a type is written, under any number of wrappers, its simple name is the one it
denotes. -/
theorem Denotes.simpleChars_eq {name text : List Char} (h : Denotes name text) :
    simpleChars text = name := by
  cases h with
  | plain hName hLead hAfter =>
      obtain ⟨hSimple, front, hOpen, hBare⟩ :=
        name_of_leads hLead hName (by simp : ∀ c ∈ [].head?, c = '<') (by simp) hAfter
      rw [List.append_nil] at hSimple hBare
      rw [List.append_nil] at hBare
      rw [simpleChars_of_other (.inr (by rw [hBare, arguments?_eq_none hOpen])), hSimple]
  | generic hName hLead hOther arguments =>
      rename_i lead
      obtain ⟨core, after, hCore, hAfter, hEnd⟩ := exists_eq_append_blank ('<' :: arguments)
      have hArguments : ∀ c ∈ core.head?, c = '<' := by
        cases core with
        | nil => exact nofun
        | cons c cs =>
            intro first hFirst
            rw [← Option.some.inj hFirst]
            exact (List.cons.inj hCore).1.symm
      obtain ⟨hSimple, -⟩ := name_of_leads hLead hName hArguments hEnd hAfter
      rw [List.append_assoc _ core, ← hCore] at hSimple
      rw [simpleChars_of_other (.inl (by rwa [hSimple])), hSimple]

end TypeName

namespace Catalog

/-- The catalog that entries make, added one after the other. -/
def ofEntries (entries : List (String × EventKind)) : Catalog :=
  entries.foldl (fun catalog (name, kind) => catalog.add name kind) empty

/-- Registering entries one by one is a merge of tables, hence the last registration of a name
wins. -/
theorem kinds_foldl_add (entries : List (String × EventKind)) (catalog : Catalog) :
    (entries.foldl (fun catalog (name, kind) => catalog.add name kind) catalog).kinds =
      Fields.insertAll entries catalog.kinds := by
  induction entries generalizing catalog with
  | nil => rfl
  | cons entry entries ih => exact ih (catalog.add entry.1 entry.2)

/-- A declared type is looked up by its simple name only. -/
theorem kind?_ofEntries (entries : List (String × EventKind)) (declared : String) :
    (ofEntries entries).kind? (some declared) =
      (Fields.ofList entries).get? (TypeName.simple declared) := by
  rw [kind?, ofEntries, Option.bind_some, kinds_foldl_add]
  rfl

example : standard = ofEntries
    [("ApiGatewayProxyRequest", .apiGatewayV1), ("ApiGatewayV2httpRequest", .apiGatewayV2),
      ("S3Event", .objectStorage), ("SnsEvent", .notification), ("SqsEvent", .queue),
      ("ApiGatewayCustomAuthorizerRequest", .authorizer), ("KinesisEvent", .stream)] := rfl

end Catalog

namespace TypeName

theorem denotes_self {name : List Char} (hName : IsIdentifier name) : Denotes name name := by
  have hLead : Leads [] := ⟨[], 0, [], rfl, by decide, by decide⟩
  have hPlain : Denotes name ([] ++ name ++ []) := .plain hName hLead (by decide)
  simpa using hPlain

theorem Denotes.isIdentifier {name text : List Char} (h : Denotes name text) :
    IsIdentifier name := by
  cases h <;> assumption

theorem simple_of_wraps {inner whole : String} (h : Wraps inner.toList whole.toList) :
    simple whole = simple inner := by
  rw [simple, simple, h.simpleChars_eq]

theorem simple_of_denotes {name text : String} (h : Denotes name.toList text.toList) :
    simple text = name := by
  rw [simple, h.simpleChars_eq, String.ofList_toList]

/-- A type that is declared in wrappers is treated by its own name: as the kind of event that was
last entered for that name, and as a final form if the name is one. -/
theorem simple_recognizes :
    (∀ inner whole : String, Wraps inner.toList whole.toList → simple whole = simple inner) ∧
    (∀ name text : String, Denotes name.toList text.toList → simple text = name) ∧
    ∀ name text whole : String, Denotes name.toList text.toList →
      Wraps text.toList whole.toList →
      (∀ entries kind, (Catalog.ofEntries entries).kind? (some whole) = some kind ↔
        Fields.HasLast entries name kind) ∧
      (∀ entries, (Catalog.ofEntries entries).kind? (some whole) = none ↔
        ∀ kind, (name, kind) ∉ entries) ∧
      (Reply.isFinalType (some whole) ↔ name ∈ Reply.finalTypes) ∧
      ∀ request response codec, Reply.encode request response codec (some whole) =
        Reply.encode request response codec (some name) := by
  refine ⟨fun _ _ => simple_of_wraps, fun _ _ => simple_of_denotes, ?_⟩
  intro name text whole hDenotes hWraps
  have hWhole : simple whole = name := (simple_of_wraps hWraps).trans (simple_of_denotes hDenotes)
  have hName : simple name = name := simple_of_denotes (denotes_self hDenotes.isIdentifier)
  have hFinal : Reply.isFinalType (some whole) = Reply.isFinalType (some name) := by
    rw [Reply.isFinalType, Reply.isFinalType, hWhole, hName]
  refine ⟨?_, ?_, ?_, ?_⟩
  · intro entries kind
    rw [Catalog.kind?_ofEntries, hWhole, Fields.get?_ofList_eq_some_iff]
  · intro entries
    rw [Catalog.kind?_ofEntries, hWhole, Fields.get?_ofList_eq_none_iff]
  · rw [Reply.isFinalType, hWhole, List.contains_iff_mem]
  · intro request response codec
    rw [Reply.encode, Reply.encode, hFinal]

/-- An event in two wrappers, with arguments of its own. -/
def wrappedEvent : String := " &&app::LambdaEvent< &core.Message<events::S3Event<u8> > >\t"

theorem simple_recognizes_wrappedEvent :
    simple wrappedEvent = "S3Event" ∧
    (Catalog.ofEntries [("S3Event", .queue), ("SqsEvent", .queue), ("S3Event", .stream)]).kind?
      (some wrappedEvent) = some .stream ∧
    Reply.isFinalType (some wrappedEvent) = false ∧
    simple "alloc::vec::Vec<S3Event>" = "Vec" := by
  obtain ⟨hWraps, hDenotes, hRecognizes⟩ := simple_recognizes
  have hEvent : Denotes "S3Event".toList "events::S3Event<u8> ".toList := by
    rw [show "events::S3Event<u8> ".toList =
      "events::".toList ++ "S3Event".toList ++ '<' :: "u8> ".toList by decide]
    exact .generic (by decide) ⟨[], 0, _, rfl, by decide, by decide⟩ (by decide) _
  have hInner : Wraps "events::S3Event<u8> ".toList
      " &core.Message<events::S3Event<u8> > ".toList := by
    rw [show " &core.Message<events::S3Event<u8> > ".toList = " &core.".toList ++
      "Message".toList ++ '<' :: "events::S3Event<u8> ".toList ++ '>' :: " ".toList by decide]
    exact .layer ⟨[' '], 1, "core.".toList, by decide, by decide, by decide⟩ (by decide) .bare
      (by decide)
  have hOuter : Wraps "events::S3Event<u8> ".toList wrappedEvent.toList := by
    rw [show wrappedEvent.toList = " &&app::".toList ++ "LambdaEvent".toList ++
      '<' :: " &core.Message<events::S3Event<u8> > ".toList ++ '>' :: "\t".toList by decide]
    exact .layer ⟨[' '], 2, "app::".toList, by decide, by decide, by decide⟩ (by decide) hInner
      (by decide)
  obtain ⟨hKind, -, hFinal, -⟩ := hRecognizes _ _ _ hEvent hOuter
  refine ⟨(hWraps _ _ hOuter).trans (hDenotes _ _ hEvent), ?_, ?_, ?_⟩
  · exact (hKind _ _).mpr ⟨[("S3Event", .queue), ("SqsEvent", .queue)], [], rfl, nofun⟩
  · exact Bool.eq_false_iff.mpr fun h => absurd (hFinal.mp h) (by decide)
  · refine hDenotes _ _ ?_
    rw [show "alloc::vec::Vec<S3Event>".toList =
      "alloc::vec::".toList ++ "Vec".toList ++ '<' :: "S3Event>".toList by decide]
    exact .generic (by decide) ⟨[], 0, _, rfl, by decide, by decide⟩ (by decide) _

end TypeName

end InvocationBridge
