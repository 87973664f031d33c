import InvocationBridge.Proofs.Http
import InvocationBridge.Proofs.Utf8
import InvocationBridge.Web.Request

/-!
Requests after any number of calls on them.

`performAll` makes calls in any order. The values under a name are what the calls about that name
leave (`Leaves`): the last value that was set, and the values that were added later. Query
parameters are told apart by their names as they are and headers by theirs in either case, and a
call about one of them never counts for another.
-/

namespace InvocationBridge.Request

/-- A change to the values under one name. -/
inductive Change (α : Type) where
  | set (value : α)
  | add (value : α)

namespace Change

variable {α : Type}

def apply (values : List α) : Change α → List α
  | set value => [value]
  | add value => values ++ [value]

/-- The values that changes leave where there were none before. -/
inductive Leaves : List (Change α) → List α → Prop where
  /-- Without any value that was set, all that were added stay. -/
  | added (values : List α) : Leaves (values.map add) values
  /-- Otherwise the last one that was set stays, with those that were added later. -/
  | replaced (before : List (Change α)) (value : α) (later : List α) :
      Leaves (before ++ set value :: later.map add) (value :: later)

theorem Leaves.append_add {changes : List (Change α)} {values : List α} (h : Leaves changes values)
    (value : α) : Leaves (changes ++ [add value]) (values ++ [value]) := by
  cases h with
  | added =>
      have hAdded := Leaves.added (values ++ [value])
      rwa [List.map_append] at hAdded
  | replaced before first later =>
      have hReplaced := Leaves.replaced before first (later ++ [value])
      rwa [List.map_append, ← List.cons_append, ← List.append_assoc] at hReplaced

/-- What is left of changes is found by making them in order. The induction is on the changes from
the end, where the last one decides. -/
theorem leaves_foldl_apply (changes : List (Change α)) :
    Leaves changes (changes.foldl apply []) := by
  induction changes using List.reverseRecOn with
  | nil => exact .added []
  | append_singleton changes change ih =>
      rw [List.foldl_concat]
      cases change with
      | set value => exact .replaced changes value []
      | add value => exact ih.append_add value

theorem foldl_apply_add (values start : List α) :
    (values.map add).foldl apply start = start ++ values := by
  induction values generalizing start with
  | nil => simp
  | cons value values ih => simp [ih, apply]

/-- Conversely, there is only one thing that changes leave. -/
theorem Leaves.foldl_apply_eq {changes : List (Change α)} {values : List α}
    (h : Leaves changes values) : changes.foldl apply [] = values := by
  cases h with
  | added => exact foldl_apply_add values []
  | replaced before value later =>
      rw [List.foldl_append, List.foldl_cons, foldl_apply_add]
      rfl

/-- Changes leave one thing only. -/
theorem Leaves.unique {changes : List (Change α)} {values others : List α}
    (h : Leaves changes values) (hOthers : Leaves changes others) : values = others :=
  h.foldl_apply_eq.symm.trans hOthers.foldl_apply_eq

end Change

/-- A header name as callers write it, in either case. -/
structure WrittenName where
  text : String
  name : Http.HeaderName
  spells : Http.Spells text name

/-- A call on a request. -/
inductive Call where
  | putQuery (name value : String)
  | addQuery (name value : String)
  | putHeader (name : WrittenName) (value : Http.HeaderValue)
  | addHeader (name : WrittenName) (value : Http.HeaderValue)
  | withContentType (text : String)
  | withBody (body : Bytes)

/-- Texts that differ in the case of letters at most. -/
def SameName (text other : String) : Prop :=
  text.toList.map Char.toLower = other.toList.map Char.toLower

instance (text other : String) : Decidable (SameName text other) :=
  inferInstanceAs (Decidable (_ = _))

namespace Call

def perform (r : Request) : Call → Logged Request
  | putQuery name value => return r.putQuery name value
  | addQuery name value => return r.addQuery name value
  | putHeader name value => return r.putHeader name.name value
  | addHeader name value => return r.addHeader name.name value
  | withContentType text => r.withContentType text
  | withBody body => return r.withBody body

/-- What a call changes about the values of a query parameter. -/
def queryChange? (name : String) : Call → Option (Change String)
  | putQuery other value => if other = name then some (.set value) else none
  | addQuery other value => if other = name then some (.add value) else none
  | _ => none

/-- What a call changes about the values of a header. A content type is set as any other header, if
it is a header value at all. -/
def headerChange? (name : String) : Call → Option (Change Http.HeaderValue)
  | putHeader other value => if SameName other.text name then some (.set value) else none
  | addHeader other value => if SameName other.text name then some (.add value) else none
  | withContentType text =>
    if SameName "content-type" name then (Http.HeaderValue.ofText? text).map .set else none
  | _ => none

/-- The body that a call sets. -/
def body? : Call → Option Bytes
  | withBody body => some body
  | _ => none

end Call

/-- Make calls one after the other. -/
def performAll (r : Request) : List Call → Logged Request
  | [] => return r
  | call :: calls => do performAll (← call.perform r) calls

/-- Setting a parameter replaces its values and those of no other. -/
theorem queryValues_putQuery (r : Request) (name other value : String) :
    (r.putQuery name value).queryValues other =
      if name = other then [value] else r.queryValues other := by
  rw [queryValues, putQuery, Fields.get?_insert]
  by_cases hName : name = other
  · rw [if_pos hName.symm, if_pos hName, Option.getD_some]
  · rw [if_neg (Ne.symm hName), if_neg hName, queryValues]

/-- Adding to a parameter keeps its values and those of all others. -/
theorem queryValues_addQuery (r : Request) (name other value : String) :
    (r.addQuery name value).queryValues other =
      if name = other then r.queryValues other ++ [value] else r.queryValues other := by
  rw [queryValues, addQuery, Fields.get?_insert]
  by_cases hName : name = other
  · rw [if_pos hName.symm, if_pos hName, Option.getD_some, hName]
  · rw [if_neg (Ne.symm hName), if_neg hName, queryValues]

theorem queryValues_withContentType (r : Request) (text name : String) :
    (r.withContentType text).value.queryValues name = r.queryValues name := by
  rw [withContentType]
  cases Http.HeaderValue.ofText? text <;> rfl

/-- A call changes the values of a parameter if it is about that parameter, and not otherwise. -/
theorem queryValues_perform (r : Request) (call : Call) (name : String) :
    (call.perform r).value.queryValues name =
      ((call.queryChange? name).map (Change.apply (r.queryValues name))).getD
        (r.queryValues name) := by
  cases call with
  | putQuery other value =>
      rw [Call.perform, Logged.value_pure, queryValues_putQuery, Call.queryChange?]
      split <;> rfl
  | addQuery other value =>
      rw [Call.perform, Logged.value_pure, queryValues_addQuery, Call.queryChange?]
      split <;> rfl
  | withContentType text => exact queryValues_withContentType r text name
  | _ => rfl

theorem sameName_iff {text other : String} {name otherName : Http.HeaderName}
    (h : Http.Spells text name) (hOther : Http.Spells other otherName) :
    SameName text other ↔ name = otherName := by
  obtain ⟨-, -, hText⟩ := h
  obtain ⟨-, -, hOtherText⟩ := hOther
  rw [SameName, hText, hOtherText, String.toList_inj]
  constructor
  · intro hSame
    cases name
    cases otherName
    cases hSame
    rfl
  · intro hSame
    rw [hSame]

theorem spells_contentType : Http.Spells "content-type" .contentType := by decide

/-- The same for headers, where the name may be spelled in any case, and calls with invalid values
change nothing. -/
theorem values_perform (r : Request) (call : Call) {text : String} {name : Http.HeaderName}
    (hName : Http.Spells text name) :
    (call.perform r).value.headers.values name =
      ((call.headerChange? text).map (Change.apply (r.headers.values name))).getD
        (r.headers.values name) := by
  cases call with
  | putHeader written value =>
      have hPut := r.headers.values_put written.name name [value]
      rw [Call.headerChange?]
      simp only [sameName_iff written.spells hName]
      refine hPut.trans ?_
      split <;> rfl
  | addHeader written value =>
      have hPut := r.headers.values_put written.name name
        (r.headers.values written.name ++ [value])
      rw [Call.headerChange?]
      simp only [sameName_iff written.spells hName]
      refine hPut.trans ?_
      split
      · next hSame => rw [hSame]; rfl
      · rfl
  | withContentType contentType =>
      rw [Call.headerChange?, Call.perform, withContentType]
      simp only [sameName_iff spells_contentType hName]
      cases Http.HeaderValue.ofText? contentType with
      | none => simp
      | some value =>
          refine (r.headers.values_put .contentType name [value]).trans ?_
          split <;> rfl
  | _ => rfl

/-- Whatever part of a request each call changes by itself is changed by calls one after the
other. -/
theorem view_performAll {α : Type} (view : Request → List α) (change? : Call → Option (Change α))
    (hStep : ∀ r (call : Call), view (call.perform r).value =
      ((change? call).map (Change.apply (view r))).getD (view r))
    (r : Request) (calls : List Call) :
    view (performAll r calls).value = (calls.filterMap change?).foldl Change.apply (view r) := by
  induction calls generalizing r with
  | nil => rfl
  | cons call calls ih =>
      rw [performAll, Logged.value_bind, ih, hStep]
      cases hChange : change? call with
      | none => rw [List.filterMap_cons_none hChange]; rfl
      | some change => rw [List.filterMap_cons_some hChange]; rfl

/-- All calls together leave of a parameter what the changes to it leave. -/
theorem leaves_queryValues (method : Http.Method) (path : String) (calls : List Call)
    (name : String) :
    Change.Leaves (calls.filterMap (Call.queryChange? name))
      ((performAll { method := method, path := path } calls).value.queryValues name) := by
  have hView := view_performAll (fun r => r.queryValues name) (Call.queryChange? name)
    (fun r call => queryValues_perform r call name) { method := method, path := path } calls
  rw [hView]
  exact Change.leaves_foldl_apply _

/-- All calls together leave of a header what the changes to it leave. -/
theorem leaves_values (method : Http.Method) (path : String) (calls : List Call) {text : String}
    {name : Http.HeaderName} (hName : Http.Spells text name) :
    Change.Leaves (calls.filterMap (Call.headerChange? text))
      ((performAll { method := method, path := path } calls).value.headers.values name) := by
  have hView := view_performAll (fun r => r.headers.values name) (Call.headerChange? text)
    (fun r call => values_perform r call hName) { method := method, path := path } calls
  rw [hView]
  exact Change.leaves_foldl_apply _

theorem line_perform (r : Request) (call : Call) :
    (call.perform r).value.method = r.method ∧ (call.perform r).value.path = r.path := by
  cases call with
  | withContentType text =>
      rw [Call.perform, withContentType]
      cases Http.HeaderValue.ofText? text <;> exact ⟨rfl, rfl⟩
  | _ => exact ⟨rfl, rfl⟩

theorem line_performAll (r : Request) (calls : List Call) :
    (performAll r calls).value.method = r.method ∧ (performAll r calls).value.path = r.path := by
  induction calls generalizing r with
  | nil => exact ⟨rfl, rfl⟩
  | cons call calls ih =>
      obtain ⟨hMethod, hPath⟩ := line_perform r call
      rw [← hMethod, ← hPath]
      exact ih (call.perform r).value

theorem body_perform (r : Request) (call : Call) :
    (call.perform r).value.body = call.body?.getD r.body := by
  cases call with
  | withContentType text =>
      rw [Call.perform, withContentType]
      cases Http.HeaderValue.ofText? text <;> rfl
  | _ => rfl

theorem body_performAll (r : Request) (calls : List Call) :
    (performAll r calls).value.body = (calls.filterMap Call.body?).getLast?.getD r.body := by
  induction calls generalizing r with
  | nil => rfl
  | cons call calls ih =>
      rw [performAll, Logged.value_bind, ih, body_perform]
      cases hBody : call.body? with
      | none => rw [List.filterMap_cons_none hBody]; rfl
      | some body => rw [List.filterMap_cons_some hBody, List.getLast?_cons]; rfl

/-- Octets that can be shown: the tab, the space, and visible ASCII. -/
def Readable (b : UInt8) : Prop := b = 0x09 ∨ 0x20 ≤ b ∧ b ≤ 0x7E

/-- The readable octets are those that a header is shown with. -/
theorem isPlainOctet_iff (b : UInt8) : Http.isPlainOctet b = true ↔ Readable b := by
  simp only [Http.isPlainOctet, Readable, UInt8.le_iff_toNat_le, UInt8.lt_iff_toNat_lt,
    ← UInt8.toNat_inj, UInt8.reduceToNat, Bool.or_eq_true, Bool.and_eq_true, decide_eq_true_eq,
    beq_iff_eq]
  omega

/-- What is shown of the values under a name. Only the first of them counts, whatever comes after
it. -/
inductive Shows : List Http.HeaderValue → Option String → Prop where
  | absent : Shows [] none
  | shown {value : Http.HeaderValue} {rest : List Http.HeaderValue} {text : String}
      (hReadable : ∀ b ∈ value.octets, Readable b) (hText : Bytes.ofText text = value.octets) :
      Shows (value :: rest) (some text)
  | hidden {value : Http.HeaderValue} {rest : List Http.HeaderValue} {b : UInt8}
      (hOctet : b ∈ value.octets) (hHidden : ¬Readable b) : Shows (value :: rest) none

/-- Readable octets make a text of the same octets. -/
theorem ofText_ofList_map_ofNat {octets : Bytes} (h : ∀ b ∈ octets, Readable b) :
    Bytes.ofText (String.ofList (octets.map fun b => Char.ofNat b.toNat)) = octets := by
  rw [Bytes.ofText, String.toList_ofList]
  apply Utf8.encode_map_ofNat
  intro b hOctet
  rcases h b hOctet with rfl | ⟨-, hUpper⟩
  · decide
  · exact Nat.lt_of_le_of_lt (UInt8.le_iff_toNat_le.mp hUpper) (by decide)

/-- Of several values the first is shown, provided that all its octets are readable. -/
theorem shows_text? (values : List Http.HeaderValue) :
    Shows values (values.head?.bind Http.HeaderValue.text?) := by
  cases values with
  | nil => exact .absent
  | cons value rest =>
      rw [List.head?_cons, Option.bind_some, Http.HeaderValue.text?]
      by_cases hPlain : value.octets.all Http.isPlainOctet = true
      · rw [if_pos hPlain]
        have hReadable : ∀ b ∈ value.octets, Readable b := by
          intro b hOctet
          exact (isPlainOctet_iff b).mp (List.all_eq_true.mp hPlain b hOctet)
        exact .shown hReadable (ofText_ofList_map_ofNat hReadable)
      · rw [if_neg hPlain]
        obtain ⟨b, hOctet, hHidden⟩ := List.all_eq_false.mp (Bool.not_eq_true _ ▸ hPlain)
        exact .hidden hOctet fun hReadable => hHidden ((isPlainOctet_iff b).mpr hReadable)

theorem header?_of_spells {text : String} {name : Http.HeaderName} (h : Http.Spells text name)
    (r : Request) : r.header? text = (r.headers.values name).head?.bind Http.HeaderValue.text? := by
  rw [header?, Http.Headers.text?, Http.HeaderName.parse?_eq_some_iff.mpr h]
  rfl

theorem header?_of_no_name {text : String} (h : ∀ name, ¬Http.Spells text name) (r : Request) :
    r.header? text = none := by
  have hNone : Http.HeaderName.parse? text = none := by
    apply Option.eq_none_iff_forall_ne_some.mpr
    intro name hName
    exact h name (Http.HeaderName.parse?_eq_some_iff.mp hName)
  rw [header?, Http.Headers.text?, hNone]
  rfl

/-- What calls on a new request come to, each part by the calls that are about it. -/
structure Replays (method : Http.Method) (path : String) (calls : List Call) (final : Request) :
    Prop where
  line : final.method = method ∧ final.path = path
  body : final.body = (calls.filterMap Call.body?).getLast?.getD []
  queryValues : ∀ name,
    Change.Leaves (calls.filterMap (Call.queryChange? name)) (final.queryValues name)
  query? : ∀ name, final.query? name = (final.queryValues name).head?
  query_apart : ∀ name (others : List Call),
    others.filterMap (Call.queryChange? name) = calls.filterMap (Call.queryChange? name) →
    (performAll { method := method, path := path } others).value.queryValues name =
      final.queryValues name
  values : ∀ text name, Http.Spells text name →
    Change.Leaves (calls.filterMap (Call.headerChange? text)) (final.headers.values name)
  header? : ∀ text name, Http.Spells text name →
    Shows (final.headers.values name) (final.header? text)
  unnamed : ∀ text, (∀ name, ¬Http.Spells text name) → final.header? text = none
  contentType? : final.contentType? = final.header? "content-type"
  headers_apart : ∀ text name, Http.Spells text name → ∀ others : List Call,
    others.filterMap (Call.headerChange? text) = calls.filterMap (Call.headerChange? text) →
    (performAll { method := method, path := path } others).value.headers.values name =
      final.headers.values name

/-- Calls on a new request are replayed exactly, in whatever order they were made: name by name the
values are those that the calls about the name leave, and what is shown of a header is the first of
its values. -/
theorem replays_performAll (method : Http.Method) (path : String) (calls : List Call) :
    Replays method path calls (performAll { method := method, path := path } calls).value := by
  constructor
  · exact line_performAll _ calls
  · exact body_performAll _ calls
  · exact leaves_queryValues method path calls
  · intro name
    rfl
  · intro name others hSame
    have hOthers := leaves_queryValues method path others name
    rw [hSame] at hOthers
    exact hOthers.unique (leaves_queryValues method path calls name)
  · intro text name hName
    exact leaves_values method path calls hName
  · intro text name hName
    rw [header?_of_spells hName]
    exact shows_text? _
  · intro text hNone
    exact header?_of_no_name hNone _
  · rfl
  · intro text name hName others hSame
    have hOthers := leaves_values method path others hName
    rw [hSame] at hOthers
    exact hOthers.unique (leaves_values method path calls hName)

end InvocationBridge.Request
