import InvocationBridge.Proofs.Json.Value
import InvocationBridge.Proofs.Numeral
import InvocationBridge.Proofs.PetStore.RouteTable

/-!
Pages of pets, and the limits that requests set to them.

A limit is any numeral, however many digits it has, and one beyond the largest page stands for that
page. But a number that does not fit a word is taken for no number at all.
-/

namespace InvocationBridge

namespace Pet

/-- A pet as it is read back: its fields in order. -/
def value (p : Pet) : Json := .obj (Fields.ofList p.fields)

theorem plain_of_mem_fields {p : Pet} {field : String × Json} (h : field ∈ p.fields)
    (depth : Nat) : field.2.Plain depth := by
  obtain ⟨id, breed, name, date⟩ := p
  cases date with
  | none =>
      simp only [fields, List.append_nil, List.mem_cons, List.not_mem_nil, or_false] at h
      rcases h with rfl | rfl | rfl <;> exact .str _
  | some date =>
      simp only [fields, List.cons_append, List.nil_append, List.mem_cons, List.not_mem_nil,
        or_false] at h
      rcases h with rfl | rfl | rfl | rfl <;> exact .str _

/-- A list of pets reads back as the list of their values. -/
theorem parse_bytes_arr (pets : List Pet) :
    Json.parse (Json.arr (pets.map toJson)).bytes = .ok (.arr (pets.map value)) := by
  have hPlain : ∀ record ∈ pets.map fields, ∀ field ∈ record, field.2.Plain 125 := by
    intro record hRecord field hField
    obtain ⟨p, -, rfl⟩ := List.mem_map.mp hRecord
    exact plain_of_mem_fields hField 125
  have hParse := Json.parse_bytes_arr hPlain
  rwa [List.map_map, List.map_map] at hParse

end Pet

namespace PetStore

open Dispatcher

/-- The pets that are made up for some identifiers, with seeds that count from `start` on. -/
def page (start : Nat) (ids : List Uuid) : List Pet :=
  (ids.zipIdx start).map fun (id, seed) => madeUp id.toString seed

/-- A page has as many pets as asked for, with identifiers that the random source made up. -/
theorem exists_samples (start count : Nat) (s : RandomSource) :
    ∃ ids s', ids.length = count ∧
      (samples (List.range' start count)).result s = (page start ids, s') := by
  induction count generalizing start s with
  | zero => exact ⟨[], s, rfl, rfl⟩
  | succ count ih =>
      obtain ⟨id, s₁, hId⟩ : ∃ (id : Uuid) (s₁ : RandomSource),
          newId.result s = (id.toString, s₁) := ⟨_, _, rfl⟩
      obtain ⟨ids, s₂, hLength, hRest⟩ := ih (start + 1) s₁
      refine ⟨id :: ids, s₂, congrArg Nat.succ hLength, ?_⟩
      simp only [List.range'_succ, samples, Effect.result_bind, Effect.result_pure, hId, hRest]
      rfl

/-- A response with so many made-up pets in a JSON array. -/
structure ListsPets (count : Nat) (response : Response) : Prop extends Succeeds response where
  body : ∃ ids, ids.length = count ∧
    Json.parse response.body = .ok (.arr ((page 0 ids).map Pet.value))

/-- A response that refuses a limit and quotes it. -/
def RefusesLimit (limit : String) (response : Response) : Prop :=
  Refuses 500 ("Invalid limit: " ++ limit) none response

/-- A page size that can be read is the number of pets on the page. -/
theorem exists_browse_lists {request : Request} {count : Nat}
    (hPage : pageSize request = .ok count) (s : RandomSource) :
    ∃ left s', (browse request [] {}).result s = ((.returned (), left), s') ∧
      ListsPets count left := by
  obtain ⟨ids, s', hLength, hSamples⟩ := exists_samples 0 count s
  rw [← List.range_eq_range'] at hSamples
  refine ⟨(respond {} (.arr ((page 0 ids).map Pet.toJson))).2, s', ?_, succeeds_respond _, ids, hLength,
    Pet.parse_bytes_arr (page 0 ids)⟩
  simp only [browse, hPage, Effect.result_bind, Effect.result_pure, Effect.result_liftM, hSamples]
  rfl

theorem refusesLimit_settled (limit : String) :
    RefusesLimit limit (({} : Response).settled (.failed s!"Invalid limit: {limit}" none)) :=
  refuses_settled (.failed ..)

/-- Numerals of one word are read, and clamped at the largest page. -/
theorem pageSize_of_bound {request : Request} {limit : String} {digits : List Char} {n : Nat}
    (hLimit : request.query? "limit" = some limit) (hHolds : Numeral.Holds limit.toList digits)
    (hSpells : Numeral.Spells digits n) (hBound : n < UInt64.size) :
    pageSize request = .ok (min n 100) := by
  have hNumeral : Numeral.parse? UInt64.size limit.toList = some n :=
    Numeral.parse?_eq_some_iff.mpr ⟨digits, hHolds, hSpells, hBound⟩
  rw [pageSize, hLimit]
  simp only [hNumeral]
  rfl

/-- A numeral beyond the word is refused before it could be clamped. -/
theorem pageSize_of_too_large {request : Request} {limit : String}
    (hLimit : request.query? "limit" = some limit)
    (hLarge : ∀ digits n, Numeral.Holds limit.toList digits → Numeral.Spells digits n →
      UInt64.size ≤ n) :
    pageSize request = .error (.failed s!"Invalid limit: {limit}" none) := by
  have hNumeral : Numeral.parse? UInt64.size limit.toList = none :=
    Numeral.parse?_eq_none_iff.mpr hLarge
  rw [pageSize, hLimit]
  simp only [hNumeral]

section Limits

variable {d : Dispatcher RandomSource (RouteMatch RandomSource)} {s s₁ : RandomSource}
  {request : Request} {limit : String}

theorem routed_browse (hMethod : request.method = .get)
    (hPath : Path.segments request.path = ["pets"]) :
    Routed request.method (Path.segments request.path) browse [] := by
  rw [hMethod, hPath]
  exact .browse

/-- The page as it is served, by any dispatcher that runs the pet store. -/
theorem listsPets_of_pageSize (hEngages : d.Engages s store s₁) (hMethod : request.method = .get)
    (hPath : Path.segments request.path = ["pets"]) {count : Nat}
    (hPage : pageSize request = .ok count) :
    ListsPets count ((d.serve request {}).result s).1.response := by
  obtain ⟨left, s', hBrowse, hLists⟩ := exists_browse_lists hPage s₁
  rw [← attempt_of_routed (routed_browse hMethod hPath)] at hBrowse
  rw [serves_returned hEngages hBrowse]
  exact hLists

theorem refusesLimit_of_pageSize (hEngages : d.Engages s store s₁)
    (hMethod : request.method = .get) (hPath : Path.segments request.path = ["pets"])
    (hPage : pageSize request = .error (.failed s!"Invalid limit: {limit}" none)) :
    RefusesLimit limit ((d.serve request {}).result s).1.response := by
  have hBrowse : (attempt store request {}).result s₁ =
      ((.failed (.failed s!"Invalid limit: {limit}" none), {}), s₁) := by
    rw [attempt_of_routed (routed_browse hMethod hPath), browse, hPage]
    rfl
  rw [serves_failed hEngages (isKept_of_pageSize hPage) hBrowse]
  exact refusesLimit_settled limit

/-- A request for pets is answered with ten of them, or with as many as its limit says, up to a
hundred, if that is a numeral for a number below 2^64. Every other limit is refused, numerals for
larger numbers included. -/
theorem serve_lists (hEngages : d.Engages s store s₁) (hMethod : request.method = .get)
    (hPath : Path.segments request.path = ["pets"]) :
    let served := ((d.serve request {}).result s).1
    served.ending = .ok () ∧
    (request.query? "limit" = none → ListsPets 10 served.response) ∧
    (∀ limit digits n, request.query? "limit" = some limit →
      Numeral.Holds limit.toList digits → Numeral.Spells digits n → n < UInt64.size →
      ListsPets (min n 100) served.response) ∧
    ∀ limit, request.query? "limit" = some limit →
      (∀ digits n, Numeral.Holds limit.toList digits → Numeral.Spells digits n → UInt64.size ≤ n) →
      RefusesLimit limit served.response := by
  refine ⟨?_, ?_, ?_, ?_⟩
  · obtain ⟨ending, final, s₂, hRuns⟩ := exists_runs store request {} s₁
    rw [(result_serve_iff ..).mpr (.ran hEngages hRuns)]
    exact hRuns.ending_eq_ok isCalm_store
  · intro hNone
    have hPage : pageSize request = .ok 10 := by
      rw [pageSize, hNone]
      rfl
    exact listsPets_of_pageSize hEngages hMethod hPath hPage
  · intro limit digits n hLimit hHolds hSpells hBound
    exact listsPets_of_pageSize hEngages hMethod hPath
      (pageSize_of_bound hLimit hHolds hSpells hBound)
  · intro limit hLimit hLarge
    exact refusesLimit_of_pageSize hEngages hMethod hPath (pageSize_of_too_large hLimit hLarge)

end Limits

/-- A request for as many pets as the text says. -/
def pageRequest (limit : String) : Request where
  method := .get
  path := "//pets/"
  query := Fields.ofList [("limit", [limit, "5"])]

theorem serve_lists_pageRequest :
    ListsPets 7 (((ready store).serve (pageRequest "007") {}).result zeroSource).1.response ∧
    RefusesLimit "7.0"
      (((ready store).serve (pageRequest "7.0") {}).result zeroSource).1.response := by
  have hDigits : Numeral.Spells "007".toList 7 := by decide
  have hNoDigits : ∀ digits n, Numeral.Holds "7.0".toList digits → ¬Numeral.Spells digits n := by
    intro digits n hHolds hSpells
    rw [← hHolds.eq_of_unsigned (by decide)] at hSpells
    exact absurd (hSpells.isDigit '.' (by decide)) (by decide)
  have hGet : ∀ limit, (pageRequest limit).method = .get := fun _ => rfl
  constructor
  · obtain ⟨-, -, hLists, -⟩ := serve_lists (.running store zeroSource) (hGet "007") (by decide)
    exact hLists "007" _ 7 (by decide) (.inl rfl) hDigits (by decide)
  · obtain ⟨-, -, -, hRefuses⟩ := serve_lists (.running store zeroSource) (hGet "7.0") (by decide)
    refine hRefuses "7.0" (by decide) fun digits n hHolds hSpells => ?_
    exact absurd hSpells (hNoDigits digits n hHolds)

/-- Not every limit that is a number stands for a page. -/
theorem exists_not_listsPets :
    ¬ ∀ (request : Request) (limit : String) (n : Nat) (s : RandomSource), request.method = .get →
      Path.segments request.path = ["pets"] → request.query? "limit" = some limit →
      Numeral.Spells limit.toList n →
      ListsPets (min n 100) (((ready store).serve request {}).result s).1.response := by
  intro hClaim
  let limit := "18446744073709551616"
  have hLimit : (pageRequest limit).query? "limit" = some limit := by decide
  have hDigits : Numeral.Spells limit.toList UInt64.size := by decide
  have hPage : pageSize (pageRequest limit) = .error (.failed s!"Invalid limit: {limit}" none) := by
    refine pageSize_of_too_large hLimit ?_
    intro digits n hHolds hSpells
    rw [← hHolds.eq_of_unsigned (by decide)] at hSpells
    exact Nat.le_of_eq (hDigits.unique hSpells)
  have hLists := hClaim (pageRequest limit) limit UInt64.size zeroSource rfl (by decide) hLimit
    hDigits
  have hRefuses := refusesLimit_of_pageSize (.running store zeroSource) rfl (by decide) hPage
  exact absurd (hLists.code.symm.trans hRefuses.code) (by decide)

end PetStore

end InvocationBridge
