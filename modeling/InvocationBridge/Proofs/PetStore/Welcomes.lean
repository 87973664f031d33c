import InvocationBridge.Proofs.PetStore.PetText
import InvocationBridge.Proofs.PetStore.RouteTable
import InvocationBridge.Proofs.Uuid

/-!
Pets that are posted.

A pet comes back as it was posted, but for an identifier if it had none. What came back has one, so
nothing changes when it is posted again.
-/

namespace InvocationBridge.PetStore

open Dispatcher

/-- An identifier for a pet: the one that it has, or any other if it has none. -/
structure Names (id : String) (pet : Pet) : Prop where
  ne_empty : id ≠ ""
  eq_of_ne_empty : pet.id ≠ "" → id = pet.id

/-- A pet that can be read is welcomed under its own identifier, or under a new one
if it has none. -/
theorem exists_welcome {request : Request} {pet : Pet} (hParse : Pet.parse request.body = .ok pet)
    (s : RandomSource) :
    ∃ id s', Names id pet ∧
      (welcome request [] {}).result s = (respond {} { pet with id := id }.toJson, s') := by
  by_cases hEmpty : pet.id = ""
  · obtain ⟨id, s', hId⟩ : ∃ (id : Uuid) (s' : RandomSource),
        newId.result s = (id.toString, s') := ⟨_, _, rfl⟩
    refine ⟨id.toString, s', ⟨id.toString_ne_empty, fun h => absurd hEmpty h⟩, ?_⟩
    have hNew : pet.id.isEmpty = true := String.isEmpty_iff.mpr hEmpty
    simp only [welcome, hParse, hNew, if_true, Effect.result_bind, Effect.result_pure,
      Effect.result_liftM, hId]
  · refine ⟨pet.id, s, ⟨hEmpty, fun _ => rfl⟩, ?_⟩
    have hOld : ¬pet.id.isEmpty = true := mt String.isEmpty_iff.mp hEmpty
    simp only [welcome, hParse, hOld]
    rfl

/-- A request that brings a pet. -/
structure Posts (request : Request) : Prop where
  method : request.method = .post
  path : Path.segments request.path = ["pets"]

theorem Posts.routed {request : Request} (h : Posts request) :
    Routed request.method (Path.segments request.path) welcome [] := by
  rw [h.method, h.path]
  exact .welcome

/-- A successful response with the text of a pet. -/
structure Returns (pet : Pet) (response : Response) : Prop where
  succeeds : Succeeds response
  body : response.body = pet.toJson.bytes

theorem Returns.parse {pet : Pet} {response : Response} (h : Returns pet response) :
    Pet.parse response.body = .ok pet := by
  rw [h.body, Pet.parse_bytes_toJson]

section Posted

variable {d : Dispatcher RandomSource (RouteMatch RandomSource)} {s s₁ : RandomSource}
  {request : Request}

/-- What is read as a pet is answered with the pet under its identifier. -/
theorem exists_serve_of_parse (hEngages : d.Engages s store s₁) (hPosts : Posts request)
    {pet : Pet} (hParse : Pet.parse request.body = .ok pet) :
    ∃ id s', Names id pet ∧ (d.serve request {}).result s =
      (⟨.ok (), (respond {} { pet with id := id }.toJson).2, ready store⟩, s') := by
  obtain ⟨id, s', hNames, hWelcome⟩ := exists_welcome hParse s₁
  refine ⟨id, s', hNames, serves_returned hEngages ?_⟩
  rw [attempt_of_routed hPosts.routed, hWelcome]
  rfl

/-- A posted pet is returned with an identifier, and otherwise as it was. -/
theorem exists_returns_of_parse (hEngages : d.Engages s store s₁) (hPosts : Posts request)
    {pet : Pet} (hParse : Pet.parse request.body = .ok pet) :
    ∃ id, Names id pet ∧
      Returns { pet with id := id } ((d.serve request {}).result s).1.response := by
  obtain ⟨id, s', hNames, hServe⟩ := exists_serve_of_parse hEngages hPosts hParse
  refine ⟨id, hNames, ?_⟩
  rw [hServe]
  exact ⟨succeeds_respond _, rfl⟩

/-- A pet that has an identifier is returned unchanged, which makes a second round the last. -/
theorem returns_of_parse (hEngages : d.Engages s store s₁) (hPosts : Posts request) {pet : Pet}
    (hParse : Pet.parse request.body = .ok pet) (hNamed : pet.id ≠ "") :
    Returns pet ((d.serve request {}).result s).1.response := by
  obtain ⟨id, hNames, hReturns⟩ := exists_returns_of_parse hEngages hPosts hParse
  rwa [hNames.eq_of_ne_empty hNamed] at hReturns

/-- What is read as no pet is refused. -/
theorem serve_of_parse_error (hEngages : d.Engages s store s₁) (hPosts : Posts request)
    {e : Json.Error} (hParse : Pet.parse request.body = .error e) :
    (d.serve request {}).result s =
      (⟨.ok (), ({} : Response).settled (.ofJsonError e), ready store⟩, s₁) := by
  apply serves_failed hEngages (Failure.isKept_failed ..)
  rw [attempt_of_routed hPosts.routed, welcome, hParse]
  rfl

/-- Only what is read as a pet is answered with success. -/
theorem exists_parse_of_status (hEngages : d.Engages s store s₁) (hPosts : Posts request)
    (hCode : ((d.serve request {}).result s).1.response.status.code = 200) :
    ∃ pet, Pet.parse request.body = .ok pet := by
  cases hParse : Pet.parse request.body with
  | ok pet => exact ⟨pet, rfl⟩
  | error e =>
      rw [serve_of_parse_error hEngages hPosts hParse] at hCode
      cases hCode

/-- Posting never panics, whatever the body is. -/
theorem ending_eq_ok_of_posts (hEngages : d.Engages s store s₁) (hPosts : Posts request) :
    ((d.serve request {}).result s).1.ending = .ok () := by
  cases hParse : Pet.parse request.body with
  | error e => exact congrArg (·.1.ending) (serve_of_parse_error hEngages hPosts hParse)
  | ok pet =>
      obtain ⟨id, s', -, hServe⟩ := exists_serve_of_parse hEngages hPosts hParse
      exact congrArg (·.1.ending) hServe

/-- The pet that came back has an identifier, so the next post keeps it. -/
theorem response_eq_of_again (hEngages : d.Engages s store s₁) (hPosts : Posts request)
    (hCode : ((d.serve request {}).result s).1.response.status.code = 200)
    {d' : Dispatcher RandomSource (RouteMatch RandomSource)} {s' s₁' : RandomSource}
    {again : Request} (hEngages' : d'.Engages s' store s₁') (hAgain : Posts again)
    (hBody : again.body = ((d.serve request {}).result s).1.response.body) :
    ((d'.serve again {}).result s').1.response = ((d.serve request {}).result s).1.response := by
  obtain ⟨pet, hParse⟩ := exists_parse_of_status hEngages hPosts hCode
  obtain ⟨id, s₂, hNames, hServe⟩ := exists_serve_of_parse hEngages hPosts hParse
  rw [hServe] at hBody ⊢
  have hReread : Pet.parse again.body = .ok { pet with id := id } := by
    rw [hBody]
    exact Pet.parse_bytes_toJson _
  obtain ⟨same, s₃, hSame, hServeAgain⟩ := exists_serve_of_parse hEngages' hAgain hReread
  rw [hServeAgain, hSame.eq_of_ne_empty hNames.ne_empty]

/-- A pet that is posted comes back with every field as it was, and with the very text that was
posted. One whose identifier is empty or left out gets one, and nothing else of it changes. What is
sent for a post that succeeds is sent for that response in turn, whoever serves it. -/
theorem serve_welcomes (hEngages : d.Engages s store s₁) (hPosts : Posts request) :
    let served := ((d.serve request {}).result s).1
    served.ending = .ok () ∧
    (∀ pet : Pet, pet.id ≠ "" → request.body = pet.toJson.bytes →
      Succeeds served.response ∧ Pet.parse served.response.body = .ok pet ∧
      served.response.body = request.body) ∧
    (∀ pet : Pet, (pet.id = "" ∧ request.body = pet.toJson.bytes) ∨
        request.body = (Json.obj pet.unnamed).bytes →
      Succeeds served.response ∧
      ∃ id, id ≠ "" ∧ Pet.parse served.response.body = .ok { pet with id := id }) ∧
    (served.response.status.code = 200 →
      ∀ (d' : Dispatcher RandomSource (RouteMatch RandomSource)) (s' s₁' : RandomSource)
        (again : Request), d'.Engages s' store s₁' → Posts again →
        again.body = served.response.body →
        ((d'.serve again {}).result s').1.response = served.response) := by
  intro served
  refine ⟨ending_eq_ok_of_posts hEngages hPosts, ?_, ?_, ?_⟩
  · intro pet hNamed hBody
    have hParse : Pet.parse request.body = .ok pet := by
      rw [hBody, Pet.parse_bytes_toJson]
    have hReturns := returns_of_parse hEngages hPosts hParse hNamed
    exact ⟨hReturns.succeeds, hReturns.parse, hReturns.body.trans hBody.symm⟩
  · intro pet hBody
    have hParse : Pet.parse request.body = .ok { pet with id := "" } := by
      rcases hBody with ⟨hEmpty, hBody⟩ | hBody
      · rw [hBody, Pet.parse_bytes_toJson, ← hEmpty]
      · rw [hBody, Pet.parse_bytes_unnamed]
    obtain ⟨id, hNames, hReturns⟩ := exists_returns_of_parse hEngages hPosts hParse
    exact ⟨hReturns.succeeds, id, hNames.ne_empty, hReturns.parse⟩
  · intro hCode d' s' s₁' again hEngages' hAgain hBody
    exact response_eq_of_again hEngages hPosts hCode hEngages' hAgain hBody

end Posted

/-- A request that posts some text. -/
def postRequest (body : Bytes) : Request := { method := .post, path := "//pets", body := body }

/-- A pet with an empty identifier and an empty date of birth. -/
def puppy : Pet where
  id := ""
  breed := "Beagle"
  name := "Rex \"\n"
  dateOfBirth := some ""

theorem body_postRequest (body : Bytes) : (postRequest body).body = body := rfl

theorem serve_welcomes_puppy :
    (∃ response, (((ready store).serve (postRequest puppy.toJson.bytes) {}).result
        zeroSource).1.response = response ∧
      (∃ id, id ≠ "" ∧ Pet.parse response.body = .ok { puppy with id := id }) ∧
      (((ready store).serve (postRequest response.body) {}).result zeroSource).1.response =
        response) ∧
    (((ready store).serve (postRequest { puppy with id := "7" }.toJson.bytes) {}).result
      zeroSource).1.response.body = { puppy with id := "7" }.toJson.bytes := by
  have hPath : Path.segments "//pets" = ["pets"] := by decide
  have hPosts (body : Bytes) : Posts (postRequest body) := ⟨rfl, hPath⟩
  have hEngages : (ready store).Engages zeroSource store zeroSource := .running store zeroSource
  obtain ⟨-, -, hUnnamed, hAgain⟩ := serve_welcomes hEngages (hPosts puppy.toJson.bytes)
  obtain ⟨-, hNamed, -⟩ := serve_welcomes hEngages (hPosts { puppy with id := "7" }.toJson.bytes)
  obtain ⟨hSucceeds, hNew⟩ := hUnnamed puppy (.inl ⟨rfl, rfl⟩)
  obtain ⟨-, -, hSame⟩ := hNamed { puppy with id := "7" } (by simp) rfl
  have hRepeated := hAgain hSucceeds.code _ _ _ _ hEngages (hPosts _) (body_postRequest _)
  exact ⟨⟨_, rfl, hNew, hRepeated⟩, hSame⟩

end InvocationBridge.PetStore
