import InvocationBridge.Proofs.PetStore.PetText
import InvocationBridge.Proofs.PetStore.RouteTable
import InvocationBridge.Proofs.Uuid

/-!
Requests for one pet.

Every identifier has its pet, and however a request spells it, the answer is the same to the octet.
What spells no identifier is refused.
-/

namespace InvocationBridge.PetStore

open Dispatcher

/-- The pet of an identifier. -/
def petOf (id : Uuid) : Pet := madeUp id.toString (id.octets.headD 0).toNat

/-- Every spelling of an identifier shows the same pet. -/
theorem visit_of_spells {word : String} {id : Uuid} (h : Uuid.Spells word id) (request : Request) :
    visit request [("id", word)] {} = pure (respond {} (petOf id).toJson) := by
  have hParse := Uuid.parse?_eq_some_iff.mpr h
  have hParameter : (Fields.get? "id" [("id", word)]).bind Uuid.parse? = some id := hParse
  rw [visit, hParameter]
  rfl

/-- A word that spells no identifier shows none. -/
theorem visit_of_stray {word : String} (h : ∀ id, ¬Uuid.Spells word id) (request : Request) :
    visit request [("id", word)] {} = pure (.failed (.notFound "No such Dog"), {}) := by
  have hParse := Uuid.parse?_eq_none_iff.mpr h
  have hParameter : (Fields.get? "id" [("id", word)]).bind Uuid.parse? = none := hParse
  rw [visit, hParameter]

/-- A response with a pet under the canonical form of an identifier. -/
structure ShowsPet (id : Uuid) (response : Response) : Prop where
  succeeds : Succeeds response
  pet : ∃ pet, Pet.parse response.body = .ok pet ∧ Uuid.IsCanonical pet.id id

/-- The pet that is shown has the canonical form of its identifier. -/
theorem showsPet_respond (id : Uuid) : ShowsPet id (respond {} (petOf id).toJson).2 where
  succeeds := succeeds_respond _
  pet := ⟨petOf id, Pet.parse_bytes_toJson _, id.isCanonical_toString⟩

/-- What is shown as the identifier is its canonical form, however the body is read. -/
theorem ShowsPet.isCanonical {id : Uuid} {response : Response} (h : ShowsPet id response) {pet : Pet}
    (hPet : Pet.parse response.body = .ok pet) : Uuid.IsCanonical pet.id id := by
  obtain ⟨shown, hShown, hCanonical⟩ := h.pet
  cases hPet.symm.trans hShown
  exact hCanonical

/-- A request for the pet that a word stands for. -/
structure Asks (request : Request) (word : String) : Prop where
  method : request.method = .get
  path : Path.segments request.path = ["pets", word]

theorem Asks.routed {request : Request} {word : String} (h : Asks request word) :
    Routed request.method (Path.segments request.path) visit [("id", word)] := by
  rw [h.method, h.path]
  exact .visit word

section Visits

variable {d : Dispatcher RandomSource (RouteMatch RandomSource)} {s s₁ : RandomSource}
  {request : Request} {word : String}

/-- A visit as it is served, by any dispatcher that runs the pet store. -/
theorem serve_of_spells (hEngages : d.Engages s store s₁) (hAsks : Asks request word) {id : Uuid}
    (hSpells : Uuid.Spells word id) :
    (d.serve request {}).result s =
      (⟨.ok (), (respond {} (petOf id).toJson).2, ready store⟩, s₁) := by
  apply serves_returned hEngages
  rw [attempt_of_routed hAsks.routed, visit_of_spells hSpells]
  rfl

theorem serve_of_stray (hEngages : d.Engages s store s₁) (hAsks : Asks request word)
    (hStray : ∀ id, ¬Uuid.Spells word id) :
    (d.serve request {}).result s =
      (⟨.ok (), ({} : Response).settled (.notFound "No such Dog"), ready store⟩, s₁) := by
  apply serves_failed hEngages (Failure.isKept_notFound _)
  rw [attempt_of_routed hAsks.routed, visit_of_stray hStray]
  rfl

/-- A request for a pet is refused exactly if what it asks for spells no identifier. Otherwise the
pet is shown under the canonical form of the identifier, and every other request for it is answered
with the same response, one for the identifier that was shown included. -/
theorem serve_visits (hEngages : d.Engages s store s₁) (hAsks : Asks request word) :
    let served := ((d.serve request {}).result s).1
    served.ending = .ok () ∧
    (Refuses 404 "No such Dog" none served.response ↔ ∀ id, ¬Uuid.Spells word id) ∧
    ∀ id, Uuid.Spells word id →
      ShowsPet id served.response ∧
      ∀ (d' : Dispatcher RandomSource (RouteMatch RandomSource)) (s' s₁' : RandomSource)
        (other : Request) (spelling : String), d'.Engages s' store s₁' → Asks other spelling →
        (Uuid.Spells spelling id ∨
          ∃ pet, Pet.parse served.response.body = .ok pet ∧ spelling = pet.id) →
        ((d'.serve other {}).result s').1.response = served.response := by
  intro served
  by_cases hSpelled : ∃ id, Uuid.Spells word id
  · obtain ⟨id, hSpells⟩ := hSpelled
    have hServed : served = ⟨.ok (), (respond {} (petOf id).toJson).2, ready store⟩ :=
      congrArg Prod.fst (serve_of_spells hEngages hAsks hSpells)
    have hShows : ShowsPet id served.response := hServed ▸ showsPet_respond id
    refine ⟨hServed ▸ rfl, ⟨?_, fun hStray => absurd hSpells (hStray id)⟩, ?_⟩
    · intro hRefuses
      exact nomatch hShows.succeeds.failure.symm.trans hRefuses.record
    · intro sought hSought
      obtain rfl : sought = id := Uuid.eq_of_spells hSought hSpells
      refine ⟨hShows, ?_⟩
      intro d' s' s₁' other spelling hOther hAsked hSame
      have hSpelling : Uuid.Spells spelling sought := by
        rcases hSame with hSpelling | ⟨pet, hPet, rfl⟩
        · exact hSpelling
        · exact (hShows.isCanonical hPet).spells
      rw [serve_of_spells hOther hAsked hSpelling, hServed]
  · have hStray := not_exists.mp hSpelled
    have hServed : served =
        ⟨.ok (), ({} : Response).settled (.notFound "No such Dog"), ready store⟩ :=
      congrArg Prod.fst (serve_of_stray hEngages hAsks hStray)
    refine ⟨hServed ▸ rfl, ⟨fun _ => hStray, fun _ => hServed ▸ refuses_settled (.notFound _)⟩, ?_⟩
    intro id hSpells
    exact absurd hSpells (hStray id)

end Visits

/-- The request for a pet under some spelling of its identifier. -/
def petRequest (word : String) : Request := { method := .get, path := "/pets//" ++ word }

/-- The identifier of a pet. -/
def petId : Uuid where
  octets := [0x6B, 0xA7, 0xB8, 0x10, 0x9D, 0xAD, 0x11, 0xD1, 0x80, 0xB4, 0x00, 0xC0, 0x4F, 0xD4,
    0x30, 0xC8]
  length_eq := rfl

/-- The identifier as a URN in upper case, as bare digits, and with its last group cut off. -/
def urnWord : String := "URN:UUID:6BA7B810-9DAD-11D1-80B4-00C04FD430C8"

def bareWord : String := "6ba7b8109dad11d180b400c04fd430c8"

def cutWord : String := "6ba7b810-9dad-11d1-80b4"

theorem toString_petId : petId.toString = "6ba7b810-9dad-11d1-80b4-00c04fd430c8" := by decide

theorem serve_visits_petRequest :
    (∃ pet, Pet.parse (((ready store).serve (petRequest urnWord) {}).result
        zeroSource).1.response.body = .ok pet ∧
      pet.id = "6ba7b810-9dad-11d1-80b4-00c04fd430c8") ∧
    (((ready store).serve (petRequest bareWord) {}).result zeroSource).1.response =
      (((ready store).serve (petRequest urnWord) {}).result zeroSource).1.response ∧
    Refuses 404 "No such Dog" none
      (((ready store).serve (petRequest cutWord) {}).result zeroSource).1.response := by
  have hUrn : Asks (petRequest urnWord) urnWord := ⟨rfl, by decide⟩
  have hBare : Asks (petRequest bareWord) bareWord := ⟨rfl, by decide⟩
  have hCut : Asks (petRequest cutWord) cutWord := ⟨rfl, by decide⟩
  have hStray : Uuid.parse? cutWord = none := by decide
  obtain ⟨-, -, hShows⟩ := serve_visits (.running store zeroSource) hUrn
  obtain ⟨-, hRefuses, -⟩ := serve_visits (.running store zeroSource) hCut
  obtain ⟨hShown, hAlike⟩ := hShows petId (by decide)
  obtain ⟨pet, hPet, hCanonical⟩ := hShown.pet
  refine ⟨⟨pet, hPet, hCanonical.eq_toString.trans toString_petId⟩, ?_,
    hRefuses.mpr (Uuid.parse?_eq_none_iff.mp hStray)⟩
  exact hAlike _ _ _ _ _ (.running store zeroSource) hBare (.inl (by decide))

end InvocationBridge.PetStore
