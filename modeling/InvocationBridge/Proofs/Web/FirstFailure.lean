import InvocationBridge.Web.Response

/-!
Responses after any number of calls on them.

`performAll` makes calls in any order. `Leads` says what has become of the response after them, part
by part: the first failure stays for good and holds the status, while body and headers follow their
own calls as if there had been no failure.
-/

namespace InvocationBridge.Response

/-- A call on a response. -/
inductive Call where
  | append (octets : Bytes)
  /-- A write as to any stream. -/
  | write (octets : Bytes)
  | flush
  | withStatus (status : Http.Status)
  | putHeader (name : Http.HeaderName) (value : Http.HeaderValue)
  | addHeader (name : Http.HeaderName) (value : Http.HeaderValue)
  | withContentType (text : String)
  | failAs (status : Http.Status) (message : String)
  | failWith (failure : Failure)

namespace Call

/-- Make a call. One that records a failure answers whether it was the first. -/
def perform (r : Response) : Call → Logged (Except Panic (Option Bool × Response))
  | append octets => return .ok (none, r.write octets)
  | write octets => return .ok (none, r.write octets)
  | flush => return .ok (none, r)
  | withStatus status => do return .ok (none, ← r.withStatus status)
  | putHeader name value => return .ok (none, r.putHeader name value)
  | addHeader name value => return .ok (none, r.addHeader name value)
  | withContentType text => return (r.withContentType text).map fun r => (none, r)
  | failAs status message => do
    let (first, r) ← r.failAs status message
    return .ok (some first, r)
  | failWith failure => do
    let (first, r) ← r.failWith failure
    return .ok (some first, r)

/-- The failure that a call is about. -/
def record? : Call → Option FailureRecord
  | failAs status message => some ⟨status, message, none⟩
  | failWith failure => some failure.record
  | _ => none

/-- The status that a call sets. -/
def status? : Call → Option Http.Status
  | withStatus status => some status
  | _ => none

/-- The octets that a call brings to the body. -/
def chunk : Call → Bytes
  | append octets => octets
  | write octets => octets
  | _ => []

/-- What a call makes of headers. -/
def onHeaders (headers : Http.Headers) : Call → Http.Headers
  | putHeader name value => headers.set name value
  | addHeader name value => headers.add name value
  | withContentType text =>
    match Http.HeaderValue.ofText? text with
    | some value => headers.set .contentType value
    | none => headers
  | _ => headers

end Call

/-- Make calls one after the other, until one panics. -/
def performAll (r : Response) : List Call → Logged (Except Panic (List (Option Bool) × Response))
  | [] => return .ok ([], r)
  | call :: calls => do
    match ← call.perform r with
    | .error panic => return .error panic
    | .ok (answer, r) =>
      return (← performAll r calls).map fun (answers, r) => (answer :: answers, r)

/-- What a call makes of a response, and its answer. -/
structure Call.Acts (call : Call) (r : Response) (answer : Option Bool) (r' : Response) : Prop where
  failure : r'.failure = r.failure.or call.record?
  status : r'.failure = none → r'.status = call.status?.getD r.status
  body : r'.body = r.body ++ call.chunk
  headers : r'.headers = call.onHeaders r.headers
  answer : answer = call.record?.map fun _ => r.failure.isNone

/-- What calls make of a response, and their answers. -/
structure Leads (calls : List Call) (r : Response) (answers : List (Option Bool)) (r' : Response) :
    Prop where
  failure : r'.failure = r.failure.or (calls.findSome? Call.record?)
  status : r'.failure = none → r'.status = (calls.filterMap Call.status?).getLast?.getD r.status
  body : r'.body = r.body ++ calls.flatMap Call.chunk
  headers : r'.headers = calls.foldl Call.onHeaders r.headers
  answers : ∀ i (call : Call), calls[i]? = some call →
    answers[i]? = some (call.record?.map fun _ =>
      (r.failure.or ((calls.take i).findSome? Call.record?)).isNone)

/-- One call more in front. The invariant is relative to the response to start with, so
that it composes. -/
theorem Leads.cons {call : Call} {calls : List Call} {r r₁ r₂ : Response} {answer : Option Bool}
    {answers : List (Option Bool)} (hActs : call.Acts r answer r₁)
    (hLeads : Leads calls r₁ answers r₂) : Leads (call :: calls) r (answer :: answers) r₂ := by
  have hFailure : r₂.failure = r.failure.or ((call :: calls).findSome? Call.record?) := by
    rw [hLeads.failure, hActs.failure, Option.or_assoc, List.findSome?_cons]
    cases call.record? <;> rfl
  constructor
  · exact hFailure
  · intro hNone
    have hBefore : r₁.failure = none := by
      have h := hLeads.failure
      rw [hNone] at h
      exact (Option.or_eq_none_iff.mp h.symm).1
    rw [hLeads.status hNone, hActs.status hBefore]
    cases hStatus : call.status? with
    | none => simp [hStatus]
    | some status => simp [hStatus, List.getLast?_cons]
  · rw [hLeads.body, hActs.body, List.flatMap_cons, List.append_assoc]
  · rw [hLeads.headers, hActs.headers, List.foldl_cons]
  · intro i other hOther
    cases i with
    | zero =>
        obtain rfl : call = other := by simpa using hOther
        simp [hActs.answer]
    | succ i =>
        have hAnswer := hLeads.answers i other (by simpa using hOther)
        rw [List.getElem?_cons_succ, hAnswer, hActs.failure, Option.or_assoc, List.take_succ_cons,
          List.findSome?_cons]
        cases call.record? <;> rfl

end InvocationBridge.Response
