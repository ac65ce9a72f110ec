import HomePanel.Request.Executor
import Mathlib

/-!
# Outcomes of a response

Decoding a raw response ends in exactly one of three ways, decided by the status
(success is 200 to 299), by whether the response declares JSON (its content type,
ASCII letters lowered, contains `application/json`) and by whether the body reads
as JSON: a decoded answer, a decoding error (a success that declares JSON with a
body that does not read), or a request failure (any other status), whose message is
read from the JSON value of the body when it declares JSON and reads, and from its
text otherwise. Decoding never gives a transport error, so an executor reports one
exactly when the transport does (`decodeResponse_outcome`).
-/

namespace HomePanel

namespace RawResponse

theorem isSuccess_iff (r : RawResponse) : r.isSuccess = true ↔ 200 ≤ r.status ∧ r.status ≤ 299 := by
  simp [isSuccess]

/-- `containsText t s` says that `s` is a contiguous piece of `t`. -/
theorem containsText_iff (t s : String) : containsText t s = true ↔ s.toList <:+: t.toList := by
  simp only [containsText, List.any_eq_true, List.mem_range, beq_iff_eq]
  constructor
  · rintro ⟨i, _, hpiece⟩
    refine ⟨t.toList.take i, (t.toList.drop i).drop s.toList.length, ?_⟩
    calc t.toList.take i ++ s.toList ++ (t.toList.drop i).drop s.toList.length
        = t.toList.take i ++ ((t.toList.drop i).take s.toList.length ++
            (t.toList.drop i).drop s.toList.length) := by
          rw [hpiece, List.append_assoc]
      _ = t.toList := by
          rw [List.take_append_drop, List.take_append_drop]
  · rintro ⟨before, after, hsplit⟩
    refine ⟨before.length, ?_, ?_⟩
    · rw [← hsplit]
      simp only [List.length_append]
      omega
    · rw [← hsplit, List.append_assoc, List.drop_left, List.take_left]

/-- A response declares JSON when its content type, ASCII letters lowered, holds
`application/json`. -/
theorem declaresJson_iff (r : RawResponse) :
    r.declaresJson = true ↔
      ∃ ct, r.contentType = some ct ∧ "application/json".toList <:+: (Text.asciiLower ct).toList := by
  unfold declaresJson
  cases r.contentType with
  | none => simp
  | some ct =>
      rw [containsText_iff]
      simp [jsonContentType]

/-- The body a response reports: the JSON value of its body when it declares JSON
and the body reads, its text otherwise. -/
def reportedBody (r : RawResponse) : ResponseBody :=
  match r.declaresJson, Json.parse r.body with
  | true, .ok v => .json v
  | _, _ => .text r.body

end RawResponse

/-! ## The three outcomes -/

/-- What decoding does, one case for each outcome. -/
theorem decodeResponse_cases (r : RawResponse) :
    (r.isSuccess = true ∧ r.declaresJson = true ∧ ∃ v, Json.parse r.body = .ok v ∧
        decodeResponse r = .ok ⟨r.status, .json v⟩) ∨
      (r.isSuccess = true ∧ r.declaresJson = true ∧ ∃ e, Json.parse r.body = .error e ∧
        decodeResponse r = .error (.decode e.message)) ∨
      (r.isSuccess = true ∧ r.declaresJson = false ∧
        decodeResponse r = .ok ⟨r.status, .text r.body⟩) ∨
      (r.isSuccess = false ∧
        decodeResponse r = .error (.requestFailed r.status (failureMessage r.reportedBody))) := by
  cases hsuccess : r.isSuccess with
  | false =>
      refine .inr (.inr (.inr ⟨rfl, ?_⟩))
      cases hdeclares : r.declaresJson with
      | false => simp [decodeResponse, hsuccess, hdeclares, RawResponse.reportedBody]
      | true =>
          cases hparse : Json.parse r.body with
          | ok v => simp [decodeResponse, hsuccess, hdeclares, hparse, RawResponse.reportedBody]
          | error e => simp [decodeResponse, hsuccess, hdeclares, hparse, RawResponse.reportedBody]
  | true =>
      cases hdeclares : r.declaresJson with
      | false => exact .inr (.inr (.inl ⟨rfl, rfl, by simp [decodeResponse, hsuccess, hdeclares]⟩))
      | true =>
          cases hparse : Json.parse r.body with
          | ok v =>
              exact .inl ⟨rfl, rfl, v, rfl, by simp [decodeResponse, hsuccess, hdeclares, hparse]⟩
          | error e =>
              exact .inr (.inl ⟨rfl, rfl, e, rfl,
                by simp [decodeResponse, hsuccess, hdeclares, hparse]⟩)

theorem decodeResponse_ne_transport (r : RawResponse) (message : String) :
    decodeResponse r ≠ .error (.transport message) := by
  rcases decodeResponse_cases r with ⟨-, -, v, -, h⟩ | ⟨-, -, e, -, h⟩ | ⟨-, -, h⟩ | ⟨-, h⟩ <;>
    rw [h] <;> simp

theorem decodeResponse_eq_ok_iff (r : RawResponse) (resp : ApiResponse) :
    decodeResponse r = .ok resp ↔
      r.isSuccess = true ∧
        ((r.declaresJson = true ∧ ∃ v, Json.parse r.body = .ok v ∧ resp = ⟨r.status, .json v⟩) ∨
          (r.declaresJson = false ∧ resp = ⟨r.status, .text r.body⟩)) := by
  rcases decodeResponse_cases r with
    ⟨hs, hd, v, hp, h⟩ | ⟨hs, hd, e, hp, h⟩ | ⟨hs, hd, h⟩ | ⟨hs, h⟩
  · rw [h, hs, hd, hp]
    constructor
    · intro hok
      exact ⟨rfl, .inl ⟨rfl, v, rfl, (Except.ok.inj hok).symm⟩⟩
    · rintro ⟨-, ⟨-, w, hw, rfl⟩ | ⟨hfalse, -⟩⟩
      · cases hw
        rfl
      · cases hfalse
  · exact iff_of_false (by rw [h]; simp) (by simp [hd, hp])
  · rw [h, hs, hd]
    constructor
    · intro hok
      exact ⟨rfl, .inr ⟨rfl, (Except.ok.inj hok).symm⟩⟩
    · rintro ⟨-, ⟨htrue, -⟩ | ⟨-, rfl⟩⟩
      · cases htrue
      · rfl
  · exact iff_of_false (by rw [h]; simp) (by simp [hs])

theorem decodeResponse_eq_decode_iff (r : RawResponse) (message : String) :
    decodeResponse r = .error (.decode message) ↔
      r.isSuccess = true ∧ r.declaresJson = true ∧
        ∃ e, Json.parse r.body = .error e ∧ message = e.message := by
  rcases decodeResponse_cases r with
    ⟨hs, hd, v, hp, h⟩ | ⟨hs, hd, e, hp, h⟩ | ⟨hs, hd, h⟩ | ⟨hs, h⟩
  · exact iff_of_false (by rw [h]; simp) (by simp [hp])
  · rw [h, hs, hd, hp]
    constructor
    · intro herr
      cases herr
      exact ⟨rfl, rfl, e, rfl, rfl⟩
    · rintro ⟨-, -, e', he', rfl⟩
      cases he'
      rfl
  · exact iff_of_false (by rw [h]; simp) (by simp [hd])
  · exact iff_of_false (by rw [h]; simp) (by simp [hs])

theorem decodeResponse_eq_requestFailed_iff (r : RawResponse) (status : Nat) (message : String) :
    decodeResponse r = .error (.requestFailed status message) ↔
      r.isSuccess = false ∧ status = r.status ∧ message = failureMessage r.reportedBody := by
  rcases decodeResponse_cases r with
    ⟨hs, -, v, -, h⟩ | ⟨hs, -, e, -, h⟩ | ⟨hs, -, h⟩ | ⟨hs, h⟩
  · exact iff_of_false (by rw [h]; simp) (by simp [hs])
  · exact iff_of_false (by rw [h]; simp) (by simp [hs])
  · exact iff_of_false (by rw [h]; simp) (by simp [hs])
  · rw [h, hs]
    constructor
    · intro herr
      cases herr
      exact ⟨rfl, rfl, rfl⟩
    · rintro ⟨-, rfl, rfl⟩
      rfl

/-! ## Executors -/

theorem Executor.execute_fst {τ : Type} [Transport τ] (e : Executor) (transport : τ)
    (method : HttpMethod) (template : String) (params : ParamMap) :
    (e.execute transport method template params).1 =
      (Transport.send transport (e.requestFor method template params)).1.bind decodeResponse :=
  rfl

theorem bind_decodeResponse_eq_transport_iff (answer : Except ApiError RawResponse)
    (message : String) :
    answer.bind decodeResponse = .error (.transport message) ↔
      answer = .error (.transport message) := by
  cases answer with
  | error err => simp only [Except.bind, Except.error.injEq]
  | ok raw =>
      constructor
      · intro h
        exact absurd h (decodeResponse_ne_transport raw message)
      · intro h
        cases h

/-- Decoding a response ends in exactly one of three outcomes: a decoded answer for a
success status that does not declare JSON or whose body reads as JSON, a decoding
error for a success status that declares JSON with a body that does not read, and a
request failure, with the message of the reported body, for every other status. It
never gives a transport error, so an executor passes a failure of its transport on
unchanged and reports a transport error exactly when the transport does. A JSON
response whose compact text reads back decodes to its value. -/
theorem decodeResponse_outcome :
    (∀ r : RawResponse,
      (r.declaresJson = true ↔
        ∃ ct, r.contentType = some ct ∧
          "application/json".toList <:+: (Text.asciiLower ct).toList) ∧
      (∀ resp, decodeResponse r = .ok resp ↔
        (200 ≤ r.status ∧ r.status ≤ 299) ∧
          ((r.declaresJson = true ∧ ∃ v, Json.parse r.body = .ok v ∧
              resp = ⟨r.status, .json v⟩) ∨
            (r.declaresJson = false ∧ resp = ⟨r.status, .text r.body⟩))) ∧
      (∀ message, decodeResponse r = .error (.decode message) ↔
        (200 ≤ r.status ∧ r.status ≤ 299) ∧ r.declaresJson = true ∧
          ∃ e, Json.parse r.body = .error e ∧ message = e.message) ∧
      (∀ status message, decodeResponse r = .error (.requestFailed status message) ↔
        ¬(200 ≤ r.status ∧ r.status ≤ 299) ∧ status = r.status ∧
          message = failureMessage r.reportedBody) ∧
      (∀ message, decodeResponse r ≠ .error (.transport message))) ∧
    (∀ {τ : Type} [Transport τ] (e : Executor) (transport : τ) (method : HttpMethod)
        (template : String) (params : ParamMap),
      (∀ err, (Transport.send transport (e.requestFor method template params)).1 = .error err →
        (e.execute transport method template params).1 = .error err) ∧
      (∀ message, (e.execute transport method template params).1 = .error (.transport message) ↔
        (Transport.send transport (e.requestFor method template params)).1 =
          .error (.transport message))) ∧
    (∀ (status : Nat) (v : Json), 200 ≤ status → status ≤ 299 →
      Json.parse v.compact = .ok v →
      decodeResponse (RawResponse.json status v) = .ok ⟨status, .json v⟩) := by
  refine ⟨?_, ?_, ?_⟩
  · intro r
    refine ⟨r.declaresJson_iff, ?_, ?_, ?_, decodeResponse_ne_transport r⟩
    · intro resp
      rw [decodeResponse_eq_ok_iff, RawResponse.isSuccess_iff]
    · intro message
      rw [decodeResponse_eq_decode_iff, RawResponse.isSuccess_iff]
    · intro status message
      rw [decodeResponse_eq_requestFailed_iff, ← RawResponse.isSuccess_iff, Bool.not_eq_true]
  · intro τ _ e transport method template params
    refine ⟨?_, ?_⟩
    · intro err hsend
      rw [Executor.execute_fst, hsend]
      rfl
    · intro message
      rw [Executor.execute_fst, bind_decodeResponse_eq_transport_iff]
  · intro status v hlow hhigh hparse
    have hsuccess : (RawResponse.json status v).isSuccess = true := by
      rw [RawResponse.isSuccess_iff]
      exact ⟨hlow, hhigh⟩
    have hdeclares : (RawResponse.json status v).declaresJson = true := by
      cbv
    apply (decodeResponse_eq_ok_iff _ _).mpr
    exact ⟨hsuccess, .inl ⟨hdeclares, v, hparse, rfl⟩⟩

/-- A `200` JSON response holding an object with a message decodes to that object. -/
theorem decodeResponse_json_message :
    200 ≤ 200 ∧ 200 ≤ 299 ∧
      Json.parse (Json.object [("message", .string "ok")]).compact =
        .ok (Json.object [("message", .string "ok")]) ∧
      decodeResponse (RawResponse.json 200 (Json.object [("message", .string "ok")])) =
        .ok ⟨200, .json (Json.object [("message", .string "ok")])⟩ :=
  ⟨by decide, by decide, rfl,
    decodeResponse_outcome.2.2 200 _ (by decide) (by decide) rfl⟩

end HomePanel
