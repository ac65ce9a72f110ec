import HomePanel.Request.Basic
import HomePanel.Json.Reader
import HomePanel.Json.Text

/-!
# Responses and request failures

A raw response is a status, an optional content type and a body text. It declares JSON
when its content type, with ASCII letters in lower case, contains `application/json`.
Decoding reads such a body as JSON; a body that does not read is kept as text when the
status is a failure, and is a decoding error when it is a success (200 to 299). Any other
body is text. A failure status then becomes a request failure whose message comes from
the body (`failureMessage`): a non-empty string body as it is; else the `message` field of
a JSON object when it is not null, false, empty or zero, a string as it is and any other
value as its compact JSON; else `Request failed`.
-/

namespace HomePanel

/-- Why a request gave no usable answer. -/
inductive ApiError where
  /-- The backend answered with a failure status. -/
  | requestFailed (status : Nat) (message : String)
  /-- The request did not get an answer. -/
  | transport (message : String)
  /-- A successful answer declared JSON but did not read as JSON. -/
  | decode (message : String)
  deriving DecidableEq, Repr

namespace ApiError

def message : ApiError → String
  | .requestFailed _ m => m
  | .transport m => "network error: " ++ m
  | .decode m => "failed to decode response: " ++ m

def status? : ApiError → Option Nat
  | .requestFailed s _ => some s
  | _ => none

end ApiError

/-- A response as the transport hands it over. -/
structure RawResponse where
  status : Nat
  contentType : Option String
  body : String
  deriving DecidableEq, Repr

namespace RawResponse

def jsonContentType : String := "application/json"

/-- A JSON response: the value's compact text. -/
def json (status : Nat) (v : Json) : RawResponse := ⟨status, some jsonContentType, v.compact⟩

/-- A plain text response. -/
def text (status : Nat) (body : String) : RawResponse :=
  ⟨status, some "text/plain;charset=UTF-8", body⟩

/-- A response with no content type and no body. -/
def empty (status : Nat) : RawResponse := ⟨status, none, ""⟩

def isSuccess (r : RawResponse) : Bool := 200 ≤ r.status && r.status ≤ 299

/-- Whether `s` occurs in `t` as a contiguous piece. -/
def containsText (t s : String) : Bool :=
  let ts := t.toList
  let ss := s.toList
  (List.range (ts.length + 1)).any fun i => (ts.drop i).take ss.length == ss

def declaresJson (r : RawResponse) : Bool :=
  match r.contentType with
  | some ct => containsText (Text.asciiLower ct) jsonContentType
  | none => false

end RawResponse

/-- A decoded body: a JSON value or a text. -/
inductive ResponseBody where
  | json (v : Json)
  | text (s : String)
  deriving Repr

namespace ResponseBody

def asJson? : ResponseBody → Option Json
  | .json v => some v
  | .text _ => none

/-- The body as a JSON value; text becomes a string. -/
def toValue : ResponseBody → Json
  | .json v => v
  | .text s => .string s

end ResponseBody

/-- A successful answer. -/
structure ApiResponse where
  status : Nat
  body : ResponseBody
  deriving Repr

def defaultFailureMessage : String := "Request failed"

/-- The message a `message` field gives: none when it is null, false, empty or zero. -/
def truthyMessage? : Json → Option String
  | .null => none
  | .bool false => none
  | .string s => if s.isEmpty then none else some s
  | .number n => if n.isZero then none else some n.text
  | v => some v.compact

/-- The message of a failed request, read from its body. -/
def failureMessage (body : ResponseBody) : String :=
  let found := match body with
    | .json (.string s) | .text s => if s.isEmpty then none else some s
    | .json v => (v.get? "message").bind truthyMessage?
  found.getD defaultFailureMessage

/-- Decodes a raw response by its content type and status. -/
def decodeResponse (raw : RawResponse) : Except ApiError ApiResponse :=
  let success := raw.isSuccess
  let body : Except ApiError ResponseBody :=
    if raw.declaresJson then
      match Json.parse raw.body with
      | .ok v => .ok (.json v)
      | .error e => if success then .error (.decode e.message) else .ok (.text raw.body)
    else .ok (.text raw.body)
  match body with
  | .error e => .error e
  | .ok body =>
    if success then .ok ⟨raw.status, body⟩
    else .error (.requestFailed raw.status (failureMessage body))

end HomePanel
