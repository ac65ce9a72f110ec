import HomePanel.Template
import HomePanel.Text.Blank

/-!
# Requests

A request is a method and a URL. The URL of an endpoint template and parameters is the
expanded path followed by the query of the parameters the path did not use: the names
and parameter texts of the non-null ones, form-encoded, in name order, joined by `&` after
a `?`; with no such parameter there is no `?` at all.

A method is read from markup by trimming blanks, turning ASCII letters to upper case and
taking one of the five names exactly.
-/

namespace HomePanel

/-- An HTTP method used by the panel. -/
inductive HttpMethod where
  | get
  | post
  | put
  | patch
  | delete
  deriving DecidableEq, Repr, Inhabited

namespace HttpMethod

def name : HttpMethod → String
  | .get => "GET"
  | .post => "POST"
  | .put => "PUT"
  | .patch => "PATCH"
  | .delete => "DELETE"

def all : List HttpMethod := [.get, .post, .put, .patch, .delete]

/-- The method named by a text, ignoring blanks around it and the case of ASCII letters. -/
def parse? (raw : String) : Option HttpMethod :=
  let key := Text.asciiUpper (Text.trim raw)
  all.find? (fun m => m.name == key)

end HttpMethod

namespace ParamMap

/-- The `name=value` pairs of the non-null parameters, form-encoded, in name order. -/
def queryPairs (params : ParamMap) : List String :=
  params.toList.filterMap fun e =>
    e.2.text?.map fun v => Url.formEncode e.1 ++ "=" ++ Url.formEncode v

/-- The query of the parameters: empty when no parameter has a text, else `?` and the
pairs joined by `&`. -/
def query (params : ParamMap) : String :=
  match params.queryPairs with
  | [] => ""
  | pairs => "?" ++ "&".intercalate pairs

end ParamMap

/-- The path and query built from an endpoint template. -/
structure BuiltUrl where
  path : String
  query : String
  deriving DecidableEq, Repr

namespace BuiltUrl

/-- A template expanded, and the parameters it left in the query. -/
def build (template : String) (params : ParamMap) : BuiltUrl :=
  let (path, left) := Template.expand template params
  ⟨path, left.query⟩

def pathAndQuery (u : BuiltUrl) : String := u.path ++ u.query

end BuiltUrl

/-- A request: a method and a URL (base path, path and query). -/
structure ApiRequest where
  method : HttpMethod
  url : String
  deriving DecidableEq, Repr

namespace ApiRequest

/-- The URL up to its first `?`. -/
def path (r : ApiRequest) : String := String.ofList (r.url.toList.takeWhile (· != '?'))

/-- `METHOD url`, as a request log writes it. -/
def logLine (r : ApiRequest) : String := r.method.name ++ " " ++ r.url

end ApiRequest

end HomePanel
