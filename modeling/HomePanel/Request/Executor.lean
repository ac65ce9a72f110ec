import HomePanel.Request.Response

/-!
# Sending requests

A transport takes a request to an answer, a raw response or a transport failure, and may
change in doing so (a log of the requests it saw). An executor adds its base path (with
the trailing slashes removed) in front of each built URL, sends the request through a
transport, and decodes the answer.
-/

namespace HomePanel

/-- A way of sending requests; sending may change the transport. -/
class Transport (τ : Type) where
  send : τ → ApiRequest → Except ApiError RawResponse × τ

/-- Builds requests under a base path and decodes their answers. -/
structure Executor where
  basePath : String
  deriving DecidableEq, Repr

namespace Executor

def defaultBasePath : String := "/api"

/-- An executor under a base path, its trailing slashes removed. -/
def withBasePath (basePath : String) : Executor := ⟨Text.dropTrailing '/' basePath⟩

/-- The executor under `/api`. -/
def standard : Executor := withBasePath defaultBasePath

/-- The request for a method, an endpoint template and parameters. -/
def requestFor (e : Executor) (method : HttpMethod) (template : String) (params : ParamMap) :
    ApiRequest :=
  ⟨method, e.basePath ++ (BuiltUrl.build template params).pathAndQuery⟩

/-- Sends the request for a call and decodes the answer. -/
def execute {τ : Type} [Transport τ] (e : Executor) (transport : τ) (method : HttpMethod)
    (template : String) (params : ParamMap) : Except ApiError ApiResponse × τ :=
  let (answer, transport) := Transport.send transport (e.requestFor method template params)
  (answer.bind decodeResponse, transport)

end Executor

end HomePanel
