import HomePanel.Request.Executor

/-!
# Scripted backend

A backend that answers from registered routes, for running the panel without a network.
A route names a method and a path and gives a response or a transport failure. A request
is first added to the log. When the backend is offline it fails with `Failed to fetch`;
otherwise the route registered last among those with the request's method and path (its
URL up to the first `?`) answers, and a request no route matches gets a plain text 404
`no route for <path>`.
-/

namespace HomePanel

/-- What a route answers. -/
inductive RouteAnswer where
  | respond (response : RawResponse)
  | fail (message : String)
  deriving DecidableEq, Repr

structure Route where
  method : HttpMethod
  path : String
  answer : RouteAnswer
  deriving DecidableEq, Repr

/-- Routes in the order they were registered, requests in the order they were sent. -/
structure ScriptedBackend where
  routes : List Route := []
  requests : List ApiRequest := []
  offline : Bool := false
  deriving DecidableEq, Repr

namespace ScriptedBackend

def addRoute (b : ScriptedBackend) (r : Route) : ScriptedBackend :=
  { b with routes := b.routes ++ [r] }

def setOffline (b : ScriptedBackend) (offline : Bool) : ScriptedBackend :=
  { b with offline := offline }

/-- The answer to a request, without logging it. -/
def answer (b : ScriptedBackend) (req : ApiRequest) : Except ApiError RawResponse :=
  if b.offline then .error (.transport "Failed to fetch")
  else
    match b.routes.reverse.find? (fun r => r.method == req.method && r.path == req.path) with
    | some ⟨_, _, .respond response⟩ => .ok response
    | some ⟨_, _, .fail message⟩ => .error (.transport message)
    | none => .ok (RawResponse.text 404 ("no route for " ++ req.path))

instance : Transport ScriptedBackend where
  send b req := (b.answer req, { b with requests := b.requests ++ [req] })

end ScriptedBackend

end HomePanel
