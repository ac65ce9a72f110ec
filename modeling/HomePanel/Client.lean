import HomePanel.Url.Basic
import HomePanel.Panel

/-!
# HTTP client

A client for a backend reached over HTTP. Its base URL is the backend's origin: the text
is trimmed and loses its trailing slashes, and must then be `http://` or `https://`
followed by a non-blank rest that does not start with `/`. Without a configured base URL
the client takes the value of its environment setting, trimmed, and else the local
backend `http://127.0.0.1:8080`.

A request goes to the base URL followed by the request's URL, read as an absolute URL
(`Url.HttpUrl`). This library opens no connection, so a request is never delivered: one
whose URL reads fails as unsent and names the URL in normal form, without user
information; one whose URL does not read fails as unbuildable. A panel on this client
checks its configuration first and then the base URL.
-/

namespace HomePanel

/-- The local backend's origin. -/
def defaultBaseUrl : String := "http://127.0.0.1:8080"

/-- The characters before and after the first `://`. -/
def splitAtSchemeMark : List Char → Option (List Char × List Char)
  | ':' :: '/' :: '/' :: rest => some ([], rest)
  | c :: rest => (splitAtSchemeMark rest).map fun r => (c :: r.1, r.2)
  | [] => none

/-- The scheme and the rest of a URL around the first `://`. -/
def splitScheme (s : String) : Option (String × String) :=
  (splitAtSchemeMark s.toList).map fun r => (String.ofList r.1, String.ofList r.2)

/-- A base URL trimmed and without trailing slashes, checked to be an HTTP origin. -/
def normalizeBaseUrl (raw : String) : Except ConfigError String :=
  let trimmed := Text.dropTrailing '/' (Text.trim raw)
  if trimmed.isEmpty then .error .emptyBaseUrl
  else
    match splitScheme trimmed with
    | some (scheme, rest) =>
      if (scheme = "http" ∨ scheme = "https") ∧ !Text.isBlankText rest ∧ !rest.startsWith "/" then
        .ok trimmed
      else .error .invalidBaseUrl
    | none => .error .invalidBaseUrl

/-- Where the client finds its backend. -/
structure ClientConfig where
  baseUrl : String
  deriving DecidableEq, Repr

namespace ClientConfig

/-- The configuration from the environment setting's value: trimmed, and the local
backend when it is missing or blank. -/
def fromEnv (setting : Option String) : Except ConfigError ClientConfig :=
  let value := (setting.map Text.trim).filter (!·.isEmpty)
  (normalizeBaseUrl (value.getD defaultBaseUrl)).map ClientConfig.mk

end ClientConfig

/-- A client with a checked base URL. -/
structure HttpClient where
  baseUrl : String
  deriving DecidableEq, Repr

namespace HttpClient

def new (config : ClientConfig) : Except ConfigError HttpClient :=
  (normalizeBaseUrl config.baseUrl).map HttpClient.mk

def fromEnv (setting : Option String) : Except ConfigError HttpClient := do
  new (← ClientConfig.fromEnv setting)

/-- The address of a request: the base URL followed by the request's URL. -/
def endpoint (c : HttpClient) (req : ApiRequest) : String := c.baseUrl ++ req.url

/-- Why sending to an address fails. -/
def sendFailure (address : String) : String :=
  match Url.HttpUrl.parse? address with
  | some u => "error sending request for url (" ++ u.withoutCredentials.serialize ++ ")"
  | none => "builder error"

instance : Transport HttpClient where
  send c req := (.error (.transport (sendFailure (c.endpoint req))), c)

end HttpClient

/-- A panel on the HTTP client, its configuration checked first. -/
def nativePanel (client : ClientConfig) (page : Page) (config : PanelConfig) :
    Except ConfigError (ControlPanel HttpClient) := do
  config.validate
  let http ← HttpClient.new client
  return ControlPanel.withConfig http page config

end HomePanel
