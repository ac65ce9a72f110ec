import HomePanel.Text.Blank
import HomePanel.Text.Escaped
import HomePanel.Json.Value

/-!
# Panel configuration

Where the panel finds its page elements and its API. An API base path must start with `/`
after trimming blanks; it is kept without its trailing slashes, so `/` becomes the empty
path (the site root). Overriding the base path with a blank text keeps the configuration;
any other text must be a valid base path. A configuration is valid when its base path is.
-/

namespace HomePanel

/-- Why a configuration or a base URL is refused. -/
inductive ConfigError where
  | emptyBaseUrl
  | invalidBaseUrl
  | invalidBasePath
  deriving DecidableEq, Repr

namespace ConfigError

def message : ConfigError → String
  | .emptyBaseUrl => "base url must not be empty"
  | .invalidBaseUrl => "base url must use http:// or https:// and include a host"
  | .invalidBasePath => "api base path must start with '/'"

def kind : ConfigError → String
  | .emptyBaseUrl => "EmptyBaseUrl"
  | .invalidBaseUrl => "InvalidBaseUrl"
  | .invalidBasePath => "InvalidBasePath"

end ConfigError

/-- The page element ids and API base path of a panel. -/
structure PanelConfig where
  apiBasePath : String := "/api"
  outputElementId : String := "output"
  activeDevicesElementId : String := "activeDevices"
  homeModeElementId : String := "homeMode"
  deriving DecidableEq, Repr, Inhabited

/-- A base path trimmed, checked to start with `/`, and without trailing slashes. -/
def normalizeBasePath (raw : String) : Except ConfigError String :=
  let trimmed := Text.trim raw
  if trimmed.startsWith "/" then .ok (Text.dropTrailing '/' trimmed) else .error .invalidBasePath

namespace PanelConfig

/-- The field names, in their order. -/
def fieldNames : List String :=
  ["apiBasePath", "outputElementId", "activeDevicesElementId", "homeModeElementId"]

def fields (c : PanelConfig) : List String :=
  [c.apiBasePath, c.outputElementId, c.activeDevicesElementId, c.homeModeElementId]

/-- The configuration with the given field values; a missing value keeps the default. -/
def ofFields (values : List (Option String)) : PanelConfig :=
  let d : PanelConfig := {}
  let pick (i : Nat) (dflt : String) : String := ((values[i]?).bind id).getD dflt
  ⟨pick 0 d.apiBasePath, pick 1 d.outputElementId, pick 2 d.activeDevicesElementId,
    pick 3 d.homeModeElementId⟩

/-- Overrides the base path; a missing or blank override keeps the configuration. -/
def withApiBasePath (c : PanelConfig) (basePath : Option String) :
    Except ConfigError PanelConfig :=
  match basePath with
  | some raw =>
    if Text.isBlankText raw then .ok c
    else (normalizeBasePath raw).map fun p => { c with apiBasePath := p }
  | none => .ok c

def validate (c : PanelConfig) : Except ConfigError Unit :=
  (normalizeBasePath c.apiBasePath).map fun _ => ()

/-- The configuration as a JSON object with camel-case keys. -/
def toJson (c : PanelConfig) : Json :=
  .object (fieldNames.zip (c.fields.map Json.string))

/-- The configuration as a diagnostic record. -/
def debugText (c : PanelConfig) : String :=
  "PanelConfig \x7b api_base_path: " ++ Text.escapedQuote c.apiBasePath ++
    ", output_element_id: " ++ Text.escapedQuote c.outputElementId ++
    ", active_devices_element_id: " ++ Text.escapedQuote c.activeDevicesElementId ++
    ", home_mode_element_id: " ++ Text.escapedQuote c.homeModeElementId ++ " \x7d"

end PanelConfig

end HomePanel
