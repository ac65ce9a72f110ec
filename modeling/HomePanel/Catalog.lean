import HomePanel.Request.Basic

/-!
# Demo catalog

Fixed tables of the panel. Each demo action has an id, a method, an endpoint and fixed
parameters, and some take a device id under a parameter name, with a fallback used when
no device id is known (or it is empty). An id that is not in the catalog stands for the
catalog listing `GET /patterns`. Form overrides send submissions to certain endpoints
elsewhere. Lab buttons are known by element id; some read one text input of their
section, with a fallback for an empty input.
-/

namespace HomePanel

/-- A device parameter: its name and the id used when none is known. -/
structure DeviceParam where
  name : String
  fallback : String
  deriving DecidableEq, Repr

/-- A demo action of the catalog. -/
structure DemoAction where
  id : String
  method : HttpMethod
  endpoint : String
  params : List (String × ParamValue) := []
  deviceParam : Option DeviceParam := none
  deriving Repr

namespace DemoAction

def needsDevice (a : DemoAction) : Bool := a.deviceParam.isSome

/-- The parameters of a call, with the device id (or the fallback) filled in. -/
def buildParams (a : DemoAction) (deviceId : Option String) : ParamMap :=
  let fixed := ParamMap.ofList a.params
  match a.deviceParam with
  | some d =>
    let id := match deviceId with
      | some s => if s.isEmpty then d.fallback else s
      | none => d.fallback
    fixed.insert d.name (.text id)
  | none => fixed

end DemoAction

/-- The action for ids not in the catalog. -/
def listingAction : DemoAction := ⟨"patterns", .get, "/patterns", [], none⟩

/-- The demo actions, in catalog order. -/
def demoCatalog : List DemoAction := [
  { id := "singleton", method := .get, endpoint := "/status" },
  { id := "factory", method := .post, endpoint := "/patterns/factory/create",
    params := [("type", .text "LIGHT"), ("name", .text "New Light"),
      ("location", .text "Demo Room")] },
  { id := "abstract-factory", method := .post, endpoint := "/patterns/abstract-factory/create",
    params := [("ecosystem", .text "SMARTTHINGS"), ("location", .text "Demo Room")] },
  { id := "builder", method := .post, endpoint := "/patterns/builder/rule",
    params := [("name", .text "Motion Lights"), ("trigger", .text "motion"),
      ("condition", .text "night"), ("action", .text "light on")] },
  { id := "prototype", method := .get, endpoint := "/patterns/prototype/templates" },
  { id := "adapter", method := .post, endpoint := "/patterns/adapter/legacy",
    params := [("name", .text "Old Thermostat"), ("location", .text "Basement")] },
  { id := "bridge", method := .get, endpoint := "/patterns/bridge/demo" },
  { id := "composite", method := .get, endpoint := "/patterns/composite/rooms" },
  { id := "decorator", method := .post, endpoint := "/patterns/decorator/wrap",
    params := [("decorators", .text "LOGGING,SECURITY,CACHING")],
    deviceParam := some ⟨"deviceId", "living-light-1"⟩ },
  { id := "facade", method := .post, endpoint := "/patterns/facade/scene/movie" },
  { id := "flyweight", method := .get, endpoint := "/patterns/flyweight/demo" },
  { id := "proxy", method := .post, endpoint := "/patterns/proxy/remote",
    params := [("name", .text "Remote Camera"), ("address", .text "192.168.1.100")] },
  { id := "chain", method := .post, endpoint := "/patterns/chain/alert",
    params := [("level", .text "WARNING"), ("message", .text "Motion detected at front door")],
    deviceParam := some ⟨"deviceId", "sensor-1"⟩ },
  { id := "command", method := .post, endpoint := "/patterns/command/execute",
    params := [("command", .text "ON")], deviceParam := some ⟨"deviceId", "living-light-1"⟩ },
  { id := "interpreter", method := .post, endpoint := "/patterns/interpreter/evaluate",
    params := [("rule", .text "motion AND hour >= 18"), ("motion", .bool true),
      ("hour", .number (Binary64.ofNat 20))] },
  { id := "iterator", method := .get, endpoint := "/patterns/iterator/demo",
    params := [("filterType", .text "ROOM"), ("filterValue", .text "Living Room")] },
  { id := "mediator", method := .get, endpoint := "/patterns/mediator/demo" },
  { id := "memento", method := .post, endpoint := "/patterns/memento/save",
    params := [("sceneName", .text "Demo Scene")] },
  { id := "observer", method := .post, endpoint := "/patterns/observer/register",
    params := [("observerType", .text "MOBILE")], deviceParam := some ⟨"deviceId", "sensor-1"⟩ },
  { id := "state", method := .get, endpoint := "/patterns/state/demo" },
  { id := "strategy", method := .post, endpoint := "/patterns/strategy/apply",
    params := [("strategy", .text "ECO")] },
  { id := "template", method := .get, endpoint := "/patterns/template/demo",
    params := [("deviceType", .text "LIGHT")] },
  { id := "visitor", method := .get, endpoint := "/patterns/visitor/audit",
    params := [("type", .text "SECURITY")] }]

/-- The action with exactly this id, or the catalog listing. -/
def lookupAction (id : String) : DemoAction :=
  (demoCatalog.find? (fun a => a.id == id)).getD listingAction

/-- A form override: submissions to `endpoint` go to `target` with `method`. -/
structure FormOverride where
  endpoint : String
  method : HttpMethod
  target : String
  deriving DecidableEq, Repr

def formOverrides : List FormOverride := [
  ⟨"/patterns/observer/register", .post, "/patterns/observer/subscribe"⟩,
  ⟨"/patterns/mediator/notify", .post, "/patterns/mediator/notify"⟩,
  ⟨"/patterns/template/init", .post, "/patterns/template/init"⟩]

/-- The method and endpoint a form submission is sent with. -/
def resolveFormTarget (endpoint : String) (method : HttpMethod) : HttpMethod × String :=
  match formOverrides.find? (fun o => o.endpoint == endpoint) with
  | some o => (o.method, o.target)
  | none => (method, endpoint)

/-- A text input a lab button reads: the section holding it, its name and a fallback. -/
structure LabInput where
  sectionId : String
  name : String
  fallback : String
  deriving DecidableEq, Repr

/-- A lab button: its element id, the pattern whose panel shows the answer, the call. -/
structure LabButton where
  elementId : String
  pattern : String
  method : HttpMethod
  endpoint : String
  params : List (String × String) := []
  input : Option LabInput := none
  deriving DecidableEq, Repr

def labButtons : List LabButton := [
  { elementId := "undo-btn", pattern := "command", method := .post,
    endpoint := "/patterns/command/undo" },
  { elementId := "redo-btn", pattern := "command", method := .post,
    endpoint := "/patterns/command/redo" },
  { elementId := "restore-btn", pattern := "memento", method := .post,
    endpoint := "/patterns/memento/restore", input := some ⟨"memento", "sceneName", "My Snapshot"⟩ },
  { elementId := "list-mementos-btn", pattern := "memento", method := .get,
    endpoint := "/patterns/memento/list" },
  { elementId := "trigger-event-btn", pattern := "observer", method := .post,
    endpoint := "/patterns/observer/trigger", params := [("eventType", "MOTION")],
    input := some ⟨"observer", "deviceId", "living-thermostat"⟩ }]

/-- The lab button with this element id. -/
def labButton? (elementId : String) : Option LabButton :=
  labButtons.find? (fun b => b.elementId == elementId)

namespace LabButton

/-- The parameters of a press, with the input's value (or its fallback) filled in. -/
def buildParams (b : LabButton) (inputValue : Option String) : ParamMap :=
  let fixed := ParamMap.ofList (b.params.map fun p => (p.1, ParamValue.text p.2))
  match b.input with
  | some i =>
    let v := match inputValue with
      | some s => if s.isEmpty then i.fallback else s
      | none => i.fallback
    fixed.insert i.name (.text v)
  | none => fixed

end LabButton

/-- The lab's scene, strategy and audit calls: pattern panel and endpoint. -/
def labScene : String × String := ("facade", "/patterns/facade/scene/{sceneName}")
def labStrategy : String × String := ("strategy", "/patterns/strategy/apply")
def labAudit : String × String := ("visitor", "/patterns/visitor/audit")

end HomePanel
