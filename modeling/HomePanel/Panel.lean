import HomePanel.Request.Executor
import HomePanel.Device
import HomePanel.Config
import HomePanel.Intent
import HomePanel.Trace

/-!
# Control panel

The panel joins a transport, a page, a presenter and a configuration. Each handler sends
its request under the configured base path and reports what happened as a trace entry;
a failed request is reported with the payload `{"error": <message>}` and changes nothing
else.

* Refreshing the devices reads `GET /devices`, writes the number of active devices into
  the active-devices element and syncs every device card.
* Booting refreshes the devices and greets in the log when the log element exists.
* Setting the home mode writes the mode label into the home-mode element.
* Controlling a device syncs the answer's device and refreshes; controlling a room and
  activating a scene refresh.
* Running a demo refreshes the devices first, to fill in the first device's id, and
  writes its result panel.
* Lab requests report into the result panel of their pattern.
* A form submission reports into its section's result panel (or the log), refreshes the
  devices, and reloads the page when the form asks for it and the request succeeded.

Handlers run in `PanelRun`: they read the time of day for their entries and change the
panel's state.
-/

namespace HomePanel

/-- The state of a control panel over a transport of type `τ`. -/
structure ControlPanel (τ : Type) where
  config : PanelConfig
  executor : Executor
  transport : τ
  page : Page
  presenter : Presenter

/-- A panel handler: it reads the time of day and changes the panel. -/
abbrev PanelRun (τ : Type) := ReaderT TimeOfDay (StateM (ControlPanel τ))

def welcomeMessage : String := "UI loaded. Open the Patterns Lab to run all demos."

/-- The payload reporting a failed request. -/
def errorPayload (e : ApiError) : Json := .object [("error", .string e.message)]

namespace ControlPanel

variable {τ : Type} [Transport τ]

/-- A panel with a configuration; its presenter starts with the page log sink. -/
def withConfig (transport : τ) (page : Page) (config : PanelConfig) : ControlPanel τ :=
  ⟨config, Executor.withBasePath config.apiBasePath, transport, page,
    ⟨[.pageLog config.outputElementId]⟩⟩

def addSink (panel : ControlPanel τ) (s : Sink) : ControlPanel τ :=
  { panel with presenter := panel.presenter.addSink s }

def debugText (panel : ControlPanel τ) : String :=
  "ControlPanel \x7b config: " ++ panel.config.debugText ++ ", presenter: " ++
    panel.presenter.debugText ++ ", .. \x7d"

/-- Sends a request and gives the answer's body as JSON. -/
def call (method : HttpMethod) (template : String) (params : ParamMap) :
    PanelRun τ (Except ApiError Json) := do
  let panel ← get
  let (answer, transport) := panel.executor.execute panel.transport method template params
  set { panel with transport := transport }
  return answer.map fun r => r.body.toValue

/-- Reports an entry to every sink. -/
def present (message : String) (payload : Option Json) : PanelRun τ TraceEntry := do
  let time ← read
  let panel ← get
  let (e, presenter, page) := panel.presenter.present panel.page time message payload
  set { panel with presenter := presenter, page := page }
  return e

/-- Reports a pattern result into its panel and to every sink. -/
def presentPatternResult (pattern : String) (data : Json) : PanelRun τ TraceEntry := do
  let time ← read
  let panel ← get
  let (e, presenter, page) := panel.presenter.presentPatternResult panel.page time pattern data
  set { panel with presenter := presenter, page := page }
  return e

/-- Writes an entry into a result panel. -/
def writeResultPanel (pattern : String) (e : TraceEntry) : PanelRun τ Bool := do
  let panel ← get
  let (page, found) := panel.page.writeResultPanel pattern e
  set { panel with page := page }
  return found

def modifyPage (f : Page → Page) : PanelRun τ Unit :=
  modify fun panel => { panel with page := f panel.page }

def reportFailure (message : String) (e : ApiError) : PanelRun τ Unit := do
  let _ ← present message (some (errorPayload e))

/-- Writes a snapshot into its card. -/
def syncDevice (d : DeviceSnapshot) : PanelRun τ Bool := do
  let panel ← get
  let (page, found) := panel.page.syncDevice d
  set { panel with page := page }
  return found

/-- Reads the device list and writes it into the page; `none` when the request failed. -/
def refreshDevices : PanelRun τ (Option (List DeviceSnapshot)) := do
  match ← call .get "/devices" ParamMap.empty with
  | .error e =>
    reportFailure "Error refreshing devices" e
    return none
  | .ok body =>
    let devices := parseDevices body
    let panel ← get
    match panel.page.elementById? panel.config.activeDevicesElementId with
    | some counter => modifyPage (·.setText counter (toString (activeCount devices)))
    | none => pure ()
    for d in devices do
      let _ ← syncDevice d
    return some devices

def boot : PanelRun τ Unit := do
  let _ ← refreshDevices
  let panel ← get
  if (panel.page.elementById? panel.config.outputElementId).isSome then
    let _ ← present welcomeMessage none

def setHomeMode (mode : String) : PanelRun τ Unit := do
  match ← call .post "/mode/{mode}" (ParamMap.ofList [("mode", .text mode)]) with
  | .ok result =>
    let panel ← get
    match panel.page.elementById? panel.config.homeModeElementId, homeModeLabel? result with
    | some header, some label => modifyPage (·.setText header label)
    | _, _ => pure ()
    let _ ← present ("Home Mode -> " ++ mode) (some result)
  | .error e => reportFailure "Failed to set home mode" e

def controlDevice (deviceId action : String) : PanelRun τ Unit := do
  let params := ParamMap.ofList [("deviceId", .text deviceId), ("action", .text action)]
  match ← call .post "/devices/{deviceId}/control" params with
  | .ok result =>
    let _ ← present ("Device Control: " ++ deviceId ++ " -> " ++ action) (some result)
    match DeviceSnapshot.ofJson? result with
    | some d => let _ ← syncDevice d
    | none => pure ()
    let _ ← refreshDevices
  | .error e => reportFailure "Device control failed" e

def controlRoom (room action : String) : PanelRun τ Unit := do
  let params := ParamMap.ofList [("roomId", .text room), ("action", .text action)]
  match ← call .post "/patterns/composite/rooms/{roomId}/control" params with
  | .ok result =>
    let _ ← present ("Room Control: " ++ room ++ " -> " ++ action) (some result)
    let _ ← refreshDevices
  | .error e => reportFailure "Room control failed" e

def activateScene (scene : String) : PanelRun τ Unit := do
  match ← call .post "/patterns/facade/scene/{sceneName}"
      (ParamMap.ofList [("sceneName", .text scene)]) with
  | .ok result =>
    let _ ← present ("Scene Activated: " ++ scene) (some result)
    let _ ← refreshDevices
  | .error e => reportFailure "Scene activation failed" e

/-- The id of the first listed device, after refreshing the list. -/
def anyDeviceId : PanelRun τ (Option String) := do
  match ← refreshDevices with
  | some (d :: _) => return d.id
  | _ => return none

/-- Runs a catalog demo; its answer, or `none` when it failed. -/
def runPattern (pattern : String) : PanelRun τ (Option Json) := do
  let action := lookupAction pattern
  let deviceId ← anyDeviceId
  match ← call action.method action.endpoint (action.buildParams deviceId) with
  | .ok result =>
    let e ← present ("Pattern Demo: " ++ pattern) (some result)
    let _ ← writeResultPanel pattern e
    return some result
  | .error err =>
    let e ← present ("Pattern demo failed: " ++ pattern) (some (errorPayload err))
    let _ ← writeResultPanel pattern e
    return none

/-- Sends a lab request and reports its answer (or failure) as a pattern result. -/
def runLabRequest (pattern : String) (method : HttpMethod) (template : String)
    (params : ParamMap) : PanelRun τ Unit := do
  let payload := match ← call method template params with
    | .ok result => result
    | .error e => errorPayload e
  let _ ← presentPatternResult pattern payload

def pressLabButton (b : LabButton) : PanelRun τ Unit := do
  let panel ← get
  let inputValue := b.input.bind fun i =>
    (panel.page.elementById? i.sectionId).bind fun s => panel.page.inputValue? s i.name
  runLabRequest b.pattern b.method b.endpoint (b.buildParams inputValue)

def submitForm (s : FormSubmission) : PanelRun τ Unit := do
  match ← call s.method s.endpoint s.params with
  | .ok result =>
    match s.resultSection? with
    | some sectionId => let _ ← presentPatternResult sectionId result
    | none => let _ ← present (s.method.name ++ " " ++ s.endpoint) (some result)
    let _ ← refreshDevices
    if s.refresh then modifyPage Page.reload
  | .error e =>
    match s.resultSection? with
    | some sectionId => let _ ← presentPatternResult sectionId (errorPayload e)
    | none => reportFailure ("Request failed: " ++ s.method.name ++ " " ++ s.endpoint) e

def dispatch : Intent → PanelRun τ Unit
  | .controlDevice deviceId action => controlDevice deviceId action
  | .controlRoom room action => controlRoom room action
  | .setMode mode => setHomeMode mode
  | .activateScene scene => activateScene scene
  | .runPattern pattern => do let _ ← runPattern pattern
  | .labScene scene =>
    runLabRequest labScene.1 .post labScene.2 (ParamMap.ofList [("sceneName", .text scene)])
  | .labStrategy strategy =>
    runLabRequest labStrategy.1 .post labStrategy.2
      (ParamMap.ofList [("strategy", .text strategy)])
  | .labAudit audit =>
    runLabRequest labAudit.1 .get labAudit.2 (ParamMap.ofList [("type", .text audit)])
  | .labButton b => pressLabButton b
  | .submitForm s => submitForm s

/-- Handles an event on an element: `false` when it asks for nothing. -/
def handleEvent (kind : EventKind) (target : Nat) : PanelRun τ Bool := do
  match (← get).page.resolveIntent kind target with
  | some intent =>
    dispatch intent
    return true
  | none => return false

end ControlPanel

end HomePanel
