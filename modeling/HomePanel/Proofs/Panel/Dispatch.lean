import HomePanel.Proofs.Panel.Run
import HomePanel.Transport.Scripted

/-!
# What an intent sends and reports

Dispatched against the scripted backend, every intent sends its own request (the
*primary* one) and a `GET /devices` refresh at a place fixed by the intent: a demo
refreshes before its request and takes the first listed device's id from that refresh;
controlling a device or a room, activating a scene and submitting a form refresh after a
request that succeeded; setting the mode and the lab requests never refresh. Every sink
receives one entry reporting the primary request, whose payload is the answer's body or
`{"error": …}`, and one `Error refreshing devices` entry for each refresh that failed,
before that entry for a demo and after it otherwise. Nothing else is sent or reported
(`dispatch_requests_and_trace`).

When the primary request fails, whatever the transport, the handler stops there: its only
further effect is the report, handed to every sink and, for a demo, a lab request or a form
of a pattern section, written into that pattern's result panel
(`failed_request_only_reports`).

The backend's answers depend only on its routes and on whether it is offline, never on
the requests it logged (`ScriptedBackend.answer_logged`), so every request of one handler
is answered as it would be first.
-/

namespace HomePanel

namespace ScriptedBackend

/-- The decoded answer the backend gives a request. -/
def outcome (b : ScriptedBackend) (req : ApiRequest) : Except ApiError ApiResponse :=
  (b.answer req).bind decodeResponse

/-- The backend after it logged more requests. -/
def logged (b : ScriptedBackend) (reqs : List ApiRequest) : ScriptedBackend :=
  { b with requests := b.requests ++ reqs }

@[simp] theorem logged_nil (b : ScriptedBackend) : b.logged [] = b := by
  simp [logged]

@[simp] theorem logged_logged (b : ScriptedBackend) (reqs reqs' : List ApiRequest) :
    (b.logged reqs).logged reqs' = b.logged (reqs ++ reqs') := by
  simp [logged]

@[simp] theorem answer_logged (b : ScriptedBackend) (reqs : List ApiRequest) :
    (b.logged reqs).answer = b.answer := rfl

@[simp] theorem outcome_logged (b : ScriptedBackend) (reqs : List ApiRequest) :
    (b.logged reqs).outcome = b.outcome := rfl

end ScriptedBackend

namespace ControlPanel

variable {τ : Type}

/-- The request for the device list. -/
def devicesRequest (p : ControlPanel τ) : ApiRequest :=
  p.executor.requestFor .get "/devices" ParamMap.empty

@[simp] theorem devicesRequest_eq (p : ControlPanel τ) :
    p.devicesRequest = p.executor.requestFor .get "/devices" ParamMap.empty := rfl

@[simp] theorem afterCall_transport (p : ControlPanel ScriptedBackend) (m : HttpMethod)
    (tpl : String) (ps : ParamMap) :
    (p.afterCall m tpl ps).transport = p.transport.logged [p.executor.requestFor m tpl ps] := rfl

theorem answer_eq (p : ControlPanel ScriptedBackend) (m : HttpMethod) (tpl : String)
    (ps : ParamMap) :
    p.answer m tpl ps =
      (p.transport.outcome (p.executor.requestFor m tpl ps)).map (·.body.toValue) :=
  rfl

theorem answer_devices (p : ControlPanel ScriptedBackend) :
    p.answer .get "/devices" ParamMap.empty =
      (p.transport.outcome p.devicesRequest).map (·.body.toValue) :=
  rfl

end ControlPanel

/-! ## The requests of an intent -/

/-- A call to the backend: a method, an endpoint template and the parameters it is filled
from. -/
structure ApiCall where
  method : HttpMethod
  template : String
  params : ParamMap

/-- Where a handler refreshes the device list. -/
inductive RefreshPlan where
  /-- Before its request, which takes the first listed device's id. -/
  | before
  /-- After its request, when that succeeded. -/
  | afterSuccess
  /-- Not at all. -/
  | never
  deriving DecidableEq, Repr

namespace RefreshPlan

/-- The requests a handler sends, from the device list request, its own request and
whether that succeeded. -/
@[simp] def requests : RefreshPlan → ApiRequest → ApiRequest → Bool → List ApiRequest
  | .before, devices, primary, _ => [devices, primary]
  | .afterSuccess, devices, primary, ok => primary :: if ok then [devices] else []
  | .never, _, primary, _ => [primary]

/-- The entries a handler reports, from the entry for its own request, the entries of a
failed refresh and whether its request succeeded. -/
@[simp] def entries : RefreshPlan → TraceEntry → List TraceEntry → Bool → List TraceEntry
  | .before, report, failures, _ => failures ++ [report]
  | .afterSuccess, report, failures, ok => report :: if ok then failures else []
  | .never, report, _, _ => [report]

end RefreshPlan

namespace Intent

/-- Where the handler of an intent refreshes the device list. -/
@[simp] def refreshPlan : Intent → RefreshPlan
  | .runPattern _ => .before
  | .controlDevice .. | .controlRoom .. | .activateScene _ | .submitForm _ => .afterSuccess
  | .setMode _ | .labScene _ | .labStrategy _ | .labAudit _ | .labButton _ => .never

/-- The call an intent is about. A demo fills in the device id its refresh found, a lab
button the value of its input on the page. -/
@[simp] def call (page : Page) (deviceId : Option String) : Intent → ApiCall
  | .controlDevice d a => ⟨.post, "/devices/{deviceId}/control",
      ParamMap.ofList [("deviceId", .text d), ("action", .text a)]⟩
  | .controlRoom r a => ⟨.post, "/patterns/composite/rooms/{roomId}/control",
      ParamMap.ofList [("roomId", .text r), ("action", .text a)]⟩
  | .setMode m => ⟨.post, "/mode/{mode}", ParamMap.ofList [("mode", .text m)]⟩
  | .activateScene s => ⟨.post, "/patterns/facade/scene/{sceneName}",
      ParamMap.ofList [("sceneName", .text s)]⟩
  | .runPattern pattern => ⟨(lookupAction pattern).method, (lookupAction pattern).endpoint,
      (lookupAction pattern).buildParams deviceId⟩
  | .labScene s => ⟨.post, HomePanel.labScene.2, ParamMap.ofList [("sceneName", .text s)]⟩
  | .labStrategy s => ⟨.post, HomePanel.labStrategy.2, ParamMap.ofList [("strategy", .text s)]⟩
  | .labAudit a => ⟨.get, HomePanel.labAudit.2, ParamMap.ofList [("type", .text a)]⟩
  | .labButton b => ⟨b.method, b.endpoint, b.buildParams (page.labInputValue? b)⟩
  | .submitForm s => ⟨s.method, s.endpoint, s.params⟩

/-- The request an intent is about, under an executor's base path. -/
@[simp] def request (ex : Executor) (page : Page) (deviceId : Option String) (i : Intent) :
    ApiRequest :=
  ex.requestFor (i.call page deviceId).method (i.call page deviceId).template
    (i.call page deviceId).params

end Intent

namespace Intent

variable {τ : Type}

/-- The panel as an intent's handler leaves it before its own request: a demo has
refreshed the device list, every other intent has done nothing yet. -/
def prepared [Transport τ] (i : Intent) (t : TimeOfDay) (p : ControlPanel τ) : ControlPanel τ :=
  match i with
  | .runPattern _ => (ControlPanel.exec ControlPanel.refreshDevices t p).2
  | _ => p

/-- The panel after the failure of an intent's request was reported: the entry is handed to
every sink and, for a demo, a lab request or a form of a pattern section, written into that
pattern's result panel. -/
def failureReported (i : Intent) (p : ControlPanel τ) (e : TraceEntry) : ControlPanel τ :=
  match i with
  | .runPattern pattern => (p.reported e).mapPage (·.showResult pattern e)
  | .labScene _ => p.resultReported HomePanel.labScene.1 e
  | .labStrategy _ => p.resultReported HomePanel.labStrategy.1 e
  | .labAudit _ => p.resultReported HomePanel.labAudit.1 e
  | .labButton b => p.resultReported b.pattern e
  | .submitForm s =>
      match s.resultSection? with
      | some sectionId => p.resultReported sectionId e
      | none => p.reported e
  | .controlDevice .. | .controlRoom .. | .setMode _ | .activateScene _ => p.reported e

end Intent

/-- The id of the first device a device list answer lists. -/
def firstDeviceId : Except ApiError ApiResponse → Option String
  | .ok r => ((parseDevices r.body.toValue).head?).bind DeviceSnapshot.id
  | .error _ => none

/-- The entry of a refresh that failed. -/
@[simp] def refreshFailures (t : TimeOfDay) : Except ApiError ApiResponse → List TraceEntry
  | .ok _ => []
  | .error e => [⟨t, "Error refreshing devices", some (errorPayload e)⟩]

namespace ControlPanel

/-- The id of the first device the backend lists. -/
def listedDeviceId (p : ControlPanel ScriptedBackend) : Option String :=
  firstDeviceId (p.transport.outcome p.devicesRequest)

/-- The request an intent is about, from this panel. -/
def primaryRequest (p : ControlPanel ScriptedBackend) (i : Intent) : ApiRequest :=
  i.request p.executor p.page p.listedDeviceId

/-- What the backend answers the request an intent is about. -/
def primaryOutcome (p : ControlPanel ScriptedBackend) (i : Intent) : Except ApiError ApiResponse :=
  p.transport.outcome (p.primaryRequest i)

@[simp] theorem primaryOutcome_eq (p : ControlPanel ScriptedBackend) (i : Intent) :
    p.primaryOutcome i = p.transport.outcome (p.primaryRequest i) := rfl

@[simp] theorem primaryRequest_eq (p : ControlPanel ScriptedBackend) (i : Intent) :
    p.primaryRequest i = i.request p.executor p.page p.listedDeviceId := rfl

theorem listedDeviceId_eq (p : ControlPanel ScriptedBackend) :
    p.listedDeviceId = firstDeviceId (p.transport.outcome p.devicesRequest) := rfl

variable (t : TimeOfDay) (p : ControlPanel ScriptedBackend)

@[simp] theorem refreshDevices_transport :
    (exec refreshDevices t p).2.transport = p.transport.logged [p.devicesRequest] := by
  rw [exec_refreshDevices]
  split <;> rfl

@[simp] theorem refreshDevices_presenter :
    (exec refreshDevices t p).2.presenter =
      p.presenter.receive (refreshFailures t (p.transport.outcome p.devicesRequest)) := by
  rw [exec_refreshDevices, answer_devices]
  cases p.transport.outcome p.devicesRequest <;> simp [refreshFailures, Except.map]

theorem refreshDevices_result :
    (exec refreshDevices t p).1 =
      (p.transport.outcome p.devicesRequest).toOption.map (parseDevices ·.body.toValue) := by
  rw [exec_refreshDevices, answer_devices]
  cases p.transport.outcome p.devicesRequest <;> rfl

theorem exec_anyDeviceId_listed :
    exec anyDeviceId t p = (p.listedDeviceId, (exec refreshDevices t p).2) := by
  rw [exec_anyDeviceId, refreshDevices_result, listedDeviceId_eq]
  cases p.transport.outcome p.devicesRequest with
  | error e => rfl
  | ok r =>
      cases parseDevices r.body.toValue <;> rfl

/-! ## Each handler follows its plan -/

/-- `q` is `p` after a handler with this refresh plan sent the request `req`: the backend
logged the requests of the plan and every sink received the entries of the plan, with an
entry reporting `req`'s answer. -/
def FollowsPlan (plan : RefreshPlan) (req : ApiRequest) (p q : ControlPanel ScriptedBackend) :
    Prop :=
  ∃ message,
    q.transport = p.transport.logged
      (plan.requests p.devicesRequest req (p.transport.outcome req).isOk) ∧
    q.presenter = p.presenter.receive
      (plan.entries ⟨t, message, some (reportPayload ((p.transport.outcome req).map (·.body.toValue)))⟩
        (refreshFailures t (p.transport.outcome p.devicesRequest)) (p.transport.outcome req).isOk)

theorem setHomeMode_followsPlan (mode : String) :
    FollowsPlan t .never (p.executor.requestFor .post "/mode/{mode}"
      (ParamMap.ofList [("mode", .text mode)])) p (exec (setHomeMode mode) t p).2 := by
  rw [exec_setHomeMode, answer_eq]
  cases h : p.transport.outcome (p.executor.requestFor .post "/mode/{mode}"
      (ParamMap.ofList [("mode", .text mode)])) with
  | error e =>
      refine ⟨"Failed to set home mode", ?_⟩
      simp [h, Except.map, reportPayload]
  | ok r =>
      refine ⟨"Home Mode -> " ++ mode, ?_⟩
      simp [h, Except.map, reportPayload]

theorem controlDevice_followsPlan (deviceId action : String) :
    FollowsPlan t .afterSuccess (p.executor.requestFor .post "/devices/{deviceId}/control"
      (ParamMap.ofList [("deviceId", .text deviceId), ("action", .text action)])) p
      (exec (controlDevice deviceId action) t p).2 := by
  rw [exec_controlDevice, answer_eq]
  cases h : p.transport.outcome (p.executor.requestFor .post "/devices/{deviceId}/control"
      (ParamMap.ofList [("deviceId", .text deviceId), ("action", .text action)])) with
  | error e =>
      refine ⟨"Device control failed", ?_⟩
      simp [h, Except.map, Except.toBool, reportPayload]
  | ok r =>
      refine ⟨"Device Control: " ++ deviceId ++ " -> " ++ action, ?_⟩
      simp only [Except.map]
      cases DeviceSnapshot.ofJson? r.body.toValue <;> simp [h, Except.toBool, reportPayload]

theorem controlRoom_followsPlan (room action : String) :
    FollowsPlan t .afterSuccess (p.executor.requestFor .post
      "/patterns/composite/rooms/{roomId}/control"
      (ParamMap.ofList [("roomId", .text room), ("action", .text action)])) p
      (exec (controlRoom room action) t p).2 := by
  rw [exec_controlRoom, answer_eq]
  cases h : p.transport.outcome (p.executor.requestFor .post
      "/patterns/composite/rooms/{roomId}/control"
      (ParamMap.ofList [("roomId", .text room), ("action", .text action)])) with
  | error e =>
      refine ⟨"Room control failed", ?_⟩
      simp [h, Except.map, Except.toBool, reportPayload]
  | ok r =>
      refine ⟨"Room Control: " ++ room ++ " -> " ++ action, ?_⟩
      simp [h, Except.map, Except.toBool, reportPayload]

theorem activateScene_followsPlan (scene : String) :
    FollowsPlan t .afterSuccess (p.executor.requestFor .post
      "/patterns/facade/scene/{sceneName}" (ParamMap.ofList [("sceneName", .text scene)])) p
      (exec (activateScene scene) t p).2 := by
  rw [exec_activateScene, answer_eq]
  cases h : p.transport.outcome (p.executor.requestFor .post
      "/patterns/facade/scene/{sceneName}" (ParamMap.ofList [("sceneName", .text scene)])) with
  | error e =>
      refine ⟨"Scene activation failed", ?_⟩
      simp [h, Except.map, Except.toBool, reportPayload]
  | ok r =>
      refine ⟨"Scene Activated: " ++ scene, ?_⟩
      simp [h, Except.map, Except.toBool, reportPayload]

/-- A demo refreshes the devices first: its request carries the first listed device's id
and is sent after the refresh, whose failure is reported before the demo's answer. -/
theorem runPattern_followsPlan (pattern : String) :
    FollowsPlan t .before (p.executor.requestFor (lookupAction pattern).method
      (lookupAction pattern).endpoint ((lookupAction pattern).buildParams p.listedDeviceId)) p
      (exec (runPattern pattern) t p).2 := by
  rw [exec_runPattern pattern t p _ _ (exec_anyDeviceId_listed t p), answer_eq]
  cases h : p.transport.outcome (p.executor.requestFor (lookupAction pattern).method
      (lookupAction pattern).endpoint ((lookupAction pattern).buildParams p.listedDeviceId)) with
  | error e =>
      refine ⟨"Pattern demo failed: " ++ pattern, ?_⟩
      simp [h, Except.map, reportPayload]
  | ok r =>
      refine ⟨"Pattern Demo: " ++ pattern, ?_⟩
      simp [h, Except.map, reportPayload]

theorem runLabRequest_followsPlan (pattern : String) (method : HttpMethod) (template : String)
    (params : ParamMap) :
    FollowsPlan t .never (p.executor.requestFor method template params) p
      (exec (runLabRequest pattern method template params) t p).2 := by
  refine ⟨Presenter.patternMessage pattern, ?_⟩
  rw [exec_runLabRequest, answer_eq]
  simp [resultReported]

theorem submitForm_followsPlan (s : FormSubmission) :
    FollowsPlan t .afterSuccess (p.executor.requestFor s.method s.endpoint s.params) p
      (exec (submitForm s) t p).2 := by
  rw [exec_submitForm, answer_eq]
  cases h : p.transport.outcome (p.executor.requestFor s.method s.endpoint s.params) with
  | error e =>
      cases s.resultSection? with
      | none =>
          refine ⟨"Request failed: " ++ s.method.name ++ " " ++ s.endpoint, ?_⟩
          simp [h, Except.map, Except.toBool, reportPayload]
      | some sectionId =>
          refine ⟨Presenter.patternMessage sectionId, ?_⟩
          simp [h, Except.map, Except.toBool, reportPayload, resultReported]
  | ok r =>
      cases s.resultSection? with
      | none =>
          refine ⟨s.method.name ++ " " ++ s.endpoint, ?_⟩
          cases s.refresh <;> simp [h, Except.map, Except.toBool, reportPayload]
      | some sectionId =>
          refine ⟨Presenter.patternMessage sectionId, ?_⟩
          cases s.refresh <;> simp [h, Except.map, Except.toBool, reportPayload, resultReported]

theorem dispatch_followsPlan (i : Intent) :
    FollowsPlan t i.refreshPlan (p.primaryRequest i) p (exec (dispatch i) t p).2 := by
  cases i with
  | controlDevice d a => exact controlDevice_followsPlan t p d a
  | controlRoom room a => exact controlRoom_followsPlan t p room a
  | setMode mode => exact setHomeMode_followsPlan t p mode
  | activateScene scene => exact activateScene_followsPlan t p scene
  | runPattern pattern =>
      have hrun :
          (exec (dispatch (.runPattern pattern)) t p).2 = (exec (runPattern pattern) t p).2 :=
        rfl
      rw [hrun]
      exact runPattern_followsPlan t p pattern
  | labScene scene => exact runLabRequest_followsPlan t p _ _ _ _
  | labStrategy strategy => exact runLabRequest_followsPlan t p _ _ _ _
  | labAudit audit => exact runLabRequest_followsPlan t p _ _ _ _
  | labButton b =>
      rw [dispatch, exec_pressLabButton]
      exact runLabRequest_followsPlan t p _ _ _ _
  | submitForm s =>
      rw [dispatch]
      exact submitForm_followsPlan t p s

/-- Dispatching an intent against the scripted backend sends exactly the requests of its
refresh plan and hands every sink exactly the entries of the plan: the refresh before a
demo, with the demo's request carrying the first listed device's id; the refresh after a
device, room, scene or form request that succeeded; none for the mode and the lab
requests. The entry for the intent's own request carries its answer or `{"error": …}`,
and a failed refresh adds an `Error refreshing devices` entry. -/
theorem dispatch_requests_and_trace (i : Intent) :
    ∃ message,
      (exec (dispatch i) t p).2.transport = p.transport.logged
        (i.refreshPlan.requests p.devicesRequest (p.primaryRequest i) (p.primaryOutcome i).isOk) ∧
      (exec (dispatch i) t p).2.presenter = p.presenter.receive
        (i.refreshPlan.entries
          ⟨t, message, some (reportPayload ((p.primaryOutcome i).map (·.body.toValue)))⟩
          (refreshFailures t (p.transport.outcome p.devicesRequest)) (p.primaryOutcome i).isOk) :=
  dispatch_followsPlan t p i

end ControlPanel

/-! ## A failed request stops the handler -/

namespace ControlPanel

variable {τ : Type} [Transport τ] (t : TimeOfDay) (p : ControlPanel τ)

/-- The call an intent is about, from this panel: a demo takes the id of the first device
its refresh lists. -/
def primaryCall (i : Intent) : ApiCall := i.call p.page (exec anyDeviceId t p).1

/-- Whatever the transport, when an intent's own call fails its handler does nothing more
than report the failure: the panel is the one before the call, with the transport as the
call left it and the entry `{"error": …}` handed to every sink and, for a demo, a lab
request or a form of a pattern section, written into its result panel. No other call is
made, the page is not reloaded and no card, counter or header is written. -/
theorem failed_request_only_reports (i : Intent) (e : ApiError)
    (hfailed : (i.prepared t p).answer (p.primaryCall t i).method (p.primaryCall t i).template
      (p.primaryCall t i).params = .error e) :
    ∃ message, (exec (dispatch i) t p).2 =
      i.failureReported ((i.prepared t p).afterCall (p.primaryCall t i).method
        (p.primaryCall t i).template (p.primaryCall t i).params)
        ⟨t, message, some (errorPayload e)⟩ := by
  cases i <;> simp only [Intent.prepared, primaryCall, Intent.call] at hfailed ⊢
  case controlDevice d a =>
      refine ⟨"Device control failed", ?_⟩
      rw [dispatch, exec_controlDevice, hfailed]
      rfl
  case controlRoom room a =>
      refine ⟨"Room control failed", ?_⟩
      rw [dispatch, exec_controlRoom, hfailed]
      rfl
  case setMode mode =>
      refine ⟨"Failed to set home mode", ?_⟩
      rw [dispatch, exec_setHomeMode, hfailed]
      rfl
  case activateScene scene =>
      refine ⟨"Scene activation failed", ?_⟩
      rw [dispatch, exec_activateScene, hfailed]
      rfl
  case runPattern pattern =>
      refine ⟨"Pattern demo failed: " ++ pattern, ?_⟩
      have hrun :
          (exec (dispatch (.runPattern pattern)) t p).2 = (exec (runPattern pattern) t p).2 :=
        rfl
      rw [hrun, exec_runPattern pattern t p _ _ (exec_anyDeviceId t p)]
      rw [exec_anyDeviceId] at hfailed ⊢
      rw [hfailed]
      rfl
  case labScene scene =>
      refine ⟨Presenter.patternMessage labScene.1, ?_⟩
      rw [dispatch, exec_runLabRequest, hfailed]
      rfl
  case labStrategy strategy =>
      refine ⟨Presenter.patternMessage labStrategy.1, ?_⟩
      rw [dispatch, exec_runLabRequest, hfailed]
      rfl
  case labAudit audit =>
      refine ⟨Presenter.patternMessage labAudit.1, ?_⟩
      rw [dispatch, exec_runLabRequest, hfailed]
      rfl
  case labButton b =>
      refine ⟨Presenter.patternMessage b.pattern, ?_⟩
      rw [dispatch, exec_pressLabButton, exec_runLabRequest, hfailed]
      rfl
  case submitForm s =>
      rw [dispatch, exec_submitForm, hfailed]
      cases hsection : s.resultSection? with
      | none =>
          refine ⟨"Request failed: " ++ s.method.name ++ " " ++ s.endpoint, ?_⟩
          simp only [Intent.failureReported, hsection]
      | some sectionId =>
          refine ⟨Presenter.patternMessage sectionId, ?_⟩
          simp only [Intent.failureReported, hsection]

/-- Against an offline backend a mode change fails, and the panel only reports it. -/
theorem offline_mode_change_only_reports :
    let p := withConfig ({ offline := true } : ScriptedBackend) Page.new {}
    let t : TimeOfDay := ⟨9, 26, 53⟩
    let c := p.primaryCall t (.setMode "AWAY")
    ((Intent.setMode "AWAY").prepared t p).answer c.method c.template c.params =
        .error (.transport "Failed to fetch") ∧
      ∃ message, (exec (dispatch (.setMode "AWAY")) t p).2 =
        (Intent.setMode "AWAY").failureReported
          (((Intent.setMode "AWAY").prepared t p).afterCall c.method c.template c.params)
          ⟨t, message, some (errorPayload (.transport "Failed to fetch"))⟩ :=
  ⟨rfl, failed_request_only_reports _ _ _ _ rfl⟩

end ControlPanel

end HomePanel
