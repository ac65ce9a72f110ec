import HomePanel.Panel
import Mathlib

/-!
# Running the panel's handlers

A handler runs in `PanelRun`: it reads the time of day and changes the panel.
`ControlPanel.exec` runs one from a panel state and gives its result and the panel after
it. Every handler is built from four changes of state: a call, which leaves the transport
as sending the request left it (`afterCall`); an entry handed to every sink (`reported`);
a write into the page (`mapPage`); and reading the panel. This module gives one equation
per handler that says which of these it makes, in which order, split on what each call
answered. Later proofs cite the equations and never unfold a handler.

What a sink keeps is independent of the page: a memory sink appends the entries it is
handed and the other sinks keep nothing (`Sink.receive`), so the presenter after
delivering an entry is the same whatever the page (`Presenter.deliver_fst`).
-/

namespace HomePanel

/-! ## Sinks and presenters -/

namespace Sink

/-- A sink after it was handed some entries: a memory sink keeps them at its end. -/
def receive (s : Sink) (es : List TraceEntry) : Sink :=
  match s with
  | .memory entries => .memory (entries ++ es)
  | s => s

@[simp] theorem receive_nil (s : Sink) : s.receive [] = s := by
  cases s <;> simp [receive]

@[simp] theorem receive_receive (s : Sink) (es es' : List TraceEntry) :
    (s.receive es).receive es' = s.receive (es ++ es') := by
  cases s <;> simp [receive]

theorem append_fst (s : Sink) (page : Page) (e : TraceEntry) :
    (s.append page e).1 = s.receive [e] := by
  cases s with
  | pageLog id =>
      simp only [append, receive]
      split <;> rfl
  | memory entries => rfl
  | log => rfl

end Sink

namespace Presenter

/-- Every sink of a presenter after it was handed some entries. -/
def receive (p : Presenter) (es : List TraceEntry) : Presenter := ⟨p.sinks.map (·.receive es)⟩

@[simp] theorem receive_sinks (p : Presenter) (es : List TraceEntry) :
    (p.receive es).sinks = p.sinks.map (·.receive es) := rfl

@[simp] theorem receive_nil (p : Presenter) : p.receive [] = p := by
  simp [receive]

@[simp] theorem receive_receive (p : Presenter) (es es' : List TraceEntry) :
    (p.receive es).receive es' = p.receive (es ++ es') := by
  simp [receive, Function.comp_def]

/-- The page after an entry was handed to every sink, in order. -/
def deliverPage (sinks : List Sink) (page : Page) (e : TraceEntry) : Page :=
  sinks.foldl (fun page s => (s.append page e).2) page

theorem foldl_deliver (sinks acc : List Sink) (page : Page) (e : TraceEntry) :
    sinks.foldl (fun (acc : List Sink × Page) s =>
        let (s, page) := s.append acc.2 e
        (acc.1 ++ [s], page)) (acc, page) =
      (acc ++ sinks.map (·.receive [e]), deliverPage sinks page e) := by
  induction sinks generalizing acc page with
  | nil => simp [deliverPage]
  | cons s rest ih =>
      simp only [List.foldl_cons]
      rw [ih]
      simp [deliverPage, Sink.append_fst]

@[simp] theorem deliver_fst (p : Presenter) (page : Page) (e : TraceEntry) :
    (p.deliver page e).1 = p.receive [e] := by
  simp [deliver, foldl_deliver, receive]

@[simp] theorem deliver_snd (p : Presenter) (page : Page) (e : TraceEntry) :
    (p.deliver page e).2 = deliverPage p.sinks page e := by
  simp [deliver, foldl_deliver]

end Presenter

/-! ## Pages shown by the handlers -/

namespace Page

/-- The page after each device of a list was written into its card, in order. -/
def syncAll (p : Page) (devices : List DeviceSnapshot) : Page :=
  devices.foldl (fun p d => (p.syncDevice d).1) p

/-- The page showing a device list: the number of devices that are on in the counter,
when the page has one, and each device in its card. -/
def showDevices (p : Page) (counterId : String) (devices : List DeviceSnapshot) : Page :=
  let p := match p.elementById? counterId with
    | some c => p.setText c (toString (activeCount devices))
    | none => p
  p.syncAll devices

/-- The page showing the label of a mode change's answer in the header, when it has both. -/
def showMode (p : Page) (headerId : String) (result : Json) : Page :=
  match p.elementById? headerId, homeModeLabel? result with
  | some h, some label => p.setText h label
  | _, _ => p

/-- The value a lab button reads: that of the named input of its section, if it has one. -/
def labInputValue? (p : Page) (b : LabButton) : Option String :=
  b.input.bind fun i => (p.elementById? i.sectionId).bind fun s => p.inputValue? s i.name

/-- The page with an entry written into the result panel of a pattern. -/
def showResult (p : Page) (pattern : String) (e : TraceEntry) : Page :=
  (p.writeResultPanel pattern e).1

end Page

/-- The payload that reports an answer: the body of a success, `{"error": …}` for a failure. -/
def reportPayload : Except ApiError Json → Json
  | .ok body => body
  | .error e => errorPayload e

namespace ControlPanel

variable {τ : Type} {α β : Type}

/-! ## Changes of state -/

/-- A handler run at a time of day from a panel: its result and the panel after it. -/
def exec (x : PanelRun τ α) (t : TimeOfDay) (p : ControlPanel τ) : α × ControlPanel τ :=
  (x.run t).run p

section Calls

variable [Transport τ]

/-- The panel after a call: its transport as sending the request left it. -/
def afterCall (p : ControlPanel τ) (method : HttpMethod) (template : String)
    (params : ParamMap) : ControlPanel τ :=
  { p with transport := (p.executor.execute p.transport method template params).2 }

/-- What a call answers: the body of the decoded response, or why there is none. -/
def answer (p : ControlPanel τ) (method : HttpMethod) (template : String) (params : ParamMap) :
    Except ApiError Json :=
  (p.executor.execute p.transport method template params).1.map (·.body.toValue)

end Calls

/-- The panel after an entry was handed to every sink. -/
def reported (p : ControlPanel τ) (e : TraceEntry) : ControlPanel τ :=
  { p with presenter := (p.presenter.deliver p.page e).1, page := (p.presenter.deliver p.page e).2 }

/-- The panel with its page changed. -/
def mapPage (p : ControlPanel τ) (f : Page → Page) : ControlPanel τ := { p with page := f p.page }

/-- The panel after an entry was written into a pattern's result panel and handed to every
sink. -/
def resultReported (p : ControlPanel τ) (pattern : String) (e : TraceEntry) : ControlPanel τ :=
  (p.mapPage (·.showResult pattern e)).reported e

@[simp] theorem afterCall_config [Transport τ] (p : ControlPanel τ) (m : HttpMethod)
    (tpl : String) (ps : ParamMap) : (p.afterCall m tpl ps).config = p.config := rfl
@[simp] theorem afterCall_executor [Transport τ] (p : ControlPanel τ) (m : HttpMethod)
    (tpl : String) (ps : ParamMap) : (p.afterCall m tpl ps).executor = p.executor := rfl
@[simp] theorem afterCall_page [Transport τ] (p : ControlPanel τ) (m : HttpMethod)
    (tpl : String) (ps : ParamMap) : (p.afterCall m tpl ps).page = p.page := rfl
@[simp] theorem afterCall_presenter [Transport τ] (p : ControlPanel τ) (m : HttpMethod)
    (tpl : String) (ps : ParamMap) : (p.afterCall m tpl ps).presenter = p.presenter := rfl

@[simp] theorem reported_config (p : ControlPanel τ) (e : TraceEntry) :
    (p.reported e).config = p.config := rfl
@[simp] theorem reported_executor (p : ControlPanel τ) (e : TraceEntry) :
    (p.reported e).executor = p.executor := rfl
@[simp] theorem reported_transport (p : ControlPanel τ) (e : TraceEntry) :
    (p.reported e).transport = p.transport := rfl
@[simp] theorem reported_presenter (p : ControlPanel τ) (e : TraceEntry) :
    (p.reported e).presenter = p.presenter.receive [e] := by
  simp [reported]
@[simp] theorem reported_page (p : ControlPanel τ) (e : TraceEntry) :
    (p.reported e).page = Presenter.deliverPage p.presenter.sinks p.page e := by
  simp [reported]

@[simp] theorem mapPage_config (p : ControlPanel τ) (f : Page → Page) :
    (p.mapPage f).config = p.config := rfl
@[simp] theorem mapPage_executor (p : ControlPanel τ) (f : Page → Page) :
    (p.mapPage f).executor = p.executor := rfl
@[simp] theorem mapPage_transport (p : ControlPanel τ) (f : Page → Page) :
    (p.mapPage f).transport = p.transport := rfl
@[simp] theorem mapPage_presenter (p : ControlPanel τ) (f : Page → Page) :
    (p.mapPage f).presenter = p.presenter := rfl
@[simp] theorem mapPage_page (p : ControlPanel τ) (f : Page → Page) :
    (p.mapPage f).page = f p.page := rfl

/-! ## The building blocks -/

@[simp] theorem exec_bind (x : PanelRun τ α) (f : α → PanelRun τ β) (t : TimeOfDay)
    (p : ControlPanel τ) : exec (x >>= f) t p = exec (f (exec x t p).1) t (exec x t p).2 := rfl

@[simp] theorem exec_pure (a : α) (t : TimeOfDay) (p : ControlPanel τ) :
    exec (pure a : PanelRun τ α) t p = (a, p) := rfl

@[simp] theorem exec_get (t : TimeOfDay) (p : ControlPanel τ) :
    exec (get : PanelRun τ (ControlPanel τ)) t p = (p, p) := rfl

@[simp] theorem exec_call [Transport τ] (m : HttpMethod) (tpl : String) (ps : ParamMap)
    (t : TimeOfDay) (p : ControlPanel τ) :
    exec (call m tpl ps) t p = (p.answer m tpl ps, p.afterCall m tpl ps) :=
  rfl

@[simp] theorem exec_present (message : String) (payload : Option Json) (t : TimeOfDay)
    (p : ControlPanel τ) :
    exec (present message payload) t p =
      (⟨t, message, payload⟩, p.reported ⟨t, message, payload⟩) :=
  rfl

@[simp] theorem exec_presentPatternResult (pattern : String) (data : Json) (t : TimeOfDay)
    (p : ControlPanel τ) :
    exec (presentPatternResult pattern data) t p =
      (⟨t, Presenter.patternMessage pattern, some data⟩,
        p.resultReported pattern ⟨t, Presenter.patternMessage pattern, some data⟩) :=
  rfl

@[simp] theorem exec_writeResultPanel (pattern : String) (e : TraceEntry) (t : TimeOfDay)
    (p : ControlPanel τ) :
    exec (writeResultPanel pattern e) t p =
      ((p.page.writeResultPanel pattern e).2, p.mapPage (·.showResult pattern e)) :=
  rfl

@[simp] theorem exec_modifyPage (f : Page → Page) (t : TimeOfDay) (p : ControlPanel τ) :
    exec (modifyPage f) t p = ((), p.mapPage f) := rfl

@[simp] theorem exec_reportFailure (message : String) (e : ApiError) (t : TimeOfDay)
    (p : ControlPanel τ) :
    exec (reportFailure message e) t p = ((), p.reported ⟨t, message, some (errorPayload e)⟩) :=
  rfl

@[simp] theorem exec_syncDevice (d : DeviceSnapshot) (t : TimeOfDay) (p : ControlPanel τ) :
    exec (syncDevice d) t p = ((p.page.syncDevice d).2, p.mapPage fun pg => (pg.syncDevice d).1) :=
  rfl

theorem exec_forIn_syncDevice (devices : List DeviceSnapshot) (t : TimeOfDay)
    (p : ControlPanel τ) :
    exec (forIn devices PUnit.unit fun d _ => do
        let _ ← syncDevice d
        pure (ForInStep.yield PUnit.unit)) t p =
      (PUnit.unit, p.mapPage (·.syncAll devices)) := by
  induction devices generalizing p with
  | nil => rfl
  | cons d rest ih =>
      simp only [List.forIn_cons, exec_bind, exec_syncDevice, exec_pure]
      rw [ih]
      rfl

/-! ## The handlers -/

section Handlers

variable [Transport τ]

theorem exec_refreshDevices (t : TimeOfDay) (p : ControlPanel τ) :
    exec refreshDevices t p =
      match p.answer .get "/devices" ParamMap.empty with
      | .error e => (none, (p.afterCall .get "/devices" ParamMap.empty).reported
          ⟨t, "Error refreshing devices", some (errorPayload e)⟩)
      | .ok body => (some (parseDevices body), (p.afterCall .get "/devices" ParamMap.empty).mapPage
          (·.showDevices p.config.activeDevicesElementId (parseDevices body))) := by
  simp only [refreshDevices, exec_bind, exec_call]
  cases p.answer .get "/devices" ParamMap.empty with
  | error e => rfl
  | ok body =>
      simp only [exec_bind, exec_get, afterCall_page, afterCall_config]
      cases hc : p.page.elementById? p.config.activeDevicesElementId with
      | none =>
          simp only [exec_bind, exec_forIn_syncDevice, exec_pure]
          simp [mapPage, Page.showDevices, hc]
      | some c =>
          simp only [exec_bind, exec_forIn_syncDevice, exec_pure, exec_modifyPage]
          simp [mapPage, Page.showDevices, hc]

@[simp] theorem refreshDevices_config (t : TimeOfDay) (p : ControlPanel τ) :
    (exec refreshDevices t p).2.config = p.config := by
  rw [exec_refreshDevices]
  split <;> rfl

@[simp] theorem refreshDevices_executor (t : TimeOfDay) (p : ControlPanel τ) :
    (exec refreshDevices t p).2.executor = p.executor := by
  rw [exec_refreshDevices]
  split <;> rfl

theorem exec_boot (t : TimeOfDay) (p : ControlPanel τ) :
    exec boot t p =
      ((), if ((exec refreshDevices t p).2.page.elementById? p.config.outputElementId).isSome
        then (exec refreshDevices t p).2.reported ⟨t, welcomeMessage, none⟩
        else (exec refreshDevices t p).2) := by
  simp only [boot, exec_bind, exec_get, refreshDevices_config]
  split <;> rfl

theorem exec_setHomeMode (mode : String) (t : TimeOfDay) (p : ControlPanel τ) :
    exec (setHomeMode mode) t p =
      ((), match p.answer .post "/mode/{mode}" (ParamMap.ofList [("mode", .text mode)]) with
        | .ok result =>
            ((p.afterCall .post "/mode/{mode}" (ParamMap.ofList [("mode", .text mode)])).mapPage
              (·.showMode p.config.homeModeElementId result)).reported
              ⟨t, "Home Mode -> " ++ mode, some result⟩
        | .error e =>
            (p.afterCall .post "/mode/{mode}" (ParamMap.ofList [("mode", .text mode)])).reported
              ⟨t, "Failed to set home mode", some (errorPayload e)⟩) := by
  simp only [setHomeMode, exec_bind, exec_call]
  cases p.answer .post "/mode/{mode}" (ParamMap.ofList [("mode", .text mode)]) with
  | error e => rfl
  | ok result =>
      simp only [exec_bind, exec_get, afterCall_page, afterCall_config]
      cases hh : p.page.elementById? p.config.homeModeElementId <;>
        cases hl : homeModeLabel? result <;>
        simp only [exec_bind, exec_present, exec_modifyPage, exec_pure, mapPage,
          afterCall_page, Page.showMode, hh, hl] <;> rfl

theorem exec_controlDevice (deviceId action : String) (t : TimeOfDay) (p : ControlPanel τ) :
    exec (controlDevice deviceId action) t p =
      ((), match p.answer .post "/devices/{deviceId}/control"
          (ParamMap.ofList [("deviceId", .text deviceId), ("action", .text action)]) with
        | .ok result =>
            let q := (p.afterCall .post "/devices/{deviceId}/control"
              (ParamMap.ofList [("deviceId", .text deviceId), ("action", .text action)])).reported
              ⟨t, "Device Control: " ++ deviceId ++ " -> " ++ action, some result⟩
            let q := match DeviceSnapshot.ofJson? result with
              | some d => q.mapPage fun page => (page.syncDevice d).1
              | none => q
            (exec refreshDevices t q).2
        | .error e =>
            (p.afterCall .post "/devices/{deviceId}/control"
              (ParamMap.ofList [("deviceId", .text deviceId), ("action", .text action)])).reported
              ⟨t, "Device control failed", some (errorPayload e)⟩) := by
  simp only [controlDevice, exec_bind, exec_call]
  cases p.answer .post "/devices/{deviceId}/control"
      (ParamMap.ofList [("deviceId", .text deviceId), ("action", .text action)]) with
  | error e => rfl
  | ok result =>
      simp only [exec_bind, exec_present]
      cases DeviceSnapshot.ofJson? result <;> rfl

theorem exec_controlRoom (room action : String) (t : TimeOfDay) (p : ControlPanel τ) :
    exec (controlRoom room action) t p =
      ((), match p.answer .post "/patterns/composite/rooms/{roomId}/control"
          (ParamMap.ofList [("roomId", .text room), ("action", .text action)]) with
        | .ok result =>
            (exec refreshDevices t ((p.afterCall .post "/patterns/composite/rooms/{roomId}/control"
              (ParamMap.ofList [("roomId", .text room), ("action", .text action)])).reported
              ⟨t, "Room Control: " ++ room ++ " -> " ++ action, some result⟩)).2
        | .error e =>
            (p.afterCall .post "/patterns/composite/rooms/{roomId}/control"
              (ParamMap.ofList [("roomId", .text room), ("action", .text action)])).reported
              ⟨t, "Room control failed", some (errorPayload e)⟩) := by
  simp only [controlRoom, exec_bind, exec_call]
  cases p.answer .post "/patterns/composite/rooms/{roomId}/control"
      (ParamMap.ofList [("roomId", .text room), ("action", .text action)]) <;> rfl

theorem exec_activateScene (scene : String) (t : TimeOfDay) (p : ControlPanel τ) :
    exec (activateScene scene) t p =
      ((), match p.answer .post "/patterns/facade/scene/{sceneName}"
          (ParamMap.ofList [("sceneName", .text scene)]) with
        | .ok result =>
            (exec refreshDevices t ((p.afterCall .post "/patterns/facade/scene/{sceneName}"
              (ParamMap.ofList [("sceneName", .text scene)])).reported
              ⟨t, "Scene Activated: " ++ scene, some result⟩)).2
        | .error e =>
            (p.afterCall .post "/patterns/facade/scene/{sceneName}"
              (ParamMap.ofList [("sceneName", .text scene)])).reported
              ⟨t, "Scene activation failed", some (errorPayload e)⟩) := by
  simp only [activateScene, exec_bind, exec_call]
  cases p.answer .post "/patterns/facade/scene/{sceneName}"
      (ParamMap.ofList [("sceneName", .text scene)]) <;> rfl

theorem exec_anyDeviceId (t : TimeOfDay) (p : ControlPanel τ) :
    exec anyDeviceId t p =
      (((exec refreshDevices t p).1.bind List.head?).bind DeviceSnapshot.id,
        (exec refreshDevices t p).2) := by
  simp only [anyDeviceId, exec_bind]
  rcases (exec refreshDevices t p).1 with _ | _ | ⟨d, rest⟩ <;> rfl

theorem exec_runPattern (pattern : String) (t : TimeOfDay) (p q : ControlPanel τ)
    (deviceId : Option String) (hfound : exec anyDeviceId t p = (deviceId, q)) :
    exec (runPattern pattern) t p =
      match q.answer (lookupAction pattern).method (lookupAction pattern).endpoint
          ((lookupAction pattern).buildParams deviceId) with
      | .ok result =>
          (some result, ((q.afterCall (lookupAction pattern).method (lookupAction pattern).endpoint
            ((lookupAction pattern).buildParams deviceId)).reported
            ⟨t, "Pattern Demo: " ++ pattern, some result⟩).mapPage
            (·.showResult pattern ⟨t, "Pattern Demo: " ++ pattern, some result⟩))
      | .error err =>
          (none, ((q.afterCall (lookupAction pattern).method (lookupAction pattern).endpoint
            ((lookupAction pattern).buildParams deviceId)).reported
            ⟨t, "Pattern demo failed: " ++ pattern, some (errorPayload err)⟩).mapPage
            (·.showResult pattern ⟨t, "Pattern demo failed: " ++ pattern, some (errorPayload err)⟩)) := by
  simp only [runPattern, exec_bind, hfound, exec_call]
  cases q.answer (lookupAction pattern).method (lookupAction pattern).endpoint
      ((lookupAction pattern).buildParams deviceId) <;> rfl

theorem exec_runLabRequest (pattern : String) (method : HttpMethod) (template : String)
    (params : ParamMap) (t : TimeOfDay) (p : ControlPanel τ) :
    exec (runLabRequest pattern method template params) t p =
      ((), (p.afterCall method template params).resultReported pattern
        ⟨t, Presenter.patternMessage pattern, some (reportPayload (p.answer method template params))⟩) := by
  simp only [runLabRequest, exec_bind, exec_call]
  cases p.answer method template params <;> rfl

theorem exec_pressLabButton (b : LabButton) (t : TimeOfDay) (p : ControlPanel τ) :
    exec (pressLabButton b) t p =
      exec (runLabRequest b.pattern b.method b.endpoint
        (b.buildParams (p.page.labInputValue? b))) t p := by
  rw [pressLabButton, exec_bind, exec_get]
  rfl

theorem exec_submitForm (s : FormSubmission) (t : TimeOfDay) (p : ControlPanel τ) :
    exec (submitForm s) t p =
      ((), match p.answer s.method s.endpoint s.params with
        | .ok result =>
            let q := p.afterCall s.method s.endpoint s.params
            let q := match s.resultSection? with
              | some sectionId =>
                  q.resultReported sectionId ⟨t, Presenter.patternMessage sectionId, some result⟩
              | none => q.reported ⟨t, s.method.name ++ " " ++ s.endpoint, some result⟩
            let q := (exec refreshDevices t q).2
            if s.refresh then q.mapPage Page.reload else q
        | .error e =>
            let q := p.afterCall s.method s.endpoint s.params
            match s.resultSection? with
            | some sectionId => q.resultReported sectionId
                ⟨t, Presenter.patternMessage sectionId, some (errorPayload e)⟩
            | none => q.reported
                ⟨t, "Request failed: " ++ s.method.name ++ " " ++ s.endpoint, some (errorPayload e)⟩) := by
  simp only [submitForm, exec_bind, exec_call]
  cases p.answer s.method s.endpoint s.params with
  | error e => cases s.resultSection? <;> rfl
  | ok result =>
      cases s.resultSection? <;> cases s.refresh <;> rfl

theorem exec_handleEvent (kind : EventKind) (target : Nat) (t : TimeOfDay) (p : ControlPanel τ) :
    exec (handleEvent kind target) t p =
      match p.page.resolveIntent kind target with
      | some i => (true, (exec (dispatch i) t p).2)
      | none => (false, p) := by
  simp only [handleEvent, exec_bind, exec_get]
  cases p.page.resolveIntent kind target <;> rfl

end Handlers

end ControlPanel

end HomePanel
