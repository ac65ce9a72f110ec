import HomePanel.Proofs.Page.Text
import HomePanel.Proofs.Panel.Session
import HomePanel.Proofs.Panel.Dispatch
import HomePanel.Proofs.Template

/-!
# The counter and the header

Over a session against the scripted backend, the active-devices element (the counter)
shows the number of devices that are on in the last device list the backend gave, and the
home-mode element (the header) the label of the last mode change that had one.

Two facts carry this. Each of the two elements is a readout (`Page.Readout`) that no other
writer reaches: the log writes the output element, a result panel has an id ending in
`-result`, a device sync writes slots of cards, and the ids and the page keep clear of all
of them (`ControlPanel.Guards`). `ControlPanel.Writes` follows a readout's text along the
writes of one handler. And within one step every `GET <base>/devices` is answered alike,
since the backend answers from its routes alone; a refresh follows every such request
that succeeds, and no intent that never refreshes sends one
(`Intent.request_ne_devicesRequest`).
-/

namespace HomePanel

theorem Sink.eq_pageLog_of_receive {s : Sink} {es : List TraceEntry} {y : String}
    (h : s.receive es = .pageLog y) : s = .pageLog y := by
  cases s with
  | pageLog z => exact h
  | memory entries => simp [Sink.receive] at h
  | log => exact h

theorem Presenter.pageLog_mem_of_receive {pr : Presenter} {es : List TraceEntry} {s : Sink}
    (hs : s ∈ (pr.receive es).sinks) {y : String} (hy : s = .pageLog y) :
    Sink.pageLog y ∈ pr.sinks := by
  rw [Presenter.receive_sinks, List.mem_map] at hs
  obtain ⟨s', hs', rfl⟩ := hs
  rw [← Sink.eq_pageLog_of_receive hy]
  exact hs'

/-- Every answer to one request is the same, so the last of them is that answer, when the
request was sent at all. -/
theorem List.getLast?_filterMap_ite {α β : Type} [DecidableEq α] (l : List α) (d : α)
    (b : Option β) :
    (l.filterMap fun r => if r = d then b else none).getLast? = if d ∈ l then b else none := by
  induction l with
  | nil => simp
  | cons a l ih =>
      by_cases had : a = d
      · subst had
        cases b with
        | none => simp
        | some v =>
            rw [List.filterMap_cons, if_pos rfl, List.getLast?_cons, ih]
            split <;> simp
      · have hmem : d ∈ a :: l ↔ d ∈ l := by simp [Ne.symm had]
        rw [List.filterMap_cons, if_neg had, ih]
        simp only [hmem]

/-! ## Requests that are not the device list -/

namespace Executor

theorem requestFor_url_length (ex : Executor) (method : HttpMethod) {template : String}
    (htemplate : '{' ∉ template.toList) (params : ParamMap) :
    (ex.requestFor method template params).url.length =
      ex.basePath.length + template.length + params.query.length := by
  simp [requestFor, BuiltUrl.build, BuiltUrl.pathAndQuery,
    Template.expand_of_brace_not_mem htemplate, String.length_append, Nat.add_assoc]

theorem requestFor_ne_of_method (ex : Executor) {method : HttpMethod} (hmethod : method ≠ .get)
    (template : String) (params : ParamMap) :
    ex.requestFor method template params ≠ ex.requestFor .get "/devices" ParamMap.empty := by
  intro h
  exact hmethod (congrArg ApiRequest.method h)

/-- A request to an endpoint without placeholders longer than `/devices` is not the device
list request. -/
theorem requestFor_ne_of_length (ex : Executor) (method : HttpMethod) {template : String}
    (htemplate : '{' ∉ template.toList) (hlength : "/devices".length < template.length)
    (params : ParamMap) :
    ex.requestFor method template params ≠ ex.requestFor .get "/devices" ParamMap.empty := by
  intro h
  have hurl := congrArg (·.url.length) h
  simp only [requestFor_url_length ex _ htemplate,
    requestFor_url_length ex _ (by decide : '{' ∉ "/devices".toList)] at hurl
  have hempty : ParamMap.empty.query.length = 0 := by decide
  omega

end Executor

theorem mem_labButtons_of_intent? {r : ClickRole} {e : Element} {b : LabButton}
    (h : r.intent? e = some (.labButton b)) : b ∈ labButtons := by
  cases r
  case labButton =>
    simp only [ClickRole.intent?, Option.map_eq_some_iff, Intent.labButton.injEq] at h
    obtain ⟨b', hb', rfl⟩ := h
    unfold ClickRole.labButtonOf? at hb'
    obtain ⟨id, -, hfound⟩ := Option.bind_eq_some_iff.mp hb'
    exact List.mem_of_find?_eq_some hfound
  all_goals simp [ClickRole.intent?, Option.bind_eq_some_iff] at h

theorem Page.mem_labButtons_of_resolveIntent {p : Page} {kind : EventKind} {target : Nat}
    {b : LabButton} (h : p.resolveIntent kind target = some (.labButton b)) : b ∈ labButtons := by
  cases kind with
  | submit => simp [resolveIntent] at h
  | click =>
      simp only [resolveIntent, resolveClick] at h
      split at h
      · obtain ⟨e, -, hrole⟩ := Option.bind_eq_some_iff.mp h
        exact mem_labButtons_of_intent? hrole
      · exact absurd h (Option.some_ne_none _).symm

theorem labButtons_clear_of_devices :
    ∀ b ∈ labButtons, b.method ≠ .get ∨
      ('{' ∉ b.endpoint.toList ∧ "/devices".length < b.endpoint.length) := by
  decide

/-- An intent an event resolves to and that never refreshes does not ask for the device
list: the mode and lab requests are posts, or reach a longer endpoint. -/
theorem Intent.request_ne_devicesRequest {p : Page} {kind : EventKind} {target : Nat} {i : Intent}
    (hresolve : p.resolveIntent kind target = some i) (hnever : i.refreshPlan = .never)
    (ex : Executor) (deviceId : Option String) :
    i.request ex p deviceId ≠ ex.requestFor .get "/devices" ParamMap.empty := by
  cases i <;> simp only [refreshPlan, reduceCtorEq] at hnever
  all_goals simp only [Intent.request, Intent.call]
  case setMode mode => exact ex.requestFor_ne_of_method (by decide) _ _
  case labScene scene => exact ex.requestFor_ne_of_method (by decide) _ _
  case labStrategy strategy => exact ex.requestFor_ne_of_method (by decide) _ _
  case labAudit audit => exact ex.requestFor_ne_of_length _ (by decide) (by decide) _
  case labButton b =>
    rcases labButtons_clear_of_devices b (Page.mem_labButtons_of_resolveIntent hresolve) with
      hmethod | ⟨htemplate, hlength⟩
    · exact ex.requestFor_ne_of_method hmethod _ _
    · exact ex.requestFor_ne_of_length _ htemplate hlength _

/-- Whether a plan refreshes the device list, given whether the intent's request
succeeded. -/
@[simp] def RefreshPlan.refreshes : RefreshPlan → Bool → Bool
  | .before, _ => true
  | .afterSuccess, ok => ok
  | .never, _ => false

theorem Except.toOption_of_isOk_eq_false {ε α : Type} {e : Except ε α} (h : e.isOk = false) :
    e.toOption = none := by
  cases e with
  | error err => rfl
  | ok a => simp [Except.isOk, Except.toBool] at h

/-- A plan refreshes exactly when the device list request is among its requests and
succeeded: after a failed request it sends none unless that request was the device list
request itself, which then failed. -/
theorem RefreshPlan.refreshes_eq_mem (plan : RefreshPlan) (devices primary : ApiRequest)
    (outcome : ApiRequest → Except ApiError ApiResponse)
    (hnever : plan = .never → primary ≠ devices) :
    (if plan.refreshes (outcome primary).isOk then (outcome devices).toOption else none) =
      if devices ∈ plan.requests devices primary (outcome primary).isOk
        then (outcome devices).toOption else none := by
  cases plan with
  | before => simp
  | afterSuccess =>
      cases hok : (outcome primary).isOk with
      | true => simp
      | false =>
          by_cases hd : devices = primary
          · subst hd
            simp [Except.toOption_of_isOk_eq_false hok]
          · simp [hd]
  | never =>
      have hne := hnever rfl
      simp [Ne.symm hne]

/-! ## Readouts no other writer reaches -/

namespace ControlPanel

variable {τ : Type}

/-- The element `el` found by id `x` is a readout that no sink logs into and no result
panel names: only a write by the id `x` reaches it. -/
structure Guards (q : ControlPanel τ) (x : String) (el : Nat) : Prop where
  readout : q.page.Readout x el
  logs : ∀ s ∈ q.presenter.sinks, ∀ y, s = .pageLog y → y ≠ x
  results : ∀ pre, x ≠ pre ++ "-result"

theorem Guards.of_layout {q q' : ControlPanel τ} {x : String} {el : Nat} (h : q.Guards x el)
    (hlayout : q.page.SameLayout q'.page)
    (hlogs : ∀ s ∈ q'.presenter.sinks, ∀ y, s = .pageLog y →
      Sink.pageLog y ∈ q.presenter.sinks) :
    q'.Guards x el where
  readout := h.readout.of_sameLayout hlayout
  logs := fun s hs y hy => h.logs _ (hlogs s hs y hy) y rfl
  results := h.results

theorem Guards.of_same {q q' : ControlPanel τ} {x : String} {el : Nat} (h : q.Guards x el)
    (hpage : q'.page = q.page) (hpresenter : q'.presenter = q.presenter) : q'.Guards x el :=
  ⟨hpage ▸ h.readout, hpresenter ▸ h.logs, h.results⟩

/-- The counter text for an answer to the device list request: the number of devices that
are on in it. -/
def deviceCountText (r : ApiResponse) : String :=
  toString (activeCount (parseDevices r.body.toValue))

/-- The counter text of the backend's answer to the device list request, when that
succeeds. -/
def devicesText (p : ControlPanel ScriptedBackend) : Option String :=
  (p.transport.outcome p.devicesRequest).toOption.map deviceCountText

/-- What a refresh writes into the readout of id `x`. -/
def refreshText (p : ControlPanel ScriptedBackend) (x : String) : Option String :=
  if p.config.activeDevicesElementId = x then p.devicesText else none

/-- From `p` to `q` within one step: the readout `el` of id `x` stays guarded and its text
is `v` when that is some text and unchanged otherwise; the configuration and the executor
stay, and the backend only logged requests. -/
structure Writes (x : String) (el : Nat) (p q : ControlPanel ScriptedBackend)
    (v : Option String) : Prop where
  guards : q.Guards x el
  text : q.page.textAt el = v.or (p.page.textAt el)
  config : q.config = p.config
  executor : q.executor = p.executor
  logged : ∃ sent, q.transport = p.transport.logged sent

namespace Writes

variable {x : String} {el : Nat} {p q : ControlPanel ScriptedBackend} {v : Option String}

theorem start (h : p.Guards x el) : Writes x el p p none :=
  ⟨h, rfl, rfl, rfl, ⟨[], by simp⟩⟩

theorem of_eq (h : Writes x el p q v) {w : Option String} (hvw : v = w) : Writes x el p q w :=
  hvw ▸ h

theorem afterCall (h : Writes x el p q v) {m : HttpMethod} {tpl : String} {ps : ParamMap} :
    Writes x el p (q.afterCall m tpl ps) v := by
  obtain ⟨sent, hsent⟩ := h.logged
  exact ⟨h.guards.of_same rfl rfl, h.text, h.config, h.executor,
    ⟨sent ++ [q.executor.requestFor m tpl ps], by simp [hsent]⟩⟩

theorem reported (h : Writes x el p q v) (e : TraceEntry) : Writes x el p (q.reported e) v := by
  have hlayout := (Page.redrawn_deliverPage q.presenter.sinks q.page e).layout
  rw [← reported_page] at hlayout
  refine ⟨h.guards.of_layout hlayout ?_, ?_, h.config, h.executor, h.logged⟩
  · intro s hs y hy
    rw [reported_presenter] at hs
    exact Presenter.pageLog_mem_of_receive hs hy
  · rw [reported_page, Page.textAt_deliverPage_of_found h.guards.readout.found _ h.guards.logs]
    exact h.text

/-- A page write that keeps the layout and reaches the readout only as `w` says. -/
theorem mapPage (h : Writes x el p q v) {f : Page → Page}
    (hf : ∀ pg : Page, pg.SameLayout (f pg)) {w : Option String}
    (hw : ∀ pg : Page, pg.Readout x el → (f pg).textAt el = w.or (pg.textAt el)) :
    Writes x el p (q.mapPage f) (w.or v) := by
  have hlogs : ∀ s ∈ (q.mapPage f).presenter.sinks, ∀ y, s = .pageLog y →
      Sink.pageLog y ∈ q.presenter.sinks := by
    intro s hs y hy
    subst hy
    exact hs
  refine ⟨h.guards.of_layout (hf q.page) hlogs, ?_, h.config, h.executor, h.logged⟩
  rw [mapPage_page, hw q.page h.guards.readout, h.text, Option.or_assoc]

theorem syncDevice (h : Writes x el p q v) (d : DeviceSnapshot) :
    Writes x el p (q.mapPage fun pg => (pg.syncDevice d).1) v :=
  h.mapPage (w := none) (fun pg => (Page.redrawn_syncDevice pg d).layout)
    fun _ hpg => Page.textAt_syncDevice hpg d

theorem showPatternResult (h : Writes x el p q v) (pattern : String) (e : TraceEntry) :
    Writes x el p (q.mapPage (·.showResult pattern e)) v :=
  h.mapPage (w := none) (fun pg => (Page.redrawn_showResult pg pattern e).layout)
    fun _ hpg => Page.textAt_showResult hpg h.guards.results pattern e

theorem resultReported (h : Writes x el p q v) (pattern : String) (e : TraceEntry) :
    Writes x el p (q.resultReported pattern e) v :=
  (h.showPatternResult pattern e).reported e

theorem reload (h : Writes x el p q v) : Writes x el p (q.mapPage Page.reload) v :=
  h.mapPage (w := none) (fun pg => (Page.redrawn_reload pg).layout) fun _ _ => rfl

theorem showMode (h : Writes x el p q v) (headerId : String) (result : Json) :
    Writes x el p (q.mapPage (·.showMode headerId result))
      ((if headerId = x then homeModeLabel? result else none).or v) :=
  h.mapPage (fun pg => (Page.redrawn_showMode pg headerId result).layout) fun _ hpg => by
    rw [Page.textAt_showMode hpg]
    split <;> rfl

theorem showDevices (h : Writes x el p q v) (counterId : String)
    (devices : List DeviceSnapshot) :
    Writes x el p (q.mapPage (·.showDevices counterId devices))
      ((if counterId = x then some (toString (activeCount devices)) else none).or v) :=
  h.mapPage (fun pg => (Page.redrawn_showDevices pg counterId devices).layout) fun _ hpg => by
    rw [Page.textAt_showDevices hpg]
    split <;> rfl

/-- A refresh within the step writes the count of the step's device list. -/
theorem refreshDevices (t : TimeOfDay) (h : Writes x el p q v) :
    Writes x el p (exec ControlPanel.refreshDevices t q).2 ((p.refreshText x).or v) := by
  obtain ⟨sent, hsent⟩ := h.logged
  have houtcome : q.transport.outcome q.devicesRequest = p.transport.outcome p.devicesRequest := by
    rw [hsent, ScriptedBackend.outcome_logged, devicesRequest, devicesRequest, h.executor]
  rw [exec_refreshDevices, answer_devices, houtcome]
  cases hout : p.transport.outcome p.devicesRequest with
  | error e =>
      have hnone : p.refreshText x = none := by
        unfold refreshText devicesText
        rw [hout]
        split <;> rfl
      simp only [Except.map, hnone]
      exact h.afterCall.reported _
  | ok r =>
      simp only [Except.map]
      refine (h.afterCall.showDevices _ _).of_eq ?_
      unfold refreshText devicesText
      rw [hout, h.config]
      rfl

end Writes

/-! ## What each handler writes into a readout -/

section Handlers

variable (t : TimeOfDay) (p : ControlPanel ScriptedBackend) {x : String} {el : Nat}
  (hg : p.Guards x el)
include hg

theorem writes_boot : Writes x el p (exec boot t p).2 (p.refreshText x) := by
  have hrefresh := ((Writes.start hg).refreshDevices t).of_eq Option.or_none
  rw [exec_boot]
  split
  · exact hrefresh.reported _
  · exact hrefresh

theorem writes_setHomeMode (mode : String) :
    Writes x el p (exec (setHomeMode mode) t p).2
      (if p.config.homeModeElementId = x then
        (p.transport.outcome (p.executor.requestFor .post "/mode/{mode}"
          (ParamMap.ofList [("mode", .text mode)]))).toOption.bind
            fun r => homeModeLabel? r.body.toValue
      else none) := by
  rw [exec_setHomeMode, answer_eq]
  cases p.transport.outcome (p.executor.requestFor .post "/mode/{mode}"
      (ParamMap.ofList [("mode", .text mode)])) with
  | error e =>
      simp only [Except.map]
      refine ((Writes.start hg).afterCall.reported _).of_eq ?_
      by_cases hx : p.config.homeModeElementId = x <;> simp [hx, Except.toOption]
  | ok r =>
      simp only [Except.map]
      refine (((Writes.start hg).afterCall.showMode _ _).reported _).of_eq ?_
      by_cases hx : p.config.homeModeElementId = x <;> simp [hx, Except.toOption]

theorem writes_controlDevice (deviceId action : String) :
    Writes x el p (exec (controlDevice deviceId action) t p).2
      (if (p.transport.outcome (p.executor.requestFor .post "/devices/{deviceId}/control"
          (ParamMap.ofList [("deviceId", .text deviceId), ("action", .text action)]))).isOk
        then p.refreshText x else none) := by
  rw [exec_controlDevice, answer_eq]
  cases p.transport.outcome (p.executor.requestFor .post "/devices/{deviceId}/control"
      (ParamMap.ofList [("deviceId", .text deviceId), ("action", .text action)])) with
  | error e =>
      simp only [Except.map, Except.isOk, Except.toBool, Bool.false_eq_true, ↓reduceIte]
      exact (Writes.start hg).afterCall.reported _
  | ok r =>
      simp only [Except.map, Except.isOk, Except.toBool, ↓reduceIte]
      have hreport : Writes x el p ((p.afterCall .post "/devices/{deviceId}/control"
          (ParamMap.ofList [("deviceId", .text deviceId), ("action", .text action)])).reported
          ⟨t, "Device Control: " ++ deviceId ++ " -> " ++ action, some r.body.toValue⟩) none :=
        (Writes.start hg).afterCall.reported _
      cases DeviceSnapshot.ofJson? r.body.toValue with
      | some d => exact ((hreport.syncDevice d).refreshDevices t).of_eq Option.or_none
      | none => exact (hreport.refreshDevices t).of_eq Option.or_none

theorem writes_controlRoom (room action : String) :
    Writes x el p (exec (controlRoom room action) t p).2
      (if (p.transport.outcome (p.executor.requestFor .post
          "/patterns/composite/rooms/{roomId}/control"
          (ParamMap.ofList [("roomId", .text room), ("action", .text action)]))).isOk
        then p.refreshText x else none) := by
  rw [exec_controlRoom, answer_eq]
  cases p.transport.outcome (p.executor.requestFor .post
      "/patterns/composite/rooms/{roomId}/control"
      (ParamMap.ofList [("roomId", .text room), ("action", .text action)])) with
  | error e =>
      simp only [Except.map, Except.isOk, Except.toBool, Bool.false_eq_true, ↓reduceIte]
      exact (Writes.start hg).afterCall.reported _
  | ok r =>
      simp only [Except.map, Except.isOk, Except.toBool, ↓reduceIte]
      exact (((Writes.start hg).afterCall.reported _).refreshDevices t).of_eq Option.or_none

theorem writes_activateScene (scene : String) :
    Writes x el p (exec (activateScene scene) t p).2
      (if (p.transport.outcome (p.executor.requestFor .post
          "/patterns/facade/scene/{sceneName}" (ParamMap.ofList [("sceneName", .text scene)]))).isOk
        then p.refreshText x else none) := by
  rw [exec_activateScene, answer_eq]
  cases p.transport.outcome (p.executor.requestFor .post
      "/patterns/facade/scene/{sceneName}" (ParamMap.ofList [("sceneName", .text scene)])) with
  | error e =>
      simp only [Except.map, Except.isOk, Except.toBool, Bool.false_eq_true, ↓reduceIte]
      exact (Writes.start hg).afterCall.reported _
  | ok r =>
      simp only [Except.map, Except.isOk, Except.toBool, ↓reduceIte]
      exact (((Writes.start hg).afterCall.reported _).refreshDevices t).of_eq Option.or_none

theorem writes_runPattern (pattern : String) :
    Writes x el p (exec (runPattern pattern) t p).2 (p.refreshText x) := by
  rw [exec_runPattern pattern t p _ _ (exec_anyDeviceId_listed t p)]
  have hrefresh := ((Writes.start hg).refreshDevices t).of_eq Option.or_none
  split
  · exact (hrefresh.afterCall.reported _).showPatternResult _ _
  · exact (hrefresh.afterCall.reported _).showPatternResult _ _

theorem writes_runLabRequest (pattern : String) (method : HttpMethod) (template : String)
    (params : ParamMap) :
    Writes x el p (exec (runLabRequest pattern method template params) t p).2 none := by
  rw [exec_runLabRequest]
  exact (Writes.start hg).afterCall.resultReported _ _

theorem writes_submitForm (s : FormSubmission) :
    Writes x el p (exec (submitForm s) t p).2
      (if (p.transport.outcome (p.executor.requestFor s.method s.endpoint s.params)).isOk
        then p.refreshText x else none) := by
  rw [exec_submitForm, answer_eq]
  cases p.transport.outcome (p.executor.requestFor s.method s.endpoint s.params) with
  | error e =>
      simp only [Except.map, Except.isOk, Except.toBool, Bool.false_eq_true, ↓reduceIte]
      split
      · exact (Writes.start hg).afterCall.resultReported _ _
      · exact (Writes.start hg).afterCall.reported _
  | ok r =>
      simp only [Except.map, Except.isOk, Except.toBool, ↓reduceIte]
      cases s.refresh <;> simp only [Bool.false_eq_true, ↓reduceIte] <;> split
      · exact (((Writes.start hg).afterCall.resultReported _ _).refreshDevices t).of_eq
          Option.or_none
      · exact (((Writes.start hg).afterCall.reported _).refreshDevices t).of_eq Option.or_none
      · exact ((((Writes.start hg).afterCall.resultReported _ _).refreshDevices t).of_eq
          Option.or_none).reload
      · exact ((((Writes.start hg).afterCall.reported _).refreshDevices t).of_eq
          Option.or_none).reload

end Handlers

/-- The label the answer to a mode change gives, when it succeeds with one. -/
def modeLabel? (p : ControlPanel ScriptedBackend) : Intent → Option String
  | .setMode mode =>
      (p.primaryOutcome (.setMode mode)).toOption.bind fun r => homeModeLabel? r.body.toValue
  | _ => none

/-- What dispatching an intent writes into the readout of id `x`: the label of a mode
change into the header, and the count of its refresh, when it refreshes, into the
counter. -/
def readoutText (p : ControlPanel ScriptedBackend) (i : Intent) (x : String) : Option String :=
  (if p.config.homeModeElementId = x then p.modeLabel? i else none).or
    (if i.refreshPlan.refreshes (p.primaryOutcome i).isOk then p.refreshText x else none)

theorem readoutText_of_modeLabel?_eq_none (p : ControlPanel ScriptedBackend) {i : Intent}
    (hmode : p.modeLabel? i = none) (x : String) :
    p.readoutText i x =
      if i.refreshPlan.refreshes (p.primaryOutcome i).isOk then p.refreshText x else none := by
  rw [readoutText, hmode, ite_self, Option.none_or]

theorem readoutText_setMode (p : ControlPanel ScriptedBackend) (mode x : String) :
    p.readoutText (.setMode mode) x =
      if p.config.homeModeElementId = x then p.modeLabel? (.setMode mode) else none := by
  simp [readoutText]

theorem writes_dispatch (t : TimeOfDay) (p : ControlPanel ScriptedBackend) {x : String}
    {el : Nat} (hg : p.Guards x el) (i : Intent) :
    Writes x el p (exec (dispatch i) t p).2 (p.readoutText i x) := by
  cases i
  case setMode mode =>
    rw [readoutText_setMode]
    exact writes_setHomeMode t p hg mode
  all_goals rw [readoutText_of_modeLabel?_eq_none p rfl]
  case controlDevice d a => exact writes_controlDevice t p hg d a
  case controlRoom room a => exact writes_controlRoom t p hg room a
  case activateScene scene => exact writes_activateScene t p hg scene
  case runPattern pattern => exact writes_runPattern t p hg pattern
  case labScene scene => exact writes_runLabRequest t p hg _ _ _ _
  case labStrategy strategy => exact writes_runLabRequest t p hg _ _ _ _
  case labAudit audit => exact writes_runLabRequest t p hg _ _ _ _
  case labButton b =>
    rw [dispatch, exec_pressLabButton]
    exact writes_runLabRequest t p hg _ _ _ _
  case submitForm s =>
    rw [dispatch]
    exact writes_submitForm t p hg s

/-! ## Steps and sessions -/

/-- What a step writes into the readout of id `x`. -/
def stepText (p : ControlPanel ScriptedBackend) (x : String) :
    PanelStep ScriptedBackend → Option String
  | .boot _ => p.refreshText x
  | .handle _ kind target => (p.page.resolveIntent kind target).bind fun i => p.readoutText i x
  | .setTransport _ => none

theorem step_writes (p : ControlPanel ScriptedBackend) {x : String} {el : Nat}
    (hg : p.Guards x el) (s : PanelStep ScriptedBackend) :
    (p.step s).Guards x el ∧ (p.step s).config = p.config ∧
      (p.step s).page.textAt el = (p.stepText x s).or (p.page.textAt el) := by
  cases s with
  | boot t =>
      have h := writes_boot t p hg
      exact ⟨h.guards, h.config, h.text⟩
  | handle t kind target =>
      simp only [step, stepText, exec_handleEvent]
      cases p.page.resolveIntent kind target with
      | none => exact ⟨hg, rfl, rfl⟩
      | some i =>
          have h := writes_dispatch t p hg i
          exact ⟨h.guards, h.config, h.text⟩
  | setTransport b => exact ⟨hg.of_same rfl rfl, rfl, rfl⟩

/-- The requests a step sends, in order: what it adds to the backend's log. -/
def stepRequests (p : ControlPanel ScriptedBackend) : PanelStep ScriptedBackend → List ApiRequest
  | .setTransport _ => []
  | s => (p.step s).transport.requests.drop p.transport.requests.length

/-- The answers to the device list requests of a step that succeeded, in order. -/
def stepDeviceLists (p : ControlPanel ScriptedBackend) (s : PanelStep ScriptedBackend) :
    List ApiResponse :=
  (p.stepRequests s).filterMap fun r =>
    if r = p.devicesRequest then (p.transport.outcome r).toOption else none

/-- The labels of the mode changes of a step that succeeded with one. -/
def stepModeLabels (p : ControlPanel ScriptedBackend) : PanelStep ScriptedBackend → List String
  | .handle _ kind target => ((p.page.resolveIntent kind target).bind p.modeLabel?).toList
  | _ => []

/-- The answers to the device list requests that succeeded over a session, in order. -/
def deviceLists (p : ControlPanel ScriptedBackend) :
    List (PanelStep ScriptedBackend) → List ApiResponse
  | [] => []
  | s :: rest => p.stepDeviceLists s ++ (p.step s).deviceLists rest

/-- The labels of the mode changes that succeeded with one over a session, in order. -/
def modeLabels (p : ControlPanel ScriptedBackend) : List (PanelStep ScriptedBackend) → List String
  | [] => []
  | s :: rest => p.stepModeLabels s ++ (p.step s).modeLabels rest

theorem stepRequests_eq {p : ControlPanel ScriptedBackend} {s : PanelStep ScriptedBackend}
    (hs : ∀ b, s ≠ .setTransport b) {sent : List ApiRequest}
    (h : (p.step s).transport = p.transport.logged sent) : p.stepRequests s = sent := by
  cases s with
  | setTransport b => exact absurd rfl (hs b)
  | boot t => simp [stepRequests, h, ScriptedBackend.logged]
  | handle t kind target => simp [stepRequests, h, ScriptedBackend.logged]

/-- A step's device list requests are all answered alike: the last answer is that of the
device list request, when the step sent it. -/
theorem stepDeviceLists_getLast? (p : ControlPanel ScriptedBackend)
    (s : PanelStep ScriptedBackend) :
    (p.stepDeviceLists s).getLast? =
      if p.devicesRequest ∈ p.stepRequests s
        then (p.transport.outcome p.devicesRequest).toOption else none := by
  have hanswer :
      (fun r => if r = p.devicesRequest then (p.transport.outcome r).toOption else none) =
      fun r => if r = p.devicesRequest then (p.transport.outcome p.devicesRequest).toOption
        else none := by
    funext r
    by_cases hr : r = p.devicesRequest
    · rw [if_pos hr, if_pos hr, hr]
    · rw [if_neg hr, if_neg hr]
  rw [stepDeviceLists, hanswer, List.getLast?_filterMap_ite]

theorem boot_transport (t : TimeOfDay) (p : ControlPanel ScriptedBackend) :
    (exec boot t p).2.transport = p.transport.logged [p.devicesRequest] := by
  rw [exec_boot]
  split
  · rw [reported_transport, refreshDevices_transport]
  · exact refreshDevices_transport t p

/-- What a step writes into the counter is the count of the last device list it was
given. -/
theorem stepText_counter (p : ControlPanel ScriptedBackend)
    (hAH : p.config.activeDevicesElementId ≠ p.config.homeModeElementId)
    (s : PanelStep ScriptedBackend) :
    p.stepText p.config.activeDevicesElementId s =
      (p.stepDeviceLists s).getLast?.map deviceCountText := by
  rw [stepDeviceLists_getLast?]
  cases s with
  | boot t =>
      rw [stepRequests_eq (p := p) (s := .boot t) (fun b => by simp) (boot_transport t p)]
      simp [stepText, refreshText, devicesText]
  | handle t kind target =>
      cases hresolve : p.page.resolveIntent kind target with
      | none =>
          have hstep : (p.step (.handle t kind target)).transport = p.transport.logged [] := by
            simp [step, exec_handleEvent, hresolve]
          rw [stepRequests_eq (fun b => by simp) hstep]
          simp [stepText, hresolve]
      | some i =>
          obtain ⟨message, htransport, -⟩ := dispatch_followsPlan t p i
          have hstep : (p.step (.handle t kind target)).transport = p.transport.logged
              (i.refreshPlan.requests p.devicesRequest (p.primaryRequest i)
                (p.transport.outcome (p.primaryRequest i)).isOk) := by
            simp only [step, exec_handleEvent, hresolve]
            exact htransport
          have hplan := i.refreshPlan.refreshes_eq_mem p.devicesRequest (p.primaryRequest i)
            p.transport.outcome
            fun hnever =>
              Intent.request_ne_devicesRequest hresolve hnever p.executor p.listedDeviceId
          rw [stepRequests_eq (fun b => by simp) hstep, ← hplan]
          simp only [stepText, hresolve, Option.bind_some, readoutText, if_neg (Ne.symm hAH),
            Option.none_or, refreshText, devicesText, primaryOutcome_eq, if_true]
          split <;> rfl
  | setTransport b => simp [stepText, stepRequests]

/-- What a step writes into the header is the label of its mode change, when that
succeeded with one. -/
theorem stepText_header (p : ControlPanel ScriptedBackend)
    (hAH : p.config.activeDevicesElementId ≠ p.config.homeModeElementId)
    (s : PanelStep ScriptedBackend) :
    p.stepText p.config.homeModeElementId s = (p.stepModeLabels s).getLast? := by
  have hrefresh : p.refreshText p.config.homeModeElementId = none := by
    simp [refreshText, hAH]
  cases s with
  | boot t => simp [stepText, stepModeLabels, hrefresh]
  | handle t kind target =>
      simp only [stepText, stepModeLabels]
      cases p.page.resolveIntent kind target with
      | none => rfl
      | some i =>
          simp only [Option.bind_some, readoutText, if_true, hrefresh, ite_self, Option.or_none]
          cases p.modeLabel? i <;> rfl
  | setTransport b => rfl

theorem textAt_counter_runSteps (steps : List (PanelStep ScriptedBackend))
    (p : ControlPanel ScriptedBackend) {el : Nat} (hg : p.Guards p.config.activeDevicesElementId el)
    (hAH : p.config.activeDevicesElementId ≠ p.config.homeModeElementId) :
    (p.runSteps steps).page.textAt el =
      ((p.deviceLists steps).getLast?.map deviceCountText).or (p.page.textAt el) := by
  induction steps generalizing p with
  | nil => rfl
  | cons s rest ih =>
      obtain ⟨hg', hconfig, htext⟩ := step_writes p hg s
      have hnext := ih (p.step s) (by rw [hconfig]; exact hg') (by rw [hconfig]; exact hAH)
      calc (p.runSteps (s :: rest)).page.textAt el
          = ((p.step s).runSteps rest).page.textAt el := rfl
        _ = (((p.step s).deviceLists rest).getLast?.map deviceCountText).or
              ((p.step s).page.textAt el) := hnext
        _ = ((p.deviceLists (s :: rest)).getLast?.map deviceCountText).or (p.page.textAt el) := by
            rw [htext, stepText_counter p hAH s, deviceLists, List.getLast?_append, Option.map_or,
              Option.or_assoc]

theorem textAt_header_runSteps (steps : List (PanelStep ScriptedBackend))
    (p : ControlPanel ScriptedBackend) {el : Nat} (hg : p.Guards p.config.homeModeElementId el)
    (hAH : p.config.activeDevicesElementId ≠ p.config.homeModeElementId) :
    (p.runSteps steps).page.textAt el = (p.modeLabels steps).getLast?.or (p.page.textAt el) := by
  induction steps generalizing p with
  | nil => rfl
  | cons s rest ih =>
      obtain ⟨hg', hconfig, htext⟩ := step_writes p hg s
      have hnext := ih (p.step s) (by rw [hconfig]; exact hg') (by rw [hconfig]; exact hAH)
      calc (p.runSteps (s :: rest)).page.textAt el
          = ((p.step s).runSteps rest).page.textAt el := rfl
        _ = ((p.step s).modeLabels rest).getLast?.or ((p.step s).page.textAt el) := hnext
        _ = (p.modeLabels (s :: rest)).getLast?.or (p.page.textAt el) := by
            rw [htext, stepText_header p hAH s, modeLabels, List.getLast?_append, Option.or_assoc]

theorem guards_of_config (p : ControlPanel τ) {x : String} {el : Nat}
    (hfound : p.page.elementById? x = some el)
    (hslot : ¬ p.page.IsStatusSlot el ∧ ¬ p.page.IsPowerSlot el)
    (hlogs : ∀ s ∈ p.presenter.sinks, ∀ y, s = .pageLog y → y = p.config.outputElementId)
    (houtput : p.config.outputElementId ≠ x) (hresult : ¬ "-result".toList <:+ x.toList) :
    p.Guards x el where
  readout := ⟨hfound, hslot.1, hslot.2⟩
  logs := fun s hs y hy => (hlogs s hs y hy).symm ▸ houtput
  results := fun pre hpre => hresult (by
    rw [hpre, String.toList_append]
    exact List.suffix_append _ _)

/-- Over any session against the scripted backend, the counter shows the number of devices
that are on in the last device list the backend gave in answer to `GET <base>/devices` (its
first text if there was none), and the header the label of the last mode change that
succeeded with one (its first text if there was none). This holds when the output, counter
and header ids differ, the counter and header ids do not end in `-result`, the page logs
write the output element only, and neither the counter nor the header is the status or
power slot of a device card. -/
theorem readouts_show_last_answers (p : ControlPanel ScriptedBackend)
    (steps : List (PanelStep ScriptedBackend))
    (hids : p.config.outputElementId ≠ p.config.activeDevicesElementId ∧
      p.config.outputElementId ≠ p.config.homeModeElementId ∧
      p.config.activeDevicesElementId ≠ p.config.homeModeElementId)
    (hresults : ¬ "-result".toList <:+ p.config.activeDevicesElementId.toList ∧
      ¬ "-result".toList <:+ p.config.homeModeElementId.toList)
    (hlogs : ∀ s ∈ p.presenter.sinks, ∀ y, s = .pageLog y → y = p.config.outputElementId)
    (hslots : ∀ x ∈ [p.config.activeDevicesElementId, p.config.homeModeElementId], ∀ el,
      p.page.elementById? x = some el → ¬ p.page.IsStatusSlot el ∧ ¬ p.page.IsPowerSlot el) :
    (∀ c, p.page.elementById? p.config.activeDevicesElementId = some c →
      (p.runSteps steps).page.textAt c =
        ((p.deviceLists steps).getLast?.map deviceCountText).or (p.page.textAt c)) ∧
    (∀ h, p.page.elementById? p.config.homeModeElementId = some h →
      (p.runSteps steps).page.textAt h = (p.modeLabels steps).getLast?.or (p.page.textAt h)) := by
  obtain ⟨hOA, hOH, hAH⟩ := hids
  constructor
  · intro c hc
    have hg := guards_of_config p hc (hslots _ (by simp) c hc) hlogs hOA hresults.1
    exact textAt_counter_runSteps steps p hg hAH
  · intro h hh
    have hg := guards_of_config p hh (hslots _ (by simp) h hh) hlogs hOH hresults.2
    exact textAt_header_runSteps steps p hg hAH

/-- A page with a device card beside the counter and the header, against a backend that
lists that device: the readouts follow the answers of a boot. -/
theorem readouts_beside_a_device_card :
    let p := (withConfig (({} : ScriptedBackend).addRoute ⟨.get, "/api/devices",
        .respond (RawResponse.json 200
          (.array [.object [("id", .string "lamp"), ("isOn", .bool true)]]))⟩)
      ⟨#[{ element := Element.new "body", children := [1, 2, 3] },
        { element := { tag := "span", id := some "activeDevices", text := "0" }, parent := some 0 },
        { element := { tag := "h2", id := some "homeMode", text := "HOME" }, parent := some 0 },
        { element := { tag := "div", dataset := [("deviceId", "lamp")] }, parent := some 0,
          children := [4] },
        { element := { tag := "span", classes := ["device-status"], text := "OFF" },
          parent := some 3 }], 0⟩
      {}).addSink (.memory [])
    let steps : List (PanelStep ScriptedBackend) := [.boot ⟨9, 0, 0⟩]
    (∀ c, p.page.elementById? p.config.activeDevicesElementId = some c →
      (p.runSteps steps).page.textAt c =
        ((p.deviceLists steps).getLast?.map deviceCountText).or (p.page.textAt c)) ∧
    (∀ h, p.page.elementById? p.config.homeModeElementId = some h →
      (p.runSteps steps).page.textAt h = (p.modeLabels steps).getLast?.or (p.page.textAt h)) := by
  intro p steps
  have hdesc : p.page.descendants Page.body = [1, 2, 3, 4] := by
    decide +kernel
  have hcards : ∀ id card, p.page.elementByData? "deviceId" id = some card →
      card ∈ [1, 2, 3, 4] := by
    intro id card hcard
    rw [Page.elementByData?, Page.findFirst, hdesc] at hcard
    exact List.mem_of_find?_eq_some hcard
  have hstatus : ∀ card ∈ [1, 2, 3, 4], p.page.findDescendant card ["device-status"] = none ∨
      p.page.findDescendant card ["device-status"] = some 4 := by
    decide +kernel
  have hpower : ∀ card ∈ [1, 2, 3, 4],
      p.page.findDescendant card ["power-indicator", "value"] = none := by
    decide +kernel
  have hslots : ∀ el, el ≠ 4 → ¬ p.page.IsStatusSlot el ∧ ¬ p.page.IsPowerSlot el := by
    intro el hel
    constructor
    · rintro ⟨id, card, hcard, hfound⟩
      rcases hstatus card (hcards id card hcard) with h | h <;> rw [h] at hfound
      · exact Option.some_ne_none el hfound.symm
      · exact hel (Option.some.inj hfound).symm
    · rintro ⟨id, card, hcard, hfound⟩
      rw [hpower card (hcards id card hcard)] at hfound
      exact Option.some_ne_none el hfound.symm
  have hreadouts : ∀ x ∈ [p.config.activeDevicesElementId, p.config.homeModeElementId],
      p.page.elementById? x ≠ some 4 := by
    decide +kernel
  have hlogs :
      ∀ s ∈ p.presenter.sinks, ∀ y, s = .pageLog y → y = p.config.outputElementId := by
    intro s hs y hy
    simp only [p, withConfig, addSink, Presenter.addSink, List.cons_append, List.nil_append,
      List.mem_cons, List.not_mem_nil, or_false] at hs
    rcases hs with rfl | rfl
    · cases hy
      rfl
    · cases hy
  exact readouts_show_last_answers p steps (by decide) (by decide) hlogs
    fun x hx el hel => hslots el fun h4 => hreadouts x hx (h4 ▸ hel)

end ControlPanel

end HomePanel
