import HomePanel.Proofs.Page.Layout

/-!
# Sessions of a panel

A session is the boot and the page events a panel handles, each run to completion, with
the transport free to change its answers in between (routes added, going offline). Every
handler only rewrites texts, and status classes on the cards of the devices it syncs: those
of each device list a refresh reads, and the device a control answer describes
(`Page.Redrawn`). The page is reloaded once for each form with `refresh` set whose request
succeeds. By induction over the steps, a whole session keeps the page's layout, changes
classes only on the cards of the devices synced along it, and counts exactly those reloads.
-/

namespace HomePanel

/-- One thing that happens to a panel. -/
inductive PanelStep (τ : Type) where
  | boot (time : TimeOfDay)
  | handle (time : TimeOfDay) (kind : EventKind) (target : Nat)
  /-- The transport changes between events. -/
  | setTransport (transport : τ)

namespace ControlPanel

variable {τ : Type}

/-- The page of `q` is that of `p` with texts rewritten and status classes rewritten on the
cards of `ids`, reloaded `n` more times. -/
def Redraws (p q : ControlPanel τ) (ids : List String) (n : Nat) : Prop :=
  p.page.Redrawn q.page ids n

/-! ## The page writes of the building blocks -/

namespace Redraws

variable {p q : ControlPanel τ} {ids : List String} {n : Nat}

theorem refl (p : ControlPanel τ) : p.Redraws p [] 0 := Page.Redrawn.refl p.page

theorem reported (h : p.Redraws q ids n) (e : TraceEntry) : p.Redraws (q.reported e) ids n := by
  have hdeliver := Page.redrawn_deliverPage q.presenter.sinks q.page e
  rw [← reported_page] at hdeliver
  exact h.trans_nil hdeliver

/-- A page write that syncs the cards of `ids'`. -/
theorem mapPage (h : p.Redraws q ids n) {f : Page → Page} {ids' : List String}
    (hf : ∀ pg : Page, pg.Redrawn (f pg) ids' 0) : p.Redraws (q.mapPage f) (ids ++ ids') n :=
  h.trans (hf q.page)

/-- A page write that syncs nothing. -/
theorem mapPage_nil (h : p.Redraws q ids n) {f : Page → Page}
    (hf : ∀ pg : Page, pg.Redrawn (f pg) [] 0) : p.Redraws (q.mapPage f) ids n :=
  h.trans_nil (hf q.page)

theorem resultReported (h : p.Redraws q ids n) (pattern : String) (e : TraceEntry) :
    p.Redraws (q.resultReported pattern e) ids n :=
  (h.mapPage_nil fun pg => Page.redrawn_showResult pg pattern e).reported e

theorem reload (h : p.Redraws q ids n) : p.Redraws (q.mapPage Page.reload) ids (n + 1) :=
  h.trans_nil (Page.redrawn_reload q.page)

theorem afterCall [Transport τ] (h : p.Redraws q ids n) {m : HttpMethod} {tpl : String}
    {ps : ParamMap} : p.Redraws (q.afterCall m tpl ps) ids n := h

end Redraws

variable [Transport τ] (t : TimeOfDay)

/-! ## The devices each handler syncs -/

/-- The ids of the devices a refresh syncs: those of the list `GET /devices` answers. -/
def refreshedIds (p : ControlPanel τ) : List String :=
  match p.answer .get "/devices" ParamMap.empty with
  | .ok body => (parseDevices body).filterMap (·.id)
  | .error _ => []

/-- The ids of the devices a refresh after a call syncs: none when the call fails. -/
def refreshedAfter (p : ControlPanel τ) (method : HttpMethod) (template : String)
    (params : ParamMap) : List String :=
  match p.answer method template params with
  | .ok _ => (p.afterCall method template params).refreshedIds
  | .error _ => []

/-- The ids of the devices an intent's handler syncs: the device a control answer describes
and the devices of each list a refresh reads. -/
def syncedIds (p : ControlPanel τ) : Intent → List String
  | .controlDevice deviceId action =>
    match p.answer .post "/devices/{deviceId}/control"
        (ParamMap.ofList [("deviceId", .text deviceId), ("action", .text action)]) with
    | .ok result => ((DeviceSnapshot.ofJson? result).bind (·.id)).toList ++
        (p.afterCall .post "/devices/{deviceId}/control"
          (ParamMap.ofList [("deviceId", .text deviceId), ("action", .text action)])).refreshedIds
    | .error _ => []
  | .controlRoom room action => p.refreshedAfter .post "/patterns/composite/rooms/{roomId}/control"
      (ParamMap.ofList [("roomId", .text room), ("action", .text action)])
  | .activateScene scene => p.refreshedAfter .post "/patterns/facade/scene/{sceneName}"
      (ParamMap.ofList [("sceneName", .text scene)])
  | .runPattern _ => p.refreshedIds
  | .submitForm s => p.refreshedAfter s.method s.endpoint s.params
  | _ => []

/-! ## The page writes of the handlers -/

theorem redraws_refreshDevices (p : ControlPanel τ) :
    p.Redraws (exec refreshDevices t p).2 p.refreshedIds 0 := by
  rw [exec_refreshDevices, refreshedIds]
  cases p.answer .get "/devices" ParamMap.empty with
  | error e => exact (Redraws.refl p).afterCall.reported _
  | ok body => exact (Redraws.refl p).afterCall.mapPage fun pg => Page.redrawn_showDevices pg _ _

theorem Redraws.refreshDevices {p q : ControlPanel τ} {ids : List String} {n : Nat}
    (h : p.Redraws q ids n) :
    p.Redraws (exec ControlPanel.refreshDevices t q).2 (ids ++ q.refreshedIds) n :=
  h.trans (redraws_refreshDevices t q)

theorem redraws_boot (p : ControlPanel τ) : p.Redraws (exec boot t p).2 p.refreshedIds 0 := by
  rw [exec_boot]
  split
  · exact (redraws_refreshDevices t p).reported _
  · exact redraws_refreshDevices t p

theorem redraws_setHomeMode (mode : String) (p : ControlPanel τ) :
    p.Redraws (exec (setHomeMode mode) t p).2 [] 0 := by
  rw [exec_setHomeMode]
  split
  · exact ((Redraws.refl p).afterCall.mapPage_nil
      fun pg => Page.redrawn_showMode pg _ _).reported _
  · exact (Redraws.refl p).afterCall.reported _

theorem redraws_controlDevice (deviceId action : String) (p : ControlPanel τ) :
    p.Redraws (exec (controlDevice deviceId action) t p).2
      (p.syncedIds (.controlDevice deviceId action)) 0 := by
  rw [exec_controlDevice, syncedIds]
  cases p.answer .post "/devices/{deviceId}/control"
      (ParamMap.ofList [("deviceId", .text deviceId), ("action", .text action)]) with
  | error e => exact (Redraws.refl p).afterCall.reported _
  | ok result =>
      dsimp only
      cases DeviceSnapshot.ofJson? result with
      | some d =>
          exact (((Redraws.refl p).afterCall.reported _).mapPage
            fun pg => Page.redrawn_syncDevice pg d).refreshDevices t
      | none => exact ((Redraws.refl p).afterCall.reported _).refreshDevices t

/-- A call whose success is reported and followed by a refresh, and whose failure is only
reported, syncs the devices of that refresh. -/
theorem redraws_reportThenRefresh (p : ControlPanel τ) (m : HttpMethod) (tpl : String)
    (ps : ParamMap) (success : Json → TraceEntry) (failure : ApiError → TraceEntry) :
    p.Redraws (match p.answer m tpl ps with
      | .ok result => (exec refreshDevices t ((p.afterCall m tpl ps).reported (success result))).2
      | .error e => (p.afterCall m tpl ps).reported (failure e)) (p.refreshedAfter m tpl ps) 0 := by
  rw [refreshedAfter]
  cases p.answer m tpl ps with
  | error e => exact (Redraws.refl p).afterCall.reported _
  | ok result => exact ((Redraws.refl p).afterCall.reported _).refreshDevices t

theorem redraws_controlRoom (room action : String) (p : ControlPanel τ) :
    p.Redraws (exec (controlRoom room action) t p).2
      (p.syncedIds (.controlRoom room action)) 0 := by
  rw [exec_controlRoom]
  exact redraws_reportThenRefresh t p _ _ _ _ _

theorem redraws_activateScene (scene : String) (p : ControlPanel τ) :
    p.Redraws (exec (activateScene scene) t p).2 (p.syncedIds (.activateScene scene)) 0 := by
  rw [exec_activateScene]
  exact redraws_reportThenRefresh t p _ _ _ _ _

theorem redraws_runPattern (pattern : String) (p : ControlPanel τ) :
    p.Redraws (exec (runPattern pattern) t p).2 p.refreshedIds 0 := by
  rw [exec_runPattern pattern t p _ _ (exec_anyDeviceId t p)]
  have hrefresh := redraws_refreshDevices t p
  generalize (exec refreshDevices t p).2 = q at hrefresh ⊢
  split
  · exact (hrefresh.afterCall.reported _).mapPage_nil fun pg => Page.redrawn_showResult pg _ _
  · exact (hrefresh.afterCall.reported _).mapPage_nil fun pg => Page.redrawn_showResult pg _ _

theorem redraws_runLabRequest (pattern : String) (method : HttpMethod) (template : String)
    (params : ParamMap) (p : ControlPanel τ) :
    p.Redraws (exec (runLabRequest pattern method template params) t p).2 [] 0 := by
  rw [exec_runLabRequest]
  exact (Redraws.refl p).afterCall.resultReported _ _

/-- How often an intent reloads the page: once for a form with `refresh` set whose request
succeeds. -/
def reloadsOf (p : ControlPanel τ) : Intent → Nat
  | .submitForm s => if s.refresh && (p.answer s.method s.endpoint s.params).isOk then 1 else 0
  | _ => 0

theorem redraws_submitForm (s : FormSubmission) (p : ControlPanel τ) :
    p.Redraws (exec (submitForm s) t p).2 (p.syncedIds (.submitForm s))
      (p.reloadsOf (.submitForm s)) := by
  rw [exec_submitForm, reloadsOf, syncedIds, refreshedAfter]
  cases p.answer s.method s.endpoint s.params with
  | error e =>
      simp only [Except.toBool, Bool.and_false, Bool.false_eq_true, ↓reduceIte]
      split
      · exact (Redraws.refl p).afterCall.resultReported _ _
      · exact (Redraws.refl p).afterCall.reported _
  | ok result =>
      simp only [Except.toBool, Bool.and_true]
      cases s.refresh <;> simp only [Bool.false_eq_true, ↓reduceIte] <;> split
      · exact ((Redraws.refl p).afterCall.resultReported _ _).refreshDevices t
      · exact ((Redraws.refl p).afterCall.reported _).refreshDevices t
      · exact (((Redraws.refl p).afterCall.resultReported _ _).refreshDevices t).reload
      · exact (((Redraws.refl p).afterCall.reported _).refreshDevices t).reload

theorem redraws_dispatch (i : Intent) (p : ControlPanel τ) :
    p.Redraws (exec (dispatch i) t p).2 (p.syncedIds i) (p.reloadsOf i) := by
  cases i with
  | controlDevice deviceId action => exact redraws_controlDevice t deviceId action p
  | controlRoom room action => exact redraws_controlRoom t room action p
  | setMode mode => exact redraws_setHomeMode t mode p
  | activateScene scene => exact redraws_activateScene t scene p
  | runPattern pattern => exact redraws_runPattern t pattern p
  | labScene scene => exact redraws_runLabRequest t _ _ _ _ p
  | labStrategy strategy => exact redraws_runLabRequest t _ _ _ _ p
  | labAudit audit => exact redraws_runLabRequest t _ _ _ _ p
  | labButton b =>
      rw [dispatch, exec_pressLabButton]
      exact redraws_runLabRequest t _ _ _ _ p
  | submitForm s =>
      rw [dispatch]
      exact redraws_submitForm t s p

/-! ## Sessions -/

/-- The panel after one step, run to completion. -/
def step (p : ControlPanel τ) : PanelStep τ → ControlPanel τ
  | .boot t => (exec boot t p).2
  | .handle t kind target => (exec (handleEvent kind target) t p).2
  | .setTransport transport => { p with transport := transport }

/-- The panel after a session. -/
def runSteps (p : ControlPanel τ) (steps : List (PanelStep τ)) : ControlPanel τ :=
  steps.foldl step p

/-- The ids of the devices a step syncs. -/
def stepSynced (p : ControlPanel τ) : PanelStep τ → List String
  | .boot _ => p.refreshedIds
  | .handle _ kind target => ((p.page.resolveIntent kind target).map p.syncedIds).getD []
  | .setTransport _ => []

/-- The ids of the devices synced over a session, in order. -/
def sessionSynced (p : ControlPanel τ) : List (PanelStep τ) → List String
  | [] => []
  | s :: rest => p.stepSynced s ++ (p.step s).sessionSynced rest

/-- How often a step reloads the page. -/
def stepReloads (p : ControlPanel τ) : PanelStep τ → Nat
  | .handle _ kind target => ((p.page.resolveIntent kind target).map p.reloadsOf).getD 0
  | _ => 0

/-- The forms with `refresh` set whose request succeeded over a session. -/
def reloadingSubmits (p : ControlPanel τ) : List (PanelStep τ) → Nat
  | [] => 0
  | s :: rest => p.stepReloads s + (p.step s).reloadingSubmits rest

theorem redraws_step (p : ControlPanel τ) (s : PanelStep τ) :
    p.Redraws (p.step s) (p.stepSynced s) (p.stepReloads s) := by
  cases s with
  | boot t => exact redraws_boot t p
  | handle t kind target =>
      simp only [step, stepSynced, stepReloads, exec_handleEvent]
      cases p.page.resolveIntent kind target with
      | none => exact Redraws.refl p
      | some i => exact redraws_dispatch t i p
  | setTransport transport => exact Redraws.refl p

/-- Over any session the page keeps its elements, tree, tags, ids, datasets and form
fields; a class list changes only in the status classes, and only on the status element of
the card of a device synced along the session (one listed by a refresh or described by a
control answer); and the page is reloaded once for each form with `refresh` set whose
request succeeded, and never otherwise. -/
theorem session_keeps_layout (p : ControlPanel τ) (steps : List (PanelStep τ)) :
    p.page.Redrawn (p.runSteps steps).page (p.sessionSynced steps) (p.reloadingSubmits steps) := by
  induction steps generalizing p with
  | nil => exact Page.Redrawn.refl _
  | cons s rest ih => exact (redraws_step p s).trans (ih (p.step s))

end ControlPanel

end HomePanel
