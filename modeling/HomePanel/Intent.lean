import HomePanel.Page.Query
import HomePanel.Catalog

/-!
# Intents

What a click or a form submission on the page asks the panel to do.

A click is decided by the nearest of the target and its ancestors that carries a click
marker. The markers, in priority order, are the classes `device-control-btn`,
`room-control-btn`, `mode-btn`, `scene-btn`, `pattern-run-btn`, `pattern-list-item`,
`btn-scene`, `btn-strategy` and `btn-audit`, and last an element id of a lab button. The
first marker of that element gives the intent from its non-empty dataset values; when one
is missing the click asks for nothing, without looking at other markers or further up.

A submission is decided by the nearest of the target and its ancestors that is a form
with a dataset `apiEndpoint`. Its method is the parsed `apiMethod`, else `POST` for a
`demo-form` and `GET` otherwise, then the form overrides apply; it refreshes when
`refresh` is `true` in any case; its section is the id of the nearest `pattern-section`
when that id is not empty, else `unknown` for a demo form; and its parameters are the
form's fields, grouped by name.
-/

namespace HomePanel

/-- A form submission taken from the page. -/
structure FormSubmission where
  endpoint : String
  method : HttpMethod
  refresh : Bool
  resultSection? : Option String
  params : ParamMap
  deriving DecidableEq, Repr

/-- What an event asks the panel to do. -/
inductive Intent where
  | controlDevice (deviceId action : String)
  | controlRoom (room action : String)
  | setMode (mode : String)
  | activateScene (scene : String)
  | runPattern (pattern : String)
  | labScene (scene : String)
  | labStrategy (strategy : String)
  | labAudit (audit : String)
  | labButton (button : LabButton)
  | submitForm (submission : FormSubmission)
  deriving DecidableEq, Repr

inductive EventKind where
  | click
  | submit
  deriving DecidableEq, Repr

/-- The click markers, in priority order. -/
inductive ClickRole where
  | deviceControl
  | roomControl
  | modeSelect
  | sceneSelect
  | patternRun
  | patternListItem
  | labScene
  | labStrategy
  | labAudit
  | labButton
  deriving DecidableEq, Repr

namespace ClickRole

def all : List ClickRole :=
  [.deviceControl, .roomControl, .modeSelect, .sceneSelect, .patternRun, .patternListItem,
    .labScene, .labStrategy, .labAudit, .labButton]

/-- The marker class; `none` for the role known by element id. -/
def markerClass? : ClickRole → Option String
  | .deviceControl => some "device-control-btn"
  | .roomControl => some "room-control-btn"
  | .modeSelect => some "mode-btn"
  | .sceneSelect => some "scene-btn"
  | .patternRun => some "pattern-run-btn"
  | .patternListItem => some "pattern-list-item"
  | .labScene => some "btn-scene"
  | .labStrategy => some "btn-strategy"
  | .labAudit => some "btn-audit"
  | .labButton => none

/-- The lab button an element's id names. -/
def labButtonOf? (e : Element) : Option LabButton := e.id.bind labButton?

def marks (r : ClickRole) (e : Element) : Bool :=
  match r.markerClass? with
  | some c => e.hasClass c
  | none => (labButtonOf? e).isSome

/-- The intent of a marked element; `none` when a dataset value it needs is missing or
empty. -/
def intent? (r : ClickRole) (e : Element) : Option Intent :=
  let data (key : String) : Option String :=
    (e.data? key).bind fun v => if v.isEmpty then none else some v
  match r with
  | .deviceControl => do return .controlDevice (← data "deviceId") (← data "action")
  | .roomControl => do return .controlRoom (← data "room") (← data "action")
  | .modeSelect => do return .setMode (← data "mode")
  | .sceneSelect => do return .activateScene (← data "scene")
  | .patternRun | .patternListItem => do return .runPattern (← data "pattern")
  | .labScene => do return .labScene (← data "scene")
  | .labStrategy => do return .labStrategy (← data "strategy")
  | .labAudit => do return .labAudit (← data "audit")
  | .labButton => (labButtonOf? e).map .labButton

end ClickRole

namespace Page

/-- The first marker of an element, if it carries one. -/
def clickRole? (p : Page) (i : Nat) : Option ClickRole :=
  (p.element? i).bind fun e => ClickRole.all.find? (·.marks e)

/-- The intent of a click on an element. -/
def resolveClick (p : Page) (target : Nat) : Option Intent :=
  match (p.selfAndAncestors target).findSome? fun i => (p.clickRole? i).map (i, ·) with
  | some (i, role) => (p.element? i).bind role.intent?
  | none => none

/-- The submission of a form with an endpoint. -/
def formSubmission (p : Page) (form : Nat) (e : Element) (endpoint : String) : FormSubmission :=
  let demo := e.hasClass "demo-form"
  let method := ((e.data? "apiMethod").bind HttpMethod.parse?).getD
    (if demo then .post else .get)
  let refresh := ((e.data? "refresh").map fun v => Text.asciiLower v == "true").getD false
  let sectionId := (p.closestWithClass form "pattern-section").bind fun s =>
    (p.element? s).bind Element.id
  let resultSection? := match sectionId with
    | some id => if id.isEmpty then (if demo then some "unknown" else none) else some id
    | none => if demo then some "unknown" else none
  let (method, endpoint) := resolveFormTarget endpoint method
  ⟨endpoint, method, refresh, resultSection?, ParamMap.ofFormEntries (p.formEntries form)⟩

/-- The submission of the nearest form with an endpoint around an element. -/
def resolveSubmit (p : Page) (target : Nat) : Option FormSubmission :=
  (p.selfAndAncestors target).findSome? fun i =>
    (p.element? i).bind fun e =>
      if e.isForm then (e.data? "apiEndpoint").map (p.formSubmission i e) else none

/-- The intent of an event on an element. -/
def resolveIntent (p : Page) (kind : EventKind) (target : Nat) : Option Intent :=
  match kind with
  | .click => p.resolveClick target
  | .submit => (p.resolveSubmit target).map .submitForm

end Page

end HomePanel
