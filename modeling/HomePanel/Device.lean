import HomePanel.Page.Query
import HomePanel.Json.Text

/-!
# Devices

A device snapshot is read leniently from one JSON object of the backend's device list.
Only the fields `id`, `isOn` and `power` are looked at, and no value makes reading fail:

* the id is a non-empty string, or the JSON text of a number, and otherwise absent;
* the device is on when `isOn` is true, a non-zero number, a non-empty string, an array or
  an object, and off when it is absent, null, false, zero or the empty string;
* the power is any number, and otherwise absent.

Syncing a snapshot writes it into the first card below the body whose dataset `deviceId`
is its id: the status element (`.device-status`) gets `ON` or `OFF` and the classes
`status-on` / `status-off` that go with it, and the power value (`.power-indicator .value`)
gets the power label. Syncing changes no other element and adds or removes none.
-/

namespace HomePanel

/-- What a device card shows of one device. -/
structure DeviceSnapshot where
  id : Option String
  isOn : Bool
  power : Option Binary64
  deriving DecidableEq, Repr

/-- Whether a JSON value counts as on. -/
def Json.truthy : Json → Bool
  | .null => false
  | .bool b => b
  | .number n => !n.isZero
  | .string s => !s.isEmpty
  | .array _ => true
  | .object _ => true

namespace DeviceSnapshot

/-- The id a JSON value gives: a non-empty string, or a number's JSON text. -/
def idOf? : Json → Option String
  | .string s => if s.isEmpty then none else some s
  | .number n => some n.text
  | _ => none

/-- The power a JSON value gives: any number. -/
def powerOf? : Json → Option Binary64
  | .number n => some n.toBinary64
  | _ => none

/-- The snapshot of a JSON object; `none` for any other value. -/
def ofJson? (v : Json) : Option DeviceSnapshot :=
  if v.isObject then
    some ⟨(v.get? "id").bind idOf?, ((v.get? "isOn").map Json.truthy).getD false,
      (v.get? "power").bind powerOf?⟩
  else none

def statusLabel (d : DeviceSnapshot) : String := if d.isOn then "ON" else "OFF"

/-- The power as plain decimal text and `W`. -/
def powerLabel? (d : DeviceSnapshot) : Option String :=
  d.power.map fun x => NumberLayout.plain.render x ++ "W"

end DeviceSnapshot

/-- The snapshots of a device list: the objects of an array, in order; anything but an
array gives none. -/
def parseDevices : Json → List DeviceSnapshot
  | .array items => items.filterMap DeviceSnapshot.ofJson?
  | _ => []

def activeCount (devices : List DeviceSnapshot) : Nat := (devices.filter (·.isOn)).length

/-- The text for the home-mode header from a mode change answer: its `homeMode` field when
that is not null, false or empty, a string as it is and other values as compact JSON. -/
def homeModeLabel? (v : Json) : Option String :=
  match v.get? "homeMode" with
  | none | some .null | some (.bool false) => none
  | some (.string s) => if s.isEmpty then none else some s
  | some other => some other.compact

namespace Page

/-- Writes a snapshot into its card; `false` when it has no id or no card has that id. -/
def syncDevice (p : Page) (d : DeviceSnapshot) : Page × Bool :=
  match d.id with
  | none => (p, false)
  | some id =>
    match p.elementByData? "deviceId" id with
    | none => (p, false)
    | some card =>
      let p := match p.findDescendant card ["device-status"] with
        | some status =>
          let p := p.setText status d.statusLabel
          let p := p.setClass status "status-on" d.isOn
          p.setClass status "status-off" (!d.isOn)
        | none => p
      let p := match p.findDescendant card ["power-indicator", "value"], d.powerLabel? with
        | some value, some label => p.setText value label
        | _, _ => p
      (p, true)

end Page

end HomePanel
