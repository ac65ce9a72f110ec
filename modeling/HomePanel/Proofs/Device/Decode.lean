import HomePanel.Proofs.Json.Truthy

/-!
# Reading devices

The backend's device list is read leniently (`parseDevices`): every object of the list
becomes a device, in order, and nothing else does (`parseDevices_objects`), since no value
of any field makes an object fail to read (`ofJson?_eq_none_iff`). Of an object only three
fields are looked at, each by a rule of its own:

* the id is a non-empty string as it is, or the JSON text of a number, and otherwise none;
* the device is on when `isOn` is present and truthy;
* the power is a number as binary64, and otherwise none.

So the number of active devices is the number of objects of the list whose `isOn` is
truthy (`activeCount_parseDevices`).
-/

namespace HomePanel
namespace DeviceSnapshot

/-! ## One field at a time -/

theorem idOf?_eq_some_iff (v : Json) (id : String) :
    idOf? v = some id ↔ (v = .string id ∧ id ≠ "") ∨ ∃ n, v = .number n ∧ id = v.compact := by
  cases v with
  | string s =>
      rw [idOf?]
      by_cases hs : s = ""
      · subst hs
        simp
      · rw [if_neg (by simpa [String.isEmpty_iff] using hs)]
        constructor
        · rintro ⟨⟩
          exact .inl ⟨rfl, hs⟩
        · rintro (⟨⟨⟩, -⟩ | ⟨n, ⟨⟩, -⟩)
          rfl
  | number n => simp [idOf?, Json.compact, eq_comm]
  | _ => simp [idOf?]

theorem powerOf?_eq_some_iff (v : Json) (x : Binary64) :
    powerOf? v = some x ↔ ∃ n, v = .number n ∧ x = n.toBinary64 := by
  cases v <;> simp [powerOf?, eq_comm]

/-- A field is off when it is missing or falsy. -/
theorem any_truthy_eq_false_iff (f : Option Json) :
    f.any Json.truthy = false ↔ f = none ∨ f = some .null ∨ f = some (.bool false) ∨
      (∃ n, f = some (.number n) ∧ n.toBinary64.isZero = true) ∨ f = some (.string "") := by
  cases f with
  | none => simp
  | some v => simp [Json.truthy_eq_false_iff]

/-! ## Objects -/

/-- Reading a device fails only on a value that is not an object. -/
theorem ofJson?_eq_none_iff (v : Json) : ofJson? v = none ↔ v.isObject = false := by
  unfold ofJson?
  split <;> simp_all

/-- The device an object reads as: each of its three fields by its own rule. -/
theorem ofJson?_eq_some_iff (v : Json) (d : DeviceSnapshot) :
    ofJson? v = some d ↔ v.isObject = true ∧
      d = ⟨(v.get? "id").bind idOf?, (v.get? "isOn").any Json.truthy,
        (v.get? "power").bind powerOf?⟩ := by
  have hisOn :
      ((v.get? "isOn").map Json.truthy).getD false = (v.get? "isOn").any Json.truthy := by
    cases v.get? "isOn" <;> rfl
  unfold ofJson?
  split
  · next hobj =>
      rw [hisOn, Option.some.injEq]
      exact ⟨fun h => ⟨hobj, h.symm⟩, fun h => h.2.symm⟩
  · next hobj => simp [hobj]

theorem id_of_ofJson? {v : Json} {d : DeviceSnapshot} (h : ofJson? v = some d) :
    d.id = (v.get? "id").bind idOf? := by
  rw [((ofJson?_eq_some_iff v d).mp h).2]

theorem isOn_of_ofJson? {v : Json} {d : DeviceSnapshot} (h : ofJson? v = some d) :
    d.isOn = (v.get? "isOn").any Json.truthy := by
  rw [((ofJson?_eq_some_iff v d).mp h).2]

theorem power_of_ofJson? {v : Json} {d : DeviceSnapshot} (h : ofJson? v = some d) :
    d.power = (v.get? "power").bind powerOf? := by
  rw [((ofJson?_eq_some_iff v d).mp h).2]

end DeviceSnapshot

/-! ## Device lists -/

open DeviceSnapshot in
/-- The devices of a list are its objects, each read, in order. -/
theorem parseDevices_objects (items : List Json) :
    List.Forall₂ (fun o d => ofJson? o = some d) (items.filter Json.isObject)
      (parseDevices (.array items)) := by
  induction items with
  | nil => exact .nil
  | cons v items ih =>
      cases hv : v.isObject with
      | false =>
          have hnone := (ofJson?_eq_none_iff v).mpr hv
          simp only [parseDevices] at ih ⊢
          rw [List.filter_cons_of_neg (by simp [hv]), List.filterMap_cons_none hnone]
          exact ih
      | true =>
          have hd := (ofJson?_eq_some_iff v _).mpr ⟨hv, rfl⟩
          simp only [parseDevices] at ih ⊢
          rw [List.filter_cons_of_pos hv, List.filterMap_cons_some hd]
          exact .cons hd ih

theorem parseDevices_of_not_array {v : Json} (h : ∀ items, v ≠ .array items) :
    parseDevices v = [] := by
  cases v with
  | array items => exact absurd rfl (h items)
  | _ => rfl

open DeviceSnapshot in
/-- Devices read from objects one by one: as many are on as objects have a truthy `isOn`. -/
theorem activeCount_of_forall₂ {os : List Json} {ds : List DeviceSnapshot}
    (h : List.Forall₂ (fun o d => ofJson? o = some d) os ds) :
    activeCount ds = os.countP fun o => (o.get? "isOn").any Json.truthy := by
  induction h with
  | nil => rfl
  | @cons o d os ds hd _ ih =>
      rw [List.countP_cons, ← ih, ← isOn_of_ofJson? hd]
      cases hon : d.isOn <;> simp [activeCount, hon]

theorem activeCount_parseDevices (items : List Json) :
    activeCount (parseDevices (.array items)) =
      (items.filter Json.isObject).countP fun o => (o.get? "isOn").any Json.truthy :=
  activeCount_of_forall₂ (parseDevices_objects items)

open DeviceSnapshot in
/-- Devices are read leniently. A value reads as a device exactly when it is an object; the
id is a non-empty string or a number's JSON text, the device is off exactly when `isOn` is
missing, null, false, zero as binary64 or empty, and the power is a number as binary64.
A device list is the objects of an array, each read, in order, and nothing for any other
value; the active devices are the objects whose `isOn` is truthy. -/
theorem devices_read_leniently :
    (∀ v, ofJson? v = none ↔ v.isObject = false) ∧
    (∀ v d, ofJson? v = some d →
      (∀ id, d.id = some id ↔ (v.get? "id" = some (.string id) ∧ id ≠ "") ∨
        ∃ n, v.get? "id" = some (.number n) ∧ id = (Json.number n).compact) ∧
      (d.isOn = false ↔ v.get? "isOn" = none ∨ v.get? "isOn" = some .null ∨
        v.get? "isOn" = some (.bool false) ∨
        (∃ n, v.get? "isOn" = some (.number n) ∧ n.toBinary64.isZero = true) ∨
        v.get? "isOn" = some (.string "")) ∧
      (∀ x, d.power = some x ↔ ∃ n, v.get? "power" = some (.number n) ∧ x = n.toBinary64)) ∧
    (∀ v, (∀ items, v ≠ .array items) → parseDevices v = []) ∧
    (∀ items, List.Forall₂ (fun o d => ofJson? o = some d) (items.filter Json.isObject)
        (parseDevices (.array items)) ∧
      activeCount (parseDevices (.array items)) =
        (items.filter Json.isObject).countP fun o => (o.get? "isOn").any Json.truthy) := by
  refine ⟨ofJson?_eq_none_iff, ?_, fun _ h => parseDevices_of_not_array h,
    fun items => ⟨parseDevices_objects items, activeCount_parseDevices items⟩⟩
  intro v d hd
  refine ⟨?_, ?_, ?_⟩
  · intro id
    rw [id_of_ofJson? hd, Option.bind_eq_some_iff]
    constructor
    · rintro ⟨f, hf, hid⟩
      rcases (idOf?_eq_some_iff f id).mp hid with ⟨rfl, hne⟩ | ⟨n, rfl, rfl⟩
      · exact .inl ⟨hf, hne⟩
      · exact .inr ⟨n, hf, rfl⟩
    · rintro (⟨hf, hne⟩ | ⟨n, hf, rfl⟩)
      · exact ⟨_, hf, (idOf?_eq_some_iff _ id).mpr (.inl ⟨rfl, hne⟩)⟩
      · exact ⟨_, hf, (idOf?_eq_some_iff _ _).mpr (.inr ⟨n, rfl, rfl⟩)⟩
  · rw [isOn_of_ofJson? hd, any_truthy_eq_false_iff]
  · intro x
    rw [power_of_ofJson? hd, Option.bind_eq_some_iff]
    constructor
    · rintro ⟨f, hf, hx⟩
      obtain ⟨n, rfl, rfl⟩ := (powerOf?_eq_some_iff f x).mp hx
      exact ⟨n, hf, rfl⟩
    · rintro ⟨n, hf, rfl⟩
      exact ⟨_, hf, (powerOf?_eq_some_iff _ _).mpr ⟨n, rfl, rfl⟩⟩

end HomePanel
