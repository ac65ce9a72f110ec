import HomePanel.Proofs.Page.Layout

/-!
# Which texts a write reaches

Every text the panel writes goes to an element it looked up: by id (the log, the counter,
the header, a result panel), or as the status or power slot of a device card. So an element
that is the first with its id `x` and is no slot of a card (`Page.Readout p x i`) changes
its text only through a write by the id `x`. Being a readout depends only on the layout,
so it survives every write of the panel (`Readout.of_sameLayout`).
-/

namespace HomePanel

@[simp] theorem Element.text_setClass (e : Element) (c : String) (enabled : Bool) :
    (e.setClass c enabled).text = e.text := by
  unfold Element.setClass
  split
  · split <;> rfl
  · rfl

namespace Page

/-- The text of the element at an index, if there is one. -/
def textAt (p : Page) (i : Nat) : Option String := (p.element? i).map Element.text

/-- The power value of a device card: the first `.power-indicator .value` below the first
element whose dataset `deviceId` is some id. -/
def IsPowerSlot (p : Page) (i : Nat) : Prop :=
  ∃ id card, p.elementByData? "deviceId" id = some card ∧
    p.findDescendant card ["power-indicator", "value"] = some i

/-- Element `i` is the first with id `x`, and no status or power slot of a device card. -/
structure Readout (p : Page) (x : String) (i : Nat) : Prop where
  found : p.elementById? x = some i
  notStatus : ¬ p.IsStatusSlot i
  notPower : ¬ p.IsPowerSlot i

/-! ## Single writes -/

theorem element?_modifyElement (p : Page) (i : Nat) (f : Element → Element) (j : Nat) :
    (p.modifyElement i f).element? j = if i = j then (p.element? j).map f else p.element? j := by
  simp only [element?, node?_modifyElement]
  split <;> simp [Option.map_map, Function.comp_def]

theorem textAt_setText (p : Page) (j : Nat) (text : String) (i : Nat) :
    (p.setText j text).textAt i = if j = i then (p.textAt i).map fun _ => text else p.textAt i := by
  simp only [textAt, setText, element?_modifyElement]
  split <;> simp [Option.map_map, Function.comp_def]

@[simp] theorem textAt_setClass (p : Page) (j : Nat) (c : String) (enabled : Bool) (i : Nat) :
    (p.setClass j c enabled).textAt i = p.textAt i := by
  simp only [textAt, setClass, element?_modifyElement]
  split <;> simp [Option.map_map, Function.comp_def]

theorem textAt_setText_ne (p : Page) {j i : Nat} (h : j ≠ i) (text : String) :
    (p.setText j text).textAt i = p.textAt i := by
  simp [textAt_setText, h]

theorem findFirst_spec {p : Page} {i j : Nat} {test : Element → Bool}
    (h : p.findFirst i test = some j) : ∃ e, p.element? j = some e ∧ test e = true := by
  have hfound := List.find?_some h
  cases he : p.element? j with
  | none => simp [he] at hfound
  | some e => exact ⟨e, rfl, by simpa [he] using hfound⟩

theorem id_of_elementById? {p : Page} {x : String} {j : Nat} (h : p.elementById? x = some j) :
    (p.element? j).bind Element.id = some x := by
  obtain ⟨e, he, htest⟩ := findFirst_spec h
  have hid : e.id = some x := by simpa using htest
  simp [he, hid]

theorem elementById?_ne {p : Page} {x y : String} {i : Nat} (hi : p.elementById? x = some i)
    (hxy : y ≠ x) : p.elementById? y ≠ some i := by
  intro hy
  have hx := id_of_elementById? hi
  have hy' := id_of_elementById? hy
  rw [hx, Option.some.injEq] at hy'
  exact hxy hy'.symm

theorem textAt_setText_found {p : Page} {x : String} {i : Nat} (hi : p.elementById? x = some i)
    (text : String) : (p.setText i text).textAt i = some text := by
  have hid := id_of_elementById? hi
  rw [textAt_setText, if_pos rfl, textAt]
  cases he : p.element? i with
  | none => simp [he] at hid
  | some e => rfl

/-! ## Log writes by other ids -/

/-- Handing an entry to a sink that logs into no element with id `x` keeps the text of the
element `x` finds. -/
theorem textAt_append_of_found {page : Page} {x : String} {i : Nat}
    (hi : page.elementById? x = some i) (s : Sink) (hs : ∀ y, s = .pageLog y → y ≠ x)
    (e : TraceEntry) : (s.append page e).2.textAt i = page.textAt i := by
  cases s with
  | pageLog id =>
      simp only [Sink.append]
      split
      · rename_i c hc
        have hci : c ≠ i := by
          rintro rfl
          exact elementById?_ne hi (hs id rfl) hc
        exact textAt_setText_ne _ hci _
      · rfl
  | memory entries => rfl
  | log => rfl

/-- Handing an entry to sinks none of which logs into the element with id `x`. -/
theorem textAt_deliverPage_of_found {page : Page} {x : String} {i : Nat}
    (hi : page.elementById? x = some i) (sinks : List Sink)
    (hs : ∀ s ∈ sinks, ∀ y, s = .pageLog y → y ≠ x) (e : TraceEntry) :
    (Presenter.deliverPage sinks page e).textAt i = page.textAt i := by
  induction sinks generalizing page with
  | nil => rfl
  | cons s sinks ih =>
      have hlayout := (redrawn_append s page e).layout
      show (Presenter.deliverPage sinks (s.append page e).2 e).textAt i = page.textAt i
      rw [ih (by rw [elementById?_eq_of_skeleton hlayout.skeleton]; exact hi)
          (fun s' hs' => hs s' (by simp [hs'])),
        textAt_append_of_found hi s (hs s (by simp)) e]

/-! ## Readouts keep being readouts -/

theorem SameLayout.isPowerSlot_iff {p q : Page} (h : p.SameLayout q) (i : Nat) :
    q.IsPowerSlot i ↔ p.IsPowerSlot i := by
  simp only [IsPowerSlot, elementByData?_eq_of_skeleton h.skeleton,
    findDescendant_eq_of_skeleton h.skeleton _ ["power-indicator", "value"]
      (by simp [statusClasses])]

theorem Readout.of_sameLayout {p q : Page} {x : String} {i : Nat} (h : p.Readout x i)
    (hl : p.SameLayout q) : q.Readout x i where
  found := by rw [elementById?_eq_of_skeleton hl.skeleton]; exact h.found
  notStatus := by rw [hl.isStatusSlot_iff]; exact h.notStatus
  notPower := by rw [hl.isPowerSlot_iff]; exact h.notPower

/-! ## The page writes of the panel at a readout -/

section Readout

variable {x : String} {i : Nat}

theorem textAt_writeStatus {p : Page} (h : p.Readout x i) {id : String} {card : Nat}
    (hcard : p.elementByData? "deviceId" id = some card) (d : DeviceSnapshot) :
    (p.writeStatus card d).textAt i = p.textAt i := by
  unfold writeStatus
  split
  · rename_i status hstatus
    have hne : status ≠ i := by
      rintro rfl
      exact h.notStatus ⟨id, card, hcard, hstatus⟩
    simp [textAt_setText_ne _ hne]
  · rfl

theorem textAt_writePower {p : Page} (h : p.Readout x i) {id : String} {card : Nat}
    (hcard : p.elementByData? "deviceId" id = some card) (d : DeviceSnapshot) :
    (p.writePower card d).textAt i = p.textAt i := by
  unfold writePower
  split
  · rename_i value label hvalue _
    have hne : value ≠ i := by
      rintro rfl
      exact h.notPower ⟨id, card, hcard, hvalue⟩
    exact textAt_setText_ne _ hne _
  · rfl

theorem textAt_syncDevice {p : Page} (h : p.Readout x i) (d : DeviceSnapshot) :
    (p.syncDevice d).1.textAt i = p.textAt i := by
  rw [syncDevice_fst]
  cases hcard : p.cardOf? d with
  | none => rfl
  | some card =>
      obtain ⟨id, -, hfound⟩ := Option.bind_eq_some_iff.mp hcard
      have hstatus := redrawn_writeStatus p hfound d
      have hfound' : (p.writeStatus card d).elementByData? "deviceId" id = some card := by
        rw [elementByData?_eq_of_skeleton hstatus.layout.skeleton]
        exact hfound
      rw [textAt_writePower (h.of_sameLayout hstatus.layout) hfound' d,
        textAt_writeStatus h hfound d]

theorem textAt_syncAll {p : Page} (h : p.Readout x i) (devices : List DeviceSnapshot) :
    (p.syncAll devices).textAt i = p.textAt i := by
  induction devices generalizing p with
  | nil => rfl
  | cons d devices ih =>
      have hsync := redrawn_syncDevice p d
      show ((p.syncDevice d).1.syncAll devices).textAt i = p.textAt i
      rw [ih (h.of_sameLayout hsync.layout), textAt_syncDevice h d]

/-- Showing a device list writes its count into the counter, and nothing else a readout
shows. -/
theorem textAt_showDevices {p : Page} (h : p.Readout x i) (counterId : String)
    (devices : List DeviceSnapshot) :
    (p.showDevices counterId devices).textAt i =
      if counterId = x then some (toString (activeCount devices)) else p.textAt i := by
  unfold showDevices
  split
  · rename_i c hc
    have hset := redrawn_setText p c (toString (activeCount devices))
    rw [textAt_syncAll (h.of_sameLayout hset.layout)]
    by_cases hx : counterId = x
    · subst hx
      have hci : c = i := Option.some.inj (hc.symm.trans h.found)
      subst hci
      rw [if_pos rfl, textAt_setText_found h.found]
    · have hci : c ≠ i := by
        rintro rfl
        exact elementById?_ne h.found hx hc
      rw [if_neg hx, textAt_setText_ne _ hci]
  · rename_i hc
    have hx : counterId ≠ x := by
      rintro rfl
      rw [h.found] at hc
      exact Option.some_ne_none i hc
    rw [textAt_syncAll h, if_neg hx]

/-- A mode change writes its label into the header, when it has one. -/
theorem textAt_showMode {p : Page} (h : p.Readout x i) (headerId : String) (result : Json) :
    (p.showMode headerId result).textAt i =
      if headerId = x then (homeModeLabel? result).or (p.textAt i) else p.textAt i := by
  unfold showMode
  by_cases hx : headerId = x
  · subst hx
    rw [h.found, if_pos rfl]
    cases homeModeLabel? result with
    | none => rfl
    | some label => exact textAt_setText_found h.found label
  · rw [if_neg hx]
    split
    · rename_i c label hc _
      have hci : c ≠ i := by
        rintro rfl
        exact elementById?_ne h.found hx hc
      exact textAt_setText_ne _ hci _
    · rfl

/-- A result panel is found by an id ending in `-result`; a readout whose id does not end
so is never one. -/
theorem textAt_showResult {p : Page} (h : p.Readout x i) (hx : ∀ pre, x ≠ pre ++ "-result")
    (pattern : String) (e : TraceEntry) : (p.showResult pattern e).textAt i = p.textAt i := by
  unfold showResult writeResultPanel
  split
  · rfl
  · rename_i c hc
    have hci : c ≠ i := by
      rintro rfl
      exact elementById?_ne h.found (hx pattern).symm hc
    exact textAt_setText_ne _ hci _

end Readout

end Page

end HomePanel
