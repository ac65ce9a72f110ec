import HomePanel.Proofs.Page.Text

/-!
# Syncing device snapshots

A sync writes a snapshot into two slots of its card, the first element below the body whose
dataset `deviceId` is the snapshot's id: the status element, the card's first
`.device-status`, gets the status label and the status class that goes with it, and the
power value, its first `.power-indicator .value`, gets the power label when the snapshot has
a power. The lookups read only the classes `device-status`, `power-indicator` and `value`,
and a sync changes only texts and the status classes, so the card and its slots are the same
elements before and after any sync (`syncElement_eq_of_sameLayout`). A sync is therefore a
fixed rewrite of each element (`element?_syncDevice`), and its laws are laws of the two
element rewrites `Element.showStatus` and `Element.showPower`:

* syncing a snapshot twice is syncing it once (`syncDevice_idempotent`);
* after snapshots `a` then `b` of one device, every class set and every text is what `b`
  alone leaves, except a power value that `b` has no power for: it keeps `a`'s label, unless
  it is the status element itself, which `b`'s status label overwrites
  (`sync_same_device_last_wins`, `shared_slot_takes_status_label`). Class lists may differ
  in order: a status class that `a` removed and `b` adds again goes to the end.
-/

namespace HomePanel

namespace Element

theorem hasClass_eq_decide (e : Element) (c : String) :
    e.hasClass c = decide (c ∈ e.classes) := by
  simp [hasClass]

theorem mem_classes_setClass (e : Element) (c c' : String) (enabled : Bool) :
    c' ∈ (e.setClass c enabled).classes ↔
      if c' = c then enabled = true else c' ∈ e.classes := by
  unfold setClass
  cases enabled with
  | false => by_cases h : c' = c <;> simp [h]
  | true =>
      by_cases hhas : c ∈ e.classes
      · by_cases h : c' = c
        · subst h; simp [hasClass_eq_decide, hhas]
        · simp [h, hasClass_eq_decide, hhas]
      · by_cases h : c' = c <;> simp [hasClass_eq_decide, hhas, h]

/-- Asking for the state a class is already in changes nothing. -/
theorem setClass_hasClass (e : Element) (c : String) : e.setClass c (e.hasClass c) = e := by
  unfold setClass
  by_cases hhas : c ∈ e.classes
  · simp [hasClass_eq_decide, hhas]
  · simp only [hasClass_eq_decide, hhas, decide_false, Bool.false_eq_true, ↓reduceIte]
    rw [List.filter_eq_self.mpr]
    intro x hx
    have : x ≠ c := fun h => hhas (h ▸ hx)
    simpa using this

theorem setClass_of_hasClass {e : Element} {c : String} {enabled : Bool}
    (h : e.hasClass c = enabled) : e.setClass c enabled = e := by
  rw [← h, setClass_hasClass]

/-- The status element of a card once a snapshot is synced: the status label, and
`status-on` or `status-off` as the device is on or off. -/
def showStatus (e : Element) (d : DeviceSnapshot) : Element :=
  ({ e with text := d.statusLabel }.setClass "status-on" d.isOn).setClass "status-off" (!d.isOn)

/-- The power value of a card once a snapshot is synced: the power label, when the snapshot
has a power. -/
def showPower (e : Element) (d : DeviceSnapshot) : Element :=
  d.powerLabel?.elim e fun label => { e with text := label }

@[simp] theorem text_showStatus (e : Element) (d : DeviceSnapshot) :
    (e.showStatus d).text = d.statusLabel := by
  simp [showStatus]

@[simp] theorem classes_showPower (e : Element) (d : DeviceSnapshot) :
    (e.showPower d).classes = e.classes := by
  unfold showPower
  cases d.powerLabel? <;> rfl

theorem text_showPower (e : Element) (d : DeviceSnapshot) :
    (e.showPower d).text = d.powerLabel?.getD e.text := by
  unfold showPower
  cases d.powerLabel? <;> rfl

theorem showPower_of_power_none (e : Element) {d : DeviceSnapshot} (h : d.power = none) :
    e.showPower d = e := by
  simp [showPower, DeviceSnapshot.powerLabel?, h]

/-- The status classes after a sync follow the snapshot alone; every other class stays. -/
theorem mem_classes_showStatus (e : Element) (d : DeviceSnapshot) (c : String) :
    c ∈ (e.showStatus d).classes ↔
      if c = "status-off" then d.isOn = false
      else if c = "status-on" then d.isOn = true else c ∈ e.classes := by
  simp only [showStatus, mem_classes_setClass, Bool.not_eq_true']

theorem showStatus_showPower (e : Element) (d d' : DeviceSnapshot) :
    (e.showPower d').showStatus d = e.showStatus d := by
  unfold showPower
  cases d'.powerLabel? <;> rfl

@[simp] theorem showPower_showPower (e : Element) (d : DeviceSnapshot) :
    (e.showPower d).showPower d = e.showPower d := by
  unfold showPower
  cases d.powerLabel? <;> rfl

/-- Showing a snapshot's status twice is showing it once: the label is rewritten, and each
status class is already in the state the snapshot asks for. -/
theorem showStatus_showStatus (e : Element) (d : DeviceSnapshot) :
    (e.showStatus d).showStatus d = e.showStatus d := by
  have hon : (e.showStatus d).hasClass "status-on" = d.isOn := by
    cases hd : d.isOn <;> simp [hasClass_eq_decide, mem_classes_showStatus, hd]
  have hoff : (e.showStatus d).hasClass "status-off" = !d.isOn := by
    cases hd : d.isOn <;> simp [hasClass_eq_decide, mem_classes_showStatus, hd]
  have htext : { e.showStatus d with text := d.statusLabel } = e.showStatus d := by
    rw [← text_showStatus e d]
  conv_lhs => rw [showStatus, htext, setClass_of_hasClass hon, setClass_of_hasClass hoff]

end Element

namespace Page

/-- What a class path finds below the card a snapshot is written into. -/
def slot? (p : Page) (d : DeviceSnapshot) (path : List String) : Option Nat :=
  (p.cardOf? d).bind fun card => p.findDescendant card path

/-- The status element of the card: its first `.device-status`. -/
def statusSlot? (p : Page) (d : DeviceSnapshot) : Option Nat := p.slot? d ["device-status"]

/-- The power value of the card: its first `.power-indicator .value`. -/
def powerSlot? (p : Page) (d : DeviceSnapshot) : Option Nat :=
  p.slot? d ["power-indicator", "value"]

/-- What syncing a snapshot does to the element at index `i`: the status write, then the
power write. -/
def syncElement (p : Page) (d : DeviceSnapshot) (i : Nat) (e : Element) : Element :=
  let e := if p.statusSlot? d = some i then e.showStatus d else e
  if p.powerSlot? d = some i then e.showPower d else e

/-! ## The card and its slots stay where they are -/

section Layout

variable {p q : Page} (h : p.SameLayout q) (d : DeviceSnapshot)
include h

theorem cardOf?_eq_of_sameLayout : q.cardOf? d = p.cardOf? d := by
  simp only [cardOf?, elementByData?_eq_of_skeleton h.skeleton]

theorem slot?_eq_of_sameLayout (path : List String) (hpath : ∀ c ∈ path, c ∉ statusClasses) :
    q.slot? d path = p.slot? d path := by
  simp only [slot?, cardOf?_eq_of_sameLayout h, findDescendant_eq_of_skeleton h.skeleton _ _ hpath]

theorem statusSlot?_eq_of_sameLayout : q.statusSlot? d = p.statusSlot? d :=
  slot?_eq_of_sameLayout h d ["device-status"] (by simp [statusClasses])

theorem powerSlot?_eq_of_sameLayout : q.powerSlot? d = p.powerSlot? d :=
  slot?_eq_of_sameLayout h d ["power-indicator", "value"] (by simp [statusClasses])

theorem syncElement_eq_of_sameLayout : q.syncElement d = p.syncElement d := by
  funext i e
  simp only [syncElement, statusSlot?_eq_of_sameLayout h, powerSlot?_eq_of_sameLayout h]

end Layout

/-- Two snapshots of one device are written into the same card. -/
theorem slot?_congr (p : Page) {a b : DeviceSnapshot} (hid : a.id = b.id) (path : List String) :
    p.slot? a path = p.slot? b path := by
  simp only [slot?, cardOf?, hid]

theorem statusSlot?_congr (p : Page) {a b : DeviceSnapshot} (hid : a.id = b.id) :
    p.statusSlot? a = p.statusSlot? b :=
  slot?_congr p hid _

theorem powerSlot?_congr (p : Page) {a b : DeviceSnapshot} (hid : a.id = b.id) :
    p.powerSlot? a = p.powerSlot? b :=
  slot?_congr p hid _

/-- Whatever a class path finds is an element of the page. -/
theorem element?_of_findDescendant {p : Page} {i j : Nat} {path : List String}
    (h : p.findDescendant i path = some j) : ∃ e, p.element? j = some e := by
  cases path with
  | nil => simp [findDescendant] at h
  | cons c rest =>
      simp only [findDescendant] at h
      induction rest generalizing c i with
      | nil =>
          obtain ⟨e, he, -⟩ := findFirst_spec h
          exact ⟨e, he⟩
      | cons c' rest ih =>
          simp only [List.foldl_cons] at h
          cases hfirst : p.findFirst i (·.hasClass c) with
          | none =>
              have hnone : ∀ l : List String,
                  l.foldl (fun found c => found.bind fun j => p.findFirst j (·.hasClass c))
                    none = none := by
                intro l
                induction l with
                | nil => rfl
                | cons _ _ ihl => exact ihl
              rw [hfirst, Option.bind_none, hnone] at h
              cases h
          | some k =>
              rw [hfirst, Option.bind_some] at h
              exact ih c' h

theorem element?_of_slot? {p : Page} {d : DeviceSnapshot} {path : List String} {i : Nat}
    (h : p.slot? d path = some i) : ∃ e, p.element? i = some e := by
  obtain ⟨card, -, hfound⟩ := Option.bind_eq_some_iff.mp h
  exact element?_of_findDescendant hfound

/-! ## A sync rewrites two elements -/

theorem node?_writeStatus (p : Page) (card : Nat) (d : DeviceSnapshot) (j : Nat) :
    (p.writeStatus card d).node? j = (p.node? j).map fun n =>
      { n with element := if p.findDescendant card ["device-status"] = some j
        then n.element.showStatus d else n.element } := by
  unfold writeStatus
  cases hs : p.findDescendant card ["device-status"] with
  | none => simp
  | some status =>
      simp only [setClass, setText, node?_modifyElement]
      by_cases hj : status = j
      · subst hj
        cases p.node? status <;> simp [Element.showStatus]
      · simp [hj]

theorem node?_writePower (p : Page) (card : Nat) (d : DeviceSnapshot) (j : Nat) :
    (p.writePower card d).node? j = (p.node? j).map fun n =>
      { n with element := if p.findDescendant card ["power-indicator", "value"] = some j
        then n.element.showPower d else n.element } := by
  unfold writePower
  cases hv : p.findDescendant card ["power-indicator", "value"] with
  | none => simp
  | some value =>
      cases hl : d.powerLabel? with
      | none => simp [Element.showPower, hl]
      | some label =>
          simp only [setText, node?_modifyElement]
          by_cases hj : value = j
          · subst hj
            cases p.node? value <;> simp [Element.showPower, hl]
          · simp [hj]

/-- A sync rewrites every element by `syncElement`, the status element and the power value
of the card, and keeps the rest of the page. -/
theorem node?_syncDevice (p : Page) (d : DeviceSnapshot) (i : Nat) :
    (p.syncDevice d).1.node? i =
      (p.node? i).map fun n => { n with element := p.syncElement d i n.element } := by
  rw [syncDevice_fst]
  cases hcard : p.cardOf? d with
  | none => simp [syncElement, statusSlot?, powerSlot?, slot?, hcard]
  | some card =>
      obtain ⟨id, -, hfound⟩ := Option.bind_eq_some_iff.mp hcard
      have hpower : (p.writeStatus card d).findDescendant card ["power-indicator", "value"] =
          p.findDescendant card ["power-indicator", "value"] :=
        findDescendant_eq_of_skeleton (redrawn_writeStatus p hfound d).layout.skeleton _ _
          (by simp [statusClasses])
      rw [node?_writePower, hpower, node?_writeStatus, Option.map_map]
      simp [syncElement, statusSlot?, powerSlot?, slot?, hcard, Function.comp_def]

theorem element?_syncDevice (p : Page) (d : DeviceSnapshot) (i : Nat) :
    (p.syncDevice d).1.element? i = (p.element? i).map (p.syncElement d i) := by
  simp [element?, node?_syncDevice, Option.map_map, Function.comp_def]

theorem syncDevice_snd (p : Page) (d : DeviceSnapshot) :
    (p.syncDevice d).2 = (p.cardOf? d).isSome := by
  unfold syncDevice cardOf?
  cases d.id with
  | none => rfl
  | some id => cases h : p.elementByData? "deviceId" id <;> simp [h]

theorem ext_node? {p q : Page} (hn : ∀ i, p.node? i = q.node? i) (hr : p.reloads = q.reloads) :
    p = q := by
  cases p
  cases q
  simp only [Page.mk.injEq]
  exact ⟨Array.ext_getElem? hn, hr⟩

/-! ## Syncing a snapshot twice -/

theorem syncElement_syncElement (p : Page) (d : DeviceSnapshot) (i : Nat) (e : Element) :
    p.syncElement d i (p.syncElement d i e) = p.syncElement d i e := by
  unfold syncElement
  by_cases hs : p.statusSlot? d = some i <;> by_cases hp : p.powerSlot? d = some i <;>
    simp [hs, hp, Element.showStatus_showPower, Element.showStatus_showStatus]

theorem syncDevice_syncDevice (p : Page) (d : DeviceSnapshot) :
    (p.syncDevice d).1.syncDevice d = p.syncDevice d := by
  have hsync := redrawn_syncDevice p d
  apply Prod.ext
  · apply ext_node?
    · intro i
      rw [node?_syncDevice, syncElement_eq_of_sameLayout hsync.layout, node?_syncDevice,
        Option.map_map]
      simp [Function.comp_def, syncElement_syncElement]
    · rw [(redrawn_syncDevice _ d).reloads, hsync.reloads]
  · rw [syncDevice_snd, syncDevice_snd, cardOf?_eq_of_sameLayout hsync.layout]

/-- A snapshot has a card exactly when it has an id that some element below the body
carries as its dataset `deviceId`. -/
theorem cardOf?_isSome_iff (p : Page) (d : DeviceSnapshot) :
    (p.cardOf? d).isSome ↔ ∃ id, d.id = some id ∧ ∃ c ∈ p.descendants body,
      ∃ e, p.element? c = some e ∧ e.data? "deviceId" = some id := by
  unfold cardOf? elementByData? findFirst
  cases d.id with
  | none => simp
  | some id =>
      simp only [Option.bind_some, List.find?_isSome, Option.some.injEq, exists_eq_left']
      refine exists_congr fun c => and_congr_right fun _ => ?_
      cases p.element? c <;> simp

theorem classes_syncDevice_of_ne (p : Page) (d : DeviceSnapshot) {i : Nat}
    (hs : p.statusSlot? d ≠ some i) :
    ((p.syncDevice d).1.element? i).map Element.classes = (p.element? i).map Element.classes := by
  rw [element?_syncDevice, Option.map_map]
  congr 1
  funext e
  simp [syncElement, hs]
  split <;> simp

theorem textAt_syncDevice_of_ne (p : Page) (d : DeviceSnapshot) {i : Nat}
    (hs : p.statusSlot? d ≠ some i) (hp : p.powerSlot? d = some i → d.power = none) :
    (p.syncDevice d).1.textAt i = p.textAt i := by
  have hkeep : p.syncElement d i = id := by
    funext e
    by_cases hpi : p.powerSlot? d = some i
    · simp [syncElement, hs, hpi, Element.showPower_of_power_none e (hp hpi)]
    · simp [syncElement, hs, hpi]
  rw [textAt, element?_syncDevice, hkeep, Option.map_id, id, textAt]

/-- Syncing a snapshot twice leaves the page as syncing it once, and both report the same.
The report says whether the snapshot has an id that an element below the body carries as its
`deviceId`; the first such element in document order is the card. A sync keeps every
element, the tree and every field but texts and the status classes; it changes classes only
on the card's status element, and texts only there and, for a snapshot with a power, on the
card's power value. -/
theorem syncDevice_idempotent (p : Page) (d : DeviceSnapshot) :
    (p.syncDevice d).1.syncDevice d = p.syncDevice d ∧
    ((p.syncDevice d).2 = true ↔ ∃ id, d.id = some id ∧ ∃ c ∈ p.descendants body,
      ∃ e, p.element? c = some e ∧ e.data? "deviceId" = some id) ∧
    (∀ i, ((p.syncDevice d).1.node? i).map Node.skeleton = (p.node? i).map Node.skeleton) ∧
    (∀ i, p.statusSlot? d ≠ some i →
      ((p.syncDevice d).1.element? i).map Element.classes = (p.element? i).map Element.classes) ∧
    (∀ i, p.statusSlot? d ≠ some i → (p.powerSlot? d = some i → d.power = none) →
      (p.syncDevice d).1.textAt i = p.textAt i) := by
  refine ⟨syncDevice_syncDevice p d, ?_, (redrawn_syncDevice p d).layout.skeleton,
    fun i hs => classes_syncDevice_of_ne p d hs, fun i hs hp => textAt_syncDevice_of_ne p d hs hp⟩
  rw [syncDevice_snd, ← cardOf?_isSome_iff]

/-! ## Two snapshots of one device -/

section SameDevice

variable (p : Page) {a b : DeviceSnapshot} (hid : a.id = b.id) (i : Nat) (e : Element)
include hid

/-- After `a` then `b`, an element has the classes `b` alone leaves: the status classes
follow `b`, and no write touches the others. -/
theorem syncElement_syncElement_classes :
    (p.syncElement b i (p.syncElement a i e)).classes.toFinset =
      (p.syncElement b i e).classes.toFinset := by
  unfold syncElement
  rw [statusSlot?_congr p hid, powerSlot?_congr p hid]
  by_cases hs : p.statusSlot? b = some i
  · ext c
    by_cases hp : p.powerSlot? b = some i <;>
      simp only [hs, hp, ↓reduceIte, Element.classes_showPower, Element.showStatus_showPower,
        List.mem_toFinset, Element.mem_classes_showStatus] <;>
      split_ifs <;> simp_all
  · by_cases hp : p.powerSlot? b = some i <;> simp [hs, hp]

/-- After `a` then `b`, an element has the text `b` alone leaves, except a power value that
is not the status element when `b` has no power: it keeps what `a` wrote. -/
theorem syncElement_syncElement_text :
    (p.syncElement b i (p.syncElement a i e)).text =
      if p.powerSlot? b = some i ∧ p.statusSlot? b ≠ some i ∧ b.power = none
      then (p.syncElement a i e).text else (p.syncElement b i e).text := by
  unfold syncElement
  rw [statusSlot?_congr p hid, powerSlot?_congr p hid]
  by_cases hs : p.statusSlot? b = some i
  · by_cases hp : p.powerSlot? b = some i <;>
      simp [hs, hp, Element.text_showPower, Element.showStatus_showPower]
  · by_cases hp : p.powerSlot? b = some i
    · by_cases hb : b.power = none
      · simp [hs, hp, hb, Element.showPower_of_power_none _ hb]
      · obtain ⟨x, hx⟩ := Option.ne_none_iff_exists'.mp hb
        simp [hs, hp, hx, Element.text_showPower, DeviceSnapshot.powerLabel?]
    · simp [hs, hp]

end SameDevice

/-- A power label is never a status label: it ends in `W`. -/
theorem powerLabel?_ne_statusLabel (d d' : DeviceSnapshot) :
    d.powerLabel? ≠ some d'.statusLabel := by
  cases hx : d.power with
  | none => simp [DeviceSnapshot.powerLabel?, hx]
  | some x =>
      simp only [DeviceSnapshot.powerLabel?, hx, Option.map_some, ne_eq, Option.some.injEq]
      intro heq
      have hlast := congrArg (fun s : String => s.toList.getLast?) heq
      simp only [String.toList_append, List.getLast?_append] at hlast
      unfold DeviceSnapshot.statusLabel at hlast
      split at hlast <;> simp at hlast

section SameDevice

variable (p : Page) {a b : DeviceSnapshot} (hid : a.id = b.id)
include hid

/-- Syncing `a` and then `b`, two snapshots of one device, leaves the class sets `b` alone
leaves, and the texts too, except a power value other than the status element when `b` has
no power: that one keeps what `a` left. -/
theorem syncDevice_syncDevice_same_id (i : Nat) :
    (((p.syncDevice a).1.syncDevice b).1.element? i).map (·.classes.toFinset) =
        ((p.syncDevice b).1.element? i).map (·.classes.toFinset) ∧
      ((p.syncDevice a).1.syncDevice b).1.textAt i =
        if p.powerSlot? b = some i ∧ p.statusSlot? b ≠ some i ∧ b.power = none
        then (p.syncDevice a).1.textAt i else (p.syncDevice b).1.textAt i := by
  have hlayout := (redrawn_syncDevice p a).layout
  have hab : ((p.syncDevice a).1.syncDevice b).1.element? i =
      (p.element? i).map fun e => p.syncElement b i (p.syncElement a i e) := by
    rw [element?_syncDevice, syncElement_eq_of_sameLayout hlayout, element?_syncDevice,
      Option.map_map]
    rfl
  constructor
  · rw [hab, element?_syncDevice, Option.map_map, Option.map_map]
    simp only [Function.comp_def, syncElement_syncElement_classes p hid]
  · simp only [textAt, hab, element?_syncDevice, Option.map_map, Function.comp_def,
      syncElement_syncElement_text p hid]
    split <;> rfl

/-- The power value keeps the power label of `a` when `a` has a power and `b` has none. -/
theorem textAt_syncDevice_power (i : Nat) (hp : p.powerSlot? b = some i)
    (hs : p.statusSlot? b ≠ some i) (hb : b.power = none) :
    (p.syncDevice a).1.textAt i = if a.power ≠ none then a.powerLabel? else
      (p.syncDevice b).1.textAt i := by
  rw [textAt_syncDevice_of_ne p b hs fun _ => hb]
  obtain ⟨e, he⟩ := element?_of_slot? hp
  have hs' : p.statusSlot? a ≠ some i := by rwa [statusSlot?_congr p hid]
  have hp' : p.powerSlot? a = some i := by rwa [powerSlot?_congr p hid]
  simp only [textAt, element?_syncDevice, he, Option.map_some, syncElement, hs', hp',
    ↓reduceIte, Element.text_showPower]
  split
  · rename_i ha
    obtain ⟨x, hx⟩ := Option.ne_none_iff_exists'.mp ha
    simp [DeviceSnapshot.powerLabel?, hx]
  · rename_i ha
    simp [DeviceSnapshot.powerLabel?, not_not.mp ha]

end SameDevice

/-- After any history of snapshots of one device, syncing `b` leaves the class sets `b`
alone leaves, and every text but a power value that `b` has no power for. -/
theorem syncAll_syncDevice_same_id (p : Page) (b : DeviceSnapshot) (before : List DeviceSnapshot)
    (hbefore : ∀ a ∈ before, a.id = b.id) (i : Nat) :
    (((p.syncAll before).syncDevice b).1.element? i).map (·.classes.toFinset) =
        ((p.syncDevice b).1.element? i).map (·.classes.toFinset) ∧
      (¬ (p.powerSlot? b = some i ∧ p.statusSlot? b ≠ some i ∧ b.power = none) →
        ((p.syncAll before).syncDevice b).1.textAt i = (p.syncDevice b).1.textAt i) := by
  -- one snapshot at a time, from the first: the law for two snapshots carries the rest
  induction before generalizing p with
  | nil => exact ⟨rfl, fun _ => rfl⟩
  | cons a rest ih =>
      have hid : a.id = b.id := hbefore a (List.mem_cons_self)
      have hlayout := (redrawn_syncDevice p a).layout
      obtain ⟨hclasses, htext⟩ := ih (p.syncDevice a).1 fun a' ha' =>
        hbefore a' (List.mem_cons_of_mem a ha')
      obtain ⟨hclasses2, htext2⟩ := syncDevice_syncDevice_same_id p hid i
      rw [powerSlot?_eq_of_sameLayout hlayout, statusSlot?_eq_of_sameLayout hlayout] at htext
      refine ⟨hclasses.trans hclasses2, fun hkeep => ?_⟩
      rw [syncAll, List.foldl_cons, ← syncAll, htext hkeep, htext2, if_neg hkeep]

/-- Two snapshots of one device, `a` then `b`: every class set is what `b` alone leaves, and
every text too, except a power value that is not the card's status element: when `b` has no
power and `a` has one, it keeps `a`'s power label. After any earlier snapshots of the device,
the class sets and all texts but such a power value are what `b` alone leaves. -/
theorem sync_same_device_last_wins (p : Page) {a b : DeviceSnapshot} (hid : a.id = b.id) :
    (∀ i, (((p.syncDevice a).1.syncDevice b).1.element? i).map (·.classes.toFinset) =
        ((p.syncDevice b).1.element? i).map (·.classes.toFinset) ∧
      ((p.syncDevice a).1.syncDevice b).1.textAt i =
        if p.powerSlot? b = some i ∧ p.statusSlot? b ≠ some i ∧ b.power = none ∧
          a.power ≠ none
        then a.powerLabel? else (p.syncDevice b).1.textAt i) ∧
    ∀ before : List DeviceSnapshot, (∀ a ∈ before, a.id = b.id) → ∀ i,
      (((p.syncAll before).syncDevice b).1.element? i).map (·.classes.toFinset) =
          ((p.syncDevice b).1.element? i).map (·.classes.toFinset) ∧
        (¬ (p.powerSlot? b = some i ∧ p.statusSlot? b ≠ some i ∧ b.power = none) →
          ((p.syncAll before).syncDevice b).1.textAt i = (p.syncDevice b).1.textAt i) := by
  refine ⟨fun i => ?_, syncAll_syncDevice_same_id p b⟩
  obtain ⟨hclasses, htext⟩ := syncDevice_syncDevice_same_id p hid i
  refine ⟨hclasses, ?_⟩
  rw [htext]
  by_cases hcase : p.powerSlot? b = some i ∧ p.statusSlot? b ≠ some i ∧ b.power = none
  · obtain ⟨hp, hs, hb⟩ := hcase
    rw [if_pos ⟨hp, hs, hb⟩, textAt_syncDevice_power p hid i hp hs hb]
    by_cases ha : a.power ≠ none <;> simp [hp, hs, hb, ha]
  · rw [if_neg hcase, if_neg fun h => hcase ⟨h.1, h.2.1, h.2.2.1⟩]

theorem status_follows_last_snapshot :
    let p : Page := ⟨#[{ element := { tag := "body" }, children := [1] },
      { element := { tag := "div", classes := ["device-card"], dataset := [("deviceId", "d1")] },
        parent := some 0, children := [2, 3] },
      { element := { tag := "span", classes := ["device-status", "status-off"], text := "OFF" },
        parent := some 1 },
      { element := { tag := "div", classes := ["power-indicator"] }, parent := some 1,
        children := [4] },
      { element := { tag := "span", classes := ["value"], text := "0W" }, parent := some 3 }], 0⟩
    let a : DeviceSnapshot := ⟨some "d1", true, some (Binary64.ofNat 7)⟩
    let b : DeviceSnapshot := ⟨some "d1", false, none⟩
    a.id = b.id ∧
    (∀ i, (((p.syncDevice a).1.syncDevice b).1.element? i).map (·.classes.toFinset) =
        ((p.syncDevice b).1.element? i).map (·.classes.toFinset) ∧
      ((p.syncDevice a).1.syncDevice b).1.textAt i =
        if p.powerSlot? b = some i ∧ p.statusSlot? b ≠ some i ∧ b.power = none ∧
          a.power ≠ none
        then a.powerLabel? else (p.syncDevice b).1.textAt i) ∧
    ∀ before : List DeviceSnapshot, (∀ a ∈ before, a.id = b.id) → ∀ i,
      (((p.syncAll before).syncDevice b).1.element? i).map (·.classes.toFinset) =
          ((p.syncDevice b).1.element? i).map (·.classes.toFinset) ∧
        (¬ (p.powerSlot? b = some i ∧ p.statusSlot? b ≠ some i ∧ b.power = none) →
          ((p.syncAll before).syncDevice b).1.textAt i = (p.syncDevice b).1.textAt i) := by
  intro p a b
  exact ⟨rfl, sync_same_device_last_wins p rfl⟩

/-- The power value does not always keep the earlier power label: on a card whose status
element is also its power value, the later status label overwrites it. -/
theorem shared_slot_takes_status_label :
    let p : Page := ⟨#[{ element := { tag := "body" }, children := [1] },
      { element := { tag := "div", classes := ["device-card"], dataset := [("deviceId", "d1")] },
        parent := some 0, children := [2] },
      { element := { tag := "div", classes := ["power-indicator"] }, parent := some 1,
        children := [3] },
      { element := { tag := "span", classes := ["device-status", "value"], text := "-" },
        parent := some 2 }], 0⟩
    let a : DeviceSnapshot := ⟨some "d1", true, some (Binary64.ofNat 5)⟩
    let b : DeviceSnapshot := ⟨some "d1", false, none⟩
    ¬ ∀ i, ((p.syncDevice a).1.syncDevice b).1.textAt i =
      if p.powerSlot? b = some i ∧ b.power = none ∧ a.power ≠ none then a.powerLabel?
      else (p.syncDevice b).1.textAt i := by
  intro p a b hkeeps
  have hs : p.statusSlot? b = some 3 := by decide
  have hp : p.powerSlot? b = some 3 := by decide
  have h3 := hkeeps 3
  rw [if_pos ⟨hp, rfl, Option.some_ne_none _⟩] at h3
  obtain ⟨-, htext⟩ := @syncDevice_syncDevice_same_id p a b rfl 3
  rw [if_neg fun h => h.2.1 hs] at htext
  have hstatus : (p.syncDevice b).1.textAt 3 = some b.statusLabel := by
    rw [textAt, element?_syncDevice]
    simp [p, element?, node?, syncElement, hs, hp, Element.text_showPower,
      DeviceSnapshot.powerLabel?, b]
  exact powerLabel?_ne_statusLabel a b (h3.symm.trans (htext.trans hstatus))

end Page

end HomePanel
