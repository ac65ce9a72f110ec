import HomePanel.Proofs.Panel.Run

/-!
# What the panel may change on a page

The panel writes texts wherever it reports, and classes in one place only: syncing a
device adds or removes `status-on` and `status-off` on the status element of the device's
card, the first `.device-status` below the first element whose dataset `deviceId` is the
device's id. `Page.SameLayout p q` says that `q` has `p`'s elements, tree, tags, ids,
datasets and form fields, and that a class list of `q` differs from `p`'s only on such a
status element and only in the status classes. It is a preorder, so it carries over any
sequence of writes.

Every search the panel makes reads only what `SameLayout` keeps: the tree, ids, datasets,
tags, form fields and classes other than the status classes. So a lookup by id, by dataset
value or by a class path without status classes finds the same element on both pages
(`findFirst_eq_of_skeleton`), and the status elements of the cards are the same elements
(`SameLayout.isStatusSlot_iff`).

`Page.Redrawn p q ids n` adds what a sequence of writes synced and how often it reloaded:
a class list differs only on the status element of the card of one of `ids`, and the page
was reloaded `n` more times. Writes compose by appending their ids and adding their reloads.
-/

namespace HomePanel

/-- The classes a device sync adds or removes. -/
def statusClasses : List String := ["status-on", "status-off"]

namespace Element

/-- What no handler changes about an element: all but its text and its status classes. -/
def frame (e : Element) : Element :=
  { e with text := "", classes := e.classes.filter (· ∉ statusClasses) }

theorem hasClass_frame {c : String} (hc : c ∉ statusClasses) (e : Element) :
    e.frame.hasClass c = e.hasClass c := by
  simp only [frame, hasClass, List.contains_eq_mem, List.mem_filter, decide_eq_decide]
  constructor
  · exact fun h => h.1
  · exact fun h => ⟨h, by simpa using hc⟩

theorem frame_setClass {c : String} (hc : c ∈ statusClasses) (e : Element) (enabled : Bool) :
    (e.setClass c enabled).frame = e.frame := by
  unfold setClass frame
  cases enabled with
  | false =>
      simp only [Bool.false_eq_true, ↓reduceIte, Element.mk.injEq, true_and, and_true]
      rw [List.filter_filter]
      congr 1
      funext x
      by_cases hx : x = c
      · subst hx
        simp [hc]
      · simp [hx]
  | true =>
      by_cases hhas : e.hasClass c = true
      · simp [hhas]
      · simp [hhas, List.filter_append, hc]

end Element

namespace Node

/-- What no handler changes about a node: its place in the tree and its element's frame. -/
def skeleton (n : Node) : Node := { n with element := n.element.frame }

@[simp] theorem skeleton_children (n : Node) : n.skeleton.children = n.children := rfl
@[simp] theorem skeleton_element (n : Node) : n.skeleton.element = n.element.frame := rfl

end Node

namespace Page

/-- The status element of a device card: the first `.device-status` below the first
element whose dataset `deviceId` is some id. -/
def IsStatusSlot (p : Page) (i : Nat) : Prop :=
  ∃ id card, p.elementByData? "deviceId" id = some card ∧
    p.findDescendant card ["device-status"] = some i

/-- The status element of the card of one of `ids`. -/
def IsStatusSlotOf (p : Page) (ids : List String) (i : Nat) : Prop :=
  ∃ id ∈ ids, ∃ card, p.elementByData? "deviceId" id = some card ∧
    p.findDescendant card ["device-status"] = some i

theorem IsStatusSlotOf.isStatusSlot {p : Page} {ids : List String} {i : Nat}
    (h : p.IsStatusSlotOf ids i) : p.IsStatusSlot i := by
  obtain ⟨id, -, card, hcard, hstatus⟩ := h
  exact ⟨id, card, hcard, hstatus⟩

theorem IsStatusSlotOf.mono {p : Page} {ids ids' : List String} {i : Nat}
    (h : p.IsStatusSlotOf ids i) (hsub : ids ⊆ ids') : p.IsStatusSlotOf ids' i := by
  obtain ⟨id, hid, rest⟩ := h
  exact ⟨id, hsub hid, rest⟩

/-- `q` has `p`'s elements, tree, tags, ids, datasets and form fields; a class list differs
only on a status element of a card, and only in the status classes. -/
structure SameLayout (p q : Page) : Prop where
  skeleton : ∀ i, (q.node? i).map Node.skeleton = (p.node? i).map Node.skeleton
  classes : ∀ i, (q.element? i).map Element.classes ≠ (p.element? i).map Element.classes →
    p.IsStatusSlot i

/-! ## Searches read only the skeleton -/

section Skeleton

variable {p q : Page} (hs : ∀ i, (q.node? i).map Node.skeleton = (p.node? i).map Node.skeleton)
include hs

theorem size_eq_of_skeleton : q.nodes.size = p.nodes.size := by
  have hnone : ∀ i : Nat, q.nodes[i]? = none ↔ p.nodes[i]? = none := by
    intro i
    have h := hs i
    simp only [node?] at h
    rw [← Option.map_eq_none_iff (f := Node.skeleton), h, Option.map_eq_none_iff]
  have hq := hnone q.nodes.size
  have hp := hnone p.nodes.size
  simp only [Array.getElem?_eq_none_iff, le_refl, true_iff, iff_true] at hq hp
  omega

theorem children_eq_of_skeleton (i : Nat) : q.children i = p.children i := by
  have h := congrArg (Option.map Node.children) (hs i)
  simp only [Option.map_map, Function.comp_def, Node.skeleton_children] at h
  simp only [children, h]

theorem element_frame_eq_of_skeleton (i : Nat) :
    (q.element? i).map Element.frame = (p.element? i).map Element.frame := by
  have h := congrArg (Option.map Node.element) (hs i)
  simp only [Option.map_map, Function.comp_def, Node.skeleton_element] at h
  simp only [element?, Option.map_map, Function.comp_def, h]

theorem descendantsUpTo_eq_of_skeleton (fuel i : Nat) :
    q.descendantsUpTo fuel i = p.descendantsUpTo fuel i := by
  induction fuel generalizing i with
  | zero => rfl
  | succ fuel ih =>
      simp only [descendantsUpTo, children_eq_of_skeleton hs, ih]

theorem descendants_eq_of_skeleton (i : Nat) : q.descendants i = p.descendants i := by
  rw [descendants, descendants, size_eq_of_skeleton hs, descendantsUpTo_eq_of_skeleton hs]

/-- A search whose test reads only an element's frame finds the same element. -/
theorem findFirst_eq_of_skeleton (i : Nat) (test : Element → Bool)
    (htest : ∀ e, test e.frame = test e) : q.findFirst i test = p.findFirst i test := by
  have hpred : (fun d => ((q.element? d).map test).getD false) =
      (fun d => ((p.element? d).map test).getD false) := by
    funext d
    have h := congrArg (Option.map test) (element_frame_eq_of_skeleton hs d)
    simp only [Option.map_map, Function.comp_def, htest] at h
    rw [h]
  rw [findFirst, findFirst, descendants_eq_of_skeleton hs, hpred]

theorem elementById?_eq_of_skeleton (id : String) : q.elementById? id = p.elementById? id :=
  findFirst_eq_of_skeleton hs _ _ fun _ => rfl

theorem elementByData?_eq_of_skeleton (key value : String) :
    q.elementByData? key value = p.elementByData? key value :=
  findFirst_eq_of_skeleton hs _ _ fun _ => rfl

/-- One class search finds the same element when the class is not a status class. -/
theorem findClass_eq_of_skeleton {c : String} (hc : c ∉ statusClasses) (j : Nat) :
    q.findFirst j (·.hasClass c) = p.findFirst j (·.hasClass c) :=
  findFirst_eq_of_skeleton hs j _ (Element.hasClass_frame hc)

/-- Following a class path that names no status class finds the same element. -/
theorem findDescendant_eq_of_skeleton (i : Nat) (path : List String)
    (hpath : ∀ c ∈ path, c ∉ statusClasses) :
    q.findDescendant i path = p.findDescendant i path := by
  have hwalk : ∀ rest : List String, (∀ c ∈ rest, c ∉ statusClasses) →
      ∀ found : Option Nat,
        rest.foldl (fun found c => found.bind fun j => q.findFirst j (·.hasClass c)) found =
        rest.foldl (fun found c => found.bind fun j => p.findFirst j (·.hasClass c)) found := by
    intro rest hrest
    induction rest with
    | nil => intro found; rfl
    | cons c rest ih =>
        intro found
        have hc : c ∉ statusClasses := hrest c (by simp)
        simp only [List.foldl_cons, findClass_eq_of_skeleton hs hc]
        exact ih (fun c' hc' => hrest c' (by simp [hc'])) _
  cases path with
  | nil => rfl
  | cons c rest =>
      simp only [findDescendant, findClass_eq_of_skeleton hs (hpath c (by simp))]
      exact hwalk rest (fun c' hc' => hpath c' (by simp [hc'])) _

theorem isStatusSlot_iff_of_skeleton (i : Nat) : q.IsStatusSlot i ↔ p.IsStatusSlot i := by
  simp only [IsStatusSlot, elementByData?_eq_of_skeleton hs,
    findDescendant_eq_of_skeleton hs _ ["device-status"] (by simp [statusClasses])]

theorem isStatusSlotOf_iff_of_skeleton (ids : List String) (i : Nat) :
    q.IsStatusSlotOf ids i ↔ p.IsStatusSlotOf ids i := by
  simp only [IsStatusSlotOf, elementByData?_eq_of_skeleton hs,
    findDescendant_eq_of_skeleton hs _ ["device-status"] (by simp [statusClasses])]

end Skeleton

/-! ## `SameLayout` is a preorder -/

namespace SameLayout

@[refl] theorem refl (p : Page) : p.SameLayout p :=
  ⟨fun _ => rfl, fun _ h => absurd rfl h⟩

theorem trans {p q r : Page} (hpq : p.SameLayout q) (hqr : q.SameLayout r) : p.SameLayout r := by
  refine ⟨fun i => (hqr.skeleton i).trans (hpq.skeleton i), fun i hne => ?_⟩
  by_cases hq : (q.element? i).map Element.classes = (p.element? i).map Element.classes
  · have hslot : q.IsStatusSlot i := hqr.classes i (by rwa [hq])
    exact (isStatusSlot_iff_of_skeleton hpq.skeleton i).mp hslot
  · exact hpq.classes i hq

theorem isStatusSlot_iff {p q : Page} (h : p.SameLayout q) (i : Nat) :
    q.IsStatusSlot i ↔ p.IsStatusSlot i :=
  isStatusSlot_iff_of_skeleton h.skeleton i

theorem isStatusSlotOf_iff {p q : Page} (h : p.SameLayout q) (ids : List String) (i : Nat) :
    q.IsStatusSlotOf ids i ↔ p.IsStatusSlotOf ids i :=
  isStatusSlotOf_iff_of_skeleton h.skeleton ids i

end SameLayout

/-! ## Rewriting texts and status classes, and reloading -/

/-- `q` is `p` with texts rewritten, and status classes rewritten on the status elements of
the cards of `ids` only, reloaded `n` more times. -/
structure Redrawn (p q : Page) (ids : List String) (n : Nat) : Prop where
  layout : p.SameLayout q
  synced : ∀ i, (q.element? i).map Element.classes ≠ (p.element? i).map Element.classes →
    p.IsStatusSlotOf ids i
  reloads : q.reloads = p.reloads + n

namespace Redrawn

variable {p q r : Page} {ids ids' : List String} {m n : Nat}

theorem refl (p : Page) : p.Redrawn p [] 0 := ⟨SameLayout.refl p, fun _ h => absurd rfl h, rfl⟩

theorem mono (h : p.Redrawn q ids n) (hsub : ids ⊆ ids') : p.Redrawn q ids' n :=
  ⟨h.layout, fun i hne => (h.synced i hne).mono hsub, h.reloads⟩

theorem trans (hpq : p.Redrawn q ids m) (hqr : q.Redrawn r ids' n) :
    p.Redrawn r (ids ++ ids') (m + n) := by
  refine ⟨hpq.layout.trans hqr.layout, fun i hne => ?_, ?_⟩
  · by_cases hq : (q.element? i).map Element.classes = (p.element? i).map Element.classes
    · have hslot : q.IsStatusSlotOf ids' i := hqr.synced i (by rwa [hq])
      exact ((hpq.layout.isStatusSlotOf_iff ids' i).mp hslot).mono
        (List.subset_append_right ids ids')
    · exact (hpq.synced i hq).mono (List.subset_append_left ids ids')
  · rw [hqr.reloads, hpq.reloads, Nat.add_assoc]

/-- Writes that sync nothing add no ids. -/
theorem trans_nil (hpq : p.Redrawn q ids m) (hqr : q.Redrawn r [] n) :
    p.Redrawn r ids (m + n) := by
  simpa only [List.append_nil] using hpq.trans hqr

end Redrawn

/-! ## The writes of the panel keep the layout -/

theorem node?_modifyElement (p : Page) (i : Nat) (f : Element → Element) (j : Nat) :
    (p.modifyElement i f).node? j =
      if i = j then (p.node? j).map (fun n => { n with element := f n.element })
      else p.node? j := by
  simp [modifyElement, modifyNode, node?, Array.getElem?_modify]

theorem skeleton_modifyElement (p : Page) (i : Nat) (f : Element → Element)
    (hframe : ∀ e, (f e).frame = e.frame) (j : Nat) :
    ((p.modifyElement i f).node? j).map Node.skeleton = (p.node? j).map Node.skeleton := by
  rw [node?_modifyElement]
  split
  · cases p.node? j with
    | none => rfl
    | some n => simp [Node.skeleton, hframe]
  · rfl

/-- Changing one element makes a class list differ only on that element, and only when the
change changes its classes. -/
theorem classes_changed_of_modifyElement (p : Page) (i : Nat) (f : Element → Element) {j : Nat}
    (hne : ((p.modifyElement i f).element? j).map Element.classes ≠
      (p.element? j).map Element.classes) :
    i = j ∧ ∃ e, p.element? i = some e ∧ (f e).classes ≠ e.classes := by
  have hj : i = j := by
    by_contra hij
    apply hne
    simp [element?, node?_modifyElement, hij]
  subst hj
  refine ⟨rfl, ?_⟩
  cases he : p.element? i with
  | none =>
      simp [element?, node?_modifyElement] at hne he
      simp_all
  | some e =>
      refine ⟨e, rfl, fun hsame => hne ?_⟩
      simp only [element?, node?_modifyElement, Option.map_map] at he ⊢
      cases hn : p.node? i with
      | none => simp [hn] at he
      | some n =>
          simp only [hn, Option.map_some, Option.some.injEq] at he ⊢
          simp [Function.comp_def, he, hsame]

/-- Changing one element redraws the page when the change keeps its frame, and changes its
classes only on a status element of a card of `ids`. -/
theorem redrawn_modifyElement (p : Page) (i : Nat) (f : Element → Element) {ids : List String}
    (hframe : ∀ e, (f e).frame = e.frame)
    (hclasses : (∃ e, p.element? i = some e ∧ (f e).classes ≠ e.classes) →
      p.IsStatusSlotOf ids i) :
    p.Redrawn (p.modifyElement i f) ids 0 := by
  have hsynced : ∀ j, ((p.modifyElement i f).element? j).map Element.classes ≠
      (p.element? j).map Element.classes → p.IsStatusSlotOf ids j := by
    intro j hne
    obtain ⟨rfl, hchanged⟩ := classes_changed_of_modifyElement p i f hne
    exact hclasses hchanged
  exact ⟨⟨skeleton_modifyElement p i f hframe, fun j hne => (hsynced j hne).isStatusSlot⟩,
    hsynced, rfl⟩

theorem redrawn_setText (p : Page) (i : Nat) (text : String) :
    p.Redrawn (p.setText i text) [] 0 :=
  redrawn_modifyElement p i _ (fun _ => rfl) fun ⟨_, _, hne⟩ => absurd rfl hne

theorem redrawn_setClass (p : Page) {i : Nat} {c : String} {ids : List String}
    (hc : c ∈ statusClasses) (hslot : p.IsStatusSlotOf ids i) (enabled : Bool) :
    p.Redrawn (p.setClass i c enabled) ids 0 :=
  redrawn_modifyElement p i _ (fun e => Element.frame_setClass hc e enabled) fun _ => hslot

theorem redrawn_reload (p : Page) : p.Redrawn p.reload [] 1 :=
  ⟨⟨fun _ => rfl, fun _ h => absurd rfl h⟩, fun _ h => absurd rfl h, rfl⟩

/-! ## Device sync in two writes -/

/-- The card a snapshot is written into: the first with the snapshot's id as `deviceId`. -/
def cardOf? (p : Page) (d : DeviceSnapshot) : Option Nat :=
  d.id.bind (p.elementByData? "deviceId")

/-- The status element of a card after a sync: its label and its two status classes. -/
def writeStatus (p : Page) (card : Nat) (d : DeviceSnapshot) : Page :=
  match p.findDescendant card ["device-status"] with
  | some status =>
    ((p.setText status d.statusLabel).setClass status "status-on" d.isOn).setClass status
      "status-off" (!d.isOn)
  | none => p

/-- The power value of a card after a sync, for a snapshot that has a power. -/
def writePower (p : Page) (card : Nat) (d : DeviceSnapshot) : Page :=
  match p.findDescendant card ["power-indicator", "value"], d.powerLabel? with
  | some value, some label => p.setText value label
  | _, _ => p

theorem syncDevice_fst (p : Page) (d : DeviceSnapshot) :
    (p.syncDevice d).1 = match p.cardOf? d with
      | some card => (p.writeStatus card d).writePower card d
      | none => p := by
  unfold syncDevice cardOf?
  cases hid : d.id with
  | none => rfl
  | some id =>
      simp only [Option.bind_some]
      cases p.elementByData? "deviceId" id <;> rfl

/-! ## The page writes of the panel -/

theorem redrawn_writeStatus (p : Page) {id : String} {card : Nat}
    (hcard : p.elementByData? "deviceId" id = some card) (d : DeviceSnapshot) :
    p.Redrawn (p.writeStatus card d) [id] 0 := by
  unfold writeStatus
  split
  · rename_i status hstatus
    have hslot : p.IsStatusSlotOf [id] status :=
      ⟨id, List.mem_singleton_self id, card, hcard, hstatus⟩
    have htext := redrawn_setText p status d.statusLabel
    have hon := redrawn_setClass _ (c := "status-on") (by simp [statusClasses])
      ((htext.layout.isStatusSlotOf_iff [id] status).mpr hslot) d.isOn
    have hoff := redrawn_setClass _ (c := "status-off") (by simp [statusClasses])
      (((htext.trans hon).layout.isStatusSlotOf_iff [id] status).mpr hslot) (!d.isOn)
    exact ((htext.trans hon).trans hoff).mono (by simp)
  · exact (Redrawn.refl p).mono (List.nil_subset _)

theorem redrawn_writePower (p : Page) (card : Nat) (d : DeviceSnapshot) :
    p.Redrawn (p.writePower card d) [] 0 := by
  unfold writePower
  split
  · exact redrawn_setText p _ _
  · exact Redrawn.refl p

theorem redrawn_syncDevice (p : Page) (d : DeviceSnapshot) :
    p.Redrawn (p.syncDevice d).1 d.id.toList 0 := by
  rw [syncDevice_fst]
  cases hcard : p.cardOf? d with
  | none => exact (Redrawn.refl p).mono (List.nil_subset _)
  | some card =>
      obtain ⟨id, hid, hfound⟩ := Option.bind_eq_some_iff.mp hcard
      rw [hid]
      exact (redrawn_writeStatus p hfound d).trans_nil (redrawn_writePower _ card d)

theorem redrawn_syncAll (p : Page) (devices : List DeviceSnapshot) :
    p.Redrawn (p.syncAll devices) (devices.filterMap (·.id)) 0 := by
  induction devices generalizing p with
  | nil => exact Redrawn.refl p
  | cons d devices ih =>
      have hids : d.id.toList ++ devices.filterMap (·.id) = (d :: devices).filterMap (·.id) := by
        cases hd : d.id <;> simp [hd]
      rw [← hids]
      exact (redrawn_syncDevice p d).trans (ih _)

theorem redrawn_showDevices (p : Page) (counterId : String) (devices : List DeviceSnapshot) :
    p.Redrawn (p.showDevices counterId devices) (devices.filterMap (·.id)) 0 := by
  unfold showDevices
  split
  · exact (redrawn_setText p _ _).trans (redrawn_syncAll _ devices)
  · exact redrawn_syncAll p devices

theorem redrawn_showMode (p : Page) (headerId : String) (result : Json) :
    p.Redrawn (p.showMode headerId result) [] 0 := by
  unfold showMode
  split
  · exact redrawn_setText p _ _
  · exact Redrawn.refl p

theorem redrawn_showResult (p : Page) (pattern : String) (e : TraceEntry) :
    p.Redrawn (p.showResult pattern e) [] 0 := by
  unfold showResult writeResultPanel
  split
  · exact Redrawn.refl p
  · exact redrawn_setText p _ _

theorem redrawn_append (s : Sink) (page : Page) (e : TraceEntry) :
    page.Redrawn (s.append page e).2 [] 0 := by
  cases s with
  | pageLog id =>
      simp only [Sink.append]
      split
      · exact redrawn_setText page _ _
      · exact Redrawn.refl page
  | memory entries => exact Redrawn.refl page
  | log => exact Redrawn.refl page

theorem redrawn_deliverPage (sinks : List Sink) (page : Page) (e : TraceEntry) :
    page.Redrawn (Presenter.deliverPage sinks page e) [] 0 := by
  induction sinks generalizing page with
  | nil => exact Redrawn.refl page
  | cons s sinks ih => exact (redrawn_append s page e).trans (ih _)

end Page

end HomePanel
