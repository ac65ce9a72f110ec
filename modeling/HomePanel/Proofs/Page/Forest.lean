import HomePanel.Proofs.Page.Text

/-!
# Pages stay linked; appends decide the forest

A page is changed by edits: creating an element or a form field, writing one of an
element's fields, and appending an element below another (`Edit`). Every edit keeps the page
linked: a node lists as its children exactly the nodes that name it as their parent, each
once, and each class list holds each class once (`Linked.apply`), so no node is listed twice
in all the children lists together (`Linked.nodup_flatMap_children`).

Whether following parents from every node ends at a root (`Forest`) is up to the appends
alone. An append takes the child out of its old parent's list, but never checks that the
child is not the new parent itself or one of its ancestors. It keeps every node rooted
exactly when it is not such a move (`rooted_append_iff`, `Forest.apply_iff`), so a run of
safe edits ends in a forest (`Forest.run`), while moving an element below its own child
leaves the two each other's parent (`moving_below_own_child_loses_root`).

The walks of a page are bounded by its number of nodes, so they end on every page. On a
forest the bound never cuts the walk up short: it visits exactly the node and its ancestors
(`Forest.mem_selfAndAncestors`). On a cycle only the bound ends it.
-/

namespace HomePanel

namespace Element

theorem nodup_classes_setClass {e : Element} (h : e.classes.Nodup) (c : String)
    (enabled : Bool) : (e.setClass c enabled).classes.Nodup := by
  unfold setClass
  cases enabled with
  | false => exact h.filter _
  | true =>
      by_cases hhas : e.hasClass c
      · simpa [hhas] using h
      · have hc : c ∉ e.classes := by simpa [hasClass] using hhas
        simp only [hhas, Bool.false_eq_true, if_false, if_true, List.nodup_append]
        refine ⟨h, List.nodup_singleton c, ?_⟩
        rintro a ha b hb rfl
        exact hc (List.mem_singleton.mp hb ▸ ha)

end Element

namespace Page

/-! ## Edits -/

/-- What can be done to the elements of a page: create one (a plain element or a form
field), change its fields, or append it below another. -/
inductive Edit where
  | create (tag : String)
  | field (name value : String)
  | setId (i : Nat) (id : String)
  | setClass (i : Nat) (c : String) (enabled : Bool)
  | setData (i : Nat) (key value : String)
  | setText (i : Nat) (text : String)
  | setValue (i : Nat) (value : String)
  | append (parent child : Nat)
  deriving DecidableEq, Repr

/-- The page after an edit. -/
def Edit.apply : Edit → Page → Page
  | .create tag, p => (p.create (Element.new tag)).1
  | .field name value, p => (p.create (Element.field name value)).1
  | .setId i id, p => p.modifyElement i fun e => { e with id := some id }
  | .setClass i c enabled, p => p.setClass i c enabled
  | .setData i key value, p => p.modifyElement i (·.setData key value)
  | .setText i text, p => p.setText i text
  | .setValue i value, p => p.setValue i value
  | .append parent child, p => p.append parent child

/-- The page after a sequence of edits, in order. -/
def run (p : Page) (edits : List Edit) : Page := edits.foldl (fun p e => e.apply p) p

/-! ## Links -/

theorem node?_modifyNode (p : Page) (i : Nat) (f : Node → Node) (j : Nat) :
    (p.modifyNode i f).node? j = if i = j then (p.node? j).map f else p.node? j := by
  simp [modifyNode, node?, Array.getElem?_modify]

theorem node?_create (p : Page) (e : Element) (j : Nat) :
    (p.create e).1.node? j = if j = p.nodes.size then some { element := e } else p.node? j := by
  simp [create, node?, Array.getElem?_push]

theorem node?_eq_none {p : Page} {j : Nat} (hj : p.nodes.size ≤ j) : p.node? j = none := by
  simp [node?, hj]

theorem parent?_create (p : Page) (e : Element) (j : Nat) :
    (p.create e).1.parent? j = p.parent? j := by
  simp only [parent?, node?_create]
  split
  · rename_i hj
    simp [node?_eq_none (Nat.le_of_eq hj.symm)]
  · rfl

theorem children_create (p : Page) (e : Element) (j : Nat) :
    (p.create e).1.children j = p.children j := by
  simp only [children, node?_create]
  split
  · rename_i hj
    simp [node?_eq_none (Nat.le_of_eq hj.symm)]
  · rfl

theorem parent?_modifyElement (p : Page) (i : Nat) (f : Element → Element) (j : Nat) :
    (p.modifyElement i f).parent? j = p.parent? j := by
  simp only [parent?, node?_modifyElement]
  split <;> cases p.node? j <;> rfl

theorem children_modifyElement (p : Page) (i : Nat) (f : Element → Element) (j : Nat) :
    (p.modifyElement i f).children j = p.children j := by
  simp only [children, node?_modifyElement]
  split <;> cases p.node? j <;> rfl

theorem parent?_modifyNode_of (p : Page) (i : Nat) (g : Node → Node)
    (hg : ∀ n, (g n).parent = n.parent) (j : Nat) :
    (p.modifyNode i g).parent? j = p.parent? j := by
  simp only [parent?, node?_modifyNode]
  split
  · cases p.node? j <;> simp [hg]
  · rfl

theorem children_modifyNode_of (p : Page) (i : Nat) (g : Node → Node)
    (hg : ∀ n, (g n).children = n.children) (j : Nat) :
    (p.modifyNode i g).children j = p.children j := by
  simp only [children, node?_modifyNode]
  split
  · cases p.node? j <;> simp [hg]
  · rfl

theorem parent?_modifyNode_children (p : Page) (i : Nat) (f : List Nat → List Nat) (j : Nat) :
    (p.modifyNode i fun n => { n with children := f n.children }).parent? j = p.parent? j :=
  p.parent?_modifyNode_of i (fun n => { n with children := f n.children }) (fun _ => rfl) j

theorem children_modifyNode_parent (p : Page) (i : Nat) (x : Option Nat) (j : Nat) :
    (p.modifyNode i fun n => { n with parent := x }).children j = p.children j :=
  p.children_modifyNode_of i (fun n => { n with parent := x }) (fun _ => rfl) j

-- a node that is not there has no children before the change, nor after when `f []` is `[]`
theorem children_modifyNode_children (p : Page) (i : Nat) (f : List Nat → List Nat)
    (hf : f [] = [] ∨ i < p.nodes.size) (j : Nat) :
    (p.modifyNode i fun n => { n with children := f n.children }).children j =
      if i = j then f (p.children j) else p.children j := by
  simp only [children, node?_modifyNode]
  split
  · rename_i hij
    subst hij
    cases hn : p.node? i with
    | some n => rfl
    | none =>
        have hi : p.nodes.size ≤ i := by simpa [node?] using hn
        rcases hf with hf | hf
        · simpa using hf.symm
        · omega
  · rfl

theorem parent?_modifyNode_parent (p : Page) (i : Nat) (x : Option Nat) (hi : i < p.nodes.size)
    (j : Nat) :
    (p.modifyNode i fun n => { n with parent := x }).parent? j =
      if i = j then x else p.parent? j := by
  simp only [parent?, node?_modifyNode]
  split
  · rename_i hij
    subst hij
    simp [node?, hi]
  · rfl

theorem size_modifyNode (p : Page) (i : Nat) (f : Node → Node) :
    (p.modifyNode i f).nodes.size = p.nodes.size := by
  simp [modifyNode]

section Append

variable {p : Page} {q c : Nat} (hq : q < p.nodes.size) (hc : c < p.nodes.size)
include hq hc

theorem parent?_append (j : Nat) :
    (p.append q c).parent? j = if j = c then some q else p.parent? j := by
  cases ho : p.parent? c with
  | none =>
      simp only [append, if_pos (And.intro hq hc), ho]
      rw [parent?_modifyNode_children _ q (· ++ [c]), parent?_modifyNode_parent p c _ hc]
      simp only [eq_comm]
  | some o =>
      simp only [append, if_pos (And.intro hq hc), ho]
      rw [parent?_modifyNode_children _ q (· ++ [c]),
        parent?_modifyNode_parent _ c _ (by rw [size_modifyNode]; exact hc),
        parent?_modifyNode_children _ o (List.filter (· != c))]
      simp only [eq_comm]

theorem parent?_append_self : (p.append q c).parent? c = some q := by
  rw [parent?_append hq hc, if_pos rfl]

theorem parent?_append_of_ne {j : Nat} (hj : j ≠ c) : (p.append q c).parent? j = p.parent? j := by
  rw [parent?_append hq hc, if_neg hj]

/-- Appending takes the child out of its old parent's children and puts it last among the
new parent's. -/
theorem children_append (j : Nat) :
    (p.append q c).children j =
      (if p.parent? c = some j then (p.children j).filter (· != c) else p.children j) ++
        (if j = q then [c] else []) := by
  cases ho : p.parent? c with
  | none =>
      simp only [append, if_pos (And.intro hq hc), ho]
      rw [children_modifyNode_children _ q (· ++ [c]) (.inr (by rw [size_modifyNode]; exact hq)),
        children_modifyNode_parent]
      rcases eq_or_ne j q with rfl | hjq
      · simp
      · simp [hjq, Ne.symm hjq]
  | some o =>
      simp only [append, if_pos (And.intro hq hc), ho]
      rw [children_modifyNode_children _ q (· ++ [c])
          (.inr (by rw [size_modifyNode, size_modifyNode]; exact hq)),
        children_modifyNode_parent,
        children_modifyNode_children _ o (List.filter (· != c)) (.inl rfl)]
      rcases eq_or_ne j o with rfl | hjo
      · rcases eq_or_ne j q with rfl | hjq
        · simp
        · simp [hjq, Ne.symm hjq]
      · rcases eq_or_ne j q with rfl | hjq
        · simp [Ne.symm hjo]
        · simp [hjq, Ne.symm hjq, Ne.symm hjo]

end Append

theorem element?_append (p : Page) (q c j : Nat) : (p.append q c).element? j = p.element? j := by
  unfold append
  split
  · cases p.parent? c <;> simp only [element?, node?_modifyNode] <;> split_ifs <;>
      simp [Option.map_map, Function.comp_def]
  · rfl

theorem element?_create (p : Page) (e : Element) (j : Nat) :
    (p.create e).1.element? j = if j = p.nodes.size then some e else p.element? j := by
  simp only [element?, node?_create]
  split <;> rfl

/-! ## Linked pages -/

/-- The links of a page agree: a node lists as its children exactly the nodes that name it
as their parent, each once, and every class list holds each class once. -/
structure Linked (p : Page) : Prop where
  parent_of_mem : ∀ {i c}, c ∈ p.children i → p.parent? c = some i
  mem_of_parent : ∀ {i c}, p.parent? c = some i → c ∈ p.children i
  nodup_children : ∀ i, (p.children i).Nodup
  nodup_classes : ∀ {i e}, p.element? i = some e → e.classes.Nodup

theorem parent?_new (i : Nat) : Page.new.parent? i = none := by
  cases i <;> simp [parent?, node?, Page.new]

theorem children_new (i : Nat) : Page.new.children i = [] := by
  cases i <;> simp [children, node?, Page.new]

theorem linked_new : Page.new.Linked where
  parent_of_mem := by simp [children_new]
  mem_of_parent := by simp [parent?_new]
  nodup_children := by simp [children_new]
  nodup_classes := by
    intro i e he
    cases i <;> simp [element?, node?, Page.new] at he
    simp [← he, Element.new]

namespace Linked

variable {p : Page} (h : p.Linked)
include h

theorem create {e : Element} (he : e.classes.Nodup) : (p.create e).1.Linked where
  parent_of_mem := by
    simp only [children_create, parent?_create]
    exact h.parent_of_mem
  mem_of_parent := by
    simp only [children_create, parent?_create]
    exact h.mem_of_parent
  nodup_children := by
    simp only [children_create]
    exact h.nodup_children
  nodup_classes := by
    intro i e' he'
    rw [element?_create] at he'
    split at he'
    · cases he'
      exact he
    · exact h.nodup_classes he'

theorem modifyElement (i : Nat) (f : Element → Element)
    (hf : ∀ e, e.classes.Nodup → (f e).classes.Nodup) : (p.modifyElement i f).Linked where
  parent_of_mem := by
    simp only [children_modifyElement, parent?_modifyElement]
    exact h.parent_of_mem
  mem_of_parent := by
    simp only [children_modifyElement, parent?_modifyElement]
    exact h.mem_of_parent
  nodup_children := by
    simp only [children_modifyElement]
    exact h.nodup_children
  nodup_classes := by
    intro j e he
    rw [element?_modifyElement] at he
    split at he
    · obtain ⟨e₀, he₀, rfl⟩ := Option.map_eq_some_iff.mp he
      exact hf e₀ (h.nodup_classes he₀)
    · exact h.nodup_classes he

section Append

variable {q c : Nat} (hq : q < p.nodes.size) (hc : c < p.nodes.size)
include hq hc

/-- On a linked page the child is in its old parent's list only, so appending takes it out
of every list and puts it last in the new parent's. -/
theorem children_append (j : Nat) :
    (p.append q c).children j = (p.children j).filter (· != c) ++ if j = q then [c] else [] := by
  rw [Page.children_append hq hc]
  congr 1
  split
  · rfl
  · rename_i hcj
    refine (List.filter_eq_self.mpr fun x hx => ?_).symm
    have hxc : x ≠ c := by
      rintro rfl
      exact hcj (h.parent_of_mem hx)
    simpa using hxc

theorem mem_children_append {j x : Nat} :
    x ∈ (p.append q c).children j ↔ x ∈ p.children j ∧ x ≠ c ∨ x = c ∧ j = q := by
  rw [h.children_append hq hc, List.mem_append, List.mem_filter]
  split <;> simp [*]

theorem append_of_lt : (p.append q c).Linked where
  parent_of_mem := by
    intro j x hx
    rw [parent?_append hq hc]
    rcases (h.mem_children_append hq hc).mp hx with ⟨hx, hxc⟩ | ⟨rfl, rfl⟩
    · rw [if_neg hxc]
      exact h.parent_of_mem hx
    · simp
  mem_of_parent := by
    intro j x hx
    rw [parent?_append hq hc] at hx
    refine (h.mem_children_append hq hc).mpr ?_
    split at hx
    · exact .inr ⟨‹_›, (Option.some.inj hx).symm⟩
    · exact .inl ⟨h.mem_of_parent hx, ‹_›⟩
  nodup_children := by
    intro j
    rw [h.children_append hq hc, List.nodup_append]
    refine ⟨(h.nodup_children j).filter _, by split <;> simp, ?_⟩
    intro a ha b hb
    have hac : a ≠ c := by simpa using (List.mem_filter.mp ha).2
    split at hb
    · rw [List.mem_singleton.mp hb]
      exact hac
    · simp at hb
  nodup_classes := by
    intro j e he
    rw [element?_append] at he
    exact h.nodup_classes he

end Append

/-- Appending keeps the links; indices that name no element change nothing. -/
theorem append (q c : Nat) : (p.append q c).Linked := by
  by_cases hqc : q < p.nodes.size ∧ c < p.nodes.size
  · exact h.append_of_lt hqc.1 hqc.2
  · rw [Page.append, if_neg hqc]
    exact h

theorem apply (e : Edit) : (e.apply p).Linked := by
  have keep : ∀ (i : Nat) (f : Element → Element), (∀ e, (f e).classes = e.classes) →
      (p.modifyElement i f).Linked := fun i f hf =>
    h.modifyElement i f fun e he => (hf e).symm ▸ he
  cases e with
  | create tag => exact h.create (by simp [Element.new])
  | field name value => exact h.create (by simp [Element.field])
  | setId i id => exact keep i (fun e => { e with id := some id }) fun _ => rfl
  | setClass i c enabled =>
      exact h.modifyElement i _ fun _ he => Element.nodup_classes_setClass he c enabled
  | setData i key value => exact keep i (·.setData key value) fun _ => rfl
  | setText i text => exact keep i (fun e => { e with text := text }) fun _ => rfl
  | setValue i value => exact keep i (fun e => { e with value := some value }) fun _ => rfl
  | append q c => exact h.append q c

/-- No node is listed twice, in one children list or in two. -/
theorem nodup_flatMap_children : ((List.range p.nodes.size).flatMap p.children).Nodup := by
  refine List.nodup_flatMap.mpr ⟨fun i _ => h.nodup_children i, List.nodup_range.imp ?_⟩
  intro i j hij x hi hj
  exact hij (Option.some.inj ((h.parent_of_mem hi).symm.trans (h.parent_of_mem hj)))

end Linked

theorem Linked.run {p : Page} (h : p.Linked) (edits : List Edit) : (p.run edits).Linked := by
  induction edits generalizing p with
  | nil => exact h
  | cons e edits ih => exact ih (h.apply e)

/-! ## Roots -/

/-- Following parents from a node ends at a node without one. -/
inductive Rooted (p : Page) : Nat → Prop
  | root {i : Nat} : p.parent? i = none → Rooted p i
  | up {i j : Nat} : p.parent? i = some j → Rooted p j → Rooted p i

/-- `a` is `i` or one of its ancestors: following parents from `i` comes to `a`. -/
inductive Above (p : Page) (a : Nat) : Nat → Prop
  | refl : Above p a a
  | up {i j : Nat} : p.parent? i = some j → Above p a j → Above p a i

/-- A forest: the links agree and every node leads up to a root. -/
structure Forest (p : Page) : Prop extends p.Linked where
  rooted : ∀ i, p.Rooted i

theorem Rooted.of_parent?_eq {p p' : Page} (hp : ∀ j, p'.parent? j = p.parent? j) {i : Nat}
    (hi : p.Rooted i) : p'.Rooted i := by
  induction hi with
  | root hnone => exact .root ((hp _).trans hnone)
  | up hj _ ih => exact .up ((hp _).trans hj) ih

/-- One step of `Above`: the node itself, or above its parent. -/
theorem above_iff {p : Page} {a i : Nat} :
    p.Above a i ↔ a = i ∨ ∃ j, p.parent? i = some j ∧ p.Above a j := by
  constructor
  · intro h
    cases h with
    | refl => exact .inl rfl
    | up hj haj => exact .inr ⟨_, hj, haj⟩
  · rintro (rfl | ⟨j, hj, haj⟩)
    · exact .refl
    · exact .up hj haj

theorem ne_of_not_above {p : Page} {a i : Nat} (h : ¬ p.Above a i) : i ≠ a := by
  rintro rfl
  exact h .refl

/-- A node whose parent lies below it is on a cycle: no root is reached from it. -/
theorem not_rooted_of_above_parent {p : Page} {c q : Nat} (hc : p.parent? c = some q)
    (hq : p.Above c q) : ¬ p.Rooted c := by
  -- from any node whose chain passes through `c`, the chain goes round the cycle forever
  suffices ∀ x, p.Rooted x → p.Above c x → False from fun h => this c h .refl
  intro x hx
  induction hx with
  | root hnone =>
      intro hcx
      cases hcx with
      | refl => simp [hc] at hnone
      | up hj _ => simp [hj] at hnone
  | up hj _ ih =>
      intro hcx
      cases hcx with
      | refl =>
          rw [hc] at hj
          cases hj
          exact ih hq
      | up hj' hcj =>
          rw [hj] at hj'
          cases hj'
          exact ih hcj

section Append

variable {p : Page} {q c : Nat} (hq : q < p.nodes.size) (hc : c < p.nodes.size)
include hq hc

/-- A chain of parents that does not pass through the child is still there after the
append. -/
theorem Rooted.append_of_not_above {i : Nat} (hi : p.Rooted i) (hci : ¬ p.Above c i) :
    (p.append q c).Rooted i := by
  induction hi with
  | @root x hnone => exact .root ((parent?_append_of_ne hq hc (ne_of_not_above hci)).trans hnone)
  | @up x j hj _ ih =>
      exact .up ((parent?_append_of_ne hq hc (ne_of_not_above hci)).trans hj)
        (ih fun hcj => hci (.up hj hcj))

theorem Above.append {i : Nat} (hi : p.Above c i) : (p.append q c).Above c i := by
  induction hi with
  | refl => exact .refl
  | @up x j hj _ ih =>
      by_cases hxc : x = c
      · subst hxc
        exact .refl
      · exact .up ((parent?_append_of_ne hq hc hxc).trans hj) ih

theorem rooted_append (hp : ∀ i, p.Rooted i) (hcq : ¬ p.Above c q) (i : Nat) :
    (p.append q c).Rooted i := by
  have hcroot : (p.append q c).Rooted c :=
    .up (parent?_append_self hq hc) ((hp q).append_of_not_above hq hc hcq)
  by_cases hci : p.Above c i
  · induction hci with
    | refl => exact hcroot
    | @up x j hj _ ih =>
        by_cases hxc : x = c
        · subst hxc
          exact hcroot
        · exact .up ((parent?_append_of_ne hq hc hxc).trans hj) ih
  · exact (hp i).append_of_not_above hq hc hci

/-- Appending a child below itself or below one of its descendants puts it on a cycle. -/
theorem not_rooted_append (hcq : p.Above c q) : ¬ (p.append q c).Rooted c :=
  not_rooted_of_above_parent (parent?_append_self hq hc) (hcq.append hq hc)

theorem rooted_append_iff (hp : ∀ i, p.Rooted i) :
    (∀ i, (p.append q c).Rooted i) ↔ ¬ p.Above c q :=
  ⟨fun h hcq => not_rooted_append hq hc hcq (h c), rooted_append hq hc hp⟩

end Append

/-! ## Walking up a forest -/

theorem Linked.lt_of_parent? {p : Page} (h : p.Linked) {c j : Nat} (hc : p.parent? c = some j) :
    j < p.nodes.size := by
  have hmem := h.mem_of_parent hc
  by_contra hj
  simp [children, node?_eq_none (Nat.le_of_not_lt hj)] at hmem

/-- From a rooted node of a linked page the parents run through distinct nodes to a root:
the walk up with more fuel than that chain is long returns the node and the chain, and the
chain holds exactly the node's ancestors. -/
theorem Rooted.ancestorsUpTo {p : Page} (h : p.Linked) {i : Nat} (hi : p.Rooted i) :
    ∃ l : List Nat, (i :: l).Nodup ∧ (∀ x ∈ l, x < p.nodes.size) ∧
      (∀ fuel, l.length < fuel → p.ancestorsUpTo fuel i = i :: l) ∧
      ∀ a, p.Above a i ↔ a ∈ i :: l := by
  induction hi with
  | @root i hnone =>
      refine ⟨[], by simp, by simp, ?_, ?_⟩
      · intro fuel hfuel
        obtain ⟨fuel, rfl⟩ := Nat.exists_eq_add_of_lt hfuel
        simp [Page.ancestorsUpTo, hnone]
      · intro a
        rw [above_iff]
        simp [hnone]
  | @up i j hj hrj ih =>
      obtain ⟨l, hnd, hlt, hwalk, habove⟩ := ih
      have hil : i ∉ j :: l := fun hmem =>
        not_rooted_of_above_parent hj ((habove i).mpr hmem) (.up hj hrj)
      refine ⟨j :: l, List.nodup_cons.mpr ⟨hil, hnd⟩, ?_, ?_, ?_⟩
      · intro x hx
        rcases List.mem_cons.mp hx with rfl | hx
        · exact h.lt_of_parent? hj
        · exact hlt x hx
      · intro fuel hfuel
        obtain ⟨fuel, rfl⟩ : ∃ f, fuel = f + 1 := ⟨fuel - 1, by simp at hfuel; omega⟩
        simp only [Page.ancestorsUpTo, hj]
        rw [hwalk fuel (by simp at hfuel; omega)]
      · intro a
        rw [above_iff, List.mem_cons, ← habove]
        simp [hj]

/-- A list of distinct nodes of a page is no longer than the page. -/
theorem length_le_size_of_nodup {p : Page} {l : List Nat} (hnd : l.Nodup)
    (hlt : ∀ x ∈ l, x < p.nodes.size) : l.length ≤ p.nodes.size := by
  have hsub : l.Subperm (List.range p.nodes.size) :=
    hnd.subperm fun x hx => List.mem_range.mpr (hlt x hx)
  simpa using hsub.length_le

/-- On a forest the bounded walk up from a node is never cut short: it visits exactly the
node and its ancestors. -/
theorem Forest.mem_selfAndAncestors {p : Page} (h : p.Forest) {a i : Nat} :
    a ∈ p.selfAndAncestors i ↔ p.Above a i := by
  obtain ⟨l, hnd, hlt, hfuel, habove⟩ := (h.rooted i).ancestorsUpTo h.toLinked
  -- the chain holds distinct nodes of the page, so the fuel outlasts it
  have hlen := length_le_size_of_nodup (List.nodup_cons.mp hnd).2 hlt
  rw [selfAndAncestors, hfuel _ (by omega), habove]

theorem Forest.closestWithClass_eq_none_iff {p : Page} (h : p.Forest) (i : Nat) (c : String) :
    p.closestWithClass i c = none ↔
      ∀ a, p.Above a i → ((p.element? a).map (·.hasClass c)).getD false = false := by
  simp only [closestWithClass, List.find?_eq_none, h.mem_selfAndAncestors]
  simp

/-! ## Runs of edits -/

/-- An edit that cannot close a cycle: every edit but an append, and an append whose child
is neither its new parent nor one of that parent's ancestors. -/
def Edit.Safe (p : Page) : Edit → Prop
  | .append q c => q < p.nodes.size → c < p.nodes.size → ¬ p.Above c q
  | _ => True

/-- A run whose every edit is safe on the page it meets. -/
def SafeRun : Page → List Edit → Prop
  | _, [] => True
  | p, e :: edits => e.Safe p ∧ SafeRun (e.apply p) edits

theorem forest_new : Page.new.Forest where
  toLinked := linked_new
  rooted i := .root (parent?_new i)

namespace Forest

variable {p : Page} (h : p.Forest)
include h

theorem of_parent?_eq {p' : Page} (hl : p'.Linked) (hp : ∀ j, p'.parent? j = p.parent? j) :
    p'.Forest where
  toLinked := hl
  rooted i := (h.rooted i).of_parent?_eq hp

/-- One edit keeps a forest exactly when it is safe: only an append can close a cycle. -/
theorem apply_iff (e : Edit) : (e.apply p).Forest ↔ e.Safe p := by
  have hl := h.toLinked.apply e
  cases e with
  | create | field => exact iff_of_true (h.of_parent?_eq hl (parent?_create _ _)) trivial
  | setId | setClass | setData | setText | setValue =>
      exact iff_of_true (h.of_parent?_eq hl (parent?_modifyElement _ _ _)) trivial
  | append q c =>
      by_cases hqc : q < p.nodes.size ∧ c < p.nodes.size
      · obtain ⟨hq, hc⟩ := hqc
        have hroots := rooted_append_iff hq hc h.rooted
        simp only [Edit.Safe, hq, hc, forall_true_left]
        exact ⟨fun h' => hroots.mp h'.rooted, fun hcq => ⟨hl, hroots.mpr hcq⟩⟩
      · have hsame : (Edit.append q c).apply p = p := by
          simp only [Edit.apply, Page.append, if_neg hqc]
        rw [hsame]
        exact iff_of_true h fun hq hc => absurd ⟨hq, hc⟩ hqc

theorem run {edits : List Edit} (hs : SafeRun p edits) : (p.run edits).Forest := by
  induction edits generalizing p with
  | nil => exact h
  | cons e edits ih => exact ih ((h.apply_iff e).mpr hs.1) hs.2

end Forest

/-- Every run of edits from a new page keeps the links: each node is listed once, and by its
parent, and each class list holds each class once. Only an append can break the forest,
and one breaks it exactly when it puts a node below itself or below one of its
descendants; a run without such an append ends in a forest. -/
theorem edits_keep_links_safe_edits_keep_roots (edits : List Edit) :
    (Page.new.run edits).Linked ∧
      ((List.range (Page.new.run edits).nodes.size).flatMap (Page.new.run edits).children).Nodup ∧
      (SafeRun Page.new edits → (Page.new.run edits).Forest) ∧
      ((Page.new.run edits).Forest →
        ∀ e : Edit, (e.apply (Page.new.run edits)).Forest ↔ e.Safe (Page.new.run edits)) :=
  have hl := linked_new.run edits
  ⟨hl, hl.nodup_flatMap_children, forest_new.run, fun h => h.apply_iff⟩

/-- Moving an element below its own child: each of the two is the other's parent, and
following parents from either never ends. -/
theorem moving_below_own_child_loses_root :
    ¬ (Page.new.run
        [.create "div", .create "div", .append 0 1, .append 1 2, .append 2 1]).Rooted 1 :=
  @not_rooted_of_above_parent _ 1 2 (by decide) (.up (by decide) .refl)

end Page

end HomePanel
