import Mathlib
import HomePanel.Proofs.Page.Forest

/-!
# Walking a forest up and down

On a forest the walk up from an element (`selfAndAncestors`) visits the element and then its
ancestors, nearest first, each once; the walk needs no more fuel than the page has nodes, and
one step of it goes from an element to its parent (`Forest.selfAndAncestors_of_parent`). So a
search along the walk finds the nearest element it accepts: the one every other accepted
element lies above (`Page.Nearest`, `Forest.findSome?_selfAndAncestors`).

The walk down (`descendants`) lists in pre-order exactly the elements below the start
(`Forest.mem_descendants_iff`), each once (`Forest.nodup_descendants`), and the elements below
any one of them come right after it as a block (`Forest.descendants_block`). The fuel of the
walk down does not cut it short: an element `k` levels from the top of its tree has fewer
than `size - k` levels below it, and more fuel than that changes nothing
(`Forest.descendantsUpTo_stable`).
-/

namespace HomePanel

namespace Page

variable {p : Page}

/-! ## The walk up a forest -/

theorem Above.trans {a b c : Nat} (hab : p.Above a b) (hbc : p.Above b c) : p.Above a c := by
  induction hbc with
  | refl => exact hab
  | up hj _ ih => exact .up hj ih

theorem Above.eq_of_root {a t : Nat} (ha : p.Above a t) (ht : p.parent? t = none) : a = t := by
  cases ha with
  | refl => rfl
  | up hj _ => simp [ht] at hj

/-- Above an element other than itself, `a` lies above its parent. -/
theorem Above.of_parent {a t j : Nat} (ha : p.Above a t) (hj : p.parent? t = some j)
    (hat : a ≠ t) : p.Above a j := by
  cases ha with
  | refl => exact absurd rfl hat
  | up hj' haj =>
      rw [hj] at hj'
      cases hj'
      exact haj

/-- On a forest no two elements lie above each other. -/
theorem Forest.above_antisymm (h : p.Forest) {a b : Nat} (hab : p.Above a b)
    (hba : p.Above b a) : a = b := by
  cases hab with
  | refl => rfl
  | up hj haj => exact absurd (h.rooted _) (not_rooted_of_above_parent hj (hba.trans haj))

theorem selfAndAncestors_of_root {i : Nat} (hi : p.parent? i = none) :
    p.selfAndAncestors i = [i] := by
  simp [selfAndAncestors, ancestorsUpTo, hi]

/-- More fuel than the page has nodes gives the same walk up a forest. -/
theorem Forest.ancestorsUpTo_eq (h : p.Forest) (i : Nat) {fuel : Nat}
    (hfuel : p.nodes.size < fuel) : p.ancestorsUpTo fuel i = p.selfAndAncestors i := by
  obtain ⟨l, hnd, hlt, hwalk, -⟩ := (h.rooted i).ancestorsUpTo h.toLinked
  have hlen := length_le_size_of_nodup (List.nodup_cons.mp hnd).2 hlt
  rw [selfAndAncestors, hwalk _ (by omega), hwalk _ (by omega)]

theorem Forest.selfAndAncestors_of_parent (h : p.Forest) {i j : Nat}
    (hj : p.parent? i = some j) : p.selfAndAncestors i = i :: p.selfAndAncestors j := by
  rw [← h.ancestorsUpTo_eq i (show p.nodes.size < p.nodes.size + 2 by omega)]
  simp [ancestorsUpTo, hj, selfAndAncestors]

/-- `m` is the nearest of `t` and its ancestors with the property: every other one lies above
it. -/
def Nearest (p : Page) (P : Nat → Prop) (t m : Nat) : Prop :=
  p.Above m t ∧ P m ∧ ∀ a, p.Above a t → P a → p.Above a m

theorem Nearest.congr {P Q : Nat → Prop} (hPQ : ∀ a, P a ↔ Q a) {t m : Nat}
    (h : p.Nearest P t m) : p.Nearest Q t m :=
  ⟨h.1, (hPQ m).mp h.2.1, fun a ha hQ => h.2.2 a ha ((hPQ a).mpr hQ)⟩

/-- On a forest, of the elements above one that has the property, one is the nearest. -/
theorem Forest.exists_nearest (h : p.Forest) {P : Nat → Prop} {t a : Nat} (ha : p.Above a t)
    (hP : P a) : ∃ m, p.Nearest P t m := by
  induction h.rooted t with
  | @root t hnone =>
      have hat : a = t := ha.eq_of_root hnone
      subst hat
      exact ⟨a, .refl, hP, fun b hb _ => hb⟩
  | @up t j hj _ ih =>
      by_cases ht : P t
      · exact ⟨t, .refl, ht, fun b hb _ => hb⟩
      · -- the element itself lacks the property, so the nearest one is above its parent
        have hne : ∀ {b}, P b → b ≠ t := fun hPb hbt => ht (hbt ▸ hPb)
        obtain ⟨m, hmj, hPm, hnear⟩ := ih (ha.of_parent hj (hne hP))
        exact ⟨m, .up hj hmj, hPm, fun b hb hPb => hnear b (hb.of_parent hj (hne hPb)) hPb⟩

/-- On a forest a search up from `t` gives what it gives at the nearest element it accepts. -/
theorem Forest.findSome?_selfAndAncestors (h : p.Forest) {β : Type} {f : Nat → Option β}
    {t m : Nat} (hm : p.Nearest (fun a => (f a).isSome) t m) :
    (p.selfAndAncestors t).findSome? f = f m := by
  obtain ⟨hmt, hfm, hnear⟩ := hm
  induction h.rooted t with
  | @root t hnone =>
      have hm : m = t := hmt.eq_of_root hnone
      subst hm
      rw [selfAndAncestors_of_root hnone, List.findSome?_cons]
      cases f m <;> rfl
  | @up t j hj _ ih =>
      rw [h.selfAndAncestors_of_parent hj, List.findSome?_cons]
      cases hft : f t with
      | some b =>
          have hm : m = t := h.above_antisymm hmt (hnear t .refl (by simp [hft]))
          rw [hm, hft]
      | none =>
          have hmt' : m ≠ t := by
            rintro rfl
            simp [hft] at hfm
          exact ih (hmt.of_parent hj hmt') fun a haj hfa => hnear a (.up hj haj) hfa

theorem Forest.findSome?_selfAndAncestors_eq_none (h : p.Forest) {β : Type}
    {f : Nat → Option β} {t : Nat} :
    (p.selfAndAncestors t).findSome? f = none ↔ ∀ a, p.Above a t → f a = none := by
  simp only [List.findSome?_eq_none_iff, h.mem_selfAndAncestors]

/-! ## Classes along the walk -/

/-- The element at `a` carries the class `c`. -/
def HasClass (p : Page) (c : String) (a : Nat) : Prop :=
  ∃ e, p.element? a = some e ∧ e.hasClass c = true

theorem hasClassAt_iff (c : String) (a : Nat) :
    ((p.element? a).map (·.hasClass c)).getD false = true ↔ p.HasClass c a := by
  cases he : p.element? a <;> simp [HasClass, he]

theorem Forest.closestWithClass_of_nearest (h : p.Forest) {c : String} {t m : Nat}
    (hm : p.Nearest (p.HasClass c) t m) : p.closestWithClass t c = some m := by
  have hguard : p.Nearest (fun a =>
      (Option.guard (fun j => ((p.element? j).map (·.hasClass c)).getD false) a).isSome) t m :=
    hm.congr fun a => by
      rw [← hasClassAt_iff]
      simp [Option.guard]
  rw [closestWithClass, List.find?_eq_findSome?_guard, h.findSome?_selfAndAncestors hguard]
  simp [Option.guard, (hasClassAt_iff c m).mpr hm.2.1]

theorem Forest.closestWithClass_eq_none (h : p.Forest) {c : String} {t : Nat}
    (hnone : ∀ a, p.Above a t → ¬ p.HasClass c a) : p.closestWithClass t c = none := by
  rw [h.closestWithClass_eq_none_iff]
  intro a ha
  have hno := hnone a ha
  rw [← hasClassAt_iff] at hno
  simpa using hno

/-! ## The walk down a forest -/

/-- Two elements above one node lie one above the other: parents form a chain. -/
theorem Above.total {a b y : Nat} (ha : p.Above a y) (hb : p.Above b y) :
    p.Above a b ∨ p.Above b a := by
  induction ha with
  | refl => exact .inr hb
  | up hj haj ih =>
      cases hb with
      | refl => exact .inl (.up hj haj)
      | up hj' hbj =>
          rw [hj] at hj'
          cases hj'
          exact ih hbj

/-- `y` lies strictly below `i`: its parent is `i` or lies below `i`. -/
def Below (p : Page) (i y : Nat) : Prop :=
  ∃ j, p.parent? y = some j ∧ p.Above i j

theorem Below.above {i y : Nat} (h : p.Below i y) : p.Above i y := by
  obtain ⟨j, hj, hij⟩ := h
  exact .up hj hij

theorem Below.of_parent {i c : Nat} (hc : p.parent? c = some i) : p.Below i c :=
  ⟨i, hc, .refl⟩

theorem Below.trans {a b y : Nat} (hab : p.Below a b) (hby : p.Below b y) : p.Below a y := by
  obtain ⟨k, hk, hbk⟩ := hby
  exact ⟨k, hk, hab.above.trans hbk⟩

theorem Forest.not_below_self (h : p.Forest) (i : Nat) : ¬ p.Below i i := by
  rintro ⟨j, hj, hij⟩
  exact not_rooted_of_above_parent hj hij (h.rooted i)

/-- Two children of one element lie not one above the other. -/
theorem Forest.not_above_sibling (h : p.Forest) {i c c' : Nat} (hc : p.parent? c = some i)
    (hc' : p.parent? c' = some i) (hne : c ≠ c') : ¬ p.Above c c' := by
  intro habove
  have hci : p.Above c i := habove.of_parent hc' hne
  have hsame : c = i := h.above_antisymm hci (.up hc .refl)
  subst hsame
  exact not_rooted_of_above_parent hc .refl (h.rooted c)

theorem Linked.below_of_mem_descendantsUpTo (h : p.Linked) {fuel i y : Nat}
    (hy : y ∈ p.descendantsUpTo fuel i) : p.Below i y := by
  induction fuel generalizing i with
  | zero => simp [descendantsUpTo] at hy
  | succ fuel ih =>
      simp only [descendantsUpTo, List.mem_flatMap, List.mem_cons] at hy
      obtain ⟨c, hc, rfl | hy⟩ := hy
      · exact .of_parent (h.parent_of_mem hc)
      · exact (Below.of_parent (h.parent_of_mem hc)).trans (ih hy)

theorem children_eq_nil {i : Nat} (hi : p.nodes.size ≤ i) : p.children i = [] := by
  simp [children, node?_eq_none hi]

/-- An element of a forest is at most as many levels from the top of its tree as the page
has nodes. -/
theorem Forest.length_selfAndAncestors_le (h : p.Forest) {a : Nat} (ha : a < p.nodes.size) :
    (p.selfAndAncestors a).length ≤ p.nodes.size := by
  obtain ⟨l, hnd, hlt, hwalk, -⟩ := (h.rooted a).ancestorsUpTo h.toLinked
  have hlen := length_le_size_of_nodup hnd fun x hx => by
    rcases List.mem_cons.mp hx with rfl | hx
    · exact ha
    · exact hlt x hx
  rw [selfAndAncestors, hwalk _ (by simp at hlen; omega)]
  simpa using hlen

theorem length_selfAndAncestors_pos (a : Nat) : 0 < (p.selfAndAncestors a).length := by
  simp [selfAndAncestors, ancestorsUpTo]

theorem Forest.length_selfAndAncestors_of_parent (h : p.Forest) {c j : Nat}
    (hc : p.parent? c = some j) :
    (p.selfAndAncestors c).length = (p.selfAndAncestors j).length + 1 := by
  rw [h.selfAndAncestors_of_parent hc, List.length_cons]

/-- Fuel beyond the levels left below an element changes nothing in the walk down. -/
theorem Forest.descendantsUpTo_stable (h : p.Forest) {g g' a : Nat}
    (hg : p.nodes.size < (p.selfAndAncestors a).length + g)
    (hg' : p.nodes.size < (p.selfAndAncestors a).length + g') :
    p.descendantsUpTo g a = p.descendantsUpTo g' a := by
  have hleaf : ∀ {b : Nat}, p.nodes.size < (p.selfAndAncestors b).length →
      ∀ fuel, p.descendantsUpTo fuel b = [] := by
    intro b hb fuel
    have hnil : p.children b = [] := by
      apply children_eq_nil
      by_contra hlt
      have := h.length_selfAndAncestors_le (Nat.lt_of_not_le hlt)
      omega
    cases fuel <;> simp [descendantsUpTo, hnil]
  induction g generalizing a g' with
  | zero => rw [hleaf (by omega) 0, hleaf (by omega) g']
  | succ g ih =>
      cases g' with
      | zero => rw [hleaf (by omega) (g + 1), hleaf (by omega) 0]
      | succ g' =>
          simp only [descendantsUpTo]
          refine List.flatMap_congr fun c hc => ?_
          have hlevel := h.length_selfAndAncestors_of_parent (h.parent_of_mem hc)
          rw [@ih g' c (by omega) (by omega)]

/-- In the walk down from `i`, every element it meets is followed by the walk down from it,
with as much fuel as is left at its level. -/
theorem Forest.descendantsUpTo_block (h : p.Forest) {f i a : Nat}
    (ha : a ∈ p.descendantsUpTo f i) :
    ∃ pre post g, p.descendantsUpTo f i = pre ++ a :: p.descendantsUpTo g a ++ post ∧ g < f ∧
      (p.selfAndAncestors a).length + g = (p.selfAndAncestors i).length + f := by
  induction f generalizing i with
  | zero => simp [descendantsUpTo] at ha
  | succ f ih =>
      simp only [descendantsUpTo, List.mem_flatMap, List.mem_cons] at ha
      obtain ⟨c, hc, hac⟩ := ha
      obtain ⟨cs₁, cs₂, hcs⟩ := List.append_of_mem hc
      have hlevel := h.length_selfAndAncestors_of_parent (h.parent_of_mem hc)
      simp only [descendantsUpTo]
      rw [hcs, List.flatMap_append, List.flatMap_cons]
      rcases hac with rfl | hac
      · exact ⟨cs₁.flatMap (fun c => c :: p.descendantsUpTo f c),
          cs₂.flatMap (fun c => c :: p.descendantsUpTo f c), f, by simp, by omega, by omega⟩
      · obtain ⟨pre, post, g, hsplit, hg, hlev⟩ := ih hac
        refine ⟨cs₁.flatMap (fun c => c :: p.descendantsUpTo f c) ++ c :: pre,
          post ++ cs₂.flatMap (fun c => c :: p.descendantsUpTo f c), g, ?_, by omega, by omega⟩
        rw [hsplit]
        simp

/-- The elements below an element of the walk down come right after it. -/
theorem Forest.descendants_block (h : p.Forest) {i a : Nat} (ha : a ∈ p.descendants i) :
    ∃ pre post, p.descendants i = pre ++ a :: p.descendants a ++ post := by
  obtain ⟨pre, post, g, hsplit, hg, hlev⟩ := h.descendantsUpTo_block ha
  have hi := length_selfAndAncestors_pos (p := p) i
  have ha' := length_selfAndAncestors_pos (p := p) a
  refine ⟨pre, post, ?_⟩
  rw [descendants, hsplit, descendants,
    @Forest.descendantsUpTo_stable p h g p.nodes.size a (by omega) (by omega)]

theorem Linked.mem_descendants_of_parent (h : p.Linked) {j y : Nat} (hy : p.parent? y = some j) :
    y ∈ p.descendants j := by
  have hlt : y < p.nodes.size := by
    by_contra hge
    simp [parent?, node?_eq_none (Nat.le_of_not_lt hge)] at hy
  obtain ⟨n, hn⟩ : ∃ n, p.nodes.size = n + 1 := ⟨p.nodes.size - 1, by omega⟩
  rw [descendants, hn, descendantsUpTo, List.mem_flatMap]
  exact ⟨y, h.mem_of_parent hy, List.mem_cons_self⟩

/-- The walk down from `i` meets exactly the elements below `i`. -/
theorem Forest.mem_descendants_iff (h : p.Forest) {i y : Nat} :
    y ∈ p.descendants i ↔ p.Below i y := by
  refine ⟨h.below_of_mem_descendantsUpTo, ?_⟩
  rintro ⟨j, hj, hij⟩
  -- up the chain from the parent: each element met is in the walk, and so is its block
  induction hij generalizing y with
  | refl => exact h.mem_descendants_of_parent hj
  | up hk _ ih =>
      obtain ⟨pre, post, hsplit⟩ := h.descendants_block (ih hk)
      rw [hsplit]
      simp [h.mem_descendants_of_parent hj]

theorem Forest.nodup_descendantsUpTo (h : p.Forest) (f i : Nat) :
    (p.descendantsUpTo f i).Nodup := by
  induction f generalizing i with
  | zero => simp [descendantsUpTo]
  | succ f ih =>
      rw [descendantsUpTo, List.nodup_flatMap]
      refine ⟨fun c _ => List.nodup_cons.mpr
        ⟨fun hcc => h.not_below_self c (h.below_of_mem_descendantsUpTo hcc), ih c⟩, ?_⟩
      refine (h.nodup_children i).imp_of_mem fun {c c'} hc hc' hne => ?_
      have habove : ∀ {d y}, y ∈ d :: p.descendantsUpTo f d → p.Above d y := by
        intro d y hy
        rcases List.mem_cons.mp hy with rfl | hy
        · exact .refl
        · exact (h.below_of_mem_descendantsUpTo hy).above
      intro y hy hy'
      rcases (habove hy).total (habove hy') with hcc' | hc'c
      · exact h.not_above_sibling (h.parent_of_mem hc) (h.parent_of_mem hc') hne hcc'
      · exact h.not_above_sibling (h.parent_of_mem hc') (h.parent_of_mem hc) (Ne.symm hne) hc'c

theorem Forest.nodup_descendants (h : p.Forest) (i : Nat) : (p.descendants i).Nodup :=
  h.nodup_descendantsUpTo _ i

/-! ## Concrete chains -/

theorem not_above_of_root {a i : Nat} (hi : p.parent? i = none) (hai : a ≠ i) :
    ¬ p.Above a i :=
  fun ha => hai (ha.eq_of_root hi)

theorem not_above_of_parent {a i j : Nat} (hj : p.parent? i = some j) (hai : a ≠ i)
    (haj : ¬ p.Above a j) : ¬ p.Above a i :=
  fun ha => haj (ha.of_parent hj hai)

end Page

end HomePanel
