import Mathlib
import HomePanel.Proofs.Page.Tree

/-!
# Class paths and descendant selectors

`findDescendant` follows a path of classes greedily: it takes the first element below the
start that has the first class, then the first element below that one with the next class,
and so on. A descendant selector `.c₁ … .cₙ` instead selects every element below the start
that has `cₙ` and lies below elements with `c₁, …, cₙ₋₁`, in that order from the top
(`Page.Selects`).

On a forest the two agree whenever the lookup finds something: what it finds is selected,
and no element before it in document order is (`findDescendant_finds_first_selected`). The
step of the induction is `Forest.selects_within_first_scope`: an element that the path
selects below the start is selected by the rest of the path within the first scope, or lies
after that scope's whole subtree. The two part ways when the first scope holds no match: the
lookup stops there, while the selector goes on to a later scope, so an empty
`.power-indicator` before a filled one hides the power value
(`empty_first_scope_hides_match`).
-/

namespace HomePanel

namespace Page

variable {p : Page}

/-! ## Selectors -/

/-- The descendant selector of a class path within `i`: `x` has the last class and lies below
elements with the earlier classes, each below the one before, the first below `i`. -/
def Selects (p : Page) : Nat → List String → Nat → Prop
  | _, [], _ => False
  | i, [c], x => p.Below i x ∧ p.HasClass c x
  | i, c :: c' :: rest, x => ∃ a, p.Below i a ∧ p.HasClass c a ∧ p.Selects a (c' :: rest) x

theorem Selects.below : ∀ {i : Nat} {path : List String} {x : Nat},
    p.Selects i path x → p.Below i x
  | _, [], _, h => h.elim
  | _, [_], _, h => h.1
  | _, _ :: _ :: _, _, ⟨_, ha, _, hsel⟩ => ha.trans hsel.below

/-- What a selector selects within an element below `a`, it selects within `a`. -/
theorem Selects.of_below {a b : Nat} (hab : p.Below a b) :
    ∀ {path : List String} {x : Nat}, p.Selects b path x → p.Selects a path x
  | [], _, h => h.elim
  | [_], _, ⟨hbx, hc⟩ => ⟨hab.trans hbx, hc⟩
  | _ :: _ :: _, _, ⟨a', hba', hc, hsel⟩ => ⟨a', hab.trans hba', hc, hsel⟩

/-! ## Following a class path -/

theorem findDescendant_singleton (i : Nat) (c : String) :
    p.findDescendant i [c] = p.findFirst i (·.hasClass c) := rfl

theorem foldl_findFirst_bind (l : List String) (o : Option Nat) (g : Nat → Option Nat) :
    l.foldl (fun found c => found.bind fun j => p.findFirst j (·.hasClass c)) (o.bind g) =
      o.bind fun a =>
        l.foldl (fun found c => found.bind fun j => p.findFirst j (·.hasClass c)) (g a) := by
  induction l generalizing g with
  | nil => rfl
  | cons c l ih =>
      simp only [List.foldl_cons, Option.bind_assoc]
      exact ih _

/-- After its first class the path goes on from the element found for it. -/
theorem findDescendant_cons_cons (i : Nat) (c c' : String) (rest : List String) :
    p.findDescendant i (c :: c' :: rest) =
      (p.findFirst i (·.hasClass c)).bind fun a => p.findDescendant a (c' :: rest) := by
  simp only [findDescendant, List.foldl_cons]
  exact foldl_findFirst_bind rest _ _

theorem findFirst_hasClass_eq_some {i a : Nat} {c : String}
    (h : p.findFirst i (·.hasClass c) = some a) :
    ∃ pre post, p.descendants i = pre ++ a :: post ∧ p.HasClass c a ∧
      ∀ y ∈ pre, ¬ p.HasClass c y := by
  obtain ⟨hca, pre, post, hsplit, hpre⟩ := List.find?_eq_some_iff_append.mp h
  refine ⟨pre, post, hsplit, (hasClassAt_iff c a).mp hca, fun y hy hcy => ?_⟩
  have := hpre y hy
  rw [(hasClassAt_iff c y).mpr hcy] at this
  exact absurd this (by decide)

/-! ## The first scope -/

/-- In a list without repetitions, what follows an element of the right part lies in the
right part. -/
theorem mem_right_of_nodup_split {X R P S : List Nat} {b y : Nat} (hnd : (X ++ R).Nodup)
    (heq : X ++ R = P ++ b :: S) (hb : b ∈ R) (hy : y ∈ S) : y ∈ R := by
  rcases List.append_eq_append_iff.mp heq with ⟨as, -, hR⟩ | ⟨cs, hX, hS⟩
  · rw [hR]
    simp [hy]
  · cases cs with
    | nil =>
        rw [List.nil_append] at hS
        rw [← hS]
        exact List.mem_cons_of_mem _ hy
    | cons d cs =>
        simp only [List.cons_append, List.cons.injEq] at hS
        obtain ⟨rfl, -⟩ := hS
        exact absurd hb (List.disjoint_of_nodup_append hnd (by simp [hX]))

/-- Below `i`, an element that `c :: c' :: rest` selects is selected by `c' :: rest` within
the first element `a` with `c`, or it lies after `a`'s whole subtree. -/
theorem Forest.selects_within_first_scope (h : p.Forest) {i a : Nat} {c c' : String}
    {rest : List String} {pre post : List Nat}
    (hsplit : p.descendants i = pre ++ a :: (p.descendants a ++ post))
    (hpre : ∀ y ∈ pre, ¬ p.HasClass c y) {y : Nat} (hy : p.Selects i (c :: c' :: rest) y) :
    p.Selects a (c' :: rest) y ∨ y ∈ post := by
  obtain ⟨b, hib, hcb, hsel⟩ := hy
  have hbi : b ∈ p.descendants i := h.mem_descendants_iff.mpr hib
  have hb := hbi
  rw [hsplit] at hb
  simp only [List.mem_append, List.mem_cons] at hb
  rcases hb with hb | rfl | hb | hb
  · exact absurd hcb (hpre b hb)
  · exact .inl hsel
  · exact .inl (hsel.of_below (h.mem_descendants_iff.mp hb))
  · -- `b`'s subtree follows `b`, and `b` comes after `a`'s subtree
    right
    obtain ⟨pre', post', hblock⟩ := h.descendants_block hbi
    have hnd := h.nodup_descendants i
    have hsame : p.descendants i = (pre ++ a :: p.descendants a) ++ post := by
      rw [hsplit]
      simp
    rw [hsame] at hnd hblock
    exact @mem_right_of_nodup_split (pre ++ a :: p.descendants a) post pre'
      (p.descendants b ++ post') b y hnd (by rw [hblock]; simp) hb
      (List.mem_append_left _ (h.mem_descendants_iff.mpr hsel.below))

/-- The first element with a class below `i` heads its block of the walk down from `i`, and
no element before the block has the class. -/
theorem Forest.findFirst_hasClass_block (h : p.Forest) {i a : Nat} {c : String}
    (hfa : p.findFirst i (·.hasClass c) = some a) :
    ∃ pre post, p.descendants i = pre ++ a :: (p.descendants a ++ post) ∧ p.HasClass c a ∧
      ∀ y ∈ pre, ¬ p.HasClass c y := by
  obtain ⟨P, Q, hP, hca, hpre⟩ := findFirst_hasClass_eq_some hfa
  have hai : a ∈ p.descendants i := by
    rw [hP]
    simp
  obtain ⟨P', R, hblock⟩ := h.descendants_block hai
  have hnd := h.nodup_descendants i
  rw [hP] at hnd hblock
  have ha : a ∉ P ++ Q := (List.nodup_cons.mp (List.nodup_middle.mp hnd)).1
  rw [List.append_assoc, List.cons_append] at hblock
  obtain ⟨rfl, -, -⟩ := (List.append_cons_inj_of_notMem (fun h => ha (List.mem_append_left _ h))
    (fun h => ha (List.mem_append_right _ h))).mp hblock
  exact ⟨P, R, hP.trans hblock, hca, hpre⟩

/-- One class more in front of a path: when `a` is the first element with `c` below `i` and
`x` the first that the rest of the path selects within `a`, then `x` is the first that the
whole path selects within `i`. -/
theorem Forest.first_selected_of_first_scope (h : p.Forest) {i a x : Nat} {c c' : String}
    {rest : List String} {pre post B A : List Nat}
    (hsplit : p.descendants i = pre ++ a :: (p.descendants a ++ post))
    (hca : p.HasClass c a) (hpre : ∀ y ∈ pre, ¬ p.HasClass c y)
    (hsplitA : p.descendants a = B ++ x :: A) (hselx : p.Selects a (c' :: rest) x)
    (hB : ∀ y ∈ B, ¬ p.Selects a (c' :: rest) y) :
    p.descendants i = (pre ++ a :: B) ++ x :: (A ++ post) ∧ p.Selects i (c :: c' :: rest) x ∧
      ∀ y ∈ pre ++ a :: B, ¬ p.Selects i (c :: c' :: rest) y := by
  have hdesc : p.descendants i = (pre ++ a :: B) ++ x :: (A ++ post) := by
    rw [hsplit, hsplitA]
    simp
  have hai : p.Below i a := h.mem_descendants_iff.mp (by rw [hsplit]; simp)
  have hdisj := List.disjoint_of_nodup_append (hdesc ▸ h.nodup_descendants i)
  refine ⟨hdesc, ⟨a, hai, hca, hselx⟩, fun y hy hsel => ?_⟩
  rcases h.selects_within_first_scope hsplit hpre hsel with hsela | hyR
  · -- selected within `a`, so `y` is below `a`: it is among `B`, as the rest stands later
    have hya : y ∈ B ++ x :: A := hsplitA ▸ h.mem_descendants_iff.mpr hsela.below
    rcases List.mem_append.mp hya with hyB | hyxA
    · exact hB y hyB hsela
    · exact hdisj hy (by simp only [List.mem_cons, List.mem_append] at hyxA ⊢; tauto)
  · -- after `a`'s subtree, while `y` stands in it or before it
    exact hdisj hy (by simp [hyR])

/-- On a forest, what a class path finds below `i` is selected by the path, and nothing
before it in document order is. -/
theorem Forest.findDescendant_first_selected (h : p.Forest) {path : List String} :
    ∀ {i x : Nat}, p.findDescendant i path = some x →
      ∃ before after, p.descendants i = before ++ x :: after ∧ p.Selects i path x ∧
        ∀ y ∈ before, ¬ p.Selects i path y := by
  -- induction on the path; a longer path goes on from the first scope of its first class
  induction path with
  | nil => simp [findDescendant]
  | cons c rest ih =>
      cases rest with
      | nil =>
          intro i x hx
          rw [findDescendant_singleton] at hx
          obtain ⟨pre, post, hsplit, hcx, hpre⟩ := findFirst_hasClass_eq_some hx
          have hxi : x ∈ p.descendants i := by
            rw [hsplit]
            simp
          exact ⟨pre, post, hsplit, ⟨h.mem_descendants_iff.mp hxi, hcx⟩,
            fun y hy hsel => hpre y hy hsel.2⟩
      | cons c' rest =>
          intro i x hx
          rw [findDescendant_cons_cons, Option.bind_eq_some_iff] at hx
          obtain ⟨a, hfa, hxa⟩ := hx
          obtain ⟨pre, post, hsplit, hca, hpre⟩ := h.findFirst_hasClass_block hfa
          obtain ⟨B, A, hsplitA, hselx, hB⟩ := ih hxa
          exact ⟨_, _, h.first_selected_of_first_scope hsplit hca hpre hsplitA hselx hB⟩

/-- On a forest every element a class path selects below `i` is in the walk down from `i`;
what the lookup by the path finds is selected, and no element before it in document order
is. -/
theorem findDescendant_finds_first_selected (h : p.Forest) (i : Nat) (path : List String) :
    (∀ y, p.Selects i path y → y ∈ p.descendants i) ∧
    ∀ x, p.findDescendant i path = some x →
      ∃ before after, p.descendants i = before ++ x :: after ∧ p.Selects i path x ∧
        ∀ y ∈ before, ¬ p.Selects i path y :=
  ⟨fun _ hy => h.mem_descendants_iff.mpr hy.below, fun _ hx => h.findDescendant_first_selected hx⟩

/-- A device card below the body with two power indicators: the first is empty, the second
holds the value. -/
def splitPowerPage : Page :=
  Page.new.run [.create "div", .setData 1 "deviceId" "d1", .create "div",
    .setClass 2 "power-indicator" true, .create "div", .setClass 3 "power-indicator" true,
    .create "span", .setClass 4 "value" true, .append 0 1, .append 1 2, .append 1 3,
    .append 3 4]

theorem split_power_page_first_selected :
    splitPowerPage.Forest ∧
    (∀ y, splitPowerPage.Selects 1 ["power-indicator", "value"] y →
      y ∈ splitPowerPage.descendants 1) ∧
    ∀ x, splitPowerPage.findDescendant 1 ["power-indicator", "value"] = some x →
      ∃ before after, splitPowerPage.descendants 1 = before ++ x :: after ∧
        splitPowerPage.Selects 1 ["power-indicator", "value"] x ∧
        ∀ y ∈ before, ¬ splitPowerPage.Selects 1 ["power-indicator", "value"] y :=
  have h : splitPowerPage.Forest := forest_new.run ⟨trivial, trivial, trivial, trivial, trivial,
    trivial, trivial, trivial, fun _ _ => not_above_of_root (by decide) (by decide),
    fun _ _ => @not_above_of_parent _ 2 1 0 (by decide) (by decide)
      (not_above_of_root (by decide) (by decide)),
    fun _ _ => @not_above_of_parent _ 3 1 0 (by decide) (by decide)
      (not_above_of_root (by decide) (by decide)),
    fun _ _ => @not_above_of_parent _ 4 3 1 (by decide) (by decide)
      (@not_above_of_parent _ 4 1 0 (by decide) (by decide)
        (not_above_of_root (by decide) (by decide))),
    trivial⟩
  ⟨h, findDescendant_finds_first_selected h 1 ["power-indicator", "value"]⟩

/-- The selector `.power-indicator .value` selects the value in the second indicator, but the
lookup stops in the first, empty one and finds nothing. -/
theorem empty_first_scope_hides_match :
    splitPowerPage.Selects 1 ["power-indicator", "value"] 4 ∧
      splitPowerPage.findDescendant 1 ["power-indicator", "value"] = none :=
  ⟨⟨3, .of_parent (by decide), (hasClassAt_iff _ _).mp (by decide), .of_parent (by decide),
    (hasClassAt_iff _ _).mp (by decide)⟩, by decide⟩

end Page

end HomePanel
