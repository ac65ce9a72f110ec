import Mathlib
import HomePanel.Proofs.Page.Tree
import HomePanel.Intent

/-!
# What a click or a submission asks for

A click is decided by the nearest marked element alone (`Page.Nearest`). Its first marker in
priority order gives the intent, from dataset values that must be present and non-empty; a
missing value makes the click ask for nothing, without trying the element's later markers or
the elements above it (`Forest.resolveClick_of_nearest`, `ClickRole.intent?_eq_none_iff`).

A submission is decided by the nearest form with an endpoint
(`Forest.resolveSubmit_of_nearest`): its method, its refresh flag, the result section found
by the nearest `pattern-section` above the form, and its fields (the `formSubmission_`
lemmas). `intents_follow_nearest_marked_ancestor` puts both together.
-/

namespace HomePanel

/-! ## Clicks -/

namespace ClickRole

theorem mem_all (r : ClickRole) : r ∈ ClickRole.all := by
  cases r <;> simp [ClickRole.all]

/-- The dataset values a role's intent needs, present and non-empty. -/
def requiredData : ClickRole → List String
  | .deviceControl => ["deviceId", "action"]
  | .roomControl => ["room", "action"]
  | .modeSelect => ["mode"]
  | .sceneSelect | .labScene => ["scene"]
  | .patternRun | .patternListItem => ["pattern"]
  | .labStrategy => ["strategy"]
  | .labAudit => ["audit"]
  | .labButton => []

/-- `r` is the first role, in priority order, whose marker the element carries. -/
def IsFirstMarker (r : ClickRole) (e : Element) : Prop :=
  r.marks e = true ∧
    ∃ before after, ClickRole.all = before ++ r :: after ∧ ∀ r' ∈ before, r'.marks e = false

/-- A non-empty dataset value is missing exactly when the key is absent or empty. -/
theorem nonEmptyData_eq_none_iff (e : Element) (key : String) :
    ((e.data? key).bind fun v => if v.isEmpty then none else some v) = none ↔
      ∀ v, e.data? key = some v → v = "" := by
  cases e.data? key with
  | none => simp
  | some v => simp [String.isEmpty_iff]

/-- A marked element's intent is missing exactly when one of the dataset values its role
needs is absent or empty. -/
theorem intent?_eq_none_iff {r : ClickRole} {e : Element} (hr : r.marks e = true) :
    r.intent? e = none ↔ ∃ key ∈ r.requiredData, ∀ v, e.data? key = some v → v = "" := by
  cases r with
  | labButton =>
      simp only [marks, markerClass?] at hr
      simp [intent?, requiredData, Option.isSome_iff_ne_none.mp hr]
  | deviceControl =>
      simp only [intent?, requiredData, List.mem_cons, List.not_mem_nil, or_false,
        exists_eq_or_imp, exists_eq_left, ← nonEmptyData_eq_none_iff]
      cases (e.data? "deviceId").bind _ <;> cases (e.data? "action").bind _ <;> simp
  | roomControl =>
      simp only [intent?, requiredData, List.mem_cons, List.not_mem_nil, or_false,
        exists_eq_or_imp, exists_eq_left, ← nonEmptyData_eq_none_iff]
      cases (e.data? "room").bind _ <;> cases (e.data? "action").bind _ <;> simp
  | _ =>
      simp only [intent?, requiredData, List.mem_cons, List.not_mem_nil, or_false,
        exists_eq_left, ← nonEmptyData_eq_none_iff]
      cases (e.data? _).bind _ <;> simp

end ClickRole

namespace Page

variable {p : Page}

/-- The element at `a` carries a click marker. -/
def Marked (p : Page) (a : Nat) : Prop :=
  ∃ e, p.element? a = some e ∧ ∃ r : ClickRole, r.marks e = true

theorem clickRole?_eq_some_iff (i : Nat) (r : ClickRole) :
    p.clickRole? i = some r ↔ ∃ e, p.element? i = some e ∧ r.IsFirstMarker e := by
  simp only [clickRole?, Option.bind_eq_some_iff, List.find?_eq_some_iff_append,
    ClickRole.IsFirstMarker, Bool.not_eq_true']

theorem clickRole?_isSome_iff (i : Nat) : (p.clickRole? i).isSome ↔ p.Marked i := by
  simp only [clickRole?, Marked, Option.isSome_bind]
  cases p.element? i with
  | none => simp
  | some e => simpa using ⟨fun ⟨r, _, hr⟩ => ⟨r, hr⟩, fun ⟨r, hr⟩ => ⟨r, r.mem_all, hr⟩⟩

theorem Forest.resolveClick_eq_none (h : p.Forest) {t : Nat}
    (hnone : ∀ a, p.Above a t → ¬ p.Marked a) : p.resolveClick t = none := by
  have hfind : (p.selfAndAncestors t).findSome? (fun i => (p.clickRole? i).map (i, ·)) = none := by
    rw [h.findSome?_selfAndAncestors_eq_none]
    intro a ha
    have hrole : p.clickRole? a = none := by
      rw [← Option.not_isSome_iff_eq_none, clickRole?_isSome_iff]
      exact hnone a ha
    simp [hrole]
  simp [resolveClick, hfind]

theorem Forest.resolveClick_of_nearest (h : p.Forest) {t m : Nat} {e : Element} {r : ClickRole}
    (hm : p.Nearest p.Marked t m) (he : p.element? m = some e) (hr : r.IsFirstMarker e) :
    p.resolveClick t = r.intent? e := by
  have hrole : p.clickRole? m = some r := (clickRole?_eq_some_iff m r).mpr ⟨e, he, hr⟩
  have hfind : (p.selfAndAncestors t).findSome? (fun i => (p.clickRole? i).map (i, ·)) =
      some (m, r) := by
    rw [h.findSome?_selfAndAncestors (hm.congr fun a => ?_), hrole]
    · rfl
    · simp [← clickRole?_isSome_iff]
  simp [resolveClick, hfind, he]

/-! ## Submissions -/

/-- The element at `a` is a form with an endpoint. -/
def EndpointForm (p : Page) (a : Nat) : Prop :=
  ∃ e endpoint, p.element? a = some e ∧ e.isForm = true ∧ e.data? "apiEndpoint" = some endpoint

theorem submissionAt_isSome_iff (a : Nat) :
    ((p.element? a).bind fun e =>
      if e.isForm then (e.data? "apiEndpoint").map (p.formSubmission a e) else none).isSome ↔
        p.EndpointForm a := by
  cases he : p.element? a with
  | none => simp [EndpointForm, he]
  | some e =>
      by_cases hf : e.isForm
      · simp [EndpointForm, he, hf, Option.isSome_iff_exists]
      · simp [EndpointForm, he, hf]

theorem Forest.resolveSubmit_eq_none (h : p.Forest) {t : Nat}
    (hnone : ∀ a, p.Above a t → ¬ p.EndpointForm a) : p.resolveSubmit t = none := by
  rw [resolveSubmit, h.findSome?_selfAndAncestors_eq_none]
  intro a ha
  rw [← Option.not_isSome_iff_eq_none, submissionAt_isSome_iff]
  exact hnone a ha

theorem Forest.resolveSubmit_of_nearest (h : p.Forest) {t f : Nat} {e : Element}
    {endpoint : String} (hf : p.Nearest p.EndpointForm t f) (he : p.element? f = some e)
    (hendpoint : e.data? "apiEndpoint" = some endpoint) :
    p.resolveSubmit t = some (p.formSubmission f e endpoint) := by
  have hform : e.isForm = true := by
    obtain ⟨e', _, he', hform, -⟩ := hf.2.1
    rw [he] at he'
    cases he'
    exact hform
  rw [resolveSubmit, h.findSome?_selfAndAncestors (hf.congr fun a => ?_)]
  · simp [he, hform, hendpoint]
  · exact (submissionAt_isSome_iff a).symm

/-! ## The fields of a submission -/

section Fields

variable (p : Page) (f : Nat) (e : Element) (endpoint : String)

theorem formSubmission_target :
    ((p.formSubmission f e endpoint).method, (p.formSubmission f e endpoint).endpoint) =
      resolveFormTarget endpoint (((e.data? "apiMethod").bind HttpMethod.parse?).getD
        (if e.hasClass "demo-form" then .post else .get)) := by
  simp only [formSubmission]

theorem formSubmission_refresh :
    (p.formSubmission f e endpoint).refresh = true ↔
      ∃ v, e.data? "refresh" = some v ∧ v.toList.map Char.toLower = "true".toList := by
  simp only [formSubmission]
  cases e.data? "refresh" with
  | none => simp
  | some v =>
      simp only [Option.map_some, Option.getD_some, beq_iff_eq, Option.some.injEq,
        exists_eq_left', Text.asciiLower, ← String.toList_map]
      exact ⟨fun h => h ▸ rfl, fun h => String.toList_injective h⟩

/-- The result section is the non-empty id of the nearest `pattern-section` above the form,
else `unknown` for a demo form. -/
theorem formSubmission_resultSection :
    (p.formSubmission f e endpoint).resultSection? =
      Option.or (Option.filter (fun id => !id.isEmpty)
          ((p.closestWithClass f "pattern-section").bind fun s => (p.element? s).bind Element.id))
        (if e.hasClass "demo-form" then some "unknown" else none) := by
  simp only [formSubmission]
  cases (p.closestWithClass f "pattern-section").bind fun s => (p.element? s).bind Element.id with
  | none => simp
  | some id => by_cases hid : id.isEmpty <;> simp [hid, Option.filter_some]

theorem formSubmission_params :
    (p.formSubmission f e endpoint).params = ParamMap.ofFormEntries (p.formEntries f) := by
  simp only [formSubmission]

end Fields

/-! ## Intents -/

/-- On a forest, a click on `t` asks for nothing when no element from `t` up carries a
marker; otherwise such elements have a nearest one, and the click asks for what that
element's first marker gives, which is nothing exactly when a dataset value the marker needs
is absent or empty. A submission from `t` is nothing when no element from `t` up is a form
with an endpoint; otherwise the nearest such form decides it: the method it names (else `POST`
for a demo form and `GET`) and the endpoint, both after the form overrides; a refresh exactly
when its `refresh` value is `true` in any case; the non-empty id of the nearest
`pattern-section` from the form up, else `unknown` for a demo form; and its fields. -/
theorem intents_follow_nearest_marked_ancestor (h : p.Forest) (t : Nat) :
    ((∀ a, p.Above a t → ¬ p.Marked a) → p.resolveIntent .click t = none) ∧
    ((∃ a, p.Above a t ∧ p.Marked a) → ∃ m, p.Nearest p.Marked t m) ∧
    (∀ m (e : Element) (r : ClickRole), p.Nearest p.Marked t m → p.element? m = some e →
      r.IsFirstMarker e → p.resolveIntent .click t = r.intent? e) ∧
    (∀ (r : ClickRole) e, r.marks e = true →
      (r.intent? e = none ↔ ∃ key ∈ r.requiredData, ∀ v, e.data? key = some v → v = "")) ∧
    ((∀ a, p.Above a t → ¬ p.EndpointForm a) → p.resolveIntent .submit t = none) ∧
    ((∃ a, p.Above a t ∧ p.EndpointForm a) → ∃ f, p.Nearest p.EndpointForm t f) ∧
    ∀ f (e : Element) endpoint, p.Nearest p.EndpointForm t f → p.element? f = some e →
      e.data? "apiEndpoint" = some endpoint →
      ∃ s, p.resolveIntent .submit t = some (.submitForm s) ∧
        (s.method, s.endpoint) = resolveFormTarget endpoint
          (((e.data? "apiMethod").bind HttpMethod.parse?).getD
            (if e.hasClass "demo-form" then .post else .get)) ∧
        (s.refresh = true ↔
          ∃ v, e.data? "refresh" = some v ∧ v.toList.map Char.toLower = "true".toList) ∧
        (∀ sec, p.Nearest (p.HasClass "pattern-section") f sec →
          s.resultSection? = Option.or
            (Option.filter (fun id => !id.isEmpty) ((p.element? sec).bind Element.id))
            (if e.hasClass "demo-form" then some "unknown" else none)) ∧
        ((∀ a, p.Above a f → ¬ p.HasClass "pattern-section" a) →
          s.resultSection? = if e.hasClass "demo-form" then some "unknown" else none) ∧
        s.params = ParamMap.ofFormEntries (p.formEntries f) := by
  refine ⟨h.resolveClick_eq_none, fun ⟨_, ha, hm⟩ => h.exists_nearest ha hm,
    fun _ _ _ hm he hr => h.resolveClick_of_nearest hm he hr,
    fun _ _ hr => ClickRole.intent?_eq_none_iff hr,
    fun hnone => by simp [resolveIntent, h.resolveSubmit_eq_none hnone],
    fun ⟨_, ha, hf⟩ => h.exists_nearest ha hf, fun f e endpoint hf he hendpoint => ?_⟩
  refine ⟨p.formSubmission f e endpoint,
    by simp [resolveIntent, h.resolveSubmit_of_nearest hf he hendpoint],
    formSubmission_target p f e endpoint, formSubmission_refresh p f e endpoint,
    fun sec hsec => ?_, fun hnone => ?_, formSubmission_params p f e endpoint⟩
  · rw [formSubmission_resultSection, h.closestWithClass_of_nearest hsec]
    rfl
  · rw [formSubmission_resultSection, h.closestWithClass_eq_none hnone]
    simp

/-- A demo form below the body, holding a device button. -/
def demoFormPage : Page :=
  Page.new.run [.create "form", .setClass 1 "demo-form" true, .setData 1 "apiEndpoint" "/scenes",
    .create "button", .setClass 2 "device-control-btn" true, .setData 2 "deviceId" "lamp",
    .setData 2 "action" "on", .append 0 1, .append 1 2]

theorem demo_form_page_intents :
    demoFormPage.Forest ∧
    ((∀ a, demoFormPage.Above a 2 → ¬ demoFormPage.Marked a) →
      demoFormPage.resolveIntent .click 2 = none) ∧
    ((∃ a, demoFormPage.Above a 2 ∧ demoFormPage.Marked a) →
      ∃ m, demoFormPage.Nearest demoFormPage.Marked 2 m) ∧
    (∀ m (e : Element) (r : ClickRole), demoFormPage.Nearest demoFormPage.Marked 2 m →
      demoFormPage.element? m = some e → r.IsFirstMarker e →
        demoFormPage.resolveIntent .click 2 = r.intent? e) ∧
    (∀ (r : ClickRole) e, r.marks e = true →
      (r.intent? e = none ↔ ∃ key ∈ r.requiredData, ∀ v, e.data? key = some v → v = "")) ∧
    ((∀ a, demoFormPage.Above a 2 → ¬ demoFormPage.EndpointForm a) →
      demoFormPage.resolveIntent .submit 2 = none) ∧
    ((∃ a, demoFormPage.Above a 2 ∧ demoFormPage.EndpointForm a) →
      ∃ f, demoFormPage.Nearest demoFormPage.EndpointForm 2 f) ∧
    ∀ f (e : Element) endpoint, demoFormPage.Nearest demoFormPage.EndpointForm 2 f →
      demoFormPage.element? f = some e → e.data? "apiEndpoint" = some endpoint →
      ∃ s, demoFormPage.resolveIntent .submit 2 = some (.submitForm s) ∧
        (s.method, s.endpoint) = resolveFormTarget endpoint
          (((e.data? "apiMethod").bind HttpMethod.parse?).getD
            (if e.hasClass "demo-form" then .post else .get)) ∧
        (s.refresh = true ↔
          ∃ v, e.data? "refresh" = some v ∧ v.toList.map Char.toLower = "true".toList) ∧
        (∀ sec, demoFormPage.Nearest (demoFormPage.HasClass "pattern-section") f sec →
          s.resultSection? = Option.or
            (Option.filter (fun id => !id.isEmpty) ((demoFormPage.element? sec).bind Element.id))
            (if e.hasClass "demo-form" then some "unknown" else none)) ∧
        ((∀ a, demoFormPage.Above a f → ¬ demoFormPage.HasClass "pattern-section" a) →
          s.resultSection? = if e.hasClass "demo-form" then some "unknown" else none) ∧
        s.params = ParamMap.ofFormEntries (demoFormPage.formEntries f) :=
  have h : demoFormPage.Forest := forest_new.run ⟨trivial, trivial, trivial, trivial, trivial,
    trivial, trivial, fun _ _ => not_above_of_root (by decide) (by decide),
    fun _ _ => @not_above_of_parent _ 2 1 0 (by decide) (by decide)
      (not_above_of_root (by decide) (by decide)),
    trivial⟩
  ⟨h, intents_follow_nearest_marked_ancestor h 2⟩

end Page

end HomePanel
