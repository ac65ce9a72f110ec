import HomePanel.Proofs.Request.Routing
import HomePanel.Client

/-!
# Normalised base paths, checked again

`normalizeBasePath` trims the blanks at both ends, requires a leading `/` and drops the
trailing slashes. What it gives is empty when the trimmed text was slashes only (`/` is the
site root) and otherwise starts with `/` and does not end in `/`. The configuration check
normalises the stored path once more, so it accepts exactly the non-empty results, and a
panel on the HTTP client refuses the empty one: the root override `/` is stored by
`withApiBasePath` and then refused. Because the blanks are trimmed before the slashes are
dropped, `/a /` gives `/a `, and a second pass removes that blank: a normalised path is its
own normal form exactly when it is not empty and does not end in a blank
(`base_path_override_revalidated`).
-/

namespace HomePanel

namespace Text

theorem startsWith_slash_iff (s : String) : s.startsWith "/" = true ↔ ['/'] <+: s.toList := by
  rw [String.startsWith_string_iff]
  rfl

theorem toList_trimEnd (s : String) : (trimEnd s).toList = s.toList.rdropWhile isBlank := by
  rw [trimEnd, String.toList_ofList, List.rdropWhile]

theorem toList_dropTrailing_eq_rdropWhile (c : Char) (s : String) :
    (dropTrailing c s).toList = s.toList.rdropWhile (· == c) := by
  rw [toList_dropTrailing, List.rdropWhile]

theorem mem_of_mem_trim {s : String} {x : Char} (hx : x ∈ (trim s).toList) : x ∈ s.toList := by
  rw [trim, toList_trimEnd, trimStart, String.toList_ofList] at hx
  exact (List.dropWhile_sublist _).subset ((List.rdropWhile_prefix _ _).subset hx)

/-- A text that starts with a slash has nothing to trim at its start. -/
theorem trimStart_eq_self {s : String} (hs : ['/'] <+: s.toList) : trimStart s = s := by
  obtain ⟨rest, hrest⟩ := hs
  apply String.toList_injective
  rw [trimStart, String.toList_ofList, ← hrest]
  rfl

end Text

/-- The normalised base path: the trimmed text, which must start with `/`, without its
trailing slashes. -/
theorem normalizeBasePath_eq_ok_iff (s p : String) :
    normalizeBasePath s = .ok p ↔
      ['/'] <+: (Text.trim s).toList ∧ p = Text.dropTrailing '/' (Text.trim s) := by
  unfold normalizeBasePath
  simp only
  split
  · rename_i h
    rw [Text.startsWith_slash_iff] at h
    simp [h, eq_comm]
  · rename_i h
    rw [Text.startsWith_slash_iff] at h
    simp [h]

section Normalized

variable {s p : String} (h : normalizeBasePath s = .ok p)
include h

/-- What normalising leaves is the trimmed text less some trailing slashes. -/
theorem normalizeBasePath_prefix_trim : p.toList <+: (Text.trim s).toList := by
  obtain ⟨-, rfl⟩ := (normalizeBasePath_eq_ok_iff s p).mp h
  rw [Text.toList_dropTrailing_eq_rdropWhile]
  exact List.rdropWhile_prefix _ _

theorem normalizeBasePath_starts (hp : p ≠ "") : ['/'] <+: p.toList := by
  obtain ⟨hslash, -⟩ := (normalizeBasePath_eq_ok_iff s p).mp h
  have hlen : 1 ≤ p.toList.length := by
    rw [Nat.one_le_iff_ne_zero, Ne, List.length_eq_zero_iff, String.toList_eq_nil_iff]
    exact hp
  exact List.prefix_of_prefix_length_le hslash (normalizeBasePath_prefix_trim h) hlen

theorem normalizeBasePath_getLast : p.toList.getLast? ≠ some '/' := by
  obtain ⟨-, rfl⟩ := (normalizeBasePath_eq_ok_iff s p).mp h
  exact (Text.dropTrailing_spec '/' _).2

/-- The path is empty exactly when the trimmed text was slashes only. -/
theorem normalizeBasePath_eq_empty_iff : p = "" ↔ ∀ c ∈ (Text.trim s).toList, c = '/' := by
  obtain ⟨-, rfl⟩ := (normalizeBasePath_eq_ok_iff s p).mp h
  rw [← String.toList_eq_nil_iff, Text.toList_dropTrailing_eq_rdropWhile,
    List.rdropWhile_eq_nil_iff]
  simp

/-- A normalised path that is not empty normalises again: trimming it only drops the blanks
at its end, and the slashes are dropped once more. -/
theorem normalizeBasePath_again (hp : p ≠ "") :
    normalizeBasePath p = .ok (Text.dropTrailing '/' (Text.trimEnd p)) := by
  have hstart := normalizeBasePath_starts h hp
  have htrim : Text.trim p = Text.trimEnd p := by
    rw [Text.trim, Text.trimStart_eq_self hstart]
  rw [normalizeBasePath_eq_ok_iff, htrim]
  refine ⟨?_, rfl⟩
  have hkept : (Text.trimEnd p).toList ≠ [] := by
    rw [Text.toList_trimEnd, Ne, List.rdropWhile_eq_nil_iff]
    intro hall
    obtain ⟨rest, hrest⟩ := hstart
    have := hall '/' (by rw [← hrest]; exact List.mem_cons_self)
    exact absurd this (by decide)
  have hlen : 1 ≤ (Text.trimEnd p).toList.length := by
    rw [Nat.one_le_iff_ne_zero, Ne, List.length_eq_zero_iff]
    exact hkept
  rw [Text.toList_trimEnd] at hlen ⊢
  exact List.prefix_of_prefix_length_le hstart (List.rdropWhile_prefix _ _) hlen

/-- A second normalisation gives the path back exactly when it is not empty and does not end
in a blank. -/
theorem normalizeBasePath_self_iff :
    normalizeBasePath p = .ok p ↔ p ≠ "" ∧ Text.trimEnd p = p := by
  by_cases hp : p = ""
  · subst hp
    simp only [ne_eq, not_true_eq_false, false_and, iff_false]
    intro hempty
    obtain ⟨hslash, -⟩ := (normalizeBasePath_eq_ok_iff "" "").mp hempty
    exact absurd hslash (by decide)
  · rw [normalizeBasePath_again h hp]
    simp only [Except.ok.injEq, ne_eq, hp, not_false_eq_true, true_and]
    have hlast := normalizeBasePath_getLast h
    constructor
    · intro hagain
      apply String.toList_injective
      have hpre : (Text.trimEnd p).toList <+: p.toList := by
        rw [Text.toList_trimEnd]; exact List.rdropWhile_prefix _ _
      apply hpre.eq_of_length_le
      have hdrop := congrArg (fun t => t.toList.length) hagain
      simp only [Text.toList_dropTrailing_eq_rdropWhile] at hdrop
      rw [← hdrop]
      exact (List.rdropWhile_prefix _ _).length_le
    · intro hend
      rw [hend]
      apply String.toList_injective
      rw [Text.toList_dropTrailing_eq_rdropWhile, List.rdropWhile_eq_self_iff]
      intro hne hslash
      apply hlast
      rw [List.getLast?_eq_some_getLast hne]
      simpa using hslash

end Normalized

/-! ## The configuration check -/

theorem validate_eq_ok_iff (c : PanelConfig) :
    c.validate = .ok () ↔ ∃ q, normalizeBasePath c.apiBasePath = .ok q := by
  unfold PanelConfig.validate
  cases normalizeBasePath c.apiBasePath <;> simp [Except.map]

/-- The only fault of a base path is that it does not start with `/`. -/
theorem normalizeBasePath_error {s : String} {e : ConfigError}
    (h : normalizeBasePath s = .error e) : e = .invalidBasePath := by
  unfold normalizeBasePath at h
  simp only at h
  split at h <;> simp_all

/-- Reading a base URL never blames the base path. -/
theorem normalizeBaseUrl_ne_invalidBasePath (raw : String) :
    normalizeBaseUrl raw ≠ .error .invalidBasePath := by
  unfold normalizeBaseUrl
  simp only
  split
  · simp
  · split
    · split <;> simp
    · simp

/-- A panel on the HTTP client refuses its configuration for the base path exactly when the
configuration check fails. -/
theorem nativePanel_eq_invalidBasePath_iff (client : ClientConfig) (page : Page)
    (c : PanelConfig) :
    nativePanel client page c = .error .invalidBasePath ↔ c.validate ≠ .ok () := by
  unfold nativePanel
  cases hv : c.validate with
  | error e =>
      have he : e = .invalidBasePath := by
        unfold PanelConfig.validate at hv
        cases hn : normalizeBasePath c.apiBasePath with
        | error e' =>
            simp only [hn, Except.map, Except.error.injEq] at hv
            exact hv ▸ normalizeBasePath_error hn
        | ok q => simp [hn, Except.map] at hv
      subst he
      simp [bind, Except.bind]
  | ok u =>
      simp only [bind, Except.bind, ne_eq, not_true_eq_false, iff_false]
      unfold HttpClient.new
      cases hn : normalizeBaseUrl client.baseUrl with
      | error e =>
          have := normalizeBaseUrl_ne_invalidBasePath client.baseUrl
          rw [hn] at this
          simpa [Except.map, pure, Except.pure] using this
      | ok url => simp [Except.map, pure, Except.pure]

/-- An override that normalises to `p` is stored as `p`; the check and the panel on the HTTP
client accept it exactly when `p` is not empty, that is unless the override was slashes
only; `p` normalises to itself exactly when it also does not end in a blank; and the
executor keeps it as it is. -/
theorem base_path_override_revalidated {s p : String} (h : normalizeBasePath s = .ok p) :
    (p = "" ↔ ∀ x ∈ (Text.trim s).toList, x = '/') ∧
    (normalizeBasePath p = .ok p ↔ p ≠ "" ∧ Text.trimEnd p = p) ∧
    ∀ c : PanelConfig, c.withApiBasePath (some s) = .ok { c with apiBasePath := p } ∧
      ({ c with apiBasePath := p }.validate = .ok () ↔ p ≠ "") ∧
      (∀ client page, nativePanel client page { c with apiBasePath := p } = .error .invalidBasePath ↔
        p = "") ∧
      (Executor.withBasePath p).basePath = p := by
  have hvalid : ∀ c : PanelConfig, { c with apiBasePath := p }.validate = .ok () ↔ p ≠ "" := by
    intro c
    rw [validate_eq_ok_iff]
    constructor
    · rintro ⟨q, hq⟩ rfl
      obtain ⟨hslash, -⟩ := (normalizeBasePath_eq_ok_iff "" q).mp hq
      exact absurd hslash (by decide)
    · intro hp
      exact ⟨_, normalizeBasePath_again h hp⟩
  refine ⟨normalizeBasePath_eq_empty_iff h, normalizeBasePath_self_iff h, fun c => ⟨?_, hvalid c,
    fun client page => ?_, ?_⟩⟩
  · -- a text that normalises is not blank, so the override is read
    have hblank : Text.isBlankText s = false := by
      obtain ⟨⟨rest, hrest⟩, -⟩ := (normalizeBasePath_eq_ok_iff s p).mp h
      have hmem : '/' ∈ s.toList :=
        Text.mem_of_mem_trim (by rw [← hrest]; exact List.mem_cons_self)
      rw [Text.isBlankText, List.all_eq_false]
      exact ⟨'/', hmem, by decide⟩
    simp [PanelConfig.withApiBasePath, hblank, h, Except.map]
  · rw [nativePanel_eq_invalidBasePath_iff, ne_eq, hvalid, not_not]
  · apply String.toList_injective
    simp only [Executor.withBasePath, Text.toList_dropTrailing_eq_rdropWhile]
    rw [List.rdropWhile_eq_self_iff]
    intro hne hslash
    apply normalizeBasePath_getLast h
    rw [List.getLast?_eq_some_getLast hne]
    simpa using hslash

theorem smarthome_override_revalidated :
    normalizeBasePath " /smarthome/api/ " = .ok "/smarthome/api" ∧
    ("/smarthome/api" = "" ↔ ∀ x ∈ (Text.trim " /smarthome/api/ ").toList, x = '/') ∧
    (normalizeBasePath "/smarthome/api" = .ok "/smarthome/api" ↔
      "/smarthome/api" ≠ "" ∧ Text.trimEnd "/smarthome/api" = "/smarthome/api") ∧
    ∀ c : PanelConfig, c.withApiBasePath (some " /smarthome/api/ ") =
        .ok { c with apiBasePath := "/smarthome/api" } ∧
      ({ c with apiBasePath := "/smarthome/api" }.validate = .ok () ↔ "/smarthome/api" ≠ "") ∧
      (∀ client page, nativePanel client page { c with apiBasePath := "/smarthome/api" } =
        .error .invalidBasePath ↔ "/smarthome/api" = "") ∧
      (Executor.withBasePath "/smarthome/api").basePath = "/smarthome/api" :=
  have h : normalizeBasePath " /smarthome/api/ " = .ok "/smarthome/api" :=
    (normalizeBasePath_eq_ok_iff _ _).mpr ⟨by decide, by decide⟩
  ⟨h, base_path_override_revalidated h⟩

/-- The root override is stored as the empty path, which the check refuses. -/
theorem root_base_path_refused :
    normalizeBasePath "/" = .ok "" ∧ normalizeBasePath "" = .error .invalidBasePath ∧
      nativePanel ⟨defaultBaseUrl⟩ Page.new { apiBasePath := "" } = .error .invalidBasePath := by
  have hempty : normalizeBasePath "" = .error .invalidBasePath := by
    unfold normalizeBasePath
    rw [if_neg (by rw [Text.startsWith_slash_iff]; decide)]
  refine ⟨(normalizeBasePath_eq_ok_iff "/" "").mpr ⟨by decide, by decide⟩, hempty, ?_⟩
  simp [nativePanel, PanelConfig.validate, hempty, bind, Except.bind, Except.map]

end HomePanel
