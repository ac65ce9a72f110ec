import Mathlib
import HomePanel.Proofs.Config.BasePath

/-!
# Normalised base URLs, checked again

`normalizeBaseUrl` trims the blanks at both ends, drops the trailing slashes, and then
requires an HTTP origin: the text up to the first `://` is `http` or `https`, and what
follows is not blank and does not start with `/`. What it gives is such an origin and does
not end in `/` (`normalizeBaseUrl_eq_ok_iff`).

The HTTP client normalises the configured base URL once more, also when it was read from
the environment and so normalised already. Because the blanks are trimmed before the
slashes are dropped, `http://h /` gives `http://h ` and the second pass removes that
blank: a normalised URL is its own normal form exactly when it does not end in a blank,
and only then does the client send to the URL it was configured with
(`base_url_kept_by_client_iff_no_trailing_blank`).
-/

namespace HomePanel

namespace Text

/-- A text that starts with a character that is no blank has nothing to trim at its start. -/
theorem trimStart_of_cons {s : String} {c : Char} {cs : List Char} (hs : s.toList = c :: cs)
    (hc : isBlank c = false) : trimStart s = s := by
  apply String.toList_injective
  rw [trimStart, String.toList_ofList, hs, List.dropWhile_cons_of_neg (by simp [hc])]

/-- Trimming the end and then dropping trailing copies of `c` gives the text back exactly
when it ends in neither a blank nor `c`. -/
theorem dropTrailing_trimEnd_eq_self_iff (c : Char) (u : String) :
    dropTrailing c (trimEnd u) = u ↔ trimEnd u = u ∧ u.toList.getLast? ≠ some c := by
  constructor
  · intro h
    have hpre : (trimEnd u).toList <+: u.toList := by
      rw [toList_trimEnd]
      exact List.rdropWhile_prefix _ _
    have hlen : u.toList.length ≤ (trimEnd u).toList.length := by
      conv => lhs; rw [← h]
      rw [toList_dropTrailing_eq_rdropWhile]
      exact (List.rdropWhile_prefix _ _).length_le
    have htrim : trimEnd u = u := String.toList_injective (hpre.eq_of_length_le hlen)
    refine ⟨htrim, ?_⟩
    rw [← h]
    exact (dropTrailing_spec c _).2
  · rintro ⟨htrim, hlast⟩
    rw [htrim]
    apply String.toList_injective
    rw [toList_dropTrailing_eq_rdropWhile, List.rdropWhile_eq_self_iff]
    intro hne hc
    apply hlast
    rw [List.getLast?_eq_some_getLast hne]
    simpa using hc

end Text

/-! ## Splitting at the scheme -/

theorem splitAtSchemeMark_eq_some {cs a b : List Char} (h : splitAtSchemeMark cs = some (a, b)) :
    cs = a ++ ':' :: '/' :: '/' :: b := by
  fun_induction splitAtSchemeMark cs generalizing a b with
  | case1 rest =>
      simp only [Option.some.injEq, Prod.mk.injEq] at h
      obtain ⟨rfl, rfl⟩ := h
      rfl
  | case2 c rest _ ih =>
      obtain ⟨⟨a', b'⟩, hsplit, heq⟩ := Option.map_eq_some_iff.mp h
      simp only [Prod.mk.injEq] at heq
      obtain ⟨rfl, rfl⟩ := heq
      rw [ih hsplit]
      rfl
  | case3 => simp at h

/-- A URL splits into its scheme, the first `://` and the rest. -/
theorem splitScheme_eq_some {s scheme rest : String}
    (h : splitScheme s = some (scheme, rest)) : s = scheme ++ "://" ++ rest := by
  obtain ⟨⟨a, b⟩, hsplit, heq⟩ := Option.map_eq_some_iff.mp h
  simp only [Prod.mk.injEq] at heq
  obtain ⟨rfl, rfl⟩ := heq
  apply String.toList_injective
  simp [splitAtSchemeMark_eq_some hsplit]

/-! ## Normal forms -/

/-- What the check of a base URL asks of the normalised text: `http` or `https` up to the
first `://`, then a rest that is not blank and does not start with `/`. -/
def IsHttpOrigin (u : String) : Prop :=
  ∃ scheme rest, splitScheme u = some (scheme, rest) ∧ (scheme = "http" ∨ scheme = "https") ∧
    Text.isBlankText rest = false ∧ rest.startsWith "/" = false

theorem not_isHttpOrigin_empty : ¬ IsHttpOrigin "" := by
  rintro ⟨scheme, rest, hsplit, -⟩
  simp [splitScheme, splitAtSchemeMark] at hsplit

theorem not_isHttpOrigin_of_splitScheme_eq_none {t : String} (hsplit : splitScheme t = none) :
    ¬ IsHttpOrigin t := by
  rintro ⟨scheme, rest, hsome, -⟩
  rw [hsplit] at hsome
  cases hsome

theorem isHttpOrigin_iff_of_splitScheme {t scheme rest : String}
    (hsplit : splitScheme t = some (scheme, rest)) :
    IsHttpOrigin t ↔ (scheme = "http" ∨ scheme = "https") ∧
      Text.isBlankText rest = false ∧ rest.startsWith "/" = false := by
  constructor
  · rintro ⟨scheme', rest', hsome, hcheck⟩
    rw [hsplit] at hsome
    obtain ⟨rfl, rfl⟩ := Prod.mk.inj (Option.some.inj hsome)
    exact hcheck
  · exact fun hcheck => ⟨scheme, rest, hsplit, hcheck⟩

theorem normalizeBaseUrl_eq_ok_iff (s u : String) :
    normalizeBaseUrl s = .ok u ↔
      u = Text.dropTrailing '/' (Text.trim s) ∧ IsHttpOrigin u := by
  unfold normalizeBaseUrl
  simp only
  generalize Text.dropTrailing '/' (Text.trim s) = t
  split
  · rename_i hempty
    have ht : t = "" := String.isEmpty_iff.mp hempty
    subst ht
    simp only [reduceCtorEq, false_iff, not_and]
    rintro rfl
    exact not_isHttpOrigin_empty
  · cases hsplit : splitScheme t with
    | none =>
        simp only [reduceCtorEq, false_iff, not_and]
        rintro rfl
        exact not_isHttpOrigin_of_splitScheme_eq_none hsplit
    | some r =>
        obtain ⟨scheme, rest⟩ := r
        have horigin := isHttpOrigin_iff_of_splitScheme hsplit
        simp only
        split
        · rename_i hok
          simp only [Except.ok.injEq]
          constructor
          · rintro rfl
            exact ⟨rfl, horigin.mpr ⟨hok.1, by simpa using hok.2.1, by simpa using hok.2.2⟩⟩
          · rintro ⟨rfl, -⟩
            rfl
        · rename_i hbad
          simp only [reduceCtorEq, false_iff, not_and]
          rintro rfl hu
          obtain ⟨hscheme, hblank, hslash⟩ := horigin.mp hu
          exact hbad ⟨hscheme, by simp [hblank], by simp [hslash]⟩

section Normalized

variable {s u : String} (h : normalizeBaseUrl s = .ok u)
include h

/-- A normalised URL is `http://` or `https://` followed by a rest that is not blank and does
not start with `/`. -/
theorem normalizeBaseUrl_origin :
    ∃ scheme rest, (scheme = "http" ∨ scheme = "https") ∧ u = scheme ++ "://" ++ rest ∧
      Text.isBlankText rest = false ∧ rest.startsWith "/" = false := by
  obtain ⟨-, scheme, rest, hsplit, hscheme, hblank, hslash⟩ :=
    (normalizeBaseUrl_eq_ok_iff s u).mp h
  exact ⟨scheme, rest, hscheme, splitScheme_eq_some hsplit, hblank, hslash⟩

theorem normalizeBaseUrl_getLast : u.toList.getLast? ≠ some '/' := by
  obtain ⟨rfl, -⟩ := (normalizeBaseUrl_eq_ok_iff s u).mp h
  exact (Text.dropTrailing_spec '/' _).2

/-- A normalised URL starts with `h`, so trimming it only drops the blanks at its end. -/
theorem normalizeBaseUrl_trim : Text.trim u = Text.trimEnd u := by
  obtain ⟨scheme, rest, hscheme, rfl, -⟩ := normalizeBaseUrl_origin h
  have hhead : ∃ cs, (scheme ++ "://" ++ rest).toList = 'h' :: cs := by
    rcases hscheme with rfl | rfl <;> exact ⟨_, by simp; rfl⟩
  obtain ⟨cs, hcs⟩ := hhead
  rw [Text.trim, Text.trimStart_of_cons hcs (by decide)]

/-- A second normalisation gives the URL back exactly when it does not end in a blank. -/
theorem normalizeBaseUrl_self_iff : normalizeBaseUrl u = .ok u ↔ Text.trimEnd u = u := by
  obtain ⟨-, horigin⟩ := (normalizeBaseUrl_eq_ok_iff s u).mp h
  rw [normalizeBaseUrl_eq_ok_iff, normalizeBaseUrl_trim h, eq_comm,
    Text.dropTrailing_trimEnd_eq_self_iff]
  simp [horigin, normalizeBaseUrl_getLast h]

end Normalized

/-! ## The client -/

/-- A client made from the environment sends every request to the configured base URL
followed by the request's URL exactly when that base URL normalises to itself. -/
theorem HttpClient.fromEnv_keeps_iff {setting : Option String} {u : String}
    (h : ClientConfig.fromEnv setting = .ok ⟨u⟩) :
    (∃ c, HttpClient.fromEnv setting = .ok c ∧ ∀ req, c.endpoint req = u ++ req.url) ↔
      normalizeBaseUrl u = .ok u := by
  have hclient : HttpClient.fromEnv setting = (normalizeBaseUrl u).map HttpClient.mk := by
    simp [HttpClient.fromEnv, h, HttpClient.new, bind, Except.bind]
  rw [hclient]
  constructor
  · rintro ⟨c, hc, hend⟩
    have hbase : c.baseUrl = u := by
      simpa [HttpClient.endpoint] using hend ⟨.get, ""⟩
    cases hn : normalizeBaseUrl u with
    | error e => simp [hn, Except.map] at hc
    | ok v =>
        simp only [hn, Except.map, Except.ok.injEq] at hc
        rw [← hbase, ← hc]
  · intro hn
    exact ⟨⟨u⟩, by simp [hn, Except.map], fun _ => rfl⟩

/-- A normalised base URL is `http://` or `https://` followed by a rest that is neither blank
nor starts with `/`, and does not end in `/`. It normalises to itself exactly when it does not
end in a blank; and a client made from the environment, where the configuration holds it,
sends every request to it followed by the request's URL exactly then. -/
theorem base_url_kept_by_client_iff_no_trailing_blank {s u : String}
    (h : normalizeBaseUrl s = .ok u) :
    (∃ scheme rest, (scheme = "http" ∨ scheme = "https") ∧ u = scheme ++ "://" ++ rest ∧
      Text.isBlankText rest = false ∧ rest.startsWith "/" = false) ∧
    u.toList.getLast? ≠ some '/' ∧
    (normalizeBaseUrl u = .ok u ↔ Text.trimEnd u = u) ∧
    ∀ setting, ClientConfig.fromEnv setting = .ok ⟨u⟩ →
      ((∃ c, HttpClient.fromEnv setting = .ok c ∧ ∀ req, c.endpoint req = u ++ req.url) ↔
        Text.trimEnd u = u) :=
  ⟨normalizeBaseUrl_origin h, normalizeBaseUrl_getLast h, normalizeBaseUrl_self_iff h,
    fun _ henv => (HttpClient.fromEnv_keeps_iff henv).trans (normalizeBaseUrl_self_iff h)⟩

theorem home_base_url_kept_by_client :
    normalizeBaseUrl " https://home.example.com/ " = .ok "https://home.example.com" ∧
    ((∃ scheme rest, (scheme = "http" ∨ scheme = "https") ∧
        "https://home.example.com" = scheme ++ "://" ++ rest ∧
        Text.isBlankText rest = false ∧ rest.startsWith "/" = false) ∧
      "https://home.example.com".toList.getLast? ≠ some '/' ∧
      (normalizeBaseUrl "https://home.example.com" = .ok "https://home.example.com" ↔
        Text.trimEnd "https://home.example.com" = "https://home.example.com") ∧
      ∀ setting, ClientConfig.fromEnv setting = .ok ⟨"https://home.example.com"⟩ →
        ((∃ c, HttpClient.fromEnv setting = .ok c ∧
            ∀ req, c.endpoint req = "https://home.example.com" ++ req.url) ↔
          Text.trimEnd "https://home.example.com" = "https://home.example.com")) :=
  have h : normalizeBaseUrl " https://home.example.com/ " = .ok "https://home.example.com" := by
    decide +kernel
  ⟨h, base_url_kept_by_client_iff_no_trailing_blank h⟩

/-- A blank before the trailing slash survives the first normalisation and is trimmed by the
second: the configuration read from the environment keeps it, and the client drops it. -/
theorem blank_before_slash_dropped_by_client :
    normalizeBaseUrl "http://localhost:8080 /" = .ok "http://localhost:8080 " ∧
      normalizeBaseUrl "http://localhost:8080 " = .ok "http://localhost:8080" ∧
      ClientConfig.fromEnv (some "http://localhost:8080 /") = .ok ⟨"http://localhost:8080 "⟩ ∧
      HttpClient.fromEnv (some "http://localhost:8080 /") = .ok ⟨"http://localhost:8080"⟩ := by
  decide +kernel

end HomePanel
