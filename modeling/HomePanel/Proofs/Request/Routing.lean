import HomePanel.Proofs.Template
import HomePanel.Transport.Scripted

/-!
# Request URLs and their routing key

An executor puts its base path, without its trailing slashes, in front of the
expanded template and the query. The routing key of a request is its URL up to
the first `?` (`ApiRequest.path`), and the scripted backend matches routes on it.
When neither the base path nor the template holds a `?`, the key is the base path
and the expanded path whatever the parameter values are: a substituted value is
segment-encoded and never holds a `?`, and the query is empty or starts with one
(`requestFor_routing_key`).
-/

namespace HomePanel

/-! ## Trailing slashes -/

namespace Text

theorem toList_dropTrailing (c : Char) (s : String) :
    (dropTrailing c s).toList = (s.toList.reverse.dropWhile (· == c)).reverse := by
  rw [dropTrailing, String.toList_ofList]

/-- Dropping trailing copies of `c` leaves a text that does not end in `c`, and the
original is that text followed by some copies of `c`. -/
theorem dropTrailing_spec (c : Char) (s : String) :
    (∃ k, s.toList = (dropTrailing c s).toList ++ List.replicate k c) ∧
      (dropTrailing c s).toList.getLast? ≠ some c := by
  have htaken : s.toList.reverse.takeWhile (· == c) =
      List.replicate (s.toList.reverse.takeWhile (· == c)).length c := by
    rw [List.eq_replicate_iff]
    refine ⟨rfl, ?_⟩
    intro x hx
    simpa using List.mem_takeWhile_imp hx
  constructor
  · refine ⟨(s.toList.reverse.takeWhile (· == c)).length, ?_⟩
    conv => lhs; rw [← List.reverse_reverse s.toList,
      ← List.takeWhile_append_dropWhile (p := (· == c)) (l := s.toList.reverse)]
    rw [List.reverse_append, toList_dropTrailing, htaken, List.reverse_replicate,
      List.length_replicate]
  · rw [toList_dropTrailing, List.getLast?_reverse]
    cases hdrop : s.toList.reverse.dropWhile (· == c) with
    | nil => simp
    | cons x rest =>
        have hhead := List.head_dropWhile_not (· == c) (l := s.toList.reverse)
          (by rw [hdrop]; exact List.cons_ne_nil x rest)
        simp only [hdrop, List.head_cons, beq_eq_false_iff_ne] at hhead
        simpa using hhead

theorem mem_of_mem_dropTrailing {c x : Char} {s : String}
    (h : x ∈ (dropTrailing c s).toList) : x ∈ s.toList := by
  rw [toList_dropTrailing, List.mem_reverse] at h
  exact List.mem_reverse.mp ((List.dropWhile_sublist _).subset h)

end Text

/-! ## Characters of a path -/

namespace Url

theorem mem_encodeSegment {s : String} {x : Char} (h : x ∈ (encodeSegment s).toList) :
    segmentKeeps x = true ∨ x = '%' ∨ x ∈ upperHexDigits := by
  rw [encodeSegment, String.toList_ofList] at h
  obtain ⟨c, _, hx⟩ := List.mem_flatMap.mp h
  unfold encodeSegmentChar at hx
  split at hx
  · next hkeep =>
      rw [List.mem_singleton] at hx
      exact .inl (hx ▸ hkeep)
  · exact .inr (mem_percentChar hx)

theorem question_not_mem_encodeSegment (s : String) : '?' ∉ (encodeSegment s).toList := by
  intro h
  rcases mem_encodeSegment h with h | h | h
  · revert h
    decide
  · revert h
    decide
  · revert h
    decide

end Url

namespace Template

theorem mem_of_scan_char {cs : List Char} {ps : List TemplatePiece} (h : Scan cs ps) {c : Char}
    (hc : TemplatePiece.char c ∈ ps) : c ∈ cs := by
  induction h with
  | nil => simp at hc
  | placeholder hat _ ih =>
      rcases List.mem_cons.mp hc with hc | hc
      · cases hc
      · rw [hat.2.2]
        simp [ih hc]
  | char _ _ ih =>
      rcases List.mem_cons.mp hc with hc | hc
      · cases hc
        exact List.mem_cons_self
      · exact List.mem_cons_of_mem _ (ih hc)

theorem mem_fill {ps : List TemplatePiece} {texts : List String} {x : Char}
    (h : x ∈ fill ps texts) :
    TemplatePiece.char x ∈ ps ∨ ∃ text ∈ texts, x ∈ text.toList := by
  induction ps generalizing texts with
  | nil => simp [fill] at h
  | cons p ps ih =>
      cases p with
      | char c =>
          rw [fill, List.mem_cons] at h
          rcases h with rfl | h
          · exact .inl List.mem_cons_self
          · rcases ih h with h | h
            · exact .inl (List.mem_cons_of_mem _ h)
            · exact .inr h
      | placeholder name =>
          rw [fill, List.mem_append] at h
          rcases h with h | h
          · cases texts with
            | nil => simp at h
            | cons text texts => exact .inr ⟨text, List.mem_cons_self, h⟩
          · rcases ih h with h | ⟨text, htext, hx⟩
            · exact .inl (List.mem_cons_of_mem _ h)
            · exact .inr ⟨text, List.mem_of_mem_tail htext, hx⟩

theorem mem_substitution {m : ParamMap} {before : List String} {name : String} {x : Char}
    (h : x ∈ (m.substitution before name).toList) : ∃ s, x ∈ (Url.encodeSegment s).toList := by
  unfold ParamMap.substitution at h
  split at h
  · simp at h
  · cases hvalue : m.get? name with
    | none => simp [hvalue] at h
    | some v =>
        rw [hvalue] at h
        exact ⟨v.pathText, h⟩

/-- A character of an expanded path is a character of the template or of an
encoded value. -/
theorem mem_expand_path {t : String} {m : ParamMap} {x : Char} (h : x ∈ (expand t m).1.toList) :
    x ∈ t.toList ∨ ∃ s, x ∈ (Url.encodeSegment s).toList := by
  rw [(expand_eq_fill t m).1, String.toList_ofList] at h
  rcases mem_fill h with h | ⟨text, htext, hx⟩
  · exact .inl (mem_of_scan_char (scan_pieces t.toList) h)
  · obtain ⟨i, hi, rfl⟩ := List.mem_mapIdx.mp htext
    exact .inr (mem_substitution hx)

theorem question_not_mem_expand {t : String} (ht : '?' ∉ t.toList) (m : ParamMap) :
    '?' ∉ (expand t m).1.toList := by
  intro h
  rcases mem_expand_path h with h | ⟨s, hs⟩
  · exact ht h
  · exact Url.question_not_mem_encodeSegment s hs

end Template

/-! ## The routing key -/

namespace ParamMap

theorem query_eq_empty_or_question (m : ParamMap) : m.query = "" ∨ ∃ form, m.query = "?" ++ form := by
  by_cases hpairs : m.queryPairs = []
  · exact .inl (query_of_queryPairs_eq_nil hpairs)
  · exact .inr ⟨_, query_of_queryPairs_ne_nil hpairs⟩

end ParamMap

namespace ApiRequest

/-- The routing key of a URL made of a text without `?` and a query. -/
theorem path_of_query (method : HttpMethod) (pre query : String) (hpre : '?' ∉ pre.toList)
    (hquery : query = "" ∨ ∃ form, query = "?" ++ form) :
    path ⟨method, pre ++ query⟩ = pre := by
  have hkeep : ∀ x ∈ pre.toList, (x != '?') = true := by
    intro x hx
    rw [bne_iff_ne]
    rintro rfl
    exact hpre hx
  have hmark : "?".toList = ['?'] := by decide
  rw [path, String.toList_append, List.takeWhile_append_of_pos hkeep]
  rcases hquery with rfl | ⟨form, rfl⟩
  · simp
  · rw [String.toList_append, hmark, List.singleton_append,
      List.takeWhile_cons_of_neg (by decide), List.append_nil, String.ofList_toList]

end ApiRequest

namespace ScriptedBackend

/-- The scripted backend answers from the method and the routing key alone. -/
theorem answer_eq_of_path (b : ScriptedBackend) {r r' : ApiRequest} (hmethod : r.method = r'.method)
    (hpath : r.path = r'.path) : b.answer r = b.answer r' := by
  unfold answer
  rw [hmethod, hpath]

end ScriptedBackend

namespace Executor

/-- The URL of a request is the base path without its trailing slashes, the expanded
path and the query of the parameters left; when neither the base path nor the
template holds a `?`, no substituted value brings one in, its routing key is the base
path and the expanded path, and the scripted backend answers it as it answers that
key. -/
theorem requestFor_routing_key (b t : String) (hb : '?' ∉ b.toList) (ht : '?' ∉ t.toList)
    (method : HttpMethod) (m : ParamMap) :
    (∃ k, b.toList = (withBasePath b).basePath.toList ++ List.replicate k '/') ∧
    (withBasePath b).basePath.toList.getLast? ≠ some '/' ∧
    ((withBasePath b).requestFor method t m).url =
      (withBasePath b).basePath ++ (Template.expand t m).1 ++ (Template.expand t m).2.query ∧
    ((withBasePath b).requestFor method t m).path =
      (withBasePath b).basePath ++ (Template.expand t m).1 ∧
    '?' ∉ (Template.expand t m).1.toList ∧
    ∀ backend : ScriptedBackend, backend.answer ((withBasePath b).requestFor method t m) =
      backend.answer ⟨method, (withBasePath b).basePath ++ (Template.expand t m).1⟩ := by
  have hurl : ((withBasePath b).requestFor method t m).url =
      (withBasePath b).basePath ++ (Template.expand t m).1 ++ (Template.expand t m).2.query := by
    rw [requestFor, String.append_assoc]
    rfl
  have hpre : '?' ∉ ((withBasePath b).basePath ++ (Template.expand t m).1).toList := by
    rw [String.toList_append, List.mem_append, not_or]
    exact ⟨fun h => hb (Text.mem_of_mem_dropTrailing h), Template.question_not_mem_expand ht m⟩
  have hpath : ((withBasePath b).requestFor method t m).path =
      (withBasePath b).basePath ++ (Template.expand t m).1 := by
    have hrequest : (withBasePath b).requestFor method t m =
        ⟨method, (withBasePath b).basePath ++ (Template.expand t m).1 ++
          (Template.expand t m).2.query⟩ := by
      rw [← hurl]
      rfl
    rw [hrequest]
    exact ApiRequest.path_of_query method _ _ hpre (ParamMap.query_eq_empty_or_question _)
  have hkey : ApiRequest.path ⟨method, (withBasePath b).basePath ++ (Template.expand t m).1⟩ =
      (withBasePath b).basePath ++ (Template.expand t m).1 := by
    have happend := ApiRequest.path_of_query method _ "" hpre (.inl rfl)
    rwa [String.append_empty] at happend
  refine ⟨(Text.dropTrailing_spec '/' b).1, (Text.dropTrailing_spec '/' b).2, hurl, hpath,
    Template.question_not_mem_expand ht m, ?_⟩
  intro backend
  exact backend.answer_eq_of_path rfl (hpath.trans hkey.symm)

/-- The routing key of a request under `/api//` for a value holding `?`, `/` and `#`. -/
theorem requestFor_routing_key_slashes :
    '?' ∉ "/api//".toList ∧ '?' ∉ "/devices/{id}/control".toList ∧
      ((withBasePath "/api//").requestFor .post "/devices/{id}/control"
          (ParamMap.ofList [("id", .text "a?b/#c"), ("action", .text "on")])).path =
        (withBasePath "/api//").basePath ++
          (Template.expand "/devices/{id}/control"
            (ParamMap.ofList [("id", .text "a?b/#c"), ("action", .text "on")])).1 :=
  ⟨by decide, by decide,
    (requestFor_routing_key "/api//" "/devices/{id}/control" (by decide) (by decide) .post
      (ParamMap.ofList [("id", .text "a?b/#c"), ("action", .text "on")])).2.2.2.1⟩

end Executor

end HomePanel
