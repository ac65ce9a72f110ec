import HomePanel.Proofs.Page.Text

/-!
# Presenting a sequence of entries

A presenter is used through two calls: `present` makes an entry and hands it to every sink,
and `presentPatternResult` first writes the entry into its pattern's result panel. Run on
a sequence of calls (`Presenter.run`), every sink is handed the entries of the calls, in
call order (`run_presenter`), so a memory sink ends with exactly those entries after the
ones it held.

A page log sink prepends each rendered entry and a blank line to the text of its element.
What a sink writes into the page does not depend on what it holds, so the page after the
run is the page each call writes with the sinks the presenter started with
(`run_page`). When nothing else writes the log element, its text after the run is the
rendered entries, newest first, each followed by a blank line, in front of its first text
(`textAt_run_log`); a log sink whose element is missing changes nothing
(`run_page_without_missing_log`).
-/

namespace HomePanel

/-- One call made on a presenter. -/
inductive PresenterCall where
  /-- `present`: an entry with a message and an optional payload. -/
  | present (time : TimeOfDay) (message : String) (payload : Option Json)
  /-- `presentPatternResult`: a pattern's result, also written into its result panel. -/
  | patternResult (time : TimeOfDay) (pattern : String) (data : Json)

namespace PresenterCall

/-- The entry a call makes. -/
def entry : PresenterCall → TraceEntry
  | .present time message payload => ⟨time, message, payload⟩
  | .patternResult time pattern data => ⟨time, Presenter.patternMessage pattern, some data⟩

/-- The page after the write a call makes before it hands its entry to the sinks. -/
def writePanel : PresenterCall → Page → Page
  | .present .., page => page
  | c@(.patternResult _ pattern _), page => page.showResult pattern c.entry

/-- The id of the result panel a call writes, if any. -/
def panel? : PresenterCall → Option String
  | .present .. => none
  | .patternResult _ pattern _ => some (pattern ++ "-result")

end PresenterCall

namespace Presenter

/-- Makes one call. -/
def call (p : Presenter) (page : Page) : PresenterCall → TraceEntry × Presenter × Page
  | .present time message payload => p.present page time message payload
  | .patternResult time pattern data => p.presentPatternResult page time pattern data

/-- Makes calls in order: the entries they made, then the presenter and the page after
them. -/
def run (p : Presenter) (page : Page) : List PresenterCall → List TraceEntry × Presenter × Page
  | [] => ([], p, page)
  | c :: cs =>
    let (e, p, page) := p.call page c
    let (es, p, page) := p.run page cs
    (e :: es, p, page)

/-! ## One call -/

theorem call_eq (p : Presenter) (page : Page) (c : PresenterCall) :
    p.call page c =
      (c.entry, p.receive [c.entry], deliverPage p.sinks (c.writePanel page) c.entry) := by
  cases c with
  | present time message payload =>
      simp only [call, present, PresenterCall.entry, PresenterCall.writePanel]
      rw [← deliver_fst, ← deliver_snd]
  | patternResult time pattern data =>
      simp only [call, presentPatternResult, PresenterCall.entry, PresenterCall.writePanel,
        Page.showResult]
      rw [← deliver_fst, ← deliver_snd]

/-! ## Runs -/

theorem run_cons (p : Presenter) (page : Page) (c : PresenterCall) (cs : List PresenterCall) :
    p.run page (c :: cs) =
      (c.entry :: ((p.receive [c.entry]).run
          (deliverPage p.sinks (c.writePanel page) c.entry) cs).1,
        ((p.receive [c.entry]).run (deliverPage p.sinks (c.writePanel page) c.entry) cs).2) := by
  simp only [run, call_eq]

theorem run_entries (p : Presenter) (page : Page) (calls : List PresenterCall) :
    (p.run page calls).1 = calls.map PresenterCall.entry := by
  induction calls generalizing p page with
  | nil => rfl
  | cons c cs ih => rw [run_cons, ih, List.map_cons]

/-- Every sink is handed the entries of the calls, in call order. -/
theorem run_presenter (p : Presenter) (page : Page) (calls : List PresenterCall) :
    (p.run page calls).2.1 = p.receive (calls.map PresenterCall.entry) := by
  induction calls generalizing p page with
  | nil => simp [run]
  | cons c cs ih => rw [run_cons, ih, receive_receive, List.map_cons, List.singleton_append]

/-- What a sink writes into the page does not depend on the entries it holds. -/
theorem append_snd_receive (s : Sink) (es : List TraceEntry) (page : Page) (e : TraceEntry) :
    ((s.receive es).append page e).2 = (s.append page e).2 := by
  cases s <;> rfl

theorem deliverPage_receive (sinks : List Sink) (es : List TraceEntry) (page : Page)
    (e : TraceEntry) :
    deliverPage (sinks.map (·.receive es)) page e = deliverPage sinks page e := by
  induction sinks generalizing page with
  | nil => rfl
  | cons s sinks ih =>
      simp only [List.map_cons, deliverPage, List.foldl_cons, append_snd_receive]
      exact ih _

theorem deliverPage_append (sinks sinks' : List Sink) (page : Page) (e : TraceEntry) :
    deliverPage (sinks ++ sinks') page e = deliverPage sinks' (deliverPage sinks page e) e :=
  List.foldl_append

/-- The page after a run is the page each call writes, with the sinks the presenter
started with. -/
theorem run_page (p : Presenter) (page : Page) (calls : List PresenterCall) :
    (p.run page calls).2.2 =
      calls.foldl (fun page c => deliverPage p.sinks (c.writePanel page) c.entry) page := by
  induction calls generalizing p page with
  | nil => rfl
  | cons c cs ih =>
      rw [run_cons, ih, List.foldl_cons, receive_sinks]
      congr 1
      funext page c'
      rw [deliverPage_receive]

end Presenter

/-! ## The log element -/

namespace PresenterCall

theorem redrawn_writePanel (c : PresenterCall) (page : Page) :
    page.Redrawn (c.writePanel page) [] 0 := by
  cases c with
  | present => exact Page.Redrawn.refl page
  | patternResult => exact Page.redrawn_showResult _ _ _

@[simp] theorem elementById?_writePanel (c : PresenterCall) (page : Page) (x : String) :
    (c.writePanel page).elementById? x = page.elementById? x :=
  Page.elementById?_eq_of_skeleton (c.redrawn_writePanel page).layout.skeleton x

/-- A call whose panel is not `x` keeps the text of the element `x` finds. -/
theorem textAt_writePanel {c : PresenterCall} {x : String} (hc : c.panel? ≠ some x)
    {page : Page} {i : Nat} (hi : page.elementById? x = some i) :
    (c.writePanel page).textAt i = page.textAt i := by
  cases c with
  | present => rfl
  | patternResult time pattern data =>
      simp only [writePanel, Page.showResult, Page.writeResultPanel]
      split
      · rfl
      · rename_i j hj
        have hji : j ≠ i := by
          rintro rfl
          exact Page.elementById?_ne hi (fun h => hc (by rw [panel?, h])) hj
        exact Page.textAt_setText_ne _ hji _

end PresenterCall

@[simp] theorem Sink.elementById?_append (s : Sink) (page : Page) (e : TraceEntry) (x : String) :
    (s.append page e).2.elementById? x = page.elementById? x :=
  Page.elementById?_eq_of_skeleton (Page.redrawn_append s page e).layout.skeleton x

/-- No entry handed to sinks changes which element an id finds. -/
@[simp] theorem Presenter.elementById?_deliverPage (sinks : List Sink) (page : Page)
    (e : TraceEntry) (x : String) :
    (Presenter.deliverPage sinks page e).elementById? x = page.elementById? x :=
  Page.elementById?_eq_of_skeleton (Page.redrawn_deliverPage sinks page e).layout.skeleton x

/-- Handing an entry to a page log sink whose id finds an element with some text puts the
rendered entry and a blank line in front of that text. -/
theorem Sink.textAt_append_pageLog {page : Page} {x : String} {i : Nat}
    (hi : page.elementById? x = some i) {text : String} (ht : page.textAt i = some text)
    (e : TraceEntry) :
    ((Sink.pageLog x).append page e).2.textAt i = some (e.render ++ "\n\n" ++ text) := by
  have hprevious : ((page.element? i).map Element.text).getD "" = text := by
    rw [← Page.textAt, ht]
    rfl
  simp only [Sink.append, hi, hprevious]
  exact Page.textAt_setText_found hi _

namespace Presenter

section Log

variable {pre post : List Sink} {x : String}

/-- One entry handed to sinks among which only one page log sink writes the element `x`
finds. -/
theorem textAt_deliverPage_log
    (hothers : ∀ s ∈ pre ++ post, ∀ y, s = .pageLog y → y ≠ x)
    {page : Page} {i : Nat} (hi : page.elementById? x = some i) {text : String}
    (ht : page.textAt i = some text) (e : TraceEntry) :
    (deliverPage (pre ++ Sink.pageLog x :: post) page e).textAt i =
      some (e.render ++ "\n\n" ++ text) := by
  have hpre := Page.textAt_deliverPage_of_found hi pre
    (fun s hs => hothers s (List.mem_append_left _ hs)) e
  have hi' : (deliverPage pre page e).elementById? x = some i := by
    rw [elementById?_deliverPage]
    exact hi
  rw [deliverPage_append]
  change (deliverPage post ((Sink.pageLog x).append (deliverPage pre page e) e).2 e).textAt i = _
  rw [Page.textAt_deliverPage_of_found (by rw [Sink.elementById?_append]; exact hi') post
    (fun s hs => hothers s (List.mem_append_right _ hs)) e,
    Sink.textAt_append_pageLog hi' (hpre.trans ht) e]

/-- The text of a log element that only its own sink writes, after a run: the rendered
entries, newest first, each followed by a blank line, in front of its first text. -/
theorem textAt_run_log {p : Presenter} (hsinks : p.sinks = pre ++ Sink.pageLog x :: post)
    (hothers : ∀ s ∈ pre ++ post, ∀ y, s = .pageLog y → y ≠ x)
    {calls : List PresenterCall} (hcalls : ∀ c ∈ calls, c.panel? ≠ some x)
    {page : Page} {i : Nat} (hi : page.elementById? x = some i) {text : String}
    (ht : page.textAt i = some text) :
    (p.run page calls).2.2.textAt i =
      some (String.join ((calls.map PresenterCall.entry).reverse.map
        fun e => e.render ++ "\n\n") ++ text) := by
  rw [run_page, hsinks]
  -- induction on the calls, carrying the element found by `x` and its text
  induction calls generalizing page text with
  | nil => simpa using ht
  | cons c cs ih =>
      have hc := hcalls c List.mem_cons_self
      have hwi : (c.writePanel page).elementById? x = some i := by
        rw [PresenterCall.elementById?_writePanel]
        exact hi
      rw [List.foldl_cons, ih (fun c' hc' => hcalls c' (List.mem_cons_of_mem _ hc'))
        (by rw [elementById?_deliverPage]; exact hwi)
        (textAt_deliverPage_log hothers hwi
          ((PresenterCall.textAt_writePanel hc hi).trans ht) c.entry)]
      simp [String.append_assoc]

/-- A page log sink whose element is missing writes nothing. -/
theorem deliverPage_missing_log {page : Page} (hx : page.elementById? x = none)
    (e : TraceEntry) :
    deliverPage (pre ++ Sink.pageLog x :: post) page e = deliverPage (pre ++ post) page e := by
  have hmissing : (deliverPage pre page e).elementById? x = none := by
    rw [elementById?_deliverPage]
    exact hx
  rw [deliverPage_append, deliverPage_append]
  change deliverPage post ((Sink.pageLog x).append (deliverPage pre page e) e).2 e = _
  simp only [Sink.append, hmissing]

/-- Over a whole run, a page log sink whose element is missing changes nothing. -/
theorem run_page_without_missing_log {p : Presenter}
    (hsinks : p.sinks = pre ++ Sink.pageLog x :: post) {page : Page}
    (hx : page.elementById? x = none) (calls : List PresenterCall) :
    (p.run page calls).2.2 = ((⟨pre ++ post⟩ : Presenter).run page calls).2.2 := by
  rw [run_page, run_page, hsinks]
  induction calls generalizing page with
  | nil => rfl
  | cons c cs ih =>
      have hwx : (c.writePanel page).elementById? x = none := by
        rw [PresenterCall.elementById?_writePanel]
        exact hx
      rw [List.foldl_cons, List.foldl_cons, deliverPage_missing_log hwx]
      apply ih
      rw [elementById?_deliverPage]
      exact hwx

end Log

/-- A presenter fans its entries out. Run on any calls, it makes their entries in call
order and every sink is handed exactly those entries in that order, so a memory sink ends
with them after what it held. A page log sink's element, written by nothing else, ends
with the rendered entries, newest first, each followed by a blank line, in front of its
first text; a page log sink whose element is missing changes nothing. -/
theorem fans_out_in_call_order (p : Presenter) (page : Page)
    (calls : List PresenterCall) :
    (p.run page calls).1 = calls.map PresenterCall.entry ∧
    (p.run page calls).2.1 = p.receive (calls.map PresenterCall.entry) ∧
    (∀ (k : Nat) (entries : List TraceEntry), p.sinks[k]? = some (Sink.memory entries) →
      (p.run page calls).2.1.sinks[k]? =
        some (Sink.memory (entries ++ calls.map PresenterCall.entry))) ∧
    (∀ pre post x i text, p.sinks = pre ++ Sink.pageLog x :: post →
      (∀ s ∈ pre ++ post, ∀ y, s = .pageLog y → y ≠ x) →
      (∀ c ∈ calls, c.panel? ≠ some x) →
      page.elementById? x = some i → page.textAt i = some text →
      (p.run page calls).2.2.textAt i =
        some (String.join ((calls.map PresenterCall.entry).reverse.map
          fun e => e.render ++ "\n\n") ++ text)) ∧
    (∀ pre post x, p.sinks = pre ++ Sink.pageLog x :: post → page.elementById? x = none →
      (p.run page calls).2.2 = ((⟨pre ++ post⟩ : Presenter).run page calls).2.2) := by
  refine ⟨run_entries p page calls, run_presenter p page calls, ?_,
    fun _ _ _ _ _ hsinks hothers hcalls hi ht => textAt_run_log hsinks hothers hcalls hi ht,
    fun _ _ _ hsinks hx => run_page_without_missing_log hsinks hx calls⟩
  intro k entries hk
  rw [run_presenter, receive_sinks, List.getElem?_map, hk]
  rfl

end Presenter

end HomePanel
