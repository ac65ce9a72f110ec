import HomePanel.Page.Query
import HomePanel.Json.Text
import HomePanel.Text.Case

/-!
# Trace

Every interaction leaves a trace entry: a time of day, a message and an optional JSON
payload. Rendered, an entry is `[HH:MM:SS] message`, followed on the next lines by the
indented JSON of its payload when it has one.

A presenter hands each entry to all its sinks in order. A page log sink puts the rendered
entry and a blank line in front of the text of its element (newest first, never cut), and
does nothing while the element is missing; a memory sink keeps the entries in order; a log
sink writes to the program's log, which the page does not see. A pattern result is also
written, with its time, into the element `<pattern>-result`: a string payload as it is,
another payload as indented JSON.
-/

namespace HomePanel

/-- A time of day. -/
structure TimeOfDay where
  hour : Nat
  minute : Nat
  second : Nat
  deriving DecidableEq, Repr, Inhabited

namespace TimeOfDay

/-- Two decimal digits. -/
def twoDigits (n : Nat) : String := if n < 10 then "0" ++ toString n else toString n

/-- `HH:MM:SS`. -/
def label (t : TimeOfDay) : String :=
  twoDigits t.hour ++ ":" ++ twoDigits t.minute ++ ":" ++ twoDigits t.second

end TimeOfDay

/-- One entry of the interaction trace. -/
structure TraceEntry where
  time : TimeOfDay
  message : String
  payload : Option Json
  deriving Repr

namespace TraceEntry

def timeLabel (e : TraceEntry) : String := e.time.label

/-- `[HH:MM:SS] message`, then the indented payload on the next lines. -/
def render (e : TraceEntry) : String :=
  let head := "[" ++ e.timeLabel ++ "] " ++ e.message
  match e.payload with
  | some p => head ++ "\n" ++ p.pretty
  | none => head

end TraceEntry

/-- Where trace entries go. -/
inductive Sink where
  /-- Prepends each rendered entry to the text of the element with this id. -/
  | pageLog (elementId : String)
  /-- Keeps the entries, oldest first. -/
  | memory (entries : List TraceEntry)
  /-- Writes to the program's log. -/
  | log
  deriving Repr

namespace Sink

/-- Hands one entry to a sink. -/
def append (s : Sink) (page : Page) (e : TraceEntry) : Sink × Page :=
  match s with
  | .pageLog id =>
    match page.elementById? id with
    | some i =>
      let previous := ((page.element? i).map Element.text).getD ""
      (s, page.setText i (e.render ++ "\n\n" ++ previous))
    | none => (s, page)
  | .memory entries => (.memory (entries ++ [e]), page)
  | .log => (s, page)

/-- The entries a memory sink kept. -/
def entries : Sink → List TraceEntry
  | .memory entries => entries
  | _ => []

end Sink

/-- The sinks of a presenter, in the order they were added. -/
structure Presenter where
  sinks : List Sink := []
  deriving Repr

/-- Writes an entry into the result panel `<pattern>-result`; `false` when it is missing. -/
def Page.writeResultPanel (page : Page) (pattern : String) (e : TraceEntry) : Page × Bool :=
  match page.elementById? (pattern ++ "-result") with
  | none => (page, false)
  | some i =>
    let text := match e.payload with
      | some (.string s) => s
      | some v => v.pretty
      | none => e.message
    (page.setText i ("[" ++ e.timeLabel ++ "] " ++ text), true)

namespace Presenter

def addSink (p : Presenter) (s : Sink) : Presenter := ⟨p.sinks ++ [s]⟩

/-- Hands an entry to every sink, in order. -/
def deliver (p : Presenter) (page : Page) (e : TraceEntry) : Presenter × Page :=
  let (sinks, page) := p.sinks.foldl (fun (acc : List Sink × Page) s =>
    let (s, page) := s.append acc.2 e
    (acc.1 ++ [s], page)) ([], page)
  (⟨sinks⟩, page)

/-- Makes an entry and hands it to every sink. -/
def present (p : Presenter) (page : Page) (time : TimeOfDay) (message : String)
    (payload : Option Json) : TraceEntry × Presenter × Page :=
  let e : TraceEntry := ⟨time, message, payload⟩
  let (p, page) := p.deliver page e
  (e, p, page)

/-- The message of a pattern result: the pattern in upper case, in brackets. -/
def patternMessage (pattern : String) : String := "[" ++ Text.toUpper pattern ++ "]"

/-- Writes a pattern result into its panel, then hands it to every sink. -/
def presentPatternResult (p : Presenter) (page : Page) (time : TimeOfDay) (pattern : String)
    (data : Json) : TraceEntry × Presenter × Page :=
  let e : TraceEntry := ⟨time, patternMessage pattern, some data⟩
  let (page, _) := page.writeResultPanel pattern e
  let (p, page) := p.deliver page e
  (e, p, page)

/-- The entries of the memory sinks, in order (each sink's in turn). -/
def memoryEntries (p : Presenter) : List TraceEntry := p.sinks.flatMap Sink.entries

def debugText (p : Presenter) : String :=
  "Presenter \x7b sinks: " ++ toString p.sinks.length ++ " \x7d"

end Presenter

end HomePanel
