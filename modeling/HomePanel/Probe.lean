import HomePanel.Client

/-!
# Probe

The probe boots a panel on the HTTP client against an empty page, runs catalog demos and
writes the trace to a file. Its command line has four options, each taking one value, as
`--name value` or `--name=value`: `--base-url`, `--api-base`, `--output`, and `--pattern`,
which may repeat; `-h` or `--help` asks for help. Arguments are read left to right and the
first fault wins:

* an unknown option (or an argument that no option waits for) is reported with the
  closest known option name when one is similar enough (Jaro similarity above 0.7); for
  an unknown long option the usage line names the options given so far and the
  suggested one;
* an option still waiting for its value is checked when the next known option starts or
  the arguments end: it must have one, a single-valued option may not be given twice,
  and an output path may not be empty;
* after `--` every argument is a stray one.

The run then takes the base URL (from the command line, else from the environment),
overrides the API base path, builds the panel, boots it, and runs each pattern given, or
every catalog demo in order. The trace file gets every entry rendered, oldest first,
separated by blank lines.
-/

namespace HomePanel

/-- The probe's command name. -/
def probeName : String := "smarthome-panel-probe"

/-- The options that take a value. -/
inductive ProbeOption where
  | baseUrl
  | apiBase
  | pattern
  | output
  deriving DecidableEq, Repr

namespace ProbeOption

def all : List ProbeOption := [.baseUrl, .apiBase, .pattern, .output]

def longName : ProbeOption → String
  | .baseUrl => "base-url"
  | .apiBase => "api-base"
  | .pattern => "pattern"
  | .output => "output"

def valueName : ProbeOption → String
  | .baseUrl => "BASE_URL"
  | .apiBase => "API_BASE"
  | .pattern => "PATTERNS"
  | .output => "OUTPUT"

/-- `--name <VALUE>`. -/
def display (o : ProbeOption) : String := "--" ++ o.longName ++ " <" ++ o.valueName ++ ">"

def repeatable (o : ProbeOption) : Bool := o == .pattern

def ofLongName? (name : String) : Option ProbeOption := all.find? (·.longName == name)

end ProbeOption

/-- The help text. -/
def probeHelp : String :=
  "Exercise the smart-home panel against a running backend\n\n" ++
  "Usage: " ++ probeName ++ " [OPTIONS]\n\n" ++
  "Options:\n" ++
  "      --base-url <BASE_URL>  Backend origin. Defaults to SMARTHOME_API_BASE_URL, then the local backend\n" ++
  "      --api-base <API_BASE>  Api base path prepended to every endpoint\n" ++
  "      --pattern <PATTERNS>   Pattern ids to run, in order. Runs the whole catalog when omitted\n" ++
  "      --output <OUTPUT>      File receiving the rendered trace, newest entry last\n" ++
  "  -h, --help                 Print help\n"

/-- The long option names, in the order a suggestion prefers the later of equals. -/
def probeLongNames : List String := ProbeOption.all.map ProbeOption.longName ++ ["help"]

/-- What the probe's command line asks for. `recorded` lists the options the command line
has given so far, each once, in the order they first came; a usage line names them. -/
structure ProbeArgs where
  baseUrl : Option String := none
  apiBase : Option String := none
  patterns : List String := []
  output : Option String := none
  recorded : List ProbeOption := []
  deriving DecidableEq, Repr

namespace ProbeArgs

def set (a : ProbeArgs) (o : ProbeOption) (v : String) : ProbeArgs :=
  match o with
  | .baseUrl => { a with baseUrl := some v }
  | .apiBase => { a with apiBase := some v }
  | .pattern => { a with patterns := a.patterns ++ [v] }
  | .output => { a with output := some v }

/-- Notes that an option was given; an option given before keeps its place. -/
def record (a : ProbeArgs) (o : ProbeOption) : ProbeArgs :=
  if a.recorded.contains o then a else { a with recorded := a.recorded ++ [o] }

end ProbeArgs

/-- How an option or the help flag is shown in a usage line. -/
def longDisplay (name : String) : String :=
  match ProbeOption.ofLongName? name with
  | some o => o.display
  | none => "--" ++ name

/-- All options as one group, `<--base-url <BASE_URL>|…>`, as a usage line names them once
any option has been given. -/
def optionGroupText : String :=
  "<" ++ "|".intercalate (ProbeOption.all.map ProbeOption.display) ++ ">"

/-- The usage line: the options named, or the generic one when none is. -/
def usageLine (shown : List String) : String :=
  "Usage: " ++ probeName ++
    (if shown.isEmpty then " [OPTIONS]" else String.join (shown.map (" " ++ ·)))

/-- Why a command line is refused. An unknown option names in its usage line the options
given so far and the suggested one; a value given to `--help` names `--help` and, once any
option was given, the group of all options. -/
inductive UsageError where
  | unknownArgument (arg : String) (suggestion : Option String) (shown : List String)
  | missingValue (option : ProbeOption)
  | repeated (option : ProbeOption)
  | unexpectedValue (value : String) (option : String) (shown : List String)
  deriving DecidableEq, Repr

namespace UsageError

def message : UsageError → String
  | .unknownArgument arg suggestion shown =>
    "error: unexpected argument '" ++ arg ++ "' found\n\n" ++
      (match suggestion with
        | some s => "  tip: a similar argument exists: '--" ++ s ++ "'\n\n"
        | none => "") ++ usageLine shown ++ "\n\nFor more information, try '--help'.\n"
  | .missingValue o =>
    "error: a value is required for '" ++ o.display ++
      "' but none was supplied\n\nFor more information, try '--help'.\n"
  | .repeated o =>
    "error: the argument '" ++ o.display ++ "' cannot be used multiple times\n\n" ++
      usageLine [] ++ "\n\nFor more information, try '--help'.\n"
  | .unexpectedValue v o shown =>
    "error: unexpected value '" ++ v ++ "' for '" ++ o ++ "' found; no more were expected\n\n" ++
      usageLine shown ++ "\n\nFor more information, try '--help'.\n"

end UsageError

/-! ## Similar names -/

/-- Marks the first unmarked position of `b` within `window` of `i` holding `c`. -/
def jaroMark (window : Nat) (i : Nat) (c : Char) (b : List Char) (marked : List Bool) :
    Option Nat :=
  (List.range b.length).find? fun j =>
    i ≤ j + window && j ≤ i + window && b[j]? == some c && marked[j]? == some false

/-- The Jaro similarity of two names, in binary64 arithmetic as
`((m / |a| + m / |b|) + (m - t) / m) / 3` for `m` matches and `t` transpositions, each
step rounded. -/
def jaro (a b : List Char) : Binary64 :=
  if a.isEmpty && b.isEmpty then Binary64.ofNat 1
  else if a.isEmpty || b.isEmpty then Binary64.zero
  else
    let window := max a.length b.length / 2 - 1
    let (aMarks, bMarks) := a.zipIdx.foldl (fun (acc : List Bool × List Bool) p =>
      match jaroMark window p.2 p.1 b acc.2 with
      | some j => (acc.1 ++ [true], acc.2.set j true)
      | none => (acc.1 ++ [false], acc.2)) ([], List.replicate b.length false)
    let aKept := (a.zip aMarks).filterMap fun p => if p.2 then some p.1 else none
    let bKept := (b.zip bMarks).filterMap fun p => if p.2 then some p.1 else none
    let m := aKept.length
    let t := ((aKept.zip bKept).filter fun p => p.1 != p.2).length / 2
    if m = 0 then Binary64.zero
    else
      let mf := Binary64.ofNat m
      let sum := Binary64.add (Binary64.add (Binary64.div mf (Binary64.ofNat a.length))
        (Binary64.div mf (Binary64.ofNat b.length))) (Binary64.div (Binary64.ofNat (m - t)) mf)
      Binary64.div sum (Binary64.ofNat 3)

/-- The similarity a suggestion must exceed: the binary64 number nearest to `0.7`. -/
def suggestionThreshold : Binary64 := Binary64.ofDecimal false 7 (-1)

/-- The known long name most similar to `name`, if above the threshold; the later of
equals. -/
def suggestion? (name : String) : Option String :=
  let scored := probeLongNames.map fun n => (jaro name.toList n.toList, n)
  let good := scored.filter fun s => Binary64.lt suggestionThreshold s.1
  good.foldl (fun best s => match best with
    | some (q, _) => if Binary64.lt s.1 q then best else some s
    | none => some s) none |>.map Prod.snd

/-! ## Reading the command line -/

/-- What a command line asks for: a run, or help. -/
inductive ArgsRequest where
  | run (args : ProbeArgs)
  | help
  deriving DecidableEq, Repr

/-- An option waiting for its value, with the value once it came. -/
abbrev Pending := Option (ProbeOption × Option String)

/-- Gives an option its value: the arguments afterwards, and the fault when the value is
refused. A single-valued option may not come twice, and is then taken back from the
recorded ones; an output path may not be empty, and its option stays recorded. -/
def giveValue (a : ProbeArgs) (o : ProbeOption) (v : String) : ProbeArgs × Option UsageError :=
  if a.recorded.contains o && !o.repeatable then
    ({ a with recorded := a.recorded.erase o }, some (.repeated o))
  else
    let a := a.record o
    if o == .output && v.isEmpty then (a, some (.missingValue o)) else (a.set o v, none)

/-- Settles the waiting option, which must have its value. -/
def settle (a : ProbeArgs) : Pending → ProbeArgs × Option UsageError
  | none => (a, none)
  | some (o, none) => (a, some (.missingValue o))
  | some (o, some v) => giveValue a o v

/-- The arguments after a step, or its fault. -/
def settled : ProbeArgs × Option UsageError → Except UsageError ProbeArgs
  | (a, none) => .ok a
  | (_, some e) => .error e

/-- The options given so far, as a usage line shows them. -/
def ProbeArgs.shown (a : ProbeArgs) : List String := a.recorded.map ProbeOption.display

/-- The fault of an unknown long option: the waiting option is settled first, whatever
comes of it, and a suggested option joins the usage line. -/
def unknownLong (a : ProbeArgs) (p : Pending) (name : String) : UsageError :=
  let shown := (settle a p).1.shown
  let suggestion := suggestion? name
  let extra := match suggestion with
    | some s => if shown.contains (longDisplay s) then [] else [longDisplay s]
    | none => []
  .unknownArgument ("--" ++ name) suggestion (shown ++ extra)

/-- Reads the arguments left to right; `afterEscape` once `--` was seen. -/
def readArgs : List String → ProbeArgs → Pending → Bool → Except UsageError ArgsRequest
  | [], a, p, _ => return .run (← settled (settle a p))
  | arg :: rest, a, p, afterEscape =>
    if !afterEscape && arg == "--" then readArgs rest a p true
    else if !afterEscape && arg.startsWith "--" then
      let body := arg.drop 2 |>.toString
      let name := String.ofList (body.toList.takeWhile (· != '='))
      let attached : Option String :=
        if body.toList.contains '=' then
          some (String.ofList ((body.toList.dropWhile (· != '=')).drop 1))
        else none
      match ProbeOption.ofLongName? name with
      | some o => do
        let a ← settled (settle a p)
        match attached with
        | some v => readArgs rest (← settled (giveValue a o v)) none false
        | none => readArgs rest a (some (o, none)) false
      | none =>
        if name == "help" then
          match attached with
          | some v =>
            let shown := if a.recorded.isEmpty then ["--help"] else ["--help", optionGroupText]
            .error (.unexpectedValue v "--help" shown)
          | none => do
            let _ ← settled (settle a p)
            return .help
        else .error (unknownLong a p name)
    else if !afterEscape && arg.startsWith "-" && arg != "-" then
      match arg.toList with
      | _ :: 'h' :: _ => do
        let _ ← settled (settle a p)
        return .help
      | _ :: c :: _ => .error (.unknownArgument (String.ofList ['-', c]) none [])
      | _ => .error (.unknownArgument arg none [])
    else
      match p, afterEscape with
      | some (o, none), false => readArgs rest a (some (o, some arg)) false
      | _, _ => .error (.unknownArgument arg none [])

/-- Reads the probe's command line (without the command name). -/
def ProbeArgs.parse (args : List String) : Except UsageError ArgsRequest :=
  readArgs args {} none false

/-! ## Running -/

/-- How a probe run ends badly. -/
inductive ProbeFailure where
  | usage (e : UsageError)
  | config (e : ConfigError)
  | write (path : String) (cause : String)
  deriving DecidableEq, Repr

namespace ProbeFailure

def exitCode : ProbeFailure → Nat
  | .usage _ => 2
  | _ => 1

/-- What the probe writes on its error stream. -/
def message : ProbeFailure → String
  | .usage e => e.message
  | .config e => "Error: " ++ e.message ++ "\n"
  | .write path cause => "Error: write trace to " ++ path ++ "\n\nCaused by:\n    " ++ cause ++ "\n"

end ProbeFailure

/-- The demos to run: the given patterns, or the whole catalog. -/
def ProbeArgs.patternsToRun (a : ProbeArgs) : List String :=
  if a.patterns.isEmpty then demoCatalog.map DemoAction.id else a.patterns

/-- Boots a panel and runs the demos; the trace entries, oldest first. -/
def runProbe (a : ProbeArgs) (envSetting : Option String) (time : TimeOfDay) :
    Except ConfigError (List TraceEntry) := do
  let client ← match a.baseUrl with
    | some raw => (normalizeBaseUrl raw).map ClientConfig.mk
    | none => ClientConfig.fromEnv envSetting
  let config ← ({} : PanelConfig).withApiBasePath a.apiBase
  let panel ← nativePanel client Page.new config
  let panel := (panel.addSink .log).addSink (.memory [])
  let run : PanelRun HttpClient Unit := do
    ControlPanel.boot
    for pattern in a.patternsToRun do
      let _ ← ControlPanel.runPattern pattern
  let panel := ((run.run time).run panel).2
  return panel.presenter.memoryEntries

/-- The trace file's text. -/
def traceText (entries : List TraceEntry) : String :=
  "\n\n".intercalate (entries.map TraceEntry.render)

/-- How a probe run ended: its exit code, its standard output and error texts, and the
trace text it wrote, if it wrote one. -/
structure ProbeOutcome where
  exitCode : Nat
  stdout : String := ""
  stderr : String := ""
  written : Option String := none
  deriving DecidableEq, Repr

def ProbeFailure.outcome (f : ProbeFailure) : ProbeOutcome := ⟨f.exitCode, "", f.message, none⟩

/-- The whole probe: reads the command line, runs, and writes the trace through
`writeFile`, which answers the cause of a failed write. -/
def probeMain {m : Type → Type} [Monad m] (args : List String) (envSetting : Option String)
    (time : TimeOfDay) (writeFile : String → String → m (Option String)) : m ProbeOutcome :=
  match ProbeArgs.parse args with
  | .error e => pure (ProbeFailure.usage e).outcome
  | .ok .help => pure { exitCode := 0, stdout := probeHelp }
  | .ok (.run a) =>
    match runProbe a envSetting time with
    | .error e => pure (ProbeFailure.config e).outcome
    | .ok entries =>
      match a.output with
      | none => pure { exitCode := 0 }
      | some path => do
        let text := traceText entries
        match ← writeFile path text with
        | some cause => pure (ProbeFailure.write path cause).outcome
        | none => pure { exitCode := 0, written := some text }

end HomePanel
