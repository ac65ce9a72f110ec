import HomePanel.Probe
import Std.Time

/-!
# Probe command

`smarthome-panel-probe [OPTIONS]` reads its command line, the environment setting
`SMARTHOME_API_BASE_URL` and the local time of day, runs the probe and writes the trace
file it asks for. A refused command line exits with 2 and help with 0; a configuration or
write failure exits with 1, its message on the error stream.
-/

open HomePanel

/-- The environment setting that names the backend. -/
def baseUrlSetting : String := "SMARTHOME_API_BASE_URL"

/-- The operating system's code and description of an error, when it has them. -/
def osError? : IO.Error → Option (UInt32 × String)
  | .alreadyExists _ code details | .otherError code details | .resourceBusy code details
  | .resourceVanished code details | .unsupportedOperation code details
  | .hardwareFault code details | .unsatisfiedConstraints code details
  | .illegalOperation code details | .protocolError code details | .timeExpired code details
  | .interrupted _ code details | .noFileOrDirectory _ code details
  | .invalidArgument _ code details | .permissionDenied _ code details
  | .resourceExhausted _ code details | .inappropriateType _ code details
  | .noSuchThing _ code details => some (code, details)
  | _ => none

/-- An error as `description (os error code)`. -/
def osErrorText (e : IO.Error) : String :=
  match osError? e with
  | some (code, details) => details ++ " (os error " ++ toString code ++ ")"
  | none => toString e

/-- Writes a file; the cause when it fails. -/
def writeTrace (path text : String) : IO (Option String) := do
  try
    IO.FS.writeFile path text
    return none
  catch e => return some (osErrorText e)

def main (args : List String) : IO UInt32 := do
  let setting ← IO.getEnv baseUrlSetting
  let now ← Std.Time.PlainTime.now
  let time : TimeOfDay := ⟨now.hour.val.toNat, now.minute.val.toNat, now.second.val.toNat⟩
  let outcome ← probeMain args setting time writeTrace
  IO.print outcome.stdout
  IO.eprint outcome.stderr
  return outcome.exitCode.toUInt32
