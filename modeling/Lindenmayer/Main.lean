import Lindenmayer.Program

/-!
# The executable

It gathers what a command needs from its surroundings (the arguments, the setting of the filter, the
content of the file), lets `execute` say what is to happen, and does it. Nothing is decided here but
which error of the system is which.
-/

namespace Lindenmayer

/-- The variable of the environment with the setting of the filter. -/
def settingName : String := "RUST_LOG"

/-- The number of an error of the system, which arrives with either sign. -/
def errorNumber (code : UInt32) : Nat :=
  min code.toNat (0 - code).toNat

/-- An error of the system as a reason why a file cannot be read. -/
def FileError.ofSystem : IO.Error → FileError
  | .noFileOrDirectory .. => .notFound
  | .inappropriateType _ code _ =>
    if errorNumber code = 20 then .notADirectory else .isADirectory
  | .permissionDenied .. => .other "Permission denied (os error 13)"
  | .invalidArgument _ code details =>
    if errorNumber code = 36 then .nameTooLong else .other details
  | e => .other (toString e)

/-- The content of a file, or why it cannot be read. -/
def fetch (path : String) : IO (Except FileError ByteArray) := do
  try
    return .ok (← IO.FS.readBinFile path)
  catch e =>
    return .error (.ofSystem e)

/-- Delivers bytes to the standard output; whether it took them. -/
def deliver (output : Array UInt8) : IO Bool := do
  try
    let out ← IO.getStdout
    out.write ⟨output⟩
    out.flush
    return true
  catch _ =>
    return false

end Lindenmayer

open Lindenmayer in
/-- Carries out the command that the arguments give. -/
def main (args : List String) : IO UInt32 := do
  let setting ← IO.getEnv settingName
  let content ← match Request.ofArguments? args with
    | some r => fetch r.path
    | none => pure (.error .notFound)
  let outcome := execute args setting fun _ ↦ content
  let ready := outcome .ready
  let seen := if ← deliver ready.output then ready else outcome .full
  (← IO.getStderr).putStr seen.report
  return seen.code.toUInt32
