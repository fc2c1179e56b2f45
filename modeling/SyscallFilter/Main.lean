import SyscallFilter.CommandLine

/-! # The program -/

open SyscallFilter

/-- Reads a file of the system, or says why it cannot be read. -/
def readSystemFile (path : String) : IO (Except String String) := do
  try
    match String.fromUTF8? (← IO.FS.readBinFile path) with
    | some text => return .ok text
    | none => return .error "stream did not contain valid UTF-8"
  catch
    | .noFileOrDirectory _ code details | .resourceExhausted _ code details | .inappropriateType _ code details
    | .permissionDenied _ code details | .invalidArgument _ code details =>
      return .error (details ++ " (os error " ++ toString code ++ ")")
    | e => return .error e.toString

def main (args : List String) : IO UInt32 := do
  -- The one file that a run can read is the one that its options name.
  let content ←
    match CommandLine.parse args with
    | .run o =>
      match o.config with
      | some path => readSystemFile path
      | none => pure (.error "")
    | _ => pure (.error "")
  let output := CommandLine.run .plain args (← IO.getEnv "RUST_LOG") fun _ => content
  (← IO.getStderr).putStr output.stderr
  (← IO.getStdout).putStr output.stdout
  return output.code.toUInt32
