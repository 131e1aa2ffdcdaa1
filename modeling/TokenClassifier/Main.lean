import TokenClassifier.CommandLine

/-!
# The program

Reads what an invocation needs, hands it to `CommandLine.answer`, and carries out the response.
-/

namespace TokenClassifier

/-- The reason for a failure to read, in the words of the system. -/
def readingFailure : IO.Error → String
  | .noFileOrDirectory .. => "No such file or directory (os error 2)"
  | .permissionDenied .. => "Permission denied (os error 13)"
  | .inappropriateType .. => "Is a directory (os error 21)"
  | e => e.toString

/-- Reads the file of a request. -/
def readConfiguration (path : String) : IO (Except String (List UInt8)) := do
  try
    return .ok (← IO.FS.readBinFile path).toList
  catch e => return .error (readingFailure e)

/-- Reads standard input to its end. -/
def readInput : IO Input := do
  let stdin ← IO.getStdin
  try
    return { bytes := (← stdin.readBinToEnd).toList }
  catch e => return { bytes := [], failure := some (readingFailure e) }

/-- Answers an invocation, reading only what its request needs. -/
def respond (args : List String) : IO CommandLine.Response := do
  match CommandLine.readArguments {} args with
  | .request { version := false, check, paths := [path] } => do
    let file ← readConfiguration path
    let input ← if check then pure { bytes := [] } else readInput
    return CommandLine.answer args (fun _ => file) input
  | _ => return CommandLine.answer args (fun _ => .error "") { bytes := [] }

end TokenClassifier

/-- The entry of the program. -/
def main (args : List String) : IO UInt32 := do
  let response ← TokenClassifier.respond args
  let stdout ← IO.getStdout
  stdout.write ⟨response.output.toArray⟩
  stdout.flush
  match response.message with
  | some message => IO.eprintln message
  | none => pure ()
  if response.usage then IO.eprintln ("\n" ++ TokenClassifier.CommandLine.usage)
  return UInt32.ofNat response.code
