import DemandFlow.Sample.CommandLine

/-!
Contract: the sample program.

Owns: reading and writing the files that a call names, and the standard streams.

Does not own: what a call answers (`Sample.CommandLine`).
-/

open DemandFlow.Sample.CommandLine

/-- The content of a file, if it can be read. -/
def readFile? (path : String) : IO (Option String) := do
  try return some (← IO.FS.readFile path)
  catch _ => return none

/-- Writes a file; false if it cannot be written. -/
def writeFile (path content : String) : IO Bool := do
  try
    IO.FS.writeFile path content
    return true
  catch _ => return false

/-- Answers one call. The settings' file is read before, and a file to be written is written
after. -/
def main (arguments : List String) : IO UInt32 := do
  let content ← match Request.ofArguments arguments with
    | .run { config := some path, .. } => readFile? path
    | _ => pure none
  let response := respond ⟨fun _ => content, fun _ => true⟩ arguments
  IO.print response.output
  match response.saved with
  | some (path, text) =>
      if ← writeFile path text then return UInt32.ofNat response.exitCode else return 1
  | none => return UInt32.ofNat response.exitCode
