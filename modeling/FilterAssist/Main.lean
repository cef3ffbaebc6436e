import FilterAssist.CommandLine.Run

set_option autoImplicit false

/-!
The program: reads the files its arguments name, and prints what the run gives.
-/
namespace FilterAssist

open CommandLine

def readPath (path : Text) : IO FileContent := do
  try
    let content ← IO.FS.readBinFile (String.ofList path)
    return .bytes content.toList
  catch error =>
    match error with
    | .noFileOrDirectory .. => return .missing
    | .permissionDenied .. => return .denied
    | .inappropriateType _ code _ => return if code = 21 then .directory else .notDirectory
    | _ => return .directory

end FilterAssist

def main (arguments : List String) : IO UInt32 := do
  let arguments := arguments.map String.toList
  let paths := FilterAssist.CommandLine.wantedPaths arguments
  let contents ← paths.mapM FilterAssist.readPath
  let read := fun path => ((paths.zip contents).lookup path).getD .missing
  let outcome := FilterAssist.CommandLine.run read arguments
  IO.print (String.ofList outcome.output)
  match outcome.complaint with
  | some complaint => IO.eprintln (String.ofList complaint)
  | none => pure ()
  return outcome.exit.toUInt32
