import SchemaBeans.CommandLine.Run

/-!
# The program

The outer layer: it reads the arguments, the environment and the files that the arguments name,
runs the program on them, and prints what the run gives.
-/
namespace SchemaBeans.Program

/-- The fault for an error of the system. -/
def faultOf : IO.Error → ReadFault
  | .noFileOrDirectory .. => .noSuchFile
  | .inappropriateType _ code details => ofCode code details
  | .invalidArgument _ code details => ofCode code details
  | .permissionDenied _ code details => ofCode code details
  | .resourceExhausted _ code details => ofCode code details
  | .otherError code details => ofCode code details
  | error => .other 5 error.toString
where
  /-- The fault for the number of an error. -/
  ofCode (code : UInt32) (details : String) : ReadFault :=
    if code = 20 then .notDirectory
    else if code = 21 then .isDirectory
    else if code = 36 then .nameTooLong
    else .other code.toNat details

/-- The bytes of the file under a path, or why it cannot be read. -/
def readFile (path : String) : IO (Except ReadFault (List UInt8)) := do
  try
    let bytes ← IO.FS.readBinFile path
    return .ok bytes.toList
  catch error => return .error (faultOf error)

/-- The variables that are set. A file `.env`, whose variables could be added to them, is not
loaded. -/
def readEnvironment : IO Environment := do
  let found ← Environment.variableNames.mapM fun name => do
    return (← IO.getEnv name).map (name, ·)
  return found.filterMap id

/-- A reader of the files under the given paths in normal form. -/
def readerFor (paths : List String) : IO FileReader := do
  let files ← (paths.map Path.normalize).eraseDups.mapM fun path => do
    return (path, ← readFile path)
  return fun path => (files.lookup path).getD (.error .noSuchFile)

/-- The paths that arguments name. -/
def pathsOf (arguments : List String) : List String :=
  match CommandLine.readInvocation arguments with
  | .ok invocation => invocation.command.paths
  | .error _ => []

end SchemaBeans.Program

open SchemaBeans in
/-- Run the program and print what the run gives. -/
def main (arguments : List String) : IO UInt32 := do
  let environment ← Program.readEnvironment
  let read ← Program.readerFor (Program.pathsOf arguments)
  match CommandLine.run arguments environment read with
  | .error failure =>
    IO.eprintln failure.message
    return 1
  | .ok result =>
    for record in result.log do
      IO.eprintln record
    IO.eprint result.errors
    IO.print result.output
    return result.code.toUInt32
