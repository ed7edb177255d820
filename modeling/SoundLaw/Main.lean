/-
  SoundLaw.Main

  The command line program: reads the files that a command names, carries the command out, and
  prints and writes what it gives.
-/
import SoundLaw.CommandLine.Run

namespace SoundLaw.CommandLine

/-- The message of a failure. -/
def Failure.message : Failure → String
  | failed e => e.message?.getD "The input is not valid."
  | badParameter message => "Invalid value: " ++ message
  | usage message => message
  | missingParameter => "Missing argument."
  | noSuchOption name => "No such option: " ++ name
  | badOptionUsage message => message
  | noDirectory path => "There is no directory for " ++ path
  | notADirectory path => "A file is in the way of " ++ path
  | fileExists path => path ++ " is a file."

/-- The status with which the program ends after a failure. -/
def Failure.status : Failure → UInt32
  | failed _ | noDirectory _ | notADirectory _ | fileExists _ => 1
  | _ => 2

/-- The paths that a command names. -/
def Command.paths : Command → List String
  | .evolve e => standardDirectory :: e.paths.map (·.2)
  | _ => []

/-- The paths that an invocation names. -/
def Invocation.paths (i : Invocation) : List String :=
  i.logFile.toList ++ match i.command with
    | .ok command => command.paths
    | .error _ => []

/-- What stands at a path. A path that cannot be read is left out. -/
def readEntry (path : String) : IO (Option (String × Entry)) := do
  try
    if ← (← IO.FS.realPath path).isDir then return some (normalPath path, .directory)
    return some (normalPath path, .file (← IO.FS.readFile path).toList)
  catch _ => return none

/-- Writes a file into a directory, which is made if it is not there. -/
def writeFile (path : String) (content : Text) : IO PUnit := do
  let directory := directoryOf path
  if directory ≠ "" then IO.FS.createDirAll directory
  IO.FS.writeFile path (String.ofList content)

/-- Reads a command line and carries it out on the files that it names. -/
def perform (arguments : List String) : IO (Except Failure Output) := do
  match Invocation.read arguments with
  | .error failure => return .error failure
  | .ok i =>
    let paths := i.paths.flatMap fun path => path :: outerPaths path
    return i.run (← paths.filterMapM readEntry)

end SoundLaw.CommandLine

open SoundLaw.CommandLine in
/-- Carries out the command line of the program. -/
def main (arguments : List String) : IO UInt32 := do
  match ← perform arguments with
  | .ok output =>
    IO.print output.printed
    output.written.forM fun (path, content) => writeFile path content
    return 0
  | .error failure =>
    IO.eprintln ("Error: " ++ failure.message)
    return failure.status
