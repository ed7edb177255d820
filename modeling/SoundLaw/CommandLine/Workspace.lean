/-
  SoundLaw.CommandLine.Workspace

  The files that a command can read, by their paths. Two paths that lead to the same place from the
  working directory have the same normal form.
-/
import SoundLaw.CommandLine.Options

namespace SoundLaw.CommandLine

/-! ## Paths -/

/-- Goes on from a path of names, the last name first, by one more name. -/
def enter (isAbsolute : Bool) (path : List String) (name : String) : List String :=
  if name = "" ∨ name = "." then path
  else if name = ".." then
    match path with
    | last :: path' => if last = ".." then name :: path else path'
    | [] => if isAbsolute then [] else [name]
  else name :: path

/-- A path without empty names, single dots, and double dots that lead back out of a directory. The
    working directory has the empty path. -/
def normalPath (path : String) : String :=
  let isAbsolute := path.toList.head? == some '/'
  let names := (Text.split '/' path.toList).map String.ofList
  let normal := "/".intercalate (names.foldl (enter isAbsolute) []).reverse
  if isAbsolute then "/" ++ normal else normal

/-- The path of a file in a directory. -/
def joinPath (directory file : String) : String :=
  normalPath (if directory = "" then file else directory ++ "/" ++ file)

/-- The directory of a file, by the normal form of its path. -/
def directoryOf (path : String) : String :=
  "/".intercalate ((Text.split '/' path.toList).map String.ofList).dropLast

/-- The paths of the directories on the way to a path in normal form, from the outermost one. -/
def outerPaths (path : String) : List String :=
  let names := (Text.split '/' path.toList).map String.ofList
  (List.range names.length).map fun n => "/".intercalate (names.take n)

/-! ## Workspaces -/

/-- What stands at a path. -/
inductive Entry
  | file (content : Text)
  | directory
  deriving DecidableEq, Repr

/-- Entries by the normal forms of their paths. -/
abbrev Workspace := List (String × Entry)

namespace Workspace

/-- A workspace of files. -/
def ofFiles (files : List (String × Text)) : Workspace :=
  files.map fun (path, content) => (normalPath path, .file content)

/-- A workspace with a directory in it. -/
def withDirectory (w : Workspace) (path : String) : Workspace :=
  w ++ [(normalPath path, .directory)]

/-- What stands at a path. The working directory and those around it are always there, and so are
    the directories on the way to an entry. -/
def find? (w : Workspace) (path : String) : Option Entry :=
  let path := normalPath path
  let names := (Text.split '/' path.toList).map String.ofList
  match w.lookup path with
  | some entry => some entry
  | none =>
    if names.all (fun name => name = "" || name = "..")
        || w.any fun (other, _) => (outerPaths other).contains path then some .directory
    else none

/-- The content of a file that must be there. -/
def read (w : Workspace) (path : String) : Except Failure Text :=
  let shown := "File " ++ String.ofList (Text.quoted path.toList)
  match w.find? path with
  | some (.file content) => .ok content
  | some .directory => .error (.badParameter (shown ++ " is a directory."))
  | none => .error (.badParameter (shown ++ " does not exist."))

/-- Whether a file stands at a path. -/
def isFile (w : Workspace) (path : String) : Bool :=
  match w.find? path with
  | some (.file _) => true
  | _ => false

/-- Refuses a path where no directory can be made. -/
def makeDirectory (w : Workspace) (path : String) : Except Failure PUnit :=
  let path := normalPath path
  if (outerPaths path).any w.isFile then .error (.notADirectory path)
  else if w.isFile path then .error (.fileExists path)
  else .ok ⟨⟩

/-- Refuses a path to write into that is no directory and cannot be made one. -/
def checkDirectory (w : Workspace) (path : String) : Except Failure PUnit :=
  if w.isFile path then .error (.badParameter
    ("Directory " ++ String.ofList (Text.quoted path.toList) ++ " is a file."))
  else w.makeDirectory path

/-- Refuses a path of a file to append to that is a directory, or in a directory that is not
    there. -/
def checkAppend (w : Workspace) (path : String) : Except Failure PUnit :=
  match w.find? path with
  | some .directory => .error (.badParameter
      ("File " ++ String.ofList (Text.quoted path.toList) ++ " is a directory."))
  | some (.file _) => .ok ⟨⟩
  | none =>
    if (outerPaths (normalPath path)).any w.isFile then .error (.notADirectory path)
    else if (w.find? (directoryOf (normalPath path))).isSome then .ok ⟨⟩
    else .error (.noDirectory path)

end Workspace

end SoundLaw.CommandLine
