import RobotPhrase.Cli.Run

/-!
# The program

Reads the files that the arguments name, runs the command line on them, writes the file that the run writes, and prints
its output.
-/

namespace RobotPhrase.Cli

/-- Whether a path names a folder. -/
def namesFolder (path : String) : IO Bool := do
  try
    (← IO.FS.realPath path).isDir
  catch _ => return false

/-- The folders through which a path leads, from the working directory on. -/
def foldersAlong (here : List String) (path : String) : IO (List String) := do
  let mut names := here
  let mut spelled := "."
  if path.startsWith "/" then
    names := []
    spelled := "/"
  let mut folders := []
  for part in Directory.parts path do
    names := Directory.step names part
    spelled := spelled ++ "/" ++ part
    if ← namesFolder spelled then folders := folders ++ [Directory.placeOf names]
  return folders

/-- The named files as far as they can be read, and the folders around them and around the file to be written. -/
def gather (here : List String) (request : Request) : IO Directory := do
  let folders ← (request.sources ++ request.target?.toList).mapM (foldersAlong here)
  let mut d : Directory := { folders := folders.flatten }
  for path in request.sources do
    if let some place := d.place? path here then
      try
        let content ← IO.FS.readBinFile path
        d := { d with files := d.files ++ [(place, content)] }
      catch _ => pure ()
  return d

/-- Writes the program to its file. -/
def store (here : List String) (r : Run) (request : Request) : IO Bool := do
  match r.exitCode, request.target? with
  | 0, some path =>
    match r.directory.bytes? path here with
    | some content =>
      try
        IO.FS.writeBinFile path content
        return true
      catch _ => return false
    | none => return true
  | _, _ => return true

def print (output : Output) : IO Unit := do
  IO.eprint output.stderr
  IO.print output.stdout

end RobotPhrase.Cli

open RobotPhrase Cli

def main (args : List String) : IO UInt32 := do
  match Invocation.ofArguments? args with
  | some (.run _ request) =>
    let here := (Directory.parts (← IO.currentDir).toString).filter fun part => !part.isEmpty
    let r := runIn { here := here } (← gather here request) args
    if ← store here r request then
      print r.output
      return UInt32.ofNat r.exitCode
    else
      print { stderr := printed ["Error: " ++ (Failure.unwritable (request.target?.getD "")).message] }
      return 1
  | _ =>
    let r := run { } args
    print r.output
    return UInt32.ofNat r.exitCode
