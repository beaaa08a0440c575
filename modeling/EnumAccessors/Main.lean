import EnumAccessors.CommandLine.Program

/-!
# The command line tool

The plan for the arguments is carried out on the real files.  Nothing is decided here.
-/

open EnumAccessors

/-- The text of a file, if it can be read as one. -/
def readText (path : String) : IO (Option String) := do
  try
    let bytes ← IO.FS.readBinFile path
    return String.fromUTF8? bytes
  catch _ => return none

/-- The texts of files by their paths. -/
def readTexts (paths : List String) : IO (List (String × Option String)) :=
  paths.mapM fun path => return (path, ← readText path)

/-- Makes a directory in one that is there, unless it can be entered already. -/
def addDirectory (path : String) : IO Unit := do
  try IO.FS.createDir path
  catch _ => discard (IO.FS.Handle.mk (path ++ "/.") .read)

/-- Carries out one effect. -/
def perform : Effect → IO Unit
  | .printOut line => do (← IO.getStdout).putStrLn line
  | .printErr line => do (← IO.getStderr).putStrLn line
  | .makeDirectory path => (Path.directories path).forM addDirectory
  | .writeFile path text => IO.FS.writeFile path text

/-- Carries out a plan; the first effect that fails ends it. -/
def carryOut (p : Plan) : IO UInt32 := do
  let fail (f : Failure) : IO UInt32 := do
    (← IO.getStderr).putStrLn f.render
    return 1
  try
    for effect in p.effects do perform effect
  catch _ => return ← fail .io
  match p.result with
  | .ok () => return 0
  | .error f => fail f

/-- The tool; a command line that is refused has the exit code 2. -/
def main (args : List String) : IO UInt32 := do
  match Invocation.ofArguments args with
  | none => return 2
  | some i =>
    let texts ← readTexts i.command.inputs
    carryOut (i.plan fun path => (texts.lookup path).join)
