import EnumAccessors.CommandLine.Program

/-!
# Carrying out a plan

The files and directories under a working directory (`FileTree`), and a plan carried out on them
(`Plan.carryOut`).  The first effect that fails ends the run.

Paths are relative.  A step up leads out of a directory only to the one it lies in, never above
the working directory.  On a disk there are files outside of it, which absolute paths and steps up
lead to; a tree holds none of them, so whatever is done with such a path fails.
-/

namespace EnumAccessors

/-- Where something lies: the names on the way from the working directory. -/
abbrev Place := List String

/-- The directories and files under a working directory.  A file that holds no text is there
without one. -/
structure FileTree where
  directories : List Place := []
  files : List (Place × Option String) := []
  deriving DecidableEq

namespace FileTree

/-! ### Paths -/

/-- The parts of a path; none if it is absolute, and so leads out of the tree, or too long. -/
def relativeParts (path : String) : Option (List String) :=
  if Path.isAbsolute path || Path.maxBytes < path.utf8ByteSize then none
  else some (Path.parts path)

/-- Whether a place is a directory. -/
def isDirectory (t : FileTree) (place : Place) : Bool :=
  place.isEmpty || t.directories.contains place

/-- Whether a place is a file. -/
def isFile (t : FileTree) (place : Place) : Bool := (t.files.lookup place).isSome

/-- The directory that parts of a path lead to from a place. -/
def walk (t : FileTree) (place : Place) : List String → Option Place
  | [] => some place
  | part :: rest =>
    if Path.isStill part then walk t place rest
    else if part = ".." then
      if place.isEmpty then none else walk t place.dropLast rest
    else if t.isDirectory (place ++ [part]) then walk t (place ++ [part]) rest
    else none

/-- The place that parts of a path name in a directory that is there. -/
def placeOf (t : FileTree) (parts : List String) : Option Place :=
  match parts.getLast? with
  | none => none
  | some name =>
    if Path.isName name then (t.walk [] parts.dropLast).map fun place => place ++ [name] else none

/-- The place of the file that a path names. -/
def locate (t : FileTree) (path : String) : Option Place :=
  (relativeParts path).bind t.placeOf

/-! ### Operations -/

/-- The text of a file. -/
def read (t : FileTree) (path : String) : Option String :=
  (t.locate path).bind fun place => (t.files.lookup place).join

/-- The tree with a directory, unless it is there, in one that is there.  Slashes at the end of the
path do not count. -/
def addDirectory (t : FileTree) (path : String) : Option FileTree :=
  (relativeParts path).bind fun parts =>
    if (t.walk [] parts).isSome then some t
    else
      (t.placeOf (parts.reverse.dropWhile fun part => part == "").reverse).bind fun place =>
        if t.isFile place then none else some { t with directories := t.directories ++ [place] }

/-- The tree with a directory and those on the way to it. -/
def makeDirectory (t : FileTree) (path : String) : Option FileTree :=
  (Path.directories path).foldlM addDirectory t

/-- A list of files with one written over or added. -/
def put (place : Place) (text : String) :
    List (Place × Option String) → List (Place × Option String)
  | [] => [(place, some text)]
  | (p, old) :: rest =>
    if p = place then (place, some text) :: rest else (p, old) :: put place text rest

/-- What has been written is there. -/
@[simp] theorem lookup_put_self (place : Place) (text : String)
    (files : List (Place × Option String)) :
    (put place text files).lookup place = some (some text) := by
  induction files with
  | nil => simp [put]
  | cons f rest ih =>
    obtain ⟨p, old⟩ := f
    by_cases h : p = place
    · simp [put, h]
    · simp [put, h, List.lookup_cons, beq_false_of_ne (Ne.symm h), ih]

/-- The other files are as they were. -/
theorem lookup_put_of_ne {place other : Place} (h : other ≠ place) (text : String)
    (files : List (Place × Option String)) :
    (put place text files).lookup other = files.lookup other := by
  induction files with
  | nil => simp [put, List.lookup_cons, beq_false_of_ne h]
  | cons f rest ih =>
    obtain ⟨p, old⟩ := f
    by_cases hp : p = place
    · subst hp; simp [put, List.lookup_cons, beq_false_of_ne h]
    · simp [put, hp, List.lookup_cons, ih]

/-- The tree with a file written over or added. -/
def write (t : FileTree) (path text : String) : Option FileTree :=
  (t.locate path).bind fun place =>
    if t.isDirectory place then none else some { t with files := put place text t.files }

/-- A tree that holds files at places, and the directories on the way to them. -/
def ofFiles (files : List (Place × Option String)) : FileTree where
  directories :=
    (files.flatMap fun f => (List.range (f.1.length - 1)).map fun n => f.1.take (n + 1)).eraseDups
  files := files

end FileTree

/-- What has come of a run: the exit code, the texts on the two outputs, and the files. -/
structure Outcome where
  exitCode : Nat := 0
  stdout : String := ""
  stderr : String := ""
  tree : FileTree
  deriving DecidableEq

namespace Outcome

/-- The outcome after an effect; none if the effect fails. -/
def perform (o : Outcome) : Effect → Option Outcome
  | .printOut line => some { o with stdout := o.stdout ++ line ++ "\n" }
  | .printErr line => some { o with stderr := o.stderr ++ line ++ "\n" }
  | .makeDirectory path => (o.tree.makeDirectory path).map fun tree => { o with tree }
  | .writeFile path text => (o.tree.write path text).map fun tree => { o with tree }

/-- The outcome of a run that fails. -/
def fail (o : Outcome) (f : Failure) : Outcome :=
  { o with exitCode := 1, stderr := o.stderr ++ f.render ++ "\n" }

/-- The outcome after effects and a result. -/
def performAll (o : Outcome) (result : Except Failure Unit) : List Effect → Outcome
  | [] =>
    match result with
    | .ok () => o
    | .error f => o.fail f
  | effect :: rest =>
    match o.perform effect with
    | none => o.fail .io
    | some o => performAll o result rest

end Outcome

/-- The outcome of a plan. -/
def Plan.carryOut (p : Plan) (t : FileTree) : Outcome :=
  Outcome.performAll { tree := t } p.result p.effects

/-- The outcome of a command line.  One that is refused does nothing. -/
def FileTree.runCommandLine (t : FileTree) (args : List String) : Outcome :=
  match Invocation.ofArguments args with
  | none => { exitCode := 2, tree := t }
  | some i => (i.plan t.read).carryOut t

end EnumAccessors
