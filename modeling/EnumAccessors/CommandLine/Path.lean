/-!
# Paths

A path is a text of parts between slashes (`Path.parts`).  An empty part and a single dot stay
where they are, two dots lead to the directory around, and every other part is a name.

A directory is made by making the directories on the way to it one after another
(`Path.directories`).  What a path ends in counts as part of its last name, so a directory that is
named with a dot behind it cannot be made.
-/

namespace EnumAccessors

namespace Path

/-- The most bytes a path may have. -/
def maxBytes : Nat := 4095

/-- The most bytes a name may have. -/
def maxNameBytes : Nat := 255

/-! ### Parts -/

/-- The parts of a path between the slashes, given the part so far from its last character to its
first. -/
def partsFrom (part : List Char) : List Char → List String
  | [] => [String.ofList part.reverse]
  | c :: rest =>
    if c = '/' then String.ofList part.reverse :: partsFrom [] rest
    else partsFrom (c :: part) rest

/-- The parts of a path between the slashes. -/
def parts (path : String) : List String := partsFrom [] path.toList

/-- Whether a path leaves from the root and not from the working directory. -/
def isAbsolute (path : String) : Bool := path.toList.head? == some '/'

/-- Whether a part of a path stays where it is. -/
def isStill (part : String) : Bool := part == "" || part == "."

/-- Whether a part of a path can be the name of a file. -/
def isName (part : String) : Bool :=
  !isStill part && part != ".." && !part.toList.contains '\x00' &&
    part.utf8ByteSize ≤ maxNameBytes

/-! ### Putting paths together -/

/-- The path of a file in a directory, as it is shown. -/
def join (directory file : String) : String :=
  if isAbsolute file then file
  else if directory.toList.getLast? = some '/' then directory ++ file
  else directory ++ "/" ++ file

/-- The parts of the paths to the directories on a way that goes on after `before`.  The last one
keeps the ending of the whole path. -/
def stepsFrom (ending before : List String) : List String → List (List String)
  | [] => []
  | [last] => [before ++ last :: ending]
  | part :: rest =>
    if isStill part then stepsFrom ending (before ++ [part]) rest
    else (before ++ [part]) :: stepsFrom ending (before ++ [part]) rest

/-- The paths of the directories that have to be there, from the outermost to the one that the
path names, which is last and named by the whole path.  A path that is too long is refused at
once, and the empty path asks for nothing. -/
def directories (path : String) : List String :=
  if path = "" then []
  else if maxBytes < path.utf8ByteSize then [path]
  else
    let all := parts path
    let named := (all.reverse.dropWhile isStill).reverse
    if named.isEmpty then [path]
    else (stepsFrom (all.drop named.length) [] named).map (String.intercalate "/")

end Path

end EnumAccessors
