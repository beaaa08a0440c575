/-!
# Command lines

The arguments of the program are a command, the options of the command, and everywhere a switch
for the log (`Invocation.ofArguments`).  An option is given by its letter or its name, its value
in the next argument or attached; letters of switches may stand together.

A command line that does not follow these rules is refused as a whole, and so is a request for
help.
-/

namespace EnumAccessors

/-- What the program is asked to do. -/
inductive Command where
  /-- Generate sources, into a directory or to standard output. -/
  | generate (input : String) (output config : Option String) (noProperties noMethods : Bool)
  /-- Analyze only and report. -/
  | check (input : String) (json : Bool)
  /-- Print the catalog of diagnostics. -/
  | catalog
  /-- List the fixes for unknown groups. -/
  | fixes (input : String)
  deriving DecidableEq

/-- A command, and whether the log is wanted. -/
structure Invocation where
  verbose : Bool
  command : Command
  deriving DecidableEq

namespace CommandLine

/-! ### Options -/

/-- An option that a command knows: its letter, its name, whether it takes a value and whether it
may be given again. -/
structure Parameter where
  letter : Option Char
  name : String
  takesValue : Bool
  repeatable : Bool
  deriving DecidableEq

/-- The switch for the log, which all commands share. -/
def verboseParameter : Parameter := ⟨some 'v', "verbose", false, true⟩

/-- The input file. -/
def inputParameter : Parameter := ⟨some 'i', "input", true, false⟩

/-- The options given so far, by their names and with their values. -/
abbrev Given := List (String × Option String)

/-- The options with one more; a second one of the same name is refused unless it is repeatable. -/
def Given.add (given : Given) (p : Parameter) (value : Option String) : Option Given :=
  if !p.repeatable && (given.lookup p.name).isSome then none
  else some (given ++ [(p.name, value)])

/-- The value of an option, if it was given with one. -/
def Given.value? (given : Given) (name : String) : Option String := (given.lookup name).join

/-- Whether an option was given. -/
def Given.has (given : Given) (name : String) : Bool := (given.lookup name).isSome

/-! ### Arguments -/

/-- The two sides of the first equals sign. -/
def splitEquals (cs : List Char) : List Char × Option (List Char) :=
  match cs.dropWhile fun c => c != '=' with
  | [] => (cs, none)
  | _ :: value => (cs.takeWhile fun c => c != '=', some value)

/-- A value, which is not empty. -/
def nonempty (cs : List Char) : Option String :=
  if cs.isEmpty then none else some (String.ofList cs)

/-- Whether an argument can be the value of the option before it. -/
def isValue (arg : String) : Bool :=
  match arg.toList with
  | [] => false
  | ['-'] => true
  | c :: _ => c != '-'

/-- What an argument is: switches that are complete, or options the last of which needs the next
argument for its value. -/
inductive Reading where
  | complete (given : Given)
  | pending (given : Given) (p : Parameter)

/-- An option by its name. -/
def readName (known : List Parameter) (given : Given) (cs : List Char) : Option Reading :=
  let (name, attached) := splitEquals cs
  (known.find? fun p => p.name.toList == name).bind fun p =>
    match p.takesValue, attached with
    | false, none => (given.add p none).map .complete
    | false, some _ => none
    | true, none => some (.pending given p)
    | true, some value =>
      (nonempty value).bind fun value => (given.add p (some value)).map .complete

/-- Options by their letters.  What follows the letter of an option with a value is the value,
with or without an equals sign in front. -/
def readLetters (known : List Parameter) (given : Given) : List Char → Option Reading
  | [] => some (.complete given)
  | c :: rest =>
    (known.find? fun p => p.letter == some c).bind fun p =>
      if p.takesValue then
        match rest with
        | [] => some (.pending given p)
        | '=' :: value =>
          (nonempty value).bind fun value => (given.add p (some value)).map .complete
        | value => (given.add p (some (String.ofList value))).map .complete
      else (given.add p none).bind fun given => readLetters known given rest

/-- The options among the arguments of a command, which are all there may be.  Behind two hyphens
nothing may follow. -/
def readOptions (known : List Parameter) (given : Given) : List String → Option Given
  | [] => some given
  | arg :: rest =>
    let reading : Option Reading :=
      match arg.toList with
      | ['-', '-'] => if rest.isEmpty then some (.complete given) else none
      | '-' :: '-' :: name => readName known given name
      | ['-'] => none
      | '-' :: letters => readLetters known given letters
      | _ => none
    match reading, rest with
    | none, _ => none
    | some (.complete given), rest => readOptions known given rest
    | some (.pending _ _), [] => none
    | some (.pending given p), value :: rest =>
      if isValue value then
        (given.add p (some value)).bind fun given => readOptions known given rest
      else none

/-! ### Commands -/

/-- The options of each command besides the switch for the log. -/
def parametersOf : String → Option (List Parameter)
  | "generate" =>
    some [inputParameter, ⟨some 'o', "output", true, false⟩, ⟨none, "config", true, false⟩,
      ⟨none, "no-properties", false, false⟩, ⟨none, "no-methods", false, false⟩]
  | "check" => some [inputParameter, ⟨none, "json", false, false⟩]
  | "catalog" => some []
  | "fixes" => some [inputParameter]
  | _ => none

/-- The command of a name with its options. -/
def commandOf (name : String) (given : Given) : Option Command :=
  match name with
  | "generate" =>
    (given.value? "input").map fun input =>
      .generate input (given.value? "output") (given.value? "config")
        (given.has "no-properties") (given.has "no-methods")
  | "check" => (given.value? "input").map fun input => .check input (given.has "json")
  | "catalog" => some .catalog
  | "fixes" => (given.value? "input").map .fixes
  | _ => none

end CommandLine

open CommandLine

/-- What the arguments ask for, given the switches before them; none if they are refused. -/
def Invocation.ofArgumentsAfter (given : Given) : List String → Option Invocation
  | [] => none
  | arg :: rest =>
    match arg.toList with
    | '-' :: '-' :: name =>
      match readName [verboseParameter] given name with
      | some (.complete given) => ofArgumentsAfter given rest
      | _ => none
    | '-' :: letter :: letters =>
      match readLetters [verboseParameter] given (letter :: letters) with
      | some (.complete given) => ofArgumentsAfter given rest
      | _ => none
    | _ =>
      (parametersOf arg).bind fun known =>
        (readOptions (verboseParameter :: known) given rest).bind fun given =>
          (commandOf arg given).map fun command => ⟨given.has "verbose", command⟩

/-- What the arguments ask for; none if they are refused.  The usage is not among the commands: a
request for help, which ends with the usage on standard output, counts as refused. -/
def Invocation.ofArguments (args : List String) : Option Invocation := ofArgumentsAfter [] args

end EnumAccessors
