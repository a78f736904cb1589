import OrderOfGrowth.FileTree.Path

/-! # Arguments — what the program is asked to do

    Arguments are rows of bytes, which need not be texts; all that options are made of is ASCII.  They
    are handled from left to right, and the first one that is wrong, or that asks for the version or
    for help, settles the matter. -/

namespace OrderOfGrowth.CommandLine

/-- How reports are written. -/
inductive Format where
  | pretty
  | json
deriving DecidableEq

/-- A run that was asked for. -/
structure Invocation where
  /-- The files and directories to analyse; standard input if there are none. -/
  paths : List Path
  format : Format
  /-- The settings file, if one was named. -/
  settings : Option Path
  verbose : Bool
deriving DecidableEq

/-- What the arguments ask for. -/
inductive Request where
  | run (i : Invocation)
  | version
  | help
  | misuse
deriving DecidableEq

/-- The arguments read so far. -/
structure Given where
  /-- The paths, the last one first. -/
  paths : List Path
  format : Option Format
  settings : Option Path
  verbose : Bool

/-- An argument. -/
abbrev Argument := Bytes

/-- Does the argument spell the text? -/
def Argument.spells (a : Argument) (s : String) : Bool := a == Text.bytes s.toList

/-- The dash that options start with. -/
def dash : UInt8 := 45

/-- The equals sign between an option and its value. -/
def equals : UInt8 := 61

namespace Given

/-- No argument read yet. -/
def nothing : Given := ⟨[], none, none, false⟩

/-- The run that the arguments ask for. -/
def invocation (g : Given) : Invocation :=
  ⟨g.paths.reverse, g.format.getD .pretty, g.settings, g.verbose⟩

/-- Adds a path, unless it is empty. -/
def path? (g : Given) (a : Argument) : Option Given :=
  if a.isEmpty then none else some { g with paths := a :: g.paths }

/-- Sets the format, unless it is set or unknown. -/
def format? (g : Given) (a : Argument) : Option Given :=
  if g.format.isSome then none
  else if a.spells "pretty" then some { g with format := some .pretty }
  else if a.spells "json" then some { g with format := some .json }
  else none

/-- Names the settings file, unless one is named or the name is empty. -/
def settings? (g : Given) (a : Argument) : Option Given :=
  if g.settings.isSome ∨ a.isEmpty then none else some { g with settings := some a }

/-- Asks for a verbose run, unless that was asked for. -/
def verbose? (g : Given) : Option Given := if g.verbose then none else some { g with verbose := true }

end Given

/-- An option that takes a value. -/
inductive Valued where
  | format
  | settings
deriving DecidableEq

/-- Sets an option to a value. -/
def Valued.set? (o : Valued) (g : Given) (a : Argument) : Option Given :=
  match o with
  | .format => g.format? a
  | .settings => g.settings? a

/-- What an argument with a dash leads to. -/
inductive Effect where
  /-- The arguments read so far. -/
  | done (g : Given)
  /-- The next argument is the value of an option. -/
  | needsValue (g : Given) (o : Valued)
  /-- The matter is settled. -/
  | settled (r : Request)

/-- Goes on with what was read, or reports a misuse. -/
def Effect.ofOption : Option Given → Effect
  | some g => .done g
  | none => .settled .misuse

/-- Handles the letters behind a single dash.  An option takes all that follows as its value, less a
    leading equals sign. -/
def letters (g : Given) : Argument → Effect
  | [] => .done g
  | c :: rest =>
    let valued (o : Valued) : Effect :=
      match rest with
      | [] => .needsValue g o
      | b :: value => .ofOption (o.set? g (if b = equals then value else rest))
    if Argument.spells [c] "v" then
      match g.verbose? with
      | some g => letters g rest
      | none => .settled .misuse
    else if Argument.spells [c] "V" then .settled .version
    else if Argument.spells [c] "h" then .settled .help
    else if Argument.spells [c] "f" then valued .format
    else if Argument.spells [c] "c" then valued .settings
    else .settled .misuse

/-- Handles the word behind two dashes. -/
def longOption (g : Given) (word : Argument) : Effect :=
  let name := word.takeWhile (· != equals)
  let value := word.dropWhile (· != equals)
  let valued (o : Valued) : Effect :=
    match value with
    | [] => .needsValue g o
    | _ :: value => .ofOption (o.set? g value)
  if Argument.spells name "format" then valued .format
  else if Argument.spells name "config" then valued .settings
  else if !value.isEmpty then .settled .misuse
  else if Argument.spells name "verbose" then .ofOption g.verbose?
  else if Argument.spells name "version" then .settled .version
  else if Argument.spells name "help" then .settled .help
  else .settled .misuse

/-- Takes all arguments as paths. -/
def pathsOnly (g : Given) : List Argument → Request
  | [] => .run g.invocation
  | a :: rest =>
    match g.path? a with
    | some g => pathsOnly g rest
    | none => .misuse

/-- Can the argument be the value of an option? -/
def isValue (a : Argument) : Bool := a == [dash] || a.head? != some dash

/-- Handles the arguments that are left; `awaited` is an option whose value comes next. -/
def handle (g : Given) : (awaited : Option Valued) → List Argument → Request
  | none, [] => .run g.invocation
  | some _, [] => .misuse
  | some o, a :: rest =>
    if isValue a then
      match o.set? g a with
      | some g => handle g none rest
      | none => .misuse
    else .misuse
  | none, a :: rest =>
    if isValue a then
      match g.path? a with
      | some g => handle g none rest
      | none => .misuse
    else
      let word := a.drop 2
      if a.tail.head? = some dash ∧ word.isEmpty then pathsOnly g rest
      else
        match if a.tail.head? = some dash then longOption g word else letters g a.tail with
        | .done g => handle g none rest
        | .needsValue g o => handle g (some o) rest
        | .settled r => r

/-- What the arguments ask for. -/
def Request.ofArguments (args : List Argument) : Request := handle .nothing none args

end OrderOfGrowth.CommandLine
