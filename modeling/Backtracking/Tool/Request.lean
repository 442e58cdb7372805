/-!
# Requests

What the arguments of the tool ask for.  Options may stand anywhere among the other arguments of a
command, letters may share a hyphen, and two hyphens on their own end the options.  The file of
settings is named before the command.
-/

namespace Backtracking

namespace Tool

inductive UsageError where
  | missingCommand
  | unknownCommand (name : String)
  | unknownOption (argument : String)
  | repeatedOption (name : String)
  | missingValue (name : String)
  | unexpectedValue (name : String)
  | missingArgument (name : String)
  | unexpectedArgument (argument : String)
  | emptyArgument (name : String)
  | missingFile (path : String)
deriving DecidableEq

def UsageError.message : UsageError → String
  | .missingCommand => "a command is missing"
  | .unknownCommand name => "unknown command " ++ name
  | .unknownOption argument => "unknown option " ++ argument
  | .repeatedOption name => "repeated option " ++ name
  | .missingValue name => "a value is missing for " ++ name
  | .unexpectedValue name => "unexpected value for " ++ name
  | .missingArgument name => "missing argument " ++ name
  | .unexpectedArgument argument => "unexpected argument " ++ argument
  | .emptyArgument name => "empty argument " ++ name
  | .missingFile path => "no such file " ++ path

/-- The options of the command that searches files. -/
inductive SearchOption where
  | count
  | groups
  | lineNumber
  | onlyMatching
  | recursive
deriving DecidableEq

/-- What the tool is to do: to run a command, or to tell about itself. -/
inductive Command where
  | search (pattern : String) (paths : List String) (options : List SearchOption)
  | test (pattern subject : String)
  | debug (pattern : String)
  | help
  | version
deriving DecidableEq

/-- A command, and the file of settings that was named for it. -/
structure Request where
  settingsPath? : Option String
  command : Command
deriving DecidableEq

/-- Why the arguments of a command are not read to their end: a question about the command was
asked, or they are refused.  What comes first decides. -/
inductive Halt where
  | help
  | misuse (error : UsageError)
deriving DecidableEq

/-- How an option is written: as a letter after a hyphen or as a name after two. -/
structure OptionForm (α : Type) where
  option : α
  letter : Char
  name : String

/-- The arguments that a command takes: its options, the number of other arguments that it needs,
and the name of those that may follow. -/
structure CommandForm (α : Type) where
  options : List (OptionForm α) := []
  needed : Nat
  more? : Option String := none

structure Arguments (α : Type) where
  options : List α := []
  values : List String := []

namespace Arguments

variable {α : Type} [DecidableEq α]

/-- Adds an option, which may be given once. -/
def addOption (arguments : Arguments α) (form : OptionForm α) : Except Halt (Arguments α) :=
  if arguments.options.contains form.option then
    .error (.misuse (.repeatedOption form.name))
  else
    .ok { arguments with options := arguments.options ++ [form.option] }

/-- Adds the option of a letter. -/
def addLetter (forms : List (OptionForm α)) (arguments : Arguments α) (letter : Char) :
    Except Halt (Arguments α) :=
  match forms.find? (·.letter == letter) with
  | some form => arguments.addOption form
  | none =>
      if letter = 'h' then .error .help
      else .error (.misuse (.unknownOption ("-" ++ letter.toString)))

/-- Adds the option of a name, which takes no value. -/
def addName (forms : List (OptionForm α)) (arguments : Arguments α) (text : List Char) :
    Except Halt (Arguments α) :=
  let name := String.ofList (text.takeWhile (· != '='))
  let hasValue := text.contains '='
  match forms.find? (·.name == name) with
  | some form =>
      if hasValue then .error (.misuse (.unexpectedValue form.name)) else arguments.addOption form
  | none =>
      if name == "help" then
        .error (if hasValue then .misuse (.unexpectedValue name) else .help)
      else
        .error (.misuse (.unknownOption ("--" ++ name)))

/-- Adds an argument that is no option.  It may be empty only if the command needs it. -/
def addValue (form : CommandForm α) (arguments : Arguments α) (value : String) :
    Except Halt (Arguments α) :=
  let longer := { arguments with values := arguments.values ++ [value] }
  if arguments.values.length < form.needed then .ok longer
  else
    match form.more? with
    | none => .error (.misuse (.unexpectedArgument value))
    | some name => if value = "" then .error (.misuse (.emptyArgument name)) else .ok longer

def readFrom (form : CommandForm α) (arguments : Arguments α) :
    List String → Except Halt (Arguments α)
  | [] => .ok arguments
  | argument :: rest =>
      match argument.toList with
      | ['-', '-'] => rest.foldlM (addValue form) arguments
      | '-' :: '-' :: name => do readFrom form (← arguments.addName form.options name) rest
      | '-' :: letter :: letters => do
          readFrom form (← (letter :: letters).foldlM (addLetter form.options) arguments) rest
      | _ => do readFrom form (← arguments.addValue form argument) rest

def read (form : CommandForm α) (arguments : List String) : Except Halt (Arguments α) :=
  readFrom form {} arguments

end Arguments

namespace Command

/-- What the command that searches files takes. -/
def searchForm : CommandForm SearchOption :=
  { options :=
      [⟨.count, 'c', "count"⟩, ⟨.groups, 'g', "groups"⟩, ⟨.lineNumber, 'n', "line-number"⟩,
        ⟨.onlyMatching, 'o', "only-matching"⟩, ⟨.recursive, 'r', "recursive"⟩]
    needed := 1
    more? := some "PATH" }

def readSearch (arguments : List String) : Except Halt Command := do
  let read ← Arguments.read searchForm arguments
  match read.values with
  | [] => throw (.misuse (.missingArgument "PATTERN"))
  | pattern :: paths => return .search pattern paths read.options

/-- What the command that shows matches takes. -/
def testForm : CommandForm Empty := { needed := 2 }

def readTest (arguments : List String) : Except Halt Command := do
  let read ← Arguments.read testForm arguments
  match read.values with
  | [] => throw (.misuse (.missingArgument "PATTERN"))
  | [_] => throw (.misuse (.missingArgument "SUBJECT"))
  | pattern :: subject :: _ => return .test pattern subject

/-- What the command that shows compiled patterns takes. -/
def debugForm : CommandForm Empty := { needed := 1 }

def readDebug (arguments : List String) : Except Halt Command := do
  let read ← Arguments.read debugForm arguments
  match read.values with
  | [] => throw (.misuse (.missingArgument "PATTERN"))
  | pattern :: _ => return .debug pattern

/-- Reads what help is asked for, which is the tool or one of its commands. -/
def readHelp : List String → Except Halt Command
  | [] => .ok .help
  | name :: rest =>
      if ["search", "test", "debug", "help"].contains name then
        match rest with
        | [] => .ok .help
        | value :: _ => .error (.misuse (.unknownCommand value))
      else
        .error (.misuse (.unknownCommand name))

end Command

namespace Request

/-- Names the file of settings, once. -/
def setPath (path? : Option String) (path : String) : Except UsageError (Option String) :=
  if path?.isSome then .error (.repeatedOption "config") else .ok (some path)

/-- A value that is written together with its option.  An equals sign may come first. -/
def attached (text : List Char) : String :=
  match text with
  | '=' :: value => String.ofList value
  | value => String.ofList value

/-- Whether an argument is written as an option. -/
def isOption (argument : String) : Bool :=
  match argument.toList with
  | '-' :: _ :: _ => true
  | _ => false

/-- The request for a command, or for help if the command was asked about. -/
def ofReading (path? : Option String) : Except Halt Command → Except UsageError Request
  | .ok command => .ok ⟨path?, command⟩
  | .error .help => .ok ⟨path?, .help⟩
  | .error (.misuse error) => .error error

/-- Reads the options before a command, and the command.  `path?` is the file of settings that was
named so far, and `pending` tells that its name comes next. -/
def readFrom (path? : Option String) (pending : Bool) : List String → Except UsageError Request
  | [] => .error (if pending then .missingValue "config" else .missingCommand)
  | argument :: rest =>
      if pending then
        if isOption argument then .error (.missingValue "config")
        else do readFrom (← setPath path? argument) false rest
      else
        match argument.toList with
        | ['-', '-'] =>
            match rest with
            | [] => .error .missingCommand
            | value :: _ => .error (.unexpectedArgument value)
        | '-' :: '-' :: text =>
            let name := String.ofList (text.takeWhile (· != '='))
            let value := text.dropWhile (· != '=')
            if name == "config" then
              if value.isEmpty then readFrom path? true rest
              else do readFrom (← setPath path? (attached value)) false rest
            else if !value.isEmpty then .error (.unknownOption argument)
            else if name == "help" then .ok ⟨path?, .help⟩
            else if name == "version" then .ok ⟨path?, .version⟩
            else .error (.unknownOption argument)
        | ['-', 'C'] => readFrom path? true rest
        | '-' :: 'C' :: value => do readFrom (← setPath path? (attached value)) false rest
        | '-' :: 'h' :: _ => .ok ⟨path?, .help⟩
        | '-' :: 'V' :: _ => .ok ⟨path?, .version⟩
        | '-' :: _ :: _ => .error (.unknownOption argument)
        | _ =>
            match argument with
            | "search" => ofReading path? (Command.readSearch rest)
            | "test" => ofReading path? (Command.readTest rest)
            | "debug" => ofReading path? (Command.readDebug rest)
            | "help" => ofReading path? (Command.readHelp rest)
            | _ => .error (.unknownCommand argument)

def ofArguments (arguments : List String) : Except UsageError Request :=
  readFrom none false arguments

/-- The paths that a request names, of the file of settings and of what is searched. -/
def paths (request : Request) : List String :=
  request.settingsPath?.toList ++
    match request.command with
    | .search _ paths _ => paths
    | _ => []

/-- Whether a request is for a search of the standard input. -/
def readsInput (request : Request) : Bool :=
  match request.command with
  | .search _ [] _ => true
  | _ => false

end Request

end Tool

end Backtracking
