import Backtracking.Tool.Outcome
import Backtracking.Tool.Report

/-!
# Runs of the tool

The tool has three commands.  `search` reports the lines of files in which a regular expression
matches, `test` shows all matches in a text, and `debug` shows the program of a regular expression.
A run depends on its surroundings only through the files, the standard input and the settings in
the home directory.  It has no outcome if one of its searches overflows.
-/

namespace Backtracking

namespace Tool

/-- The surroundings of a run. -/
structure Environment where
  find : String → Except FileError FileTree
  input : ByteArray := .empty
  homeSettings? : Option FileTree := none

/-- What a path names as the file of settings, which has to exist if it is named. -/
def Environment.settingsFile? (environment : Environment) :
    Option String → Except Failure (Option (String × FileTree))
  | none => .ok none
  | some path =>
      match environment.find path with
      | .ok tree => .ok (some (path, tree))
      | .error _ => .error (.usage (.missingFile path))

/-- The settings in force.  Those of the home directory count if no file is named, and are passed
over if they are refused. -/
def Environment.settings (environment : Environment) :
    (file? : Option (String × FileTree)) → Except Failure Settings
  | none =>
      match environment.homeSettings?.map Settings.ofTree with
      | some (.ok settings) => .ok settings
      | _ => .ok {}
  | some (path, tree) =>
      match Settings.ofTree tree with
      | .ok settings => .ok settings
      | .error error => .error (.settings path error)

def compile (pattern : String) (limits : Limits) : Except Failure Regexp :=
  match Regexp.parse pattern.toList with
  | .ok regexp => .ok { regexp with limits := limits }
  | .error error => .error (.pattern pattern error)

/-- The outcome of a step that may fail before it prints. -/
def Outcome.ofResult {α : Type} (result : Except Failure α)
    (continuation : α → Except Overflow Outcome) : Except Overflow Outcome :=
  match result with
  | .ok value => continuation value
  | .error failure => .ok (.ofFailure failure)

namespace Search

/-- What the options of a search ask to see. -/
def detail (options : List SearchOption) : Report.Detail :=
  if options.contains .count then .count
  else if options.contains .groups then .groupTexts
  else if options.contains .onlyMatching then .matchTexts
  else .lines

/-- Searches bytes, which come from a file or from the standard input. -/
def searchBytes (style : Report.Style) (regexp : Regexp) (path? : Option String)
    (content : ByteArray) : Except Overflow Outcome := do
  let report ← Report.ofText style regexp (Utf8.decodeLossily content)
  return { Outcome.ofLines report.lines with failure? := report.error?.map (.searching path?) }

def searchFiles (style : String → Report.Style) (regexp : Regexp) :
    List (String × Except FileError ByteArray) → Except Overflow Outcome
  | [] => .ok (.ofLines [])
  | (path, .error error) :: _ => .ok (.ofFailure (.reading path error))
  | (path, .ok content) :: rest => do
      (← searchBytes (style path) regexp (some path) content).andThen fun _ =>
        searchFiles style regexp rest

/-- Searches what paths name, one after another. -/
def searchPaths (environment : Environment) (style : String → Report.Style) (isRecursive : Bool)
    (regexp : Regexp) : List String → Except Overflow Outcome
  | [] => .ok (.ofLines [])
  | path :: rest =>
      match environment.find path with
      | .error error => .ok (.ofFailure (.reading path error))
      | .ok (.directory entries) =>
          if isRecursive then do
            (← searchFiles style regexp (FileTree.filesWithin path (.directory entries))).andThen
              fun _ => searchPaths environment style isRecursive regexp rest
          else
            .ok (.ofFailure (.directory path))
      | .ok tree => do
          (← searchFiles style regexp (FileTree.filesWithin path tree)).andThen fun _ =>
            searchPaths environment style isRecursive regexp rest

/-- Searches what paths name, or the standard input if there are none.  Paths are shown if there
may be several files. -/
def run (environment : Environment) (settings : Settings) (regexp : Regexp) (paths : List String)
    (options : List SearchOption) : Except Overflow Outcome :=
  let isRecursive := options.contains .recursive
  let style (path? : Option String) : Report.Style :=
    { detail := detail options
      path? := path?
      lineNumbers := options.contains .lineNumber || settings.lineNumbers
      mark := id }
  match paths with
  | [] => searchBytes (style none) regexp none environment.input
  | _ =>
      let showsPath := paths.length > 1 || isRecursive
      searchPaths environment (fun path => style (if showsPath then some path else none))
        isRecursive regexp paths

end Search

namespace Test

/-- The place and the text of a group. -/
def place (subject : Subject) (span : Span) : String :=
  " at " ++ toString span.start ++ ".." ++ toString span.stop ++ ": " ++
    quoteText (subject.slice span.start span.stop)

def groupLine (regexp : Regexp) (subject : Subject) (state : MatchState) (group : Nat) : String :=
  "  group " ++ Report.groupLabel regexp group ++
    match state.span? group with
    | some span => place subject span
    | none => ": " ++ Report.unset

def matchLines (regexp : Regexp) (subject : Subject) (number : Nat) (state : MatchState) :
    List String :=
  ((state.span? 0).map fun span =>
    "match " ++ toString number ++ place subject span).toList ++
  ((List.range regexp.groupCount).drop 1).map (groupLine regexp subject state)

/-- The lines for matches that are numbered from `number` on. -/
def sequenceLines (regexp : Regexp) (subject : Subject) (number : Nat) :
    List MatchState → List String
  | [] => []
  | state :: rest =>
      matchLines regexp subject number state ++ sequenceLines regexp subject (number + 1) rest

/-- Shows all matches in a text and their number. -/
def run (regexp : Regexp) (subject : Subject) : Except Overflow Outcome := do
  let sequence ← regexp.findAll subject
  let lines := sequenceLines regexp subject 1 sequence.found
  match sequence.error? with
  | some error => return { Outcome.ofLines lines with failure? := some (.testing error) }
  | none => return .ofLines (lines ++ [toString sequence.found.length ++ " match(es)"])

end Test

def versionText : String := "backre-cli 0.1.0\n"

def helpText : String := "Usage: bre [-C FILE] COMMAND

Commands:
  search [-c] [-g] [-n] [-o] [-r] PATTERN [PATH]...
      Search for a pattern in files, or in the standard input if none is given
  test PATTERN SUBJECT
      Show every match of a pattern in a string
  debug PATTERN
      Print the compiled form of a pattern

Options:
  -C, --config FILE    Read the settings from a file
  -h, --help           Print this help
  -V, --version        Print the version

Options of search:
  -c, --count          Print only the number of matching lines per file
  -g, --groups         Print the text captured by each group
  -n, --line-number    Put its number before each line
  -o, --only-matching  Print only the matching text, one match per line
  -r, --recursive      Search directories recursively
"

def Command.run (environment : Environment) (settings : Settings) :
    Command → Except Overflow Outcome
  | .search pattern paths options =>
      Outcome.ofResult (compile pattern settings.limits) fun regexp =>
        Search.run environment settings regexp paths options
  | .test pattern subject =>
      Outcome.ofResult (compile pattern settings.limits) fun regexp =>
        Test.run regexp (.ofString subject)
  | .debug pattern =>
      Outcome.ofResult (compile pattern {}) fun regexp =>
        .ok ⟨regexp.render ++ "\n" ++ regexp.dump, none⟩
  | .help => .ok ⟨helpText, none⟩
  | .version => .ok ⟨versionText, none⟩

/-- Fulfils a request.  What the tool tells about itself does not depend on the settings. -/
def Request.run (environment : Environment) (request : Request) : Except Overflow Outcome :=
  Outcome.ofResult (environment.settingsFile? request.settingsPath?) fun file? =>
    match request.command with
    | .help | .version => request.command.run environment {}
    | command => Outcome.ofResult (environment.settings file?) fun settings =>
        command.run environment settings

def run (environment : Environment) (arguments : List String) : Except Overflow Outcome :=
  Outcome.ofResult ((Request.ofArguments arguments).mapError .usage) (·.run environment)

end Tool

end Backtracking
