import Backtracking.Toml.Quoted
import Backtracking.Toml.Scalar

/-!
# TOML documents

A document is a sequence of statements, each on a line of its own: the header of a table, or a key
with its value.  The entries after a header belong to its table, and those before the first header
to the document itself.
-/

namespace Backtracking

namespace Toml

/-- A reading takes characters from the front of a text. -/
abbrev Reading := StateT (List Char) Option

/-- One line of a document. -/
inductive Statement where
  | header (key : Key)
  | entry (key : Key) (value : Value)

namespace Reading

/-- How deeply arrays and tables in braces may be nested. -/
def greatestNesting : Nat := 79

def accept (character : Char) : Reading Bool := do
  match ← get with
  | next :: rest =>
      if next = character then
        set rest
        return true
      else
        return false
  | [] => return false

def expect (character : Char) : Reading Unit := do guard (← accept character)

def takeWhile (test : Char → Bool) : Reading (List Char) := do
  let text ← get
  set (text.dropWhile test)
  return text.takeWhile test

def blanks : Reading Unit := do
  let _ ← takeWhile Quoted.isBlank

/-- A text without the blanks, line ends and comments at its beginning, unless a comment holds a
control character. -/
def dropTrivia? (inComment : Bool) : List Char → Option (List Char)
  | [] => some []
  | '\r' :: '\n' :: rest => dropTrivia? false rest
  | '\n' :: rest => dropTrivia? false rest
  | character :: rest =>
      if inComment then
        if Quoted.isPlain character then dropTrivia? true rest else none
      else if character = '#' then dropTrivia? true rest
      else if Quoted.isBlank character then dropTrivia? false rest
      else some (character :: rest)

def trivia : Reading Unit := do
  set (← liftM (dropTrivia? false (← get)))

/-- Takes blanks, after which a line end or a comment has to come. -/
def lineEnd : Reading Unit := do
  blanks
  let text ← get
  guard (text.isEmpty || text.head? == some '#' || Quoted.atLineEnd text)

/-- Takes the rest of a quoted text. -/
def quoted (read : List Char → Quoted) : Reading (List Char) := do
  let (text, rest) ← liftM (read (← get))
  set rest
  return text

/-- Whether a character may occur in a key without quotes. -/
def isBareKeyChar (character : Char) : Bool :=
  character.isAlphanum || character == '-' || character == '_'

def simpleKey : Reading String := do
  if ← accept '"' then
    return String.ofList (← quoted Quoted.basic)
  if ← accept '\'' then
    return String.ofList (← quoted Quoted.literal)
  let name ← takeWhile isBareKeyChar
  guard !name.isEmpty
  return String.ofList name

/-- Reads a key of at most `room` names with dots between them. -/
def keyNames : (room : Nat) → Reading (List String)
  | 0 => failure
  | room + 1 => do
      blanks
      let name ← simpleKey
      blanks
      if ← accept '.' then
        return name :: (← keyNames room)
      return [name]

def key : Reading Key := do
  let names ← keyNames (← get).length
  match names.getLast? with
  | some name => return ⟨names.dropLast, name⟩
  | none => failure

def string (quote : Char) (line lines : List Char → Quoted) : Reading Value := do
  match ← get with
  | first :: second :: rest =>
      if first = quote && second = quote then
        set (Quoted.dropLineEnd rest)
        return .string (String.ofList (← quoted lines))
      return .string (String.ofList (← quoted line))
  | _ => return .string (String.ofList (← quoted line))

/-- Whether a character may occur in a value without quotes or brackets. -/
def isScalarChar (character : Char) : Bool :=
  character.isAlphanum || ['_', '+', '-', '.', ':'].contains character

/-- Reads a value without quotes or brackets.  A blank may stand between a date and a time. -/
def scalar : Reading Value := do
  let text ← takeWhile isScalarChar
  match ← get with
  | ' ' :: next :: _ =>
      if isDate text && next.isDigit then
        let _ ← accept ' '
        let time ← takeWhile isScalarChar
        guard (isTime time)
        return .dateTime (String.ofList (text ++ ' ' :: time))
  | _ => pure ()
  liftM (scalar? text)

/-- Reads at most `room` items and the closing bracket of an array.  A comma may follow the last
item. -/
def items (item : Reading Value) : (room : Nat) → Reading (List Value)
  | 0 => failure
  | room + 1 => do
      trivia
      if ← accept ']' then
        return []
      let value ← item
      trivia
      if ← accept ',' then
        return value :: (← items item room)
      expect ']'
      return [value]

def entry (item : Reading Value) : Reading (Key × Value) := do
  let key ← key
  expect '='
  blanks
  return (key, ← item)

/-- Reads at most `room` entries and the closing brace of a table that has some entries already. -/
def inlineEntries (item : Reading Value) : (room : Nat) → Entries → Reading Entries
  | 0, _ => failure
  | room + 1, entries => do
      let (key, value) ← entry item
      let entries ← liftM (entries.insertAt? key value)
      blanks
      if ← accept ',' then
        inlineEntries item room entries
      else
        expect '}'
        return entries

/-- Reads a value within which `nesting` levels of brackets and braces are allowed. -/
def value : (nesting : Nat) → Reading Value
  | 0 => do
      if ← accept '"' then string '"' Quoted.basic (Quoted.basicLines false)
      else if ← accept '\'' then string '\'' Quoted.literal Quoted.literalLines
      else scalar
  | nesting + 1 => do
      if ← accept '"' then string '"' Quoted.basic (Quoted.basicLines false)
      else if ← accept '\'' then string '\'' Quoted.literal Quoted.literalLines
      else if ← accept '[' then
        return .array (← items (value nesting) (← get).length)
      else if ← accept '{' then
        blanks
        if ← accept '}' then
          return .table .inline []
        return .table .inline (← inlineEntries (value nesting) (← get).length [])
      else scalar

def statement : Reading Statement := do
  if ← accept '[' then
    let key ← key
    expect ']'
    return .header key
  else
    let (key, value) ← entry (value greatestNesting)
    return .entry key value

/-- Reads at most `room` statements, and the text to its end. -/
def statements : (room : Nat) → Reading (List Statement)
  | 0 => failure
  | room + 1 => do
      trivia
      if (← get).isEmpty then
        return []
      let first ← statement
      lineEnd
      return first :: (← statements room)

end Reading

/-- The entries of a document, with the path of the table that the last header named. -/
structure Document where
  current : List String := []
  entries : Entries := []

namespace Document

def add? (document : Document) : Statement → Option Document
  | .header key => do
      let entries ← document.entries.updateAt? false (Entries.insertTable? key.name) key.path
      return ⟨key.path ++ [key.name], entries⟩
  | .entry key value => do
      let entries ←
        document.entries.updateAt? false (Entries.insertAt? key value) document.current
      return { document with entries := entries }

/-- The entries of a document that a text spells.  A byte order mark may come first. -/
def parse? (text : List Char) : Option Entries := do
  let text := if text.head? == some '\uFEFF' then text.tail else text
  let (statements, _) ← (Reading.statements (text.length + 1)).run text
  let document ← statements.foldlM add? {}
  return document.entries

end Document

end Toml

end Backtracking
