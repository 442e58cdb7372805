import Backtracking.Text.Digits
import Backtracking.Toml.Value

/-!
# Numbers, dates and booleans of TOML

The values that are written without quotes or brackets.  Underscores may stand between the digits
of a number, and an integer has 64 bits.
-/

namespace Backtracking

namespace Toml

/-- The number that goes on with some digits after a digit. -/
def continueDigits? (base : Nat) (value : Nat) : List Char → Option Nat
  | [] => some value
  | '_' :: digit :: rest => do
      continueDigits? base (base * value + (← Digits.value? base digit)) rest
  | digit :: rest => do
      continueDigits? base (base * value + (← Digits.value? base digit)) rest

def digits? (base : Nat) : List Char → Option Nat
  | [] => none
  | digit :: rest => do continueDigits? base (← Digits.value? base digit) rest

/-- A decimal number, which has no needless zero in front. -/
def decimal? (text : List Char) : Option Nat :=
  match text with
  | '0' :: _ :: _ => none
  | _ => digits? 10 text

def dropSign : List Char → List Char
  | '+' :: rest => rest
  | '-' :: rest => rest
  | text => text

def integer? (text : List Char) : Option Int := do
  let value : Int ←
    match text with
    | '0' :: 'x' :: digits => (digits? 16 digits).map Int.ofNat
    | '0' :: 'o' :: digits => (digits? 8 digits).map Int.ofNat
    | '0' :: 'b' :: digits => (digits? 2 digits).map Int.ofNat
    | '-' :: digits => (decimal? digits).map fun value => -Int.ofNat value
    | _ => (decimal? (dropSign text)).map Int.ofNat
  guard (Int64.minValue.toInt ≤ value && value ≤ Int64.maxValue.toInt)
  return value

def isExponent : List Char → Bool
  | 'e' :: rest => (digits? 10 (dropSign rest)).isSome
  | 'E' :: rest => (digits? 10 (dropSign rest)).isSome
  | _ => false

def isFloat (text : List Char) : Bool :=
  let unsigned := dropSign text
  let isDigit := fun character : Char => character.isDigit || character == '_'
  let rest := unsigned.dropWhile isDigit
  unsigned == "inf".toList || unsigned == "nan".toList ||
    (decimal? (unsigned.takeWhile isDigit)).isSome &&
      match rest with
      | '.' :: rest =>
          (digits? 10 (rest.takeWhile isDigit)).isSome &&
            (let rest := rest.dropWhile isDigit
             rest.isEmpty || isExponent rest)
      | _ => isExponent rest

/-- The number that exactly `count` digits spell. -/
def fixedDigits? (count : Nat) (text : List Char) : Option Nat := do
  guard (text.length == count && text.all Char.isDigit)
  digits? 10 text

def daysOfMonth (year month : Nat) : Nat :=
  if month = 2 then
    if year % 4 = 0 && (year % 100 != 0 || year % 400 = 0) then 29 else 28
  else if month = 4 || month = 6 || month = 9 || month = 11 then 30
  else 31

def isDate (text : List Char) : Bool :=
  match text.splitOn '-' with
  | [year, month, day] =>
      match fixedDigits? 4 year, fixedDigits? 2 month, fixedDigits? 2 day with
      | some year, some month, some day =>
          1 ≤ month && month ≤ 12 && 1 ≤ day && day ≤ daysOfMonth year month
      | _, _, _ => false
  | _ => false

/-- Whether a text has two digits for a number of at most `greatest`. -/
def isClockPart (greatest : Nat) (text : List Char) : Bool :=
  match fixedDigits? 2 text with
  | some value => value ≤ greatest
  | none => false

/-- Whether a text is a time of day without a zone.  A minute may have a leap second. -/
def isClock (text : List Char) : Bool :=
  match text.splitOn ':' with
  | [hour, minute, second] =>
      isClockPart 23 hour && isClockPart 59 minute && isClockPart 60 (second.take 2) &&
        match second.drop 2 with
        | [] => true
        | '.' :: fraction => !fraction.isEmpty && fraction.all Char.isDigit
        | _ => false
  | _ => false

def isZone : List Char → Bool
  | ['Z'] => true
  | ['z'] => true
  | sign :: offset =>
      (sign == '+' || sign == '-') &&
        match offset.splitOn ':' with
        | [hours, minutes] => isClockPart 23 hours && isClockPart 59 minutes
        | _ => false
  | [] => false

/-- Whether a text is a time of day that may have a zone. -/
def isTime (text : List Char) : Bool :=
  let isClockChar := fun character : Char =>
    character.isDigit || character == ':' || character == '.'
  let zone := text.dropWhile isClockChar
  isClock (text.takeWhile isClockChar) && (zone.isEmpty || isZone zone)

/-- Whether a text is a date, a time of day without a zone, or both with the letter T between
them. -/
def isDateTime (text : List Char) : Bool :=
  isClock text ||
    isDate (text.take 10) &&
      match text.drop 10 with
      | [] => true
      | 'T' :: time => isTime time
      | 't' :: time => isTime time
      | _ => false

def scalar? (text : List Char) : Option Value :=
  match integer? text with
  | some value => some (.integer value)
  | none =>
      if text == "true".toList then some (.boolean true)
      else if text == "false".toList then some (.boolean false)
      else if isFloat text then some (.float (String.ofList text))
      else if isDateTime text then some (.dateTime (String.ofList text))
      else none

end Toml

end Backtracking
