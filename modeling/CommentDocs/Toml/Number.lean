import CommentDocs.Datum
import CommentDocs.Toml.Lexeme

/-!
# Numbers and points in time in TOML

Integers are written in four bases, and an underscore may stand between two digits. A
date is a day of the calendar; a time of day may follow it, and an offset may follow that.
-/

namespace CommentDocs.Toml

open Text

def isDigit (c : Char) : Bool :=
  '0' ≤ c && c ≤ '9'

/-- What follows a run of digits that may have single underscores between them. -/
def afterDigits (p : Char → Bool) : Text → Text
  | '_' :: c :: rest => if p c then afterDigits p rest else '_' :: c :: rest
  | c :: rest => if p c then afterDigits p rest else c :: rest
  | [] => []

def digits? (p : Char → Bool) : Text → Option Text
  | c :: rest => if p c then some (afterDigits p rest) else none
  | [] => none

def consumed (text rest : Text) : Text :=
  text.take (text.length - rest.length)

/-- The number that digits in a base stand for; underscores are skipped. -/
def digitsValue (base : Nat) (digits : Text) : Nat :=
  digits.foldl (fun value c =>
    match hexDigitValue? c with
    | some digit => value * base + digit
    | none => value) 0

def basedInteger? (base : Nat) (p : Char → Bool) (text : Text) : Option (Datum × Text) :=
  (digits? p text).map fun rest => (.integer (digitsValue base (consumed text rest)), rest)

/-- What follows the integer part of a decimal number: zero alone, or a run of digits that
starts with another digit. -/
def integerPart? : Text → Option Text
  | '0' :: rest => some rest
  | text => digits? isDigit text

def afterFraction : Text → Text
  | '.' :: rest => (digits? isDigit rest).getD ('.' :: rest)
  | text => text

def withoutSign : Text → Text
  | '+' :: rest => rest
  | '-' :: rest => rest
  | text => text

def afterExponent (text : Text) : Text :=
  match text with
  | c :: rest =>
    if c = 'e' || c = 'E' then (digits? isDigit (withoutSign rest)).getD text else text
  | [] => []

def decimal? (text : Text) : Option (Datum × Text) :=
  (integerPart? (withoutSign text)).map fun whole =>
    let rest := afterExponent (afterFraction whole)
    if rest = whole then
      let value := digitsValue 10 (consumed (withoutSign text) rest)
      (.integer (if text.head? = some '-' then -value else value), rest)
    else (.real (consumed text rest), rest)

def number? (text : Text) : Option (Datum × Text) :=
  match text with
  | '0' :: 'x' :: rest =>
    (basedInteger? 16 (fun c => (hexDigitValue? c).isSome) rest).or (decimal? text)
  | '0' :: 'b' :: rest => (basedInteger? 2 (fun c => c = '0' || c = '1') rest).or (decimal? text)
  | '0' :: 'o' :: rest => (basedInteger? 8 (fun c => '0' ≤ c && c ≤ '7') rest).or (decimal? text)
  | _ => decimal? text

/-- The number of digits of a decimal integer. A decimal integer that starts with zero has
one digit; what else starts so is written in another base and counts as short. -/
def decimalDigits (lexeme : Text) : Nat :=
  match withoutSign lexeme with
  | '0' :: _ => 1
  | digits => digits.countP isDigit

def specialWords : List Text :=
  ["inf".toList, "nan".toList, "+inf".toList, "-inf".toList, "+nan".toList, "-nan".toList]

def special? (text : Text) : Option (Datum × Text) :=
  specialWords.findSome? fun word =>
    (word.isPrefixOf? text).map fun rest => (.real word, rest)

def fixedDigits? (count : Nat) (text : Text) : Option (Nat × Text) :=
  let digits := text.take count
  if digits.length = count && digits.all isDigit then
    some (digitsValue 10 digits, text.drop count)
  else none

def after? (c : Char) : Text → Option Text
  | d :: rest => if c = d then some rest else none
  | [] => none

def isLeapYear (year : Nat) : Bool :=
  (year % 4 = 0 && year % 100 ≠ 0) || year % 400 = 0

def daysOfMonth (year month : Nat) : Nat :=
  if month = 2 then (if isLeapYear year then 29 else 28)
  else if [4, 6, 9, 11].contains month then 30 else 31

def date? (text : Text) : Option Text := do
  let (year, rest) ← fixedDigits? 4 text
  let (month, rest) ← fixedDigits? 2 (← after? '-' rest)
  let (day, rest) ← fixedDigits? 2 (← after? '-' rest)
  guard (1 ≤ year && 1 ≤ month && month ≤ 12 && 1 ≤ day && day ≤ daysOfMonth year month)
  return rest

def afterSecondFraction : Text → Text
  | '.' :: c :: rest => if isDigit c then rest.dropWhile isDigit else '.' :: c :: rest
  | text => text

def time? (text : Text) : Option Text := do
  let (hour, rest) ← fixedDigits? 2 text
  let (minute, rest) ← fixedDigits? 2 (← after? ':' rest)
  let (second, rest) ← fixedDigits? 2 (← after? ':' rest)
  guard (hour ≤ 23 && minute ≤ 59 && second ≤ 59)
  return afterSecondFraction rest

def offsetTime? (text : Text) : Option Text := do
  let (hour, rest) ← fixedDigits? 2 text
  let (minute, rest) ← fixedDigits? 2 (← after? ':' rest)
  guard (hour ≤ 23 && minute ≤ 59)
  return rest

/-- What follows an optional offset from universal time. -/
def afterOffset (text : Text) : Text :=
  match text with
  | c :: rest =>
    if c = 'Z' || c = 'z' then rest
    else if c = '+' || c = '-' then (offsetTime? rest).getD text
    else text
  | [] => []

def afterDateTime (text : Text) : Text :=
  match text with
  | c :: rest =>
    if c = 'T' || c = 't' || c = ' ' then
      match time? rest with
      | some after => afterOffset after
      | none => text
    else text
  | [] => []

/-- A date, a date with a time, or a time of day. -/
def moment? (text : Text) : Option (Datum × Text) :=
  ((date? text).map afterDateTime).or (time? text) |>.map fun rest =>
    (.moment (consumed text rest), rest)

end CommentDocs.Toml
