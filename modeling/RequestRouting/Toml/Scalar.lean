import RequestRouting.Document.Basic

/-!
# Scalars of TOML

What the unquoted scalars of TOML spell: truth values, integers in four bases, floating point
numbers, and dates and times.

## Main definitions

* `Toml.readNumber?` — integers and floating point numbers.
* `Toml.readDatetime?` — the normal form of a date, a time, or both.
* `Toml.readScalar?` — any unquoted scalar.
-/

set_option autoImplicit false

namespace RequestRouting

namespace Toml

/-! ## Numbers -/

/-- Removes single underscores between the digits of a nonempty text. -/
def joinDigits? (isDigit : Char → Bool) : List Char → Option (List Char)
  | [] => none
  | [c] => if isDigit c then some [c] else none
  | c :: '_' :: rest => if isDigit c then (joinDigits? isDigit rest).map (c :: ·) else none
  | c :: rest => if isDigit c then (joinDigits? isDigit rest).map (c :: ·) else none

/-- Whether a character is a digit of a base up to sixteen. -/
def isDigitOf (base : Nat) (c : Char) : Bool := (hexDigitValue? c).any (· < base)

/-- The integer that digits of a base spell. -/
def readBased? (base : Nat) (text : List Char) : Option Int :=
  (joinDigits? (isDigitOf base) text).map fun digits =>
    digits.foldl (fun n c => n * base + (hexDigitValue? c).getD 0) 0

/-- The digits of a decimal integer, which has no leading zeros. -/
def wholeDigits? (text : List Char) : Option (List Char) := do
  let digits ← joinDigits? Char.isDigit text
  if digits.head? = some '0' && digits.length ≠ 1 then none else some digits

/-- The least integer that can be written. -/
def integerMin : Int := -170141183460469231731687303715884105728

/-- The greatest integer that can be written. -/
def integerMax : Int := 340282366920938463463374607431768211455

/-- The integer of a sign and digits. -/
def integerOf? (negative : Bool) (digits : List Char) : Option Node :=
  let value : Int := if negative then -(ofDigits digits : Int) else ofDigits digits
  if integerMin ≤ value && value ≤ integerMax then some (.integer value) else none

/-- The exponent after a mark. -/
def readExponent? (text : List Char) : Option Int := do
  let (negative, body) := takeSign text
  let digits ← joinDigits? Char.isDigit body
  some (if negative then -(ofDigits digits : Int) else ofDigits digits)

/-- Whether a character marks an exponent. -/
def isExponentMark (c : Char) : Bool := c == 'e' || c == 'E'

/-- The digits between the point and the exponent; no point means none. -/
def fractionDigits? : List Char → Option (List Char)
  | '.' :: rest => joinDigits? Char.isDigit rest
  | [] => some []
  | _ => none

/-- The floating point number of a sign and a numeral. -/
def readFloat? (negative : Bool) (text : List Char) : Option Node := do
  let mantissa := text.takeWhile (!isExponentMark ·)
  let exponent ← match text.dropWhile (!isExponentMark ·) with
    | [] => some 0
    | _ :: rest => readExponent? rest
  let whole ← wholeDigits? (mantissa.takeWhile (· ≠ '.'))
  let fraction ← fractionDigits? (mantissa.dropWhile (· ≠ '.'))
  let value ← Decimal.toBinary64? ⟨negative, ofDigits (whole ++ fraction),
    exponent - fraction.length⟩
  some (.float value)

/-- The number that a text spells. -/
def readNumber? (text : List Char) : Option Node :=
  match text with
  | '0' :: 'x' :: rest => (readBased? 16 rest).map .integer
  | '0' :: 'o' :: rest => (readBased? 8 rest).map .integer
  | '0' :: 'b' :: rest => (readBased? 2 rest).map .integer
  | _ =>
    let (negative, body) := takeSign text
    if body.any fun c => c == '.' || isExponentMark c then readFloat? negative body
    else (wholeDigits? body).bind (integerOf? negative)

/-! ## Dates and times -/

/-- The number that the given count of digits spells, and the text after them. -/
def readField? (count : Nat) (text : List Char) : Option (Nat × List Char) :=
  let digits := text.take count
  if digits.length = count && digits.all Char.isDigit then
    some (ofDigits digits, text.drop count)
  else none

/-- The text after a character that has to be there. -/
def expect? (c : Char) : List Char → Option (List Char)
  | first :: rest => if first = c then some rest else none
  | [] => none

/-- Whether a year has a leap day. -/
def isLeapYear (year : Nat) : Bool := (year % 4 = 0 && year % 100 ≠ 0) || year % 400 = 0

/-- The number of days of a month. -/
def daysOf (year month : Nat) : Nat :=
  if month = 2 then (if isLeapYear year then 29 else 28)
  else if month = 4 || month = 6 || month = 9 || month = 11 then 30
  else 31

/-- Digits with zeros in front. -/
def padded (count n : Nat) : String :=
  let digits := toString n
  String.ofList (List.replicate (count - digits.length) '0') ++ digits

/-- A date at the beginning of a text. -/
def readDate? (text : List Char) : Option (String × List Char) := do
  let (year, rest) ← readField? 4 text
  let (month, rest) ← readField? 2 (← expect? '-' rest)
  let (day, rest) ← readField? 2 (← expect? '-' rest)
  if 1 ≤ month && month ≤ 12 && 1 ≤ day && day ≤ daysOf year month then
    some (padded 4 year ++ "-" ++ padded 2 month ++ "-" ++ padded 2 day, rest)
  else none

/-- Removes zeros from the end. -/
def trimZeros (digits : List Char) : List Char := (digits.reverse.dropWhile (· = '0')).reverse

/-- The fraction of a second, to nine digits. -/
def readFractionOfSecond? : List Char → Option (String × List Char)
  | '.' :: rest =>
    let digits := rest.takeWhile Char.isDigit
    if digits.isEmpty then none
    else
      let kept := trimZeros (digits.take 9)
      some (if kept.isEmpty then "" else "." ++ String.ofList kept, rest.dropWhile Char.isDigit)
  | rest => some ("", rest)

/-- A time of day at the beginning of a text. -/
def readTime? (text : List Char) : Option (String × List Char) := do
  let (hour, rest) ← readField? 2 text
  let (minute, rest) ← readField? 2 (← expect? ':' rest)
  let (second, rest) ← readField? 2 (← expect? ':' rest)
  if 23 < hour || 59 < minute || 60 < second then none
  let (fraction, rest) ← readFractionOfSecond? rest
  some (padded 2 hour ++ ":" ++ padded 2 minute ++ ":" ++ padded 2 second ++ fraction, rest)

/-- The offset after a date and a time. -/
def readOffset? : List Char → Option String
  | [] => some ""
  | ['Z'] | ['z'] => some "Z"
  | c :: rest => do
    let (hours, rest) ← readField? 2 rest
    let (minutes, rest) ← readField? 2 (← expect? ':' rest)
    if !rest.isEmpty || 23 < hours || 59 < minutes then none
    let sign ← if c = '+' then some "+"
      else if c = '-' then some (if hours = 0 && minutes = 0 then "+" else "-")
      else none
    some (sign ++ padded 2 hours ++ ":" ++ padded 2 minutes)

/-- Whether a character separates a date from a time. -/
def isTimeMark (c : Char) : Bool := c == 'T' || c == 't' || c == ' '

/-- The normal form of a date, a time, or both. -/
def readDatetime? (text : List Char) : Option String :=
  match readDate? text with
  | some (date, []) => some date
  | some (date, c :: rest) =>
    if isTimeMark c then do
      let (time, rest) ← readTime? rest
      some (date ++ "T" ++ time ++ (← readOffset? rest))
    else none
  | none =>
    match readTime? text with
    | some (time, []) => some time
    | _ => none

/-! ## Scalars -/

/-- Whether a text spells an infinity or not-a-number. -/
def isSpecial (text : List Char) : Bool :=
  let body := (takeSign text).2
  body = ['i', 'n', 'f'] || body = ['n', 'a', 'n']

/-- The value that an unquoted scalar spells. -/
def readScalar? (text : List Char) : Option Node :=
  if text = ['t', 'r', 'u', 'e'] then some (.bool true)
  else if text = ['f', 'a', 'l', 's', 'e'] then some (.bool false)
  else if isSpecial text then some .nonFinite
  else ((readDatetime? text).map .datetime).or (readNumber? text)

end Toml

end RequestRouting
