import ScriptSurvey.Json.Reader
import ScriptSurvey.Toml.Value

/-!
# TOML numbers, dates and words

A value that is no text and no container is a word: a boolean, an integer, a float, a date or a
time.
-/
namespace ScriptSurvey.Toml

open Json (hexDigit?)

/-- The digits of a number with single underscores between them taken out. -/
def plainDigits? (isDigit : Char → Bool) (text : List Char) : Option (List Char) :=
  match text with
  | [] => none
  | [c] => if isDigit c then some [c] else none
  | c :: '_' :: rest => if isDigit c then (plainDigits? isDigit rest).map (c :: ·) else none
  | c :: rest => if isDigit c then (plainDigits? isDigit rest).map (c :: ·) else none

def natOfBase (base : Nat) (digits : List Char) : Nat :=
  digits.foldl (fun n c => n * base + (hexDigit? c).getD 0) 0

/-- Splits off a sign. -/
def signOf (text : List Char) : Bool × List Char :=
  match text with
  | '-' :: rest => (true, rest)
  | '+' :: rest => (false, rest)
  | _ => (false, text)

/-- A decimal whole number; a leading zero stands alone. -/
def wholeDigits? (text : List Char) : Option (List Char) :=
  (plainDigits? Char.isDigit text).bind fun digits =>
    match digits with
    | '0' :: _ :: _ => none
    | _ => some digits

def maxInteger : Nat := Nat.pow 2 63 - 1

def boundedInteger? (negative : Bool) (n : Nat) : Option Value :=
  if negative then if n ≤ maxInteger + 1 then some (.integer (-n)) else none
  else if n ≤ maxInteger then some (.integer n) else none

def integer? (text : List Char) : Option Value :=
  let based (base : Nat) (isDigit : Char → Bool) (rest : List Char) : Option Value :=
    (plainDigits? isDigit rest).bind fun ds => boundedInteger? false (natOfBase base ds)
  match text with
  | '0' :: 'x' :: rest => based 16 (fun c => (hexDigit? c).isSome) rest
  | '0' :: 'o' :: rest => based 8 (fun c => '0' ≤ c && c ≤ '7') rest
  | '0' :: 'b' :: rest => based 2 (fun c => c == '0' || c == '1') rest
  | _ =>
    let (negative, body) := signOf text
    (wholeDigits? body).bind fun ds => boundedInteger? negative (natOfBase 10 ds)

def infinity (negative : Bool) : Decimal.Binary64 := ⟨Decimal.packBits negative 1 2000⟩

def notANumber (negative : Bool) : Decimal.Binary64 :=
  ⟨if negative then 0xfff8000000000000 else 0x7ff8000000000000⟩

/-- A float has a fraction or an exponent. One that is too large is refused unless negative. -/
def decimalFloat? (negative : Bool) (body : List Char) : Option Value :=
  let isMark (c : Char) : Bool := c == 'e' || c == 'E'
  let mantissa := body.takeWhile fun c => !isMark c
  let whole := mantissa.takeWhile (· != '.')
  let fraction? := match mantissa.dropWhile (· != '.') with
    | [] => some []
    | _ :: rest => plainDigits? Char.isDigit rest
  let exponent? : Option Int := match body.dropWhile fun c => !isMark c with
    | [] => some 0
    | _ :: rest =>
      let (down, ds) := signOf rest
      (plainDigits? Char.isDigit ds).map fun ds =>
        let n : Int := natOfBase 10 ds
        if down then -n else n
  if body.any fun c => c == '.' || isMark c then
    match wholeDigits? whole, fraction?, exponent? with
    | some w, some f, some e =>
      let x := Decimal.ofDecimal negative (natOfBase 10 (w ++ f)) (e - f.length)
      if x.isInfinite && !negative then none else some (.float x)
    | _, _, _ => none
  else none

def float? (text : List Char) : Option Value :=
  let (negative, body) := signOf text
  if body == "inf".toList then some (.float (infinity negative))
  else if body == "nan".toList then some (.float (notANumber negative))
  else decimalFloat? negative body

/-- A number written with exactly the given count of digits, and the rest. -/
def fixedNumber? (count : Nat) (text : List Char) : Option (Nat × List Char) :=
  let ds := text.take count
  if ds.length = count && ds.all Char.isDigit then some (natOfBase 10 ds, text.drop count) else none

def isLeapYear (year : Nat) : Bool := (year % 4 = 0 && year % 100 ≠ 0) || year % 400 = 0

def daysInMonth (year month : Nat) : Nat :=
  if month = 2 then if isLeapYear year then 29 else 28
  else if month = 4 || month = 6 || month = 9 || month = 11 then 30
  else 31

def padded (width n : Nat) : String :=
  let s := toString n
  Decimal.zeros (width - s.length) ++ s

/-- A date, and the rest after it. -/
def date? (text : List Char) : Option (String × List Char) := do
  let (year, r) ← fixedNumber? 4 text
  let '-' :: r := r | none
  let (month, r) ← fixedNumber? 2 r
  let '-' :: r := r | none
  let (day, r) ← fixedNumber? 2 r
  if 1 ≤ month && month ≤ 12 && 1 ≤ day && day ≤ daysInMonth year month then
    some (padded 4 year ++ "-" ++ padded 2 month ++ "-" ++ padded 2 day, r)
  else none

/-- The digits of a second's fraction, at most nine and without zeros at the end. -/
def fractionText (digits : List Char) : String :=
  let kept := ((digits.take 9).reverse.dropWhile (· == '0')).reverse
  if kept.isEmpty then "" else "." ++ String.ofList kept

/-- A time of the day, and the rest after it. -/
def time? (text : List Char) : Option (String × List Char) := do
  let (hour, r) ← fixedNumber? 2 text
  let ':' :: r := r | none
  let (minute, r) ← fixedNumber? 2 r
  let ':' :: r := r | none
  let (second, r) ← fixedNumber? 2 r
  if hour ≤ 23 && minute ≤ 59 && second ≤ 60 then
    let plain := padded 2 hour ++ ":" ++ padded 2 minute ++ ":" ++ padded 2 second
    match r with
    | '.' :: more =>
      let ds := more.takeWhile Char.isDigit
      if ds.isEmpty then none else some (plain ++ fractionText ds, more.dropWhile Char.isDigit)
    | _ => some (plain, r)
  else none

/-- The offset of a time, up to the end. -/
def offset? (text : List Char) : Option String :=
  match text with
  | [] => some ""
  | ['Z'] | ['z'] => some "Z"
  | sign :: rest =>
    if sign == '+' || sign == '-' then do
      let (hour, r) ← fixedNumber? 2 rest
      let ':' :: r := r | none
      let (minute, r) ← fixedNumber? 2 r
      if hour ≤ 23 && minute ≤ 59 && r.isEmpty then
        let mark := if sign == '-' && (hour ≠ 0 || minute ≠ 0) then "-" else "+"
        some (mark ++ padded 2 hour ++ ":" ++ padded 2 minute)
      else none
    else none

def isTimeMark (c : Char) : Bool := c == 'T' || c == 't' || c == ' '

def datetime? (text : List Char) : Option Value :=
  match date? text with
  | some (date, []) => some (.datetime date)
  | some (date, mark :: rest) =>
    if isTimeMark mark then do
      let (time, r) ← time? rest
      let offset ← offset? r
      some (.datetime (date ++ "T" ++ time ++ offset))
    else none
  | none => match time? text with
    | some (time, []) => some (.datetime time)
    | _ => none

/-- The value of a word. -/
def word? (text : List Char) : Option Value :=
  if text == "true".toList then some (.boolean true)
  else if text == "false".toList then some (.boolean false)
  else (datetime? text).or ((float? text).or (integer? text))

def isWordPart (c : Char) : Bool := c.isAlphanum || "_+-.:".toList.contains c

/-- The characters of a word and the rest after them. A blank between a date and a time belongs to
the word. -/
def splitWord (text : List Char) : List Char × List Char :=
  let word := text.takeWhile isWordPart
  let rest := text.dropWhile isWordPart
  match rest, date? word with
  | ' ' :: c :: more, some (_, []) =>
    if c.isDigit then
      let time := (c :: more).takeWhile isWordPart
      (word ++ ' ' :: time, (c :: more).dropWhile isWordPart)
    else (word, rest)
  | _, _ => (word, rest)

end ScriptSurvey.Toml
