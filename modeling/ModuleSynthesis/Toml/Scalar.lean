import ModuleSynthesis.Toml.Quotation
import ModuleSynthesis.Toml.Value

/-!
# Unquoted scalars in TOML

Truth values, numbers, dates and times. They consist of characters that cannot follow one, so the
longest run of such characters is read as a whole.

* `digits?`: decimal digits with single underscores between them.
* `integer?`, `float?`: numbers.
* `datetime?`: dates and times.
* `scalar?`: any unquoted scalar at the start of a text.
-/

namespace ModuleSynthesis.Toml

/-! ## Digits -/

/-- The digits of a number, in which single underscores may stand between two digits. -/
def digits? (isDigit : Char → Bool) : List Char → Option (List Char)
  | [] => none
  | [c] => if isDigit c then some [c] else none
  | c :: '_' :: rest => if isDigit c then (digits? isDigit rest).map (c :: ·) else none
  | c :: rest => if isDigit c then (digits? isDigit rest).map (c :: ·) else none

/-- The value of digits to a base up to 16. -/
def number (base : Nat) (digits : List Char) : Nat :=
  digits.foldl (fun value c => base * value + (hexValue? c).getD 0) 0

/-- A sign and what it stands before: whether it is a minus. -/
def sign : List Char → Bool × List Char
  | '-' :: rest => (true, rest)
  | '+' :: rest => (false, rest)
  | rest => (false, rest)

/-- The decimal digits of a whole number, which starts with zero only if it is zero. -/
def whole? (text : List Char) : Option (List Char) :=
  match digits? Char.isDigit text with
  | some ('0' :: _ :: _) => none
  | result => result

/-! ## Numbers -/

/-- A whole number of 64 bits. -/
def inRange? (value : Int) : Option Value :=
  if -9223372036854775808 ≤ value ∧ value ≤ 9223372036854775807 then some (.integer value)
  else none

/-- A whole number: decimal with or without a sign, or to the base 16, 8 or 2. -/
def integer? (text : List Char) : Option Value :=
  match text with
  | '0' :: 'x' :: digits =>
    (digits? (fun c => (hexValue? c).isSome) digits).bind fun ds => inRange? (number 16 ds)
  | '0' :: 'o' :: digits =>
    (digits? (fun c => '0' ≤ c && c ≤ '7') digits).bind fun ds => inRange? (number 8 ds)
  | '0' :: 'b' :: digits =>
    (digits? (fun c => c == '0' || c == '1') digits).bind fun ds => inRange? (number 2 ds)
  | text =>
    let (negative, digits) := sign text
    (whole? digits).bind fun ds =>
      inRange? (if negative then -(number 10 ds : Int) else number 10 ds)

/-- A text cut in front of the first of some characters. -/
def cutAt (stops : Char → Bool) (text : List Char) : List Char × List Char :=
  (text.takeWhile (!stops ·), text.dropWhile (!stops ·))

/-- A number with a fraction or an exponent, or infinity, or no number. One above zero may not be
so large that it rounds to infinity. -/
def float? (text : List Char) : Option Value :=
  let (negative, unsigned) := sign text
  if unsigned = ['i', 'n', 'f'] then some (.float (.infinite negative))
  else if unsigned = ['n', 'a', 'n'] then some (.float .nan)
  else
    let (mantissa, tail) := cutAt (fun c => c == 'e' || c == 'E') unsigned
    let (front, fraction) := cutAt (· == '.') mantissa
    let exponent? : Option Int :=
      match tail with
      | [] => if fraction.isEmpty then none else some 0
      | _ :: power =>
        let (negative, digits) := sign power
        (digits? Char.isDigit digits).map fun ds =>
          if negative then -(number 10 ds : Int) else number 10 ds
    let fraction? : Option (List Char) :=
      match fraction with
      | [] => some []
      | _ :: digits => digits? Char.isDigit digits
    match whole? front, fraction?, exponent? with
    | some front, some fraction, some exponent =>
      let digits := (front ++ fraction).dropWhile (· == '0')
      let value :=
        Binary64.ofDecimal negative (number 10 digits) digits.length (exponent - fraction.length)
      if value = .infinite false then none else some (.float value)
    | _, _, _ => none

/-! ## Dates and times -/

/-- The value of two decimal digits at the start of a text, if it lies between bounds. -/
def twoDigits? (low high : Nat) : List Char → Found Nat
  | a :: b :: rest =>
    if a.isDigit && b.isDigit then
      let value := number 10 [a, b]
      if low ≤ value ∧ value ≤ high then some (value, rest) else none
    else none
  | _ => none

/-- The number of days of a month. -/
def daysOf (year month : Nat) : Nat :=
  if month = 2 then
    if year % 4 = 0 ∧ (year % 100 ≠ 0 ∨ year % 400 = 0) then 29 else 28
  else if month = 4 ∨ month = 6 ∨ month = 9 ∨ month = 11 then 30
  else 31

/-- What stands behind a date at the start of a text. -/
def afterDate? : List Char → Option (List Char)
  | a :: b :: c :: d :: '-' :: rest =>
    if [a, b, c, d].all Char.isDigit then
      match twoDigits? 1 12 rest with
      | some (month, '-' :: rest) =>
        (twoDigits? 1 (daysOf (number 10 [a, b, c, d]) month) rest).map (·.2)
      | _ => none
    else none
  | _ => none

/-- What stands behind a time at the start of a text. -/
def afterTime? (text : List Char) : Option (List Char) :=
  match twoDigits? 0 23 text with
  | some (_, ':' :: rest) =>
    match twoDigits? 0 59 rest with
    | some (_, ':' :: rest) =>
      match twoDigits? 0 60 rest with
      | some (_, '.' :: c :: rest) =>
        if c.isDigit then some (rest.dropWhile Char.isDigit) else none
      | some (_, rest) => some rest
      | none => none
    | _ => none
  | _ => none

/-- Whether a text is an offset from universal time. -/
def isOffset : List Char → Bool
  | ['Z'] | ['z'] => true
  | c :: rest =>
    (c == '+' || c == '-') &&
      match twoDigits? 0 23 rest with
      | some (_, ':' :: rest) =>
        match twoDigits? 0 59 rest with
        | some (_, []) => true
        | _ => false
      | _ => false
  | [] => false

/-- A date, a time, or a date and a time with or without an offset. -/
def datetime? (text : List Char) : Option Value :=
  let value := Value.datetime (String.ofList text)
  match afterDate? text with
  | some [] => some value
  | some (c :: time) =>
    if c == 'T' || c == 't' || c == ' ' then
      match afterTime? time with
      | some offset => if offset.isEmpty || isOffset offset then some value else none
      | none => none
    else none
  | none => if afterTime? text = some [] then some value else none

/-! ## Scalars -/

/-- Whether a character may belong to an unquoted scalar. -/
def isScalarChar (c : Char) : Bool :=
  c.isAlphanum || c == '_' || c == '+' || c == '-' || c == '.' || c == ':'

/-- The longest run of scalar characters at the start of a text; a date takes a space and a digit
behind it along. -/
def scalarRun (text : List Char) : List Char × List Char :=
  let run := text.takeWhile isScalarChar
  let rest := text.dropWhile isScalarChar
  match afterDate? run, rest with
  | some [], ' ' :: c :: more =>
    if c.isDigit then
      (run ++ ' ' :: (c :: more).takeWhile isScalarChar, (c :: more).dropWhile isScalarChar)
    else (run, rest)
  | _, _ => (run, rest)

/-- An unquoted scalar at the start of a text. -/
def scalar? (text : List Char) : Found Value :=
  let (run, rest) := scalarRun text
  let value? : Option Value :=
    if run = ['t', 'r', 'u', 'e'] then some (.boolean true)
    else if run = ['f', 'a', 'l', 's', 'e'] then some (.boolean false)
    else (datetime? run).or ((integer? run).or (float? run))
  value?.map (·, rest)

end ModuleSynthesis.Toml
