import ModuleSynthesis.Template.Piece

/-!
# Reading templates

A template is read symbol by symbol. A symbol is a character other than a brace, a brace written
twice, or a placeholder: `name` or a capture number between braces. The first place where no
symbol can be read is the error.

* `Symbol.scan`: the symbols of a text, or the first fault with its byte offset.
* `Symbol.assemble`: the parts of a template, neighbouring characters in one text.
* `Template.parse`: the template that a text denotes.
-/

namespace ModuleSynthesis

/-- Why a text is no template, or does not suit its glob. -/
inductive TemplateError where
  /-- The brace opened at this byte is never closed. -/
  | unterminated (text : String) (offset : Nat)
  /-- The brace at this byte closes nothing. -/
  | unmatchedClose (text : String) (offset : Nat)
  /-- What stands between braces is no placeholder. -/
  | unknownPlaceholder (text placeholder : String)
  /-- The glob has fewer captures than the template mentions. -/
  | captureOutOfRange (index available : Nat) (pattern : String)
deriving DecidableEq, Repr

/-- The wording of an error. -/
def TemplateError.message : TemplateError → String
  | .unterminated text offset =>
    "unterminated `\x7b` at byte " ++ toString offset ++ " in `" ++ text ++ "`"
  | .unmatchedClose text offset =>
    "unmatched `\x7d` at byte " ++ toString offset ++ " in `" ++ text ++ "`"
  | .unknownPlaceholder text placeholder =>
    "unknown placeholder `\x7b" ++ placeholder ++ "\x7d` in `" ++ text ++ "`"
  | .captureOutOfRange index available pattern =>
    "placeholder `\x7b" ++ toString index ++ "\x7d` exceeds the " ++ toString available ++
      " capture(s) of `" ++ pattern ++ "`"

/-- The smallest piece of template text that means something. -/
inductive Symbol where
  /-- A character that stands for itself. -/
  | char (c : Char)
  /-- The name of the generated module. -/
  | name
  /-- A capture, counted from 1. -/
  | capture (index : Nat)
deriving DecidableEq, Repr

namespace Symbol

/-! ## Placeholders -/

/-- The greatest number that a placeholder may hold. -/
def maxIndex : Nat := 18446744073709551615

/-- The value of decimal digits, or nothing when there are none or another character is there. -/
def decimal? (digits : List Char) : Option Nat :=
  if digits.isEmpty || !digits.all Char.isDigit then none
  else some (digits.foldl (fun value digit => 10 * value + (digit.toNat - '0'.toNat)) 0)

/-- The digits of a number without the plus sign that may stand before them. -/
def dropPlus : List Char → List Char
  | '+' :: digits => digits
  | digits => digits

/-- What the text between braces stands for. -/
def ofPlaceholder? (body : List Char) : Option Symbol :=
  if body = ['n', 'a', 'm', 'e'] then some .name
  else
    match decimal? (dropPlus body) with
    | some index => if 0 < index ∧ index ≤ maxIndex then some (.capture index) else none
    | none => none

/-- A text cut at its first closing brace. -/
def untilClose? : List Char → Option (List Char × List Char)
  | [] => none
  | c :: rest =>
    if c = '}' then some ([], rest)
    else
      match untilClose? rest with
      | some (body, after) => some (c :: body, after)
      | none => none

theorem length_lt_of_untilClose? {text body after : List Char}
    (h : untilClose? text = some (body, after)) : after.length < text.length := by
  induction text generalizing body after with
  | nil => simp [untilClose?] at h
  | cons c rest ih =>
    simp only [untilClose?] at h
    split at h
    · simp_all
    · split at h
      · next found =>
        have := ih found
        simp_all
        omega
      · simp at h

/-! ## Scanning -/

/-- Why no symbol can be read at some place. -/
inductive Fault where
  /-- The brace opened at this byte is never closed. -/
  | unterminated (offset : Nat)
  /-- The brace at this byte closes nothing. -/
  | unmatchedClose (offset : Nat)
  /-- What stands between braces is no placeholder. -/
  | unknownPlaceholder (body : List Char)
deriving DecidableEq, Repr

/-- The number of bytes of a text. -/
def bytes : List Char → Nat
  | [] => 0
  | c :: rest => c.utf8Size + bytes rest

/-- The symbols of a text that starts at a byte offset, or the first fault. -/
def scan (offset : Nat) : List Char → Except Fault (List Symbol)
  | [] => .ok []
  | '{' :: '{' :: rest => (scan (offset + 2) rest).map (.char '{' :: ·)
  | '}' :: '}' :: rest => (scan (offset + 2) rest).map (.char '}' :: ·)
  | '{' :: rest =>
    match _h : untilClose? rest with
    | none => .error (.unterminated offset)
    | some (body, after) =>
      match ofPlaceholder? body with
      | none => .error (.unknownPlaceholder body)
      | some symbol => (scan (offset + 2 + bytes body) after).map (symbol :: ·)
  | '}' :: _ => .error (.unmatchedClose offset)
  | c :: rest => (scan (offset + c.utf8Size) rest).map (.char c :: ·)
termination_by text => text.length
decreasing_by
  all_goals simp_wf
  all_goals try have shorter := length_lt_of_untilClose? _h
  all_goals omega

/-! ## Assembling -/

/-- Literal characters, last first, put as one text in front of the parts behind them. -/
def flush (pending : List Char) (pieces : List Piece) : List Piece :=
  if pending.isEmpty then pieces else .text (String.ofList pending.reverse) :: pieces

/-- The parts that symbols denote behind literal characters, last first. -/
def assemble (pending : List Char) : List Symbol → List Piece
  | [] => flush pending []
  | .char c :: symbols => assemble (c :: pending) symbols
  | .name :: symbols => flush pending (.name :: assemble [] symbols)
  | .capture index :: symbols => flush pending (.capture index :: assemble [] symbols)

end Symbol

/-- The error that a fault in a text is reported as. -/
def Symbol.Fault.toError (text : String) : Symbol.Fault → TemplateError
  | .unterminated offset => .unterminated text offset
  | .unmatchedClose offset => .unmatchedClose text offset
  | .unknownPlaceholder body => .unknownPlaceholder text (String.ofList body)

/-- The template that a text denotes. -/
def Template.parse (text : String) : Except TemplateError Template :=
  match Symbol.scan 0 text.toList with
  | .error fault => .error (fault.toError text)
  | .ok symbols => .ok ⟨Symbol.assemble [] symbols⟩

end ModuleSynthesis
