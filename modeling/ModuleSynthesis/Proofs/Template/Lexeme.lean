import Mathlib.Data.List.Basic
import Mathlib.Data.List.Induction
import Mathlib.Data.Nat.Digits.Defs
import ModuleSynthesis.Template.Symbol

/-!
# Lexemes of a template

The grammar of template text. A text is a row of lexemes: characters other than braces, doubled
braces, and placeholders, which are the word `name` or a number between braces. A number may be
written with a plus sign and with zeros in front, so one symbol can be written in several ways; but
no lexeme starts another one, so a text can be cut into lexemes in one way only.

* `Lexeme`, `Lexeme.textOf`: the lexemes, and the text of a row of them.
* `Lexeme.textOf_injective`: a text is cut into lexemes in at most one way.
* `Lexeme.scan_append`: scanning takes a lexeme off the front of a text.
* `Lexeme.scan_eq_ok_iff`: the texts that can be scanned are those made of lexemes.
-/

namespace ModuleSynthesis

/-! ## The grammar -/

/-- A decimal digit as it is written. -/
def digitChar (digit : Fin 10) : Char :=
  Nat.digitChar digit

/-- The number that digits denote, the most significant first. -/
def valueOfDigits (digits : List (Fin 10)) : Nat :=
  Nat.ofDigits 10 (digits.reverse.map Fin.val)

/-- The number of a capture as it may be written. It has a digit, since its value is positive. -/
@[ext]
structure Numeral where
  /-- Whether a plus sign stands in front. -/
  plus : Bool
  /-- The digits, the most significant first. -/
  digits : List (Fin 10)
  /-- Captures are counted from 1. -/
  value_pos : 0 < valueOfDigits digits
  /-- The value is not too great. -/
  value_le : valueOfDigits digits ≤ Symbol.maxIndex

namespace Numeral

/-- The value of a number. -/
def value (numeral : Numeral) : Nat :=
  valueOfDigits numeral.digits

/-- A number as it is written. -/
def chars (numeral : Numeral) : List Char :=
  (if numeral.plus then ['+'] else []) ++ numeral.digits.map digitChar

end Numeral

/-- What may stand between braces. -/
inductive Placeholder where
  /-- The name of the generated module. -/
  | name
  /-- A capture. -/
  | capture (numeral : Numeral)

namespace Placeholder

/-- A placeholder as it is written. -/
def chars : Placeholder → List Char
  | .name => ['n', 'a', 'm', 'e']
  | .capture numeral => numeral.chars

/-- What a placeholder means. -/
def symbol : Placeholder → Symbol
  | .name => .name
  | .capture numeral => .capture numeral.value

end Placeholder

/-- A part of template text that is not divided further. -/
inductive Lexeme where
  /-- A character that stands for itself. -/
  | plain (c : Char) (h : c ≠ '{' ∧ c ≠ '}')
  /-- An opening brace, written twice. -/
  | opening
  /-- A closing brace, written twice. -/
  | closing
  /-- A placeholder between braces. -/
  | braced (body : Placeholder)

namespace Lexeme

/-- A lexeme as it is written. -/
def chars : Lexeme → List Char
  | .plain c _ => [c]
  | .opening => ['{', '{']
  | .closing => ['}', '}']
  | .braced body => '{' :: (body.chars ++ ['}'])

/-- What a lexeme means. -/
def symbol : Lexeme → Symbol
  | .plain c _ => .char c
  | .opening => .char '{'
  | .closing => .char '}'
  | .braced body => body.symbol

/-- The text of a row of lexemes. -/
def textOf (lexemes : List Lexeme) : String :=
  String.ofList (lexemes.flatMap chars)

end Lexeme

/-! ## Digits -/

theorem toNat_digitChar (digit : Fin 10) : (digitChar digit).toNat = '0'.toNat + digit := by
  revert digit; decide

theorem digitChar_injective : Function.Injective digitChar := by
  intro a b h
  have := congrArg Char.toNat h
  rw [toNat_digitChar, toNat_digitChar] at this
  omega

theorem isDigit_iff {c : Char} : c.isDigit ↔ ∃ digit, digitChar digit = c := by
  constructor
  · intro h
    rw [Char.isDigit, Bool.and_eq_true, decide_eq_true_eq, decide_eq_true_eq, ge_iff_le,
      UInt32.le_iff_toNat_le, UInt32.le_iff_toNat_le] at h
    have hlow : 48 ≤ c.toNat := h.1
    have hhigh : c.toNat ≤ 57 := h.2
    have hzero : '0'.toNat = 48 := rfl
    refine ⟨⟨c.toNat - 48, by omega⟩, ?_⟩
    rw [← Char.toNat_inj, toNat_digitChar, hzero]
    dsimp only
    omega
  · rintro ⟨digit, rfl⟩
    revert digit; decide

theorem all_isDigit_iff {text : List Char} :
    text.all Char.isDigit ↔ ∃ digits : List (Fin 10), digits.map digitChar = text := by
  constructor
  · intro h
    rw [List.all_eq_true] at h
    induction text with
    | nil => exact ⟨[], rfl⟩
    | cons c rest ih =>
      obtain ⟨digit, rfl⟩ := isDigit_iff.mp (h c List.mem_cons_self)
      obtain ⟨digits, rfl⟩ := ih fun d hd => h d (List.mem_cons_of_mem _ hd)
      exact ⟨digit :: digits, rfl⟩
  · rintro ⟨digits, rfl⟩
    rw [List.all_map, List.all_eq_true]
    exact fun digit _ => isDigit_iff.mpr ⟨digit, rfl⟩

theorem valueOfDigits_concat (digits : List (Fin 10)) (digit : Fin 10) :
    valueOfDigits (digits ++ [digit]) = 10 * valueOfDigits digits + digit := by
  rw [valueOfDigits, valueOfDigits, List.reverse_concat, List.map_cons, Nat.ofDigits_cons]
  omega

/-- Reading digits from the left, each new one shifts what was read by a place. -/
theorem foldl_map_digitChar (digits : List (Fin 10)) :
    (digits.map digitChar).foldl (fun value digit => 10 * value + (digit.toNat - '0'.toNat)) 0 =
      valueOfDigits digits := by
  induction digits using List.reverseRecOn with
  | nil => rfl
  | append_singleton digits digit ih =>
    rw [valueOfDigits_concat, List.map_append, List.foldl_append, ih]
    simp [toNat_digitChar]

theorem decimal?_eq_some_iff {text : List Char} {value : Nat} :
    Symbol.decimal? text = some value ↔
      ∃ digits : List (Fin 10), digits ≠ [] ∧ digits.map digitChar = text ∧
        valueOfDigits digits = value := by
  rw [Symbol.decimal?]
  constructor
  · intro h
    split at h
    · cases h
    · next hcond =>
      rw [Bool.or_eq_true, not_or, Bool.not_eq_true', Bool.not_eq_false, all_isDigit_iff] at hcond
      obtain ⟨hne, digits, rfl⟩ := hcond
      rw [foldl_map_digitChar] at h
      exact ⟨digits, by simpa using hne, rfl, Option.some.inj h⟩
  · rintro ⟨digits, hne, rfl, rfl⟩
    have hall : (digits.map digitChar).all Char.isDigit := all_isDigit_iff.mpr ⟨digits, rfl⟩
    rw [hall, foldl_map_digitChar]
    simp [hne]

/-! ## Placeholders -/

/-- No digit is a plus sign. -/
theorem map_digitChar_ne_plus (digits : List (Fin 10)) (rest : List Char) :
    digits.map digitChar ≠ '+' :: rest := by
  intro h
  have hmem : '+' ∈ digits.map digitChar := by rw [h]; exact List.mem_cons_self
  obtain ⟨digit, -, hdigit⟩ := List.mem_map.mp hmem
  exact absurd (isDigit_iff.mpr ⟨digit, hdigit⟩) (by decide)

theorem exists_plus_append_dropPlus (body : List Char) :
    ∃ plus : Bool, (if plus then ['+'] else []) ++ Symbol.dropPlus body = body := by
  fun_cases Symbol.dropPlus body with
  | case1 digits => exact ⟨true, rfl⟩
  | case2 => exact ⟨false, rfl⟩

theorem dropPlus_of_ne {text : List Char} (h : ∀ rest, text ≠ '+' :: rest) :
    Symbol.dropPlus text = text := by
  fun_cases Symbol.dropPlus text with
  | case1 rest => exact absurd rfl (h rest)
  | case2 => rfl

namespace Numeral

theorem dropPlus_chars (numeral : Numeral) :
    Symbol.dropPlus numeral.chars = numeral.digits.map digitChar := by
  rw [chars]
  cases numeral.plus with
  | true => rfl
  | false => exact dropPlus_of_ne (map_digitChar_ne_plus numeral.digits)

theorem head?_chars_eq_plus_iff (numeral : Numeral) :
    numeral.chars.head? = some '+' ↔ numeral.plus := by
  rw [chars]
  cases numeral.plus with
  | true => simp
  | false =>
    have hdigits := map_digitChar_ne_plus numeral.digits
    cases hd : numeral.digits.map digitChar with
    | nil => simp
    | cons c rest =>
      rw [hd] at hdigits
      simpa using fun hc : c = '+' => hdigits rest (by rw [hc])

theorem chars_injective : Function.Injective chars := by
  intro first second h
  have hdigits : first.digits.map digitChar = second.digits.map digitChar := by
    rw [← dropPlus_chars, ← dropPlus_chars, h]
  have hplus : first.plus ↔ second.plus := by
    rw [← head?_chars_eq_plus_iff, ← head?_chars_eq_plus_iff, h]
  exact Numeral.ext (Bool.eq_iff_iff.mpr hplus)
    (List.map_injective_iff.mpr digitChar_injective hdigits)

theorem digits_ne_nil (numeral : Numeral) : numeral.digits ≠ [] := by
  intro h
  have := numeral.value_pos
  rw [h] at this
  exact absurd this (by decide)

/-- A number has signs and digits alone. -/
theorem eq_plus_or_isDigit_of_mem_chars {numeral : Numeral} {c : Char} (h : c ∈ numeral.chars) :
    c = '+' ∨ c.isDigit := by
  rw [chars, List.mem_append] at h
  rcases h with h | h
  · split at h
    · exact .inl (List.mem_singleton.mp h)
    · cases h
  · obtain ⟨digit, -, hdigit⟩ := List.mem_map.mp h
    exact .inr (isDigit_iff.mpr ⟨digit, hdigit⟩)

end Numeral

namespace Placeholder

/-- No brace stands in a placeholder. -/
theorem brace_not_mem_chars (body : Placeholder) : '{' ∉ body.chars ∧ '}' ∉ body.chars := by
  cases body with
  | name => decide
  | capture numeral =>
    constructor <;>
    · intro h
      rcases Numeral.eq_plus_or_isDigit_of_mem_chars h with h | h
      · exact absurd h (by decide)
      · exact absurd h (by decide)

theorem name_chars_ne (numeral : Numeral) : Placeholder.name.chars ≠ numeral.chars := by
  intro h
  have hmem : 'n' ∈ numeral.chars := h ▸ List.mem_cons_self
  rcases Numeral.eq_plus_or_isDigit_of_mem_chars hmem with h | h
  · exact absurd h (by decide)
  · exact absurd h (by decide)

theorem chars_injective : Function.Injective chars := by
  intro first second h
  cases first with
  | name =>
    cases second with
    | name => rfl
    | capture numeral => exact absurd h (name_chars_ne numeral)
  | capture numeral =>
    cases second with
    | name => exact absurd h.symm (name_chars_ne numeral)
    | capture other => rw [Numeral.chars_injective h]

/-- What stands between braces means something exactly if it is a placeholder. -/
theorem ofPlaceholder?_eq_some_iff {body : List Char} {symbol : Symbol} :
    Symbol.ofPlaceholder? body = some symbol ↔
      ∃ placeholder : Placeholder, placeholder.chars = body ∧ placeholder.symbol = symbol := by
  rw [Symbol.ofPlaceholder?]
  constructor
  · intro h
    split at h
    · next hname => cases h; exact ⟨.name, hname.symm, rfl⟩
    · split at h
      · next index hindex =>
        split at h
        · next hrange =>
          cases h
          obtain ⟨digits, -, hdigits, rfl⟩ := decimal?_eq_some_iff.mp hindex
          obtain ⟨plus, hplus⟩ := exists_plus_append_dropPlus body
          refine ⟨.capture ⟨plus, digits, hrange.1, hrange.2⟩, ?_, rfl⟩
          rw [chars, Numeral.chars, hdigits, hplus]
        · cases h
      · cases h
  · rintro ⟨placeholder, rfl, rfl⟩
    cases placeholder with
    | name => rfl
    | capture numeral =>
      have hdecimal : Symbol.decimal? (Symbol.dropPlus numeral.chars) = some numeral.value := by
        rw [numeral.dropPlus_chars]
        exact decimal?_eq_some_iff.mpr ⟨_, numeral.digits_ne_nil, rfl, rfl⟩
      have hname : numeral.chars ≠ ['n', 'a', 'm', 'e'] := (name_chars_ne numeral).symm
      rw [chars, if_neg hname, hdecimal]
      exact if_pos ⟨numeral.value_pos, numeral.value_le⟩

end Placeholder

/-! ## Cutting a text into lexemes -/

theorem untilClose?_append {body : List Char} (h : '}' ∉ body) (after : List Char) :
    Symbol.untilClose? (body ++ '}' :: after) = some (body, after) := by
  induction body with
  | nil => rfl
  | cons c body ih =>
    rw [List.mem_cons, not_or] at h
    rw [List.cons_append, Symbol.untilClose?, if_neg (Ne.symm h.1), ih h.2]

theorem append_eq_of_untilClose? {text body after : List Char}
    (h : Symbol.untilClose? text = some (body, after)) : body ++ '}' :: after = text := by
  fun_induction Symbol.untilClose? text generalizing body after with
  | case1 => cases h
  | case2 => cases h; rfl
  | case3 c rest _ inner found hfound ih => cases h; rw [List.cons_append, ih hfound]
  | case4 => cases h

namespace Lexeme

theorem braced_append (body : Placeholder) (rest : List Char) :
    (braced body).chars ++ rest = '{' :: (body.chars ++ '}' :: rest) := by
  simp [chars]

/-- Where no brace stands in front of the closing one, a text is cut there in one way. -/
theorem body_append_inj {first second : Placeholder} {rest other : List Char}
    (h : first.chars ++ '}' :: rest = second.chars ++ '}' :: other) :
    first = second ∧ rest = other := by
  have hcut := untilClose?_append first.brace_not_mem_chars.2 rest
  rw [h, untilClose?_append second.brace_not_mem_chars.2, Option.some_inj, Prod.mk.injEq] at hcut
  exact ⟨(Placeholder.chars_injective hcut.1).symm, hcut.2.symm⟩

/-- A placeholder does not begin with a brace. -/
theorem body_append_ne_opening (body : Placeholder) (after rest : List Char) :
    body.chars ++ '}' :: after ≠ '{' :: rest := by
  intro h
  cases hbody : body.chars with
  | nil => rw [hbody] at h; exact absurd (List.cons.inj h).1 (by decide)
  | cons c chars =>
    rw [hbody] at h
    have hmem := body.brace_not_mem_chars.1
    rw [hbody, (List.cons.inj h).1] at hmem
    exact hmem List.mem_cons_self

/-- No lexeme starts another one. -/
theorem chars_append_inj {first second : Lexeme} {rest other : List Char}
    (h : first.chars ++ rest = second.chars ++ other) : first = second ∧ rest = other := by
  cases first with
  | plain c hc =>
    cases second with
    | plain => cases h; exact ⟨rfl, rfl⟩
    | opening | braced => exact absurd (List.cons.inj h).1 hc.1
    | closing => exact absurd (List.cons.inj h).1 hc.2
  | opening =>
    cases second with
    | plain c hc => exact absurd (List.cons.inj h).1.symm hc.1
    | opening => cases h; exact ⟨rfl, rfl⟩
    | closing => cases h
    | braced body =>
      rw [braced_append] at h
      exact absurd (List.cons.inj h).2.symm (body_append_ne_opening body other rest)
  | closing =>
    cases second with
    | plain c hc => exact absurd (List.cons.inj h).1.symm hc.2
    | opening | braced => exact absurd (List.cons.inj h).1 (by decide)
    | closing => cases h; exact ⟨rfl, rfl⟩
  | braced body =>
    rw [braced_append] at h
    cases second with
    | plain c hc => exact absurd (List.cons.inj h).1.symm hc.1
    | opening => exact absurd (List.cons.inj h).2 (body_append_ne_opening body rest other)
    | closing => exact absurd (List.cons.inj h).1 (by decide)
    | braced body' =>
      rw [braced_append] at h
      obtain ⟨rfl, hrest⟩ := body_append_inj (List.cons.inj h).2
      exact ⟨rfl, hrest⟩

theorem chars_ne_nil (lexeme : Lexeme) : lexeme.chars ≠ [] := by
  cases lexeme <;> exact List.cons_ne_nil _ _

theorem eq_of_flatMap_chars_eq {first second : List Lexeme}
    (h : first.flatMap chars = second.flatMap chars) : first = second := by
  induction first generalizing second with
  | nil =>
    cases second with
    | nil => rfl
    | cons lexeme second =>
      rw [List.flatMap_cons] at h
      exact absurd (List.append_eq_nil_iff.mp h.symm).1 lexeme.chars_ne_nil
  | cons lexeme first ih =>
    cases second with
    | nil =>
      rw [List.flatMap_cons] at h
      exact absurd (List.append_eq_nil_iff.mp h).1 lexeme.chars_ne_nil
    | cons other second =>
      rw [List.flatMap_cons, List.flatMap_cons] at h
      obtain ⟨rfl, hrest⟩ := chars_append_inj h
      rw [ih hrest]

/-- A text is cut into lexemes in at most one way. -/
theorem textOf_injective : Function.Injective textOf := fun _ _ h =>
  eq_of_flatMap_chars_eq (String.ofList_inj.mp h)

/-! ## Scanning -/

theorem bytes_append (front back : List Char) :
    Symbol.bytes (front ++ back) = Symbol.bytes front + Symbol.bytes back := by
  induction front with
  | nil => simp [Symbol.bytes]
  | cons c front ih => simp only [List.cons_append, Symbol.bytes, ih]; omega

/-- The braces around a placeholder take a byte each. -/
theorem bytes_braced (body : Placeholder) :
    Symbol.bytes (braced body).chars = 2 + Symbol.bytes body.chars := by
  have hbrace : '{'.utf8Size = 1 ∧ '}'.utf8Size = 1 := by decide
  simp only [chars, Symbol.bytes, bytes_append, hbrace]
  omega

/-- Scanning takes a lexeme off the front of a text. -/
theorem scan_append (lexeme : Lexeme) (offset : Nat) (rest : List Char) :
    Symbol.scan offset (lexeme.chars ++ rest) =
      (Symbol.scan (offset + Symbol.bytes lexeme.chars) rest).map (lexeme.symbol :: ·) := by
  cases lexeme with
  | plain c h =>
    rw [chars, List.singleton_append, Symbol.scan]
    · rfl
    · exact fun _ hc _ => h.1 hc
    · exact fun _ hc _ => h.2 hc
    · exact h.1
    · exact h.2
  | opening =>
    rw [chars, List.cons_append, List.cons_append, Symbol.scan]
    rfl
  | closing =>
    rw [chars, List.cons_append, List.cons_append, Symbol.scan]
    rfl
  | braced body =>
    have hcut := untilClose?_append body.brace_not_mem_chars.2 rest
    have hmeaning := Placeholder.ofPlaceholder?_eq_some_iff.mpr ⟨body, rfl, rfl⟩
    rw [bytes_braced, braced_append, Symbol.scan]
    · split
      · next hnone => rw [hcut] at hnone; cases hnone
      · next found after hfound =>
        rw [hcut] at hfound
        cases hfound
        rw [hmeaning, Nat.add_assoc]
        rfl
    · exact fun more => body_append_ne_opening body rest more

/-- What has been scanned behind a lexeme is put behind it. -/
theorem exists_cons_of_map_eq_ok {scanned : Except Symbol.Fault (List Symbol)} {rest : List Char}
    {symbols : List Symbol} (lexeme : Lexeme)
    (h : scanned.map (lexeme.symbol :: ·) = .ok symbols)
    (hrest : ∀ {symbols}, scanned = .ok symbols →
      ∃ lexemes : List Lexeme, lexemes.flatMap chars = rest ∧ lexemes.map symbol = symbols) :
    ∃ lexemes : List Lexeme,
      lexemes.flatMap chars = lexeme.chars ++ rest ∧ lexemes.map symbol = symbols := by
  cases scanned with
  | error => cases h
  | ok found =>
    cases h
    obtain ⟨lexemes, rfl, rfl⟩ := hrest rfl
    exact ⟨lexeme :: lexemes, List.flatMap_cons, rfl⟩

/-- The texts that can be scanned are those made of lexemes, and their symbols are what the
lexemes mean. -/
theorem scan_eq_ok_iff {offset : Nat} {text : List Char} {symbols : List Symbol} :
    Symbol.scan offset text = .ok symbols ↔
      ∃ lexemes : List Lexeme, lexemes.flatMap chars = text ∧ lexemes.map symbol = symbols := by
  constructor
  · intro h
    fun_induction Symbol.scan offset text generalizing symbols with
    | case1 => cases h; exact ⟨[], rfl, rfl⟩
    | case2 _ _ ih => exact exists_cons_of_map_eq_ok .opening h ih
    | case3 _ _ ih => exact exists_cons_of_map_eq_ok .closing h ih
    | case4 | case5 | case7 => cases h
    | case6 _ rest _ body after hcut _ hmeaning ih =>
      obtain ⟨placeholder, rfl, rfl⟩ := Placeholder.ofPlaceholder?_eq_some_iff.mp hmeaning
      rw [← append_eq_of_untilClose? hcut, ← braced_append]
      exact exists_cons_of_map_eq_ok (.braced placeholder) h ih
    | case8 _ c _ _ _ hopening hclosing ih =>
      exact exists_cons_of_map_eq_ok (.plain c ⟨hopening, hclosing⟩) h ih
  · rintro ⟨lexemes, rfl, rfl⟩
    induction lexemes generalizing offset with
    | nil => rw [List.flatMap_nil, Symbol.scan]; rfl
    | cons lexeme lexemes ih => rw [List.flatMap_cons, scan_append, ih]; rfl

end Lexeme

end ModuleSynthesis
