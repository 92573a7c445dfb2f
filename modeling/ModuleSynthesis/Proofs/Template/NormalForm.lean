import Mathlib.Data.List.Chain
import ModuleSynthesis.Proofs.Template.Grammar

/-!
# Templates in normal form

A template can be written in several ways, since a number may have a sign and zeros in front, but
all of them are read as one row of parts. Literal text is as long as it can be there: it is never
empty and never stands next to other literal text. Written the usual way, such a row is read back as
it is.

* `Piece.Normal`: the rows of parts in normal form.
* `Piece.assemble_symbols`: symbols of parts in normal form are put together to these parts.
* `Piece.normal_assemble`: whatever symbols are put together give parts in normal form.
* `Piece.exists_lexemes`: parts are made of lexemes when they are written.
* `Template.isNormal_iff`: templates in normal form are read back as they are, and no others are
  read.
-/

namespace ModuleSynthesis

namespace Piece

/-! ## Normal form -/

/-- A part that says something: text is not empty, and captures are counted from 1. -/
def IsProper : Piece → Prop
  | .text literal => literal ≠ ""
  | .name => True
  | .capture index => 0 < index ∧ index ≤ Symbol.maxIndex

/-- Whether a part is literal text. -/
def isText : Piece → Bool
  | .text _ => true
  | _ => false

/-- Parts that say something, with no two literal texts next to each other. -/
structure Normal (pieces : List Piece) : Prop where
  isProper : ∀ piece ∈ pieces, piece.IsProper
  separated : pieces.IsChain fun piece next => ¬ (piece.isText ∧ next.isText)

theorem normal_nil : Normal [] :=
  ⟨nofun, .nil⟩

theorem normal_cons {piece : Piece} {pieces : List Piece} :
    Normal (piece :: pieces) ↔ piece.IsProper ∧
      (piece.isText → ∀ next ∈ pieces.head?, ¬ next.isText) ∧ Normal pieces := by
  constructor
  · rintro ⟨hproper, hseparated⟩
    rw [List.isChain_cons] at hseparated
    rw [List.forall_mem_cons] at hproper
    exact ⟨hproper.1, fun htext next hnext hnext' => hseparated.1 next hnext ⟨htext, hnext'⟩,
      hproper.2, hseparated.2⟩
  · rintro ⟨hproper, htext, hpieces⟩
    exact ⟨List.forall_mem_cons.mpr ⟨hproper, hpieces.isProper⟩,
      List.isChain_cons.mpr ⟨fun next hnext h => htext h.1 next hnext h.2, hpieces.separated⟩⟩

/-! ## Parts and symbols -/

/-- What a part says, symbol by symbol. -/
def symbols : Piece → List Symbol
  | .text literal => literal.toList.map .char
  | .name => [.name]
  | .capture index => [.capture index]

theorem assemble_map_char (pending chars : List Char) (symbols : List Symbol) :
    Symbol.assemble pending (chars.map .char ++ symbols) =
      Symbol.assemble (chars.reverse ++ pending) symbols := by
  induction chars generalizing pending with
  | nil => rfl
  | cons c chars ih =>
    rw [List.map_cons, List.cons_append, Symbol.assemble, ih, List.reverse_cons, List.append_assoc]
    rfl

theorem flush_reverse_toList {literal : String} (h : literal ≠ "") (pieces : List Piece) :
    Symbol.flush literal.toList.reverse pieces = .text literal :: pieces := by
  have hne : literal.toList ≠ [] := by simpa using h
  rw [Symbol.flush, if_neg (by simpa using hne), List.reverse_reverse, String.ofList_toList]

/-- Parts in normal form are put together of their symbols, behind characters that are pending only
where no literal text comes first. -/
theorem assemble_symbols {pieces : List Piece} (h : Normal pieces) (pending : List Char)
    (hpending : pending ≠ [] → ∀ piece ∈ pieces.head?, ¬ piece.isText) :
    Symbol.assemble pending (pieces.flatMap symbols) = Symbol.flush pending pieces := by
  induction pieces generalizing pending with
  | nil => rfl
  | cons piece pieces ih =>
    obtain ⟨hproper, htext, hpieces⟩ := normal_cons.mp h
    have hrest : Symbol.assemble [] (pieces.flatMap symbols) = pieces := ih hpieces [] (absurd rfl)
    cases piece with
    | text literal =>
      -- literal text comes first, so nothing is pending, and no more of it comes next
      have hnone : pending = [] := by
        by_contra hne
        exact hpending hne _ rfl rfl
      rw [List.flatMap_cons, symbols, assemble_map_char, ih hpieces _ fun _ => htext rfl, hnone,
        List.append_nil, flush_reverse_toList hproper]
      rfl
    | name =>
      rw [List.flatMap_cons, symbols, List.singleton_append, Symbol.assemble, hrest]
    | capture index =>
      rw [List.flatMap_cons, symbols, List.singleton_append, Symbol.assemble, hrest]

theorem normal_flush {pieces : List Piece} (h : Normal pieces)
    (htext : ∀ piece ∈ pieces.head?, ¬ piece.isText) (pending : List Char) :
    Normal (Symbol.flush pending pieces) := by
  rw [Symbol.flush]
  split
  · exact h
  · next hpending =>
    refine normal_cons.mpr ⟨?_, fun _ => htext, h⟩
    rw [IsProper]
    simpa using hpending

/-- Symbols are put together to parts in normal form, if their captures are counted from 1. -/
theorem normal_assemble {symbols : List Symbol}
    (h : ∀ index, Symbol.capture index ∈ symbols → 0 < index ∧ index ≤ Symbol.maxIndex)
    (pending : List Char) : Normal (Symbol.assemble pending symbols) := by
  induction symbols generalizing pending with
  | nil => exact normal_flush normal_nil nofun pending
  | cons symbol symbols ih =>
    have hrest := ih fun index hmem => h index (List.mem_cons_of_mem _ hmem)
    cases symbol with
    | char c => exact hrest _
    | name =>
      have hname : Normal (.name :: Symbol.assemble [] symbols) :=
        normal_cons.mpr ⟨trivial, nofun, hrest []⟩
      refine normal_flush hname ?_ pending
      rintro _ ⟨⟩
      exact Bool.false_ne_true
    | capture index =>
      have hcapture : Normal (.capture index :: Symbol.assemble [] symbols) :=
        normal_cons.mpr ⟨h index List.mem_cons_self, nofun, hrest []⟩
      refine normal_flush hcapture ?_ pending
      rintro _ ⟨⟩
      exact Bool.false_ne_true

end Piece

/-! ## Written parts -/

/-- The lexeme for a literal character. -/
def Lexeme.ofChar (c : Char) : Lexeme :=
  if hopening : c = '{' then .opening
  else if hclosing : c = '}' then .closing
  else .plain c ⟨hopening, hclosing⟩

theorem Lexeme.chars_ofChar (c : Char) : (ofChar c).chars = Piece.sourceOfChar c := by
  rw [ofChar, Piece.sourceOfChar]
  split
  · next h => rw [h]; rfl
  · split
    · next h => rw [h]; rfl
    · next hopening hclosing => rw [if_neg (not_or.mpr ⟨hopening, hclosing⟩)]; rfl

theorem Lexeme.symbol_ofChar (c : Char) : (ofChar c).symbol = .char c := by
  rw [ofChar]
  split
  · next h => rw [h]; rfl
  · split
    · next h => rw [h]; rfl
    · rfl

/-- The decimal digits of a number are a way to write it. -/
theorem Numeral.exists_toDigits {index : Nat} (hpos : 0 < index) (hle : index ≤ Symbol.maxIndex) :
    ∃ numeral : Numeral, numeral.chars = Nat.toDigits 10 index ∧ numeral.value = index := by
  have hall : (Nat.toDigits 10 index).all Char.isDigit := by
    rw [List.all_eq_true]
    exact fun c hc => Nat.isDigit_of_mem_toDigits (by decide) (by decide) hc
  obtain ⟨digits, hdigits⟩ := all_isDigit_iff.mp hall
  have hvalue : valueOfDigits digits = index := by
    rw [← foldl_map_digitChar, hdigits, ← Nat.ofDigitChars_eq_foldl, Nat.ofDigitChars_ten_toDigits]
  exact ⟨⟨false, digits, hvalue ▸ hpos, hvalue ▸ hle⟩, hdigits, hvalue⟩

namespace Piece

theorem exists_lexemes_of_isProper {piece : Piece} (h : piece.IsProper) :
    ∃ lexemes : List Lexeme, lexemes.flatMap Lexeme.chars = piece.source ∧
      lexemes.map Lexeme.symbol = piece.symbols := by
  cases piece with
  | text literal =>
    refine ⟨literal.toList.map Lexeme.ofChar, ?_, ?_⟩
    · rw [List.flatMap_map, source]
      exact congrArg (literal.toList.flatMap ·) (funext Lexeme.chars_ofChar)
    · rw [List.map_map, symbols]
      exact congrArg (literal.toList.map ·) (funext Lexeme.symbol_ofChar)
  | name => exact ⟨[.braced .name], rfl, rfl⟩
  | capture index =>
    obtain ⟨numeral, hchars, hvalue⟩ := Numeral.exists_toDigits h.1 h.2
    refine ⟨[.braced (.capture numeral)], ?_, ?_⟩
    · rw [List.flatMap_singleton, Lexeme.chars, Placeholder.chars, hchars, source]
    · rw [List.map_singleton, Lexeme.symbol, Placeholder.symbol, hvalue, symbols]

/-- Parts that say something are made of lexemes when they are written. -/
theorem exists_lexemes {pieces : List Piece} (h : ∀ piece ∈ pieces, piece.IsProper) :
    ∃ lexemes : List Lexeme, lexemes.flatMap Lexeme.chars = pieces.flatMap source ∧
      lexemes.map Lexeme.symbol = pieces.flatMap symbols := by
  induction pieces with
  | nil => exact ⟨[], rfl, rfl⟩
  | cons piece pieces ih =>
    rw [List.forall_mem_cons] at h
    obtain ⟨first, hfirst, hfirst'⟩ := exists_lexemes_of_isProper h.1
    obtain ⟨rest, hrest, hrest'⟩ := ih h.2
    refine ⟨first ++ rest, ?_, ?_⟩
    · rw [List.flatMap_append, hfirst, hrest, List.flatMap_cons]
    · rw [List.map_append, hfirst', hrest', List.flatMap_cons]

end Piece

/-! ## Reading and writing -/

namespace Lexeme

/-- Captures are counted from 1. -/
theorem range_of_capture_mem {lexemes : List Lexeme} {index : Nat}
    (h : Symbol.capture index ∈ lexemes.map symbol) : 0 < index ∧ index ≤ Symbol.maxIndex := by
  obtain ⟨lexeme, -, hsymbol⟩ := List.mem_map.mp h
  cases lexeme with
  | plain | opening | closing => cases hsymbol
  | braced body =>
    cases body with
    | name => cases hsymbol
    | capture numeral =>
      cases hsymbol
      exact ⟨numeral.value_pos, numeral.value_le⟩

end Lexeme

namespace Template

/-- Its parts are in normal form. -/
def IsNormal (template : Template) : Prop :=
  Piece.Normal template.pieces

theorem parse_source_of_isNormal {template : Template} (h : template.IsNormal) :
    parse template.source = .ok template := by
  obtain ⟨lexemes, hchars, hsymbols⟩ := Piece.exists_lexemes h.isProper
  have hsource : template.source = Lexeme.textOf lexemes := by
    rw [source, Lexeme.textOf, hchars]
  rw [hsource, parse_textOf, hsymbols, Piece.assemble_symbols h [] (absurd rfl)]
  rfl

theorem isNormal_of_parse {text : String} {template : Template}
    (h : parse text = .ok template) : template.IsNormal := by
  obtain ⟨lexemes, rfl⟩ := exists_textOf_of_parse h
  rw [parse_textOf] at h
  cases h
  exact Piece.normal_assemble (fun _ => Lexeme.range_of_capture_mem) []

/-- A template is in normal form exactly if it is read back from the way it is written, and exactly
if it is read from any text. -/
theorem isNormal_iff (template : Template) :
    (template.IsNormal ↔ parse template.source = .ok template) ∧
      (template.IsNormal ↔ ∃ text, parse text = .ok template) := by
  refine ⟨⟨parse_source_of_isNormal, isNormal_of_parse⟩, fun h => ?_, ?_⟩
  · exact ⟨_, parse_source_of_isNormal h⟩
  · rintro ⟨text, h⟩
    exact isNormal_of_parse h

example : source ⟨[.text "\x7b", .capture 1, .text "\x7d"]⟩ =
    "\x7b\x7b\x7b1\x7d\x7d\x7d" := by decide

end Template

end ModuleSynthesis
