import ModuleSynthesis.Proofs.Template.Lexeme

/-!
# Templates and their grammar

A text is a template exactly if it is made of lexemes, and the template says what the lexemes say,
one after the other. How neighbouring characters are put together in one part does not matter.

* `Lexeme.value`: what a lexeme stands for, given a name and captures.
* `Template.render_assemble`: a template that is put together of symbols says what they say.
* `Template.parse_textOf`: the template of a row of lexemes.
* `Template.parse_grammar`: which texts are templates, and what these say.
-/

namespace ModuleSynthesis

namespace Lexeme

/-- What a lexeme stands for, given a name and captures; nothing where there is no such capture. -/
def value (name : String) (captures : List String) : Lexeme → String
  | .plain c _ => String.singleton c
  | .opening => String.singleton '{'
  | .closing => String.singleton '}'
  | .braced .name => name
  | .braced (.capture numeral) => captures.getD (numeral.value - 1) ""

/-- The capture that a lexeme asks for. -/
def index? : Lexeme → Option Nat
  | .braced (.capture numeral) => some numeral.value
  | _ => none

theorem textOf_append (front back : List Lexeme) :
    textOf (front ++ back) = textOf front ++ textOf back := by
  rw [textOf, List.flatMap_append, String.ofList_append, textOf, textOf]

end Lexeme

/-! ## Symbols put together -/

namespace Symbol

/-- What a symbol stands for, given a name and captures. -/
def render (name : String) (captures : List String) : Symbol → String
  | .char c => String.singleton c
  | .name => name
  | .capture index => (captureAt? captures index).getD ""

/-- The capture that a symbol asks for. -/
def index? : Symbol → Option Nat
  | .capture index => some index
  | _ => none

end Symbol

theorem Lexeme.render_symbol (name : String) (captures : List String) (lexeme : Lexeme) :
    lexeme.symbol.render name captures = lexeme.value name captures := by
  cases lexeme with
  | plain | opening | closing => rfl
  | braced body =>
    cases body with
    | name => rfl
    | capture numeral =>
      -- Captures are counted from 1, and a number is positive.
      obtain ⟨index, hvalue⟩ : ∃ index, numeral.value = index + 1 :=
        Nat.exists_eq_add_one.mpr numeral.value_pos
      rw [symbol, Placeholder.symbol, Symbol.render, value, hvalue, captureAt?,
        List.getD_eq_getElem?_getD, Nat.add_sub_cancel]

theorem Lexeme.index?_symbol (lexeme : Lexeme) : lexeme.symbol.index? = lexeme.index? := by
  cases lexeme with
  | plain | opening | closing => rfl
  | braced body => cases body <;> rfl

namespace Template

variable (name : String) (captures : List String)

theorem render_cons (piece : Piece) (pieces : List Piece) :
    render ⟨piece :: pieces⟩ name captures =
      piece.render name captures ++ render ⟨pieces⟩ name captures :=
  String.join_cons

theorem render_flush (pending : List Char) (pieces : List Piece) :
    render ⟨Symbol.flush pending pieces⟩ name captures =
      String.ofList pending.reverse ++ render ⟨pieces⟩ name captures := by
  rw [Symbol.flush]
  split
  · next hempty => rw [List.isEmpty_iff.mp hempty]; simp
  · rw [render_cons, Piece.render]

/-- A template that is put together of symbols says what they say, behind the characters that were
pending. -/
theorem render_assemble (pending : List Char) (symbols : List Symbol) :
    render ⟨Symbol.assemble pending symbols⟩ name captures =
      String.ofList pending.reverse ++ String.join (symbols.map (·.render name captures)) := by
  induction symbols generalizing pending with
  | nil => rw [Symbol.assemble, render_flush]; rfl
  | cons symbol symbols ih =>
    rw [List.map_cons, String.join_cons]
    cases symbol with
    | char c =>
      rw [Symbol.assemble, ih, Symbol.render, List.reverse_cons, String.ofList_append,
        String.append_assoc, String.singleton_eq_ofList]
    | name =>
      rw [Symbol.assemble, render_flush, render_cons, ih]
      simp [Symbol.render, Piece.render]
    | capture index =>
      rw [Symbol.assemble, render_flush, render_cons, ih]
      simp [Symbol.render, Piece.render]

theorem captures_flush (pending : List Char) (pieces : List Piece) :
    (Symbol.flush pending pieces).flatMap Piece.captures = pieces.flatMap Piece.captures := by
  rw [Symbol.flush]
  split <;> rfl

theorem captures_assemble (pending : List Char) (symbols : List Symbol) :
    (Symbol.assemble pending symbols).flatMap Piece.captures =
      symbols.filterMap Symbol.index? := by
  induction symbols generalizing pending with
  | nil => rw [Symbol.assemble, captures_flush]; rfl
  | cons symbol symbols ih =>
    cases symbol with
    | char c => rw [Symbol.assemble, ih]; rfl
    | name => rw [Symbol.assemble, captures_flush, List.flatMap_cons, ih]; rfl
    | capture index => rw [Symbol.assemble, captures_flush, List.flatMap_cons, ih]; rfl

/-! ## Parsing -/

/-- The template of a row of lexemes. -/
theorem parse_textOf (lexemes : List Lexeme) :
    parse (Lexeme.textOf lexemes) = .ok ⟨Symbol.assemble [] (lexemes.map Lexeme.symbol)⟩ := by
  have hscan : Symbol.scan 0 (Lexeme.textOf lexemes).toList = .ok (lexemes.map Lexeme.symbol) :=
    Lexeme.scan_eq_ok_iff.mpr ⟨lexemes, (String.toList_ofList ..).symm, rfl⟩
  rw [parse, hscan]

theorem exists_textOf_of_parse {text : String} {template : Template}
    (h : parse text = .ok template) : ∃ lexemes, Lexeme.textOf lexemes = text := by
  rw [parse] at h
  split at h
  · cases h
  · next symbols hscan =>
    obtain ⟨lexemes, htext, -⟩ := Lexeme.scan_eq_ok_iff.mp hscan
    exact ⟨lexemes, by rw [Lexeme.textOf, htext, String.ofList_toList]⟩

/-- The template of a row of lexemes says what they say. -/
theorem render_of_parse_textOf {lexemes : List Lexeme} {template : Template}
    (h : parse (Lexeme.textOf lexemes) = .ok template) :
    template.render name captures = String.join (lexemes.map (·.value name captures)) := by
  rw [parse_textOf] at h
  cases h
  rw [render_assemble, List.map_map]
  simp [Function.comp_def, Lexeme.render_symbol]

/-- The greatest capture that the template of a row of lexemes mentions is the greatest that they
ask for. -/
theorem maxCapture_of_parse_textOf {lexemes : List Lexeme} {template : Template}
    (h : parse (Lexeme.textOf lexemes) = .ok template) :
    template.maxCapture = (lexemes.filterMap Lexeme.index?).max?.getD 0 := by
  rw [parse_textOf] at h
  cases h
  rw [maxCapture, captures_assemble, List.foldl_max, Nat.zero_max, List.filterMap_map]
  simp [Lexeme.index?_symbol]

/-- A text is cut into lexemes in at most one way. It is a template exactly if it is made of
lexemes; then the greatest capture is the greatest that a lexeme asks for, and the template says
what the lexemes say. So texts of templates can be joined. -/
theorem parse_grammar :
    Function.Injective Lexeme.textOf ∧
    (∀ text, (∃ template, parse text = .ok template) ↔ ∃ lexemes, Lexeme.textOf lexemes = text) ∧
    (∀ lexemes, ∃ template, parse (Lexeme.textOf lexemes) = .ok template ∧
      template.maxCapture = (lexemes.filterMap Lexeme.index?).max?.getD 0 ∧
      ∀ name captures,
        template.render name captures = String.join (lexemes.map (·.value name captures))) ∧
    ∀ first second front back, parse first = .ok front → parse second = .ok back →
      ∃ whole, parse (first ++ second) = .ok whole ∧ ∀ name captures,
        whole.render name captures = front.render name captures ++ back.render name captures := by
  refine ⟨Lexeme.textOf_injective, fun text => ?_, fun lexemes => ?_, ?_⟩
  · constructor
    · rintro ⟨template, h⟩
      exact exists_textOf_of_parse h
    · rintro ⟨lexemes, rfl⟩
      exact ⟨_, parse_textOf lexemes⟩
  · have h := parse_textOf lexemes
    exact ⟨_, h, maxCapture_of_parse_textOf h,
      fun name captures => render_of_parse_textOf name captures h⟩
  · intro first second front back hfront hback
    obtain ⟨lexemes, rfl⟩ := exists_textOf_of_parse hfront
    obtain ⟨others, rfl⟩ := exists_textOf_of_parse hback
    have hwhole := parse_textOf (lexemes ++ others)
    refine ⟨_, by rw [← Lexeme.textOf_append]; exact hwhole, fun name captures => ?_⟩
    rw [render_of_parse_textOf name captures hwhole, render_of_parse_textOf name captures hfront,
      render_of_parse_textOf name captures hback, List.map_append, String.join_append]

end Template

end ModuleSynthesis
