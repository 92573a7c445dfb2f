import ModuleSynthesis.Proofs.Template.Grammar

/-!
# Faults of a template

A text that is no template has a longest prefix that is one, and the fault stands right behind it:
there comes a brace with which no lexeme starts. Since a text is cut into lexemes in one way only,
no other way to read it gets any further.

* `Symbol.Faulty`: the texts that start with no lexeme, and what is wrong with them.
* `Lexeme.exists_faulty_of_scan`: scanning stops behind a row of lexemes, where a text is faulty.
* `Lexeme.isPrefix_of_not_starts`: no row of lexemes reaches beyond such a place.
* `Template.Pinpoints`: what an error has to say about the place of the fault.
* `Template.parse_error_pinpoints`: every error says it about the end of the longest template.
-/

namespace ModuleSynthesis

/-! ## Faulty texts -/

/-- The texts that start with no lexeme although they are not empty, and the fault that is found
there at a byte offset. -/
inductive Symbol.Faulty (offset : Nat) : List Char → Symbol.Fault → Prop
  /-- A brace is opened, once, and never closed. -/
  | unterminated {rest : List Char} : (∀ more, rest ≠ '{' :: more) → '}' ∉ rest →
      Faulty offset ('{' :: rest) (.unterminated offset)
  /-- A brace is opened, once, and no placeholder stands in front of the next closing one. -/
  | unknownPlaceholder {body after : List Char} : (∀ more, body ++ '}' :: after ≠ '{' :: more) →
      '}' ∉ body → (∀ placeholder : Placeholder, placeholder.chars ≠ body) →
      Faulty offset ('{' :: (body ++ '}' :: after)) (.unknownPlaceholder body)
  /-- A brace is closed, once. -/
  | unmatchedClose {rest : List Char} : (∀ more, rest ≠ '}' :: more) →
      Faulty offset ('}' :: rest) (.unmatchedClose offset)

theorem untilClose?_eq_none_iff {text : List Char} :
    Symbol.untilClose? text = none ↔ '}' ∉ text := by
  constructor
  · intro h hmem
    obtain ⟨body, after, rfl, hbody⟩ := List.eq_append_cons_of_mem hmem
    rw [untilClose?_append hbody] at h
    cases h
  · intro h
    cases hcut : Symbol.untilClose? text with
    | none => rfl
    | some parts =>
      rw [← append_eq_of_untilClose? hcut] at h
      exact absurd (by simp) h

theorem not_mem_of_untilClose? {text body after : List Char}
    (h : Symbol.untilClose? text = some (body, after)) : '}' ∉ body := by
  fun_induction Symbol.untilClose? text generalizing body after with
  | case1 => cases h
  | case2 => cases h; exact List.not_mem_nil
  | case3 c rest hc inner found hfound ih =>
    cases h
    exact List.not_mem_cons_of_ne_of_not_mem (Ne.symm hc) (ih hfound)
  | case4 => cases h

namespace Lexeme

/-- No lexeme starts a faulty text. -/
theorem not_isPrefix_of_faulty {offset : Nat} {text : List Char} {fault : Symbol.Fault}
    (h : Symbol.Faulty offset text fault) (lexeme : Lexeme) : ¬ lexeme.chars <+: text := by
  rintro ⟨more, hmore⟩
  cases h with
  | unterminated hsingle hclose =>
    cases lexeme with
    | plain c hc => exact hc.1 (List.cons.inj hmore).1
    | opening => exact hsingle more (List.cons.inj hmore).2.symm
    | closing => cases hmore
    | braced body => cases hmore; simp at hclose
  | @unknownPlaceholder body after hsingle hclose hmeaning =>
    cases lexeme with
    | plain c hc => exact hc.1 (List.cons.inj hmore).1
    | opening => exact hsingle more (List.cons.inj hmore).2.symm
    | closing => cases hmore
    | braced placeholder =>
      -- both end at the first closing brace, so what is in between is the placeholder
      rw [braced_append] at hmore
      have hcut := untilClose?_append hclose after
      rw [← (List.cons.inj hmore).2, untilClose?_append placeholder.brace_not_mem_chars.2] at hcut
      cases hcut
      exact hmeaning placeholder rfl
  | unmatchedClose hsingle =>
    cases lexeme with
    | plain c hc => exact hc.2 (List.cons.inj hmore).1
    | opening | braced => cases hmore
    | closing => exact hsingle more (List.cons.inj hmore).2.symm

/-- Where no lexeme starts, every row of lexemes has ended. -/
theorem isPrefix_of_not_starts {rest : List Char}
    (hrest : ∀ lexeme : Lexeme, ¬ lexeme.chars <+: rest) {front others : List Lexeme}
    (h : others.flatMap chars <+: front.flatMap chars ++ rest) : others <+: front := by
  induction others generalizing front with
  | nil => exact List.nil_prefix
  | cons lexeme others ih =>
    cases front with
    | nil =>
      rw [List.flatMap_cons] at h
      exact absurd ((List.prefix_append _ _).trans h) (hrest lexeme)
    | cons first front =>
      -- no lexeme starts another one, so both rows start with the same
      obtain ⟨more, hmore⟩ := h
      rw [List.flatMap_cons, List.flatMap_cons, List.append_assoc, List.append_assoc] at hmore
      obtain ⟨rfl, hothers⟩ := chars_append_inj hmore
      exact List.cons_prefix_cons.mpr ⟨rfl, ih ⟨more, hothers⟩⟩

/-! ## Where scanning stops -/

/-- What goes wrong behind a lexeme goes wrong behind the row that it starts. -/
theorem exists_cons_of_map_eq_error {scanned : Except Symbol.Fault (List Symbol)} {offset : Nat}
    {text : List Char} {fault : Symbol.Fault} (lexeme : Lexeme)
    (h : scanned.map (lexeme.symbol :: ·) = .error fault)
    (htext : scanned = .error fault → ∃ (front : List Lexeme) (rest : List Char),
      front.flatMap chars ++ rest = text ∧
        Symbol.Faulty (offset + Symbol.bytes lexeme.chars + Symbol.bytes (front.flatMap chars))
          rest fault) :
    ∃ (front : List Lexeme) (rest : List Char),
      front.flatMap chars ++ rest = lexeme.chars ++ text ∧
        Symbol.Faulty (offset + Symbol.bytes (front.flatMap chars)) rest fault := by
  cases scanned with
  | ok => cases h
  | error =>
    cases h
    obtain ⟨front, rest, rfl, hfaulty⟩ := htext rfl
    refine ⟨lexeme :: front, rest, by rw [List.flatMap_cons, List.append_assoc], ?_⟩
    rwa [List.flatMap_cons, bytes_append, ← Nat.add_assoc]

/-- Scanning stops behind a row of lexemes, where a text is faulty. -/
theorem exists_faulty_of_scan {offset : Nat} {text : List Char} {fault : Symbol.Fault}
    (h : Symbol.scan offset text = .error fault) :
    ∃ (front : List Lexeme) (rest : List Char), front.flatMap chars ++ rest = text ∧
      Symbol.Faulty (offset + Symbol.bytes (front.flatMap chars)) rest fault := by
  fun_induction Symbol.scan offset text with
  | case1 => cases h
  | case2 _ _ ih => exact exists_cons_of_map_eq_error .opening h ih
  | case3 _ _ ih => exact exists_cons_of_map_eq_error .closing h ih
  | case4 offset rest hsingle hcut =>
    cases h
    exact ⟨[], _, rfl, .unterminated hsingle (untilClose?_eq_none_iff.mp hcut)⟩
  | case5 offset rest hsingle body after hcut hmeaning =>
    cases h
    rw [← append_eq_of_untilClose? hcut] at hsingle ⊢
    refine ⟨[], _, rfl, .unknownPlaceholder hsingle (not_mem_of_untilClose? hcut) ?_⟩
    intro placeholder hchars
    rw [Placeholder.ofPlaceholder?_eq_some_iff.mpr ⟨placeholder, hchars, rfl⟩] at hmeaning
    cases hmeaning
  | case6 _ rest _ body after hcut _ hmeaning ih =>
    obtain ⟨placeholder, rfl, rfl⟩ := Placeholder.ofPlaceholder?_eq_some_iff.mp hmeaning
    rw [← append_eq_of_untilClose? hcut, ← braced_append]
    rw [Nat.add_assoc, ← bytes_braced] at h ih
    exact exists_cons_of_map_eq_error (.braced placeholder) h ih
  | case7 _ rest hsingle =>
    cases h
    exact ⟨[], _, rfl, .unmatchedClose hsingle⟩
  | case8 _ c _ _ _ hopening hclosing ih =>
    exact exists_cons_of_map_eq_error (.plain c ⟨hopening, hclosing⟩) h ih

end Lexeme

/-! ## The longest template -/

theorem bytes_eq_utf8ByteSize (text : List Char) :
    Symbol.bytes text = (String.ofList text).utf8ByteSize := by
  induction text with
  | nil => rfl
  | cons c text ih =>
    rw [Symbol.bytes, ih, String.ofList_cons, String.utf8ByteSize_append,
      String.utf8ByteSize_singleton]

namespace Template

/-- The longest template that starts a text. -/
structure IsLongest (front text : String) : Prop where
  isPrefix : front.toList <+: text.toList
  parses : ∃ template, parse front = .ok template
  longest : ∀ other : String, other.toList <+: text.toList →
    front.utf8ByteSize < other.utf8ByteSize → ¬ ∃ template, parse other = .ok template

/-- A row of lexemes ends with the longest template if no lexeme starts what comes behind it. -/
theorem isLongest_of_not_starts {text : String} {lexemes : List Lexeme} {rest : List Char}
    (htext : lexemes.flatMap Lexeme.chars ++ rest = text.toList)
    (hrest : ∀ lexeme : Lexeme, ¬ lexeme.chars <+: rest) :
    IsLongest (Lexeme.textOf lexemes) text := by
  have htoList : (Lexeme.textOf lexemes).toList = lexemes.flatMap Lexeme.chars :=
    String.toList_ofList
  refine ⟨by rw [htoList, ← htext]; exact List.prefix_append _ _, ⟨_, parse_textOf lexemes⟩, ?_⟩
  rintro other hother hlt ⟨template, hparse⟩
  obtain ⟨others, rfl⟩ := exists_textOf_of_parse hparse
  rw [← htext, Lexeme.textOf, String.toList_ofList] at hother
  obtain ⟨more, rfl⟩ := Lexeme.isPrefix_of_not_starts hrest hother
  rw [Lexeme.textOf_append, String.utf8ByteSize_append] at hlt
  omega

/-! ## Errors -/

/-- An error of a text shows where the longest template that starts the text ends, and what is
wrong with the brace that comes there. Offsets count bytes. -/
structure Pinpoints (text : String) (error : TemplateError) (front : String) (brace : Char)
    (rest : String) : Prop where
  isLongest : IsLongest front text
  cut : text = front ++ String.singleton brace ++ rest
  isBrace : brace = '{' ∨ brace = '}'
  unmatchedClose_iff : error = .unmatchedClose text front.utf8ByteSize ↔ brace = '}'
  unterminated_iff : error = .unterminated text front.utf8ByteSize ↔
    brace = '{' ∧ '}' ∉ rest.toList
  /-- Where the brace is closed, neither the name nor the number of a capture is in between. -/
  unknownPlaceholder : brace = '{' → '}' ∈ rest.toList → ∃ body after : String,
    rest = body ++ String.singleton '}' ++ after ∧ '}' ∉ body.toList ∧
      error = .unknownPlaceholder text body ∧ body.toList.head? ≠ some '{' ∧
      body ≠ "name" ∧ ∀ numeral : Numeral, String.ofList numeral.chars ≠ body

theorem cut_of_toList {text : String} {lexemes : List Lexeme} {brace : Char} {rest : List Char}
    (htext : lexemes.flatMap Lexeme.chars ++ brace :: rest = text.toList) :
    text = Lexeme.textOf lexemes ++ String.singleton brace ++ String.ofList rest := by
  rw [← String.ofList_toList (s := text), ← htext, String.ofList_append, String.ofList_cons,
    String.append_assoc, Lexeme.textOf]

/-- What stands behind a row of lexemes and is faulty is reported as the fault that it is. -/
theorem pinpoints_of_faulty {text : String} {lexemes : List Lexeme} {behind : List Char}
    {fault : Symbol.Fault} (htext : lexemes.flatMap Lexeme.chars ++ behind = text.toList)
    (h : Symbol.Faulty (Lexeme.textOf lexemes).utf8ByteSize behind fault) :
    ∃ brace rest, Pinpoints text (fault.toError text) (Lexeme.textOf lexemes) brace rest := by
  have hlongest := isLongest_of_not_starts htext (Lexeme.not_isPrefix_of_faulty h)
  cases h with
  | @unterminated rest hsingle hclose =>
    refine ⟨'{', String.ofList rest, hlongest, cut_of_toList htext, .inl rfl, ?_, ?_, ?_⟩
    · simp [Symbol.Fault.toError]
    · simp [Symbol.Fault.toError, hclose]
    · simp [hclose]
  | @unknownPlaceholder body after hsingle hclose hmeaning =>
    refine ⟨'{', String.ofList (body ++ '}' :: after), hlongest, cut_of_toList htext, .inl rfl,
      ?_, ?_, fun _ _ => ⟨String.ofList body, String.ofList after, ?_, ?_, rfl, ?_, ?_, ?_⟩⟩
    · simp [Symbol.Fault.toError]
    · simp [Symbol.Fault.toError]
    · rw [String.ofList_append, String.ofList_cons, String.append_assoc]
    · rwa [String.toList_ofList]
    · rw [String.toList_ofList]
      intro hhead
      obtain ⟨more, rfl⟩ := List.head?_eq_some_iff.mp hhead
      exact hsingle _ rfl
    · intro hname
      exact hmeaning .name (String.ofList_inj.mp hname.symm)
    · intro numeral hnumeral
      exact hmeaning (.capture numeral) (String.ofList_inj.mp hnumeral)
  | @unmatchedClose rest hsingle =>
    refine ⟨'}', String.ofList rest, hlongest, cut_of_toList htext, .inr rfl, ?_, ?_, ?_⟩
    · simp [Symbol.Fault.toError]
    · simp [Symbol.Fault.toError]
    · simp

/-- Every error points at the end of the longest template that starts the text. -/
theorem parse_error_pinpoints {text : String} {error : TemplateError}
    (h : parse text = .error error) :
    ∃ front brace rest, Pinpoints text error front brace rest := by
  rw [parse] at h
  split at h
  · next fault hscan =>
    cases h
    obtain ⟨lexemes, behind, htext, hfaulty⟩ := Lexeme.exists_faulty_of_scan hscan
    rw [Nat.zero_add, bytes_eq_utf8ByteSize, ← Lexeme.textOf] at hfaulty
    exact ⟨_, pinpoints_of_faulty htext hfaulty⟩
  · cases h

/-- A character of two bytes and a placeholder that means something come first, and other faults
come later. -/
theorem leaf_pinpoints :
    parse "é\x7b1\x7d\x7bleaf\x7d \x7d \x7b" =
        .error (.unknownPlaceholder "é\x7b1\x7d\x7bleaf\x7d \x7d \x7b" "leaf") ∧
      ∃ front brace rest, Pinpoints "é\x7b1\x7d\x7bleaf\x7d \x7d \x7b"
        (.unknownPlaceholder "é\x7b1\x7d\x7bleaf\x7d \x7d \x7b" "leaf") front brace rest :=
  have h : parse "é\x7b1\x7d\x7bleaf\x7d \x7d \x7b" =
      .error (.unknownPlaceholder "é\x7b1\x7d\x7bleaf\x7d \x7d \x7b" "leaf") := by decide +kernel
  ⟨h, parse_error_pinpoints h⟩

example : parse "é\x7b\x7b \x7b" = .error (.unterminated "é\x7b\x7b \x7b" 5) := by decide +kernel

end Template

end ModuleSynthesis
