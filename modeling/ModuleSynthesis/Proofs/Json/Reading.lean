import Mathlib.Algebra.Group.Nat.Defs
import Mathlib.Tactic.SplitIfs
import ModuleSynthesis.Json

/-!
# JSON is read back

What a written text says is what a reader makes of it. The reader here is one of JSON with natural
numbers and without surrogates: it takes any blanks between values, and any escape in a text.

* `Json.read?`: the value that a text is.
* `Json.quotedText?_quoted`: a quoted text is read back, whatever its characters are.
* `Json.read?_pretty`: a value is read back from the text that it is written as.
* `Json.pretty_injective`: so the text determines the value.
-/

namespace ModuleSynthesis.Json

/-! ## The reader -/

/-- A character that may stand between values. -/
def isBlank (c : Char) : Bool :=
  c == ' ' || c == '\n' || c == '\t' || c == '\r'

/-- An input behind the blanks at its start. -/
def skipBlanks (input : List Char) : List Char :=
  input.dropWhile isBlank

/-- The value of a hexadecimal digit. -/
def hexDigit? (c : Char) : Option Nat :=
  "0123456789abcdef".toList.idxOf? c.toLower

/-- The number that hexadecimal digits stand for. -/
def hexNumber? (digits : List Char) : Option Nat :=
  digits.foldlM (fun number c => (hexDigit? c).map (16 * number + ·)) 0

/-- The character of an escape behind its backslash, and what is behind the escape. -/
def unescape? : List Char → Option (Char × List Char)
  | '"' :: rest => some ('"', rest)
  | '\\' :: rest => some ('\\', rest)
  | '/' :: rest => some ('/', rest)
  | 'b' :: rest => some ('\x08', rest)
  | 'f' :: rest => some ('\x0C', rest)
  | 'n' :: rest => some ('\n', rest)
  | 'r' :: rest => some ('\r', rest)
  | 't' :: rest => some ('\t', rest)
  | 'u' :: rest =>
    match hexNumber? (rest.take 4) with
    | some code => if code.isValidChar then some (Char.ofNat code, rest.drop 4) else none
    | none => none
  | _ => none

/-- A text up to the quote that ends it, and what is behind the quote. -/
def quotedText? : Nat → List Char → Option (List Char × List Char)
  | 0, _ | _, [] => none
  | _ + 1, '"' :: rest => some ([], rest)
  | steps + 1, '\\' :: input =>
    match unescape? input with
    | some (c, input) => (quotedText? steps input).map fun (value, rest) => (c :: value, rest)
    | none => none
  | steps + 1, c :: input =>
    if c.toNat < 0x20 then none
    else (quotedText? steps input).map fun (value, rest) => (c :: value, rest)

/-- What a word without quotes stands for. -/
def word? (word : List Char) : Option Json :=
  if word = "null".toList then some .null
  else if word = "true".toList then some (.boolean true)
  else if word = "false".toList then some (.boolean false)
  else if word ≠ [] ∧ word.all Char.isDigit then some (.number (Nat.ofDigitChars 10 word 0))
  else none

section

variable {α : Type} (element? : List Char → Option (α × List Char)) (close : Char)

/-- Elements with commas between them, up to the bracket that closes them, and what is behind it. -/
def series? : Nat → List Char → Option (List α × List Char)
  | 0, _ => none
  | steps + 1, input =>
    match element? input with
    | none => none
    | some (element, input) =>
      match skipBlanks input with
      | [] => none
      | c :: input =>
        if c = close then some ([element], input)
        else if c = ',' then
          (series? steps input).map fun (elements, rest) => (element :: elements, rest)
        else none

/-- The same behind the bracket that opens them; there may be none. -/
def bracketed? (steps : Nat) (input : List Char) : Option (List α × List Char) :=
  if (skipBlanks input).head? = some close then some ([], (skipBlanks input).tail)
  else series? element? close steps input

end

/-- A key and its value, and what is behind them. -/
def member? (value? : List Char → Option (Json × List Char)) (steps : Nat) (input : List Char) :
    Option ((String × Json) × List Char) :=
  match skipBlanks input with
  | '"' :: input =>
    match quotedText? steps input with
    | some (key, input) =>
      match skipBlanks input with
      | ':' :: input =>
        (value? input).map fun (value, rest) => ((String.ofList key, value), rest)
      | _ => none
    | none => none
  | _ => none

/-- A value at the start of an input, and what is behind it. -/
def value? : Nat → List Char → Option (Json × List Char)
  | 0, _ => none
  | steps + 1, input =>
    match skipBlanks input with
    | '"' :: input =>
      (quotedText? steps input).map fun (value, rest) => (.text (String.ofList value), rest)
    | '[' :: input =>
      (bracketed? (value? steps) ']' steps input).map fun (items, rest) => (.array items, rest)
    | '{' :: input =>
      (bracketed? (member? (value? steps) steps) '}' steps input).map fun (fields, rest) =>
        (.record fields, rest)
    | input => (word? (input.takeWhile Char.isAlphanum)).map (·, input.dropWhile Char.isAlphanum)

/-- The value that a text is, if it is one; there may be blanks on both sides. -/
def read? (input : String) : Option Json :=
  match value? (input.toList.length + 1) input.toList with
  | some (json, rest) => if skipBlanks rest = [] then some json else none
  | none => none

/-! ## Blanks -/

theorem skipBlanks_cons {c : Char} (h : isBlank c = false) (rest : List Char) :
    skipBlanks (c :: rest) = c :: rest :=
  List.dropWhile_cons_of_neg (by simp [h])

theorem skipBlanks_append {blanks : List Char} (h : ∀ c ∈ blanks, isBlank c) (input : List Char) :
    skipBlanks (blanks ++ input) = skipBlanks input :=
  List.dropWhile_append_of_pos h

/-- A line break and what stands in front of a value in its line are blanks. -/
theorem isBlank_of_mem_lineBreak (level : Nat) : ∀ c ∈ (lineBreak level).toList, isBlank c := by
  intro c hc
  rw [lineBreak, String.toList_ofList, List.mem_cons] at hc
  rcases hc with rfl | hc
  · rfl
  · rw [List.eq_of_mem_replicate hc]
    rfl

/-! ## Quoted texts -/

theorem hexDigit?_digitChar : ∀ digit < 16, hexDigit? (Nat.digitChar digit) = some digit := by
  decide

/-- The digits of a number in hexadecimal, if there are enough of them, stand for the number. -/
theorem hexNumber?_hexDigits {count number : Nat} (h : number < 16 ^ count) :
    hexNumber? (Text.hexDigits count number) = some number := by
  induction count generalizing number with
  | zero =>
    rw [Nat.lt_one_iff.mp h]
    rfl
  | succ count ih =>
    have hfront : hexNumber? (Text.hexDigits count (number / 16)) = some (number / 16) :=
      ih (by rw [Nat.pow_succ] at h; omega)
    rw [hexNumber?] at hfront ⊢
    rw [Text.hexDigits, List.foldlM_append, hfront]
    simp [hexDigit?_digitChar _ (Nat.mod_lt number (by decide)), Nat.div_add_mod]

/-- A character below the blank is read back from its code. -/
theorem unescape?_hexDigits (c : Char) (h : c.toNat < 0x20) (rest : List Char) :
    unescape? ('u' :: (Text.hexDigits 4 c.toNat ++ rest)) = some (c, rest) := by
  have hlength : (Text.hexDigits 4 c.toNat).length = 4 := Text.hexDigits_length 4 c.toNat
  have hvalid : c.toNat.isValidChar := c.valid
  rw [unescape?, List.take_left' hlength, List.drop_left' hlength,
    hexNumber?_hexDigits (by omega)]
  simp [hvalid, Char.ofNat_toNat]

/-- A character is read back from the way it stands in a quoted text. -/
theorem quotedText?_escaped (c : Char) (steps : Nat) (input : List Char) :
    quotedText? (steps + 1) (escaped c ++ input) =
      (quotedText? steps input).map fun (value, rest) => (c :: value, rest) := by
  have hescape (code : List Char) (hcode : unescape? (code ++ input) = some (c, input)) :
      quotedText? (steps + 1) ('\\' :: (code ++ input)) =
        (quotedText? steps input).map fun (value, rest) => (c :: value, rest) := by
    rw [quotedText?, hcode]
  rw [escaped]
  split_ifs with hquote hslash hfeed hreturn htab hback hform hlow
  · exact hescape ['"'] (by rw [hquote]; rfl)
  · exact hescape ['\\'] (by rw [hslash]; rfl)
  · exact hescape ['n'] (by rw [hfeed]; rfl)
  · exact hescape ['r'] (by rw [hreturn]; rfl)
  · exact hescape ['t'] (by rw [htab]; rfl)
  · exact hescape ['b'] (by rw [hback]; rfl)
  · exact hescape ['f'] (by rw [hform]; rfl)
  · exact hescape ('u' :: Text.hexDigits 4 c.toNat) (unescape?_hexDigits c hlow input)
  · rw [List.singleton_append, quotedText?, if_neg hlow]
    · exact hquote
    · exact hslash

/-- A quoted text is read back. -/
theorem quotedText?_quoted (value : List Char) {steps : Nat} (h : value.length < steps)
    (rest : List Char) :
    quotedText? steps (value.flatMap escaped ++ '"' :: rest) = some (value, rest) := by
  induction value generalizing steps with
  | nil =>
    cases steps with
    | zero => cases h
    | succ steps => rw [List.flatMap_nil, List.nil_append, quotedText?]
  | cons c value ih =>
    cases steps with
    | zero => cases h
    | succ steps =>
      rw [List.flatMap_cons, List.append_assoc, quotedText?_escaped,
        ih (Nat.lt_of_succ_lt_succ h)]
      rfl

/-! ## Words -/

/-- The rest of an input goes on with no word. -/
def EndsWord (rest : List Char) : Prop :=
  ∀ c ∈ rest.head?, c.isAlphanum = false

theorem takeWhile_word {word rest : List Char} (hword : ∀ c ∈ word, c.isAlphanum)
    (hrest : EndsWord rest) : (word ++ rest).takeWhile Char.isAlphanum = word := by
  rw [List.takeWhile_append_of_pos hword]
  cases rest with
  | nil => rw [List.takeWhile_nil, List.append_nil]
  | cons c rest => rw [List.takeWhile_cons_of_neg (by simp [hrest c rfl]), List.append_nil]

theorem dropWhile_word {word rest : List Char} (hword : ∀ c ∈ word, c.isAlphanum)
    (hrest : EndsWord rest) : (word ++ rest).dropWhile Char.isAlphanum = rest := by
  rw [List.dropWhile_append_of_pos hword]
  cases rest with
  | nil => rfl
  | cons c rest => rw [List.dropWhile_cons_of_neg (by simp [hrest c rfl])]

theorem isAlphanum_of_isBlank {c : Char} (h : isBlank c) : c.isAlphanum = false := by
  simp only [isBlank, Bool.or_eq_true, beq_iff_eq] at h
  rcases h with ((rfl | rfl) | rfl) | rfl <;> rfl

theorem ne_of_isAlphanum {c other : Char} (hc : c.isAlphanum) (hother : other.isAlphanum = false) :
    c ≠ other := by
  rintro rfl
  exact absurd hc (by simp [hother])

/-- A word at the start of an input is read as what it stands for. -/
theorem value?_word (word : List Char) {rest : List Char} (hne : word ≠ [])
    (hword : ∀ c ∈ word, c.isAlphanum) (hrest : EndsWord rest) (steps : Nat) :
    value? (steps + 1) (word ++ rest) = (word? word).map (·, rest) := by
  obtain ⟨c, tail, rfl⟩ := List.exists_cons_of_ne_nil hne
  have hc : c.isAlphanum := hword c List.mem_cons_self
  have hblank : isBlank c = false := by
    rw [← Bool.not_eq_true]
    exact fun hblank => absurd hc (by simp [isAlphanum_of_isBlank hblank])
  have hskip : skipBlanks (c :: tail ++ rest) = c :: tail ++ rest := skipBlanks_cons hblank _
  rw [value?, hskip]
  split
  · next h => exact absurd (List.cons.inj h).1 (ne_of_isAlphanum hc (by decide))
  · next h => exact absurd (List.cons.inj h).1 (ne_of_isAlphanum hc (by decide))
  · next h => exact absurd (List.cons.inj h).1 (ne_of_isAlphanum hc (by decide))
  · rw [takeWhile_word hword hrest, dropWhile_word hword hrest]

/-- A number is read back from its digits. -/
theorem word?_toDigits (number : Nat) :
    word? (Nat.toDigits 10 number) = some (.number number) := by
  have hdigits : (Nat.toDigits 10 number).all Char.isDigit := by
    rw [List.all_eq_true]
    exact fun c hc => Nat.isDigit_of_mem_toDigits (by decide) (by decide) hc
  have hnot (word : List Char) (hword : word.all Char.isDigit = false) :
      Nat.toDigits 10 number ≠ word := by
    rintro rfl
    exact absurd hdigits (by simp [hword])
  rw [word?, if_neg (hnot _ (by decide)), if_neg (hnot _ (by decide)), if_neg (hnot _ (by decide)),
    if_pos ⟨Nat.toDigits_ne_nil, hdigits⟩, Nat.ofDigitChars_ten_toDigits]

/-! ## Arrays and objects -/

theorem endsWord_lineBreak (level : Nat) (rest : List Char) :
    EndsWord ((lineBreak level).toList ++ rest) := by
  rw [lineBreak, String.toList_ofList, List.cons_append]
  rintro c ⟨⟩
  rfl

/-- Of texts with commas between them there are no more than characters, and none is longer. -/
theorem bounds_of_length_intercalate {α : Type} {text : α → List Char} {elements : List α}
    {steps : Nat} (hpos : ∀ element, 1 ≤ (text element).length)
    (h : ([','].intercalate (elements.map text)).length < steps) :
    elements.length ≤ steps ∧ ∀ element ∈ elements, (text element).length < steps := by
  induction elements generalizing steps with
  | nil => exact ⟨Nat.zero_le _, nofun⟩
  | cons first others ih =>
    cases others with
    | nil =>
      rw [List.map_cons, List.map_nil, List.intercalate_singleton] at h
      rw [List.length_singleton, List.forall_mem_singleton]
      exact ⟨Nat.le_of_lt (Nat.lt_of_le_of_lt (hpos first) h), h⟩
    | cons second others =>
      rw [List.map_cons, List.map_cons, List.intercalate_cons_cons, ← List.map_cons,
        List.length_append, List.length_append, List.length_singleton] at h
      obtain ⟨hcount, hshort⟩ := ih (Nat.lt_succ_self _)
      rw [List.length_cons, List.forall_mem_cons]
      refine ⟨by have := hpos first; omega, by omega, fun element he => ?_⟩
      have := hshort element he
      omega

section

variable {α : Type} {element? : List Char → Option (α × List Char)} {close : Char} {steps : Nat}
  {elements : List α} {text : α → List Char}

/-- Elements are read back from their texts with commas between them. -/
theorem series?_intercalate (hclose : isBlank close = false) (hcomma : ',' ≠ close)
    (hsome : elements ≠ []) (hsteps : elements.length ≤ steps)
    (helement : ∀ element ∈ elements, ∀ rest, EndsWord rest →
      element? (text element ++ rest) = some (element, rest)) (level : Nat) (rest : List Char) :
    series? element? close steps
        ([','].intercalate (elements.map text) ++ ((lineBreak level).toList ++ close :: rest)) =
      some (elements, rest) := by
  induction elements generalizing steps with
  | nil => exact absurd rfl hsome
  | cons first others ih =>
    obtain ⟨hfirst, hothers⟩ := List.forall_mem_cons.mp helement
    cases steps with
    | zero => cases hsteps
    | succ steps =>
      cases others with
      | nil =>
        rw [List.map_singleton, List.intercalate_singleton, series?,
          hfirst _ (endsWord_lineBreak level _)]
        dsimp only
        rw [skipBlanks_append (isBlank_of_mem_lineBreak level), skipBlanks_cons hclose]
        exact if_pos rfl
      | cons second others =>
        have hlater := ih (List.cons_ne_nil _ _) (Nat.le_of_succ_le_succ hsteps) hothers
        rw [List.map_cons] at hlater
        rw [List.map_cons, List.map_cons, List.intercalate_cons_cons, List.append_assoc,
          List.append_assoc, List.singleton_append, series?, hfirst _ (by rintro c ⟨⟩; rfl)]
        dsimp only
        rw [skipBlanks_cons rfl]
        dsimp only
        rw [if_neg hcomma, if_pos rfl, hlater]
        rfl

/-- So they are between brackets, if none of them starts with the bracket that closes them. -/
theorem bracketed?_intercalate (hclose : isBlank close = false) (hcomma : ',' ≠ close)
    (hnone : ∀ input, (skipBlanks input).head? = some close → element? input = none)
    (hpos : ∀ element, 1 ≤ (text element).length) (hsome : elements ≠ [])
    (h : ([','].intercalate (elements.map text)).length < steps)
    (helement : ∀ element, (text element).length < steps → ∀ rest, EndsWord rest →
      element? (text element ++ rest) = some (element, rest)) (level : Nat) (rest : List Char) :
    bracketed? element? close steps
        ([','].intercalate (elements.map text) ++ ((lineBreak level).toList ++ close :: rest)) =
      some (elements, rest) := by
  obtain ⟨hsteps, hlength⟩ := bounds_of_length_intercalate hpos h
  have hseries := series?_intercalate hclose hcomma hsome hsteps
    (fun element he => helement element (hlength element he)) level rest
  rw [bracketed?, if_neg, hseries]
  intro hhead
  cases steps with
  | zero => cases hseries
  | succ steps =>
    rw [series?, hnone _ hhead] at hseries
    cases hseries

end

/-! ## Values -/

theorem toList_quoted_append (value : String) (rest : List Char) :
    (quoted value).toList ++ rest = '"' :: (value.toList.flatMap escaped ++ '"' :: rest) := by
  rw [quoted, String.toList_ofList, List.cons_append, List.append_assoc, List.singleton_append]

/-- No character takes less room in a quoted text than by itself. -/
theorem length_le_flatMap_escaped (value : List Char) :
    value.length ≤ (value.flatMap escaped).length := by
  induction value with
  | nil => exact Nat.le_refl 0
  | cons c value ih =>
    have hescaped : 1 ≤ (escaped c).length := by
      rw [escaped]
      split_ifs <;> simp
    rw [List.flatMap_cons, List.length_append, List.length_cons]
    omega

theorem length_lt_quoted (value : String) : value.length + 1 < (quoted value).toList.length := by
  have hlength := length_le_flatMap_escaped value.toList
  rw [String.length_toList] at hlength
  rw [← List.append_nil (quoted value).toList, toList_quoted_append, List.length_cons,
    List.length_append, List.length_singleton]
  omega

/-- An item on a line of its own. -/
def itemText (level : Nat) (item : Json) : List Char :=
  (lineBreak level).toList ++ (item.prettyAt level).toList

/-- A key and its value on a line of their own. -/
def memberText (level : Nat) (member : String × Json) : List Char :=
  (lineBreak level).toList ++ ((quoted member.1).toList ++
    ':' :: ' ' :: (member.2.prettyAt level).toList)

theorem one_le_length_itemText (level : Nat) (item : Json) :
    1 ≤ (itemText level item).length := by
  simp [itemText, lineBreak]

theorem one_le_length_memberText (level : Nat) (member : String × Json) :
    1 ≤ (memberText level member).length := by
  simp [memberText, lineBreak]

theorem map_prettyItems (level : Nat) (items : List Json) :
    (prettyItems level items).map String.toList = items.map (itemText level) := by
  induction items with
  | nil => rw [prettyItems]; rfl
  | cons item items ih => simp [prettyItems, ih, itemText]

theorem map_prettyFields (level : Nat) (fields : List (String × Json)) :
    (prettyFields level fields).map String.toList = fields.map (memberText level) := by
  induction fields with
  | nil => rw [prettyFields]; rfl
  | cons field fields ih => simp [prettyFields, ih, memberText]

/-- An array that is not empty, as it is written. -/
theorem toList_prettyAt_array {items : List Json} (h : items ≠ []) (level : Nat) :
    ((array items).prettyAt level).toList =
      '[' :: ([','].intercalate (items.map (itemText (level + 1))) ++
        ((lineBreak level).toList ++ [']'])) := by
  rw [prettyAt]
  · simp [String.toList_intercalate, map_prettyItems]
  · exact h

/-- An object that is not empty, as it is written. -/
theorem toList_prettyAt_record {fields : List (String × Json)} (h : fields ≠ []) (level : Nat) :
    ((record fields).prettyAt level).toList =
      '{' :: ([','].intercalate (fields.map (memberText (level + 1))) ++
        ((lineBreak level).toList ++ ['}'])) := by
  rw [prettyAt]
  · simp [String.toList_intercalate, map_prettyFields]
  · exact h

/-- A number is read back from the way it is written. -/
theorem value?_toDigits (number : Nat) {rest : List Char} (hrest : EndsWord rest) (steps : Nat) :
    value? (steps + 1) ((toString number).toList ++ rest) = some (.number number, rest) := by
  have htext : (toString number).toList = Nat.toDigits 10 number := Nat.toList_repr
  have hword : ∀ c ∈ Nat.toDigits 10 number, c.isAlphanum := fun c hc => by
    simp [Char.isAlphanum, Nat.isDigit_of_mem_toDigits (by decide) (by decide) hc]
  rw [htext, value?_word _ Nat.toDigits_ne_nil hword hrest, word?_toDigits]
  rfl

theorem value?_quote (steps : Nat) (input : List Char) :
    value? (steps + 1) ('"' :: input) =
      (quotedText? steps input).map fun (value, rest) => (.text (String.ofList value), rest) := rfl

theorem value?_bracket (steps : Nat) (input : List Char) :
    value? (steps + 1) ('[' :: input) = (bracketed? (value? steps) ']' steps input).map
      fun (items, rest) => (.array items, rest) := rfl

theorem value?_brace (steps : Nat) (input : List Char) :
    value? (steps + 1) ('{' :: input) = (bracketed? (member? (value? steps) steps) '}' steps
      input).map fun (fields, rest) => (.record fields, rest) := rfl

/-- Blanks in front of a value make no difference. -/
theorem value?_append {blanks : List Char} (h : ∀ c ∈ blanks, isBlank c) (steps : Nat)
    (input : List Char) : value? steps (blanks ++ input) = value? steps input := by
  cases steps with
  | zero => rfl
  | succ steps => rw [value?, value?, skipBlanks_append h]

/-- No value starts with the bracket that closes an array. -/
theorem value?_of_close {input : List Char} (h : (skipBlanks input).head? = some ']')
    (steps : Nat) : value? steps input = none := by
  cases steps with
  | zero => rfl
  | succ steps =>
    obtain ⟨rest, hrest⟩ := List.head?_eq_some_iff.mp h
    rw [value?, hrest]
    rfl

/-- No key starts with the bracket that closes an object. -/
theorem member?_of_close {input : List Char} (h : (skipBlanks input).head? = some '}')
    (value? : List Char → Option (Json × List Char)) (steps : Nat) :
    member? value? steps input = none := by
  obtain ⟨rest, hrest⟩ := List.head?_eq_some_iff.mp h
  rw [member?, hrest]
  rfl

/-- A key and its value are read back from their line, if the value is. -/
theorem member?_memberText {member : String × Json} {steps level : Nat}
    (hlength : (memberText level member).length < steps) {rest : List Char}
    (h : value? steps ((member.2.prettyAt level).toList ++ rest) = some (member.2, rest)) :
    member? (value? steps) steps (memberText level member ++ rest) = some (member, rest) := by
  obtain ⟨key, value⟩ := member
  have hkey : key.toList.length < steps := by
    have hquoted := length_lt_quoted key
    simp only [memberText, List.length_append] at hlength
    rw [String.length_toList]
    omega
  have hspace : ∀ c ∈ [' '], isBlank c := by simp [isBlank]
  have hvalue : value? steps (' ' :: ((value.prettyAt level).toList ++ rest)) =
      some (value, rest) := (value?_append hspace steps _).trans h
  rw [memberText, List.append_assoc, List.append_assoc, member?,
    skipBlanks_append (isBlank_of_mem_lineBreak level), toList_quoted_append, skipBlanks_cons rfl]
  simp [quotedText?_quoted _ hkey, skipBlanks_cons, isBlank, hvalue]

/-- A text is read as what stands between its quotes. -/
theorem value?_quoted {value : String} {steps : Nat}
    (h : (quoted value).toList.length < steps + 1) (rest : List Char) :
    value? (steps + 1) ((quoted value).toList ++ rest) = some (.text value, rest) := by
  have hlength := length_lt_quoted value
  rw [toList_quoted_append, value?_quote,
    quotedText?_quoted _ (by rw [String.length_toList]; omega), Option.map_some]
  simp

section

variable {steps : Nat}
  (ih : ∀ {json : Json} {level : Nat}, (json.prettyAt level).toList.length < steps →
    ∀ {rest : List Char}, EndsWord rest →
      value? steps ((json.prettyAt level).toList ++ rest) = some (json, rest))

include ih

/-- An array is read back if shorter values are. -/
theorem value?_array {items : List Json} {level : Nat}
    (h : ((array items).prettyAt level).toList.length < steps + 1) (rest : List Char) :
    value? (steps + 1) (((array items).prettyAt level).toList ++ rest) =
      some (.array items, rest) := by
  by_cases hsome : items = []
  · rw [hsome, prettyAt]
    rfl
  · rw [toList_prettyAt_array hsome] at h ⊢
    rw [List.length_cons, List.length_append] at h
    have hlength : ([','].intercalate (items.map (itemText (level + 1)))).length < steps := by omega
    have hitems : bracketed? (value? steps) ']' steps ([','].intercalate (items.map
        (itemText (level + 1))) ++ ((lineBreak level).toList ++ ']' :: rest)) =
        some (items, rest) := by
      refine bracketed?_intercalate rfl (by decide) (fun _ hhead => value?_of_close hhead steps)
        (one_le_length_itemText _) hsome hlength (fun item hshort rest hrest => ?_) level rest
      rw [itemText, List.length_append] at hshort
      rw [itemText, List.append_assoc, value?_append (isBlank_of_mem_lineBreak _)]
      exact ih (by omega) hrest
    rw [List.cons_append, List.append_assoc, List.append_assoc, List.singleton_append,
      value?_bracket, hitems]
    rfl

/-- An object is read back if shorter values are. -/
theorem value?_record {fields : List (String × Json)} {level : Nat}
    (h : ((record fields).prettyAt level).toList.length < steps + 1) (rest : List Char) :
    value? (steps + 1) (((record fields).prettyAt level).toList ++ rest) =
      some (.record fields, rest) := by
  by_cases hsome : fields = []
  · rw [hsome, prettyAt]
    rfl
  · rw [toList_prettyAt_record hsome] at h ⊢
    rw [List.length_cons, List.length_append] at h
    have hlength : ([','].intercalate (fields.map (memberText (level + 1)))).length < steps := by
      omega
    have hfields : bracketed? (member? (value? steps) steps) '}' steps ([','].intercalate
        (fields.map (memberText (level + 1))) ++ ((lineBreak level).toList ++ '}' :: rest)) =
        some (fields, rest) := by
      refine bracketed?_intercalate rfl (by decide)
        (fun _ hhead => member?_of_close hhead (value? steps) steps) (one_le_length_memberText _)
        hsome hlength (fun member hshort rest hrest => member?_memberText hshort (ih ?_ hrest))
        level rest
      simp only [memberText, List.length_append, List.length_cons] at hshort
      omega
    rw [List.cons_append, List.append_assoc, List.append_assoc, List.singleton_append,
      value?_brace, hfields]
    rfl

end

/-- A value is read back from the text that it is written as, wherever this ends. -/
theorem value?_prettyAt {json : Json} {steps level : Nat}
    (h : (json.prettyAt level).toList.length < steps) {rest : List Char} (hrest : EndsWord rest) :
    value? steps ((json.prettyAt level).toList ++ rest) = some (json, rest) := by
  induction steps generalizing json level rest with
  | zero => cases h
  | succ steps ih =>
    cases json with
    | null => exact value?_word "null".toList (by decide) (by simp) hrest steps
    | boolean value =>
      cases value with
      | false => exact value?_word "false".toList (by decide) (by simp) hrest steps
      | true => exact value?_word "true".toList (by decide) (by simp) hrest steps
    | number value => exact value?_toDigits value hrest steps
    | text value => exact value?_quoted h rest
    | array items => exact value?_array ih h rest
    | record fields => exact value?_record ih h rest

/-- A value is read back from the text that it is written as, with any blanks behind it. -/
theorem read?_pretty (json : Json) {blanks : List Char} (h : ∀ c ∈ blanks, isBlank c) :
    read? (json.pretty ++ String.ofList blanks) = some json := by
  have hends : EndsWord blanks := fun c hc => isAlphanum_of_isBlank (h c (List.mem_of_mem_head? hc))
  have hskip : skipBlanks blanks = [] := by
    rw [← List.append_nil blanks, skipBlanks_append h]
    rfl
  rw [read?, String.toList_append, String.toList_ofList, pretty, value?_prettyAt _ hends]
  · exact if_pos hskip
  · rw [List.length_append]
    omega

/-- Layouts and escapes other than those that are written can be read too. -/
example : read? " [1, \"\\u0041\"]" = some (.array [.number 1, .text "A"]) := by rfl

/-- An array may not end with a comma. -/
example : read? "[1,]" = none := by rfl

/-- What a value is written as determines the value. -/
theorem pretty_injective : Function.Injective pretty := by
  intro json other h
  have hnone : ∀ c ∈ [], isBlank c := by simp
  have hread := read?_pretty json hnone
  rw [h, read?_pretty other hnone] at hread
  exact (Option.some.inj hread).symm

end ModuleSynthesis.Json
