import ModuleSynthesis.Proofs.Name

/-!
# Spellings of a path

One module can be asked for in many ways: with blanks, `./` and separators in front, with a slash, a
backslash or a delimiter between any two segments, with an extension, and with blanks behind.

* `Name.Spelling`: a way to write a path, part by part.
* `Name.Spelling.WellFormed`: what keeps the parts apart.
* `Name.Spelling.WellFormed.ofRequest_text`: all spellings of a path ask for one name, its segments
  with delimiters between them.
-/

namespace ModuleSynthesis.Name

open Text

/-- What may stand between two segments of a path. -/
inductive Separator where
  /-- A slash. -/
  | slash
  /-- A backslash. -/
  | backslash
  /-- The delimiter of names. -/
  | colons

/-- A separator as it is written. -/
def Separator.chars : Separator → List Char
  | .slash => ['/']
  | .backslash => ['\\']
  | .colons => delimiter

/-- A segment of a path: a text with no separator and no colon in it, which is not empty. -/
structure IsSegment (segment : List Char) : Prop where
  ne_nil : segment ≠ []
  noSeparator : NoSeparator segment
  colon_not_mem : ':' ∉ segment

/-- A way to write a path. -/
structure Spelling where
  /-- What stands in front of everything else. -/
  before : List Char
  /-- The number of times that `./` comes then. -/
  heres : Nat
  /-- The separators in front of the first segment. -/
  leading : List Separator
  /-- All segments but the last, each with the separator behind it. -/
  front : List (List Char × Separator)
  /-- The last segment. -/
  last : List Char
  /-- The extension that is added to the last segment, if one is. -/
  extension? : Option (List Char)
  /-- What stands behind everything else. -/
  after : List Char

namespace Spelling

/-- The segments of the path, in order. -/
def segments (spelling : Spelling) : List (List Char) :=
  spelling.front.map Prod.fst ++ [spelling.last]

/-- The first segment. -/
def first (spelling : Spelling) : List Char :=
  spelling.segments.head (by simp [segments])

/-- The segments with their separators. -/
def path (spelling : Spelling) : List Char :=
  spelling.front.flatMap (fun (segment, separator) => segment ++ separator.chars) ++ spelling.last

/-- The extension behind its dot. -/
def ending (spelling : Spelling) : List Char :=
  match spelling.extension? with
  | some extension => '.' :: extension
  | none => []

/-- The path as it is written. -/
def text (spelling : Spelling) : String :=
  String.ofList (spelling.before ++ ((List.replicate spelling.heres ['.', '/']).flatten ++
    (spelling.leading.flatMap Separator.chars ++ (spelling.path ++
      (spelling.ending ++ spelling.after)))))

/-- The name whose segments are those of the path. -/
def name (spelling : Spelling) : String :=
  String.ofList (join spelling.segments)

/-- The parts of a spelling can be told apart: only blanks stand around the path; segments have
neither separators nor colons; the first one is not taken for a blank or for a `./`; and what comes
behind the last dot of the last segment is the extension, if there is one, or else no dot comes
behind its first character and no blank at its end. -/
structure WellFormed (spelling : Spelling) : Prop where
  isBlank_before : ∀ c ∈ spelling.before, isBlank c
  isBlank_after : ∀ c ∈ spelling.after, isBlank c
  isSegment : ∀ segment ∈ spelling.segments, IsSegment segment
  first_head : ∀ c ∈ spelling.first.head?, isBlank c = false
  first_ne : spelling.first ≠ ['.']
  extension : ∀ extension ∈ spelling.extension?,
    NoSeparator extension ∧ ':' ∉ extension ∧ '.' ∉ extension
  bare : spelling.extension? = none →
    '.' ∉ spelling.last.tail ∧ ∀ c ∈ spelling.last.getLast?, isBlank c = false

end Spelling

/-! ## What comes in front of a path -/

theorem dropHere_append (heres : Nat) (rest : List Char) :
    dropHere ((List.replicate heres ['.', '/']).flatten ++ rest) = dropHere rest := by
  induction heres with
  | zero => rfl
  | succ heres ih =>
    rw [List.replicate_succ, List.flatten_cons, List.append_assoc, List.cons_append,
      List.singleton_append, dropHere, ih]

theorem dropDelimiters_append {α : Type} (leading : List α) (rest : List Char) :
    dropDelimiters (leading.flatMap (fun _ => delimiter) ++ rest) = dropDelimiters rest := by
  induction leading with
  | nil => rfl
  | cons _ leading ih =>
    rw [List.flatMap_cons, List.append_assoc, delimiter, List.cons_append, List.singleton_append,
      dropDelimiters]
    exact ih

/-- Every separator stands for a delimiter. -/
theorem Separator.flatMap_ofPathChar (separator : Separator) :
    separator.chars.flatMap ofPathChar = delimiter := by
  cases separator <;> rfl

theorem Separator.head_chars (separator : Separator) :
    ∃ c rest, separator.chars = c :: rest ∧ c ≠ '.' ∧ isBlank c = false := by
  cases separator with
  | slash => exact ⟨'/', [], rfl, by decide, by decide⟩
  | backslash => exact ⟨'\\', [], rfl, by decide, by decide⟩
  | colons => exact ⟨':', [':'], rfl, by decide, by decide⟩

namespace Spelling

variable {spelling : Spelling}

/-! ## The first segment -/

theorem first_isPrefix_path (spelling : Spelling) : spelling.first <+: spelling.path := by
  rw [first, path]
  cases hf : spelling.front with
  | nil => simp [segments, hf]
  | cons pair front => simp [segments, hf]

theorem first_mem_segments (spelling : Spelling) : spelling.first ∈ spelling.segments :=
  List.head_mem _

namespace WellFormed

/-- The first segment has a first character, which is neither a blank nor a colon, and does not
make a `./` together with what follows. -/
theorem first_append (h : spelling.WellFormed) (rest : List Char) :
    ∃ c more, spelling.first ++ rest = c :: more ∧ isBlank c = false ∧ c ≠ ':' ∧
      ¬ ['.', '/'] <+: spelling.first ++ rest := by
  have hsegment := h.isSegment _ spelling.first_mem_segments
  have hhead := h.first_head
  have hhere := h.first_ne
  cases hfirst : spelling.first with
  | nil => exact absurd hfirst hsegment.ne_nil
  | cons c more =>
    rw [hfirst] at hsegment hhead hhere
    refine ⟨c, more ++ rest, rfl, hhead c rfl, ?_, ?_⟩
    · rintro rfl
      exact hsegment.colon_not_mem List.mem_cons_self
    · rw [List.cons_append, List.cons_prefix_cons]
      rintro ⟨rfl, hslash⟩
      cases more with
      | nil => exact hhere rfl
      | cons d more =>
        rw [List.cons_append, List.cons_prefix_cons] at hslash
        obtain ⟨rfl, -⟩ := hslash
        exact hsegment.noSeparator.1 (by simp)

/-- So do separators in front of a path. -/
theorem leading_append (h : spelling.WellFormed) (rest : List Char) :
    ∃ c more, spelling.leading.flatMap Separator.chars ++ (spelling.path ++ rest) = c :: more ∧
      isBlank c = false ∧
      ¬ ['.', '/'] <+: spelling.leading.flatMap Separator.chars ++ (spelling.path ++ rest) := by
  cases spelling.leading with
  | nil =>
    obtain ⟨later, hpath⟩ := spelling.first_isPrefix_path
    rw [List.flatMap_nil, List.nil_append, ← hpath, List.append_assoc]
    obtain ⟨c, more, heq, hblank, -, hhere⟩ := h.first_append (later ++ rest)
    exact ⟨c, more, heq, hblank, hhere⟩
  | cons separator leading =>
    obtain ⟨c, more, hchars, hdot, hblank⟩ := separator.head_chars
    rw [List.flatMap_cons, hchars]
    refine ⟨c, _, rfl, hblank, fun hprefix => ?_⟩
    rw [List.append_assoc, List.cons_append, List.cons_prefix_cons] at hprefix
    exact hdot hprefix.1.symm

/-! ## What comes behind a path -/

/-- What trimming leaves behind the path is an extension of the last segment, or nothing. -/
theorem trimEnd_path (h : spelling.WellFormed) (front : List Char) :
    ∃ tail, trimEnd (front ++ (spelling.path ++ (spelling.ending ++ spelling.after))) =
        front ++ (spelling.path ++ tail) ∧
      NoSeparator tail ∧ ':' ∉ tail ∧ stem (spelling.last ++ tail) = spelling.last := by
  have hlast := h.isSegment spelling.last (by simp [segments])
  rw [ending]
  cases hextension : spelling.extension? with
  | none =>
    obtain ⟨hdot, hblank⟩ := h.bare hextension
    refine ⟨[], ?_, ⟨by simp, by simp⟩, by simp, ?_⟩
    · rw [List.nil_append, List.append_nil, ← List.append_assoc,
        trimEnd_append _ h.isBlank_after, trimEnd_eq_self_iff]
      intro c hc
      rw [path, ← List.append_assoc, List.getLast?_append_of_ne_nil _ hlast.ne_nil] at hc
      exact hblank c hc
    · rw [List.append_nil, stem_eq_self_iff]
      exact hdot
  | some extension =>
    obtain ⟨hseparator, hcolon, hdot⟩ := h.extension extension hextension
    have hsub := (trimEnd_isPrefix extension).subset
    refine ⟨'.' :: trimEnd extension, ?_, ⟨?_, ?_⟩, ?_, ?_⟩
    · dsimp only
      rw [← List.append_assoc, List.cons_append, trimEnd_append_cons _ (by decide),
        trimEnd_append _ h.isBlank_after, List.append_assoc]
    · exact List.not_mem_cons_of_ne_of_not_mem (by decide) fun hm => hseparator.1 (hsub hm)
    · exact List.not_mem_cons_of_ne_of_not_mem (by decide) fun hm => hseparator.2 (hsub hm)
    · exact List.not_mem_cons_of_ne_of_not_mem (by decide) fun hm => hcolon (hsub hm)
    · exact stem_append hlast.ne_nil fun hm => hdot (hsub hm)

end WellFormed

/-! ## The name -/

/-- With delimiters for the separators, segments and what comes behind them are their join. -/
theorem flatMap_ofPathChar_segments (front : List (List Char × Separator)) {leaf : List Char}
    (hfront : ∀ segment ∈ front.map Prod.fst, NoSeparator segment) (hleaf : NoSeparator leaf) :
    (front.flatMap (fun (segment, separator) => segment ++ separator.chars) ++ leaf).flatMap
      ofPathChar = join (front.map Prod.fst ++ [leaf]) := by
  induction front with
  | nil => exact flatMap_ofPathChar_of_noSeparator hleaf
  | cons pair front ih =>
    obtain ⟨segment, separator⟩ := pair
    have hsegment : NoSeparator segment := hfront segment (by simp)
    rw [List.flatMap_cons, List.append_assoc, List.flatMap_append, List.flatMap_append,
      flatMap_ofPathChar_of_noSeparator hsegment, separator.flatMap_ofPathChar, List.map_cons,
      List.cons_append, join_cons _ (by simp), ih fun s hs => hfront s (List.mem_cons_of_mem _ hs)]

namespace WellFormed

theorem flatMap_ofPathChar_path (h : spelling.WellFormed) {tail : List Char}
    (htail : NoSeparator tail) : (spelling.path ++ tail).flatMap ofPathChar =
      join (spelling.front.map Prod.fst ++ [spelling.last ++ tail]) := by
  have hlast := (h.isSegment spelling.last (by simp [segments])).noSeparator
  have hleaf : NoSeparator (spelling.last ++ tail) :=
    ⟨by simp [hlast.1, htail.1], by simp [hlast.2, htail.2]⟩
  rw [path, List.append_assoc]
  exact flatMap_ofPathChar_segments _
    (fun segment hs => (h.isSegment segment (List.mem_append_left _ hs)).noSeparator) hleaf

theorem not_delimiter_isPrefix (h : spelling.WellFormed) (tail : List Char) :
    ¬ delimiter <+: (spelling.path ++ tail).flatMap ofPathChar := by
  obtain ⟨later, hpath⟩ := spelling.first_isPrefix_path
  have hsegment := h.isSegment _ spelling.first_mem_segments
  rw [← hpath, List.append_assoc, List.flatMap_append,
    flatMap_ofPathChar_of_noSeparator hsegment.noSeparator]
  obtain ⟨c, more, heq, -, hcolon, -⟩ := h.first_append ((later ++ tail).flatMap ofPathChar)
  rw [heq, delimiter, List.cons_prefix_cons]
  exact fun hprefix => hcolon hprefix.1.symm

/-- Trimming a spelling leaves what stands in front of the path, the path, and an extension or
nothing. -/
theorem trim_text (h : spelling.WellFormed) :
    ∃ tail, trim spelling.text.toList = (List.replicate spelling.heres ['.', '/']).flatten ++
        (spelling.leading.flatMap Separator.chars ++ (spelling.path ++ tail)) ∧
      NoSeparator tail ∧ ':' ∉ tail ∧ stem (spelling.last ++ tail) = spelling.last := by
  obtain ⟨tail, htrim, htail⟩ := h.trimEnd_path
    ((List.replicate spelling.heres ['.', '/']).flatten ++ spelling.leading.flatMap Separator.chars)
  refine ⟨tail, ?_, htail⟩
  rw [List.append_assoc, List.append_assoc] at htrim
  rw [text, String.toList_ofList, trim, trimStart_append h.isBlank_before, ← htrim]
  congr 1
  rw [trimStart_eq_self_iff]
  cases spelling.heres with
  | zero =>
    obtain ⟨c, more, heq, hblank, -⟩ := h.leading_append (spelling.ending ++ spelling.after)
    rw [List.replicate_zero, List.flatten_nil, List.nil_append, heq]
    rintro _ ⟨⟩
    exact hblank
  | succ heres =>
    rw [List.replicate_succ, List.flatten_cons, List.cons_append, List.cons_append]
    rintro _ ⟨⟩
    decide

/-- All spellings of a path ask for one name. -/
theorem ofRequest_text (h : spelling.WellFormed) : ofRequest spelling.text = spelling.name := by
  obtain ⟨tail, htrim, hseparator, hcolon, hstem⟩ := h.trim_text
  obtain ⟨_, _, -, -, hhere⟩ := h.leading_append tail
  have hlast := h.isSegment spelling.last (by simp [segments])
  have hleading : (spelling.leading.flatMap Separator.chars).flatMap ofPathChar =
      spelling.leading.flatMap fun _ => delimiter := by
    rw [List.flatMap_assoc]
    exact congrArg (spelling.leading.flatMap ·) (funext Separator.flatMap_ofPathChar)
  have hleaf : ':' ∉ spelling.last ++ tail := by simp [hlast.colon_not_mem, hcolon]
  rw [ofRequest, ofRequestChars, htrim, dropHere_append, dropHere_of_not_isPrefix hhere,
    List.flatMap_append, hleading, dropDelimiters_append,
    dropDelimiters_of_not_isPrefix (h.not_delimiter_isPrefix tail),
    h.flatMap_ofPathChar_path hseparator, stripExtension_join _ hleaf, hstem, name, segments]

end WellFormed

/-- A path with something of everything. -/
def tangled : Spelling where
  before := [' ', '\t']
  heres := 2
  leading := [.backslash, .slash, .colons]
  front := [(['A', 'p', 'p'], .slash), (['.', 'v', '.', '1'], .colons)]
  last := ['U', ' ', '.', 'i']
  extension? := some ['p', 'm', ' ']
  after := ['\n']

theorem tangled_ofRequest : tangled.WellFormed ∧ ofRequest tangled.text = tangled.name :=
  have wellFormed : tangled.WellFormed := {
    isBlank_before := List.all_eq_true.mp (by decide)
    isBlank_after := List.all_eq_true.mp (by decide)
    isSegment := by
      have all : ∀ segment ∈ tangled.segments, segment ≠ [] ∧
        ('/' ∉ segment ∧ '\\' ∉ segment) ∧ ':' ∉ segment := by decide
      exact fun segment hs => ⟨(all segment hs).1, (all segment hs).2.1, (all segment hs).2.2⟩
    first_head := by
      rintro _ ⟨⟩
      decide
    first_ne := by decide
    extension := by
      rintro _ ⟨⟩
      exact ⟨by unfold NoSeparator; decide, by decide, by decide⟩
    bare := nofun }
  ⟨wellFormed, wellFormed.ofRequest_text⟩

example : tangled.text = " \t././\\/::App/.v.1::U .i.pm \n" := by decide

example : tangled.name = "App::.v.1::U .i" := by decide

end Spelling

end ModuleSynthesis.Name
