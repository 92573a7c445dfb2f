import ModuleSynthesis.Name
import ModuleSynthesis.Proofs.Text.Blank
import ModuleSynthesis.Proofs.Text.Delimited

/-!
# Names and request paths

* `ofRequestChars_noSeparator`: no path separator stands in a name that a request asks for.
* `ofRequestChars_eq_self_iff`, `ofRequest_eq_self_iff`: the texts that, taken as requests, ask for
  themselves are the canonical names.
* `ofRequest_ofRequest_eq_iff`: the names that requests ask for ask for themselves exactly if they
  are bare.
* `toPath_injective`: names without path separators have different request paths, whatever the
  extension.
-/

namespace ModuleSynthesis.Name

open Text

/-! ## Extensions -/

/-- A text is cut before its last dot. -/
theorem beforeLastDot?_spec (text : List Char) :
    match beforeLastDot? text with
    | some before => ∃ extension, text = before ++ '.' :: extension ∧ '.' ∉ extension
    | none => '.' ∉ text := by
  induction text with
  | nil => simp [beforeLastDot?]
  | cons c rest ih =>
    rw [beforeLastDot?]
    cases h : beforeLastDot? rest with
    | some before =>
      rw [h] at ih
      obtain ⟨extension, rfl, hdot⟩ := ih
      exact ⟨extension, rfl, hdot⟩
    | none =>
      rw [h] at ih
      by_cases hc : c = '.'
      · subst hc; exact ⟨rest, rfl, ih⟩
      · simpa [hc, eq_comm] using ih

theorem stem_isPrefix (segment : List Char) : stem segment <+: segment := by
  have hspec := beforeLastDot?_spec segment
  rw [stem]
  split
  · next c rest h =>
    rw [h] at hspec
    obtain ⟨extension, rfl, -⟩ := hspec
    exact List.prefix_append _ _
  · exact List.prefix_rfl

/-- A segment has no extension exactly if no dot stands behind its first character. -/
theorem stem_eq_self_iff (segment : List Char) : stem segment = segment ↔ '.' ∉ segment.tail := by
  have hspec := beforeLastDot?_spec segment
  rw [stem]
  cases h : beforeLastDot? segment with
  | none =>
    rw [h] at hspec
    exact ⟨fun _ hm => hspec (List.mem_of_mem_tail hm), fun _ => rfl⟩
  | some before =>
    rw [h] at hspec
    obtain ⟨extension, rfl, hdot⟩ := hspec
    cases before with
    | nil => exact ⟨fun _ => hdot, fun _ => rfl⟩
    | cons c rest => simp

theorem beforeLastDot?_append (segment : List Char) {extension : List Char}
    (h : '.' ∉ extension) : beforeLastDot? (segment ++ '.' :: extension) = some segment := by
  induction segment with
  | nil =>
    have hspec := beforeLastDot?_spec extension
    rw [List.nil_append, beforeLastDot?]
    cases he : beforeLastDot? extension with
    | none => rfl
    | some before =>
      rw [he] at hspec
      obtain ⟨_, rfl, -⟩ := hspec
      exact absurd (by simp) h
  | cons c segment ih => rw [List.cons_append, beforeLastDot?, ih]

/-- A segment loses the extension that was added to it. -/
theorem stem_append {segment extension : List Char} (hne : segment ≠ []) (h : '.' ∉ extension) :
    stem (segment ++ '.' :: extension) = segment := by
  cases segment with
  | nil => exact absurd rfl hne
  | cons c segment => rw [stem, beforeLastDot?_append _ h]

/-- What stands behind the last delimiter of a name: all of it where there is none. -/
def lastPart (name : List Char) : List Char :=
  match splitLast? name with
  | some (_, leaf) => leaf
  | none => name

theorem lastPart_iff {name part : List Char} : LastPart name part ↔ lastPart name = part := by
  rw [lastPart]
  constructor
  · rintro (h | ⟨front, h⟩)
    · rw [(splitLast?_eq_none_iff name).mpr h]
    · rw [splitLast?_append_of_not_isInfix front h]
  · cases h : splitLast? name with
    | none =>
      rintro rfl
      exact .whole ((splitLast?_eq_none_iff name).mp h)
    | some parts =>
      obtain ⟨front, leaf⟩ := parts
      rintro rfl
      obtain ⟨before, rfl⟩ := delimiter_suffix_of_splitLast? h
      rw [← splitLast?_eq_append h]
      exact .behind before (not_isInfix_of_splitLast? h)

theorem stripExtension_isPrefix (name : List Char) : stripExtension name <+: name := by
  rw [stripExtension]
  split
  · next front leaf h =>
    rw [← splitLast?_eq_append h]
    exact (List.prefix_append_right_inj front).mpr (stem_isPrefix leaf)
  · exact stem_isPrefix name

theorem stripExtension_eq_self_iff (name : List Char) :
    stripExtension name = name ↔ '.' ∉ (lastPart name).tail := by
  rw [stripExtension, lastPart]
  cases h : splitLast? name with
  | none => exact stem_eq_self_iff name
  | some parts =>
    obtain ⟨front, leaf⟩ := parts
    rw [← splitLast?_eq_append h, List.append_right_inj]
    exact stem_eq_self_iff leaf

/-- The extension of a name is that of its last segment. -/
theorem stripExtension_join (segments : List (List Char)) {leaf : List Char} (h : ':' ∉ leaf) :
    stripExtension (join (segments ++ [leaf])) = join (segments ++ [stem leaf]) := by
  by_cases hs : segments = []
  · subst hs
    rw [List.nil_append, List.nil_append, join_singleton, join_singleton, stripExtension,
      splitLast?_of_not_mem h]
  · rw [join_append hs (List.cons_ne_nil _ _), join_append hs (List.cons_ne_nil _ _),
      join_singleton, join_singleton, stripExtension, splitLast?_append_delimiter _ h]

/-! ## Names that ask for themselves -/

/-- No path separator stands in a text. -/
def NoSeparator (text : List Char) : Prop :=
  '/' ∉ text ∧ '\\' ∉ text

theorem dropHere_of_not_mem {text : List Char} (h : '/' ∉ text) : dropHere text = text := by
  fun_cases dropHere text with
  | case1 rest => simp at h
  | case2 => rfl

theorem dropHere_of_not_isPrefix {text : List Char} (h : ¬ ['.', '/'] <+: text) :
    dropHere text = text := by
  fun_cases dropHere text with
  | case1 rest => exact absurd (List.prefix_append ['.', '/'] rest) h
  | case2 => rfl

theorem dropHere_suffix (text : List Char) : dropHere text <:+ text := by
  fun_induction dropHere text with
  | case1 rest ih => exact ih.trans (List.suffix_append ['.', '/'] rest)
  | case2 => exact List.suffix_rfl

theorem dropHere_eq_self_iff (text : List Char) :
    dropHere text = text ↔ ¬ ['.', '/'] <+: text := by
  refine ⟨?_, dropHere_of_not_isPrefix⟩
  rintro h ⟨rest, rfl⟩
  have hlength := (dropHere_suffix rest).length_le
  rw [List.cons_append, List.cons_append, List.nil_append, dropHere] at h
  rw [h, List.length_cons, List.length_cons] at hlength
  omega

theorem flatMap_ofPathChar_noSeparator (text : List Char) :
    NoSeparator (text.flatMap ofPathChar) := by
  constructor <;>
  · rw [List.mem_flatMap]
    rintro ⟨c, -, hc⟩
    rw [ofPathChar] at hc
    split at hc <;> simp_all [delimiter, eq_comm]

theorem flatMap_ofPathChar_of_noSeparator {text : List Char} (h : NoSeparator text) :
    text.flatMap ofPathChar = text := by
  induction text with
  | nil => rfl
  | cons c rest ih =>
    obtain ⟨hs, hb⟩ := h
    rw [List.mem_cons, not_or] at hs hb
    rw [List.flatMap_cons, ih ⟨hs.2, hb.2⟩, ofPathChar,
      if_neg (not_or.mpr ⟨Ne.symm hs.1, Ne.symm hb.1⟩)]
    rfl

theorem ofRequestChars_noSeparator (request : List Char) :
    NoSeparator (ofRequestChars request) := by
  have h := flatMap_ofPathChar_noSeparator (dropHere (trim request))
  have hsub : ofRequestChars request ⊆ (dropHere (trim request)).flatMap ofPathChar :=
    List.Subset.trans (stripExtension_isPrefix _).subset (dropDelimiters_suffix _).subset
  exact ⟨fun hm => h.1 (hsub hm), fun hm => h.2 (hsub hm)⟩

theorem not_delimiter_prefix_ofRequestChars (request : List Char) :
    ¬ delimiter <+: ofRequestChars request := fun h =>
  not_delimiter_prefix_dropDelimiters _ (h.trans (stripExtension_isPrefix _))

/-- A name asks for itself exactly if no blank stands at either end, no separator stands in it, no
delimiter stands at its start, and its last part has no dot behind its first character. -/
theorem ofRequestChars_eq_self_iff (name : List Char) :
    ofRequestChars name = name ↔
      trim name = name ∧ NoSeparator name ∧ ¬ delimiter <+: name ∧ '.' ∉ (lastPart name).tail := by
  have hnamed (h : NoSeparator name) :
      ofRequestChars name = stripExtension (dropDelimiters (trim name)) := by
    have hsub := (trim_isInfix name).subset
    have ht : NoSeparator (trim name) := ⟨fun hm => h.1 (hsub hm), fun hm => h.2 (hsub hm)⟩
    rw [ofRequestChars, dropHere_of_not_mem ht.1, flatMap_ofPathChar_of_noSeparator ht]
  constructor
  · intro e
    have hsep := e ▸ ofRequestChars_noSeparator name
    rw [hnamed hsep] at e
    -- no step lengthens a text without separators, so none of them changes it
    have h₁ := (stripExtension_isPrefix (dropDelimiters (trim name))).length_le
    have h₂ := (dropDelimiters_suffix (trim name)).length_le
    have h₃ := (trim_isInfix name).length_le
    rw [e] at h₁
    have ht : trim name = name := (trim_isInfix name).eq_of_length (by omega)
    rw [ht] at e h₁
    have hd : dropDelimiters name = name :=
      (dropDelimiters_suffix name).eq_of_length (by rw [ht] at h₂; omega)
    rw [hd] at e
    exact ⟨ht, hsep, hd ▸ not_delimiter_prefix_dropDelimiters name,
      (stripExtension_eq_self_iff name).mp e⟩
  · rintro ⟨ht, hsep, hd, hdot⟩
    rw [hnamed hsep, ht, dropDelimiters_of_not_isPrefix hd]
    exact (stripExtension_eq_self_iff name).mpr hdot

/-- A name in canonical form: no blank stands at either end, no separator in it and no delimiter at
its start, and its last part has no dot behind its first character. -/
structure IsCanonical (name : String) : Prop where
  head : ∀ c ∈ name.toList.head?, isBlank c = false
  last : ∀ c ∈ name.toList.getLast?, isBlank c = false
  noSeparator : NoSeparator name.toList
  not_delimiter : ¬ delimiter <+: name.toList
  not_dot : ∀ part, LastPart name.toList part → '.' ∉ part.tail

/-- Canonical names ask for themselves and no others do. Whatever is asked for has no separator in
it and no delimiter at its start. -/
theorem ofRequest_eq_self_iff :
    (∀ name, ofRequest name = name ↔ IsCanonical name) ∧
      ∀ request, NoSeparator (ofRequest request).toList ∧
        ¬ delimiter <+: (ofRequest request).toList := by
  constructor
  · intro name
    rw [ofRequest, ← String.toList_inj, String.toList_ofList, ofRequestChars_eq_self_iff,
      trim_eq_self_iff]
    constructor
    · rintro ⟨⟨hhead, hlast⟩, hseparator, hdelimiter, hdot⟩
      refine ⟨hhead, hlast, hseparator, hdelimiter, fun part hpart => ?_⟩
      rwa [← lastPart_iff.mp hpart]
    · intro h
      exact ⟨⟨h.head, h.last⟩, h.noSeparator, h.not_delimiter, h.not_dot _ (lastPart_iff.mpr rfl)⟩
  · intro request
    rw [ofRequest, String.toList_ofList]
    exact ⟨ofRequestChars_noSeparator _, not_delimiter_prefix_ofRequestChars _⟩

/-- No blank stands at either end of a name, and its last part has no dot behind its first
character. -/
def IsBare (name : String) : Prop :=
  (∀ c ∈ name.toList.head?, isBlank c = false) ∧ (∀ c ∈ name.toList.getLast?, isBlank c = false) ∧
    '.' ∉ (lastPart name.toList).tail

/-- The names that requests ask for ask for themselves exactly if they are bare. -/
theorem ofRequest_ofRequest_eq_iff (request : String) :
    ofRequest (ofRequest request) = ofRequest request ↔ IsBare (ofRequest request) := by
  have hsep := ofRequestChars_noSeparator request.toList
  have hdelimiter := not_delimiter_prefix_ofRequestChars request.toList
  rw [ofRequest, ofRequest, String.ofList_inj, IsBare, String.toList_ofList,
    ofRequestChars_eq_self_iff, trim_eq_self_iff]
  exact ⟨fun ⟨⟨hhead, hlast⟩, _, _, hdot⟩ => ⟨hhead, hlast, hdot⟩,
    fun ⟨hhead, hlast, hdot⟩ => ⟨⟨hhead, hlast⟩, hsep, hdelimiter, hdot⟩⟩

/-! ## Request paths -/

theorem subset_join {segment : List Char} {segments : List (List Char)} (h : segment ∈ segments) :
    segment ⊆ join segments := by
  induction segments with
  | nil => cases h
  | cons first rest ih =>
    by_cases hr : rest = []
    · subst hr; rw [List.mem_singleton.mp h]; exact List.Subset.refl _
    · rw [join_cons _ hr]
      rcases List.mem_cons.mp h with rfl | h
      · exact List.subset_append_of_subset_left _ (List.subset_append_left _ _)
      · exact List.Subset.trans (ih h) (List.subset_append_right _ _)

/-- With delimiters for its slashes, a path of segments without separators is their join. -/
theorem flatMap_ofPathChar_slashed {segments : List (List Char)}
    (h : ∀ segment ∈ segments, NoSeparator segment) :
    (slashed segments).flatMap ofPathChar = join segments := by
  fun_induction slashed segments with
  | case1 => rfl
  | case2 segment => exact flatMap_ofPathChar_of_noSeparator (h segment List.mem_cons_self)
  | case3 segment segments hne ih =>
    have hne' : segments ≠ [] := fun e => hne e
    rw [join_cons _ hne', ← ih fun s hs => h s (List.mem_cons_of_mem _ hs), List.flatMap_append,
      List.flatMap_cons, flatMap_ofPathChar_of_noSeparator (h segment List.mem_cons_self)]
    simp [ofPathChar]

theorem flatMap_ofPathChar_slashed_split {name : List Char} (h : NoSeparator name) :
    (slashed (split name)).flatMap ofPathChar = name := by
  rw [flatMap_ofPathChar_slashed, join_split]
  intro segment hs
  have hsub : segment ⊆ name := join_split name ▸ subset_join hs
  exact ⟨fun hm => h.1 (hsub hm), fun hm => h.2 (hsub hm)⟩

theorem toPathChars_injective {name other : List Char} (hn : NoSeparator name)
    (ho : NoSeparator other) (extension : List Char)
    (h : toPathChars name extension = toPathChars other extension) : name = other := by
  have hslashed : slashed (split name) = slashed (split other) := by
    rw [toPathChars, toPathChars] at h
    split at h
    · exact h
    · exact List.append_cancel_right h
  rw [← flatMap_ofPathChar_slashed_split hn, hslashed, flatMap_ofPathChar_slashed_split ho]

/-- Requests for different names have different request paths. -/
theorem toPath_injective {request other extension : String}
    (h : toPath (ofRequest request) extension = toPath (ofRequest other) extension) :
    ofRequest request = ofRequest other := by
  rw [toPath, toPath, ofRequest, ofRequest, String.toList_ofList, String.toList_ofList,
    String.ofList_inj] at h
  rw [ofRequest, ofRequest, toPathChars_injective (ofRequestChars_noSeparator _)
    (ofRequestChars_noSeparator _) _ h]

end ModuleSynthesis.Name
