import ModuleSynthesis.Proofs.Name

/-!
# Request paths as requests

The request path of a name is a request, too. It asks for the name it was made of, except where an
end of the name is taken for something else: a blank in front, a first segment that makes a `./`
with the slash behind it, or a delimiter at the end, which leaves the extension without a segment.

* `Name.stripExtension_append_cons`: when an extension that is added to a name goes again.
* `Name.ofRequestChars_toPathChars`: names that come back from their request paths.
* `Name.ofRequestChars_toPathChars_eq_iff`: no others do, where the extension has a letter in it.
* `Name.ofRequest_toPath_iff`: the same for the names that requests ask for and the default
  extension.
* `Name.ofRequest_toPath`: names that come back whatever the extension is, and when they do so
  without one.
-/

namespace ModuleSynthesis.Name

open Text

/-! ## Added extensions -/

theorem stem_append_cons (segment : List Char) {extension : List Char} (h : '.' ∉ extension) :
    stem (segment ++ '.' :: extension) = if segment = [] then '.' :: extension else segment := by
  by_cases hsegment : segment = []
  · subst hsegment
    rw [if_pos rfl, List.nil_append, stem_eq_self_iff]
    exact h
  · rw [if_neg hsegment, stem_append hsegment h]

/-- A segment that has an extension is cut before its last dot. -/
theorem stem_spec (segment : List Char) : stem segment = segment ∨
    ∃ extension, segment = stem segment ++ '.' :: extension ∧ '.' ∉ extension := by
  have hspec := beforeLastDot?_spec segment
  rw [stem]
  split
  · next c rest h =>
    rw [h] at hspec
    exact .inr hspec
  · exact .inl rfl

/-- So is a name. -/
theorem stripExtension_spec (name : List Char) : stripExtension name = name ∨
    ∃ extension, name = stripExtension name ++ '.' :: extension ∧ '.' ∉ extension := by
  rw [stripExtension]
  cases h : splitLast? name with
  | none => exact stem_spec name
  | some parts =>
    obtain ⟨front, leaf⟩ := parts
    have hname : front ++ leaf = name := splitLast?_eq_append h
    dsimp only
    rcases stem_spec leaf with hleaf | ⟨extension, hleaf, hdot⟩
    · exact .inl (by rw [hleaf, hname])
    · exact .inr ⟨extension, by rw [List.append_assoc, ← hleaf, hname], hdot⟩

theorem lastPart_eq_nil_iff {name : List Char} (hne : name ≠ []) :
    lastPart name = [] ↔ delimiter <:+ name := by
  rw [← lastPart_iff]
  constructor
  · rintro (_ | ⟨front, -⟩)
    · exact absurd rfl hne
    · rw [List.append_nil]
      exact List.suffix_append front delimiter
  · rintro ⟨front, rfl⟩
    have hlast : LastPart (front ++ delimiter ++ []) [] := .behind front (by decide)
    rwa [List.append_nil] at hlast

/-- An extension without dots and delimiters that is added to a name goes again, unless nothing
stands behind the last delimiter of the name. -/
theorem stripExtension_append_cons (name : List Char) {extension : List Char}
    (hdot : '.' ∉ extension) (hdelimiter : ¬ delimiter <:+: extension) :
    stripExtension (name ++ '.' :: extension) =
      if lastPart name = [] then name ++ '.' :: extension else name := by
  have hcut : splitLast? ('.' :: extension) = none := by
    rw [splitLast?_eq_none_iff, List.infix_cons_iff, not_or]
    exact ⟨fun h => absurd (List.cons_prefix_cons.mp h).1 (by decide), hdelimiter⟩
  rw [stripExtension, splitLast?_append_cons name (by decide) hcut, lastPart]
  cases h : splitLast? name with
  | none =>
    dsimp only [Option.map_none]
    rw [stem_append_cons name hdot]
    by_cases hname : name = []
    · rw [if_pos hname, if_pos hname, hname, List.nil_append]
    · rw [if_neg hname, if_neg hname]
  | some parts =>
    obtain ⟨front, leaf⟩ := parts
    dsimp only [Option.map_some]
    rw [stem_append_cons leaf hdot, ← splitLast?_eq_append h]
    by_cases hleaf : leaf = []
    · rw [if_pos hleaf, if_pos hleaf, hleaf, List.append_nil]
    · rw [if_neg hleaf, if_neg hleaf]

/-! ## Names with their extensions -/

/-- The name that a request asks for, with an extension where the request has one. -/
def unstripped (request : List Char) : List Char :=
  dropDelimiters ((dropHere (trim request)).flatMap ofPathChar)

theorem ofPathChar_ne_nil (c : Char) : ofPathChar c ≠ [] := by
  rw [ofPathChar]; split <;> simp [delimiter]

theorem flatMap_ofPathChar_suffix {text rest : List Char} (h : rest <:+ text) :
    rest.flatMap ofPathChar <:+ text.flatMap ofPathChar := by
  obtain ⟨front, rfl⟩ := h
  rw [List.flatMap_append]
  exact List.suffix_append _ _

/-- Every character makes the name longer. -/
theorem eq_of_length_flatMap_ofPathChar {text rest : List Char} (h : rest <:+ text)
    (hlength : (text.flatMap ofPathChar).length ≤ (rest.flatMap ofPathChar).length) :
    rest = text := by
  obtain ⟨front, rfl⟩ := h
  have hfront : front.flatMap ofPathChar = [] := by
    rw [List.flatMap_append, List.length_append] at hlength
    exact List.length_eq_zero_iff.mp (by omega)
  cases front with
  | nil => rfl
  | cons c front =>
    rw [List.flatMap_cons, List.append_eq_nil_iff] at hfront
    exact absurd hfront.1 (ofPathChar_ne_nil c)

/-- Blanks at the end of a text are blanks at the end of its name. -/
theorem trimEnd_flatMap_ofPathChar (text : List Char) :
    trimEnd (text.flatMap ofPathChar) = (trimEnd text).flatMap ofPathChar := by
  induction text using List.reverseRecOn with
  | nil => rfl
  | append_singleton text c ih =>
    rw [List.flatMap_append, List.flatMap_singleton, trimEnd_concat]
    cases hc : isBlank c with
    | true =>
      have hplain : ofPathChar c = [c] := by
        rw [ofPathChar, if_neg]
        rintro (rfl | rfl) <;> exact absurd hc (by decide)
      rw [hplain, trimEnd_concat, hc, if_pos rfl, if_pos rfl, ih]
    | false =>
      rw [if_neg Bool.false_ne_true, List.flatMap_append, List.flatMap_singleton,
        trimEnd_eq_self_iff, List.getLast?_append_of_ne_nil _ (ofPathChar_ne_nil c), ofPathChar]
      split
      · rintro _ ⟨⟩
        decide
      · rintro _ ⟨⟩
        exact hc

/-! ## Characters that stay

What goes in front of a request are blanks, dots, separators and colons. -/

/-- A character that belongs to a segment wherever it stands. -/
structure IsLetter (c : Char) : Prop where
  not_blank : isBlank c = false
  ne_dot : c ≠ '.'
  ne_slash : c ≠ '/'
  ne_backslash : c ≠ '\\'
  ne_colon : c ≠ ':'

namespace IsLetter

variable {c : Char} (h : IsLetter c)

include h

theorem count_dropHere (text : List Char) : (dropHere text).count c = text.count c := by
  fun_induction dropHere text with
  | case1 rest ih =>
    rw [ih, List.count_cons_of_ne h.ne_dot.symm, List.count_cons_of_ne h.ne_slash.symm]
  | case2 => rfl

theorem count_dropDelimiters (text : List Char) : (dropDelimiters text).count c = text.count c := by
  fun_induction dropDelimiters text with
  | case1 rest ih =>
    rw [ih, List.count_cons_of_ne h.ne_colon.symm, List.count_cons_of_ne h.ne_colon.symm]
  | case2 => rfl

theorem count_flatMap_ofPathChar (text : List Char) :
    (text.flatMap ofPathChar).count c = text.count c := by
  induction text with
  | nil => rfl
  | cons d text ih =>
    rw [List.flatMap_cons, List.count_append, ih, List.count_cons, Nat.add_comm, ofPathChar]
    split
    · next hd =>
      have hne : d ≠ c := by rintro rfl; exact hd.elim h.ne_slash h.ne_backslash
      simp [delimiter, hne, h.ne_colon.symm]
    · rw [List.count_singleton]

theorem count_unstripped (text : List Char) : (unstripped text).count c = text.count c := by
  rw [unstripped, h.count_dropDelimiters, h.count_flatMap_ofPathChar, h.count_dropHere, trim,
    count_trimEnd h.not_blank, count_trimStart h.not_blank]

theorem count_toPathChars {name extension : List Char} (hname : NoSeparator name)
    (hne : extension ≠ []) :
    (toPathChars name extension).count c = name.count c + extension.count c := by
  have hpath := h.count_flatMap_ofPathChar (slashed (split name))
  rw [flatMap_ofPathChar_slashed_split hname] at hpath
  rw [toPathChars, if_neg (by simpa using hne), List.count_append,
    List.count_cons_of_ne h.ne_dot.symm, hpath]

end IsLetter

/-! ## The start of a request path -/

theorem pair_isPrefix_append_cons {first second c : Char} {text : List Char} (hne : text ≠ [])
    (hc : c ≠ second) (rest : List Char) :
    [first, second] <+: text ++ c :: rest ↔ [first, second] <+: text := by
  match text, hne with
  | [d], _ => simp [List.cons_prefix_cons, hc.symm]
  | d :: e :: text, _ => simp [List.cons_prefix_cons]

section

variable {name : List Char} (hname : NoSeparator name)

include hname

/-- A path starts with the character that its name starts with. -/
theorem head?_slashed_split (hstart : ¬ delimiter <+: name) :
    (slashed (split name)).head? = name.head? := by
  have hpath := flatMap_ofPathChar_slashed_split hname
  cases h : slashed (split name) with
  | nil => rw [h] at hpath; rw [← hpath]; rfl
  | cons c path =>
    rw [h, List.flatMap_cons, ofPathChar] at hpath
    split at hpath
    · exact absurd (hpath ▸ List.prefix_append _ _) hstart
    · rw [← hpath]; rfl

theorem slashed_split_ne_nil (hne : name ≠ []) : slashed (split name) ≠ [] := by
  intro h
  have hpath := flatMap_ofPathChar_slashed_split hname
  rw [h] at hpath
  exact hne hpath.symm

theorem here_isPrefix_slashed_split_iff :
    ['.', '/'] <+: slashed (split name) ↔ '.' :: delimiter <+: name := by
  constructor
  · rintro ⟨rest, h⟩
    have hpath := flatMap_ofPathChar_slashed_split hname
    rw [← h] at hpath
    exact ⟨rest.flatMap ofPathChar, hpath⟩
  · rintro ⟨rest, rfl⟩
    have hcolon : ':' ∉ ['.'] := by decide
    have hsplit : split ('.' :: delimiter ++ rest) = ['.'] :: split rest :=
      split_append_delimiter hcolon rest
    obtain ⟨segment, segments, hrest⟩ := List.exists_cons_of_ne_nil (split_ne_nil rest)
    rw [hsplit, hrest]
    exact ⟨slashed (segment :: segments), rfl⟩

/-- Without an extension, a path asks for its name without the blanks at the end and the extension
that the name itself has. -/
theorem ofRequestChars_slashed_split (hstart : ¬ delimiter <+: name)
    (hblank : ∀ c ∈ name.head?, isBlank c = false) (hhere : ¬ '.' :: delimiter <+: name) :
    ofRequestChars (slashed (split name)) = stripExtension (trimEnd name) := by
  have htrim : trimStart (slashed (split name)) = slashed (split name) := by
    rwa [trimStart_eq_self_iff, head?_slashed_split hname hstart]
  have hkept : ¬ ['.', '/'] <+: trimEnd (slashed (split name)) := fun h =>
    hhere ((here_isPrefix_slashed_split_iff hname).mp (h.trans (trimEnd_isPrefix _)))
  have hdelimiter : ¬ delimiter <+: trimEnd name := fun h => hstart (h.trans (trimEnd_isPrefix _))
  rw [ofRequestChars, trim, htrim, dropHere_of_not_isPrefix hkept, ← trimEnd_flatMap_ofPathChar,
    flatMap_ofPathChar_slashed_split hname, dropDelimiters_of_not_isPrefix hdelimiter]

end

/-! ## Request paths as requests -/

section

variable {name extension : List Char} (hname : NoSeparator name)
  (hextension : NoSeparator extension)

include hname hextension

/-- With delimiters for its slashes, the path of a name is the name. -/
theorem flatMap_ofPathChar_path :
    (slashed (split name) ++ '.' :: trimEnd extension).flatMap ofPathChar =
      name ++ '.' :: trimEnd extension := by
  have hsub := (trimEnd_isPrefix extension).subset
  have hending : NoSeparator ('.' :: trimEnd extension) :=
    ⟨List.not_mem_cons_of_ne_of_not_mem (by decide) fun hm => hextension.1 (hsub hm),
      List.not_mem_cons_of_ne_of_not_mem (by decide) fun hm => hextension.2 (hsub hm)⟩
  rw [List.flatMap_append, flatMap_ofPathChar_slashed_split hname,
    flatMap_ofPathChar_of_noSeparator hending]

variable (hne : extension ≠ [])

include hne

omit hname hextension in
theorem trim_toPathChars : trim (toPathChars name extension) =
    trimStart (slashed (split name)) ++ '.' :: trimEnd extension := by
  rw [toPathChars, if_neg (by simpa using hne), trim_append_cons _ (by decide)]

omit hname hextension in
theorem trim_toPathChars_suffix :
    trim (toPathChars name extension) <:+ slashed (split name) ++ '.' :: trimEnd extension := by
  rw [trim_toPathChars hne]
  obtain ⟨blanks, h⟩ := trimStart_suffix (slashed (split name))
  exact ⟨blanks, by rw [← List.append_assoc, h]⟩

/-- A request path asks for its name with the extension, or for the end of that. -/
theorem unstripped_toPathChars_suffix :
    unstripped (toPathChars name extension) <:+ name ++ '.' :: trimEnd extension := by
  rw [unstripped, ← flatMap_ofPathChar_path hname hextension]
  exact (dropDelimiters_suffix _).trans
    (flatMap_ofPathChar_suffix ((dropHere_suffix _).trans (trim_toPathChars_suffix hne)))

/-- It asks for all of it where no blank and no `./` comes in front. -/
theorem unstripped_toPathChars_eq_iff (hnonempty : name ≠ []) (hstart : ¬ delimiter <+: name) :
    unstripped (toPathChars name extension) = name ++ '.' :: trimEnd extension ↔
      (∀ c ∈ name.head?, isBlank c = false) ∧ ¬ '.' :: delimiter <+: name := by
  have hpath : slashed (split name) ≠ [] := slashed_split_ne_nil hname hnonempty
  have hfull := flatMap_ofPathChar_path hname hextension
  have hdot : '.' ≠ '/' := by decide
  rw [← head?_slashed_split hname hstart, ← trimStart_eq_self_iff,
    ← here_isPrefix_slashed_split_iff hname,
    ← pair_isPrefix_append_cons hpath hdot (trimEnd extension), ← dropHere_eq_self_iff]
  constructor
  · intro h
    -- each step keeps an end of what it is given, and the last one has kept as much as there was
    have htrim : trim (toPathChars name extension) <:+ _ := trim_toPathChars_suffix hne
    have hhere := dropHere_suffix (trim (toPathChars name extension))
    have htrim' := (flatMap_ofPathChar_suffix htrim).length_le
    have hhere' := (flatMap_ofPathChar_suffix hhere).length_le
    have hdelimiters := (dropDelimiters_suffix
      ((dropHere (trim (toPathChars name extension))).flatMap ofPathChar)).length_le
    rw [← unstripped, h, ← hfull] at hdelimiters
    have hpathKept := eq_of_length_flatMap_ofPathChar htrim (by omega)
    have hhereKept := eq_of_length_flatMap_ofPathChar hhere (by omega)
    rw [hpathKept] at hhereKept
    rw [trim_toPathChars hne] at hpathKept
    exact ⟨List.append_cancel_right hpathKept, hhereKept⟩
  · rintro ⟨hblank, hhere⟩
    have hdelimiter : ¬ delimiter <+: name ++ '.' :: trimEnd extension := by
      rwa [delimiter, pair_isPrefix_append_cons hnonempty (by decide)]
    rw [unstripped, trim_toPathChars hne, hblank, hhere, hfull,
      dropDelimiters_of_not_isPrefix hdelimiter]

variable (hdot : '.' ∉ extension) (hdelimiter : ¬ delimiter <:+: extension)

include hdot hdelimiter

/-- A name comes back from its request path if it starts neither with a blank nor with a dot and a
delimiter, and does not end in a delimiter. -/
theorem ofRequestChars_toPathChars (hnonempty : name ≠ []) (hstart : ¬ delimiter <+: name)
    (hblank : ∀ c ∈ name.head?, isBlank c = false) (hhere : ¬ '.' :: delimiter <+: name)
    (hend : ¬ delimiter <:+ name) : ofRequestChars (toPathChars name extension) = name := by
  have hall := (unstripped_toPathChars_eq_iff hname hextension hne hnonempty hstart).mpr
    ⟨hblank, hhere⟩
  have htrim := trimEnd_isPrefix extension
  rw [ofRequestChars, ← unstripped, hall,
    stripExtension_append_cons name (fun hm => hdot (htrim.subset hm))
      (fun hi => hdelimiter (hi.trans htrim.isInfix)),
    if_neg fun hlast => hend ((lastPart_eq_nil_iff hnonempty).mp hlast)]

/-- No other name does, where the extension has a letter in it. -/
theorem ofRequestChars_toPathChars_eq_iff {c : Char} (hc : IsLetter c) (hmem : c ∈ extension)
    (hnonempty : name ≠ []) (hstart : ¬ delimiter <+: name) :
    ofRequestChars (toPathChars name extension) = name ↔
      (∀ c ∈ name.head?, isBlank c = false) ∧ ¬ '.' :: delimiter <+: name ∧
        ¬ delimiter <:+ name := by
  refine ⟨fun h => ?_, fun ⟨hblank, hhere, hend⟩ =>
    ofRequestChars_toPathChars hname hextension hne hdot hdelimiter hnonempty hstart hblank hhere
      hend⟩
  have htrim := trimEnd_isPrefix extension
  have htrimmed : '.' ∉ trimEnd extension := fun hm => hdot (htrim.subset hm)
  rw [ofRequestChars, ← unstripped] at h
  -- the letter of the extension has gone with the extension
  have hcut : unstripped (toPathChars name extension) ≠ name := by
    intro he
    have hcount := congrArg (List.count c) he
    have hpositive : 0 < extension.count c := List.count_pos_iff.mpr hmem
    rw [hc.count_unstripped, hc.count_toPathChars hname hne] at hcount
    omega
  obtain hsame | ⟨ending, hending, hnodot⟩ :=
    stripExtension_spec (unstripped (toPathChars name extension))
  · exact absurd (hsame.symm.trans h) hcut
  rw [h] at hending
  have hall : unstripped (toPathChars name extension) = name ++ '.' :: trimEnd extension := by
    obtain ⟨front, hfront⟩ := unstripped_toPathChars_suffix hname hextension hne
    have hlast := congrArg beforeLastDot? hfront
    rw [hending, ← List.append_assoc, beforeLastDot?_append _ hnodot,
      beforeLastDot?_append _ htrimmed] at hlast
    have hnil : front = [] := by simpa using hlast
    rw [← hfront, hnil, List.nil_append]
  obtain ⟨hblank, hhere⟩ :=
    (unstripped_toPathChars_eq_iff hname hextension hne hnonempty hstart).mp hall
  refine ⟨hblank, hhere, fun hend => ?_⟩
  rw [hall, stripExtension_append_cons name htrimmed
    (fun hi => hdelimiter (hi.trans htrim.isInfix)),
    if_pos ((lastPart_eq_nil_iff hnonempty).mpr hend)] at h
  simp at h

end

/-! ## Names that requests ask for -/

/-- A name that can be requested by its path: it starts neither with a blank nor with a dot and a
delimiter, and does not end in a delimiter. -/
structure IsRequestable (name : String) : Prop where
  not_blank : ∀ c ∈ name.toList.head?, isBlank c = false
  not_here : ¬ '.' :: delimiter <+: name.toList
  not_delimiter : ¬ delimiter <:+ name.toList

/-- With the default extension, the names that requests ask for come back from their paths exactly
if they can be requested by them. -/
theorem ofRequest_toPath_iff {request : String} (hne : ofRequest request ≠ "") :
    ofRequest (toPath (ofRequest request) defaultExtension) = ofRequest request ↔
      IsRequestable (ofRequest request) := by
  have hname : NoSeparator (ofRequest request).toList := by
    rw [ofRequest, String.toList_ofList]
    exact ofRequestChars_noSeparator _
  have hstart : ¬ delimiter <+: (ofRequest request).toList := by
    rw [ofRequest, String.toList_ofList]
    exact not_delimiter_prefix_ofRequestChars _
  have hnonempty : (ofRequest request).toList ≠ [] := by simpa using hne
  have hextension : NoSeparator defaultExtension.toList := ⟨by decide, by decide⟩
  have hletter : IsLetter 'p' := ⟨by decide, by decide, by decide, by decide, by decide⟩
  have hiff := ofRequestChars_toPathChars_eq_iff hname hextension (by decide) (by decide)
    (by decide) hletter (by decide) hnonempty hstart
  generalize ofRequest request = name at *
  rw [ofRequest, toPath, String.toList_ofList, ← String.toList_inj, String.toList_ofList, hiff]
  constructor
  · rintro ⟨hblank, hhere, hend⟩
    exact ⟨hblank, hhere, hend⟩
  · intro h
    exact ⟨h.not_blank, h.not_here, h.not_delimiter⟩

/-! ## Any name and any extension -/

/-- A name that comes back from its path whatever the extension: it can be requested by a path, is
not empty, has no separator in it and does not start with a delimiter. -/
structure IsPathName (name : String) : Prop extends IsRequestable name where
  ne_empty : name ≠ ""
  noSeparator : NoSeparator name.toList
  not_start : ¬ delimiter <+: name.toList

/-- An extension that goes again as a whole. -/
structure IsExtension (extension : String) : Prop where
  ne_empty : extension ≠ ""
  noSeparator : NoSeparator extension.toList
  not_dot : '.' ∉ extension.toList
  not_delimiter : ¬ delimiter <:+: extension.toList

theorem stripExtension_trimEnd_eq_self_iff (name : List Char) :
    stripExtension (trimEnd name) = name ↔
      (∀ c ∈ name.getLast?, isBlank c = false) ∧ '.' ∉ (lastPart name).tail := by
  rw [← trimEnd_eq_self_iff, ← stripExtension_eq_self_iff]
  constructor
  · intro h
    have htrim : trimEnd name = name := by
      refine (trimEnd_isPrefix name).eq_of_length_le ?_
      have hlength := (stripExtension_isPrefix (trimEnd name)).length_le
      rwa [h] at hlength
    rw [htrim] at h
    exact ⟨htrim, h⟩
  · rintro ⟨htrim, h⟩
    rw [htrim, h]

/-- A name comes back from its path with an extension, and from its path without one exactly if no
blank stands at its end and it has no extension itself. -/
theorem ofRequest_toPath {name : String} (h : IsPathName name) :
    (∀ extension, IsExtension extension → ofRequest (toPath name extension) = name) ∧
      (ofRequest (toPath name "") = name ↔ (∀ c ∈ name.toList.getLast?, isBlank c = false) ∧
        ∀ part, LastPart name.toList part → '.' ∉ part.tail) := by
  constructor
  · intro extension hextension
    rw [ofRequest, toPath, String.toList_ofList, ← String.toList_inj, String.toList_ofList]
    exact ofRequestChars_toPathChars h.noSeparator hextension.noSeparator
      (by simpa using hextension.ne_empty) hextension.not_dot hextension.not_delimiter
      (by simpa using h.ne_empty) h.not_start h.not_blank h.not_here h.not_delimiter
  · have hpath : toPathChars name.toList "".toList = slashed (split name.toList) := rfl
    rw [ofRequest, toPath, String.toList_ofList, ← String.toList_inj, String.toList_ofList, hpath,
      ofRequestChars_slashed_split h.noSeparator h.not_start h.not_blank h.not_here,
      stripExtension_trimEnd_eq_self_iff]
    constructor
    · rintro ⟨hlast, hdot⟩
      exact ⟨hlast, fun part hpart => by rwa [← lastPart_iff.mp hpart]⟩
    · rintro ⟨hlast, hdot⟩
      exact ⟨hlast, hdot _ (lastPart_iff.mpr rfl)⟩

/-- A name with a dot, an empty segment, a segment that starts with a dot, and a colon inside one. -/
theorem stray_ofRequest_toPath :
    IsPathName "App.d::::.v:1" ∧ IsExtension "p m" ∧
      ofRequest (toPath "App.d::::.v:1" "p m") = "App.d::::.v:1" ∧
      ofRequest (toPath "App.d::::.v:1" "") = "App.d::::.v:1" := by
  have hname : IsPathName "App.d::::.v:1" := {
    not_blank := by rintro _ ⟨⟩; decide
    not_here := by decide
    not_delimiter := by decide
    ne_empty := by decide
    noSeparator := ⟨by decide, by decide⟩
    not_start := by decide }
  have hextension : IsExtension "p m" := {
    ne_empty := by decide
    noSeparator := ⟨by decide, by decide⟩
    not_dot := by decide
    not_delimiter := by decide }
  have hback := ofRequest_toPath hname
  refine ⟨hname, hextension, hback.1 _ hextension, hback.2.mpr ⟨by rintro _ ⟨⟩; decide, ?_⟩⟩
  intro part hpart
  rw [← lastPart_iff.mp hpart]
  decide

end ModuleSynthesis.Name
