import ModuleSynthesis.Proofs.Glob.Fit

/-!
# How globs are written

Tokens are told apart by where the stars of a segment stand, so some lists of pieces are no token of
their own: `["", ""]` would be written like `*`, and `["A", "", "B"]` has two stars side by side.
Apart from these, tokens and the texts of globs determine each other.

* `Token.splitStars_starred`, `Token.starred_splitStars`: pieces and a text with stars in it.
* `Token.IsProper`: a token that is read back from the way it is written.
* `Token.ofSegment_eq_ok_iff`: a segment denotes the proper token that is written so.
* `Token.parse_eq_ok_iff`: a text has the tokens with which it is written, if these are proper.
* `Glob.exists_compile_of_parse`: a text with tokens compiles, unless it is refused for its size.
* `Glob.exists_replaced`: a glob with other segments in the place of some of its own.
* `Glob.tokens_determine_text`: tokens and the texts of globs determine each other.
-/

namespace ModuleSynthesis

open Text

namespace Token

/-! ## Stars in a segment -/

theorem splitStars_eq_splitOn (text : List Char) : splitStars text = text.splitOn '*' := by
  induction text with
  | nil => rfl
  | cons c rest ih =>
    rw [splitStars, List.splitOn_cons_eq_if_modifyHead, ih]
    by_cases hc : c = '*'
    · simp [hc]
    · obtain ⟨piece, pieces, hs⟩ := List.exists_cons_of_ne_nil (List.splitOn_ne_nil '*' rest)
      simp [hc, hs]

theorem splitStars_ne_nil (text : List Char) : splitStars text ≠ [] := by
  rw [splitStars_eq_splitOn]
  exact List.splitOn_ne_nil '*' text

theorem starred_eq_intercalate (pieces : List String) :
    starred pieces = ['*'].intercalate (pieces.map String.toList) := by
  fun_induction starred pieces with
  | case1 => rfl
  | case2 piece => simp
  | case3 piece pieces hne ih =>
    rw [List.map_cons, List.intercalate_cons_of_ne_nil (by simpa using hne), ih]
    simp

/-- A text is its pieces with the stars put back. -/
theorem starred_splitStars (text : List Char) :
    starred ((splitStars text).map String.ofList) = text := by
  rw [starred_eq_intercalate, List.map_map, splitStars_eq_splitOn]
  simp [Function.comp_def, List.intercalate_splitOn]

/-- Pieces without stars are found again. -/
theorem splitStars_starred {pieces : List String} (hne : pieces ≠ [])
    (hstar : ∀ piece ∈ pieces, '*' ∉ piece.toList) :
    splitStars (starred pieces) = pieces.map String.toList := by
  rw [starred_eq_intercalate, splitStars_eq_splitOn, List.splitOn_intercalate '*']
  · simpa using hstar
  · simpa using hne

theorem colon_not_mem_starred {pieces : List String} (h : ∀ piece ∈ pieces, ':' ∉ piece.toList) :
    ':' ∉ starred pieces := by
  fun_induction starred pieces with
  | case1 => exact List.not_mem_nil
  | case2 piece => exact h piece List.mem_cons_self
  | case3 piece pieces _ ih =>
    have hpiece := h piece List.mem_cons_self
    have hrest := ih fun p hp => h p (List.mem_cons_of_mem _ hp)
    simp [hpiece, hrest]

theorem mem_starred_of_mem {pieces : List String} {piece : String} (h : piece ∈ pieces) {c : Char}
    (hc : c ∈ piece.toList) : c ∈ starred pieces := by
  fun_induction starred pieces with
  | case1 => cases h
  | case2 first => rwa [← List.mem_singleton.mp h]
  | case3 first pieces _ ih =>
    rw [List.mem_append, List.mem_cons]
    rcases List.mem_cons.mp h with rfl | h
    · exact .inl hc
    · exact .inr (.inr (ih h))

theorem star_mem_starred {pieces : List String} (h : 2 ≤ pieces.length) : '*' ∈ starred pieces := by
  fun_cases starred pieces with
  | case1 => simp at h
  | case2 piece => simp at h
  | case3 piece pieces => simp

/-- The characters of the pieces are in the text. -/
theorem mem_of_mem_splitStars {text piece : List Char} (h : piece ∈ splitStars text) {c : Char}
    (hc : c ∈ piece) : c ∈ text := by
  rw [← starred_splitStars text]
  exact mem_starred_of_mem (List.mem_map_of_mem h) (by simpa using hc)

theorem splitStars_cons {c : Char} {text piece : List Char} {pieces : List (List Char)}
    (hc : c ≠ '*') (h : splitStars text = piece :: pieces) :
    splitStars (c :: text) = (c :: piece) :: pieces := by
  rw [splitStars, if_neg hc, h]

theorem star_not_mem_of_mem_splitStars {text piece : List Char} (h : piece ∈ splitStars text) :
    '*' ∉ piece := by
  induction text generalizing piece with
  | nil => simp_all [splitStars]
  | cons c rest ih =>
    by_cases hc : c = '*'
    · rw [splitStars, if_pos hc] at h
      rcases List.mem_cons.mp h with rfl | h
      · exact List.not_mem_nil
      · exact ih h
    · obtain ⟨first, pieces, hs⟩ := List.exists_cons_of_ne_nil (splitStars_ne_nil rest)
      rw [splitStars_cons hc hs] at h
      rw [hs] at ih
      rcases List.mem_cons.mp h with rfl | h
      · rw [List.mem_cons, not_or]
        exact ⟨Ne.symm hc, ih List.mem_cons_self⟩
      · exact ih (List.mem_cons_of_mem _ h)

theorem hasDoubleStar_iff_isInfix (text : List Char) :
    hasDoubleStar text ↔ ['*', '*'] <:+: text := by
  fun_induction hasDoubleStar text with
  | case1 rest => exact ⟨fun _ => (List.prefix_append ['*', '*'] rest).isInfix, fun _ => rfl⟩
  | case2 c rest hnext ih =>
    rw [ih, List.infix_cons_iff, or_iff_right]
    rintro ⟨later, he⟩
    cases he
    exact hnext later rfl rfl
  | case3 => simp

/-- Two stars side by side have an empty piece between them. -/
theorem hasDoubleStar_iff_mem_splitStars (text : List Char) :
    hasDoubleStar text ↔ [] ∈ (splitStars text).tail.dropLast := by
  fun_induction hasDoubleStar text with
  | case1 rest =>
    simp [splitStars, List.dropLast_cons_of_ne_nil (splitStars_ne_nil rest)]
  | case2 c rest hnext ih =>
    obtain ⟨piece, pieces, hs⟩ := List.exists_cons_of_ne_nil (splitStars_ne_nil rest)
    rw [ih, hs, List.tail_cons]
    by_cases hc : c = '*'
    · rw [splitStars, if_pos hc, List.tail_cons, hs]
      -- The piece behind the star is empty only at the end of the text.
      cases rest with
      | nil => cases hs; rfl
      | cons d rest =>
        have hd : d ≠ '*' := fun hd => hnext rest hc (by rw [hd])
        obtain ⟨first, later, hs'⟩ := List.exists_cons_of_ne_nil (splitStars_ne_nil rest)
        obtain ⟨rfl, rfl⟩ := List.cons.inj ((splitStars_cons hd hs').symm.trans hs)
        cases later <;> simp
    · rw [splitStars_cons hc hs, List.tail_cons]
  | case3 => simp [splitStars]

/-! ## Proper tokens -/

/-- Pieces that are told from other tokens when they are written with stars between neighbours: no
two stars stand side by side, and there is more than a star. -/
structure ProperPieces (pieces : List String) : Prop where
  two_le_length : 2 ≤ pieces.length
  colon_not_mem : ∀ piece ∈ pieces, ':' ∉ piece.toList
  star_not_mem : ∀ piece ∈ pieces, '*' ∉ piece.toList
  empty_not_mem_inner : "" ∉ pieces.tail.dropLast
  exists_ne_empty : ∃ piece ∈ pieces, piece ≠ ""

/-- A token that is read back from the way it is written. -/
def IsProper : Token → Prop
  | .literal text => text ≠ "" ∧ ':' ∉ text.toList ∧ '*' ∉ text.toList
  | .one | .many => True
  | .pieced pieces => ProperPieces pieces

theorem ProperPieces.ne_nil {pieces : List String} (h : ProperPieces pieces) : pieces ≠ [] :=
  List.ne_nil_of_length_pos (Nat.lt_of_lt_of_le Nat.two_pos h.two_le_length)

theorem ProperPieces.splitStars_starred {pieces : List String} (h : ProperPieces pieces) :
    splitStars (starred pieces) = pieces.map String.toList :=
  Token.splitStars_starred h.ne_nil h.star_not_mem

theorem ProperPieces.not_hasDoubleStar {pieces : List String} (h : ProperPieces pieces) :
    ¬ hasDoubleStar (starred pieces) := by
  rw [hasDoubleStar_iff_mem_splitStars, h.splitStars_starred, ← List.map_tail, ← List.map_dropLast]
  intro hm
  obtain ⟨piece, hp, he⟩ := List.mem_map.mp hm
  obtain rfl : piece = "" := by simpa using he
  exact h.empty_not_mem_inner hp

/-- More than a star is written. -/
theorem ProperPieces.starred_ne_star {pieces : List String} (h : ProperPieces pieces) :
    starred pieces ≠ ['*'] := by
  intro he
  obtain ⟨piece, hp, hne⟩ := h.exists_ne_empty
  obtain ⟨c, rest, hc⟩ := List.exists_cons_of_ne_nil (mt String.toList_eq_nil_iff.mp hne)
  have hmem : c ∈ piece.toList := hc ▸ List.mem_cons_self
  obtain rfl : c = '*' := by simpa [he] using mem_starred_of_mem hp hmem
  exact h.star_not_mem piece hp hmem

theorem IsProper.colon_not_mem_chars {token : Token} (h : token.IsProper) : ':' ∉ token.chars := by
  cases token with
  | literal text => exact h.2.1
  | one | many => decide
  | pieced pieces => exact colon_not_mem_starred (ProperPieces.colon_not_mem h)

theorem IsProper.chars_ne_nil {token : Token} (h : token.IsProper) : token.chars ≠ [] := by
  cases token with
  | literal text => simpa [chars] using h.1
  | one | many => exact List.cons_ne_nil _ _
  | pieced pieces => exact List.ne_nil_of_mem (star_mem_starred (ProperPieces.two_le_length h))

theorem IsProper.isPlain {token : Token} (h : token.IsProper) : token.IsPlain := by
  cases token with
  | literal text => exact h.2.1
  | one | many => trivial
  | pieced pieces =>
    have h : ProperPieces pieces := h
    exact ⟨h.ne_nil, h.colon_not_mem⟩

/-! ## Segments and their tokens -/

/-- A star makes at least two pieces. -/
theorem exists_splitStars_eq_of_mem {segment : List Char} (h : '*' ∈ segment) :
    ∃ first second rest, splitStars segment = first :: second :: rest := by
  obtain ⟨first, rest, hs⟩ := List.exists_cons_of_ne_nil (splitStars_ne_nil segment)
  cases rest with
  | cons second rest => exact ⟨first, second, rest, hs⟩
  | nil =>
    have hsegment := starred_splitStars segment
    rw [hs, List.map_singleton, starred, String.toList_ofList] at hsegment
    have hfirst : first ∈ splitStars segment := hs ▸ List.mem_cons_self
    exact absurd (hsegment ▸ h) (star_not_mem_of_mem_splitStars hfirst)

/-- The pieces of a segment in which there is a star but no `**`, and which is not just `*`. -/
theorem properPieces_splitStars {segment : List Char} (hone : segment ≠ ['*'])
    (hdouble : ¬ hasDoubleStar segment) (hcolon : ':' ∉ segment) (hstar : '*' ∈ segment) :
    ProperPieces ((splitStars segment).map String.ofList) := by
  obtain ⟨first, second, rest, hs⟩ := exists_splitStars_eq_of_mem hstar
  have hinner : [] ∉ (second :: rest).dropLast := by
    rwa [hasDoubleStar_iff_mem_splitStars, hs] at hdouble
  refine ⟨by simp [hs], fun piece hp => ?_, fun piece hp => ?_, ?_, ?_⟩
  · obtain ⟨chars, hm, rfl⟩ := List.mem_map.mp hp
    rw [String.toList_ofList]
    exact fun hc => hcolon (mem_of_mem_splitStars hm hc)
  · obtain ⟨chars, hm, rfl⟩ := List.mem_map.mp hp
    rw [String.toList_ofList]
    exact star_not_mem_of_mem_splitStars hm
  · rw [hs, ← List.map_tail, ← List.map_dropLast]
    intro hm
    obtain ⟨chars, hchars, he⟩ := List.mem_map.mp hm
    obtain rfl : chars = [] := by simpa using he
    exact hinner hchars
  · -- Two empty pieces are written `*`, and of more of them one is between two others.
    by_contra hempty
    have hall : ∀ chars ∈ splitStars segment, chars = [] := by simpa using hempty
    rw [hs] at hall
    cases rest with
    | nil =>
      refine hone ?_
      rw [← starred_splitStars segment, hs, hall first (by simp), hall second (by simp)]
      rfl
    | cons third rest => exact hinner (by simp [hall second])

/-- A segment denotes the proper token that is written so. -/
theorem ofSegment_eq_ok_iff {segment : List Char} (hne : segment ≠ []) {token : Token} :
    ofSegment segment = .ok token ↔ token.IsProper ∧ token.chars = segment := by
  constructor
  · intro h
    unfold ofSegment at h
    split at h
    · next he => cases h; exact ⟨trivial, he.symm⟩
    split at h
    · next he => cases h; exact ⟨trivial, he.symm⟩
    split at h
    · cases h
    split at h
    · cases h
    next hone _ hdouble hcolon =>
      split at h
      · next hstar =>
        cases h
        exact ⟨properPieces_splitStars hone hdouble hcolon hstar, starred_splitStars segment⟩
      · next hstar =>
        cases h
        refine ⟨⟨by simpa using hne, ?_, ?_⟩, String.toList_ofList⟩
        · rwa [String.toList_ofList]
        · rwa [String.toList_ofList]
  · rintro ⟨h, rfl⟩
    cases token with
    | one | many => rfl
    | literal text =>
      obtain ⟨-, hcolon, hstar⟩ := h
      have hdouble : ¬ hasDoubleStar text.toList := by
        rw [hasDoubleStar_iff_isInfix]
        exact fun hin => hstar (hin.subset List.mem_cons_self)
      have hone : text.toList ≠ ['*'] := fun he => by simp [he] at hstar
      have hmany : text.toList ≠ ['*', '*'] := fun he => by simp [he] at hstar
      rw [chars, ofSegment, if_neg hone, if_neg hmany, if_neg hdouble, if_neg hcolon, if_neg hstar,
        String.ofList_toList]
    | pieced pieces =>
      have h : ProperPieces pieces := h
      have hmany : starred pieces ≠ ['*', '*'] := fun he => by
        have := h.not_hasDoubleStar
        rw [he] at this
        exact this rfl
      rw [chars, ofSegment, if_neg h.starred_ne_star, if_neg hmany, if_neg h.not_hasDoubleStar,
        if_neg (colon_not_mem_starred h.colon_not_mem), if_pos (star_mem_starred h.two_le_length),
        h.splitStars_starred]
      simp [Function.comp_def]

/-- Proper tokens are told apart by the way they are written. -/
theorem IsProper.chars_inj {token other : Token} (h : token.IsProper) (h' : other.IsProper)
    (he : token.chars = other.chars) : token = other := by
  have htoken := (ofSegment_eq_ok_iff h.chars_ne_nil).mpr ⟨h, rfl⟩
  have hother := (ofSegment_eq_ok_iff h.chars_ne_nil).mpr ⟨h', he.symm⟩
  exact Except.ok.inj (htoken.symm.trans hother)

theorem ofSegments_eq_ok_iff {glob : String} {position : Nat} {segments : List (List Char)}
    {tokens : List Token} :
    ofSegments glob position segments = .ok tokens ↔
      (∀ token ∈ tokens, token.IsProper) ∧ tokens.map chars = segments := by
  induction segments generalizing position tokens with
  | nil =>
    rw [ofSegments, List.map_eq_nil_iff]
    constructor
    · rintro ⟨⟩
      simp
    · rintro ⟨-, rfl⟩
      rfl
  | cons segment segments ih =>
    rw [ofSegments]
    constructor
    · intro h
      split at h
      · cases h
      next hne =>
        split at h
        · cases h
        next token htoken =>
          split at h
          · cases h
          next later hlater =>
            cases h
            obtain ⟨hproper, rfl⟩ := (ofSegment_eq_ok_iff hne).mp htoken
            obtain ⟨hall, rfl⟩ := ih.mp hlater
            exact ⟨List.forall_mem_cons.mpr ⟨hproper, hall⟩, rfl⟩
    · rintro ⟨hall, hs⟩
      obtain ⟨token, later, rfl, rfl, rfl⟩ := List.map_eq_cons_iff.mp hs
      obtain ⟨hproper, hall⟩ := List.forall_mem_cons.mp hall
      have hne := hproper.chars_ne_nil
      rw [if_neg hne, (ofSegment_eq_ok_iff hne).mpr ⟨hproper, rfl⟩, ih.mpr ⟨hall, rfl⟩]

/-! ## Texts and their tokens -/

theorem split_textOf {tokens : List Token} (hne : tokens ≠ [])
    (h : ∀ token ∈ tokens, token.IsProper) : split (textOf tokens).toList = tokens.map chars := by
  rw [textOf, String.toList_ofList, split_join (by simpa using hne)]
  simpa using fun token ht => (h token ht).colon_not_mem_chars

/-- A text has the tokens with which it is written, if these are proper. -/
theorem parse_eq_ok_iff {text : String} {tokens : List Token} :
    parse text = .ok tokens ↔
      tokens ≠ [] ∧ (∀ token ∈ tokens, token.IsProper) ∧ textOf tokens = text := by
  constructor
  · intro h
    rw [parse] at h
    split at h
    · cases h
    · obtain ⟨hproper, hs⟩ := ofSegments_eq_ok_iff.mp h
      refine ⟨?_, hproper, by rw [textOf, hs, join_split, String.ofList_toList]⟩
      rintro rfl
      exact split_ne_nil _ hs.symm
  · rintro ⟨hne, hproper, rfl⟩
    have hsplit := split_textOf hne hproper
    have htext : textOf tokens ≠ "" := by
      intro he
      rw [he] at hsplit
      obtain ⟨token, rfl, hchars⟩ := List.map_eq_singleton_iff.mp hsplit.symm
      exact (hproper token List.mem_cons_self).chars_ne_nil hchars
    rw [parse, if_neg htext, hsplit, ofSegments_eq_ok_iff]
    exact ⟨hproper, rfl⟩

end Token

namespace Glob

/-! ## Globs and their tokens -/

theorem textOf_tokens (glob : Glob) : Token.textOf glob.tokens = glob.text :=
  (Token.parse_eq_ok_iff.mp glob.parse_text).2.2

theorem isProper_tokens (glob : Glob) : ∀ token ∈ glob.tokens, token.IsProper :=
  (Token.parse_eq_ok_iff.mp glob.parse_text).2.1

/-- The segments of a glob are its tokens, written one by one. -/
theorem split_text (glob : Glob) : split glob.text.toList = glob.tokens.map Token.chars := by
  obtain ⟨hne, hproper, htext⟩ := Token.parse_eq_ok_iff.mp glob.parse_text
  rw [← htext, Token.split_textOf hne hproper]

theorem compile_of_parse_error {text : String} {error : GlobError}
    (h : Token.parse text = .error error) : compile text = .error error := by
  unfold compile
  split
  · next found hfound => rw [← Except.error.inj (hfound.symm.trans h)]
  · next tokens hfound => cases hfound.symm.trans h

/-- A text with tokens compiles to a glob of these tokens, unless it is refused for its size. -/
theorem exists_compile_of_parse {text : String} {tokens : List Token}
    (h : Token.parse text = .ok tokens) (hsize : compile text ≠ .error (.tooLarge text)) :
    ∃ glob, compile text = .ok glob ∧ glob.tokens = tokens := by
  unfold compile at hsize ⊢
  split at hsize
  · next error hfound => cases hfound.symm.trans h
  · next found hfound =>
    cases hfound.symm.trans h
    split at hsize
    · next hle => simp [hle]
    · exact absurd rfl hsize

theorem compile_text_ne_tooLarge (glob : Glob) :
    compile glob.text ≠ .error (.tooLarge glob.text) := by
  simp [compile_text]

/-- The text with given segments. -/
def textWith (segments : List (List Char)) : String :=
  String.ofList (join segments)

/-- A block of the segments of a glob is a block of its tokens. Where others are written in its
place, the text compiles to a glob with these tokens instead, unless it is refused for its size. -/
theorem exists_replaced (glob : Glob) {front block back : List (List Char)}
    (h : split glob.text.toList = front ++ block ++ back) :
    ∃ before inside after, glob.tokens = before ++ inside ++ after ∧
      before.length = front.length ∧ inside.map Token.chars = block ∧
      ∀ others : List Token, others ≠ [] → (∀ token ∈ others, token.IsProper) →
        ∀ text, text = textWith (front ++ others.map Token.chars ++ back) →
          compile text ≠ .error (.tooLarge text) →
          ∃ replaced, compile text = .ok replaced ∧
            replaced.tokens = before ++ others ++ after := by
  rw [split_text] at h
  obtain ⟨left, after, htokens, hleft, rfl⟩ := List.map_eq_append_iff.mp h
  obtain ⟨before, inside, rfl, rfl, rfl⟩ := List.map_eq_append_iff.mp hleft
  refine ⟨before, inside, after, htokens, by simp, rfl, ?_⟩
  intro others hne hproper text htext hsize
  have hall : ∀ token ∈ before ++ others ++ after, token.IsProper := by
    have hglob := glob.isProper_tokens
    simp only [htokens, List.mem_append] at hglob
    simp only [List.mem_append]
    rintro token ((hbefore | hothers) | hafter)
    · exact hglob token (.inl (.inl hbefore))
    · exact hproper token hothers
    · exact hglob token (.inr hafter)
  have hparse : Token.parse text = .ok (before ++ others ++ after) := by
    refine Token.parse_eq_ok_iff.mpr ⟨by simp [hne], hall, ?_⟩
    rw [htext, textWith, Token.textOf, List.map_append, List.map_append]
  exact exists_compile_of_parse hparse hsize

theorem beq_iff_text_eq (a b : Glob) : a == b ↔ a.text = b.text := by
  rw [beq_iff_eq]
  exact ⟨congrArg text, ext_text⟩

/-- The tokens of a glob, written with delimiters between neighbours, give its text back; every list
of proper tokens is what the text written with it is read as; and so two globs are equal, which is
decided by their texts, exactly if their tokens are. -/
theorem tokens_determine_text :
    (∀ text glob, compile text = .ok glob →
      (∀ token ∈ glob.tokens, token.IsProper) ∧ Token.textOf glob.tokens = text) ∧
    (∀ tokens : List Token, tokens ≠ [] → (∀ token ∈ tokens, token.IsProper) →
      Token.parse (Token.textOf tokens) = .ok tokens) ∧
    ∀ a b : Glob, (a == b ↔ a.text = b.text) ∧ (a == b ↔ a.tokens = b.tokens) := by
  refine ⟨fun text glob h => ?_, fun tokens hne hproper => ?_, fun a b => ?_⟩
  · rw [← text_of_compile h]
    exact ⟨glob.isProper_tokens, glob.textOf_tokens⟩
  · exact Token.parse_eq_ok_iff.mpr ⟨hne, hproper, rfl⟩
  · refine ⟨beq_iff_text_eq a b, beq_iff_eq.trans ⟨congrArg tokens, fun h => ext_text ?_⟩⟩
    rw [← a.textOf_tokens, ← b.textOf_tokens, h]

/-- Tokens of each kind, the first of which has stars at both ends. -/
def eachKind : List Token := [.pieced ["", "App", ""], .many, .literal "Page", .one]

theorem eachKind_determined :
    eachKind ≠ [] ∧ (∀ token ∈ eachKind, token.IsProper) ∧
      Token.parse (Token.textOf eachKind) = .ok eachKind :=
  have hne : eachKind ≠ [] := List.cons_ne_nil _ _
  have hproper : ∀ token ∈ eachKind, token.IsProper := by
    intro token hm
    simp only [eachKind, List.mem_cons, List.not_mem_nil, or_false] at hm
    rcases hm with rfl | rfl | rfl | rfl
    · exact Token.ProperPieces.mk (by decide) (by decide) (by decide) (by decide) (by decide)
    · trivial
    · exact ⟨by decide, by decide, by decide⟩
    · trivial
  ⟨hne, hproper, tokens_determine_text.2.1 eachKind hne hproper⟩

example : Token.textOf eachKind = "*App*::**::Page::*" := by decide

end Glob

end ModuleSynthesis
