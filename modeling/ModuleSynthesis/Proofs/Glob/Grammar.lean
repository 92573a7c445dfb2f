import ModuleSynthesis.Proofs.Glob.Spelling

/-!
# Which texts are globs

A glob is a join of segments that are good by themselves. A text with more than two colons side by
side can be taken apart in several ways, but it is cut from the left, and then a colon too many is
found at the start of a segment.

* `Token.IsSegment`, `Token.SegmentError`: a segment of a glob, and what is wrong with any other.
* `Token.ofSegments_eq_error_iff`: the first segment with which something is wrong is reported.
* `Glob.IsGrammatical`, `Glob.FaultOf`: the grammar of globs, and what is reported of other texts.
* `Glob.compile_grammar`: a text compiles if it is in the grammar, and is reported otherwise.
* `Glob.compile_eq_tooLarge_iff`: which texts are refused for their size.
-/

namespace ModuleSynthesis

open Text

namespace Token

/-! ## One segment -/

/-- A segment that a glob may have: it is not empty, it has no colon, and there are two stars side
by side in it only if it is `**`. -/
structure IsSegment (segment : List Char) : Prop where
  ne_nil : segment ≠ []
  colon_not_mem : ':' ∉ segment
  stars : segment = ['*', '*'] ∨ ¬ ['*', '*'] <:+: segment

/-- What is reported of a segment at a position of a glob. Stars come before colons. -/
inductive SegmentError (glob : String) (position : Nat) : List Char → GlobError → Prop
  | empty : SegmentError glob position [] (.emptySegment glob position)
  | doubleStar {segment : List Char} : ['*', '*'] <:+: segment → segment ≠ ['*', '*'] →
      SegmentError glob position segment
        (.invalidSegment glob (String.ofList segment) .doubleStar)
  | strayColon {segment : List Char} : ¬ ['*', '*'] <:+: segment → ':' ∈ segment →
      SegmentError glob position segment
        (.invalidSegment glob (String.ofList segment) .strayColon)

variable {glob : String} {position : Nat} {segment : List Char} {segments : List (List Char)}
  {error : GlobError}

theorem SegmentError.not_isSegment (h : SegmentError glob position segment error) :
    ¬ IsSegment segment := by
  intro hs
  cases h with
  | empty => exact hs.ne_nil rfl
  | doubleStar hin hne => exact hs.stars.elim hne (absurd hin)
  | strayColon _ hcolon => exact hs.colon_not_mem hcolon

/-- A segment is good, or something is reported of it. -/
theorem isSegment_or_segmentError (glob : String) (position : Nat) (segment : List Char) :
    IsSegment segment ∨ ∃ error, SegmentError glob position segment error := by
  by_cases hne : segment = []
  · subst hne
    exact .inr ⟨_, .empty⟩
  by_cases hmany : segment = ['*', '*']
  · subst hmany
    exact .inl ⟨hne, by decide, .inl rfl⟩
  by_cases hin : ['*', '*'] <:+: segment
  · exact .inr ⟨_, .doubleStar hin hmany⟩
  by_cases hcolon : ':' ∈ segment
  · exact .inr ⟨_, .strayColon hin hcolon⟩
  · exact .inl ⟨hne, hcolon, .inr hin⟩

/-- Behind a good segment the others are looked at. -/
theorem ofSegments_cons_of_isSegment (h : IsSegment segment) (glob : String) (position : Nat)
    (segments : List (List Char)) : ∃ token, ofSegments glob position (segment :: segments) =
      (ofSegments glob (position + 1) segments).map (token :: ·) := by
  suffices htoken : ∃ token, ofSegment segment = .ok token by
    obtain ⟨token, htoken⟩ := htoken
    refine ⟨token, ?_⟩
    rw [ofSegments, if_neg h.ne_nil, htoken]
    cases ofSegments glob (position + 1) segments <;> rfl
  unfold ofSegment
  split
  · exact ⟨_, rfl⟩
  split
  · exact ⟨_, rfl⟩
  next hmany =>
    rw [if_neg (by rw [hasDoubleStar_iff_isInfix]; exact h.stars.resolve_left hmany),
      if_neg h.colon_not_mem]
    split <;> exact ⟨_, rfl⟩

theorem ofSegments_cons_of_segmentError (h : SegmentError glob position segment error)
    (segments : List (List Char)) :
    ofSegments glob position (segment :: segments) = .error error := by
  rw [ofSegments]
  cases h with
  | empty => rw [if_pos rfl]
  | doubleStar hin hmany =>
    have hne : segment ≠ [] := by rintro rfl; simp at hin
    have hone : segment ≠ ['*'] := by rintro rfl; exact absurd hin (by decide)
    rw [if_neg hne, ofSegment, if_neg hone, if_neg hmany,
      if_pos ((hasDoubleStar_iff_isInfix segment).mpr hin)]
  | strayColon hin hcolon =>
    have hne : segment ≠ [] := List.ne_nil_of_mem hcolon
    have hone : segment ≠ ['*'] := by rintro rfl; exact absurd hcolon (by decide)
    have hmany : segment ≠ ['*', '*'] := by rintro rfl; exact absurd hcolon (by decide)
    rw [if_neg hne, ofSegment, if_neg hone, if_neg hmany,
      if_neg (by rwa [hasDoubleStar_iff_isInfix]), if_pos hcolon]

/-! ## The first segment that is no good -/

theorem exists_ofSegments_iff :
    (∃ tokens, ofSegments glob position segments = .ok tokens) ↔
      ∀ segment ∈ segments, IsSegment segment := by
  induction segments generalizing position with
  | nil => simp [ofSegments]
  | cons segment segments ih =>
    rw [List.forall_mem_cons]
    rcases isSegment_or_segmentError glob position segment with h | ⟨error, h⟩
    · obtain ⟨token, hcons⟩ := ofSegments_cons_of_isSegment h glob position segments
      rw [hcons, and_iff_right h, ← @ih (position + 1)]
      cases ofSegments glob (position + 1) segments <;> simp [Except.map]
    · rw [ofSegments_cons_of_segmentError h]
      simp [h.not_isSegment]

/-- The first segment with which something is wrong is reported, with its position. -/
theorem ofSegments_eq_error_iff :
    ofSegments glob position segments = .error error ↔
      ∃ earlier segment later, segments = earlier ++ segment :: later ∧
        (∀ s ∈ earlier, IsSegment s) ∧
        SegmentError glob (position + earlier.length) segment error := by
  induction segments generalizing position with
  | nil => simp [ofSegments]
  | cons first segments ih =>
    simp only [List.cons_eq_append_iff]
    rcases isSegment_or_segmentError glob position first with hfirst | ⟨found, hfound⟩
    · obtain ⟨token, hcons⟩ := ofSegments_cons_of_isSegment hfirst glob position segments
      have hmap : ofSegments glob position (first :: segments) = .error error ↔
          ofSegments glob (position + 1) segments = .error error := by
        rw [hcons]
        cases ofSegments glob (position + 1) segments <;> simp [Except.map]
      have hshift : ∀ n, position + 1 + n = position + (n + 1) := fun n => by omega
      rw [hmap, ih]
      constructor
      · rintro ⟨earlier, segment, later, rfl, hearlier, herror⟩
        refine ⟨first :: earlier, segment, later, .inr ⟨earlier, rfl, rfl⟩, ?_, ?_⟩
        · exact List.forall_mem_cons.mpr ⟨hfirst, hearlier⟩
        · rwa [List.length_cons, ← hshift]
      · rintro ⟨_, segment, later, ⟨rfl, hs⟩ | ⟨earlier, rfl, rfl⟩, hearlier, herror⟩
        · cases hs
          exact absurd hfirst herror.not_isSegment
        · rw [List.length_cons, ← hshift] at herror
          exact ⟨earlier, segment, later, rfl, (List.forall_mem_cons.mp hearlier).2, herror⟩
    · rw [ofSegments_cons_of_segmentError hfound]
      constructor
      · rintro ⟨⟩
        exact ⟨[], first, segments, .inl ⟨rfl, rfl⟩, by simp, hfound⟩
      · rintro ⟨_, segment, later, ⟨rfl, hs⟩ | ⟨earlier, rfl, rfl⟩, hearlier, herror⟩
        · cases hs
          rw [← ofSegments_cons_of_segmentError hfound segments]
          exact ofSegments_cons_of_segmentError herror segments
        · exact absurd (hearlier _ List.mem_cons_self) hfound.not_isSegment

end Token

namespace Glob

open Token

/-! ## Texts -/

/-- A text is a join of one or more segments that are good by themselves. -/
def IsGrammatical (text : String) : Prop :=
  ∃ segments, segments ≠ [] ∧ (∀ segment ∈ segments, IsSegment segment) ∧
    text = textWith segments

/-- What is reported of a text: that it is empty, or what is wrong with the first of its segments
that is no good, where the text is cut from the left. -/
inductive FaultOf (text : String) : GlobError → Prop
  | empty : text = "" → FaultOf text .empty
  | segment {earlier later : List (List Char)} {segment : List Char} {error : GlobError} :
      text ≠ "" → Cut text.toList (earlier ++ segment :: later) →
      (∀ s ∈ earlier, IsSegment s) → SegmentError text earlier.length segment error →
      FaultOf text error

variable {text : String} {error : GlobError}

/-- If a text is a join of good segments, these are what it is cut into. -/
theorem isGrammatical_iff :
    IsGrammatical text ↔ text ≠ "" ∧ ∀ segment ∈ split text.toList, IsSegment segment := by
  constructor
  · rintro ⟨segments, hne, hgood, rfl⟩
    have hjoin : join segments ≠ [] := fun he =>
      hne ((join_eq_nil_iff fun s hs => (hgood s hs).ne_nil).mp he)
    rw [textWith, String.toList_ofList, split_join hne fun s hs => (hgood s hs).colon_not_mem]
    exact ⟨by simpa using hjoin, hgood⟩
  · rintro ⟨-, hgood⟩
    refine ⟨split text.toList, split_ne_nil _, hgood, ?_⟩
    rw [textWith, join_split, String.ofList_toList]

theorem exists_parse_iff : (∃ tokens, Token.parse text = .ok tokens) ↔ IsGrammatical text := by
  rw [isGrammatical_iff, Token.parse]
  split
  · next he => simp [he]
  · next hne => rw [and_iff_right hne, exists_ofSegments_iff]

theorem parse_eq_error_iff : Token.parse text = .error error ↔ FaultOf text error := by
  rw [Token.parse]
  split
  · next he =>
    constructor
    · rintro ⟨⟩
      exact .empty he
    · intro h
      cases h with
      | empty => rfl
      | segment hne => exact absurd he hne
  · next hne =>
    rw [ofSegments_eq_error_iff]
    constructor
    · rintro ⟨earlier, segment, later, hs, hearlier, herror⟩
      rw [Nat.zero_add] at herror
      exact .segment hne (cut_iff.mpr hs) hearlier herror
    · intro h
      cases h with
      | empty he => exact absurd he hne
      | segment _ hcut hearlier herror =>
        rw [← Nat.zero_add (List.length _)] at herror
        exact ⟨_, _, _, cut_iff.mp hcut, hearlier, herror⟩

/-- A text is refused for its size exactly if it has tokens, and their wildcards alone make its
program too large. -/
theorem compile_eq_tooLarge_iff (text : String) :
    compile text = .error (.tooLarge text) ↔ ∃ tokens, Token.parse text = .ok tokens ∧
      programLimit < Token.wildcardsOf tokens * wildcardBytes := by
  have hlimit (tokens : List Token) : wildcardLimit < Token.wildcardsOf tokens ↔
      programLimit < Token.wildcardsOf tokens * wildcardBytes :=
    Nat.div_lt_iff_lt_mul (by decide)
  cases hparse : Token.parse text with
  | error found =>
    have hfault : FaultOf text found := parse_eq_error_iff.mp hparse
    rw [compile_of_parse_error hparse]
    constructor
    · intro herror
      cases Except.error.inj herror
      cases hfault with
      | segment _ _ _ herror => cases herror
    · rintro ⟨tokens, htokens, -⟩
      cases htokens
  | ok tokens =>
    simp only [Except.ok.injEq, exists_eq_left', ← hlimit]
    unfold compile
    split
    · next found hfound => cases hfound.symm.trans hparse
    · next found hfound =>
      cases hfound.symm.trans hparse
      split
      · next hle => simp [hle]
      · next hlt => simpa using hlt

/-- A text that is not refused for its size compiles exactly if it is a join of good segments, and
otherwise the error is what is wrong with the first segment, from the left, that is no good. -/
theorem compile_grammar (text : String) (hsize : compile text ≠ .error (.tooLarge text)) :
    ((∃ glob, compile text = .ok glob) ↔ IsGrammatical text) ∧
      ∀ error, compile text = .error error ↔ FaultOf text error := by
  rw [← exists_parse_iff]
  simp only [← parse_eq_error_iff]
  cases hparse : Token.parse text with
  | ok tokens =>
    obtain ⟨glob, hglob, -⟩ := exists_compile_of_parse hparse hsize
    simp [hglob]
  | error found =>
    simp [compile_of_parse_error hparse]

/-- A text with a colon too many, two stars in a longer segment, and an empty segment at its end. -/
theorem faulty_compile_grammar :
    compile "App:::**x::" ≠ .error (.tooLarge "App:::**x::") ∧
      ((∃ glob, compile "App:::**x::" = .ok glob) ↔ IsGrammatical "App:::**x::") ∧
      ∀ error, compile "App:::**x::" = .error error ↔ FaultOf "App:::**x::" error :=
  have hparse : Token.parse "App:::**x::" =
      .error (.invalidSegment "App:::**x::" ":**x" .doubleStar) := by decide
  have hsize : compile "App:::**x::" ≠ .error (.tooLarge "App:::**x::") := by
    simp [compile_of_parse_error hparse]
  ⟨hsize, compile_grammar _ hsize⟩

end Glob

end ModuleSynthesis
