import ModuleSynthesis.Glob
import ModuleSynthesis.Proofs.Text.Delimited

/-!
# Fits, segment by segment

`Token.Fits` says which texts tokens stand for. The text of a name is its segments with a delimiter
in front of each, and a token takes whole segments of it, so a fit can be told in segments.

* `Token.IsPlain`: the texts of a token have no colon.
* `Token.TakesAll tokens runs segments`: the tokens take these segments, one token after the
  other, and their wildcards stand for these runs of segments.
* `Token.fits_delimited_iff`: plain tokens fit the text of a name as they take its segments.
* `Token.Fits.fillAll_eq`: the captures of a fit, put in for the wildcards, give the text back.
* `Glob.everyName`, `Glob.appTree`: two globs.
-/

namespace ModuleSynthesis

open Text

/-- Segments with a delimiter in front of each. -/
def delimitedAll (segments : List (List Char)) : List Char :=
  segments.flatMap (delimiter ++ ·)

@[simp]
theorem delimitedAll_singleton (segment : List Char) :
    delimitedAll [segment] = delimiter ++ segment := by
  simp [delimitedAll]

@[simp]
theorem delimitedAll_append (front back : List (List Char)) :
    delimitedAll (front ++ back) = delimitedAll front ++ delimitedAll back :=
  List.flatMap_append

theorem delimitedAll_eq {segments : List (List Char)} (h : segments ≠ []) :
    delimitedAll segments = delimiter ++ join segments := by
  induction segments with
  | nil => exact absurd rfl h
  | cons segment rest ih =>
    by_cases hr : rest = []
    · subst hr; exact delimitedAll_singleton segment
    · rw [← List.singleton_append, delimitedAll_append, ih hr, delimitedAll_singleton,
        List.singleton_append, join_cons _ hr]
      simp

/-- The text of a name is its segments with a delimiter in front of each. -/
theorem delimited_eq_delimitedAll (name : String) :
    delimited name.toList = delimitedAll (Glob.subject name) := by
  by_cases h : name = ""
  · subst h; rfl
  · rw [Glob.subject, if_neg h, delimitedAll_eq (split_ne_nil _), join_split, delimited,
      if_neg (by simpa using h)]

theorem interleaves_length {pieces : List String} {gaps : List (List Char)} {text : List Char}
    (h : Interleaves pieces gaps text) : gaps.length = pieces.length - 1 := by
  induction h with
  | last => rfl
  | more _ _ _ h ih => cases h <;> simp_all

theorem colon_not_mem_of_interleaves {pieces : List String} {gaps : List (List Char)}
    {text : List Char} (h : Interleaves pieces gaps text)
    (hp : ∀ piece ∈ pieces, ':' ∉ piece.toList) : ':' ∉ text := by
  induction h with
  | last => exact hp _ List.mem_cons_self
  | more piece gap hgap _ ih =>
    have hpiece := hp piece List.mem_cons_self
    have htext := ih fun p hm => hp p (List.mem_cons_of_mem _ hm)
    simp [hpiece, hgap, htext]

theorem isWhole_iff {segment : List Char} : isWhole segment ↔ segment ≠ [] ∧ ':' ∉ segment := by
  simp [isWhole]

theorem colon_not_mem_of_isWhole {segment : List Char} (h : isWhole segment) : ':' ∉ segment :=
  (isWhole_iff.mp h).2

theorem ne_nil_of_isWhole {segment : List Char} (h : isWhole segment) : segment ≠ [] :=
  (isWhole_iff.mp h).1

namespace Token

/-! ## Taking segments -/

/-- A token takes segments, and its wildcards stand for runs of segments. -/
inductive Takes : Token → List Run → List (List Char) → Prop
  | literal (text : String) : Takes (.literal text) [] [text.toList]
  | one {segment : List Char} : isWhole segment → Takes .one [[segment]] [segment]
  | many {run : Run} : (∀ segment ∈ run, isWhole segment) → Takes .many [run] run
  | pieced {pieces : List String} {gaps : List (List Char)} {segment : List Char} :
      Interleaves pieces gaps segment → Takes (.pieced pieces) (gaps.map ([·])) [segment]

/-- Tokens take segments, one token after the other. -/
inductive TakesAll : List Token → List Run → List (List Char) → Prop
  | nil : TakesAll [] [] []
  | cons {token : Token} {tokens : List Token} {runs later : List Run}
      {front back : List (List Char)} : Takes token runs front → TakesAll tokens later back →
      TakesAll (token :: tokens) (runs ++ later) (front ++ back)

theorem Takes.contributes {token : Token} {runs : List Run} {segments : List (List Char)}
    (h : Takes token runs segments) :
    Contributes token (runs.map join) (delimitedAll segments) := by
  cases h with
  | literal text => rw [delimitedAll_singleton]; exact .literal text
  | one h => rw [delimitedAll_singleton]; exact .one h
  | many h =>
    by_cases hr : segments = []
    · subst hr; exact .manyNone
    · rw [delimitedAll_eq hr]; exact .manySome hr h
  | pieced h =>
    rw [delimitedAll_singleton, List.map_map]
    simpa [Function.comp_def] using Contributes.pieced h

theorem Contributes.takes {token : Token} {captures : List (List Char)} {text : List Char}
    (h : Contributes token captures text) :
    ∃ runs segments, Takes token runs segments ∧ captures = runs.map join ∧
      text = delimitedAll segments := by
  cases h with
  | literal text => exact ⟨_, _, .literal text, rfl, by simp⟩
  | one h => exact ⟨_, _, .one h, rfl, by simp⟩
  | manyNone => exact ⟨[[]], [], .many (by simp), rfl, rfl⟩
  | manySome hr h => exact ⟨_, _, .many h, rfl, (delimitedAll_eq hr).symm⟩
  | pieced h => exact ⟨_, _, .pieced h, by simp [Function.comp_def], by simp⟩

theorem TakesAll.fits {tokens : List Token} {runs : List Run} {segments : List (List Char)}
    (h : TakesAll tokens runs segments) : Fits tokens (runs.map join) (delimitedAll segments) := by
  induction h with
  | nil => exact .nil
  | cons h _ ih =>
    rw [List.map_append, delimitedAll_append]
    exact .cons h.contributes ih

theorem Fits.takesAll {tokens : List Token} {captures : List (List Char)} {text : List Char}
    (h : Fits tokens captures text) :
    ∃ runs segments, TakesAll tokens runs segments ∧ captures = runs.map join ∧
      text = delimitedAll segments := by
  induction h with
  | nil => exact ⟨[], [], .nil, rfl, rfl⟩
  | cons h _ ih =>
    obtain ⟨runs, front, ht, rfl, rfl⟩ := h.takes
    obtain ⟨later, back, hts, rfl, rfl⟩ := ih
    exact ⟨_, _, .cons ht hts, (List.map_append ..).symm, (delimitedAll_append ..).symm⟩

/-! ## Plain tokens -/

/-- The texts of a token have no colon, and there are some where there have to be. -/
def IsPlain : Token → Prop
  | .literal text => ':' ∉ text.toList
  | .one | .many => True
  | .pieced pieces => pieces ≠ [] ∧ ∀ piece ∈ pieces, ':' ∉ piece.toList

theorem Takes.colon_not_mem {token : Token} {runs : List Run} {segments : List (List Char)}
    (h : Takes token runs segments) (hp : token.IsPlain) :
    ∀ segment ∈ segments, ':' ∉ segment := by
  cases h with
  | literal text => exact fun segment hm => List.mem_singleton.mp hm ▸ hp
  | one h => simpa using colon_not_mem_of_isWhole h
  | many h => exact fun segment hm => colon_not_mem_of_isWhole (h segment hm)
  | pieced h => simpa using colon_not_mem_of_interleaves h hp.2

theorem TakesAll.colon_not_mem {tokens : List Token} {runs : List Run}
    {segments : List (List Char)} (h : TakesAll tokens runs segments)
    (hp : ∀ token ∈ tokens, token.IsPlain) : ∀ segment ∈ segments, ':' ∉ segment := by
  induction h with
  | nil => simp
  | cons h _ ih =>
    intro segment hm
    rcases List.mem_append.mp hm with hf | hb
    · exact h.colon_not_mem (hp _ List.mem_cons_self) segment hf
    · exact ih (fun t ht => hp t (List.mem_cons_of_mem _ ht)) segment hb

/-- Plain tokens fit the text of a name as they take its segments. -/
theorem fits_delimited_iff {tokens : List Token} (hp : ∀ token ∈ tokens, token.IsPlain)
    (captures : List (List Char)) (name : String) :
    Fits tokens captures (delimited name.toList) ↔
      ∃ runs, TakesAll tokens runs (Glob.subject name) ∧ captures = runs.map join := by
  constructor
  · intro h
    obtain ⟨runs, segments, ht, hc, htext⟩ := h.takesAll
    refine ⟨runs, ?_, hc⟩
    suffices hs : Glob.subject name = segments by rw [hs]; exact ht
    rw [delimited] at htext
    by_cases hs : segments = []
    · -- No segment leaves no text, which only the empty name has.
      subst hs
      by_cases hn : name.toList = []
      · rw [Glob.subject, if_pos (by simpa using hn)]
      · rw [if_neg hn] at htext; simp [delimiter, delimitedAll] at htext
    · rw [delimitedAll_eq hs] at htext
      by_cases hn : name.toList = []
      · rw [if_pos hn] at htext; simp [delimiter] at htext
      · rw [if_neg hn, List.append_cancel_left_eq] at htext
        rw [Glob.subject, if_neg (by simpa using hn), htext, split_join hs (ht.colon_not_mem hp)]
  · rintro ⟨runs, ht, rfl⟩
    rw [delimited_eq_delimitedAll]
    exact ht.fits

/-! ## Captures put in for the wildcards -/

theorem Contributes.length_eq {token : Token} {captures : List (List Char)} {text : List Char}
    (h : Contributes token captures text) : captures.length = token.wildcards := by
  cases h with
  | literal | one | manyNone | manySome => rfl
  | pieced h => exact interleaves_length h

/-- A fit has one capture for each wildcard. -/
theorem Fits.length_eq {tokens : List Token} {captures : List (List Char)} {text : List Char}
    (h : Fits tokens captures text) : captures.length = wildcardsOf tokens := by
  induction h with
  | nil => rfl
  | cons h _ ih => rw [List.length_append, wildcardsOf, h.length_eq, ih]

/-- Pieces with captures between neighbours. -/
def interleave : List String → List (List Char) → List Char
  | piece :: pieces, capture :: captures => piece.toList ++ capture ++ interleave pieces captures
  | piece :: _, [] => piece.toList
  | [], _ => []

/-- The text of a token with captures put in for its wildcards. -/
def fill : Token → List (List Char) → List Char
  | .literal text, _ => delimiter ++ text.toList
  | .one, captures => delimiter ++ captures.flatten
  | .many, captures => if captures.flatten = [] then [] else delimiter ++ captures.flatten
  | .pieced pieces, captures => delimiter ++ interleave pieces captures

/-- The text of tokens with captures put in for their wildcards, from left to right. -/
def fillAll : List Token → List (List Char) → List Char
  | [], _ => []
  | token :: tokens, captures =>
    token.fill (captures.take token.wildcards) ++ fillAll tokens (captures.drop token.wildcards)

theorem interleave_eq {pieces : List String} {gaps : List (List Char)} {text : List Char}
    (h : Interleaves pieces gaps text) : interleave pieces gaps = text := by
  induction h with
  | last => rfl
  | more _ _ _ _ ih => rw [interleave, ih]

theorem Contributes.fill_eq {token : Token} {captures : List (List Char)} {text : List Char}
    (h : Contributes token captures text) : token.fill captures = text := by
  cases h with
  | literal | manyNone => rfl
  | one => simp [fill]
  | @manySome run hr h =>
    have hne : join run ≠ [] := fun e =>
      hr ((join_eq_nil_iff fun s hs => ne_nil_of_isWhole (h s hs)).mp e)
    simp [fill, hne]
  | pieced h => rw [fill, interleave_eq h]

/-- The captures of a fit, put in for the wildcards, give the text back. -/
theorem Fits.fillAll_eq {tokens : List Token} {captures : List (List Char)} {text : List Char}
    (h : Fits tokens captures text) : fillAll tokens captures = text := by
  induction h with
  | nil => rfl
  | cons h _ ih =>
    rw [fillAll, ← h.length_eq, List.take_left, List.drop_left, h.fill_eq, ih]

end Token

/-! ## Two globs -/

namespace Glob

/-- The glob of all names. -/
def everyName : Glob :=
  ⟨"**", [.many], by decide, by decide⟩

/-- The glob of one module and of all modules below it. -/
def appTree : Glob :=
  ⟨"App::**", [.literal "App", .many], by decide, by decide⟩

end Glob

end ModuleSynthesis
