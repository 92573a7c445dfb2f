import ModuleSynthesis.Proofs.Glob.Acceptance
import ModuleSynthesis.Proofs.Glob.Longest
import ModuleSynthesis.Proofs.Glob.Spelling

/-!
# Captures of a glob

* `Glob.captures?_isLongest`: the captures of a glob in a name are the longest that fit it.
* `Glob.length_of_captures?`: there is one capture for each wildcard.
* `Glob.captures?_isSome_iff_fits`: there are captures exactly where some captures fit, and put in
  for the wildcards they give the name back.
* `Glob.captures?_leftmost_longest`: of all captures that fit, the lengths of those that are found
  come last in lexicographic order.
-/

namespace ModuleSynthesis

open Text

namespace Glob

/-- Captures fit a name: what the tokens of the glob stand for with them makes up the name. -/
def Fits (glob : Glob) (captures : List String) (name : String) : Prop :=
  Token.Fits glob.tokens (captures.map String.toList) (delimited name.toList)

theorem isPlain_tokens (glob : Glob) : ∀ token ∈ glob.tokens, token.IsPlain :=
  fun token ht => (glob.isProper_tokens token ht).isPlain

theorem fits_iff (glob : Glob) (captures : List String) (name : String) :
    glob.Fits captures name ↔
      ∃ runs, Token.TakesAll glob.tokens runs (subject name) ∧
        captures = (runs.map join).map String.ofList := by
  rw [Fits, Token.fits_delimited_iff glob.isPlain_tokens]
  refine exists_congr fun runs => and_congr_right fun _ => ⟨fun h => ?_, fun h => ?_⟩
  · rw [← h]; simp [Function.comp_def]
  · rw [h]; simp [Function.comp_def]

/-- The captures of a glob in a name are the longest that fit the name. -/
theorem captures?_isLongest (glob : Glob) (name : String) :
    IsLongest String.toList (glob.Fits · name) (glob.captures? name) := by
  have h := Token.search_isLongest glob.isPlain_tokens (subject name)
  rw [captures?, Token.capturesOf?_eq]
  cases hs : Token.search glob.tokens (subject name) with
  | none =>
    rw [hs] at h
    rintro captures hfit
    obtain ⟨runs, ht, -⟩ := (glob.fits_iff captures name).mp hfit
    exact h runs ht
  | some best =>
    rw [hs] at h
    refine ⟨(glob.fits_iff _ name).mpr ⟨best, h.1, rfl⟩, fun captures hfit hne => ?_⟩
    obtain ⟨runs, ht, rfl⟩ := (glob.fits_iff captures name).mp hfit
    have := h.2 runs ht fun e => hne (by rw [e])
    simpa [Function.comp_def] using this

/-- There is one capture for each wildcard. -/
theorem length_of_captures? {glob : Glob} {name : String} {captures : List String}
    (h : glob.captures? name = some captures) : captures.length = glob.wildcards := by
  have hlongest := glob.captures?_isLongest name
  rw [h] at hlongest
  simpa [wildcards] using hlongest.1.length_eq

/-! ## Matching is what the glob means -/

/-- A glob captures something in a name exactly if the name matches, and exactly if captures, one
for each wildcard, fit the name. What it captures does fit, and put in for the wildcards it gives
the name back. -/
theorem captures?_isSome_iff_fits (glob : Glob) (name : String) :
    ((glob.captures? name).isSome ↔ glob.isMatch name) ∧
    ((glob.captures? name).isSome ↔
      ∃ captures, captures.length = glob.wildcards ∧ glob.Fits captures name) ∧
    ∀ captures ∈ glob.captures? name,
      captures.length = glob.wildcards ∧ glob.Fits captures name ∧
        Token.fillAll glob.tokens (captures.map String.toList) = delimited name.toList := by
  have hlen : ∀ captures, glob.Fits captures name → captures.length = glob.wildcards :=
    fun captures h => by simpa [wildcards] using h.length_eq
  have hlongest := glob.captures?_isLongest name
  refine ⟨by rw [isMatch_eq], ?_, fun captures hc => ?_⟩
  · rw [hlongest.isSome_iff]
    exact exists_congr fun captures => ⟨fun h => ⟨hlen captures h, h⟩, And.right⟩
  · rw [Option.mem_def.mp hc] at hlongest
    exact ⟨hlen captures hlongest.1, hlongest.1, hlongest.1.fillAll_eq⟩

/-! ## The choice among captures that fit -/

theorem length_lt_of_shorter {captures others : List String}
    (h : Shorter (others.map String.toList) (captures.map String.toList)) :
    others.map String.length < captures.map String.length := by
  have := h.map_lt List.length fun text more hm => by
    simpa using List.length_pos_iff.mpr hm
  simpa [Function.comp_def, String.length_toList] using this

theorem byteSize_lt_of_shorter {captures others : List String}
    (h : Shorter (others.map String.toList) (captures.map String.toList)) :
    others.map String.utf8ByteSize < captures.map String.utf8ByteSize := by
  have := h.map_lt (fun text => (String.ofList text).utf8ByteSize) fun text more hm => by
    have hpos : (String.ofList more).utf8ByteSize ≠ 0 := fun e =>
      hm (by simpa using String.utf8ByteSize_eq_zero_iff.mp e)
    rw [String.ofList_append, String.utf8ByteSize_append]
    omega
  simpa [Function.comp_def] using this

/-- Of all captures that fit a name, the glob finds those whose lengths come last in lexicographic
order, whether characters or bytes are counted. -/
theorem captures?_leftmost_longest (glob : Glob) (name : String) (h : glob.isMatch name) :
    ∃ captures, glob.captures? name = some captures ∧ glob.Fits captures name ∧
      ∀ others, glob.Fits others name → others ≠ captures →
        others.map String.length < captures.map String.length ∧
          others.map String.utf8ByteSize < captures.map String.utf8ByteSize := by
  rw [isMatch_eq] at h
  obtain ⟨captures, hc⟩ := Option.isSome_iff_exists.mp h
  have hlongest := glob.captures?_isLongest name
  rw [hc] at hlongest
  refine ⟨captures, hc, hlongest.1, fun others hfit hne => ?_⟩
  have hshorter := hlongest.2 others hfit hne
  exact ⟨length_lt_of_shorter hshorter, byteSize_lt_of_shorter hshorter⟩

/-- Two wildcards that compete for the segments between `A` and `Z`. -/
def betweenEnds : Glob :=
  ⟨"A::**::**::Z", [.literal "A", .many, .many, .literal "Z"], by decide, by decide⟩

theorem betweenEnds_leftmost_longest :
    betweenEnds.isMatch "A::b::c::Z" ∧
      ∃ captures, betweenEnds.captures? "A::b::c::Z" = some captures ∧
        betweenEnds.Fits captures "A::b::c::Z" ∧
        ∀ others, betweenEnds.Fits others "A::b::c::Z" → others ≠ captures →
          others.map String.length < captures.map String.length ∧
            others.map String.utf8ByteSize < captures.map String.utf8ByteSize :=
  have matched : betweenEnds.isMatch "A::b::c::Z" := by decide
  ⟨matched, captures?_leftmost_longest betweenEnds "A::b::c::Z" matched⟩

example : betweenEnds.captures? "A::b::c::Z" = some ["b::c", ""] := by decide

end Glob

end ModuleSynthesis
