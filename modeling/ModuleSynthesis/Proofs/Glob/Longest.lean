import ModuleSynthesis.Proofs.Glob.Fit
import ModuleSynthesis.Proofs.Glob.Search

/-!
# The search finds the longest fit

Of the ways in which tokens take segments, one is to be preferred: the first wildcard stands for
as much as it can, then the second given the first, and so on. Two lists of captures are compared
where they differ first; there one capture is a proper prefix of the other.

* `Shorter`: the comparison. A size that grows with a text compares the lists in lexicographic
  order (`Shorter.map_lt`).
* `IsLongest view P answer`: the answer is the longest list with `P`, or there is none. Every step
  of the search keeps this (`longestRun_isLongest`, `pieceThen_isLongest`,
  `segmentThen_isLongest`).
* `IsLongest.eq`: there is only one longest list.
* `Token.search_isLongest`: the search finds the longest way in which tokens take segments.
-/

namespace ModuleSynthesis

open Text

/-! ## The comparison -/

/-- Where two lists of texts differ first, the first list has a proper prefix of what the second
one has. -/
inductive Shorter : List (List Char) → List (List Char) → Prop
  | here {text other : List Char} {texts others : List (List Char)} :
      text <+: other → text ≠ other → Shorter (text :: texts) (other :: others)
  | there (text : List Char) {texts others : List (List Char)} :
      Shorter texts others → Shorter (text :: texts) (text :: others)

theorem Shorter.append_left {texts others : List (List Char)} (h : Shorter texts others)
    (front : List (List Char)) : Shorter (front ++ texts) (front ++ others) := by
  induction front with
  | nil => exact h
  | cons text front ih => exact .there text ih

theorem Shorter.append_right {texts others : List (List Char)} (h : Shorter texts others)
    (back back' : List (List Char)) : Shorter (texts ++ back) (others ++ back') := by
  induction h with
  | here hp hne => exact .here hp hne
  | there text _ ih => exact .there text ih

/-- A size that grows with a text compares two lists in lexicographic order. -/
theorem Shorter.map_lt (size : List Char → Nat)
    (hsize : ∀ text more, more ≠ [] → size text < size (text ++ more))
    {texts others : List (List Char)} (h : Shorter texts others) :
    texts.map size < others.map size := by
  induction h with
  | here hp hne =>
    obtain ⟨more, rfl⟩ := hp
    exact List.cons_lt_cons_iff.mpr (.inl (hsize _ more (by simpa using hne)))
  | there text _ ih => exact List.cons_lt_cons_iff.mpr (.inr ⟨rfl, ih⟩)

theorem Shorter.asymm {texts others : List (List Char)} (h : Shorter texts others) :
    ¬ Shorter others texts := fun h' =>
  have grows : ∀ text more : List Char, more ≠ [] → text.length < (text ++ more).length :=
    fun text more hm => by simpa using List.length_pos_iff.mpr hm
  List.lt_asymm (h.map_lt _ grows) (h'.map_lt _ grows)

/-- An answer is the longest of the lists with a property, compared by the texts that `view` makes
of their items; or there is no answer and no such list. -/
def IsLongest {α : Type} (view : α → List Char) (P : List α → Prop) : Option (List α) → Prop
  | none => ∀ as, ¬P as
  | some best => P best ∧ ∀ as, P as → as ≠ best → Shorter (as.map view) (best.map view)

section IsLongest

variable {α : Type} {view : α → List Char} {P : List α → Prop} {answer : Option (List α)}

theorem IsLongest.congr (h : IsLongest view P answer) {Q : List α → Prop}
    (hPQ : ∀ as, P as ↔ Q as) : IsLongest view Q answer := by
  obtain rfl : P = Q := funext fun as => propext (hPQ as)
  exact h

theorem IsLongest.ne_none (h : IsLongest view P answer) {as : List α} (ha : P as) :
    answer ≠ none := by
  rintro rfl
  exact h as ha

/-- The answer is there exactly if some list has the property. -/
theorem IsLongest.isSome_iff (h : IsLongest view P answer) : answer.isSome ↔ ∃ as, P as := by
  cases answer with
  | none => exact ⟨fun e => absurd e Bool.false_ne_true, fun ⟨as, ha⟩ => absurd ha (h as)⟩
  | some best => exact ⟨fun _ => ⟨best, h.1⟩, fun _ => rfl⟩

/-- There is only one longest list. -/
theorem IsLongest.eq {other : Option (List α)} (h : IsLongest view P answer)
    (h' : IsLongest view P other) : answer = other := by
  cases answer with
  | none =>
    cases other with
    | none => rfl
    | some best => exact absurd h'.1 (h best)
  | some best =>
    cases other with
    | none => exact absurd h.1 (h' best)
    | some best' =>
      by_contra hne
      have hne : best ≠ best' := fun e => hne (by rw [e])
      exact (h.2 best' h'.1 hne.symm).asymm (h'.2 best h.1 hne)

theorem IsLongest.map_view (h : IsLongest view P answer) :
    IsLongest id (fun texts => ∃ as, P as ∧ as.map view = texts) (answer.map (·.map view)) := by
  cases answer with
  | none =>
    rintro _ ⟨as, ha, rfl⟩
    exact h as ha
  | some best =>
    refine ⟨⟨best, h.1, rfl⟩, ?_⟩
    rintro _ ⟨as, ha, rfl⟩ hne
    simpa using h.2 as ha fun e => hne (by rw [e])

end IsLongest

namespace Row

/-! ## The longest run -/

section LongestRun

variable {ι β : Type} {admissible : ι → Bool}

theorem longestRun_eq_none {answer : List ι → Option β} {items : List ι}
    (h : longestRun admissible answer items = none) {run rest : List ι}
    (hitems : items = run ++ rest) (hrun : ∀ item ∈ run, admissible item) : answer rest = none := by
  induction items generalizing run with
  | nil =>
    obtain ⟨rfl, rfl⟩ := List.append_eq_nil_iff.mp hitems.symm
    simpa [longestRun] using h
  | cons item items ih =>
    rw [longestRun] at h
    split at h
    · cases h
    next hnone =>
      cases run with
      | nil => rw [← show item :: items = rest from hitems]; simpa using h
      | cons first run =>
        obtain ⟨rfl, htail⟩ := List.cons.inj hitems
        rw [if_pos (hrun item List.mem_cons_self)] at hnone
        exact ih hnone htail fun x hx => hrun x (List.mem_cons_of_mem _ hx)

/-- A longest run is admissible, has its answer behind it, and continues every other admissible
run with an answer behind it. -/
theorem longestRun_eq_some {answer : List ι → Option β} {items run : List ι} {found : β}
    (h : longestRun admissible answer items = some (run, found)) :
    ∃ rest, items = run ++ rest ∧ (∀ item ∈ run, admissible item) ∧ answer rest = some found ∧
      ∀ run' rest', items = run' ++ rest' → (∀ item ∈ run', admissible item) →
        answer rest' ≠ none → run' <+: run := by
  induction items generalizing run with
  | nil =>
    obtain ⟨found, ha, hf⟩ := Option.map_eq_some_iff.mp h
    cases hf
    refine ⟨[], rfl, by simp, ha, fun run' rest' hitems _ _ => ?_⟩
    rw [(List.append_eq_nil_iff.mp hitems.symm).1]
  | cons item items ih =>
    rw [longestRun] at h
    split at h
    next later _ hsome =>
      cases h
      have hitem : admissible item := by
        by_contra hn
        rw [if_neg hn] at hsome; cases hsome
      rw [if_pos hitem] at hsome
      obtain ⟨rest, rfl, hrun, ha, hmax⟩ := ih hsome
      refine ⟨rest, rfl, by simpa using ⟨hitem, hrun⟩, ha, fun run' rest' hitems hrun' ha' => ?_⟩
      cases run' with
      | nil => exact List.nil_prefix
      | cons first run' =>
        obtain ⟨rfl, htail⟩ := List.cons.inj hitems
        exact List.cons_prefix_cons.mpr ⟨rfl,
          hmax run' rest' htail (fun x hx => hrun' x (List.mem_cons_of_mem _ hx)) ha'⟩
    next hnone =>
      obtain ⟨found, ha, hf⟩ := Option.map_eq_some_iff.mp h
      cases hf
      refine ⟨item :: items, rfl, by simp, ha, fun run' rest' hitems hrun' ha' => ?_⟩
      cases run' with
      | nil => exact List.prefix_rfl
      | cons first run' =>
        obtain ⟨rfl, htail⟩ := List.cons.inj hitems
        rw [if_pos (hrun' item List.mem_cons_self)] at hnone
        exact absurd (longestRun_eq_none hnone htail fun x hx =>
          hrun' x (List.mem_cons_of_mem _ hx)) ha'

end LongestRun

/-! ## The steps of the search -/

section Steps

variable {ι : Type} {view : List ι → List Char}

theorem atEnd_isLongest (items : List ι) :
    IsLongest view (fun as => items = [] ∧ as = []) (atEnd [] items) := by
  cases items with
  | nil => exact ⟨⟨rfl, rfl⟩, fun as h hne => absurd h.2 hne⟩
  | cons item items => exact fun as h => List.cons_ne_nil _ _ h.1

/-- A wildcard stands for an admissible run of items, and other wildcards for what is behind it. -/
def RunThen (admissible : ι → Bool) (P : List ι → List (List ι) → Prop) (items : List ι)
    (as : List (List ι)) : Prop :=
  ∃ run rest later, items = run ++ rest ∧ (∀ item ∈ run, admissible item) ∧ P rest later ∧
    as = run :: later

theorem longestRun_isLongest {admissible : ι → Bool} {answer : List ι → Option (List (List ι))}
    {P : List ι → List (List ι) → Prop}
    (hview : ∀ run more, more ≠ [] → (∀ item ∈ more, admissible item) →
      view run <+: view (run ++ more) ∧ view run ≠ view (run ++ more))
    (h : ∀ rest, IsLongest view (P rest) (answer rest)) (items : List ι) :
    IsLongest view (RunThen admissible P items)
      ((longestRun admissible answer items).map fun (run, found) => run :: found) := by
  cases hrun : longestRun admissible answer items with
  | none =>
    rintro as ⟨run, rest, later, hitems, hadm, hP, -⟩
    exact (h rest).ne_none hP (longestRun_eq_none hrun hitems hadm)
  | some pair =>
    obtain ⟨run, found⟩ := pair
    obtain ⟨rest, hitems, hadm, ha, hmax⟩ := longestRun_eq_some hrun
    have hfound := h rest
    rw [ha] at hfound
    refine ⟨⟨run, rest, found, hitems, hadm, hfound.1, rfl⟩, ?_⟩
    rintro as ⟨run', rest', later, hitems', hadm', hP, rfl⟩ hne
    obtain ⟨more, rfl⟩ := hmax run' rest' hitems' hadm' ((h rest').ne_none hP)
    by_cases hm : more = []
    · -- The same run: what is behind it decides.
      subst hm
      rw [List.append_nil] at hitems hne ⊢
      obtain rfl : rest' = rest := List.append_cancel_left (hitems'.symm.trans hitems)
      exact .there _ (hfound.2 later hP fun e => hne (by rw [e]))
    · have hv := hview run' more hm fun x hx => hadm x (List.mem_append_right _ hx)
      exact .here hv.1 hv.2

theorem pieceThen_isLongest {view : List Char → List Char}
    {answer : List Char → Option (List (List Char))}
    {P : List Char → List (List Char) → Prop} (h : ∀ rest, IsLongest view (P rest) (answer rest))
    (piece text : List Char) :
    IsLongest view (fun as => ∃ rest, text = piece ++ rest ∧ P rest as)
      (pieceThen piece answer text) := by
  unfold pieceThen
  split
  · next hp =>
    obtain ⟨back, rfl⟩ := List.isPrefixOf_iff_prefix.mp hp
    rw [List.drop_left]
    exact (h back).congr fun as => ⟨fun ha => ⟨back, rfl, ha⟩,
      fun ⟨rest, e, ha⟩ => List.append_cancel_left e ▸ ha⟩
  · next hp =>
    rintro as ⟨rest, rfl, -⟩
    exact hp (List.isPrefixOf_iff_prefix.mpr (List.prefix_append _ _))

theorem segmentThen_isLongest {take? : List Char → Option (List Run)}
    {answer : List (List Char) → Option (List Run)} {P : List (List Char) → List Run → Prop}
    {Q : List Char → List Run → Prop}
    (htake : ∀ segment, IsLongest join (Q segment) (take? segment))
    (h : ∀ rest, IsLongest join (P rest) (answer rest)) (segments : List (List Char)) :
    IsLongest join
      (fun as => ∃ segment rest mine later, segments = segment :: rest ∧ Q segment mine ∧
        P rest later ∧ as = mine ++ later)
      (segmentThen take? answer segments) := by
  cases segments with
  | nil => rintro as ⟨_, _, _, _, e, -⟩; cases e
  | cons segment rest =>
    rw [segmentThen]
    cases ha : answer rest with
    | none =>
      rintro as ⟨_, _, _, later, e, -, hP, -⟩
      cases e
      exact (h rest).ne_none hP ha
    | some found =>
      have hfound := h rest
      rw [ha] at hfound
      have ht := htake segment
      cases hm : take? segment with
      | none =>
        rw [hm] at ht
        rintro as ⟨_, _, mine, _, e, hQ, -⟩
        cases e
        exact ht mine hQ
      | some mine =>
        rw [hm] at ht
        refine ⟨⟨segment, rest, mine, found, rfl, ht.1, hfound.1, rfl⟩, ?_⟩
        rintro as ⟨_, _, mine', later, e, hQ, hP, rfl⟩ hne
        cases e
        rw [List.map_append, List.map_append]
        by_cases hmine : mine' = mine
        · subst hmine
          exact (hfound.2 later hP fun e => hne (by rw [e])).append_left _
        · exact (ht.2 mine' hQ hmine).append_right _ _

end Steps

end Row

/-! ## Stars inside a segment -/

theorem interleaves_singleton_iff {piece : String} {gaps : List (List Char)} {text : List Char} :
    Interleaves [piece] gaps text ↔ text = piece.toList ∧ gaps = [] := by
  constructor
  · rintro (_ | ⟨_, _, _, ⟨⟩⟩)
    exact ⟨rfl, rfl⟩
  · rintro ⟨rfl, rfl⟩
    exact .last piece

theorem interleaves_cons_iff {piece : String} {pieces : List String} (hne : pieces ≠ [])
    {gaps : List (List Char)} {text : List Char} :
    Interleaves (piece :: pieces) gaps text ↔
      ∃ rest, text = piece.toList ++ rest ∧
        Row.RunThen (· != ':') (fun rest gaps => Interleaves pieces gaps rest) rest gaps := by
  constructor
  · intro h
    cases h with
    | last => exact absurd rfl hne
    | @more _ gaps rest _ gap hgap h =>
      refine ⟨gap ++ rest, List.append_assoc .., gap, rest, gaps, rfl, fun c hc => ?_, h, rfl⟩
      exact bne_iff_ne.mpr fun e => hgap (e ▸ hc)
  · rintro ⟨_, rfl, gap, rest, later, rfl, hgap, h, rfl⟩
    rw [← List.append_assoc]
    exact .more piece gap (fun hc => bne_iff_ne.mp (hgap ':' hc) rfl) h

theorem prefix_append_and_ne (run : List Char) {more : List Char} (h : more ≠ []) :
    run <+: run ++ more ∧ run ≠ run ++ more :=
  ⟨List.prefix_append _ _, by simpa using h⟩

theorem gapSearch_isLongest {pieces : List String} (hne : pieces ≠ []) (text : List Char) :
    IsLongest id (fun gaps => Interleaves pieces gaps text)
      (gapSearch (pieces.map String.toList) text) := by
  induction pieces generalizing text with
  | nil => exact absurd rfl hne
  | cons piece pieces ih =>
    by_cases hp : pieces = []
    · subst hp
      refine (Row.pieceThen_isLongest Row.atEnd_isLongest _ text).congr fun gaps => ?_
      rw [interleaves_singleton_iff]
      exact ⟨fun ⟨_, e, hr, hg⟩ => ⟨by simpa [hr] using e, hg⟩,
        fun ⟨e, hg⟩ => ⟨[], by simpa using e, rfl, hg⟩⟩
    · rw [List.map_cons, gapSearch]
      · refine (Row.pieceThen_isLongest (fun rest => Row.longestRun_isLongest ?_ (ih hp) rest) _
          text).congr fun gaps => (interleaves_cons_iff hp).symm
        exact fun run more hm _ => prefix_append_and_ne run hm
      · simpa using hp

/-! ## Tokens over segments -/

namespace Token

theorem takesAll_nil_iff {runs : List Run} {segments : List (List Char)} :
    TakesAll [] runs segments ↔ segments = [] ∧ runs = [] := by
  constructor
  · rintro ⟨⟩
    exact ⟨rfl, rfl⟩
  · rintro ⟨rfl, rfl⟩
    exact .nil

theorem takesAll_many_iff {tokens : List Token} {runs : List Run} {segments : List (List Char)} :
    TakesAll (.many :: tokens) runs segments ↔
      Row.RunThen isWhole (fun rest later => TakesAll tokens later rest) segments runs := by
  constructor
  · rintro ⟨⟩
    next later rest h hlater =>
    cases h with
    | many h => exact ⟨_, _, _, rfl, h, hlater, rfl⟩
  · rintro ⟨run, rest, later, rfl, hrun, hlater, rfl⟩
    exact .cons (.many hrun) hlater

theorem takesAll_one_segment_iff {token : Token} (h : token ≠ .many) {tokens : List Token}
    {runs : List Run} {segments : List (List Char)} :
    TakesAll (token :: tokens) runs segments ↔
      ∃ segment rest mine later, segments = segment :: rest ∧ Takes token mine [segment] ∧
        TakesAll tokens later rest ∧ runs = mine ++ later := by
  constructor
  · rintro (_ | ⟨ht, hlater⟩)
    cases ht with
    | many => exact absurd rfl h
    | literal | one | pieced => exact ⟨_, _, _, _, rfl, by constructor <;> assumption, hlater, rfl⟩
  · rintro ⟨segment, rest, mine, later, rfl, ht, hlater, rfl⟩
    exact .cons ht hlater

theorem takes_literal_iff {text : String} {runs : List Run} {segment : List Char} :
    Takes (.literal text) runs [segment] ↔ segment = text.toList ∧ runs = [] := by
  constructor
  · rintro ⟨⟩
    exact ⟨rfl, rfl⟩
  · rintro ⟨rfl, rfl⟩
    exact .literal text

theorem takes_one_iff {runs : List Run} {segment : List Char} :
    Takes .one runs [segment] ↔ isWhole segment ∧ runs = [[segment]] := by
  constructor
  · rintro (_ | h)
    exact ⟨h, rfl⟩
  · rintro ⟨h, rfl⟩
    exact .one h

theorem takes_pieced_iff {pieces : List String} {runs : List Run} {segment : List Char} :
    Takes (.pieced pieces) runs [segment] ↔
      ∃ gaps, Interleaves pieces gaps segment ∧ runs = gaps.map ([·]) := by
  constructor
  · rintro (_ | _ | _ | h)
    exact ⟨_, h, rfl⟩
  · rintro ⟨gaps, h, rfl⟩
    exact .pieced h

/-- A condition on a segment with runs of its own is decided by its test. -/
theorem test_isLongest {p : Prop} [Decidable p] (runs : List Run) :
    IsLongest join (fun as => p ∧ as = runs) (if p then some runs else none) := by
  split
  · next h => exact ⟨⟨h, rfl⟩, fun as ha hne => absurd ha.2 hne⟩
  · next h => exact fun as ha => h ha.1

/-- The stars of a pieced token stand for texts, which are runs of one segment. -/
theorem gapRuns_isLongest {pieces : List String} (hne : pieces ≠ []) (segment : List Char) :
    IsLongest join (fun runs => ∃ gaps, Interleaves pieces gaps segment ∧ runs = gaps.map ([·]))
      ((gapSearch (pieces.map String.toList) segment).map (·.map ([·]))) := by
  have hjoin : ∀ gaps : List (List Char), (gaps.map ([·])).map join = gaps.map id := fun gaps => by
    simp [Function.comp_def]
  have h := gapSearch_isLongest hne segment
  cases hgaps : gapSearch (pieces.map String.toList) segment with
  | none =>
    rw [hgaps] at h
    rintro as ⟨gaps, hg, -⟩
    exact h gaps hg
  | some best =>
    rw [hgaps] at h
    refine ⟨⟨best, h.1, rfl⟩, ?_⟩
    rintro as ⟨gaps, hg, rfl⟩ hne
    rw [hjoin, hjoin]
    exact h.2 gaps hg fun e => hne (by rw [e])

/-- Of runs of whole segments the longer one has the longer text. -/
theorem join_prefix_and_ne (run : Run) {more : Run} (h : more ≠ [])
    (hmore : ∀ segment ∈ more, isWhole segment) :
    join run <+: join (run ++ more) ∧ join run ≠ join (run ++ more) :=
  ⟨join_isPrefix run more, join_ne_join_append h fun s hs => ne_nil_of_isWhole (hmore s hs)⟩

/-- The search finds the longest way in which plain tokens take segments. -/
theorem search_isLongest {tokens : List Token} (hp : ∀ token ∈ tokens, token.IsPlain)
    (segments : List (List Char)) :
    IsLongest join (fun runs => TakesAll tokens runs segments) (search tokens segments) := by
  induction tokens generalizing segments with
  | nil => exact (Row.atEnd_isLongest segments).congr fun _ => takesAll_nil_iff.symm
  | cons token tokens ih =>
    have ih := ih fun t ht => hp t (List.mem_cons_of_mem _ ht)
    rw [search]
    cases token with
    | literal text =>
      have hone : Token.literal text ≠ .many := nofun
      refine (Row.segmentThen_isLongest (fun _ => test_isLongest []) ih segments).congr fun _ => ?_
      simp only [takesAll_one_segment_iff hone, takes_literal_iff]
    | one =>
      have hone : Token.one ≠ .many := nofun
      refine (Row.segmentThen_isLongest (fun segment => test_isLongest [[segment]]) ih
        segments).congr fun _ => ?_
      simp only [takesAll_one_segment_iff hone, takes_one_iff]
    | many =>
      exact (Row.longestRun_isLongest (fun run _ => join_prefix_and_ne run) ih segments).congr
        fun _ => takesAll_many_iff.symm
    | pieced pieces =>
      have hone : Token.pieced pieces ≠ .many := nofun
      have hne := (hp _ List.mem_cons_self).1
      refine (Row.segmentThen_isLongest (gapRuns_isLongest hne) ih segments).congr fun _ => ?_
      simp only [takesAll_one_segment_iff hone, takes_pieced_iff]

end Token

end ModuleSynthesis
