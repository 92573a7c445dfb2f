import Mathlib.Data.List.Basic
import ModuleSynthesis.Text.Delimited

/-!
# Splitting and joining

* `join_split`: every text is the join of its segments.
* `split_join`: segments without colons are found again in their join. Without the condition this
  is false: `A:` and `B` join to `A:::B`, which is split behind its first two colons.
* `Cut`, `cut_iff`: a text is split where its delimiters are found from the left.
* `join_isPrefix`: the join of fewer segments is a prefix, and a proper one where no segment is
  empty.
* `not_delimiter_prefix_dropDelimiters`: no delimiter is left at the start.
* `splitLast?_eq_none_iff`: a text is not cut exactly if there is no delimiter in it.
* `splitLast?_append_of_not_isInfix`, `LastPart`: the last delimiter is the one behind whose first
  colon no other starts.
* `splitLast?_append_cons`: what comes behind the last delimiter does not move it.
-/

namespace ModuleSynthesis.Text

@[simp]
theorem join_singleton (segment : List Char) : join [segment] = segment := rfl

theorem join_cons (segment : List Char) {segments : List (List Char)} (h : segments ≠ []) :
    join (segment :: segments) = segment ++ delimiter ++ join segments := by
  cases segments with
  | nil => exact absurd rfl h
  | cons next rest => rfl

/-! ## Segments of a text -/

@[simp]
theorem split_delimiter (text : List Char) : split (':' :: ':' :: text) = [] :: split text := by
  rw [split]

theorem split_ne_nil (text : List Char) : split text ≠ [] := by
  fun_cases split text <;> simp_all

/-- A character that starts no delimiter belongs to the first segment. -/
theorem split_cons {c : Char} {text segment : List Char} {segments : List (List Char)}
    (hc : ∀ rest, c :: text ≠ ':' :: ':' :: rest) (h : split text = segment :: segments) :
    split (c :: text) = (c :: segment) :: segments := by
  rw [split]
  · rw [h]
  · intro rest e₁ e₂
    exact hc rest (by rw [e₁, e₂])

theorem join_split (text : List Char) : join (split text) = text := by
  fun_induction split text with
  | case1 rest ih => rw [join_cons _ (split_ne_nil rest), ih]; rfl
  | case2 c rest _ segment segments h ih =>
    rw [h] at ih
    cases segments with
    | nil => rw [join_singleton] at ih ⊢; rw [ih]
    | cons next later =>
      rw [join_cons _ (List.cons_ne_nil _ _)] at ih ⊢
      rw [← ih]; rfl
  | case3 c rest _ h => exact absurd h (split_ne_nil rest)
  | case4 => rfl

/-- A text without a delimiter is one segment. -/
theorem split_of_not_isInfix {segment : List Char} (h : ¬ delimiter <:+: segment) :
    split segment = [segment] := by
  induction segment with
  | nil => rfl
  | cons c rest ih =>
    rw [List.infix_cons_iff, not_or] at h
    refine split_cons (fun later e => h.1 ?_) (ih h.2)
    rw [e]
    exact List.prefix_append delimiter later

/-- Where no delimiter starts earlier, the first segment ends. -/
theorem split_append_of_not_isInfix {segment : List Char} (h : ¬ delimiter <:+: segment ++ [':'])
    (text : List Char) : split (segment ++ delimiter ++ text) = segment :: split text := by
  induction segment with
  | nil => exact split_delimiter text
  | cons c rest ih =>
    rw [List.cons_append, List.infix_cons_iff, not_or] at h
    refine split_cons (fun later e => h.1 ?_) (ih h.2)
    -- A delimiter at `c` has its second colon in `rest`, or is the one that ends the segment.
    cases rest with
    | nil => cases e; exact List.prefix_rfl
    | cons d rest => cases e; exact List.prefix_append delimiter _

/-- A delimiter takes two colons. -/
theorem not_delimiter_isInfix_of_count_lt {text : List Char} (h : text.count ':' < 2) :
    ¬ delimiter <:+: text := by
  intro hin
  have hcount := hin.sublist.count_le ':'
  have htwo : delimiter.count ':' = 2 := by decide
  omega

theorem split_of_not_mem {segment : List Char} (h : ':' ∉ segment) : split segment = [segment] :=
  split_of_not_isInfix fun hin => h (hin.subset List.mem_cons_self)

theorem split_append_delimiter {segment : List Char} (h : ':' ∉ segment) (text : List Char) :
    split (segment ++ delimiter ++ text) = segment :: split text :=
  split_append_of_not_isInfix
    (not_delimiter_isInfix_of_count_lt (by simp [List.count_eq_zero_of_not_mem h])) text

theorem split_join {segments : List (List Char)} (hne : segments ≠ [])
    (h : ∀ segment ∈ segments, ':' ∉ segment) : split (join segments) = segments := by
  induction segments with
  | nil => exact absurd rfl hne
  | cons segment rest ih =>
    have hs := h segment List.mem_cons_self
    by_cases hr : rest = []
    · subst hr; exact split_of_not_mem hs
    · rw [join_cons _ hr, split_append_delimiter hs,
        ih hr fun s hm => h s (List.mem_cons_of_mem _ hm)]

/-! ## Cuts from the left -/

/-- A text is cut into segments from the left: every cut is made at the first delimiter that there
is, so that none starts before the end of a segment. -/
inductive Cut : List Char → List (List Char) → Prop
  | last {segment : List Char} : ¬ delimiter <:+: segment → Cut segment [segment]
  | first {segment rest : List Char} {segments : List (List Char)} :
      ¬ delimiter <:+: segment ++ [':'] → Cut rest segments →
      Cut (segment ++ delimiter ++ rest) (segment :: segments)

/-- A character that starts no delimiter belongs to the first segment of a cut. -/
theorem Cut.cons {c : Char} {text segment : List Char} {segments : List (List Char)}
    (h : Cut text (segment :: segments)) (hc : ¬ delimiter <+: c :: text) :
    Cut (c :: text) ((c :: segment) :: segments) := by
  cases h with
  | last hnone =>
    refine .last ?_
    rw [List.infix_cons_iff, not_or]
    exact ⟨hc, hnone⟩
  | @first _ rest _ hnone hrest =>
    refine @Cut.first (c :: segment) _ _ ?_ hrest
    rw [List.cons_append, List.infix_cons_iff, not_or]
    refine ⟨fun hp => hc (hp.trans ⟨':' :: rest, ?_⟩), hnone⟩
    simp [delimiter]

theorem cut_split (text : List Char) : Cut text (split text) := by
  fun_induction split text with
  | case1 rest ih => exact @Cut.first [] rest _ (by decide) ih
  | case2 c rest hstart segment segments h ih =>
    rw [h] at ih
    refine ih.cons ?_
    rintro ⟨later, he⟩
    cases he
    exact hstart later rfl rfl
  | case3 c rest _ h => exact absurd h (split_ne_nil rest)
  | case4 => exact .last (by decide)

/-- A text is cut from the left in one way, which is how it is split. -/
theorem cut_iff {text : List Char} {segments : List (List Char)} :
    Cut text segments ↔ split text = segments := by
  constructor
  · intro h
    induction h with
    | last h => exact split_of_not_isInfix h
    | first h _ ih => rw [split_append_of_not_isInfix h, ih]
  · rintro rfl
    exact cut_split text

/-! ## Joins of fewer segments -/

theorem join_append {front back : List (List Char)} (hf : front ≠ []) (hb : back ≠ []) :
    join (front ++ back) = join front ++ delimiter ++ join back := by
  induction front with
  | nil => exact absurd rfl hf
  | cons segment rest ih =>
    by_cases hr : rest = []
    · subst hr; exact join_cons _ hb
    · rw [List.cons_append, join_cons _ (by simp [hr]), ih hr, join_cons _ hr]
      simp

theorem join_eq_nil_iff {segments : List (List Char)} (h : ∀ segment ∈ segments, segment ≠ []) :
    join segments = [] ↔ segments = [] := by
  refine ⟨fun e => ?_, fun e => by rw [e]; rfl⟩
  cases segments with
  | nil => rfl
  | cons segment rest =>
    have hs := h segment List.mem_cons_self
    by_cases hr : rest = []
    · subst hr; exact absurd e hs
    · rw [join_cons _ hr] at e
      simp [hs] at e

theorem join_isPrefix (front back : List (List Char)) : join front <+: join (front ++ back) := by
  by_cases hf : front = []
  · subst hf; exact List.nil_prefix
  by_cases hb : back = []
  · subst hb; simp
  · rw [join_append hf hb, List.append_assoc]
    exact List.prefix_append _ _

theorem join_ne_join_append {front back : List (List Char)} (hb : back ≠ [])
    (h : ∀ segment ∈ back, segment ≠ []) : join front ≠ join (front ++ back) := by
  by_cases hf : front = []
  · subst hf
    exact fun e => hb ((join_eq_nil_iff h).mp e.symm)
  · rw [join_append hf hb, List.append_assoc]
    intro e
    simpa [delimiter] using congrArg List.length e

/-! ## Delimiters at the start -/

theorem dropDelimiters_suffix (text : List Char) : dropDelimiters text <:+ text := by
  fun_induction dropDelimiters text with
  | case1 rest ih => exact ih.trans (List.suffix_append delimiter rest)
  | case2 => exact List.suffix_rfl

theorem not_delimiter_prefix_dropDelimiters (text : List Char) :
    ¬ delimiter <+: dropDelimiters text := by
  fun_induction dropDelimiters text with
  | case1 rest ih => exact ih
  | case2 text h =>
    rintro ⟨rest, rfl⟩
    exact h rest rfl

theorem dropDelimiters_of_not_isPrefix {text : List Char} (h : ¬ delimiter <+: text) :
    dropDelimiters text = text := by
  fun_cases dropDelimiters text with
  | case1 rest => exact absurd (List.prefix_append delimiter rest) h
  | case2 => rfl

/-! ## The last delimiter -/

theorem splitLast?_eq_append {text front leaf : List Char}
    (h : splitLast? text = some (front, leaf)) : front ++ leaf = text := by
  fun_induction splitLast? text generalizing front leaf with
  | case1 => cases h
  | case2 c rest inner found hs ih =>
    cases h
    rw [List.cons_append, ih hs]
  | case3 => cases h; rfl
  | case4 => cases h

theorem splitLast?_cons {rest front leaf : List Char} (h : splitLast? rest = some (front, leaf))
    (c : Char) : splitLast? (c :: rest) = some (c :: front, leaf) := by
  unfold splitLast?
  rw [h]

/-- A character that starts no delimiter makes none the last one. -/
theorem splitLast?_cons_eq_none {c : Char} {rest : List Char} (h : splitLast? rest = none)
    (hc : ∀ leaf, c :: rest ≠ ':' :: ':' :: leaf) : splitLast? (c :: rest) = none := by
  unfold splitLast?
  rw [h]
  dsimp only
  split
  · next leaf => exact absurd rfl (hc leaf)
  · rfl

theorem splitLast?_eq_none_iff (text : List Char) :
    splitLast? text = none ↔ ¬ delimiter <:+: text := by
  induction text with
  | nil => simp [splitLast?, delimiter]
  | cons c rest ih =>
    rw [List.infix_cons_iff, not_or, ← ih]
    constructor
    · intro h
      cases hs : splitLast? rest with
      | some parts => rw [splitLast?_cons hs] at h; cases h
      | none =>
        refine ⟨?_, rfl⟩
        rintro ⟨leaf, he⟩
        obtain ⟨rfl, rfl⟩ := List.cons.inj he
        unfold splitLast? at h
        rw [hs] at h
        cases h
    · rintro ⟨hstart, hrest⟩
      refine splitLast?_cons_eq_none hrest ?_
      intro leaf he
      exact hstart (he ▸ List.prefix_append delimiter leaf)

theorem splitLast?_of_not_mem {leaf : List Char} (h : ':' ∉ leaf) : splitLast? leaf = none :=
  (splitLast?_eq_none_iff leaf).mpr fun hin => h (hin.subset List.mem_cons_self)

/-- A text is cut behind a delimiter where none starts behind its first colon. -/
theorem splitLast?_append_of_not_isInfix (front : List Char) {leaf : List Char}
    (h : ¬ delimiter <:+: ':' :: leaf) :
    splitLast? (front ++ delimiter ++ leaf) = some (front ++ delimiter, leaf) := by
  induction front with
  | nil =>
    rw [List.nil_append, delimiter, List.cons_append, List.singleton_append]
    unfold splitLast?
    rw [(splitLast?_eq_none_iff _).mpr h]
    rfl
  | cons c front ih => exact splitLast?_cons ih c

/-- A text is cut behind the last delimiter where no colon comes behind it. -/
theorem splitLast?_append_delimiter (front : List Char) {leaf : List Char} (h : ':' ∉ leaf) :
    splitLast? (front ++ delimiter ++ leaf) = some (front ++ delimiter, leaf) :=
  splitLast?_append_of_not_isInfix front
    (not_delimiter_isInfix_of_count_lt (by simp [List.count_eq_zero_of_not_mem h]))

theorem delimiter_suffix_of_splitLast? {text front leaf : List Char}
    (h : splitLast? text = some (front, leaf)) : delimiter <:+ front := by
  fun_induction splitLast? text generalizing front leaf with
  | case1 => cases h
  | case2 c rest inner found hs ih =>
    cases h
    exact (ih hs).trans (List.suffix_cons c inner)
  | case3 => cases h; exact List.suffix_rfl
  | case4 => cases h

/-- No delimiter starts behind the first colon of the one behind which a text is cut. -/
theorem not_isInfix_of_splitLast? {text front leaf : List Char}
    (h : splitLast? text = some (front, leaf)) : ¬ delimiter <:+: ':' :: leaf := by
  fun_induction splitLast? text generalizing front leaf with
  | case1 => cases h
  | case2 c rest inner found hs ih => cases h; exact ih hs
  | case3 leaf hs => cases h; exact (splitLast?_eq_none_iff _).mp hs
  | case4 => cases h

/-- What stands behind the last delimiter of a text, which is all of it where there is none. No
delimiter starts behind the first colon of the last one. -/
inductive LastPart : List Char → List Char → Prop
  | whole {text : List Char} : ¬ delimiter <:+: text → LastPart text text
  | behind (front : List Char) {part : List Char} : ¬ delimiter <:+: ':' :: part →
      LastPart (front ++ delimiter ++ part) part

/-- What comes behind the last delimiter does not move it, if it does not start with a colon. -/
theorem splitLast?_append_cons (text : List Char) {c : Char} {rest : List Char} (hc : c ≠ ':')
    (h : splitLast? (c :: rest) = none) :
    splitLast? (text ++ c :: rest) =
      (splitLast? text).map fun (front, leaf) => (front, leaf ++ c :: rest) := by
  induction text with
  | nil => exact h
  | cons d text ih =>
    rw [List.cons_append]
    cases hs : splitLast? text with
    | some parts =>
      rw [hs] at ih
      rw [splitLast?_cons ih, splitLast?_cons hs]
      rfl
    | none =>
      rw [hs] at ih
      by_cases hd : ∃ leaf, d :: text = ':' :: ':' :: leaf
      · obtain ⟨leaf, he⟩ := hd
        cases he
        unfold splitLast?
        rw [ih, hs]
        rfl
      · rw [splitLast?_cons_eq_none hs fun leaf he => hd ⟨leaf, he⟩,
          splitLast?_cons_eq_none ih ?_]
        · rfl
        · intro leaf he
          cases text with
          | nil => simp [hc] at he
          | cons e text =>
            obtain ⟨rfl, hrest⟩ := List.cons.inj he
            obtain ⟨rfl, -⟩ := List.cons.inj hrest
            exact hd ⟨text, rfl⟩

end ModuleSynthesis.Text
