import ModuleSynthesis.Proofs.Glob.Captures

/-!
# `**` several times in a row

A wildcard takes all it can, and of `**` side by side the first one can take what the others would.
So the others stand for nothing, whatever comes before and behind them.

* `insertCopies`: a list with copies of an item put in.
* `Row.longestRun_of_stops`: only the answers behind which a longest run stops matter for it.
* `Row.longestRun_longestRun`: behind a longest run, another one of the same kind is empty.
* `Token.search_append_insertCopies`: copies put into what is found, with other tokens in front.
* `Token.search_replicate_many`: the answer for `**` several times in a row.
* `Glob.repeated_many_captures`: a glob with `**` several times in a row matches the same names.
-/

namespace ModuleSynthesis

open Text

/-! ## Copies of an item in a list -/

section

variable {α β : Type}

/-- A list with copies of an item put in behind so many of its items. -/
def insertCopies (position count : Nat) (item : α) (items : List α) : List α :=
  items.take position ++ List.replicate count item ++ items.drop position

@[simp]
theorem insertCopies_zero (position : Nat) (item : α) (items : List α) :
    insertCopies position 0 item items = items := by
  simp [insertCopies]

theorem insertCopies_cons (position count : Nat) (item first : α) (items : List α) :
    insertCopies (position + 1) count item (first :: items) =
      first :: insertCopies position count item items := rfl

theorem insertCopies_append (position count : Nat) (item : α) (front items : List α) :
    insertCopies (front.length + position) count item (front ++ items) =
      front ++ insertCopies position count item items := by
  simp [insertCopies, List.take_length_add_append, List.drop_length_add_append]

/-- Copies put in right behind a copy. -/
theorem insertCopies_insertCopies (position count : Nat) (item : α) (items : List α) :
    insertCopies (position + 1) count item (insertCopies position 1 item items) =
      insertCopies position (count + 1) item items := by
  induction position generalizing items with
  | zero => rfl
  | succ position ih =>
    cases items with
    | nil => simp [insertCopies, List.replicate_succ]
    | cons first items => simp only [insertCopies_cons, ih]

theorem map_insertCopies (f : α → β) (position count : Nat) (item : α) (items : List α) :
    (insertCopies position count item items).map f =
      insertCopies position count (f item) (items.map f) := by
  simp [insertCopies]

end

namespace Row

variable {ι β β' : Type} {admissible : ι → Bool}

/-- A longest run stays the same for other answers, if these are changes of the answers wherever the
longest run is empty. -/
theorem longestRun_of_stops {answer : List ι → Option β} {other : List ι → Option β'}
    (change : β → β')
    (h : ∀ rest, longestRun admissible answer rest = (answer rest).map ([], ·) →
      other rest = (answer rest).map change) (items : List ι) :
    longestRun admissible other items =
      (longestRun admissible answer items).map fun (run, found) => (run, change found) := by
  induction items with
  | nil => simp [longestRun, h [] rfl, Function.comp_def]
  | cons item items ih =>
    cases hrun : (if admissible item then longestRun admissible answer items else none) with
    | some found =>
      have hitem : admissible item := by
        by_contra hn
        rw [if_neg hn] at hrun
        cases hrun
      rw [if_pos hitem] at hrun
      simp [longestRun, hitem, ih, hrun]
    | none =>
      have hstop : longestRun admissible answer (item :: items) =
          (answer (item :: items)).map ([], ·) := by
        rw [longestRun, hrun]
      have hother :
          (if admissible item then longestRun admissible other items else none) = none := by
        rw [ih]
        split at hrun <;> simp_all
      rw [longestRun, hother, hstop, h _ hstop]
      simp [Function.comp_def]

/-- A change of what is found behind a longest run leaves the run alone. -/
theorem longestRun_map (answer : List ι → Option β) (change : β → β') (items : List ι) :
    longestRun admissible (fun rest => (answer rest).map change) items =
      (longestRun admissible answer items).map fun (run, found) => (run, change found) :=
  longestRun_of_stops change (fun _ _ => rfl) items

/-- Behind a longest run, another one of the same kind is empty. -/
theorem longestRun_longestRun (answer : List ι → Option β) (items : List ι) :
    longestRun admissible (longestRun admissible answer) items =
      (longestRun admissible answer items).map fun (run, found) => (run, [], found) :=
  longestRun_of_stops ([], ·) (fun _ hstop => hstop) items

/-- Copies put into what is found behind one segment. -/
theorem segmentThen_insertCopies {take? : List Char → Option (List β)} {count : Nat}
    (htake : ∀ segment mine, take? segment = some mine → mine.length = count)
    (answer : List (List Char) → Option (List β)) (position copies : Nat) (item : β)
    (segments : List (List Char)) :
    segmentThen take? (fun rest => (answer rest).map (insertCopies position copies item)) segments =
      (segmentThen take? answer segments).map (insertCopies (count + position) copies item) := by
  cases segments with
  | nil => rfl
  | cons segment rest =>
    rw [segmentThen, segmentThen]
    cases answer rest with
    | none => rfl
    | some later =>
      cases hmine : take? segment with
      | none => rfl
      | some mine => simp [← htake segment mine hmine, insertCopies_append]

end Row

theorem length_of_gapSearch {pieces : List String} {text : List Char} {gaps : List (List Char)}
    (h : gapSearch (pieces.map String.toList) text = some gaps) :
    gaps.length = pieces.length - 1 := by
  by_cases hne : pieces = []
  · subst hne
    rw [List.map_nil, gapSearch, Row.atEnd] at h
    split at h <;> cases h
    rfl
  · have hlongest := gapSearch_isLongest hne text
    rw [h] at hlongest
    exact interleaves_length hlongest.1

namespace Token

/-- Copies put into what is found behind a token. -/
theorem andThen_insertCopies (token : Token) (answer : List (List Char) → Option (List Run))
    (position copies : Nat) (item : Run) (segments : List (List Char)) :
    token.andThen (fun rest => (answer rest).map (insertCopies position copies item)) segments =
      (token.andThen answer segments).map
        (insertCopies (token.wildcards + position) copies item) := by
  cases token with
  | literal text =>
    refine Row.segmentThen_insertCopies (fun segment mine h => ?_) answer position copies item
      segments
    split at h <;> cases h
    rfl
  | one =>
    refine Row.segmentThen_insertCopies (fun segment mine h => ?_) answer position copies item
      segments
    split at h <;> cases h
    rfl
  | many =>
    simp only [andThen, Row.longestRun_map, Option.map_map, wildcards]
    congr 1
    funext pair
    rw [Nat.add_comm]
    rfl
  | pieced pieces =>
    refine Row.segmentThen_insertCopies (fun segment mine h => ?_) answer position copies item
      segments
    obtain ⟨gaps, hgaps, rfl⟩ := Option.map_eq_some_iff.mp h
    rw [List.length_map, wildcards, length_of_gapSearch hgaps]

/-- Copies put into what is found for tokens, with others in front. -/
theorem search_append_insertCopies {tokens others : List Token} {position copies : Nat}
    {item : Run} (h : ∀ segments, search others segments =
      (search tokens segments).map (insertCopies position copies item))
    (front : List Token) (segments : List (List Char)) :
    search (front ++ others) segments =
      (search (front ++ tokens) segments).map
        (insertCopies (wildcardsOf front + position) copies item) := by
  induction front generalizing segments with
  | nil => simpa [wildcardsOf] using h segments
  | cons token front ih =>
    have hanswer : search (front ++ others) = fun rest => (search (front ++ tokens) rest).map
        (insertCopies (wildcardsOf front + position) copies item) := funext ih
    rw [List.cons_append, search, hanswer, andThen_insertCopies, wildcardsOf, Nat.add_assoc]
    rfl

theorem search_many_many (tokens : List Token) (segments : List (List Char)) :
    search (.many :: .many :: tokens) segments =
      (search (.many :: tokens) segments).map (insertCopies 1 1 []) := by
  simp only [search, andThen]
  rw [Row.longestRun_map, Row.longestRun_longestRun]
  simp only [Option.map_map]
  rfl

/-- Of `**` several times in a row the first stands for as much as one would, and the others stand
for nothing. -/
theorem search_replicate_many (tokens : List Token) (copies : Nat)
    (segments : List (List Char)) :
    search (List.replicate (copies + 1) .many ++ tokens) segments =
      (search (.many :: tokens) segments).map (insertCopies 1 copies []) := by
  induction copies generalizing segments with
  | zero => simp [show insertCopies 1 0 ([] : Run) = id from funext fun _ => insertCopies_zero ..]
  | succ copies ih =>
    have hfront := search_append_insertCopies ih [.many] segments
    rw [List.singleton_append, List.singleton_append, search_many_many, Option.map_map] at hfront
    rw [List.replicate_succ, List.cons_append, hfront]
    congr 1
    exact funext fun runs => insertCopies_insertCopies 1 copies [] runs

end Token

namespace Glob

theorem captures?_of_replicate_many {glob longer : Glob} {before after : List Token} {copies : Nat}
    (h : glob.tokens = before ++ .many :: after)
    (h' : longer.tokens = before ++ List.replicate (copies + 1) .many ++ after) (name : String) :
    longer.captures? name =
      (glob.captures? name).map (insertCopies (Token.wildcardsOf before + 1) copies "") := by
  have hsearch := Token.search_append_insertCopies (Token.search_replicate_many after copies)
    before (subject name)
  rw [captures?, captures?, Token.capturesOf?_eq, Token.capturesOf?_eq, h, h', List.append_assoc,
    hsearch]
  simp only [Option.map_map]
  congr 1
  funext runs
  simp only [Function.comp_apply, map_insertCopies]
  rfl

/-- Where a glob has `**` as a segment, a glob with this segment written several times in a row
matches the same names, and the captures are the same, but for an empty one for each copy, right
behind the capture of the segment. -/
theorem repeated_many_captures (glob : Glob) {front back : List (List Char)}
    (h : split glob.text.toList = front ++ ['*', '*'] :: back) (copies : Nat) {text : String}
    (htext : text = textWith (front ++ List.replicate (copies + 1) ['*', '*'] ++ back))
    (hsize : compile text ≠ .error (.tooLarge text)) :
    ∃ longer, compile text = .ok longer ∧ ∀ name,
      (longer.isMatch name ↔ glob.isMatch name) ∧
      longer.captures? name = (glob.captures? name).map
        (insertCopies (Token.wildcardsOf (glob.tokens.take front.length) + 1) copies "") := by
  rw [← List.singleton_append, ← List.append_assoc] at h
  obtain ⟨before, inside, after, htokens, hlength, hinside, hreplaced⟩ := glob.exists_replaced h
  obtain ⟨longer, hlonger, htokens'⟩ :=
    hreplaced (List.replicate (copies + 1) .many) (by simp) (by simp [Token.IsProper]) text
      (by rw [htext, List.map_replicate]; rfl) hsize
  have hmany : inside = [.many] := by
    obtain ⟨token, rfl, hchars⟩ := List.map_eq_singleton_iff.mp hinside
    have hproper := glob.isProper_tokens token (by simp [htokens])
    have hstars : Token.many.IsProper := trivial
    rw [hproper.chars_inj hstars hchars]
  rw [hmany, List.append_assoc, List.singleton_append] at htokens
  refine ⟨longer, hlonger, fun name => ?_⟩
  have hcaptures := captures?_of_replicate_many htokens htokens' name
  have hbefore : glob.tokens.take front.length = before := by
    rw [htokens, ← hlength, List.take_left]
  rw [hbefore]
  refine ⟨?_, hcaptures⟩
  rw [isMatch_eq, isMatch_eq, hcaptures, Option.isSome_map]

/-- A `**` behind which other wildcards compete for the same segments. -/
def viewTree : Glob :=
  ⟨"App::**::*View::**", [.literal "App", .many, .pieced ["", "View"], .many], by decide, by decide⟩

/-- The same with the first `**` three times in a row. -/
def viewTreeThrice : Glob :=
  ⟨"App::**::**::**::*View::**",
    [.literal "App", .many, .many, .many, .pieced ["", "View"], .many], by decide, by decide⟩

theorem viewTree_repeated_many :
    split viewTree.text.toList =
        ["App".toList] ++ ['*', '*'] :: ["*View".toList, ['*', '*']] ∧
      viewTreeThrice.text = textWith (["App".toList] ++ List.replicate (2 + 1) ['*', '*'] ++
        ["*View".toList, ['*', '*']]) ∧
      compile viewTreeThrice.text ≠ .error (.tooLarge viewTreeThrice.text) ∧
      ∃ longer, compile viewTreeThrice.text = .ok longer ∧ ∀ name,
        (longer.isMatch name ↔ viewTree.isMatch name) ∧
        longer.captures? name = (viewTree.captures? name).map
          (insertCopies (Token.wildcardsOf (viewTree.tokens.take 1) + 1) 2 "") :=
  have hsplit : split viewTree.text.toList =
      ["App".toList] ++ ['*', '*'] :: ["*View".toList, ['*', '*']] := by decide
  have htext : viewTreeThrice.text = textWith (["App".toList] ++
      List.replicate (2 + 1) ['*', '*'] ++ ["*View".toList, ['*', '*']]) := by decide
  have hsize := viewTreeThrice.compile_text_ne_tooLarge
  ⟨hsplit, htext, hsize, repeated_many_captures viewTree hsplit 2 htext hsize⟩

example : viewTree.captures? "App::A::BView::CView::D" = some ["A::BView", "C", "D"] := by decide

example :
    viewTreeThrice.captures? "App::A::BView::CView::D" = some ["A::BView", "", "", "C", "D"] := by
  decide

end Glob

end ModuleSynthesis
