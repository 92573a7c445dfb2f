import ModuleSynthesis.Proofs.Glob.Captures

/-!
# Wider globs

Each token takes whole segments of a name, none of them empty and none with a colon. So `**` takes
what any tokens side by side take, and `*` what a token takes that stands for one segment.

* `Token.Accepts`: tokens can take segments, whatever their wildcards stand for.
* `Token.accepts_append_iff`: tokens side by side take segments side by side.
* `Token.Takes.isWhole`: the segments that a proper token takes are whole.
* `Glob.Widens`: a text compiles to a glob that matches all the names that another one matches.
* `Glob.widens_replaced`: a glob widens with a block of its segments replaced by `**`, and with a
  segment that is not `**` replaced by `*`.
-/

namespace ModuleSynthesis

open Text

theorem mem_of_interleaves {pieces : List String} {gaps : List (List Char)} {text : List Char}
    (h : Interleaves pieces gaps text) {piece : String} (hp : piece ∈ pieces) {c : Char}
    (hc : c ∈ piece.toList) : c ∈ text := by
  induction h with
  | last first => rwa [← List.mem_singleton.mp hp]
  | more first gap _ _ ih =>
    rw [List.append_assoc, List.mem_append, List.mem_append]
    rcases List.mem_cons.mp hp with rfl | hp
    · exact .inl hc
    · exact .inr (.inr (ih hp))

namespace Token

/-! ## Taking segments -/

/-- Tokens can take segments. -/
def Accepts (tokens : List Token) (segments : List (List Char)) : Prop :=
  ∃ runs, TakesAll tokens runs segments

theorem accepts_cons_iff {token : Token} {tokens : List Token} {segments : List (List Char)} :
    Accepts (token :: tokens) segments ↔
      ∃ front back, segments = front ++ back ∧ (∃ runs, Takes token runs front) ∧
        Accepts tokens back := by
  constructor
  · rintro ⟨_, h⟩
    cases h with
    | cons htoken htokens => exact ⟨_, _, rfl, ⟨_, htoken⟩, _, htokens⟩
  · rintro ⟨front, back, rfl, ⟨runs, htoken⟩, later, htokens⟩
    exact ⟨_, .cons htoken htokens⟩

/-- Tokens side by side take segments side by side. -/
theorem accepts_append_iff {tokens others : List Token} {segments : List (List Char)} :
    Accepts (tokens ++ others) segments ↔
      ∃ front back, segments = front ++ back ∧ Accepts tokens front ∧ Accepts others back := by
  constructor
  · intro h
    induction tokens generalizing segments with
    | nil => exact ⟨[], segments, rfl, ⟨[], .nil⟩, h⟩
    | cons token tokens ih =>
      obtain ⟨first, rest, rfl, htoken, hrest⟩ := accepts_cons_iff.mp h
      obtain ⟨front, back, rfl, hfront, hback⟩ := ih hrest
      exact ⟨first ++ front, back, (List.append_assoc ..).symm,
        accepts_cons_iff.mpr ⟨first, front, rfl, htoken, hfront⟩, hback⟩
  · rintro ⟨front, back, rfl, hfront, hback⟩
    induction tokens generalizing front with
    | nil =>
      obtain ⟨_, ⟨⟩⟩ := hfront
      exact hback
    | cons token tokens ih =>
      obtain ⟨first, rest, rfl, htoken, hrest⟩ := accepts_cons_iff.mp hfront
      exact accepts_cons_iff.mpr
        ⟨first, rest ++ back, List.append_assoc .., htoken, ih rest hrest⟩

/-- Where tokens can take what others take, they can do so among the same tokens. -/
theorem Accepts.replace {inside wider : List Token}
    (h : ∀ segments, Accepts inside segments → Accepts wider segments)
    {before after : List Token} {segments : List (List Char)}
    (ha : Accepts (before ++ inside ++ after) segments) :
    Accepts (before ++ wider ++ after) segments := by
  obtain ⟨left, back, rfl, hleft, hback⟩ := accepts_append_iff.mp ha
  obtain ⟨front, middle, rfl, hfront, hmiddle⟩ := accepts_append_iff.mp hleft
  refine accepts_append_iff.mpr ⟨_, back, rfl, ?_, hback⟩
  exact accepts_append_iff.mpr ⟨front, middle, rfl, hfront, h middle hmiddle⟩

/-! ## Whole segments -/

/-- The segments that a proper token takes are whole. -/
theorem Takes.isWhole {token : Token} {runs : List Run} {segments : List (List Char)}
    (h : Takes token runs segments) (hp : token.IsProper) :
    ∀ segment ∈ segments, isWhole segment := by
  have hcolon := h.colon_not_mem hp.isPlain
  suffices hne : ∀ segment ∈ segments, segment ≠ [] from
    fun segment hs => isWhole_iff.mpr ⟨hne segment hs, hcolon segment hs⟩
  cases h with
  | literal text => simpa using hp.1
  | one h => simpa using ne_nil_of_isWhole h
  | many h => exact fun segment hs => ne_nil_of_isWhole (h segment hs)
  | @pieced pieces _ text h =>
    obtain ⟨piece, hpiece, hne⟩ := ProperPieces.exists_ne_empty hp
    obtain ⟨c, hc⟩ := List.exists_mem_of_ne_nil _ (mt String.toList_eq_nil_iff.mp hne)
    simpa using List.ne_nil_of_mem (mem_of_interleaves h hpiece hc)

theorem Accepts.isWhole {tokens : List Token} {segments : List (List Char)}
    (h : Accepts tokens segments) (hp : ∀ token ∈ tokens, token.IsProper) :
    ∀ segment ∈ segments, isWhole segment := by
  obtain ⟨runs, h⟩ := h
  induction h with
  | nil => simp
  | cons htoken _ ih =>
    intro segment hs
    rcases List.mem_append.mp hs with hs | hs
    · exact htoken.isWhole (hp _ List.mem_cons_self) segment hs
    · exact ih (fun t ht => hp t (List.mem_cons_of_mem _ ht)) segment hs

/-- `**` takes what proper tokens take. -/
theorem Accepts.many {tokens : List Token} {segments : List (List Char)}
    (h : Accepts tokens segments) (hp : ∀ token ∈ tokens, token.IsProper) :
    Accepts [.many] segments :=
  accepts_cons_iff.mpr ⟨segments, [], (List.append_nil _).symm, ⟨_, .many (h.isWhole hp)⟩, [], .nil⟩

/-- `*` takes what a proper token other than `**` takes. -/
theorem Accepts.one {token : Token} {segments : List (List Char)}
    (h : Accepts [token] segments) (hp : token.IsProper) (hmany : token ≠ .many) :
    Accepts [.one] segments := by
  obtain ⟨runs, h⟩ := h
  obtain ⟨segment, rest, mine, later, rfl, hmine, hlater, rfl⟩ :=
    (takesAll_one_segment_iff hmany).mp h
  obtain ⟨rfl, rfl⟩ := takesAll_nil_iff.mp hlater
  have hwhole := hmine.isWhole hp segment List.mem_cons_self
  exact ⟨[[segment]], .cons (.one hwhole) .nil⟩

end Token

namespace Glob

theorem isMatch_iff_accepts (glob : Glob) (name : String) :
    glob.isMatch name ↔ Token.Accepts glob.tokens (subject name) := by
  rw [isMatch_eq, (glob.captures?_isLongest name).isSome_iff]
  constructor
  · rintro ⟨captures, h⟩
    obtain ⟨runs, h, -⟩ := (glob.fits_iff captures name).mp h
    exact ⟨runs, h⟩
  · rintro ⟨runs, h⟩
    exact ⟨_, (glob.fits_iff _ name).mpr ⟨runs, h, rfl⟩⟩

/-- A text compiles, unless it is refused for its size, to a glob that matches every name that
another one matches. -/
def Widens (glob : Glob) (text : String) : Prop :=
  compile text ≠ .error (.tooLarge text) →
    ∃ wider, compile text = .ok wider ∧ ∀ name, glob.isMatch name → wider.isMatch name

/-- A glob widens where a block of its segments, of any length, is replaced by `**`, and where a
segment other than `**` is replaced by `*`. -/
theorem widens_replaced (glob : Glob) :
    (∀ front block back, split glob.text.toList = front ++ block ++ back →
      glob.Widens (textWith (front ++ [['*', '*']] ++ back))) ∧
    ∀ front segment back, split glob.text.toList = front ++ [segment] ++ back →
      segment ≠ ['*', '*'] → glob.Widens (textWith (front ++ [['*']] ++ back)) := by
  constructor
  · intro front block back h hsize
    obtain ⟨before, inside, after, htokens, -, -, hreplaced⟩ := glob.exists_replaced h
    obtain ⟨wider, hwider, htokens'⟩ := hreplaced [.many] (by simp) (by simp [Token.IsProper])
      _ rfl hsize
    refine ⟨wider, hwider, fun name hname => ?_⟩
    have hproper : ∀ token ∈ inside, token.IsProper := fun token ht =>
      glob.isProper_tokens token (by simp [htokens, ht])
    rw [isMatch_iff_accepts, htokens] at hname
    rw [isMatch_iff_accepts, htokens']
    exact hname.replace fun segments hinside => hinside.many hproper
  · intro front segment back h hne hsize
    obtain ⟨before, inside, after, htokens, -, hinside, hreplaced⟩ := glob.exists_replaced h
    obtain ⟨token, rfl, hchars⟩ := List.map_eq_singleton_iff.mp hinside
    obtain ⟨wider, hwider, htokens'⟩ := hreplaced [.one] (by simp) (by simp [Token.IsProper])
      _ rfl hsize
    refine ⟨wider, hwider, fun name hname => ?_⟩
    have hproper := glob.isProper_tokens token (by simp [htokens])
    have hmany : token ≠ .many := by
      rintro rfl
      exact hne hchars.symm
    rw [isMatch_iff_accepts, htokens] at hname
    rw [isMatch_iff_accepts, htokens']
    exact hname.replace fun segments hinside => hinside.one hproper hmany

/-- A glob with segments of each kind. -/
def listings : Glob :=
  ⟨"App::V*::**::*::List", [.literal "App", .pieced ["V", ""], .many, .one, .literal "List"],
    by decide, by decide⟩

/-- The same with all segments between `App` and `List` replaced by `**`. -/
def listingsBelow : Glob :=
  ⟨"App::**::List", [.literal "App", .many, .literal "List"], by decide, by decide⟩

/-- The same with `V*` replaced by `*`. -/
def listingsBehind : Glob :=
  ⟨"App::*::**::*::List", [.literal "App", .one, .many, .one, .literal "List"],
    by decide, by decide⟩

theorem listings_widens :
    split listings.text.toList = ["App".toList, "V*".toList, ['*', '*'], ['*'], "List".toList] ∧
      (∃ wider, compile listingsBelow.text = .ok wider ∧
        ∀ name, listings.isMatch name → wider.isMatch name) ∧
      ∃ wider, compile listingsBehind.text = .ok wider ∧
        ∀ name, listings.isMatch name → wider.isMatch name := by
  have hsplit : split listings.text.toList =
      ["App".toList, "V*".toList, ['*', '*'], ['*'], "List".toList] := by decide
  have hbelow := (widens_replaced listings).1 ["App".toList]
    ["V*".toList, ['*', '*'], ['*']] ["List".toList] hsplit
  have hbehind := (widens_replaced listings).2 ["App".toList] "V*".toList
    [['*', '*'], ['*'], "List".toList] hsplit (by decide)
  exact ⟨hsplit, hbelow listingsBelow.compile_text_ne_tooLarge,
    hbehind listingsBehind.compile_text_ne_tooLarge⟩

end Glob

end ModuleSynthesis
