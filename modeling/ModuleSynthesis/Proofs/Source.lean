import Mathlib.Logic.Relation
import ModuleSynthesis.Source

/-!
# Fragments and lines

The text of a unit is a row of lines, and it makes no difference how the fragments cut them.

* `SourceUnit.MadeOf`: what a unit says of its making.
* `Recut`: one step of cutting fragments in another way. A fragment gets the line feed that it does
  not end with, or it is cut behind one of its line feeds.
* `Recut.body_eq`: such a step keeps the text between the header and the trailer.
* `exists_lines`: all fragments can be recut into single lines, and the text tells which ones
  (`eq_of_body_eq`).
* `Style.render_eq_iff`: so fragments have one text exactly if they can be recut into each other.
-/

namespace ModuleSynthesis

/-! ## What a unit is made of -/

/-- A unit says of its making what it was: the name and the fragments, the loader and the pattern;
and its text is the one that the style makes of them. -/
structure SourceUnit.MadeOf (unit : SourceUnit) (style : Style) (name loader pattern : String)
    (fragments : List String) : Prop where
  name_eq : unit.name = name
  loader_eq : unit.loader = loader
  pattern_eq : unit.pattern = pattern
  fragments_eq : unit.fragments = fragments
  source_eq : unit.source = style.render name fragments

theorem SourceUnit.madeOf_iff {unit : SourceUnit} {style : Style} {name loader pattern : String}
    {fragments : List String} : unit.MadeOf style name loader pattern fragments ↔
      unit = .assemble style name loader pattern fragments := by
  constructor
  · rintro ⟨rfl, rfl, rfl, rfl, hsource⟩
    exact congrArg (fun source => { unit with source }) hsource
  · rintro rfl
    exact ⟨rfl, rfl, rfl, rfl, rfl⟩

/-! ## Cutting in another way -/

/-- One step of cutting fragments in another way, at any place of their row. -/
inductive Recut : List String → List String → Prop
  /-- A fragment that does not end with a line feed gets one. -/
  | ended (before after : List String) {fragment : String} (h : ∀ text, fragment ≠ text ++ "\n") :
    Recut (before ++ fragment :: after) (before ++ (fragment ++ "\n") :: after)
  /-- A fragment is cut behind a line feed that something follows. -/
  | cut (before after : List String) (front : String) {back : String} (h : back ≠ "") :
    Recut (before ++ (front ++ "\n" ++ back) :: after)
      (before ++ (front ++ "\n") :: back :: after)

variable {fragments others : List String}

theorem toList_append_lineFeed (text : String) : (text ++ "\n").toList = text.toList ++ ['\n'] :=
  String.toList_append

namespace Style

/-! ## Lines of a text -/

theorem line_concat (text : List Char) : line (text ++ ['\n']) = text ++ ['\n'] := by
  rw [line, List.getLast?_concat, if_pos rfl]

theorem line_of_ne {text : List Char} (h : ∀ front, text ≠ front ++ ['\n']) :
    line text = text ++ ['\n'] := by
  rw [line, if_neg]
  intro hlast
  obtain ⟨front, hfront⟩ := List.getLast?_eq_some_iff.mp hlast
  exact h front hfront

theorem line_append (front : List Char) {back : List Char} (h : back ≠ []) :
    line (front ++ back) = front ++ line back := by
  have hlast : (front ++ back).getLast? = back.getLast? := by
    rw [List.getLast?_append, List.getLast?_eq_some_getLast h, Option.some_or]
  rw [line, line, hlast]
  split
  · rfl
  · rw [List.append_assoc]

/-- A text that is made a line ends with a line feed. -/
theorem exists_line_eq_concat (text : List Char) : ∃ front, line text = front ++ ['\n'] := by
  rw [line]
  split
  · next hlast => exact List.getLast?_eq_some_iff.mp hlast
  · exact ⟨text, rfl⟩

/-! ## The text between the header and the trailer -/

/-- The text that fragments come to. -/
def body (fragments : List String) : List Char :=
  fragments.flatMap (line ·.toList)

theorem body_append (before after : List String) :
    body (before ++ after) = body before ++ body after :=
  List.flatMap_append

theorem body_cons (fragment : String) (after : List String) :
    body (fragment :: after) = line fragment.toList ++ body after :=
  List.flatMap_cons

/-- The header and the trailer are the same whatever the fragments are. -/
theorem render_eq_render_iff (style : Style) (name : String) :
    style.render name fragments = style.render name others ↔ body fragments = body others := by
  rw [render, render, String.ofList_inj, renderChars, renderChars, List.append_cancel_left_eq,
    List.append_cancel_right_eq, body, body]

end Style

open Style

/-! ## Cutting in another way -/

/-- A step keeps the text. -/
theorem Recut.body_eq (h : Recut fragments others) : body fragments = body others := by
  cases h with
  | @ended before after fragment h =>
    have hne : ∀ front, fragment.toList ≠ front ++ ['\n'] := fun front hfront =>
      h (String.ofList front) (String.toList_inj.mp (by
        rw [hfront, toList_append_lineFeed, String.toList_ofList]))
    rw [body_append, body_append, body_cons, body_cons, toList_append_lineFeed, line_of_ne hne,
      line_concat]
  | @cut before after front back h =>
    have hne : back.toList ≠ [] := fun hback => h (String.toList_inj.mp hback)
    rw [body_append, body_append, body_cons, body_cons, body_cons, String.toList_append,
      line_append _ hne, toList_append_lineFeed, line_concat, List.append_assoc]

/-- So do steps one after another, in either direction. -/
theorem body_eq_of_eqvGen (h : Relation.EqvGen Recut fragments others) :
    body fragments = body others := by
  induction h with
  | rel _ _ step => exact step.body_eq
  | refl => rfl
  | symm _ _ _ ih => exact ih.symm
  | trans _ _ _ _ _ ih ih' => exact ih.trans ih'

/-! ## Single lines -/

/-- A line as a fragment of its own. -/
def endedLine (line : List Char) : String :=
  String.ofList (line ++ ['\n'])

theorem toList_endedLine (line : List Char) : (endedLine line).toList = line ++ ['\n'] :=
  String.toList_ofList

theorem endedLine_eq (line : List Char) : endedLine line = String.ofList line ++ "\n" :=
  String.ofList_append

/-- A fragment can be recut into single lines, wherever it stands. -/
theorem exists_lines_of_fragment (text : List Char) :
    ∃ lines : List (List Char), (∀ line ∈ lines, '\n' ∉ line) ∧ ∀ before after,
      Relation.EqvGen Recut (before ++ String.ofList text :: after)
        (before ++ lines.map endedLine ++ after) := by
  by_cases hmem : '\n' ∈ text
  · -- The first line is cut off, and what is left of the text is shorter.
    obtain ⟨front, back, rfl, hfront⟩ := List.eq_append_cons_of_mem hmem
    by_cases hback : back = []
    · subst hback
      refine ⟨[front], by simpa using hfront, fun before after => ?_⟩
      rw [List.append_assoc]
      exact .refl _
    · obtain ⟨lines, hlines, hrecut⟩ := exists_lines_of_fragment back
      refine ⟨front :: lines, by simpa using ⟨hfront, hlines⟩, fun before after => ?_⟩
      have hne : String.ofList back ≠ "" := fun h => hback (String.ofList_eq_empty_iff.mp h)
      have hcut := Recut.cut before after (String.ofList front) hne
      have hrest := hrecut (before ++ [endedLine front]) after
      have htext : String.ofList (front ++ '\n' :: back) =
          String.ofList front ++ "\n" ++ String.ofList back := by
        rw [← endedLine_eq, endedLine, ← String.ofList_append, List.append_assoc,
          List.singleton_append]
      rw [← htext, ← endedLine_eq] at hcut
      rw [List.append_assoc, List.singleton_append, List.append_assoc, List.append_assoc,
        List.singleton_append] at hrest
      rw [List.map_cons, List.append_assoc, List.cons_append]
      exact .trans _ _ _ (.rel _ _ hcut) hrest
  · have hne : ∀ front, String.ofList text ≠ front ++ "\n" := fun front hfront => by
      rw [← String.toList_inj, String.toList_ofList, toList_append_lineFeed] at hfront
      exact hmem (hfront ▸ List.mem_append_right _ List.mem_cons_self)
    refine ⟨[text], by simpa using hmem, fun before after => ?_⟩
    rw [List.append_assoc, List.map_singleton, List.singleton_append, endedLine_eq]
    exact .rel _ _ (.ended before after hne)
termination_by text.length

/-- Fragments can be recut into single lines. -/
theorem exists_lines (fragments : List String) :
    ∃ lines : List (List Char), (∀ line ∈ lines, '\n' ∉ line) ∧ ∀ before,
      Relation.EqvGen Recut (before ++ fragments) (before ++ lines.map endedLine) := by
  induction fragments with
  | nil => exact ⟨[], by simp, fun before => .refl _⟩
  | cons fragment fragments ih =>
    obtain ⟨first, hfirst, hfragment⟩ := exists_lines_of_fragment fragment.toList
    obtain ⟨rest, hrest, hfragments⟩ := ih
    refine ⟨first ++ rest, fun line hline => ?_, fun before => ?_⟩
    · exact (List.mem_append.mp hline).elim (hfirst line) (hrest line)
    · have hstep := hfragment before fragments
      rw [String.ofList_toList] at hstep
      rw [List.map_append, ← List.append_assoc]
      exact .trans _ _ _ hstep (hfragments (before ++ first.map endedLine))

/-- A line feed ends the first line of a text. -/
theorem eq_of_append_lineFeed {front other rest later : List Char} (hfront : '\n' ∉ front)
    (hother : '\n' ∉ other) (h : front ++ '\n' :: rest = other ++ '\n' :: later) :
    front = other ∧ rest = later := by
  have htake (line rest : List Char) (hline : '\n' ∉ line) :
      (line ++ '\n' :: rest).takeWhile (· ≠ '\n') = line := by
    rw [List.takeWhile_append_of_pos, List.takeWhile_cons_of_neg (by simp), List.append_nil]
    intro c hc
    simpa using fun heq : c = '\n' => hline (heq ▸ hc)
  have hsame : front = other := by rw [← htake front rest hfront, h, htake other later hother]
  subst hsame
  exact ⟨rfl, (List.cons.inj (List.append_cancel_left h)).2⟩

/-- The text tells which lines the fragments are. -/
theorem eq_of_body_eq {lines others : List (List Char)} (hlines : ∀ line ∈ lines, '\n' ∉ line)
    (hothers : ∀ line ∈ others, '\n' ∉ line)
    (h : body (lines.map endedLine) = body (others.map endedLine)) : lines = others := by
  have hcons (line : List Char) (lines : List (List Char)) :
      body ((line :: lines).map endedLine) = line ++ '\n' :: body (lines.map endedLine) := by
    rw [List.map_cons, body_cons, toList_endedLine, line_concat, List.append_assoc,
      List.singleton_append]
  induction lines generalizing others with
  | nil =>
    cases others with
    | nil => rfl
    | cons other others =>
      rw [hcons] at h
      exact absurd h.symm (List.append_ne_nil_of_right_ne_nil _ (List.cons_ne_nil _ _))
  | cons line lines ih =>
    cases others with
    | nil =>
      rw [hcons] at h
      exact absurd h (List.append_ne_nil_of_right_ne_nil _ (List.cons_ne_nil _ _))
    | cons other others =>
      rw [hcons, hcons] at h
      obtain ⟨rfl, hrest⟩ := eq_of_append_lineFeed (hlines _ List.mem_cons_self)
        (hothers _ List.mem_cons_self) h
      rw [ih (fun l hl => hlines l (List.mem_cons_of_mem _ hl))
        (fun l hl => hothers l (List.mem_cons_of_mem _ hl)) hrest]

/-- Under every style and for every name, fragments have the same text exactly if they can be recut
into each other: a fragment may get the line feed that it does not end with, and it may be cut
behind each of its line feeds. Every text ends with a line feed. -/
theorem Style.render_eq_iff (style : Style) (name : String) (fragments others : List String) :
    (style.render name fragments = style.render name others ↔
      Relation.EqvGen Recut fragments others) ∧
    ∃ text, style.render name fragments = text ++ "\n" := by
  refine ⟨?_, ?_⟩
  · rw [render_eq_render_iff]
    refine ⟨fun h => ?_, body_eq_of_eqvGen⟩
    obtain ⟨lines, hlines, hrecut⟩ := exists_lines fragments
    obtain ⟨rest, hrest, hother⟩ := exists_lines others
    -- both are recut into lines, which are the same since their texts are
    have hfirst : Relation.EqvGen Recut fragments (lines.map endedLine) := hrecut []
    have hsecond : Relation.EqvGen Recut others (rest.map endedLine) := hother []
    have hsame : lines = rest := eq_of_body_eq hlines hrest
      ((body_eq_of_eqvGen hfirst).symm.trans (h.trans (body_eq_of_eqvGen hsecond)))
    rw [← hsame] at hsecond
    exact .trans _ _ _ hfirst (.symm _ _ hsecond)
  · obtain ⟨front, hfront⟩ := exists_line_eq_concat style.trailer.toList
    rw [render, renderChars, hfront, ← List.append_assoc, ← List.append_assoc, String.ofList_append]
    exact ⟨_, rfl⟩

example : ({} : Style).render "App::Page" ["use utf8;\n\nour $page;", ""] =
    ({} : Style).render "App::Page" ["use utf8;\n", "\n", "our $page;\n", "\n"] := by decide

end ModuleSynthesis
