import ModuleSynthesis.Proofs.Glob.Captures

/-!
# Globs as regular expressions

A glob stands for a regular expression that is matched with the text of a whole name. Where an
expression can match in several ways it prefers some of them: what is optional is there rather than
not, and what is repeated is repeated as often as possible.

* `Expression.ways`: the ways in which an expression matches at the start of a text, preferred ones
  first.
* `Token.expression`, `Token.expressionOf`: the expressions of a token and of a list of tokens.
* `Token.expressionOf_lists`: the ways to match the expression of tokens are the texts that the
  tokens can stand for.
-/

namespace ModuleSynthesis

open Text

/-- A regular expression, of the kind that globs stand for. -/
inductive Expression where
  /-- A text, literally. -/
  | text (chars : List Char)
  /-- A character other than a colon. -/
  | noColon
  /-- One expression and then another one. -/
  | andThen (first second : Expression)
  /-- A number of matches of an expression without groups, as many as possible. -/
  | repeated (body : Expression)
  /-- An expression or nothing, preferably the expression. -/
  | optional (body : Expression)
  /-- An expression whose match is captured. -/
  | group (body : Expression)

/-- A way to match at the start of a text: the stretch that is matched, and what the groups
capture. -/
structure Way where
  /-- The stretch that is matched. -/
  stretch : List Char
  /-- The captures of the groups, in order; empty for a group that takes no part. -/
  captures : List (List Char)

namespace Way

/-- The way to match nothing. -/
def empty : Way := ⟨[], []⟩

/-- One way and then another one. -/
def append (way later : Way) : Way :=
  ⟨way.stretch ++ later.stretch, way.captures ++ later.captures⟩

end Way

namespace Expression

/-! ## Ways to match -/

/-- The ways to match one thing and then another one. -/
def waysThen (first second : List Char → List Way) (subject : List Char) : List Way :=
  (first subject).flatMap fun way =>
    (second (subject.drop way.stretch.length)).map way.append

/-- The ways to match one thing up to so many times, none of them empty. -/
def waysRepeated (body : List Char → List Way) : Nat → List Char → List Way
  | 0, _ => [.empty]
  | bound + 1, subject =>
    waysThen (fun rest => (body rest).filter (!·.stretch.isEmpty)) (waysRepeated body bound)
      subject ++ [.empty]

/-- The number of groups. -/
def groups : Expression → Nat
  | .text _ | .noColon | .repeated _ => 0
  | .andThen first second => first.groups + second.groups
  | .optional body => body.groups
  | .group body => body.groups + 1

/-- The ways to match at the start of a text, in the order of preference. -/
def ways : Expression → List Char → List Way
  | .text chars, subject => if chars.isPrefixOf subject then [⟨chars, []⟩] else []
  | .noColon, c :: _ => if c = ':' then [] else [⟨[c], []⟩]
  | .noColon, [] => []
  | .andThen first second, subject => waysThen first.ways second.ways subject
  | .repeated body, subject => waysRepeated body.ways subject.length subject
  | .optional body, subject => body.ways subject ++ [⟨[], List.replicate body.groups []⟩]
  | .group body, subject =>
    (body.ways subject).map fun way => ⟨way.stretch, way.stretch :: way.captures⟩

/-- The captures of the first way to match a whole text. -/
def matchWhole? (expression : Expression) (subject : List Char) : Option (List (List Char)) :=
  ((expression.ways subject).find? (·.stretch = subject)).map (·.captures)

/-- Some characters other than colons, at least one. -/
def wholeSegment : Expression :=
  .andThen .noColon (.repeated .noColon)

/-- A delimiter and a segment. -/
def delimitedSegment : Expression :=
  .andThen (.text delimiter) wholeSegment

/-- Segments with delimiters between neighbours. -/
def wholeSegments : Expression :=
  .andThen wholeSegment (.repeated delimitedSegment)

/-- Pieces with groups between neighbours. -/
def ofPieces : List String → Expression
  | [] => .text []
  | [piece] => .text piece.toList
  | piece :: pieces =>
    .andThen (.text piece.toList) (.andThen (.group (.repeated .noColon)) (ofPieces pieces))

end Expression

namespace Token

open Expression

/-- The expression of a token. -/
def expression : Token → Expression
  | .literal text => .text (delimiter ++ text.toList)
  | .one => .andThen (.text delimiter) (.group wholeSegment)
  | .many => .optional (.andThen (.text delimiter) (.group wholeSegments))
  | .pieced pieces => .andThen (.text delimiter) (ofPieces pieces)

/-- The expression of tokens, one after the other. -/
def expressionOf : List Token → Expression
  | [] => .text []
  | token :: tokens => .andThen token.expression (expressionOf tokens)

end Token

/-! ## What the ways are -/

namespace Expression

/-- An expression matches at the start of a text in the ways of a language that stand there. -/
def Lists (expression : List Char → List Way) (language : Way → Prop) : Prop :=
  ∀ subject way, way ∈ expression subject ↔ language way ∧ way.stretch <+: subject

theorem Lists.congr {ways : List Char → List Way} {language other : Way → Prop}
    (h : Lists ways language) (hl : ∀ way, language way ↔ other way) : Lists ways other := by
  obtain rfl : language = other := funext fun way => propext (hl way)
  exact h

theorem text_lists (chars : List Char) : Lists (text chars).ways (· = ⟨chars, []⟩) := by
  intro subject way
  rw [ways]
  split
  · next hp =>
    rw [List.mem_singleton]
    exact ⟨fun e => ⟨e, e ▸ List.isPrefixOf_iff_prefix.mp hp⟩, And.left⟩
  · next hp =>
    refine ⟨fun h => absurd h List.not_mem_nil, fun ⟨e, h⟩ => ?_⟩
    subst e
    exact absurd (List.isPrefixOf_iff_prefix.mpr h) hp

theorem append_isPrefix_iff {front back subject : List Char} :
    front ++ back <+: subject ↔ front <+: subject ∧ back <+: subject.drop front.length := by
  constructor
  · rintro ⟨rest, rfl⟩
    rw [List.append_assoc]
    exact ⟨List.prefix_append _ _, by rw [List.drop_left]; exact List.prefix_append _ _⟩
  · rintro ⟨⟨rest, rfl⟩, h⟩
    rw [List.drop_left] at h
    exact (List.prefix_append_right_inj front).mpr h

theorem mem_waysThen_iff {first second : List Char → List Way} {subject : List Char} {way : Way} :
    way ∈ waysThen first second subject ↔
      ∃ head ∈ first subject, ∃ tail ∈ second (subject.drop head.stretch.length),
        way = head.append tail := by
  simp only [waysThen, List.mem_flatMap, List.mem_map, eq_comm]

theorem Lists.andThen {first second : List Char → List Way} {language later : Way → Prop}
    (hf : Lists first language) (hs : Lists second later) :
    Lists (waysThen first second)
      (fun way => ∃ head tail, language head ∧ later tail ∧ way = head.append tail) := by
  intro subject way
  rw [mem_waysThen_iff]
  constructor
  · rintro ⟨head, hhead, tail, htail, rfl⟩
    obtain ⟨hl, hp⟩ := (hf subject head).mp hhead
    obtain ⟨hl', hp'⟩ := (hs _ tail).mp htail
    exact ⟨⟨head, tail, hl, hl', rfl⟩, append_isPrefix_iff.mpr ⟨hp, hp'⟩⟩
  · rintro ⟨⟨head, tail, hl, hl', rfl⟩, hp⟩
    obtain ⟨hp, hp'⟩ := append_isPrefix_iff.mp hp
    exact ⟨head, (hf subject head).mpr ⟨hl, hp⟩, tail, (hs _ tail).mpr ⟨hl', hp'⟩, rfl⟩

theorem Lists.group {body : Expression} {language : Way → Prop} (h : Lists body.ways language) :
    Lists (group body).ways
      (fun way => ∃ inner, language inner ∧
        way = ⟨inner.stretch, inner.stretch :: inner.captures⟩) := by
  intro subject way
  rw [ways, List.mem_map]
  constructor
  · rintro ⟨inner, hm, rfl⟩
    obtain ⟨hl, hp⟩ := (h subject inner).mp hm
    exact ⟨⟨inner, hl, rfl⟩, hp⟩
  · rintro ⟨⟨inner, hl, rfl⟩, hp⟩
    exact ⟨inner, (h subject inner).mpr ⟨hl, hp⟩, rfl⟩

/-- Repetition lists runs of matches that are not empty. -/
inductive Repeats (language : Way → Prop) : Way → Prop
  | empty : Repeats language .empty
  | append {head tail : Way} : language head → head.stretch ≠ [] → Repeats language tail →
      Repeats language (head.append tail)

theorem mem_waysRepeated_iff {body : List Char → List Way} {language : Way → Prop}
    (h : Lists body language) {bound : Nat} {subject : List Char} (hb : subject.length ≤ bound)
    (way : Way) :
    way ∈ waysRepeated body bound subject ↔ Repeats language way ∧ way.stretch <+: subject := by
  induction bound generalizing subject way with
  | zero =>
    obtain rfl := List.eq_nil_of_length_eq_zero (Nat.le_zero.mp hb)
    rw [waysRepeated, List.mem_singleton]
    constructor
    · rintro rfl
      exact ⟨.empty, List.nil_prefix⟩
    · rintro ⟨hr, hp⟩
      cases hr with
      | empty => rfl
      | append _ hne _ =>
        exact absurd (List.append_eq_nil_iff.mp (List.prefix_nil.mp hp)).1 hne
  | succ bound ih =>
    rw [waysRepeated, List.mem_append, List.mem_singleton, mem_waysThen_iff]
    have shorter : ∀ head : Way, head.stretch ≠ [] →
        (subject.drop head.stretch.length).length ≤ bound := fun head hne => by
      have := List.length_pos_iff.mpr hne
      rw [List.length_drop]
      omega
    constructor
    · rintro (⟨head, hhead, tail, htail, rfl⟩ | rfl)
      · obtain ⟨hhead, hne⟩ := List.mem_filter.mp hhead
        have hne : head.stretch ≠ [] := by simpa using hne
        obtain ⟨hl, hp⟩ := (h subject head).mp hhead
        obtain ⟨hr, hp'⟩ := (ih (shorter head hne) tail).mp htail
        exact ⟨.append hl hne hr, append_isPrefix_iff.mpr ⟨hp, hp'⟩⟩
      · exact ⟨.empty, List.nil_prefix⟩
    · rintro ⟨hr, hp⟩
      cases hr with
      | empty => exact .inr rfl
      | @append head tail hl hne hr =>
        obtain ⟨hp, hp'⟩ := append_isPrefix_iff.mp hp
        exact .inl ⟨head, List.mem_filter.mpr ⟨(h subject head).mpr ⟨hl, hp⟩, by simpa using hne⟩,
          tail, (ih (shorter head hne) tail).mpr ⟨hr, hp'⟩, rfl⟩

theorem Lists.repeated {body : Expression} {language : Way → Prop}
    (h : Lists body.ways language) : Lists (repeated body).ways (Repeats language) :=
  fun _ => mem_waysRepeated_iff h (Nat.le_refl _)

theorem noColon_lists : Lists noColon.ways (fun way => ∃ c, c ≠ ':' ∧ way = ⟨[c], []⟩) := by
  intro subject way
  cases subject with
  | nil =>
    refine ⟨fun h => absurd h List.not_mem_nil, ?_⟩
    rintro ⟨⟨c, -, rfl⟩, hp⟩
    exact absurd (List.prefix_nil.mp hp) (List.cons_ne_nil _ _)
  | cons d rest =>
    rw [ways]
    constructor
    · intro h
      split at h
      · cases h
      · next hd =>
        rw [List.mem_singleton] at h
        subst h
        exact ⟨⟨d, hd, rfl⟩, List.prefix_append [d] rest⟩
    · rintro ⟨⟨c, hc, rfl⟩, hp⟩
      obtain ⟨rfl, -⟩ := List.cons_prefix_cons.mp hp
      rw [if_neg hc]
      exact List.mem_singleton.mpr rfl

/-- Characters other than colons, as many as possible. -/
theorem run_lists :
    Lists (repeated noColon).ways (fun way => ∃ run, ':' ∉ run ∧ way = ⟨run, []⟩) := by
  refine noColon_lists.repeated.congr fun way => ⟨fun h => ?_, ?_⟩
  · induction h with
    | empty => exact ⟨[], List.not_mem_nil, rfl⟩
    | append hhead _ _ ih =>
      obtain ⟨c, hc, rfl⟩ := hhead
      obtain ⟨run, hrun, rfl⟩ := ih
      exact ⟨c :: run, by simpa [hrun] using Ne.symm hc, rfl⟩
  · rintro ⟨run, hrun, rfl⟩
    induction run with
    | nil => exact .empty
    | cons c run ih =>
      rw [List.mem_cons, not_or] at hrun
      exact .append ⟨c, Ne.symm hrun.1, rfl⟩ (List.cons_ne_nil _ _) (ih hrun.2)

theorem isWhole_cons_iff {c : Char} {rest : List Char} :
    isWhole (c :: rest) ↔ c ≠ ':' ∧ ':' ∉ rest := by
  simp [isWhole, @eq_comm _ ':' c]

theorem wholeSegment_lists :
    Lists wholeSegment.ways (fun way => ∃ segment, isWhole segment ∧ way = ⟨segment, []⟩) := by
  refine (noColon_lists.andThen run_lists).congr fun way => ⟨?_, ?_⟩
  · rintro ⟨_, _, ⟨c, hc, rfl⟩, ⟨run, hrun, rfl⟩, rfl⟩
    exact ⟨c :: run, isWhole_cons_iff.mpr ⟨hc, hrun⟩, rfl⟩
  · rintro ⟨segment, hwhole, rfl⟩
    cases segment with
    | nil => exact absurd rfl (ne_nil_of_isWhole hwhole)
    | cons c rest =>
      obtain ⟨hc, hcolon⟩ := isWhole_cons_iff.mp hwhole
      exact ⟨⟨[c], []⟩, ⟨rest, []⟩, ⟨c, hc, rfl⟩, ⟨rest, hcolon, rfl⟩, rfl⟩

theorem delimitedSegment_lists :
    Lists delimitedSegment.ways
      (fun way => ∃ segment, isWhole segment ∧ way = ⟨delimiter ++ segment, []⟩) := by
  refine ((text_lists delimiter).andThen wholeSegment_lists).congr fun way => ⟨?_, ?_⟩
  · rintro ⟨_, _, rfl, ⟨segment, hwhole, rfl⟩, rfl⟩
    exact ⟨segment, hwhole, rfl⟩
  · rintro ⟨segment, hwhole, rfl⟩
    exact ⟨⟨delimiter, []⟩, ⟨segment, []⟩, rfl, ⟨segment, hwhole, rfl⟩, rfl⟩

theorem repeats_delimitedSegment_iff (way : Way) :
    Repeats (fun way => ∃ segment, isWhole segment ∧ way = ⟨delimiter ++ segment, []⟩) way ↔
      ∃ run : Run, (∀ segment ∈ run, isWhole segment) ∧ way = ⟨delimitedAll run, []⟩ := by
  constructor
  · intro h
    induction h with
    | empty => exact ⟨[], by simp, rfl⟩
    | append hhead _ _ ih =>
      obtain ⟨segment, hwhole, rfl⟩ := hhead
      obtain ⟨run, hrun, rfl⟩ := ih
      exact ⟨segment :: run, by simpa using ⟨hwhole, hrun⟩, by simp [Way.append, delimitedAll]⟩
  · rintro ⟨run, hrun, rfl⟩
    induction run with
    | nil => exact .empty
    | cons segment run ih =>
      have htail := ih fun s hs => hrun s (List.mem_cons_of_mem _ hs)
      have hhead : ∃ s, isWhole s ∧ (⟨delimiter ++ segment, []⟩ : Way) = ⟨delimiter ++ s, []⟩ :=
        ⟨segment, hrun segment List.mem_cons_self, rfl⟩
      simpa [Way.append, delimitedAll] using Repeats.append hhead (by simp [delimiter]) htail

theorem join_cons_eq (segment : List Char) (rest : Run) :
    join (segment :: rest) = segment ++ delimitedAll rest := by
  by_cases hr : rest = []
  · subst hr; simp [delimitedAll]
  · rw [join_cons _ hr, delimitedAll_eq hr, List.append_assoc]

theorem wholeSegments_lists :
    Lists wholeSegments.ways (fun way => ∃ run : Run, run ≠ [] ∧
      (∀ segment ∈ run, isWhole segment) ∧ way = ⟨join run, []⟩) := by
  refine (wholeSegment_lists.andThen (delimitedSegment_lists.repeated.congr
    repeats_delimitedSegment_iff)).congr fun way => ⟨?_, ?_⟩
  · rintro ⟨_, _, ⟨segment, hwhole, rfl⟩, ⟨run, hrun, rfl⟩, rfl⟩
    exact ⟨segment :: run, List.cons_ne_nil _ _, by simpa using ⟨hwhole, hrun⟩,
      by rw [join_cons_eq]; rfl⟩
  · rintro ⟨run, hne, hrun, rfl⟩
    cases run with
    | nil => exact absurd rfl hne
    | cons segment run =>
      exact ⟨⟨segment, []⟩, ⟨delimitedAll run, []⟩,
        ⟨segment, hrun segment List.mem_cons_self, rfl⟩,
        ⟨run, fun s hs => hrun s (List.mem_cons_of_mem _ hs), rfl⟩, by rw [join_cons_eq]; rfl⟩

theorem ofPieces_lists {pieces : List String} (hne : pieces ≠ []) :
    Lists (ofPieces pieces).ways (fun way => Interleaves pieces way.captures way.stretch) := by
  induction pieces with
  | nil => exact absurd rfl hne
  | cons piece pieces ih =>
    by_cases hp : pieces = []
    · subst hp
      refine (text_lists piece.toList).congr fun way => ?_
      rw [interleaves_singleton_iff]
      exact ⟨fun e => by rw [e]; exact ⟨rfl, rfl⟩, fun ⟨hs, hc⟩ => by rw [← hs, ← hc]⟩
    · rw [ofPieces]
      · refine ((text_lists piece.toList).andThen (run_lists.group.andThen (ih hp))).congr
          fun way => ⟨?_, fun h => ?_⟩
        · rintro ⟨_, _, rfl, ⟨_, tail, ⟨_, ⟨gap, hgap, rfl⟩, rfl⟩, htail, rfl⟩, rfl⟩
          simpa [Way.append] using Interleaves.more piece gap hgap htail
        · obtain ⟨stretch, captures⟩ := way
          cases h with
          | last => exact absurd rfl hp
          | @more _ gaps text _ gap hgap htail =>
            exact ⟨⟨piece.toList, []⟩, ⟨gap ++ text, gap :: gaps⟩, rfl,
              ⟨⟨gap, [gap]⟩, ⟨text, gaps⟩, ⟨⟨gap, []⟩, ⟨gap, hgap, rfl⟩, rfl⟩, htail, rfl⟩,
              by simp [Way.append]⟩
      · exact hp

end Expression

namespace Token

open Expression

theorem manySome_lists :
    Lists (Expression.andThen (.text delimiter) (.group wholeSegments)).ways
      (fun way => ∃ run : Run, run ≠ [] ∧ (∀ segment ∈ run, isWhole segment) ∧
        way = ⟨delimiter ++ join run, [join run]⟩) := by
  refine ((text_lists delimiter).andThen wholeSegments_lists.group).congr fun way => ⟨?_, ?_⟩
  · rintro ⟨_, _, rfl, ⟨_, ⟨run, hne, hrun, rfl⟩, rfl⟩, rfl⟩
    exact ⟨run, hne, hrun, rfl⟩
  · rintro ⟨run, hne, hrun, rfl⟩
    exact ⟨⟨delimiter, []⟩, ⟨join run, [join run]⟩, rfl,
      ⟨⟨join run, []⟩, ⟨run, hne, hrun, rfl⟩, rfl⟩, rfl⟩

theorem many_lists :
    Lists (expression .many).ways (fun way => Contributes .many way.captures way.stretch) := by
  intro subject way
  rw [expression, ways, List.mem_append, List.mem_singleton, manySome_lists subject way]
  constructor
  · rintro (⟨⟨run, hne, hrun, rfl⟩, hp⟩ | rfl)
    · exact ⟨.manySome hne hrun, hp⟩
    · exact ⟨.manyNone, List.nil_prefix⟩
  · rintro ⟨h, hp⟩
    obtain ⟨stretch, captures⟩ := way
    cases h with
    | manyNone => exact .inr rfl
    | @manySome run hne hrun => exact .inl ⟨⟨run, hne, hrun, rfl⟩, hp⟩

/-- The expression of a token matches what the token can stand for. -/
theorem expression_lists {token : Token} (hp : token.IsPlain) :
    Lists token.expression.ways (fun way => Contributes token way.captures way.stretch) := by
  cases token with
  | literal text =>
    refine (text_lists _).congr fun way => ⟨fun e => by rw [e]; exact .literal text, fun h => ?_⟩
    obtain ⟨stretch, captures⟩ := way
    cases h
    rfl
  | one =>
    refine ((text_lists delimiter).andThen wholeSegment_lists.group).congr
      fun way => ⟨?_, fun h => ?_⟩
    · rintro ⟨_, _, rfl, ⟨_, ⟨segment, hwhole, rfl⟩, rfl⟩, rfl⟩
      exact .one hwhole
    · obtain ⟨stretch, captures⟩ := way
      cases h with
      | @one segment hwhole =>
        exact ⟨⟨delimiter, []⟩, ⟨segment, [segment]⟩, rfl,
          ⟨⟨segment, []⟩, ⟨segment, hwhole, rfl⟩, rfl⟩, rfl⟩
  | many => exact many_lists
  | pieced pieces =>
    refine ((text_lists delimiter).andThen (ofPieces_lists hp.1)).congr
      fun way => ⟨?_, fun h => ?_⟩
    · rintro ⟨_, tail, rfl, htail, rfl⟩
      exact .pieced htail
    · obtain ⟨stretch, captures⟩ := way
      cases h with
      | @pieced _ _ text htail =>
        exact ⟨⟨delimiter, []⟩, ⟨text, captures⟩, rfl, htail, rfl⟩

theorem expressionOf_lists {tokens : List Token} (hp : ∀ token ∈ tokens, token.IsPlain) :
    Lists (expressionOf tokens).ways (fun way => Fits tokens way.captures way.stretch) := by
  induction tokens with
  | nil =>
    refine (text_lists []).congr fun way => ⟨fun e => by rw [e]; exact .nil, fun h => ?_⟩
    obtain ⟨stretch, captures⟩ := way
    cases h
    rfl
  | cons token tokens ih =>
    refine ((expression_lists (hp token List.mem_cons_self)).andThen
      (ih fun t ht => hp t (List.mem_cons_of_mem _ ht))).congr fun way => ⟨?_, fun h => ?_⟩
    · rintro ⟨head, tail, hhead, htail, rfl⟩
      exact .cons hhead htail
    · obtain ⟨stretch, captures⟩ := way
      cases h with
      | @cons _ _ captures later text rest hhead htail =>
        exact ⟨⟨text, captures⟩, ⟨rest, later⟩, hhead, htail, rfl⟩

end Token

end ModuleSynthesis
