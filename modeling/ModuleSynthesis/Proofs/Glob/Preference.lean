import ModuleSynthesis.Proofs.Glob.Expression

/-!
# The preferred match

A matcher that tries the ways to match an expression in the order of preference takes the first one
that comes to the end of the text. For the expression of a glob these are the captures that the
tables find.

* `Token.expressionOf_ordered`: preferred ways have longer captures.
* `Glob.captures?_eq_matchWhole?`: the captures of a glob are those of the first way in which its
  expression matches the whole name.
* `Glob.isMatch_iff_matchWhole?`: a name matches a glob exactly if there is such a way.
-/

namespace ModuleSynthesis

open Text

/-! ## The order of preference -/

namespace Way

/-- A way matches more than a later one, and what it matches more starts with no colon. -/
def Continues (way later : Way) : Prop :=
  ∃ c more, c ≠ ':' ∧ way.stretch = later.stretch ++ c :: more

/-- A way matches more than a later one. -/
def Extends (way later : Way) : Prop :=
  later.stretch <+: way.stretch ∧ later.stretch ≠ way.stretch

/-- A way has longer captures than a later one. -/
def Outdoes (way later : Way) : Prop :=
  Shorter later.captures way.captures

theorem Continues.append {way later : Way} (h : Continues way later) (head : Way) :
    Continues (head.append way) (head.append later) := by
  obtain ⟨c, more, hc, h⟩ := h
  exact ⟨c, more, hc, by simp [Way.append, h]⟩

theorem Extends.append {way later : Way} (h : Extends way later) (head : Way) :
    Extends (head.append way) (head.append later) :=
  ⟨(List.prefix_append_right_inj _).mpr h.1, fun e => h.2 (List.append_cancel_left e)⟩

theorem Continues.extends {way later : Way} (h : Continues way later) : Extends way later := by
  obtain ⟨c, more, -, h⟩ := h
  exact ⟨by rw [h]; exact List.prefix_append _ _, fun e => by simp [h] at e⟩

theorem Outdoes.append {way later : Way} (h : Outdoes way later) (head : Way) :
    Outdoes (head.append way) (head.append later) :=
  Shorter.append_left h head.captures

end Way

namespace Expression

open Way

/-- The ways to match a text stand in the order of a relation. -/
def Ordered (order : Way → Way → Prop) (expression : List Char → List Way) : Prop :=
  ∀ subject, (expression subject).Pairwise order

theorem Ordered.text (order : Way → Way → Prop) (chars : List Char) :
    Ordered order (text chars).ways := by
  intro subject
  rw [ways]
  split
  · exact List.pairwise_singleton _ _
  · exact .nil

/-- Behind a text the order of the ways stays. -/
theorem Ordered.behindText {order : Way → Way → Prop}
    (happend : ∀ head way later : Way,
      order way later → order (head.append way) (head.append later))
    {second : List Char → List Way} (h : Ordered order second) (chars : List Char) :
    Ordered order (waysThen (Expression.text chars).ways second) := by
  intro subject
  rw [waysThen, ways]
  split
  · rw [List.flatMap_singleton, List.pairwise_map]
    exact (h _).imp (happend _ _ _)
  · exact .nil

theorem run_ordered : Ordered Continues (repeated noColon).ways := by
  intro subject
  rw [ways]
  generalize subject.length = bound
  induction bound generalizing subject with
  | zero => exact List.pairwise_singleton _ _
  | succ bound ih =>
    cases subject with
    | nil => exact List.pairwise_singleton _ _
    | cons c rest =>
      by_cases hc : c = ':'
      · subst hc; exact List.pairwise_singleton _ _
      · have hsplit : waysRepeated noColon.ways (bound + 1) (c :: rest) =
            (waysRepeated noColon.ways bound rest).map (Way.append ⟨[c], []⟩) ++ [.empty] := by
          simp [waysRepeated, waysThen, ways, hc]
        rw [hsplit, List.pairwise_append, List.pairwise_map]
        refine ⟨(ih rest).imp fun h => h.append _, List.pairwise_singleton _ _, ?_⟩
        intro way hway last hlast
        obtain ⟨tail, -, rfl⟩ := List.mem_map.mp hway
        rw [List.mem_singleton.mp hlast]
        exact ⟨c, tail.stretch, hc, rfl⟩

theorem wholeSegment_ordered : Ordered Continues wholeSegment.ways := by
  intro subject
  rw [wholeSegment, ways, waysThen]
  cases subject with
  | nil => exact .nil
  | cons c rest =>
    rw [ways]
    split
    · exact .nil
    · rw [List.flatMap_singleton, List.pairwise_map]
      exact (run_ordered _).imp fun h => h.append _

theorem delimitedSegment_ordered : Ordered Continues delimitedSegment.ways :=
  Ordered.behindText (fun head _ _ h => h.append head) wholeSegment_ordered delimiter

/-- Where a match leaves off in the middle of a segment, what has to start with a delimiter matches
nothing. So a longer match in front comes before whatever is behind a shorter one. -/
theorem Ordered.extends {first second : List Char → List Way}
    (hstands : ∀ subject, ∀ way ∈ first subject, way.stretch <+: subject)
    (hfirst : Ordered Continues first) (hsecond : Ordered Extends second)
    (hstop : ∀ subject, ¬ delimiter <+: subject → second subject = [.empty]) :
    Ordered Extends (waysThen first second) := by
  intro subject
  rw [waysThen, List.pairwise_flatMap]
  refine ⟨fun head _ => ?_, (hfirst subject).imp_of_mem ?_⟩
  · rw [List.pairwise_map]
    exact (hsecond _).imp fun h => h.append head
  · intro head later hhead _ hcontinues way hway other hother
    obtain ⟨tail, -, rfl⟩ := List.mem_map.mp hway
    obtain ⟨c, more, hc, hstretch⟩ := hcontinues
    obtain ⟨rest, hrest⟩ := hstands subject head hhead
    have hdrop : subject.drop later.stretch.length = c :: (more ++ rest) := by
      rw [← hrest, hstretch, List.append_assoc, List.drop_left]; rfl
    have hnone : ¬ delimiter <+: subject.drop later.stretch.length := by
      rw [hdrop]
      exact fun h => hc (List.cons_prefix_cons.mp h).1.symm
    rw [hstop _ hnone, List.map_singleton, List.mem_singleton] at hother
    subst hother
    refine ⟨?_, fun e => ?_⟩
    · simp only [Way.append, Way.empty, hstretch, List.append_nil, List.append_assoc]
      exact List.prefix_append _ _
    · simp [Way.append, Way.empty, hstretch] at e

theorem waysRepeated_delimitedSegment {subject : List Char} (h : ¬ delimiter <+: subject)
    (bound : Nat) : waysRepeated delimitedSegment.ways bound subject = [.empty] := by
  cases bound with
  | zero => rfl
  | succ bound =>
    have hnone : delimitedSegment.ways subject = [] := by
      rw [delimitedSegment, ways, waysThen, ways,
        if_neg fun hp => h (List.isPrefixOf_iff_prefix.mp hp)]
      rfl
    rw [waysRepeated, waysThen, hnone]
    rfl

theorem delimitedSegments_ordered (bound : Nat) :
    Ordered Extends (waysRepeated delimitedSegment.ways bound) := by
  induction bound with
  | zero => exact fun _ => List.pairwise_singleton _ _
  | succ bound ih =>
    intro subject
    rw [waysRepeated, List.pairwise_append]
    refine ⟨Ordered.extends (fun subject way hm => ?_) (fun subject => ?_) ih
      (fun subject h => waysRepeated_delimitedSegment h bound) subject,
      List.pairwise_singleton _ _, fun way hway last hlast => ?_⟩
    · exact ((delimitedSegment_lists subject way).mp (List.mem_filter.mp hm).1).2
    · exact (delimitedSegment_ordered subject).filter _
    · obtain ⟨head, hhead, tail, -, rfl⟩ := mem_waysThen_iff.mp hway
      have hne : head.stretch ≠ [] := by simpa using (List.mem_filter.mp hhead).2
      rw [List.mem_singleton.mp hlast]
      exact ⟨List.nil_prefix, fun e => hne (List.append_eq_nil_iff.mp e.symm).1⟩

theorem wholeSegments_ordered : Ordered Extends wholeSegments.ways :=
  Ordered.extends (fun subject way hm => ((wholeSegment_lists subject way).mp hm).2)
    wholeSegment_ordered (fun subject => delimitedSegments_ordered subject.length subject)
    (fun subject h => waysRepeated_delimitedSegment h subject.length)

theorem Ordered.group {body : Expression} (h : Ordered Extends body.ways) :
    Ordered Outdoes (group body).ways := by
  intro subject
  rw [ways, List.pairwise_map]
  exact (h subject).imp fun h => .here h.1 h.2

theorem Ordered.andThen {first second : List Char → List Way} (hf : Ordered Outdoes first)
    (hs : Ordered Outdoes second) : Ordered Outdoes (waysThen first second) := by
  intro subject
  rw [waysThen, List.pairwise_flatMap]
  refine ⟨fun head _ => ?_, (hf subject).imp ?_⟩
  · rw [List.pairwise_map]
    exact (hs _).imp fun h => h.append head
  · intro head later h way hway other hother
    obtain ⟨tail, -, rfl⟩ := List.mem_map.mp hway
    obtain ⟨tail', -, rfl⟩ := List.mem_map.mp hother
    exact Shorter.append_right h _ _

theorem ofPieces_ordered (pieces : List String) : Ordered Outdoes (ofPieces pieces).ways := by
  have hgap : Ordered Outdoes (Expression.group (.repeated .noColon)).ways :=
    Ordered.group fun subject => (run_ordered subject).imp fun h => h.extends
  fun_induction ofPieces pieces with
  | case1 => exact .text _ _
  | case2 piece => exact .text _ _
  | case3 piece pieces _ ih => exact (Ordered.text _ _).andThen (hgap.andThen ih)

end Expression

namespace Token

open Expression Way

theorem many_ordered : Ordered Outdoes (expression .many).ways := by
  intro subject
  rw [expression, ways, List.pairwise_append]
  refine ⟨(Ordered.text _ _).andThen wholeSegments_ordered.group subject,
    List.pairwise_singleton _ _, fun way hway last hlast => ?_⟩
  obtain ⟨⟨run, hne, hrun, rfl⟩, -⟩ := (manySome_lists subject way).mp hway
  rw [List.mem_singleton.mp hlast]
  refine .here List.nil_prefix fun e => hne ?_
  exact (join_eq_nil_iff fun s hs => ne_nil_of_isWhole (hrun s hs)).mp e.symm

theorem expression_ordered (token : Token) : Ordered Outdoes token.expression.ways := by
  cases token with
  | literal text => exact .text _ _
  | one =>
    refine (Ordered.text _ _).andThen (Ordered.group fun subject => ?_)
    exact (wholeSegment_ordered subject).imp fun h => h.extends
  | many => exact many_ordered
  | pieced pieces => exact (Ordered.text _ _).andThen (ofPieces_ordered pieces)

theorem expressionOf_ordered (tokens : List Token) :
    Ordered Outdoes (expressionOf tokens).ways := by
  induction tokens with
  | nil => exact .text _ _
  | cons token tokens ih => exact (expression_ordered token).andThen ih

end Token

/-! ## The first match -/

/-- Where the ways stand in order, the first to match a whole text has the longest captures. -/
theorem Expression.matchWhole?_isLongest {expression : Expression} {language : Way → Prop}
    (hlists : Lists expression.ways language) (hordered : Ordered Way.Outdoes expression.ways)
    (subject : List Char) :
    IsLongest id (fun captures => language ⟨subject, captures⟩)
      (expression.matchWhole? subject) := by
  rw [matchWhole?]
  cases hfind : (expression.ways subject).find? (·.stretch = subject) with
  | none =>
    intro captures h
    have hm := (hlists subject ⟨subject, captures⟩).mpr ⟨h, List.prefix_rfl⟩
    simpa using List.find?_eq_none.mp hfind _ hm
  | some best =>
    obtain ⟨hbest, front, back, hways, hfront⟩ := List.find?_eq_some_iff_append.mp hfind
    obtain ⟨stretch, captures⟩ := best
    obtain rfl : stretch = subject := by simpa using hbest
    have hm : ⟨stretch, captures⟩ ∈ expression.ways stretch := by rw [hways]; simp
    refine ⟨((hlists stretch _).mp hm).1, fun others h hne => ?_⟩
    have hother := (hlists stretch ⟨stretch, others⟩).mpr ⟨h, List.prefix_rfl⟩
    rw [hways, List.mem_append, List.mem_cons] at hother
    have hback : ⟨stretch, others⟩ ∈ back := by
      rcases hother with hf | he | hb
      · simpa using hfront _ hf
      · cases he
        exact absurd rfl hne
      · exact hb
    have hpairs := hordered stretch
    rw [hways, List.pairwise_append, List.pairwise_cons] at hpairs
    simpa [Way.Outdoes] using hpairs.2.1.1 _ hback

/-- The captures of a glob in a name are those of the first way in which its expression matches the
whole name, where the ways are tried in the order of preference. -/
theorem Glob.captures?_eq_matchWhole? (glob : Glob) (name : String) :
    (glob.captures? name).map (·.map String.toList) =
      (Token.expressionOf glob.tokens).matchWhole? (delimited name.toList) := by
  have hcaptures := (glob.captures?_isLongest name).map_view
  have hmatch := Expression.matchWhole?_isLongest (Token.expressionOf_lists glob.isPlain_tokens)
    (Token.expressionOf_ordered glob.tokens) (delimited name.toList)
  refine (hcaptures.congr fun texts => ⟨?_, fun h => ?_⟩).eq hmatch
  · rintro ⟨captures, h, rfl⟩
    exact h
  · have htexts : (texts.map String.ofList).map String.toList = texts := by
      simp [Function.comp_def]
    exact ⟨texts.map String.ofList, by rw [Fits, htexts]; exact h, htexts⟩

/-- A name matches a glob exactly if the expression of the glob matches the whole name. -/
theorem Glob.isMatch_iff_matchWhole? (glob : Glob) (name : String) :
    glob.isMatch name ↔
      ((Token.expressionOf glob.tokens).matchWhole? (delimited name.toList)).isSome := by
  rw [isMatch_eq, ← captures?_eq_matchWhole?, Option.isSome_map]

end ModuleSynthesis
