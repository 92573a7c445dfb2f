import ModuleSynthesis.Log.Directive

/-!
# Log filters

Which log messages are written. A filter is a list of directives with commas between them. Of the
directives that apply to a message the most specific one decides, and the last one of several that
say the same of which messages they mean.

* `Filter.parse`: the filter that a text denotes.
* `Filter.allows`: whether a message is written.
-/

namespace ModuleSynthesis.Log

/-- The directives of a filter, in order. -/
structure Filter where
  /-- The directives, in order. -/
  directives : List Directive
deriving DecidableEq, Repr

namespace Filter

/-- The filter that writes the messages of a level and more important ones. -/
def atLevel (level : Level) : Filter :=
  ⟨[{ level }]⟩

/-- The parts of a text between its commas, at least one. -/
def splitCommas : List Char → List (List Char)
  | [] => [[]]
  | c :: rest =>
    if c = ',' then [] :: splitCommas rest
    else
      match splitCommas rest with
      | part :: parts => (c :: part) :: parts
      | [] => [[c]]

/-- The directives that texts denote, in order. -/
def parseAll : List (List Char) → Except FilterFault (List Directive)
  | [] => .ok []
  | text :: texts =>
    match Directive.parse? text with
    | .error fault => .error fault
    | .ok directive? =>
      match parseAll texts with
      | .error fault => .error fault
      | .ok directives => .ok (directive?.toList ++ directives)

/-- The filter that a text denotes. Empty parts are passed over. Without directives only errors
are written. -/
def parse (text : String) : Except FilterFault Filter :=
  match parseAll ((splitCommas text.toList).filter (!·.isEmpty)) with
  | .error fault => .error fault
  | .ok [] => .ok (atLevel .error)
  | .ok directives => .ok ⟨directives⟩

/-- The directive that decides on a message. -/
def decisive? (filter : Filter) (record : Record) : Option Directive :=
  (filter.directives.filter (·.appliesTo record)).foldl
    (fun best? directive =>
      match best? with
      | some best => if best.givesWayTo directive then some directive else some best
      | none => some directive) none

/-- Whether a message is written. -/
def allows (filter : Filter) (record : Record) : Bool :=
  match filter.decisive? record with
  | some directive => record.level.rank ≤ directive.level.rank
  | none => false

end Filter

end ModuleSynthesis.Log
