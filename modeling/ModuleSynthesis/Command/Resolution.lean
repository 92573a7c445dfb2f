import ModuleSynthesis.Command.Journal
import ModuleSynthesis.Dispatch

/-!
# Resolving requests

Requests are made of the loaders of a manifest one after another; a request that fails does not
keep the later ones from being made.

* `Exchange`: a request, its answer, and what happened meanwhile.
* `World.ask`, `World.askAll`: requests made of a world.
* `Resolution`: the answers to requests, as JSON and as text with messages beside it.
* `Resolution.report`: the report of the command.
-/

namespace ModuleSynthesis

/-! ## Requests -/

/-- A request and what came of it. -/
structure Exchange where
  /-- What was asked for. -/
  request : String
  /-- The answer. -/
  answer : Answer
  /-- What happened meanwhile, in order. -/
  events : List Event := []

/-- A request to the chain of a world whose generators make no requests themselves. -/
def World.ask (world : World Unit) (request : String) : Answer × World Unit :=
  match World.resolve 1 request world with
  | some result => result
  | none => (.ok none, world)

/-- What has happened since the journal had so many entries, in order. -/
def World.since (world : World Unit) (entries : Nat) : List Event :=
  (world.journal.take (world.journal.length - entries)).reverse

/-- Requests, one after another, and what came of them. -/
def World.askAll (world : World Unit) : List String → List Exchange × World Unit
  | [] => ([], world)
  | request :: requests =>
    let (answer, after) := world.ask request
    let (exchanges, last) := after.askAll requests
    (⟨request, answer, after.since world.journal.length⟩ :: exchanges, last)

/-- A world with the loaders of a manifest. -/
structure Installation where
  /-- The manifest. -/
  manifest : Manifest
  /-- Its loaders, in order. -/
  loaders : List (Loader Unit)
  /-- The world, whose chain keeps units. -/
  world : World Unit

/-- The loaders of the manifest under a path, installed, or why the manifest cannot be used. -/
def Surroundings.install (surroundings : Surroundings) (path : String) :
    Except String Installation :=
  match surroundings.manifest path with
  | .error message => .error message
  | .ok manifest =>
    match manifest.world () Chain.caching surroundings.now with
    | .error error => .error error.message
    | .ok (loaders, world) => .ok ⟨manifest, loaders, world⟩

/-! ## Answers -/

namespace Answer

/-- The answer to a request in JSON. -/
def toJson (request : String) : Answer → Json
  | .ok (some unit) =>
    .object [("request", .text request), ("result", .text "generated"), ("name", .text unit.name),
      ("loader", .text unit.loader), ("pattern", .text unit.pattern),
      ("fragmentCount", .number unit.fragments.length), ("digest", .text unit.digest),
      ("source", .text unit.source)]
  | .ok none => .object [("request", .text request), ("result", .text "not_handled")]
  | .error error =>
    .object [("request", .text request), ("result", .text "error"),
      ("error", .text error.message)]

/-- The text of the unit, if there is one. -/
def source? : Answer → Option String
  | .ok (some unit) => some unit.source
  | _ => none

/-- The message of the failure, if the request failed. -/
def failure? : Answer → Option Diagnostic
  | .error error => some (.error error.message)
  | .ok _ => none

end Answer

namespace Exchange

/-- What came of a request, in JSON. -/
def toJson (exchange : Exchange) : Json :=
  exchange.answer.toJson exchange.request

/-- The log messages about what happened while a request was made. -/
def records (exchange : Exchange) : List Diagnostic :=
  (exchange.events.filterMap Event.record?).map .log

/-- The message about what came of a request, where its answers are written as JSON or as text:
JSON holds failures, and requests that nobody took up. -/
def remark? (json : Bool) (exchange : Exchange) : Option Diagnostic :=
  match exchange.answer with
  | .ok (some unit) => some (.log (resolvedRecord exchange.request unit))
  | .ok none => if json then none else some (.log (unhandledRecord exchange.request))
  | .error error => if json then none else some (.error error.message)

end Exchange

/-- The exit status after requests. -/
def exitAfter (exchanges : List Exchange) : Nat :=
  if exchanges.any (·.answer.failure?.isSome) then Report.generationError else 0

/-! ## The command -/

/-- The answers to requests. -/
structure Resolution where
  /-- Where the manifest was found. -/
  path : String
  /-- The manifest. -/
  manifest : Manifest
  /-- The ids of the loaders. -/
  loaders : List String
  /-- The requests and what came of them, in order. -/
  exchanges : List Exchange

namespace Resolution

/-- The answers in JSON. -/
def toJson (resolution : Resolution) : Json :=
  .object [("manifest", .text resolution.path), ("loaders", .texts resolution.loaders),
    ("results", .array (resolution.exchanges.map Exchange.toJson))]

/-- The texts of the units, one behind another. -/
def toText (resolution : Resolution) : String :=
  String.join (resolution.exchanges.filterMap (·.answer.source?))

/-- The messages beside the answers. -/
def remarks (resolution : Resolution) (json : Bool) : List Diagnostic :=
  .log (loadedRecord resolution.path resolution.manifest) ::
    resolution.exchanges.flatMap fun exchange =>
      exchange.records ++ (exchange.remark? json).toList

/-- Makes requests of the loaders of the manifest under a path. -/
def of (path : String) (requests : List String) (surroundings : Surroundings) :
    Except String Resolution :=
  match surroundings.install path with
  | .error message => .error message
  | .ok ⟨manifest, loaders, world⟩ =>
    .ok ⟨path, manifest, loaders.map (·.id), (world.askAll requests).1⟩

/-- Resolves requests and writes the units. -/
def report (path : String) (requests : List String) (json : Bool) (surroundings : Surroundings) :
    Report :=
  match Resolution.of path requests surroundings with
  | .error message => .refused message
  | .ok resolution =>
    { exit := exitAfter resolution.exchanges
      stdout := if json then Report.ofJson resolution.toJson else resolution.toText
      diagnostics := resolution.remarks json }

end Resolution

end ModuleSynthesis
