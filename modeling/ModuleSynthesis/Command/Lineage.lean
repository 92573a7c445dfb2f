import ModuleSynthesis.Command.Resolution

/-!
# Asking for provenance

Requests are resolved, and then the registry is asked where the requested names come from.

* `Query`: a request and the loader that generated its name.
* `Lineage`: what the registry knows after requests, as JSON and as text.
* `Lineage.report`: the report of the command.
-/

namespace ModuleSynthesis

/-- A provenance record in JSON. -/
def ProvenanceRecord.toJson (record : ProvenanceRecord) : Json :=
  .object [("name", .text record.name), ("loader", .text record.loader),
    ("pattern", .text record.pattern), ("recordedAt", .text record.recordedAt)]

/-- A request and the loader that generated its name. -/
structure Query where
  /-- What was asked for. -/
  request : String
  /-- The name that was asked for. -/
  name : String
  /-- The loader that generated the name, if one did. -/
  loader? : Option String
deriving DecidableEq, Repr

namespace Query

/-- What a registry knows of a request. -/
def of (registry : Registry) (request : String) : Query :=
  let name := Name.ofRequest request
  ⟨request, name, registry.generatedBy? name⟩

/-- The query in JSON. -/
def toJson (query : Query) : Json :=
  .object [("request", .text query.request), ("name", .text query.name),
    ("generated", .boolean query.loader?.isSome), ("generatedBy", .text? query.loader?)]

/-- The query on one line. -/
def line (query : Query) : String :=
  "  " ++ query.name ++ ": " ++
    match query.loader? with
    | some loader => "generated by " ++ loader
    | none => "not generated"

end Query

/-- What the registry knows after requests. -/
structure Lineage where
  /-- Where the manifest was found. -/
  path : String
  /-- The manifest. -/
  manifest : Manifest
  /-- The policy of the registry. -/
  policy : RegistryPolicy
  /-- The requests and what came of them, in order. -/
  exchanges : List Exchange
  /-- What is known of each request, in order. -/
  queries : List Query
  /-- All records, in the order of names. -/
  records : List ProvenanceRecord
  /-- The ids of the loaders, each with the names that it generated. -/
  loaders : List (String × List String)

namespace Lineage

/-- The knowledge in JSON. -/
def toJson (lineage : Lineage) : Json :=
  .object [("manifest", .text lineage.path), ("registryPolicy", .text lineage.policy.name),
    ("requests", .array (lineage.queries.map Query.toJson)),
    ("records", .array (lineage.records.map ProvenanceRecord.toJson))]

/-- The names that a loader generated, on one line, if there are any. -/
def loaderLine? : String × List String → Option String
  | (_, []) => none
  | (id, names) => some ("  Loader " ++ id ++ ": " ++ ", ".intercalate names)

/-- The knowledge as text. -/
def toText (lineage : Lineage) : String :=
  Report.lines ("modsynth provenance" ::
    (lineage.queries.map Query.line ++ lineage.loaders.filterMap loaderLine?))

/-- The messages beside what the registry knows. -/
def remarks (lineage : Lineage) : List Diagnostic :=
  .log (loadedRecord lineage.path lineage.manifest) ::
    lineage.exchanges.flatMap fun exchange =>
      exchange.records ++ exchange.answer.failure?.toList

/-- Makes requests of the loaders of the manifest under a path, and asks the registry. -/
def of (path : String) (requests : List String) (surroundings : Surroundings) :
    Except String Lineage :=
  match surroundings.install path with
  | .error message => .error message
  | .ok ⟨manifest, loaders, world⟩ =>
    let (exchanges, world) := world.askAll requests
    let registry := world.registries (.own 0)
    .ok {
      path
      manifest
      policy := registry.policy
      exchanges
      queries := requests.map (Query.of registry)
      records := registry.snapshot
      loaders := loaders.map fun loader => (loader.id, loader.generated world) }

/-- Resolves requests and writes what was generated by whom. -/
def report (path : String) (requests : List String) (json : Bool) (surroundings : Surroundings) :
    Report :=
  match Lineage.of path requests surroundings with
  | .error message => .refused message
  | .ok lineage =>
    { exit := exitAfter lineage.exchanges
      stdout := if json then Report.ofJson lineage.toJson else lineage.toText
      diagnostics := lineage.remarks }

end Lineage

end ModuleSynthesis
