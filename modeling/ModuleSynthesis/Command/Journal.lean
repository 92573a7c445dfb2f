import ModuleSynthesis.Command.Report
import ModuleSynthesis.World

/-!
# Log messages of the commands

The log messages that tell what the commands do: what has happened in a world, which manifest was
read, and what became of requests.

* `Event.record?`: the message about something that has happened in a world.
* `loadedRecord`: the message about a manifest that was read.
* `resolvedRecord`, `unhandledRecord`: the messages about a request.
-/

namespace ModuleSynthesis

/-- The part of the program where loaders take requests up. -/
def loaderTarget : String := "modsynth_kernel::loader"

/-- The part of the program that asks the resolvers of a chain. -/
def chainTarget : String := "modsynth_kernel::host"

/-- The part of the program that reads manifests. -/
def manifestTarget : String := "modsynth_manifest"

/-- The part of the program that makes the requests of a command. -/
def requestTarget : String := "modsynth::commands::resolve"

/-- The message about something that has happened. Calls of generators are not told of. -/
def Event.record? : Event → Option Log.Record
  | .called _ => none
  | .generated _ unit =>
    some ⟨.info, loaderTarget, "generated unit",
      [("loader", unit.loader), ("name", Text.quoted unit.name),
        ("pattern", Text.quoted unit.pattern), ("fragments", toString unit.fragments.length)]⟩
  | .unnamed loader request =>
    some ⟨.debug, loaderTarget, "request has no usable name",
      [("loader", loader), ("request", Text.quoted request)]⟩
  | .excluded loader name =>
    some ⟨.debug, loaderTarget, "name outside match_only", [("loader", loader), ("name", name)]⟩
  | .stopped loader name pattern =>
    some ⟨.debug, loaderTarget, "rule evaluation stopped",
      [("loader", loader), ("name", name), ("pattern", Text.quoted pattern)]⟩
  | .skipped loader name pattern =>
    some ⟨.debug, loaderTarget, "rule skipped",
      [("loader", loader), ("name", name), ("pattern", Text.quoted pattern)]⟩
  | .failed loader name pattern cause =>
    some ⟨.warn, loaderTarget, "generator failed",
      [("loader", loader), ("name", name), ("pattern", Text.quoted pattern), ("error", cause)]⟩
  | .exhausted loader name =>
    some ⟨.debug, loaderTarget, "no rule produced a unit", [("loader", loader), ("name", name)]⟩
  | .reused request path =>
    some ⟨.debug, chainTarget, "served from loaded table",
      [("request", Text.quoted request), ("key", path)]⟩
  | .unhandled request =>
    some ⟨.debug, chainTarget, "no resolver handled request", [("request", Text.quoted request)]⟩

/-- The message about a manifest that was read. -/
def loadedRecord (path : String) (manifest : Manifest) : Log.Record :=
  ⟨.debug, manifestTarget, "manifest loaded",
    [("path", Text.quoted path), ("loaders", toString manifest.loaders.length)]⟩

/-- The message about a request that came to a unit. -/
def resolvedRecord (request : String) (unit : SourceUnit) : Log.Record :=
  ⟨.info, requestTarget, "resolved",
    [("request", request), ("loader", unit.loader), ("digest", unit.digest)]⟩

/-- The message about a request that nobody took up. -/
def unhandledRecord (request : String) : Log.Record :=
  ⟨.warn, requestTarget, "no loader handled " ++ request, []⟩

end ModuleSynthesis
