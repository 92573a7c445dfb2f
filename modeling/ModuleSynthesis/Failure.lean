import ModuleSynthesis.Glob.Token
import ModuleSynthesis.Template.Symbol
import ModuleSynthesis.Provenance

/-!
# Failures of generation

Why a request that some rule took up came to no unit. A generator fails for a cause, which may be
a failure of a request that the generator made itself, so the two are defined together.

* `DispatchError`: a generator failed, or the registry refused the record.
* `Cause`: why a generator failed.
* `DispatchError.message`, `Cause.message`: the wordings.
* `DispatchError.sources`, `Cause.sources`: the wordings of the causes below, outermost first.
-/

namespace ModuleSynthesis

mutual

/-- Why a request that was taken up came to no unit. -/
inductive DispatchError where
  /-- The generator of the rule with this glob failed on this name. -/
  | generator (name pattern : String) (cause : Cause)
  /-- The registry refused the record. -/
  | registry (error : RegistryError)

/-- Why a generator failed. -/
inductive Cause where
  /-- It says so itself. -/
  | message (text : String)
  /-- It could not read or write something. -/
  | io (text : String)
  /-- It met a text that is no glob. -/
  | glob (error : GlobError)
  /-- It met a text that is no template. -/
  | template (error : TemplateError)
  /-- A request it made failed. -/
  | dispatch (error : DispatchError)

end

mutual

/-- The wording of a failure. -/
def DispatchError.message : DispatchError → String
  | .generator name pattern cause =>
    "generator for `" ++ pattern ++ "` failed on `" ++ name ++ "`: " ++ cause.wording
  | .registry error => error.message

/-- The wording of a cause. -/
def Cause.wording : Cause → String
  | .message text => text
  | .io text => text
  | .glob error => error.message
  | .template error => error.message
  | .dispatch error => error.message

end

mutual

/-- The wordings of the causes below a failure, outermost first. -/
def DispatchError.sources : DispatchError → List String
  | .generator _ _ cause => cause.wording :: cause.sources
  | .registry _ => []

/-- The wordings of the causes below a cause, outermost first. -/
def Cause.sources : Cause → List String
  | .message _ | .io _ | .template _ => []
  | .glob error => error.sources
  | .dispatch error => error.sources

end

end ModuleSynthesis
