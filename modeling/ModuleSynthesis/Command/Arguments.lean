/-!
# Command line arguments

What the words of a command line ask for. Options may stand anywhere behind the name of the
command; behind `--` every word is taken as it is. Nothing may be said twice.

* `Command`: what is to be done.
* `Invocation.parse?`: what the words of a command line ask for, if they are well formed.
-/

namespace ModuleSynthesis

/-- What is to be done. -/
inductive Command where
  /-- Names are tested against a glob. -/
  | testGlob (pattern : String) (names : List String)
  /-- The loaders of a manifest are listed. -/
  | check (manifest : String)
  /-- Requests are resolved, and the units are written. -/
  | resolve (manifest : String) (requests : List String)
  /-- Requests are resolved, and it is written what was generated by whom. -/
  | provenance (manifest : String) (requests : List String)
deriving DecidableEq, Repr

/-- The manifest that a command reads. -/
def Command.manifest? : Command → Option String
  | .testGlob _ _ => none
  | .check manifest | .resolve manifest _ | .provenance manifest _ => some manifest

/-- What a command line asks for. -/
inductive Invocation where
  /-- The version is written. -/
  | version
  /-- A command is carried out. -/
  | run (command : Command) (json verbose : Bool)
deriving DecidableEq, Repr

/-- The manifest that is read for a command line. -/
def Invocation.manifest? : Invocation → Option String
  | .version => none
  | .run command _ _ => command.manifest?

/-- The manifest that is read where none is named. -/
def defaultManifest : String := "modsynth.toml"

/-- The names of the commands. -/
inductive CommandName where
  /-- Names are tested against a glob. -/
  | testGlob
  /-- The loaders of a manifest are listed. -/
  | check
  /-- Requests are resolved. -/
  | resolve
  /-- Provenance is written. -/
  | provenance
deriving DecidableEq, Repr

namespace CommandName

/-- The command that a word names. -/
def ofWord? : String → Option CommandName
  | "match" => some .testGlob
  | "check" => some .check
  | "resolve" => some .resolve
  | "provenance" => some .provenance
  | _ => none

end CommandName

namespace Invocation

/-! ## Words behind the name of a command -/

/-- What the words behind the name of a command say. -/
structure Options where
  /-- Output is JSON. -/
  json : Bool := false
  /-- More messages are written. -/
  verbose : Bool := false
  /-- The manifest that is named. -/
  manifest? : Option String := none
  /-- The words that are no options, latest first. -/
  words : List String := []

/-- Switches on a row of one-letter options. -/
def Options.letters? (options : Options) : List Char → Option Options
  | [] => some options
  | 'v' :: rest => if options.verbose then none else letters? { options with verbose := true } rest
  | _ => none

/-- Takes the name of a manifest. -/
def Options.named? (name : CommandName) (options : Options) (path : String) : Option Options :=
  if name = .testGlob || options.manifest?.isSome then none
  else some { options with manifest? := some path }

/-- What may stand as the value of an option in a word of its own. -/
def isValue (word : List Char) : Bool :=
  match word with
  | '-' :: _ :: _ => false
  | _ => true

/-- The path behind the name of the manifest option and an equals sign. -/
def manifestPath? : List Char → Option String
  | '-' :: '-' :: 'm' :: 'a' :: 'n' :: 'i' :: 'f' :: 'e' :: 's' :: 't' :: '=' :: path =>
    some (String.ofList path)
  | _ => none

/-- Reads the words behind the name of a command. -/
def options? (name : CommandName) : Options → List String → Option Options
  | options, [] => some options
  | options, "--" :: rest => some { options with words := rest.reverse ++ options.words }
  | options, "--json" :: rest =>
    if options.json then none else options? name { options with json := true } rest
  | options, "--verbose" :: rest =>
    if options.verbose then none else options? name { options with verbose := true } rest
  | options, "--manifest" :: path :: rest =>
    if isValue path.toList then
      match options.named? name path with
      | some options => options? name options rest
      | none => none
    else none
  | options, word :: rest =>
    match word.toList with
    | '-' :: '-' :: _ =>
      match (manifestPath? word.toList).bind (options.named? name) with
      | some options => options? name options rest
      | none => none
    | '-' :: letter :: letters =>
      match options.letters? (letter :: letters) with
      | some options => options? name options rest
      | none => none
    | _ => options? name { options with words := word :: options.words } rest

/-- The command that a name and the words behind it ask for. -/
def command? (name : CommandName) (options : Options) : Option Command :=
  let manifest := options.manifest?.getD defaultManifest
  match name, options.words.reverse with
  | .testGlob, pattern :: input :: inputs => some (.testGlob pattern (input :: inputs))
  | .check, [] => some (.check manifest)
  | .resolve, request :: requests => some (.resolve manifest (request :: requests))
  | .provenance, request :: requests => some (.provenance manifest (request :: requests))
  | _, _ => none

/-! ## Words in front of the name of a command -/

/-- Reads one-letter options in front of the name of a command: whether the version is asked for,
else whether more messages are. -/
def leadingLetters? (verbose : Bool) : List Char → Option (Option Bool)
  | [] => some (some verbose)
  | 'v' :: rest => if verbose then none else leadingLetters? true rest
  | 'V' :: _ => some none
  | _ => none

/-- What the words of a command line ask for, where more messages may have been asked for. -/
def parseFrom? (verbose : Bool) : List String → Option Invocation
  | [] => none
  | "--version" :: _ => some .version
  | "--verbose" :: rest => if verbose then none else parseFrom? true rest
  | word :: rest =>
    match word.toList with
    | '-' :: '-' :: _ => none
    | '-' :: letter :: letters =>
      match leadingLetters? verbose (letter :: letters) with
      | some (some verbose) => parseFrom? verbose rest
      | some none => some .version
      | none => none
    | _ =>
      match CommandName.ofWord? word with
      | none => none
      | some name =>
        match options? name {} rest with
        | none => none
        | some options =>
          (command? name options).map fun command =>
            .run command options.json (verbose || options.verbose)

/-- What the words of a command line ask for, if they are well formed. -/
def parse? (words : List String) : Option Invocation :=
  parseFrom? false words

end Invocation

end ModuleSynthesis
