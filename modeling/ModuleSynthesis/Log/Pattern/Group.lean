import ModuleSynthesis.Text.Character
import ModuleSynthesis.Log.Pattern.Basic

/-!
# Groups of expressions

A parenthesis opens a group, which may have a name, or sets flags for the group that it stands in.

* `Pattern.Opening`: what an opening parenthesis does.
* `Pattern.opening?`: the opening behind a parenthesis.
-/

namespace ModuleSynthesis.Log

namespace Pattern

/-- The flags in front of a colon or a closing parenthesis: the flags that have occurred, whether
they are taken away, and the mode that they lead to. -/
def flags? (seen : List Char) (negated : Bool) (mode : Mode) :
    List Char → Option (List Char × Mode × List Char)
  | [] => none
  | c :: rest =>
    if c = ':' ∨ c = ')' then
      if seen.head? = some '-' then none else some (seen, mode, c :: rest)
    else if seen.contains c || !"imsURux-".toList.contains c then none
    else if c = '-' then flags? (c :: seen) true mode rest
    else
      let mode := if c = 'x' then { mode with spaced := !negated }
        else if c = 'u' then { mode with unicode := !negated } else mode
      flags? (c :: seen) negated mode rest

/-- Whether a name may start with a character. -/
def isNameStart (c : Char) : Bool :=
  c == '_' || Text.isAlphabetic c

/-- Whether a name may go on with a character. -/
def isNamePart (c : Char) : Bool :=
  "_.[]".toList.contains c || Text.isAlphanumeric c

/-- The name of a group, in front of its closing bracket. -/
def groupName? (text : List Char) : Option (List Char × List Char) :=
  match text.takeWhile (· != '>'), text.dropWhile (· != '>') with
  | first :: others, '>' :: rest =>
    if isNameStart first && others.all isNamePart then some (first :: others, rest) else none
  | _, _ => none

/-- What an opening parenthesis does. -/
inductive Opening where
  /-- It opens a group that is read in a mode. -/
  | group (mode : Mode)
  /-- It opens a group with a name. -/
  | named (name : List Char)
  /-- It sets the mode of what follows. -/
  | setting (mode : Mode)

/-- What a parenthesis opens, with the parenthesis already read, and what stands behind that. -/
def opening? (mode : Mode) (text : List Char) : Option (Opening × List Char) :=
  match dropSpaces mode text with
  | '?' :: 'P' :: '<' :: rest | '?' :: '<' :: rest =>
    (groupName? rest).map fun (name, rest) => (.named name, rest)
  | '?' :: rest =>
    match flags? [] false mode rest with
    | some (seen, mode, ')' :: rest) =>
      if seen.isEmpty then none else some (.setting mode, rest)
    | some (_, mode, ':' :: rest) => some (.group mode, rest)
    | _ => none
  | rest => some (.group mode, rest)

end Pattern

end ModuleSynthesis.Log
