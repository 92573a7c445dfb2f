/-!
# Folders

Where commands read their files. Reading a file gives its text or says why it cannot be read.

* `ReadFault`: why a file cannot be read.
* `decodeText`: the text of a file from its bytes.
* `Folder`: files held in memory under their paths, and what is known of the system around them.
* `Folder.read`: the text of a file, found by following a path from the folder or from the root.
-/

namespace ModuleSynthesis

/-- Why a file cannot be read. -/
inductive ReadFault where
  /-- There is nothing under the path. -/
  | notFound
  /-- A folder is there. -/
  | isFolder
  /-- The path goes through something that is no folder. -/
  | notFolder
  /-- The path, or a name in it, is too long. -/
  | nameTooLong
  /-- The bytes are no text. -/
  | notText
  /-- Something else. -/
  | other (reason : String)
deriving DecidableEq, Repr

/-- The wording of a fault. -/
def ReadFault.message : ReadFault → String
  | .notFound => "No such file or directory (os error 2)"
  | .isFolder => "Is a directory (os error 21)"
  | .notFolder => "Not a directory (os error 20)"
  | .nameTooLong => "File name too long (os error 36)"
  | .notText => "stream did not contain valid UTF-8"
  | .other reason => reason

/-- The text of a file from its bytes, which have to be UTF-8. -/
def decodeText (bytes : ByteArray) : Except ReadFault String :=
  match String.fromUTF8? bytes with
  | some text => .ok text
  | none => .error .notText

/-- Files held in memory: the bytes under each path, or nothing for a folder. -/
structure Folder where
  /-- Paths, as their parts, and what is there. -/
  entries : List (List String × Option ByteArray) := []

/-- Where a path leads. -/
inductive Place where
  /-- Into the folder. -/
  | inside (path : List String)
  /-- To a folder that the folder is in. -/
  | above
  /-- Out of the folder, from the root. -/
  | outside (path : List String)
deriving DecidableEq, Repr

/-- The place that two dots lead to. -/
def Place.parent : Place → Place
  | .inside [] | .above => .above
  | .inside path => .inside path.dropLast
  | .outside path => .outside path.dropLast

/-- The place that a name leads to, if it may be there. -/
def Place.child? (name : String) : Place → Option Place
  | .inside path => some (.inside (path ++ [name]))
  | .above => none
  | .outside path => some (.outside (path ++ [name]))

namespace Folder

/-- What every system has outside of the folder: some folders, and a file that is always empty. -/
def system : List (List String × Option ByteArray) :=
  [(["dev", "null"], some ByteArray.empty), (["bin"], none), (["boot"], none), (["dev"], none),
    (["etc"], none), (["home"], none), (["lib"], none), (["media"], none), (["mnt"], none),
    (["opt"], none), (["proc"], none), (["root"], none), (["run"], none), (["sbin"], none),
    (["srv"], none), (["sys"], none), (["tmp"], none), (["usr"], none), (["var"], none)]

/-- The parts of a path between its slashes, at least one. -/
def splitSlashes : List Char → List (List Char)
  | [] => [[]]
  | c :: rest =>
    if c = '/' then [] :: splitSlashes rest
    else
      match splitSlashes rest with
      | part :: parts => (c :: part) :: parts
      | [] => [[c]]

/-- The parts of a path. -/
def partsOf (path : String) : List String :=
  (splitSlashes path.toList).map String.ofList

/-- A folder from paths and what is there. -/
def ofList (entries : List (String × Option ByteArray)) : Folder :=
  ⟨entries.map fun (path, content) => (partsOf path, content)⟩

/-- What is under a path: a file with its bytes, a folder, or nothing. -/
def lookup (entries : List (List String × Option ByteArray)) (path : List String) :
    Option (Option ByteArray) :=
  match entries.find? (·.1 = path) with
  | some (_, content) => some content
  | none => if entries.any (path.isPrefixOf ·.1) || path = [] then some none else none

/-- What is at a place. -/
def find? (folder : Folder) : Place → Option (Option ByteArray)
  | .inside path => lookup folder.entries path
  | .above => some none
  | .outside path => lookup system path

/-- The longest name of a file, in bytes. -/
def maxName : Nat := 255

/-- The longest path, in bytes. -/
def maxPath : Nat := 4095

/-- Follows the parts of a path from a place. An empty part and a dot stay at the place, which has
to be a folder; two dots lead out of it. -/
def follow (folder : Folder) (place : Place) : List String → Except ReadFault ByteArray
  | [] =>
    match folder.find? place with
    | some (some content) => .ok content
    | some none => .error .isFolder
    | none => .error .notFound
  | part :: parts =>
    match folder.find? place with
    | some none =>
      if part = "" ∨ part = "." then follow folder place parts
      else if part = ".." then follow folder place.parent parts
      else if maxName < part.utf8ByteSize then .error .nameTooLong
      else
        match place.child? part with
        | some child => follow folder child parts
        | none => .error .notFound
    | some (some _) => .error .notFolder
    | none => .error .notFound

/-- The bytes of the file under a path, which starts from the root if it starts with a slash. -/
def bytes (folder : Folder) (path : String) : Except ReadFault ByteArray :=
  if path = "" then .error .notFound
  else if maxPath < path.utf8ByteSize then .error .nameTooLong
  else
    match partsOf path with
    | "" :: parts => folder.follow (.outside []) parts
    | parts => folder.follow (.inside []) parts

/-- The text of the file under a path. -/
def read (folder : Folder) (path : String) : Except ReadFault String :=
  match folder.bytes path with
  | .ok content => decodeText content
  | .error fault => .error fault

end Folder

end ModuleSynthesis
