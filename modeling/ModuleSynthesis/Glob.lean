import ModuleSynthesis.Glob.Acceptance
import ModuleSynthesis.Glob.Table

/-!
# Globs

A glob that compiled: its text together with the tokens it denotes. The text determines the
tokens, so two globs are equal when their texts are.

* `wildcardLimit`: what is assumed of the engine that matches globs.
* `Glob.compile`: a glob from its text, or the reason why the text is none.
* `Glob.text_of_compile`, `Glob.compile_text`: a glob is what its text compiles to.
* `Glob.captures?`: what the wildcards stand for in a name, or nothing when it does not match.
* `Glob.isMatch`: whether a name matches.
-/

namespace ModuleSynthesis

open Text

/-! ## Size

The engine compiles a glob to a program, and it refuses the glob where the program is too large. How
large a program is depends on the engine. All that is assumed of it here is a bound from below: each
wildcard stands for characters other than the colon, and the program spells out the encodings of
these. So the engine refuses every glob that has more wildcards than `wildcardLimit`, and all globs
that it accepts are among those that compile here. -/

/-- The bytes that a program has for each wildcard, at least. This is an assumption about the
engine. -/
def wildcardBytes : Nat := 1024

/-- The greatest number of wildcards for which a program may be small enough. -/
def wildcardLimit : Nat := programLimit / wildcardBytes

/-! ## Globs -/

/-- A text with the tokens it denotes. -/
structure Glob where
  /-- The text of the glob. -/
  text : String
  /-- One token for each segment of the text. -/
  tokens : List Token
  /-- The tokens are those of the text. -/
  parse_text : Token.parse text = .ok tokens
  /-- The wildcards are not too many. -/
  wildcards_le : Token.wildcardsOf tokens ≤ wildcardLimit

namespace Glob

@[ext]
theorem ext_text {a b : Glob} (h : a.text = b.text) : a = b := by
  obtain ⟨text, tokens, ha, _⟩ := a
  obtain ⟨_, tokens', hb, _⟩ := b
  subst h
  obtain rfl : tokens = tokens' := Except.ok.inj (ha.symm.trans hb)
  rfl

instance : DecidableEq Glob := fun a b =>
  if h : a.text = b.text then .isTrue (ext_text h) else .isFalse fun e => h (e ▸ rfl)

/-- The glob that a text denotes. -/
def compile (text : String) : Except GlobError Glob :=
  match h : Token.parse text with
  | .error error => .error error
  | .ok tokens =>
    if hle : Token.wildcardsOf tokens ≤ wildcardLimit then .ok ⟨text, tokens, h, hle⟩
    else .error (.tooLarge text)

theorem text_of_compile {text : String} {glob : Glob} (h : compile text = .ok glob) :
    glob.text = text := by
  unfold compile at h
  split at h
  · simp at h
  · split at h
    · cases h; rfl
    · simp at h

/-- A glob is what its text compiles to. -/
theorem compile_text (glob : Glob) : compile glob.text = .ok glob := by
  unfold compile
  split
  · next h => simp [glob.parse_text] at h
  · next tokens h =>
    obtain rfl : glob.tokens = tokens := Except.ok.inj (glob.parse_text.symm.trans h)
    simp [glob.wildcards_le]

/-- The number of captures that a match yields. -/
def wildcards (glob : Glob) : Nat :=
  Token.wildcardsOf glob.tokens

/-- Whether the glob matches one name only. -/
def isLiteral (glob : Glob) : Bool :=
  glob.wildcards == 0

/-- The segments of a name that are matched against tokens. The empty name has none. -/
def subject (name : String) : List (List Char) :=
  if name = "" then [] else split name.toList

/-- What the wildcards stand for in a name, from left to right, or nothing when the name does not
match. -/
def captures? (glob : Glob) (name : String) : Option (List String) :=
  (Token.capturesOf? glob.tokens (subject name)).map (·.map String.ofList)

/-- Whether a name matches. -/
def isMatch (glob : Glob) (name : String) : Bool :=
  Token.accepts glob.tokens (subject name)

end Glob

end ModuleSynthesis
