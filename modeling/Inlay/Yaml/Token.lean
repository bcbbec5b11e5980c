/-!
# Tokens of a document

Besides what is written, tokens mark where indented collections open and close,
and every key has a token before it.
-/

namespace Inlay.Yaml

/-- An instruction before a document. -/
inductive Directive where
  | version (major minor : Nat)
  | handle (handle start : String)
  | other (name : String)
  deriving DecidableEq, Repr

/-- The tokens of a document. -/
inductive Token where
  | directive (d : Directive)
  | documentStart
  | documentEnd
  | blockSequenceStart
  | blockMappingStart
  | blockEnd
  | flowSequenceStart
  | flowSequenceEnd
  | flowMappingStart
  | flowMappingEnd
  | blockEntry
  | flowEntry
  | key
  | value
  | alias (name : String)
  | anchor (name : String)
  | tag (handle : Option String) (suffix : String)
  | scalar (text : String) (plain : Bool)
  | ending
  deriving DecidableEq, Repr

/-- How many collections are open after a token, where `n` of them are before it. -/
def Token.openAfter (n : Nat) : Token → Nat
  | blockSequenceStart | blockMappingStart | flowSequenceStart | flowMappingStart => n + 1
  | blockEnd | flowSequenceEnd | flowMappingEnd => n - 1
  | _ => n

end Inlay.Yaml
