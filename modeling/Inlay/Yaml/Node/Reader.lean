import Inlay.Yaml.Implicit
import Inlay.Yaml.Node
import Inlay.Yaml.Token.Lexer

/-!
# From tokens to nodes

One token of lookahead and no way back:

    stream    := document? ending
    document  := node | directive* '---' node?        (then '...'*)
    node      := alias | properties? content
    content   := scalar | sequence | mapping
    sequence  := opened by a column: ('-' node?)* ; in brackets: (entry (',' entry)*)? ','?
    mapping   := opened by a column: (key node?)? (value node?)? … ; in brackets likewise

Properties are an anchor and a tag, in either order. A node with properties may
lack its content. In a mapping opened by a column, the items of a sequence may
stand as far left as the keys.

Each rule that calls another has taken a token or hands on fewer steps, and
there are more steps than can be made.

A level of nesting takes up two calls of the thousand that a host's stack holds.
Where collections nest deeper than that, the tokens end.
-/

namespace Inlay.Yaml

namespace NodeReader

/-- What is left to read, what to report where the tokens end too early, the
nodes that have names, and what handles stand for. -/
structure State where
  tokens : List Token
  fault : Fault
  anchors : List (String × Node)
  handles : List (String × String)

/-- Reading with a state, until the first fault. -/
abbrev Reader := StateT State (Except Fault)

def fail {α : Type} (reason : Malformed) : Reader α := throw (.malformed reason)

def peek : Reader Token := do
  let s ← get
  match s.tokens with
  | t :: _ => return t
  | [] => throw s.fault

/-- Passes over a token. -/
def pass : Reader Unit := modify fun s => { s with tokens := s.tokens.drop 1 }

/-- Takes the given token if it is next. -/
def skip (t : Token) : Reader Bool := do
  if (← peek) = t then
    pass
    return true
  return false

/-- Takes the given token, which has to be next. -/
def expect (t : Token) : Reader Unit := do
  if !(← skip t) then fail .unexpectedToken

/-- An anchor and a full tag. -/
structure Properties where
  anchor : Option String
  tag : Option String

def fullTag (handle : Option String) (suffix : String) : Reader String := do
  match handle with
  | none => return suffix
  | some h =>
    match (← get).handles.lookup h with
    | some start => return start ++ suffix
    | none => fail (.unknownHandle h)

def anchor? : Reader (Option String) := do
  match ← peek with
  | .anchor name => pass; return some name
  | _ => return none

def tag? : Reader (Option (Option String × String)) := do
  match ← peek with
  | .tag handle suffix => pass; return some (handle, suffix)
  | _ => return none

def properties : Reader Properties := do
  let first ← anchor?
  let tag ← tag?
  let anchor ← match first, tag with
    | none, some _ => anchor?
    | a, _ => pure a
  match tag with
  | some (handle, suffix) => return ⟨anchor, some (← fullTag handle suffix)⟩
  | none => return ⟨anchor, none⟩

def name (p : Properties) (n : Node) : Reader Unit :=
  match p.anchor with
  | some a => modify fun s => { s with anchors := (a, n) :: s.anchors }
  | none => return

/-- Makes sure that the name of a node is not taken. -/
def checkName (p : Properties) : Reader Unit := do
  match p.anchor with
  | some a => if ((← get).anchors.lookup a).isSome then fail (.repeatedAnchor a)
  | none => return

/-- The tag that says to go by the looks alone. -/
def nonSpecific : String := "!"

def collectionTag (p : Properties) (usual : Tag) : Tag :=
  match p.tag with
  | none => usual
  | some t => if t = nonSpecific then usual else .ofName t

def scalarTag (p : Properties) (text : String) (plain : Bool) : Tag :=
  match p.tag with
  | none => if plain then Implicit.tagOf text else .text
  | some t => if t = nonSpecific then Implicit.tagOf text else .ofName t

def scalar (p : Properties) (text : String) (plain : Bool) : Reader Node := do
  let n := Node.scalar (scalarTag p text plain) text
  name p n
  return n

/-- Where a node stands: whether it may be opened by a column, and whether it may
be a sequence that is not indented. -/
structure Place where
  block : Bool
  indentless : Bool

def Place.inBrackets : Place := ⟨false, false⟩
def Place.item : Place := ⟨true, false⟩
def Place.entry : Place := ⟨true, true⟩

mutual

def node (steps : Nat) (place : Place) : Reader Node :=
  match steps with
  | 0 => fail .unexpectedToken
  | steps + 1 => do
    match ← peek with
    | .alias a =>
      pass
      match (← get).anchors.lookup a with
      | some n => return n
      | none => fail (.unknownAlias a)
    | _ =>
      let p ← properties
      checkName p
      content steps place p

def content (steps : Nat) (place : Place) (p : Properties) : Reader Node :=
  match steps with
  | 0 => fail .unexpectedToken
  | steps + 1 => do
    match ← peek with
    | .scalar text plain => pass; scalar p text plain
    | .flowSequenceStart => pass; sequence p (flowItems steps true)
    | .flowMappingStart => pass; mapping p (flowEntries steps true)
    | .blockSequenceStart =>
      if place.block then
        pass
        sequence p (blockItems steps)
      else missing p
    | .blockMappingStart =>
      if place.block then
        pass
        mapping p (blockEntries steps)
      else missing p
    | .blockEntry => if place.indentless then sequence p (flushItems steps) else missing p
    | _ => missing p
where
  /-- A sequence of the items that are read. -/
  sequence (p : Properties) (items : Reader (List Node)) : Reader Node := do
    let tag := collectionTag p .sequence
    name p (.enclosing tag false)
    let n := Node.sequence tag (← items)
    name p n
    return n
  /-- A mapping of the entries that are read. -/
  mapping (p : Properties) (entries : Reader (List (Node × Node))) : Reader Node := do
    let tag := collectionTag p .mapping
    name p (.enclosing tag true)
    let n := Node.mapping tag (← entries)
    name p n
    return n
  /-- A node without content, which has to have properties. -/
  missing (p : Properties) : Reader Node :=
    if p.anchor.isSome || p.tag.isSome then scalar p "" p.tag.isNone
    else fail .unexpectedToken

/-- A node, or nothing if one of the given tokens is next. -/
def nodeUnless (steps : Nat) (place : Place) (ends : List Token) : Reader Node :=
  match steps with
  | 0 => fail .unexpectedToken
  | steps + 1 => do
    if ends.contains (← peek) then return .empty else node steps place

/-- The items of a sequence opened by a column. -/
def blockItems (steps : Nat) : Reader (List Node) :=
  match steps with
  | 0 => fail .unexpectedToken
  | steps + 1 => do
    if ← skip .blockEntry then
      let n ← nodeUnless steps .item [.blockEntry, .blockEnd]
      return n :: (← blockItems steps)
    expect .blockEnd
    return []

/-- The items of a sequence that is not indented. -/
def flushItems (steps : Nat) : Reader (List Node) :=
  match steps with
  | 0 => fail .unexpectedToken
  | steps + 1 => do
    if ← skip .blockEntry then
      let n ← nodeUnless steps .item [.blockEntry, .key, .value, .blockEnd]
      return n :: (← flushItems steps)
    return []

/-- The entries of a mapping opened by a column. -/
def blockEntries (steps : Nat) : Reader (List (Node × Node)) :=
  match steps with
  | 0 => fail .unexpectedToken
  | steps + 1 => do
    if ← skip .key then
      let k ← nodeUnless steps .entry [.key, .value, .blockEnd]
      let v ← if ← skip .value then nodeUnless steps .entry [.key, .value, .blockEnd]
        else pure .empty
      return (k, v) :: (← blockEntries steps)
    expect .blockEnd
    return []

/-- The entries of a mapping in brackets. -/
def flowEntries (steps : Nat) (first : Bool) : Reader (List (Node × Node)) :=
  match steps with
  | 0 => fail .unexpectedToken
  | steps + 1 => do
    if ← skip .flowMappingEnd then return []
    if !first then expect .flowEntry
    if ← skip .key then
      let k ← nodeUnless steps .inBrackets [.value, .flowEntry, .flowMappingEnd]
      let v ← if ← skip .value then nodeUnless steps .inBrackets [.flowEntry, .flowMappingEnd]
        else pure .empty
      return (k, v) :: (← flowEntries steps false)
    if ← skip .flowMappingEnd then return []
    let k ← node steps .inBrackets
    return (k, .empty) :: (← flowEntries steps false)

/-- The items of a sequence in brackets; an entry among them is a mapping of its
own. -/
def flowItems (steps : Nat) (first : Bool) : Reader (List Node) :=
  match steps with
  | 0 => fail .unexpectedToken
  | steps + 1 => do
    if ← skip .flowSequenceEnd then return []
    if !first then expect .flowEntry
    if ← skip .key then
      let k ← nodeUnless steps .inBrackets [.value, .flowEntry, .flowSequenceEnd]
      let v ← if ← skip .value then nodeUnless steps .inBrackets [.flowEntry, .flowSequenceEnd]
        else pure .empty
      return .mapping .mapping [(k, v)] :: (← flowItems steps false)
    if ← skip .flowSequenceEnd then return []
    let n ← node steps .inBrackets
    return n :: (← flowItems steps false)

end

def directives (steps : Nat) (hasVersion : Bool) : Reader Unit :=
  match steps with
  | 0 => return
  | steps + 1 => do
    match ← peek with
    | .directive (.version major _) =>
      pass
      if hasVersion then fail .repeatedDirective
      if major ≠ 1 then fail (.unsupportedVersion major)
      directives steps true
    | .directive (.handle h start) =>
      pass
      if ((← get).handles.lookup h).isSome then fail .repeatedDirective
      modify fun s => { s with handles := (h, start) :: s.handles }
      directives steps hasVersion
    | .directive (.other _) =>
      pass
      directives steps hasVersion
    | _ => return

/-- Passes over the marks that end a document. -/
def documentEnds : Nat → Reader Unit
  | 0 => return
  | steps + 1 => do
    if ← skip .documentEnd then documentEnds steps

def stream (steps : Nat) : Reader (Option Node) := do
  match ← peek with
  | .ending => return none
  | .directive _ | .documentStart =>
    directives steps false
    modify fun s => { s with handles := s.handles ++ Tag.defaultHandles }
    expect .documentStart
    let n ← match ← peek with
      | .directive _ | .documentStart | .documentEnd | .ending => pure Node.empty
      | _ => node steps .item
    finish n
  | _ =>
    modify fun s => { s with handles := Tag.defaultHandles }
    finish (← node steps .item)
where
  /-- Makes sure that nothing follows the document. -/
  finish (n : Node) : Reader (Option Node) := do
    documentEnds steps
    if (← peek) = .ending then return some n else fail .manyDocuments

end NodeReader

/-- The deepest nesting of collections that is read. -/
def nestingLimit : Nat := 500

/-- The tokens before the first one that leaves more than `limit` collections open,
where `n` of them are open at the start. -/
def shallowTokens (limit n : Nat) : List Token → List Token
  | [] => []
  | t :: rest =>
    if limit < t.openAfter n then [] else t :: shallowTokens limit (t.openAfter n) rest

/-- Tokens that end where collections lie too deep. -/
def Lexed.upTo (limit : Nat) (l : Lexed) : Lexed :=
  let kept := shallowTokens limit 0 l.tokens
  if kept.length < l.tokens.length then ⟨kept, some .tooDeep⟩ else l

/-- The document that a text holds, if it holds one. -/
def Node.ofText? (text : String) : Except Fault (Option Node) :=
  let lexed := (tokenize text).upTo nestingLimit
  let state : NodeReader.State :=
    ⟨lexed.tokens, lexed.fault?.getD (.malformed .unexpectedToken), [], []⟩
  (NodeReader.stream (4 * lexed.tokens.length + 4) state).map (·.1)

end Inlay.Yaml
