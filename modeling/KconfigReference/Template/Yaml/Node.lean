import KconfigReference.Template.Yaml.Tag
import KconfigReference.Template.Yaml.Token

/-!
Nodes: what the tokens of one document denote before its scalars get their values. An alias is the
node of its anchor, which may still be unfinished, so the nodes form a graph that may have cycles.
-/

namespace KconfigReference.Yaml

/-- The place of a node in its graph. -/
abbrev NodeId := Nat

inductive Content where
  | scalar (text : CodeText)
  | sequence (items : List NodeId)
  | mapping (entries : List (NodeId × NodeId))
deriving Repr, DecidableEq

structure Node where
  tag : Tag
  content : Content
deriving Repr, DecidableEq

abbrev Graph := Array Node

/-- The document so far. -/
structure Composition where
  reading : Reading
  /-- What the handles of tags stand for. -/
  handles : List (Text × Text)
  anchors : List (Text × NodeId)
  graph : Graph

abbrev Compose := StateT Composition (Except Fault)

namespace Compose

def malformed : Compose α := throw .malformed

def lex (part : Lex α) : Compose α := fun c =>
  (part c.reading).map fun (a, reading) => (a, { c with reading := reading })

def peek : Compose Token := lex Lex.peek

def skip : Compose Unit := lex Lex.skip

/-- Skips a token that has to come next. -/
def expect (token : Token) : Compose Unit := do
  if (← peek) = token then skip else malformed

/-- Skips a token if it comes next, and tells whether it did. -/
def skipIf (token : Token) : Compose Bool := do
  if (← peek) = token then
    skip
    pure true
  else pure false

def standardHandles : List (Text × Text) := [("!", "!"), ("!!", Tag.standard)]

/-- The full name of a tag. -/
def fullName (written : WrittenTag) : Compose Text := do
  match written.handle with
  | none => pure written.suffix
  | some handle =>
      match (← get).handles.lookup handle with
      | some full => pure (full ++ written.suffix)
      | none => malformed

/-- Adds a node to the graph. An anchor gives it a name, which has to be new. -/
def add (anchor : Option Text) (node : Node) : Compose NodeId := do
  let id := (← get).graph.size
  match anchor with
  | none => pure ()
  | some name =>
      if ((← get).anchors.lookup name).isSome then malformed
      else modify fun c => { c with anchors := (name, id) :: c.anchors }
  modify fun c => { c with graph := c.graph.push node }
  pure id

/-- The node where nothing is written. -/
def absent : Compose NodeId := add none ⟨.null, .scalar []⟩

/-- Gives a node its content when all parts of it are known. -/
def finish (id : NodeId) (content : Content) : Compose NodeId := do
  modify fun c => { c with graph := c.graph.modify id fun node => { node with content := content } }
  pure id

/-- The anchor and the tag before the content of a node, in either order. -/
def properties : Compose (Option Text × Option WrittenTag) := do
  match ← peek with
  | .anchor name =>
      skip
      match ← peek with
      | .tag written =>
          skip
          pure (some name, some written)
      | _ => pure (some name, none)
  | .tag written =>
      skip
      match ← peek with
      | .anchor name =>
          skip
          pure (some name, some written)
      | _ => pure (none, some written)
  | _ => pure (none, none)

/-- The tag of a node: its own if it has one, and else one that its content decides. The tag `!`
leaves it to the content. -/
def tagOr (byContent : Tag) (name : Option Text) : Tag :=
  match name with
  | none => byContent
  | some name => if name = ['!'] then byContent else Tag.ofName name

/-- The tag of a scalar without quotation marks, or with them. -/
def scalarTag (text : CodeText) (isPlain : Bool) (name : Option Text) : Tag :=
  tagOr (if isPlain || name = some ['!'] then (text.plain?.map Tag.ofPlain).getD .text else .text)
    name

end Compose

open Compose

/-- Which nodes may come: block collections only where lines are told apart by indentation, and a
sequence without indentation of its own only as a part of a mapping there. -/
inductive Surroundings where
  | flow
  | block
  | blockEntry
deriving DecidableEq

mutual

/-- Reads one node. The first argument bounds the tokens still to be read. -/
def node : Nat → Surroundings → Compose NodeId
  | 0, _ => malformed
  | bound + 1, place => do
      match ← peek with
      | .alias name =>
          skip
          match (← get).anchors.lookup name with
          | some id => pure id
          | none => malformed
      | _ => do
          let (anchor, written) ← properties
          let name ← written.mapM fullName
          let sequence : Node := ⟨tagOr .sequence name, .sequence []⟩
          let mapping : Node := ⟨tagOr .mapping name, .mapping []⟩
          let content ← peek
          match content with
          | .scalar text isPlain =>
              skip
              add anchor ⟨scalarTag text isPlain name, .scalar text⟩
          | .flowSequenceStart =>
              let id ← add anchor sequence
              skip
              finish id (.sequence (← flowItems bound true))
          | .flowMappingStart =>
              let id ← add anchor mapping
              skip
              finish id (.mapping (← flowEntries bound true))
          | _ =>
              if content = .blockEntry && place = .blockEntry then
                let id ← add anchor sequence
                finish id (.sequence (← flushItems bound))
              else if content = .blockSequenceStart && place ≠ .flow then
                let id ← add anchor sequence
                skip
                finish id (.sequence (← blockItems bound))
              else if content = .blockMappingStart && place ≠ .flow then
                let id ← add anchor mapping
                skip
                finish id (.mapping (← blockEntries bound))
              else if anchor.isSome || name.isSome then
                add anchor ⟨scalarTag [] true name, .scalar []⟩
              else malformed

/-- Reads a node, or nothing before one of some tokens. -/
def nodeUnless (ends : List Token) : Nat → Surroundings → Compose NodeId
  | 0, _ => malformed
  | bound + 1, place => do
      if ends.contains (← peek) then absent else node bound place

/-- Reads the items of an indented sequence. -/
def blockItems : Nat → Compose (List NodeId)
  | 0 => malformed
  | bound + 1 => do
      if ← skipIf .blockEntry then
        let item ← nodeUnless [.blockEntry, .blockEnd] bound .block
        pure (item :: (← blockItems bound))
      else
        expect .blockEnd
        pure []

/-- Reads the items of a sequence whose marks are not indented further than the mapping it is part
of. -/
def flushItems : Nat → Compose (List NodeId)
  | 0 => malformed
  | bound + 1 => do
      if ← skipIf .blockEntry then
        let item ← nodeUnless [.blockEntry, .key, .value, .blockEnd] bound .block
        pure (item :: (← flushItems bound))
      else pure []

/-- Reads the entries of an indented mapping. -/
def blockEntries : Nat → Compose (List (NodeId × NodeId))
  | 0 => malformed
  | bound + 1 => do
      let ends : List Token := [.key, .value, .blockEnd]
      let key ← match ← peek with
        | .key => do
            skip
            some <$> nodeUnless ends bound .blockEntry
        | _ => pure none
      match key with
      | none =>
          expect .blockEnd
          pure []
      | some key =>
          let value ←
            if ← skipIf .value then nodeUnless ends bound .blockEntry else absent
          pure ((key, value) :: (← blockEntries bound))

/-- Reads the items of a sequence in brackets; an item may be a mapping of one entry. -/
def flowItems : Nat → Bool → Compose (List NodeId)
  | 0, _ => malformed
  | bound + 1, isFirst => do
      if ← skipIf .flowSequenceEnd then pure []
      else do
        if !isFirst then expect .flowEntry
        match ← peek with
        | .flowSequenceEnd =>
            skip
            pure []
        | .key =>
            let id ← add none ⟨.mapping, .mapping []⟩
            skip
            let key ← nodeUnless [.value, .flowEntry, .flowSequenceEnd] bound .flow
            let value ←
              if ← skipIf .value then
                nodeUnless [.flowEntry, .flowSequenceEnd] bound .flow
              else absent
            let _ ← finish id (.mapping [(key, value)])
            pure (id :: (← flowItems bound false))
        | _ =>
            let item ← node bound .flow
            pure (item :: (← flowItems bound false))

/-- Reads the entries of a mapping in braces; an entry may be a key alone. -/
def flowEntries : Nat → Bool → Compose (List (NodeId × NodeId))
  | 0, _ => malformed
  | bound + 1, isFirst => do
      if ← skipIf .flowMappingEnd then pure []
      else do
        if !isFirst then expect .flowEntry
        match ← peek with
        | .flowMappingEnd =>
            skip
            pure []
        | .key =>
            skip
            let key ← nodeUnless [.value, .flowEntry, .flowMappingEnd] bound .flow
            let value ←
              if ← skipIf .value then nodeUnless [.flowEntry, .flowMappingEnd] bound .flow
              else absent
            pure ((key, value) :: (← flowEntries bound false))
        | _ =>
            let key ← node bound .flow
            let value ← absent
            pure ((key, value) :: (← flowEntries bound false))

end

/-- Reads the directives before a document. A version or a handle may be settled once, and the
version's major number is 1. -/
def directives : Nat → Bool → Compose Unit
  | 0, _ => malformed
  | bound + 1, versioned => do
      match ← peek with
      | .directive found =>
          skip
          match found with
          | .version major =>
              if versioned || major ≠ 1 then malformed else directives bound true
          | .tag handle full =>
              if ((← get).handles.lookup handle).isSome then malformed
              else
                modify fun c => { c with handles := (handle, full) :: c.handles }
                directives bound versioned
          | .reserved => directives bound versioned
      | _ => modify fun c => { c with handles := c.handles ++ standardHandles }

/-- Reads the beginning of a document that is marked as one. -/
def documentStart (bound : Nat) : Compose Unit := do
  modify fun c => { c with handles := [] }
  directives bound false
  expect .documentStart

/-- Reads the node of a document that is marked as one; it may be missing. -/
def markedContent (bound : Nat) : Compose NodeId := do
  match ← peek with
  | .directive _ => absent
  | .documentStart => absent
  | .documentEnd => absent
  | .streamEnd => absent
  | _ => node bound .block

/-- Skips the marks at the end of documents. -/
def skipEnds : Nat → Compose Unit
  | 0 => malformed
  | bound + 1 => do if ← skipIf .documentEnd then skipEnds bound

/-- Reads the only document of a stream, which may be empty. -/
def document (bound : Nat) : Compose (Option NodeId) := do
  let root ← match ← peek with
    | .streamEnd => return none
    | .directive _ => documentStart bound *> markedContent bound
    | .documentStart => documentStart bound *> markedContent bound
    | _ => do
        modify fun c => { c with handles := standardHandles }
        node bound .block
  skipEnds bound
  if (← peek) = .streamEnd then pure (some root)
  else
    documentStart bound
    malformed

/-- The graph of a text that is one document, and its root. -/
def Graph.ofInput (input : Input) : Except Fault (Option (Graph × NodeId)) := do
  let (root, c) ← document (16 * input.bound) ⟨.ofInput input, [], [], #[]⟩
  pure (root.map (c.graph, ·))

end KconfigReference.Yaml
