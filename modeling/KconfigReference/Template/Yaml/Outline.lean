import KconfigReference.Template.Yaml.Merge
import KconfigReference.Template.Yaml.Scalar

/-!
Outlines: what each node of a graph is, with the parts of a collection still named by their nodes. A
collection is filled after everything that was met before it, so a fault counts before those that
lie deeper, and an outline that a node has once is not made again.
-/

namespace KconfigReference.Yaml

/-- The collections that tags ask for. -/
inductive Shape where
  | list
  | dict
  | set
  | pairs
deriving Repr, DecidableEq

def Tag.shape? : Tag → Option Shape
  | .sequence => some .list
  | .mapping => some .dict
  | .set => some .set
  | .orderedMapping => some .pairs
  | .pairs => some .pairs
  | _ => none

inductive Outline where
  /-- A value without parts. What is no number is the same only where it is the same node, except
  that there is one for the word `.nan`. -/
  | leaf (value : Setting) (origin : Option NodeId)
  | list (items : List NodeId)
  | dict (entries : Entries)
  | set (items : List NodeId)
  | pairs (entries : Entries)
deriving Repr

def Shape.empty : Shape → Outline
  | .list => .list []
  | .dict => .dict []
  | .set => .set []
  | .pairs => .pairs []

namespace Graph

/-- The text of a scalar. A mapping stands for the value of its first key `=`. The first argument
bounds how many mappings stand for each other. -/
def scalarText (graph : Graph) : Nat → NodeId → Except Fault CodeText
  | 0, _ => .error (.misused .endless)
  | bound + 1, id =>
      match (graph.node id).content with
      | .scalar text => .ok text
      | .sequence _ => .error .malformed
      | .mapping entries =>
          match entries.find? fun (key, _) => (graph.node key).tag = .value with
          | some (_, value) => scalarText graph bound value
          | none => .error .malformed

/-- The value of a node without parts. A time has to be written in the node itself. -/
def leaf (graph : Graph) (id : NodeId) : Except Fault Outline := do
  let node := graph.node id
  if !node.tag.isOfScalar then throw .malformed
  let text ← graph.scalarText (graph.size + 1) id
  match node.tag, node.content with
  | .timestamp, .mapping _ => throw (.misused .wrongType)
  | tag, _ =>
      let origin := if tag = .float && text.plain?.any isNoNumber then none else some id
      pure (.leaf (← scalarValue tag text) origin)

end Graph

/-- The outlines made so far, and the collections that wait to be filled, the latest first. -/
structure Drawing where
  graph : Graph
  /-- A bound on the steps of merging. -/
  mergeBound : Nat
  outlines : Array (Option Outline)
  waiting : List NodeId

abbrev Draw := StateT Drawing (Except Fault)

namespace Draw

def malformed : Draw α := throw .malformed

def setOutline (id : NodeId) (outline : Outline) : Draw Unit :=
  modify fun d => { d with outlines := d.outlines.modify id fun _ => some outline }

/-- The outline of a node; a collection that is met for the first time is empty, and waits. -/
def outline (id : NodeId) : Draw Outline := do
  let d ← get
  match (d.outlines[id]?).join with
  | some made => pure made
  | none =>
      match (d.graph.node id).tag.shape? with
      | some shape =>
          setOutline id shape.empty
          modify fun d => { d with waiting := id :: d.waiting }
          pure shape.empty
      | none =>
          let made ← monadLift (d.graph.leaf id)
          setOutline id made
          pure made

/-- Whether two keys of a mapping are the same. -/
def isSameKey : Outline → Outline → Bool
  | .leaf (.float .nan) origin, .leaf (.float .nan) other => origin = other
  | .leaf a _, .leaf b _ => a.sameKey b
  | _, _ => false

/-- Gives a key a value: in the key's place if it has one, else at the end. -/
def putEntry (key : Outline) (id value : NodeId) :
    List (Outline × NodeId × NodeId) → List (Outline × NodeId × NodeId)
  | [] => [(key, id, value)]
  | (known, first, old) :: rest =>
      if isSameKey known key then (known, first, value) :: rest
      else (known, first, old) :: putEntry key id value rest

/-- The entries of a mapping after merging, each key once. Collections are no keys. -/
def keyed (id : NodeId) : Draw Entries := do
  let d ← get
  if (d.graph.entries? id).isNone then malformed
  let ((), graph) ← monadLift (Rework.settle d.mergeBound id [] d.graph)
  modify fun d => { d with graph := graph }
  let entries ← ((graph.entries? id).getD []).foldlM (fun known (key, value) => do
    match ← outline key with
    | .leaf name origin =>
        let _ ← outline value
        pure (putEntry (.leaf name origin) key value known)
    | _ => malformed) []
  pure (entries.map Prod.snd)

/-- The entry of a mapping that has only one. -/
def onlyEntry (id : NodeId) : Draw (NodeId × NodeId) := do
  match (← get).graph.entries? id with
  | some [(key, value)] =>
      let _ ← outline key
      let _ ← outline value
      pure (key, value)
  | _ => malformed

/-- Finds the parts of a collection. -/
def fill (id : NodeId) : Draw Unit := do
  let node := (← get).graph.node id
  match node.tag.shape?, node.content with
  | some .list, .sequence items =>
      items.forM fun item => do let _ ← outline item
      setOutline id (.list items)
  | some .dict, _ => do setOutline id (.dict (← keyed id))
  | some .set, _ => do setOutline id (.set ((← keyed id).map Prod.fst))
  | some .pairs, .sequence items => do setOutline id (.pairs (← items.mapM onlyEntry))
  | _, _ => malformed

/-- Fills what waits, round after round. The first argument bounds the rounds. -/
def rounds : Nat → Draw Unit
  | 0 => pure ()
  | bound + 1 => do
      let waiting := (← get).waiting
      if waiting ≠ [] then
        modify fun d => { d with waiting := [] }
        waiting.reverse.forM fill
        rounds bound

end Draw

/-- The outlines of the nodes that a root leads to. A node is filled once, so there are no more
rounds than nodes. -/
def Graph.outlines (graph : Graph) (root : NodeId) : Except Fault (Array (Option Outline)) := do
  let drawn : Draw Unit := do
    let _ ← Draw.outline root
    Draw.rounds (graph.size + 1)
  let ((), d) ← drawn ⟨graph, graph.mergeBound, graph.map fun _ => none, []⟩
  pure d.outlines

end KconfigReference.Yaml
