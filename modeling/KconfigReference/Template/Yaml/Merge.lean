import KconfigReference.Template.Yaml.Node

/-!
Merging of mappings. The value of a key `<<` is a mapping, or a sequence of mappings, whose entries
come before those of the mapping that the key stands in. The entries of a mapping that merges others
are settled once, when its value is first asked for, and may be merged elsewhere from then on.
-/

namespace KconfigReference.Yaml

abbrev Entries := List (NodeId × NodeId)

namespace Graph

def node (graph : Graph) (id : NodeId) : Node := graph[id]?.getD ⟨.null, .scalar []⟩

/-- The entries of a node that is a mapping. -/
def entries? (graph : Graph) (id : NodeId) : Option Entries :=
  match (graph.node id).content with
  | .mapping entries => some entries
  | _ => none

def setEntries (graph : Graph) (id : NodeId) (entries : Entries) : Graph :=
  graph.modify id fun node => { node with content := .mapping entries }

/-- A bound on the steps of merging inside each other. Each key `<<` is removed before its value is
looked at, so no more of them are at work at a time than there are entries, and each is at one item
of a sequence. -/
def mergeBound (graph : Graph) : Nat :=
  let (entries, items) := graph.foldl (fun (entries, items) node =>
    match node.content with
    | .scalar _ => (entries, items)
    | .sequence here => (entries, items + here.length)
    | .mapping here => (entries + here.length, items)) (0, 0)
  (entries + 1) * (items + 4)

/-- A key `=` is a text where it is the key of a mapping. -/
def settleKey (graph : Graph) (key : NodeId) : Graph :=
  if (graph.node key).tag = .value then graph.modify key fun node => { node with tag := .text }
  else graph

/-- The value of the first key `<<`, and the entries without it. -/
def splitAtMerge (graph : Graph) : Entries → Option (NodeId × Entries)
  | [] => none
  | (key, value) :: rest =>
      if (graph.node key).tag = .merge then some (value, rest)
      else (splitAtMerge graph rest).map fun (merged, others) => (merged, (key, value) :: others)

end Graph

/-- A change to the nodes. -/
abbrev Rework := StateT Graph (Except Fault)

namespace Rework

mutual

/-- Merges into a mapping what it asks for; `merged` are the entries to be put in front so far. The
first argument bounds the steps inside each other. -/
def settle : Nat → NodeId → Entries → Rework Unit
  | 0, _, _ => pure ()
  | bound + 1, id, merged => do
      let graph ← get
      let entries := (graph.entries? id).getD []
      match graph.splitAtMerge entries with
      | some (value, others) =>
          set (graph.setEntries id others)
          settle bound id (merged ++ (← toMerge bound value))
      | none =>
          let settled := entries.foldl (fun graph (key, _) => graph.settleKey key) graph
          set (if merged.isEmpty then settled else settled.setEntries id (merged ++ entries))

/-- The entries that the value of a key `<<` gives. -/
def toMerge : Nat → NodeId → Rework Entries
  | 0, _ => pure []
  | bound + 1, value => do
      match ((← get).node value).content with
      | .scalar _ => throw .malformed
      | .mapping _ => settledEntries bound value
      | .sequence items => pure (← settleAll bound items).reverse.flatten

/-- The entries of several mappings, each of which is settled in its turn. -/
def settleAll : Nat → List NodeId → Rework (List Entries)
  | 0, _ => pure []
  | _ + 1, [] => pure []
  | bound + 1, item :: rest => do
      let first ← settledEntries bound item
      pure (first :: (← settleAll bound rest))

/-- The entries of a node, which has to be a mapping, after it is settled. -/
def settledEntries : Nat → NodeId → Rework Entries
  | 0, _ => pure []
  | bound + 1, id => do
      if ((← get).entries? id).isNone then throw .malformed
      settle bound id []
      pure (((← get).entries? id).getD [])

end

end Rework

end KconfigReference.Yaml
