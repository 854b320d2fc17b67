import KconfigReference.Template.Load
import KconfigReference.Template.Yaml.Outline

/-!
Values of documents. The value of a node is what its outline unfolds to; a collection that comes
again inside itself is marked there and not unfolded further. A node whose value has no such mark
has the same value wherever it stands, so it is unfolded once.
-/

namespace KconfigReference.Yaml

namespace Outline

/-- The values of the nodes that have been unfolded without a mark. -/
abbrev Unfold := StateM (Array (Option Setting))

/-- A value, and whether there is no mark in it. -/
structure Unfolded where
  value : Setting
  isFinal : Bool

def final (value : Setting) : Unfolded := ⟨value, true⟩

/-- The values of the parts of a collection. -/
def parts (part : NodeId → Unfold Unfolded) (items : List NodeId) :
    Unfold (List Setting × Bool) := do
  let found ← items.mapM part
  pure (found.map (·.value), found.all (·.isFinal))

/-- The values of the parts of a collection that is not one of those above it. -/
def inside (part : NodeId → Unfold Unfolded) (outline : Outline) : Unfold Unfolded := do
  match outline with
  | .leaf value _ => pure (final value)
  | .set items =>
      let (values, isFinal) ← parts part items
      pure ⟨.set values, isFinal⟩
  | .list items =>
      let (values, isFinal) ← parts part items
      pure ⟨.list values, isFinal⟩
  | .pairs entries =>
      let (keys, keysFinal) ← parts part (entries.map Prod.fst)
      let (values, valuesFinal) ← parts part (entries.map Prod.snd)
      let pairs := (keys.zip values).map fun (key, value) => Setting.tuple [key, value]
      pure ⟨.list pairs, keysFinal && valuesFinal⟩
  | .dict entries =>
      let (keys, keysFinal) ← parts part (entries.map Prod.fst)
      let (values, valuesFinal) ← parts part (entries.map Prod.snd)
      pure ⟨.dict (keys.zip values), keysFinal && valuesFinal⟩

/-- What stands for a collection that comes again. -/
def mark : Outline → Setting
  | .dict _ => .enclosing true
  | _ => .enclosing false

/-- Unfolds a node. `above` are the collections that it is a part of; the first argument bounds how
many there may be. -/
def unfold (outlines : Array (Option Outline)) : Nat → List NodeId → NodeId → Unfold Unfolded
  | 0, _, _ => pure (final .null)
  | bound + 1, above, id => do
      match ((← get)[id]?).join, (outlines[id]?).join with
      | some value, _ => pure (final value)
      | none, none => pure (final .null)
      | none, some outline =>
          if above.contains id then pure ⟨outline.mark, false⟩
          else
            let whole ← inside (unfold outlines bound (id :: above)) outline
            if whole.isFinal then modify fun known => known.modify id fun _ => some whole.value
            pure whole

/-- The value of a document. The entries of a mapping are values of their own, so the mapping may
come once more inside them before it is marked. -/
def value (outlines : Array (Option Outline)) (root : NodeId) : Setting :=
  let unfolded : Unfold Unfolded :=
    let whole := unfold outlines (outlines.size + 1) []
    match (outlines[root]?).join with
    | some (.dict entries) => inside whole (.dict entries)
    | _ => whole root
  (unfolded (outlines.map fun _ => none)).1.value

end Outline

/-- Reads a file that is one document; an empty one is null. -/
def read (bytes : Bytes) : Except Fault Setting := do
  match ← Graph.ofInput (← Input.ofBytes bytes) with
  | none => pure .null
  | some (graph, root) => pure (Outline.value (← graph.outlines root) root)

/-- The reader of templates that goes by this reading of YAML. -/
def reader : Template.YamlReader := fun bytes =>
  (read bytes).mapError fun
    | .malformed => .malformed "no document in YAML 1.1"
    | .misused m => .misused m

end KconfigReference.Yaml
