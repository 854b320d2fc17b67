import KconfigReference.Files.Tree

/-!
Trees of the same shape. Main statement: in two trees with the same names every path leads to the
same place, so that it shows the same fault in both or contents that belong together.
-/

namespace KconfigReference

namespace Node

mutual

/-- Two nodes with the same names below them and with contents that belong together. -/
def Alike (like : Bytes → Bytes → Prop) : Node → Node → Prop
  | .file content, .file content' => like content content'
  | .directory entries, .directory entries' => AllAlike like entries entries'
  | .file _, .directory _ => False
  | .directory _, .file _ => False

def AllAlike (like : Bytes → Bytes → Prop) : List (Text × Node) → List (Text × Node) → Prop
  | [], [] => True
  | (name, node) :: rest, (name', node') :: rest' =>
      name' = name ∧ node.Alike like node' ∧ AllAlike like rest rest'
  | [], _ :: _ => False
  | _ :: _, [] => False

end

variable {like : Bytes → Bytes → Prop}

/-- A name is that of no entry in both, or of nodes that belong together. -/
theorem AllAlike.child? {entries entries' : List (Text × Node)} (h : AllAlike like entries entries')
    (name : Text) :
    (child? name entries = none ∧ child? name entries' = none) ∨
      ∃ node node', child? name entries = some node ∧ child? name entries' = some node' ∧
        node.Alike like node' := by
  induction entries generalizing entries' with
  | nil =>
      cases entries' with
      | nil => exact .inl ⟨rfl, rfl⟩
      | cons _ _ => exact h.elim
  | cons first rest ih =>
      cases entries' with
      | nil => exact h.elim
      | cons first' rest' =>
          obtain ⟨n, node⟩ := first
          obtain ⟨n', node'⟩ := first'
          obtain ⟨rfl, hnode, hrest⟩ := h
          by_cases hname : n' = name
          · exact .inr ⟨node, node', by simp [Node.child?, hname],
              by simp [Node.child?, hname], hnode⟩
          · simp only [Node.child?, hname, if_false]
            exact ih hrest

theorem Alike.at? {node node' : Node} (h : node.Alike like node') (location : List Text) :
    (node.at? location = none ∧ node'.at? location = none) ∨
      ∃ found found', node.at? location = some found ∧ node'.at? location = some found' ∧
        found.Alike like found' := by
  induction location generalizing node node' with
  | nil => exact .inr ⟨node, node', by simp [Node.at?], by simp [Node.at?], h⟩
  | cons name rest ih =>
      cases node with
      | file content =>
          cases node' with
          | file content' => exact .inl ⟨rfl, rfl⟩
          | directory entries' => exact h.elim
      | directory entries =>
          cases node' with
          | file content' => exact h.elim
          | directory entries' =>
              simp only [Node.at?]
              rcases AllAlike.child? h name with ⟨hnone, hnone'⟩ | ⟨child, child', hc, hc', hchild⟩
              · simp [hnone, hnone']
              · rw [hc, hc']
                exact ih hchild

mutual

theorem Alike.length_files {node node' : Node} (h : node.Alike like node')
    (names names' : List Text) : (node'.files names').length = (node.files names).length := by
  match node, node', h with
  | .file _, .file _, _ => rfl
  | .directory entries, .directory entries', h =>
      simp only [Node.files]
      exact AllAlike.length_filesOf h names names'

theorem AllAlike.length_filesOf {entries entries' : List (Text × Node)}
    (h : AllAlike like entries entries') (names names' : List Text) :
    (filesOf names' entries').length = (filesOf names entries).length := by
  match entries, entries', h with
  | [], [], _ => rfl
  | (name, node) :: rest, (name', node') :: rest', h =>
      obtain ⟨-, hnode, hrest⟩ := h
      simp only [filesOf, List.length_append, hnode.length_files (names ++ [name]),
        AllAlike.length_filesOf hrest names names']

end

end Node

namespace FileTree

/-- Two trees with the same names, in which contents at the same place belong together. -/
structure Alike (like : Bytes → Bytes → Prop) (tree tree' : FileTree) : Prop where
  home : tree'.home = tree.home
  root : tree.root.Alike like tree'.root

namespace Alike

variable {like : Bytes → Bytes → Prop} {tree tree' : FileTree}

theorem enter (h : tree.Alike like tree') (here : List Text) (name : Text) :
    tree'.enter here name = tree.enter here name := by
  unfold FileTree.enter
  rcases h.root.at? here with ⟨hnone, hnone'⟩ | ⟨node, node', hnode, hnode', hlike⟩
  · rw [hnone, hnone']
  · rw [hnode, hnode']
    cases node with
    | file content =>
        cases node' with
        | file content' => rfl
        | directory entries' => exact hlike.elim
    | directory entries =>
        cases node' with
        | file content' => exact hlike.elim
        | directory entries' =>
            have hchild :
                (Node.child? name entries').isSome = (Node.child? name entries).isSome := by
              rcases Node.AllAlike.child? hlike name with ⟨hc, hc'⟩ | ⟨_, _, hc, hc', -⟩
              · rw [hc, hc']
              · rw [hc, hc']
                rfl
            simp only [hchild]

theorem locate (h : tree.Alike like tree') (path : Text) :
    tree'.locate path = tree.locate path := by
  have hstart : tree'.start path = tree.start path := by
    unfold start
    rw [h.home]
  have henter : tree'.enter = tree.enter := funext fun here => funext (h.enter here)
  unfold FileTree.locate
  rw [hstart, henter]

/-- A path cannot be read in both trees, for the same reason, or it shows contents that belong
together. -/
theorem read (h : tree.Alike like tree') (path : Text) :
    (∃ e, tree.read path = .error e ∧ tree'.read path = .error e) ∨
      ∃ content content', tree.read path = .ok content ∧ tree'.read path = .ok content' ∧
        like content content' := by
  unfold FileTree.read
  rw [h.locate]
  cases tree.locate path with
  | error e => exact .inl ⟨e, rfl, rfl⟩
  | ok location =>
      simp only
      rcases h.root.at? location with ⟨hnone, hnone'⟩ | ⟨node, node', hnode, hnode', hlike⟩
      · rw [hnone, hnone']
        exact .inl ⟨_, rfl, rfl⟩
      · rw [hnode, hnode']
        cases node with
        | file content =>
            cases node' with
            | file content' => exact .inr ⟨content, content', rfl, rfl, hlike⟩
            | directory entries' => exact hlike.elim
        | directory entries =>
            cases node' with
            | file content' => exact hlike.elim
            | directory entries' => exact .inl ⟨_, rfl, rfl⟩

theorem length_allFiles (h : tree.Alike like tree') :
    tree'.allFiles.length = tree.allFiles.length := h.root.length_files [] []

end Alike

end FileTree

end KconfigReference
