import KconfigReference.Files.Tree

/-!
Trees that differ at one location. A file that is written or removed is seen at its own location
only: at every other one there is the same file, a directory as before, or nothing as before. Main
statement: a path that leads elsewhere leads to the same place before and after.
-/

namespace KconfigReference

/-- A text whose last character stays keeps all of them. -/
theorem Text.dropTrailing_of_getLast? {p : Char → Bool} {t : Text}
    (h : ∀ c, t.getLast? = some c → p c = false) : Text.dropTrailing p t = t := by
  rcases List.eq_nil_or_concat t with rfl | ⟨before, c, rfl⟩
  · rfl
  · have hc : p c = false := h c (by simp)
    simp [Text.dropTrailing, hc]

namespace Node

/-- What there is to see of a node alone: the bytes of a file, and nothing in a directory. -/
def glimpse : Node → Option Bytes
  | .file content => some content
  | .directory _ => none

variable {entries : List (Text × Node)} {node : Node} {name : Text} {location : List Text}

theorem glimpse_eq_none_iff : node.glimpse = none ↔ ∃ entries, node = .directory entries := by
  cases node <;> simp [glimpse]

@[simp] theorem at?_nil (node : Node) : node.at? [] = some node := by cases node <;> rfl

@[simp] theorem at?_file_cons (content : Bytes) (name : Text) (rest : List Text) :
    (file content).at? (name :: rest) = none := rfl

theorem at?_directory_cons (entries : List (Text × Node)) (name : Text) (rest : List Text) :
    (directory entries).at? (name :: rest) = (child? name entries).bind (·.at? rest) := by
  rw [at?]
  cases child? name entries <;> rfl

/-- An entry of a directory that is found is found from where the directory is. -/
theorem at?_append_singleton (h : node.at? location = some (.directory entries)) (name : Text) :
    node.at? (location ++ [name]) = child? name entries := by
  induction location generalizing node with
  | nil =>
      rw [at?_nil, Option.some.injEq] at h
      rw [h, List.nil_append, at?_directory_cons]
      cases child? name entries <;> simp
  | cons first rest ih =>
      cases node with
      | file content => simp at h
      | directory inside =>
          rw [at?_directory_cons, Option.bind_eq_some_iff] at h
          obtain ⟨child, hchild, hrest⟩ := h
          rw [List.cons_append, at?_directory_cons, hchild, Option.bind_some, ih hrest]

theorem child?_putEntry (name : Text) (node : Node) (entries : List (Text × Node)) (other : Text) :
    child? other (putEntry name node entries) =
      if other = name then some node else child? other entries := by
  induction entries with
  | nil =>
      simp only [putEntry, child?, eq_comm (a := name)]
  | cons first rest ih =>
      obtain ⟨n, old⟩ := first
      by_cases hn : n = name
      · subst hn
        by_cases hother : other = n
        · simp [putEntry, child?, hother]
        · simp [putEntry, child?, hother, Ne.symm hother]
      · by_cases hother : n = other
        · subst hother
          simp [putEntry, child?, hn]
        · simp [putEntry, child?, hn, hother, ih]

theorem child?_dropEntry (name : Text) (entries : List (Text × Node)) (other : Text) :
    child? other (dropEntry name entries) =
      if other = name then none else child? other entries := by
  induction entries with
  | nil => simp [dropEntry, child?]
  | cons first rest ih =>
      obtain ⟨n, old⟩ := first
      rw [dropEntry] at ih ⊢
      by_cases hn : n = name
      · subst hn
        by_cases hother : other = n
        · simp_all
        · simp_all [child?, Ne.symm hother]
      · by_cases hother : n = other
        · subst hother
          simp_all [child?]
        · simp_all [child?]

/-- An entry of a directory and what the directory shows once that entry is another, or is gone. -/
theorem glimpse_at?_child {child child' : Option Node} {entries' : List (Text × Node)}
    {found : Option (Option Bytes)} {rest : List Text}
    (hentries : ∀ other,
      child? other entries' = if other = name then child' else child? other entries)
    (hchild : child? name entries = child)
    (hrest : ∀ other, ((child'.bind (·.at? other)).map glimpse) =
      if other = rest then found else (child.bind (·.at? other)).map glimpse) (other : List Text) :
    ((directory entries').at? other).map glimpse =
      if other = name :: rest then found else ((directory entries).at? other).map glimpse := by
  cases other with
  | nil => simp [glimpse]
  | cons first others =>
      rw [at?_directory_cons, at?_directory_cons, hentries]
      by_cases hfirst : first = name
      · subst hfirst
        rw [if_pos rfl, hchild, hrest others]
        simp
      · simp [hfirst]

/-- Nothing is found below an entry that is no directory. -/
theorem bind_at?_cons_of_free (hfree : ∀ inside, child? name entries ≠ some (.directory inside))
    (first : Text) (rest : List Text) :
    ((child? name entries).bind (·.at? (first :: rest))) = none := by
  cases hold : child? name entries with
  | none => rfl
  | some old =>
      cases old with
      | file content => rfl
      | directory inside => exact absurd hold (hfree inside)

/-- A file that is put into a directory, where no directory has its name, is seen at its location
and nowhere else. By induction on the way to the directory. -/
theorem glimpse_at?_put (content : Bytes) (hparent : node.at? location = some (.directory entries))
    (hfree : ∀ inside, child? name entries ≠ some (.directory inside)) (other : List Text) :
    ((put (.file content) (location ++ [name]) node).at? other).map glimpse =
      if other = location ++ [name] then some (some content)
      else (node.at? other).map glimpse := by
  induction location generalizing node other with
  | nil =>
      rw [at?_nil, Option.some.injEq] at hparent
      subst hparent
      refine glimpse_at?_child (child?_putEntry _ _ entries) rfl (fun inner => ?_) other
      cases inner with
      | nil => simp [put, glimpse]
      | cons first rest => simp [put, bind_at?_cons_of_free hfree]
  | cons first rest ih =>
      cases node with
      | file old => simp at hparent
      | directory inside =>
          rw [at?_directory_cons, Option.bind_eq_some_iff] at hparent
          obtain ⟨child, hchild, hrest⟩ := hparent
          refine glimpse_at?_child (child?_putEntry _ _ inside) hchild (fun inner => ?_) other
          rw [hchild, Option.getD_some, Option.bind_some, Option.bind_some]
          exact ih hrest inner

/-- What is dropped from a directory is not seen any more. -/
theorem glimpse_at?_drop (hparent : node.at? location = some (.directory entries))
    (hfree : ∀ inside, child? name entries ≠ some (.directory inside)) (other : List Text) :
    ((drop (location ++ [name]) node).at? other).map glimpse =
      if other = location ++ [name] then none else (node.at? other).map glimpse := by
  induction location generalizing node other with
  | nil =>
      rw [at?_nil, Option.some.injEq] at hparent
      subst hparent
      refine glimpse_at?_child (child?_dropEntry name entries) rfl (fun inner => ?_) other
      cases inner with
      | nil => simp
      | cons first rest => simp [bind_at?_cons_of_free hfree]
  | cons first rest ih =>
      cases node with
      | file old => simp at hparent
      | directory inside =>
          rw [at?_directory_cons, Option.bind_eq_some_iff] at hparent
          obtain ⟨child, hchild, hrest⟩ := hparent
          have hdrop : drop (first :: rest ++ [name]) (.directory inside) =
              .directory (putEntry first (drop (rest ++ [name]) child) inside) := by
            cases rest with
            | nil => simp [drop, hchild]
            | cons second more => simp [drop, hchild]
          rw [hdrop]
          refine glimpse_at?_child (child?_putEntry _ _ inside) hchild (fun inner => ?_) other
          rw [Option.bind_some, Option.bind_some]
          exact ih hrest inner

end Node

namespace FileTree

/-- What there is to see at a location: a file with its bytes, a directory or nothing. -/
def glimpse? (tree : FileTree) (location : List Text) : Option (Option Bytes) :=
  (tree.root.at? location).map Node.glimpse

/-- Two trees that show the same everywhere but at one location. -/
structure SameElsewhere (location : List Text) (tree tree' : FileTree) : Prop where
  home : tree'.home = tree.home
  glimpse : ∀ other, other ≠ location → tree'.glimpse? other = tree.glimpse? other

variable {tree tree' : FileTree} {location here there : List Text} {path name : Text}

namespace SameElsewhere

theorem symm (h : SameElsewhere location tree tree') : SameElsewhere location tree' tree :=
  ⟨h.home.symm, fun other hother => (h.glimpse other hother).symm⟩

theorem trans {tree'' : FileTree} (h : SameElsewhere location tree tree')
    (h' : SameElsewhere location tree' tree'') : SameElsewhere location tree tree'' :=
  ⟨h'.home.trans h.home,
    fun other hother => (h'.glimpse other hother).trans (h.glimpse other hother)⟩

end SameElsewhere

theorem glimpse?_eq_directory_iff :
    tree.glimpse? location = some none ↔
      ∃ entries, tree.root.at? location = some (.directory entries) := by
  simp only [glimpse?, Option.map_eq_some_iff, Node.glimpse_eq_none_iff]
  constructor
  · rintro ⟨node, hnode, entries, rfl⟩
    exact ⟨entries, hnode⟩
  · rintro ⟨entries, hentries⟩
    exact ⟨_, hentries, entries, rfl⟩

/-- How far a name leads is seen from the directory and from what there is of that name. -/
theorem enter_eq (tree : FileTree) (here : List Text) (name : Text) :
    tree.enter here name =
      match tree.glimpse? here with
      | none => .error .notFound
      | some (some _) => .error .notDirectory
      | some none =>
          if name = [] || name = ['.'] then .ok here
          else if name = ['.', '.'] then .ok here.dropLast
          else if nameLimit < Utf8.size name then .error .nameTooLong
          else if (tree.glimpse? (here ++ [name])).isSome then .ok (here ++ [name])
          else .error .notFound := by
  unfold enter
  cases hhere : tree.root.at? here with
  | none => simp [glimpse?, hhere]
  | some node =>
      cases node with
      | file content => simp [glimpse?, hhere, Node.glimpse]
      | directory entries =>
          have hchild : (tree.glimpse? (here ++ [name])).isSome =
              (Node.child? name entries).isSome := by
            rw [glimpse?, Node.at?_append_singleton hhere, Option.isSome_map]
          have hdirectory : tree.glimpse? here = some none :=
            glimpse?_eq_directory_iff.2 ⟨entries, hhere⟩
          simp only [hdirectory, hchild]

/-- Only from a directory a name leads on. -/
theorem glimpse?_of_enter (h : tree.enter here name = .ok there) :
    tree.glimpse? here = some none := by
  rw [enter_eq] at h
  rcases hhere : tree.glimpse? here with _ | _ | content
  · simp [hhere] at h
  · rfl
  · simp [hhere] at h

theorem read_eq (tree : FileTree) (path : Text) :
    tree.read path =
      match tree.locate path with
      | .error e => .error e
      | .ok location =>
          match tree.glimpse? location with
          | some (some content) => .ok content
          | some none => .error .isDirectory
          | none => .error .notFound := by
  unfold read
  cases tree.locate path with
  | error e => rfl
  | ok location =>
      simp only [glimpse?]
      cases tree.root.at? location with
      | none => rfl
      | some node => cases node <;> rfl

/-- A path puts a file of this name into this directory. -/
structure Puts (tree : FileTree) (path : Text) (parent : List Text) (name : Text) : Prop where
  nonempty : path ≠ []
  short : Utf8.size path < pathLimit
  unclosed : path.getLast? ≠ some '/'
  leads : (Path.components path).dropLast.foldlM tree.enter (tree.start path) = .ok parent
  directory : tree.glimpse? parent = some none
  last : (Path.components path).getLastD [] = name
  plain : name ≠ [] ∧ name ≠ ['.'] ∧ name ≠ ['.', '.']
  fits : Utf8.size name ≤ nameLimit
  free : tree.glimpse? (parent ++ [name]) ≠ some none

theorem Puts.exists_entries {parent : List Text} (h : tree.Puts path parent name) :
    ∃ entries, tree.root.at? parent = some (.directory entries) ∧
      ∀ inside, Node.child? name entries ≠ some (.directory inside) := by
  obtain ⟨entries, hentries⟩ := glimpse?_eq_directory_iff.1 h.directory
  refine ⟨entries, hentries, fun inside hinside => ?_⟩
  refine h.free (glimpse?_eq_directory_iff.2 ⟨inside, ?_⟩)
  rw [Node.at?_append_singleton hentries, hinside]

theorem dropTrailing_of_unclosed (h : path.getLast? ≠ some '/') :
    Text.dropTrailing (· = '/') path = path := by
  refine Text.dropTrailing_of_getLast? fun c hc => ?_
  rw [decide_eq_false_iff_not]
  exact fun heq => h (heq ▸ hc)

/-- A path that can be written puts a file into a directory. -/
theorem exists_puts_of_target (h : tree.target path = .ok location) :
    ∃ parent name, location = parent ++ [name] ∧ tree.Puts path parent name := by
  simp only [target] at h
  split at h
  · cases h
  next hnonempty =>
    split at h
    · cases h
    next hsize =>
      split at h
      · cases h
      next parent hleads =>
        split at h
        · cases h
        · cases h
        next entries hentries =>
          split at h
          · cases h
          next hname =>
            split at h
            · cases h
            next hlong =>
              simp only [Bool.or_eq_true, decide_eq_true_eq, not_or] at hname
              obtain ⟨⟨⟨hunclosed, hempty⟩, hdot⟩, hdots⟩ := hname
              rw [dropTrailing_of_unclosed hunclosed] at hleads hempty hdot hdots hlong h
              split at h
              · cases h
              next hfree =>
                cases h
                refine ⟨parent, _, rfl, hnonempty, Nat.lt_of_not_le hsize, hunclosed, hleads,
                  glimpse?_eq_directory_iff.2 ⟨entries, hentries⟩, rfl, ⟨hempty, hdot, hdots⟩,
                  Nat.le_of_not_lt hlong, ?_⟩
                rw [Ne, glimpse?_eq_directory_iff]
                rintro ⟨inside, hinside⟩
                exact hfree inside (by rwa [Node.at?_append_singleton hentries] at hinside)

theorem Puts.target {parent : List Text} (h : tree.Puts path parent name) :
    tree.target path = .ok (parent ++ [name]) := by
  obtain ⟨entries, hentries, hfree⟩ := h.exists_entries
  obtain ⟨hempty, hdot, hdots⟩ := h.plain
  have hname : ¬(decide (path.getLast? = some '/') || decide (name = []) ||
      decide (name = ['.']) || decide (name = ['.', '.'])) = true := by
    simp [h.unclosed, hempty, hdot, hdots]
  simp only [FileTree.target, if_neg h.nonempty, if_neg (Nat.not_le_of_lt h.short),
    dropTrailing_of_unclosed h.unclosed, h.leads, hentries, h.last, if_neg hname,
    if_neg (Nat.not_lt_of_le h.fits)]

/-- Where a path can be written, and how. -/
theorem target_eq_ok_iff :
    tree.target path = .ok location ↔
      ∃ parent name, location = parent ++ [name] ∧ tree.Puts path parent name := by
  refine ⟨exists_puts_of_target, ?_⟩
  rintro ⟨parent, name, rfl, h⟩
  exact h.target

/-- Where a file is put there is no directory. -/
theorem glimpse?_of_target (h : tree.target path = .ok location) :
    tree.glimpse? location ≠ some none := by
  obtain ⟨parent, name, rfl, hputs⟩ := target_eq_ok_iff.1 h
  exact hputs.free

/-- A path that can be written names its file, where there is one. -/
theorem locate_of_target (h : tree.target path = .ok location) :
    tree.locate path =
      if (tree.glimpse? location).isSome then .ok location else .error .notFound := by
  obtain ⟨parent, name, rfl, hputs⟩ := target_eq_ok_iff.1 h
  obtain ⟨hempty, hdot, hdots⟩ := hputs.plain
  have hsome : Path.components path ≠ [] := Text.pieces_ne_nil _ path
  have hlast : (Path.components path).getLast hsome = name := by
    rw [← hputs.last, List.getLastD_eq_getLast?, List.getLast?_eq_some_getLast hsome,
      Option.getD_some]
  have hnames : Path.components path = (Path.components path).dropLast ++ [name] := by
    rw [← hlast, List.dropLast_concat_getLast hsome]
  have henter : tree.enter parent name =
      if (tree.glimpse? (parent ++ [name])).isSome then .ok (parent ++ [name])
      else .error .notFound := by
    rw [enter_eq, hputs.directory]
    simp [hempty, hdot, hdots, Nat.not_lt_of_le hputs.fits]
  rw [locate, if_neg hputs.nonempty, if_neg (Nat.not_le_of_lt hputs.short), hnames,
    List.foldlM_append, hputs.leads, ← henter]
  exact bind_pure (tree.enter parent name)

namespace SameElsewhere

/-- A name that does not lead to the location leads as far in both trees, unless there was a
directory at the location. -/
theorem enter (h : SameElsewhere location tree tree') (hfile : tree.glimpse? location ≠ some none)
    (henter : tree.enter here name = .ok there) (hthere : there ≠ location) :
    tree'.enter here name = .ok there := by
  have hhere : tree.glimpse? here = some none := glimpse?_of_enter henter
  have hhere' : tree'.glimpse? here = some none := by
    rw [h.glimpse here (fun heq => hfile (heq ▸ hhere)), hhere]
  rw [enter_eq, hhere] at henter
  rw [enter_eq, hhere']
  by_cases hchild : here ++ [name] = location
  · rw [hchild] at henter
    simp only at henter ⊢
    split at henter
    next hstays => rw [if_pos hstays, henter]
    next hstays =>
      rw [if_neg hstays]
      split at henter
      next hup => rw [if_pos hup, henter]
      next hup =>
        split at henter
        · cases henter
        split at henter
        · exact absurd (Except.ok.inj henter).symm hthere
        · cases henter
  · rw [h.glimpse _ hchild]
    exact henter

/-- Names that do not lead to the location lead as far in both trees, by induction on the names:
from the location no name leads on. -/
theorem foldlM_enter (h : SameElsewhere location tree tree')
    (hfile : tree.glimpse? location ≠ some none) {names : List Text}
    (hwalk : names.foldlM tree.enter here = .ok there) (hthere : there ≠ location) :
    names.foldlM tree'.enter here = .ok there := by
  induction names generalizing here with
  | nil => exact hwalk
  | cons name rest ih =>
      rw [List.foldlM_cons] at hwalk ⊢
      cases henter : tree.enter here name with
      | error e => rw [henter] at hwalk; cases hwalk
      | ok next =>
          rw [henter] at hwalk
          have hrest : rest.foldlM tree.enter next = .ok there := hwalk
          have hnext : next ≠ location := by
            rintro rfl
            cases rest with
            | nil => exact hthere (Except.ok.inj hrest).symm
            | cons second more =>
                rw [List.foldlM_cons] at hrest
                cases hsecond : tree.enter next second with
                | error e => rw [hsecond] at hrest; cases hrest
                | ok _ => exact hfile (glimpse?_of_enter hsecond)
          rw [h.enter hfile henter hnext]
          exact ih hrest

theorem start (h : SameElsewhere location tree tree') (path : Text) :
    tree'.start path = tree.start path := by
  rw [FileTree.start, FileTree.start, h.home]

/-- A path that leads elsewhere leads there in both trees. -/
theorem locate (h : SameElsewhere location tree tree')
    (hfile : tree.glimpse? location ≠ some none) (hlocate : tree.locate path = .ok there)
    (hthere : there ≠ location) : tree'.locate path = .ok there := by
  unfold FileTree.locate at hlocate ⊢
  split at hlocate
  · cases hlocate
  next hnonempty =>
    rw [if_neg hnonempty]
    split at hlocate
    · cases hlocate
    next hsize =>
      rw [if_neg hsize, h.start]
      exact h.foldlM_enter hfile hlocate hthere

/-- The file of a path that leads elsewhere has the same bytes in both trees. -/
theorem read (h : SameElsewhere location tree tree') (hfile : tree.glimpse? location ≠ some none)
    {content : Bytes} (hread : tree.read path = .ok content)
    (hother : tree.locate path ≠ .ok location) : tree'.read path = .ok content := by
  rw [read_eq] at hread ⊢
  cases hlocate : tree.locate path with
  | error e => simp [hlocate] at hread
  | ok there =>
      have hthere : there ≠ location := fun heq => hother (heq ▸ hlocate)
      rw [hlocate] at hread
      rw [h.locate hfile hlocate hthere]
      simp only [h.glimpse there hthere]
      exact hread

/-- A path puts its file to the same location in both trees, if a file can be there. -/
theorem target (h : SameElsewhere location tree tree') (htarget : tree.target path = .ok location)
    (hfile' : tree'.glimpse? location ≠ some none) : tree'.target path = .ok location := by
  have hfile := glimpse?_of_target htarget
  obtain ⟨parent, name, rfl, hputs⟩ := target_eq_ok_iff.1 htarget
  have hparent : parent ≠ parent ++ [name] := by simp
  refine target_eq_ok_iff.2 ⟨parent, name, rfl, hputs.nonempty, hputs.short, hputs.unclosed, ?_, ?_,
    hputs.last, hputs.plain, hputs.fits, hfile'⟩
  · rw [h.start]
    exact h.foldlM_enter hfile hputs.leads hparent
  · rw [h.glimpse parent hparent, hputs.directory]

end SameElsewhere

/-- A file that is written is seen at its location and nowhere else. -/
theorem exists_write (h : tree.target path = .ok location) (content : Bytes) :
    ∃ written, tree.write path content = .ok written ∧ SameElsewhere location tree written ∧
      written.glimpse? location = some (some content) := by
  obtain ⟨parent, name, rfl, hputs⟩ := target_eq_ok_iff.1 h
  obtain ⟨entries, hentries, hfree⟩ := hputs.exists_entries
  have hseen := Node.glimpse_at?_put content hentries hfree
  let written : FileTree :=
    { tree with root := Node.put (.file content) (parent ++ [name]) tree.root }
  have hwritten : tree.write path content = .ok written := by
    rw [write, h]
    rfl
  refine ⟨written, hwritten, ⟨rfl, fun other hother => ?_⟩, ?_⟩
  · rw [glimpse?, hseen, if_neg hother]
    rfl
  · rw [glimpse?, hseen, if_pos rfl]

theorem exists_target_of_write {content : Bytes} (h : tree.write path content = .ok tree') :
    ∃ location, tree.target path = .ok location := by
  unfold write at h
  cases htarget : tree.target path with
  | error e =>
      rw [htarget] at h
      cases h
  | ok location => exact ⟨location, rfl⟩

/-- What was written is read again. -/
theorem read_of_target {content : Bytes} (h : tree.target path = .ok location)
    (hcontent : tree.glimpse? location = some (some content)) : tree.read path = .ok content := by
  rw [read_eq, locate_of_target h, hcontent]
  simp [hcontent]

/-- A path that can be written exists if there is something where it puts its file. -/
theorem exists?_of_target (h : tree.target path = .ok location) :
    tree.exists? path = .ok (tree.glimpse? location).isSome := by
  rw [exists?, locate_of_target h]
  cases tree.glimpse? location <;> rfl

/-- What becomes of a file that is removed depends only on whether the system refuses it. -/
theorem remove_of_target {content : Bytes} (h : tree.target path = .ok location)
    (hcontent : tree.glimpse? location = some (some content)) (refusal : Option SystemError) :
    tree.remove path refusal =
      match refusal with
      | some e => .error e
      | none => .ok { tree with root := tree.root.drop location } := by
  obtain ⟨node, hnode, hfile⟩ := Option.map_eq_some_iff.1 hcontent
  rw [remove, locate_of_target h, hcontent, Option.isSome_some, if_pos rfl]
  simp only [hnode]
  cases node with
  | file old => cases refusal <;> rfl
  | directory inside => cases hfile

/-- A file that is removed is not seen any more, and everything else is. -/
theorem exists_remove {content : Bytes} (h : tree.target path = .ok location)
    (hcontent : tree.glimpse? location = some (some content)) :
    ∃ removed, tree.remove path none = .ok removed ∧ SameElsewhere location tree removed ∧
      removed.glimpse? location = none := by
  let removed : FileTree := { tree with root := tree.root.drop location }
  have hremoved : tree.remove path none = .ok removed := remove_of_target h hcontent none
  obtain ⟨parent, name, rfl, hputs⟩ := target_eq_ok_iff.1 h
  obtain ⟨entries, hentries, hfree⟩ := hputs.exists_entries
  have hseen := Node.glimpse_at?_drop hentries hfree
  refine ⟨removed, hremoved, ⟨rfl, fun other hother => ?_⟩, ?_⟩
  · simp only [removed, glimpse?, hseen, if_neg hother]
  · simp only [removed, glimpse?, hseen, if_pos]

end FileTree

end KconfigReference
