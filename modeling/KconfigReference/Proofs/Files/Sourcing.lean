import KconfigReference.Proofs.Structure.Items
import KconfigReference.Walk.Run
import Mathlib.Data.List.Perm.Subperm

/-!
Which files source which. The lines of a file do not depend on the path under which it is opened,
except for what they say about themselves, so that sourcing is a relation between the locations of
files. Main statement: a tree of files whose structure is finite never has more files open at a time
than there are files.
-/

namespace KconfigReference

namespace Node

theorem mem_of_child? {name : Text} {entries : List (Text × Node)} {node : Node}
    (h : child? name entries = some node) : (name, node) ∈ entries := by
  induction entries with
  | nil => simp [child?] at h
  | cons entry rest ih =>
      obtain ⟨n, first⟩ := entry
      simp only [child?] at h
      split at h
      next heq =>
        simp only [Option.some.injEq] at h
        simp [heq, h]
      next => exact List.mem_cons_of_mem _ (ih h)

theorem mem_filesOf {names : List Text} {entries : List (Text × Node)} {entry : Text × Node}
    {found : List Text × Bytes} (hentry : entry ∈ entries)
    (h : found ∈ entry.2.files (names ++ [entry.1])) : found ∈ filesOf names entries := by
  induction entries with
  | nil => simp at hentry
  | cons first rest ih =>
      rw [filesOf]
      rcases List.mem_cons.1 hentry with rfl | hentry
      · exact List.mem_append_left _ h
      · exact List.mem_append_right _ (ih hentry)

/-- A file that is found at a location is among the files. -/
theorem mem_files_of_at? {location : List Text} {node : Node} {names : List Text} {content : Bytes}
    (h : node.at? location = some (.file content)) :
    (names ++ location, content) ∈ node.files names := by
  induction location generalizing node names with
  | nil =>
      simp only [at?, Option.some.injEq] at h
      simp [h, files]
  | cons name rest ih =>
      cases node with
      | file content => simp [at?] at h
      | directory entries =>
          simp only [at?] at h
          split at h
          next => simp at h
          next child hchild =>
            have hfound : (names ++ [name] ++ rest, content) ∈ child.files (names ++ [name]) :=
              ih h
            rw [List.append_assoc] at hfound
            rw [files]
            exact mem_filesOf (mem_of_child? hchild) hfound

end Node

/-- The file of a directory is at a location and gives these lines. -/
def WalkContext.Opens (ctx : WalkContext) (directory : Text) (location : List Text)
    (lines : List Line) : Prop :=
  ∃ path text, ctx.layout.filePath directory = .ok path ∧ ctx.tree.locate path = .ok location ∧
    ctx.readText path = .ok text ∧
    ctx.lineSize.lines path (Text.physicalLines text) = .ok lines

/-- The file at the first location is named by a source line in the file at the second one. -/
def WalkContext.SourcedBy (ctx : WalkContext) (inner outer : List Text) : Prop :=
  ∃ directory lines line target innerLines, ctx.Opens directory outer lines ∧ line ∈ lines ∧
    line.keyword? = some .source ∧ ctx.LeadsTo line target ∧ ctx.Opens target inner innerLines

namespace WalkContext

variable {ctx : WalkContext} {directory target : Text} {location : List Text}
  {lines : List Line}

/-- What a path shows depends on the location that it leads to. -/
theorem readText_of_locate {path text : Text} (hlocate : ctx.tree.locate path = .ok location)
    (h : ctx.readText path = .ok text) :
    ∃ content, ctx.tree.root.at? location = some (.file content) ∧
      text = Text.normalizeLineEndings (Utf8.decodeLenient content) := by
  unfold readText FileTree.read at h
  split at h
  next => simp at h
  next =>
    rw [hlocate] at h
    simp only at h
    split at h
    next e hread => simp at h
    next content hread =>
      split at hread
      next found hfound =>
        simp only [Except.ok.injEq] at hread h
        exact ⟨content, hread ▸ hfound, h.symm⟩
      next => simp at hread
      next => simp at hread

/-- A path that can be read leads to some location. -/
theorem exists_locate_of_readText {path text : Text} (h : ctx.readText path = .ok text) :
    ∃ location, ctx.tree.locate path = .ok location := by
  cases hlocate : ctx.tree.locate path with
  | ok location => exact ⟨location, rfl⟩
  | error e =>
      unfold readText FileTree.read at h
      rw [hlocate] at h
      split at h <;> simp at h

/-- A file that can be read is at some location. -/
theorem Reads.opens (h : ctx.Reads directory lines) :
    ∃ location, ctx.Opens directory location lines := by
  obtain ⟨path, text, size, hpath, htext, hsize, hfits, hlines⟩ := h.found
  have hcut : ctx.lineSize.lines path (Text.physicalLines text) = .ok lines := by
    rw [hsize, LineSize.lines, readLines_of_fits hfits, hlines]
  obtain ⟨location, hlocate⟩ := exists_locate_of_readText htext
  exact ⟨location, path, text, hpath, hlocate, htext, hcut⟩

/-- A directory has one file, at one location, with one list of lines. -/
theorem Opens.unique (h : ctx.Opens directory location lines) {location' : List Text}
    {lines' : List Line} (h' : ctx.Opens directory location' lines') :
    location = location' ∧ lines = lines' := by
  obtain ⟨path, text, hpath, hlocate, htext, hcut⟩ := h
  obtain ⟨path', text', hpath', hlocate', htext', hcut'⟩ := h'
  obtain rfl : path = path' := by simpa [hpath] using hpath'
  obtain rfl : text = text' := by simpa [htext] using htext'
  exact ⟨by simpa [hlocate] using hlocate', by simpa [hcut] using hcut'⟩

theorem Opens.mem_allFiles (h : ctx.Opens directory location lines) :
    location ∈ ctx.tree.allFiles.map (·.1) := by
  obtain ⟨path, text, hpath, hlocate, htext, hcut⟩ := h
  obtain ⟨content, hcontent, -⟩ := readText_of_locate hlocate htext
  have hfile : ([] ++ location, content) ∈ ctx.tree.allFiles := Node.mem_files_of_at? hcontent
  exact List.mem_map.2 ⟨_, hfile, rfl⟩

/-- The texts of the lines of a file do not depend on the path to it. -/
theorem map_text_lines {size : LineSize} {path path' : Text} {physicals : List Text}
    {lines lines' : List Line} (h : size.lines path physicals = .ok lines)
    (h' : size.lines path' physicals = .ok lines') : lines.map Line.text = lines'.map Line.text := by
  have hphysical : ∀ (path path' : Text) (room : Nat) (pair : Text × Nat),
      (linesOfPhysical path room pair.2 pair.1).map Line.text =
        (linesOfPhysical path' room pair.2 pair.1).map Line.text := by
    intro path path' room pair
    unfold linesOfPhysical
    simp only [List.map_filterMap]
    congr 1
    funext text
    split <;> rfl
  cases size with
  | characters n =>
      simp only [LineSize.lines, Except.ok.injEq] at h h'
      rw [← h, ← h', readLines, readLines, List.map_flatMap, List.map_flatMap]
      congr 1
      funext pair
      exact hphysical path path' _ pair
  | uncuttable =>
      simp only [LineSize.lines] at h h'
      split at h
      next hnil =>
        rw [if_pos hnil] at h'
        simp_all
      next => simp at h
  | unordered => simp [LineSize.lines] at h

theorem Opens.map_text (h : ctx.Opens directory location lines) {lines' : List Line}
    (h' : ctx.Opens target location lines') : lines.map Line.text = lines'.map Line.text := by
  obtain ⟨path, text, hpath, hlocate, htext, hcut⟩ := h
  obtain ⟨path', text', hpath', hlocate', htext', hcut'⟩ := h'
  obtain ⟨content, hcontent, rfl⟩ := readText_of_locate hlocate htext
  obtain ⟨content', hcontent', rfl⟩ := readText_of_locate hlocate' htext'
  obtain rfl : content = content' := by simpa [hcontent] using hcontent'
  exact map_text_lines hcut hcut'

theorem keyword_congr {line line' : Line} (h : line.text = line'.text) :
    line.keyword? = line'.keyword? := by
  unfold Line.keyword? Line.word
  rw [h]

theorem leadsTo_congr {line line' : Line} (h : line.text = line'.text) :
    ctx.LeadsTo line directory ↔ ctx.LeadsTo line' directory := by
  unfold LeadsTo Line.rest
  rw [h]

theorem LeadsTo.unique {line : Line} (h : ctx.LeadsTo line directory)
    (h' : ctx.LeadsTo line target) : directory = target := by
  obtain ⟨resolved, hresolved, -, rfl⟩ := h
  obtain ⟨resolved', hresolved', -, rfl⟩ := h'
  rw [hresolved] at hresolved'
  simp only [Except.ok.injEq, Option.some.injEq] at hresolved'
  rw [hresolved']

/-- The files that a file sources are named by any of its openings. -/
theorem SourcedBy.exists_line {inner : List Text} (h : ctx.SourcedBy inner location)
    (hopens : ctx.Opens directory location lines) :
    ∃ line ∈ lines, line.keyword? = some .source ∧ ∃ target innerLines,
      ctx.LeadsTo line target ∧ ctx.Opens target inner innerLines := by
  obtain ⟨directory', lines', line', target, innerLines, hopens', hline', hk, htarget, hinner⟩ := h
  have hmem : line'.text ∈ lines.map Line.text := by
    rw [hopens.map_text hopens']
    exact List.mem_map.2 ⟨line', hline', rfl⟩
  obtain ⟨line, hline, htext⟩ := List.mem_map.1 hmem
  exact ⟨line, hline, (keyword_congr htext).trans hk, target, innerLines,
    (leadsTo_congr htext).2 htarget, hinner⟩

/-- Files that are open at a time, under a relation that says which file is opened from which: the
one at the location is the last that was opened, by way of each of those around it. -/
structure OpenFiles (ctx : WalkContext) (opened : List Text → List Text → Prop)
    (location : List Text) (around : List (List Text)) : Prop where
  nodup : (location :: around).Nodup
  mem_files : ∀ x ∈ location :: around, x ∈ ctx.tree.allFiles.map (·.1)
  through : ∀ x ∈ around, Relation.TransGen opened location x

theorem not_self_of_acc {α : Type} {r : α → α → Prop} {a : α} (h : Acc r a) : ¬r a a := by
  induction h with
  | intro x _ ih => exact fun hx => ih x hx hx

namespace OpenFiles

variable {opened : List Text → List Text → Prop} {inner : List Text} {innerLines : List Line}
  {around : List (List Text)}

theorem single (hopens : ctx.Opens directory location lines) :
    ctx.OpenFiles opened location [] where
  nodup := List.nodup_cons.2 ⟨List.not_mem_nil, List.nodup_nil⟩
  mem_files x hx := by
    rw [List.mem_singleton.1 hx]
    exact hopens.mem_allFiles
  through _ hx := absurd hx List.not_mem_nil

/-- A file that does not lead back to itself is none of those around it when it is opened. -/
theorem push (h : ctx.OpenFiles opened location around) (hopened : opened inner location)
    (hacc : Acc opened inner) (hopens : ctx.Opens target inner innerLines) :
    ctx.OpenFiles opened inner (location :: around) := by
  have hthrough : ∀ x ∈ location :: around, Relation.TransGen opened inner x := by
    intro x hx
    rcases List.mem_cons.1 hx with rfl | hx
    · exact .single hopened
    · exact .trans (.single hopened) (h.through x hx)
  have hnew : inner ∉ location :: around := fun hmem =>
    not_self_of_acc hacc.transGen (hthrough inner hmem)
  refine ⟨List.nodup_cons.2 ⟨hnew, h.nodup⟩, fun x hx => ?_, hthrough⟩
  rcases List.mem_cons.1 hx with rfl | hx
  · exact hopens.mem_allFiles
  · exact h.mem_files x hx

/-- No more files are open at a time than there are. -/
theorem length_le (h : ctx.OpenFiles opened location around) :
    (location :: around).length ≤ ctx.tree.allFiles.length := by
  simpa using (h.nodup.subperm h.mem_files).length_le

end OpenFiles

end WalkContext

theorem Walk.length_allFiles_add_two_le_depthBound (ctx : WalkContext) (s : WalkState) :
    ctx.tree.allFiles.length + 2 ≤ depthBound ctx s := by
  unfold depthBound
  rw [Nat.mul_assoc]
  exact Nat.le_mul_of_pos_right _ (Nat.mul_pos (Nat.succ_pos _) (Nat.succ_pos _))

namespace Items

variable {ctx : WalkContext}

theorem not_source_of_isAttribute {line : Line} (h : line.isAttribute = true) :
    line.keyword? ≠ some .source := by
  intro hk
  have := Line.isAttribute_of_keyword hk (by simp)
  simp [this] at h

/-- A file that is named by a source line among well-formed items leads to no endless sourcing, by
induction on the items: what is sourced further is named among the items of the file. -/
theorem WellFormed.acc {items : Items} (h : items.WellFormed ctx) {line : Line}
    (hline : line ∈ items.lines) (hk : line.keyword? = some .source) {target : Text}
    (htarget : ctx.LeadsTo line target) {location : List Text} {lines : List Line}
    (hopens : ctx.Opens target location lines) : Acc ctx.SourcedBy location := by
  induction items generalizing line target location lines with
  | nil => simp [Items.lines] at hline
  | config first attributes rest ih =>
      obtain ⟨hfirst, hattributes, hrest⟩ := h
      rcases List.mem_cons.1 hline with rfl | hline
      · simp [hfirst.1] at hk
      · rcases List.mem_append.1 hline with hline | hline
        · exact absurd hk (not_source_of_isAttribute (hattributes _ hline))
        · exact ih hrest hline hk htarget hopens
  | ignored first attributes rest ih =>
      obtain ⟨hfirst, hattributes, hrest⟩ := h
      rcases List.mem_cons.1 hline with rfl | hline
      · simp [hfirst] at hk
      · rcases List.mem_append.1 hline with hline | hline
        · exact absurd hk (not_source_of_isAttribute (hattributes _ hline))
        · exact ih hrest hline hk htarget hopens
  | block kind opener inner closer rest ihinner ihrest =>
      obtain ⟨hopener, hcloser, hinner, hrest⟩ := h
      rcases List.mem_cons.1 hline with rfl | hline
      · cases kind <;> simp [hopener, BlockKind.opening] at hk
      · rcases List.mem_append.1 hline with hline | hline
        · exact ihinner hinner hline hk htarget hopens
        · rcases List.mem_cons.1 hline with rfl | hline
          · cases kind <;> simp [hcloser, BlockKind.closing] at hk
          · exact ihrest hrest hline hk htarget hopens
  | conditional opener inner closer rest ihinner ihrest =>
      obtain ⟨hopener, hcloser, hinner, hrest⟩ := h
      rcases List.mem_cons.1 hline with rfl | hline
      · simp [hopener] at hk
      · rcases List.mem_append.1 hline with hline | hline
        · exact ihinner hinner hline hk htarget hopens
        · rcases List.mem_cons.1 hline with rfl | hline
          · simp [hcloser] at hk
          · exact ihrest hrest hline hk htarget hopens
  | source first directory inner rest ihinner ihrest =>
      obtain ⟨hfirst, hleads, hreads, hinner, hrest⟩ := h
      rcases List.mem_cons.1 hline with rfl | hline
      · obtain rfl := htarget.unique hleads
        obtain ⟨location', hopens'⟩ := hreads.opens
        obtain ⟨rfl, rfl⟩ := hopens.unique hopens'
        refine Acc.intro location fun further hfurther => ?_
        obtain ⟨named, hnamed, hknamed, target', lines', htarget', hlines'⟩ :=
          hfurther.exists_line hopens
        exact ihinner hinner hnamed hknamed htarget' hlines'
      · exact ihrest hrest hline hk htarget hopens

/-- So the file that the items stand in leads to no endless sourcing either. -/
theorem WellFormed.acc_file {items : Items} (h : items.WellFormed ctx) {directory : Text}
    {location : List Text} (hopens : ctx.Opens directory location items.lines) :
    Acc ctx.SourcedBy location := by
  refine Acc.intro location fun further hfurther => ?_
  obtain ⟨line, hline, hk, target, lines, htarget, hlines⟩ := hfurther.exists_line hopens
  exact h.acc hline hk htarget hlines

/-- Items below some open files do not have more files open at a time than there are, by induction
on the items: each file that is opened is added to those that are open. -/
theorem WellFormed.fileDepth_le {items : Items} (h : items.WellFormed ctx) {directory : Text}
    {location : List Text} {lines : List Line} (hopens : ctx.Opens directory location lines)
    (hlines : ∀ line ∈ items.lines, line ∈ lines) {around : List (List Text)}
    (hopen : ctx.OpenFiles ctx.SourcedBy location around) :
    items.fileDepth + (location :: around).length ≤ ctx.tree.allFiles.length := by
  induction items generalizing directory location lines around with
  | nil => simpa [fileDepth] using hopen.length_le
  | config first attributes rest ih =>
      exact ih h.2.2 hopens (fun line hline => hlines line (by simp [Items.lines, hline])) hopen
  | ignored first attributes rest ih =>
      exact ih h.2.2 hopens (fun line hline => hlines line (by simp [Items.lines, hline])) hopen
  | block kind opener inner closer rest ihinner ihrest =>
      have hinner := ihinner h.2.2.1 hopens
        (fun line hline => hlines line (by simp [Items.lines, hline])) hopen
      have hrest := ihrest h.2.2.2 hopens
        (fun line hline => hlines line (by simp [Items.lines, hline])) hopen
      simp only [fileDepth]
      omega
  | conditional opener inner closer rest ihinner ihrest =>
      have hinner := ihinner h.2.2.1 hopens
        (fun line hline => hlines line (by simp [Items.lines, hline])) hopen
      have hrest := ihrest h.2.2.2 hopens
        (fun line hline => hlines line (by simp [Items.lines, hline])) hopen
      simp only [fileDepth]
      omega
  | source first target inner rest ihinner ihrest =>
      obtain ⟨hfirst, hleads, hreads, hinner, hrest⟩ := h
      obtain ⟨below, hbelow⟩ := hreads.opens
      have hsourced : ctx.SourcedBy below location :=
        ⟨directory, lines, first, target, inner.lines, hopens, hlines first (by simp [Items.lines]),
          hfirst, hleads, hbelow⟩
      have hdeeper := ihinner hinner hbelow (fun _ hline => hline)
        (hopen.push hsourced (hinner.acc_file hbelow) hbelow)
      have hbeside := ihrest hrest hopens
        (fun line hline => hlines line (by simp [Items.lines, hline])) hopen
      simp only [fileDepth, List.length_cons] at hdeeper hbeside ⊢
      omega

/-- The bound on open files is enough for the file of well-formed items and all that it sources. -/
theorem WellFormed.fileDepth_lt_depthBound {items : Items} (h : items.WellFormed ctx)
    {directory : Text} (hreads : ctx.Reads directory items.lines) (s : WalkState) :
    items.fileDepth < Walk.depthBound ctx s := by
  obtain ⟨location, hopens⟩ := hreads.opens
  have hfiles := h.fileDepth_le hopens (fun _ hline => hline) (.single hopens)
  have hbound := Walk.length_allFiles_add_two_le_depthBound ctx s
  simp only [List.length_cons, List.length_nil] at hfiles
  omega

end Items

end KconfigReference
