import KconfigReference.Proofs.Walk.SideBySide

/-!
Walks that number and list alike. They open and close the same blocks and render entries with the
same names and descriptions; whatever else is said of the entries, the conditions in force and the
files themselves may differ. Main statement: walks of files whose lines are alike one by one stay
alike, and fail alike.
-/

namespace KconfigReference

/-- A change that attribute lines say nothing about may be made before them or after them. -/
theorem Entry.withLines_comm {f : Entry → Entry} (hf : ∀ entry found, (f entry).set found =
    f (entry.set found)) (entry : Entry) (lines : List Line) :
    (f entry).withLines lines = f (entry.withLines lines) := by
  unfold withLines
  induction lines.filterMap Line.attribute? generalizing entry with
  | nil => rfl
  | cons first rest ih => rw [List.foldl_cons, List.foldl_cons, hf, ih]

theorem Line.entry_directory (line : Line) (directory directory' : Text) (conditions : List Text)
    (after : List Line) :
    line.entry directory' conditions after =
      { line.entry directory conditions after with directory := directory' } := by
  let move (entry : Entry) : Entry := { entry with directory := directory' }
  exact Entry.withLines_comm (f := move) (fun _ found => by cases found <;> rfl)
    (.bare (Text.firstWord line.rest) directory conditions) _

theorem Line.entry_conditions (line : Line) (directory : Text) (conditions conditions' : List Text)
    (after : List Line) :
    line.entry directory conditions' after =
      { line.entry directory conditions after with conditions := conditions' } := by
  let move (entry : Entry) : Entry := { entry with conditions := conditions' }
  exact Entry.withLines_comm (f := move) (fun _ found => by cases found <;> rfl)
    (.bare (Text.firstWord line.rest) directory conditions) _

/-- Whether an item holds the details of an entry. -/
def BodyItem.isDetails : BodyItem → Bool
  | .details _ _ => true
  | _ => false

/-- How two walks may differ: in the entries that stand in the same place and in what is written of
them, in the conditions in force, and in the files that were opened. -/
structure Likeness (layout : Layout) where
  entries : Entry → Entry → Prop
  body : BodyItem → BodyItem → Prop
  conditions : Conditions → Conditions → Prop
  opened : Array Text → Array Text → Prop
  name_eq : ∀ {e e'}, entries e e' → e'.name = e.name
  description_eq : ∀ {e e'}, entries e e' → e'.description = e.description
  heading : ∀ {item item'}, item.isDetails = false → item'.isDetails = false →
    item'.text = item.text → body item item'
  details : ∀ {e e' path path'}, entries e e' → layout.filePath e.directory = .ok path →
    layout.filePath e'.directory = .ok path' → body (.details e path) (.details e' path')
  push : ∀ {paths paths'} path, opened paths paths' → opened (paths.push path) (paths'.push path)

namespace Likeness

variable {layout : Layout} {l : Likeness layout} {e e' : Entry} {s t : WalkState}

/-- Two states with the same numbering and the same table of contents, and with bodies that are
alike item by item. -/
structure Alike (l : Likeness layout) (s t : WalkState) : Prop where
  nesting : t.nesting = s.nesting
  showInternal : t.showInternal = s.showInternal
  toc : t.toc.toList.map TocItem.text = s.toc.toList.map TocItem.text
  body : List.Forall₂ l.body s.body.toList t.body.toList
  conditions : l.conditions s.conditions t.conditions
  opened : l.opened s.opened t.opened

/-- Where the same files were opened, they still are after one more. -/
theorem push_eq {paths paths' : Array Text} (path : Text) (h : paths' = paths) :
    paths'.push path = paths.push path := by
  rw [h]

theorem isHidden_eq (h : l.entries e e') : e'.isHidden = e.isHidden := by
  rw [Entry.isHidden, Entry.isHidden, l.description_eq h]

theorem markup_description_eq (h : l.entries e e') :
    Markup.description e' = Markup.description e := by
  unfold Markup.description
  rw [l.description_eq h]

theorem entryLink_eq (h : l.entries e e') (number : Text) :
    Markup.entryLink e' number = Markup.entryLink e number := by
  unfold Markup.entryLink
  rw [l.name_eq h, markup_description_eq h]

theorem entryHeading_eq (h : l.entries e e') (number : Option Text) :
    Markup.entryHeading e' number = Markup.entryHeading e number := by
  unfold Markup.entryHeading
  rw [l.name_eq h, markup_description_eq h]

/-- States that are alike, as a pairing: the same titles and links belong together. -/
def pairing (l : Likeness layout) : Walk.Pairing layout where
  states := l.Alike
  entries := l.entries
  titles := Eq
  toc item item' := item'.text = item.text
  body := l.body
  nesting_eq h := h.nesting
  showInternal_eq h := h.showInternal
  logs _ _ h := ⟨h.nesting, h.showInternal, h.toc, h.body, h.conditions, h.opened⟩
  nest _ h := ⟨rfl, h.showInternal, h.toc, h.body, h.conditions, h.opened⟩
  opens path h := ⟨h.nesting, h.showInternal, h.toc, h.body, h.conditions, l.push path h.opened⟩
  leaves _ _ h := ⟨h.nesting, h.showInternal, h.toc, h.body, h.conditions, h.opened⟩
  writeToc h hitem :=
    ⟨h.nesting, h.showInternal, by simp [WalkState.writeToc, h.toc, hitem], h.body, h.conditions,
      h.opened⟩
  writeBody h hitem :=
    ⟨h.nesting, h.showInternal, h.toc,
      by simpa [WalkState.writeBody] using List.rel_append h.body (.cons hitem .nil),
      h.conditions, h.opened⟩
  tocLists := ⟨rfl, rfl⟩
  bodyLists := ⟨l.heading rfl rfl rfl, l.heading rfl rfl rfl⟩
  blockLink _ _ _ h := by rw [h]
  menuHeading _ _ _ h := by
    rw [h]
    exact l.heading rfl rfl rfl
  choiceHeading _ _ _ h := by
    rw [h]
    exact l.heading rfl rfl rfl
  isHidden_eq := isHidden_eq
  entryLink number h := by rw [TocItem.text_config, TocItem.text_config, entryLink_eq h]
  entryHeading number h := by
    apply l.heading rfl rfl
    rw [BodyItem.text_config, BodyItem.text_config, entryHeading_eq h]
  details := l.details

theorem Alike.closed (h : l.Alike s t) : l.Alike s.closed t.closed := by
  have hlist : l.Alike (s.writeToc .closeList) (t.writeToc .closeList) :=
    l.pairing.writeToc h l.pairing.tocLists.2
  exact ⟨hlist.nesting, hlist.showInternal, hlist.toc, hlist.body, hlist.conditions, hlist.opened⟩

end Likeness

namespace Walk

variable {excused : Failure → Prop}

namespace Parallel

variable {ctx : WalkContext} {l : Likeness ctx.layout} {line : Line}

theorem note (record record' : LogRecord) :
    Parallel excused l.Alike (Walk.note record) (Walk.note record') :=
  l.pairing.parallel_note record record'

/-- Where conditions that belong together are the same, so is what a line does to them. -/
theorem pushCondition (heq : ∀ c c', l.conditions c c' ↔ c' = c) (line : Line) :
    Parallel excused l.Alike (Walk.pushCondition line) (Walk.pushCondition line) := by
  intro s t h
  rw [pushCondition_apply, pushCondition_apply, (heq _ _).1 h.conditions]
  cases s.conditions.push line.rest line.place with
  | error e => exact .error e h
  | ok conditions =>
      exact .ok () ⟨h.nesting, h.showInternal, h.toc, h.body, (heq _ _).2 rfl, h.opened⟩

theorem popCondition (heq : ∀ c c', l.conditions c c' ↔ c' = c) (line : Line) :
    Parallel excused l.Alike (Walk.popCondition line) (Walk.popCondition line) := by
  intro s t h
  rw [popCondition_apply, popCondition_apply, (heq _ _).1 h.conditions]
  cases s.conditions.pop line.place with
  | error e => exact .error e h
  | ok popped =>
      exact .ok () ⟨h.nesting, h.showInternal, h.toc, h.body, (heq _ _).2 rfl, h.opened⟩

theorem sourceLine {line line' : Line} (hrest : line'.rest = line.rest) :
    Parallel excused l.Alike (Walk.sourceLine ctx (fun _ => Pure.pure ()) line)
      (Walk.sourceLine ctx (fun _ => Pure.pure ()) line') :=
  l.pairing.parallel_sourceLine hrest

/-- The same line does the same in both walks if the entry that it declares, and what it does to the
conditions, belong together. -/
theorem effect {directory directory' : Text} {after after' : List Line}
    (hentry : line.declares → ∀ c c', l.conditions c c' →
      l.entries (line.entry directory c.inForce after) (line.entry directory' c'.inForce after'))
    (hpush : line.keyword? = some .ifWord →
      Parallel excused l.Alike (Walk.pushCondition line) (Walk.pushCondition line))
    (hpop : line.keyword? = some .endIf →
      Parallel excused l.Alike (Walk.popCondition line) (Walk.popCondition line)) :
    Parallel excused l.Alike (Walk.effect ctx (fun _ => Pure.pure ()) directory line after)
      (Walk.effect ctx (fun _ => Pure.pure ()) directory' line after') := by
  have hsame : l.pairing.SaysAlike line line :=
    ⟨rfl, rfl, fun _ => rfl, fun _ => rfl, fun _ => Iff.rfl⟩
  exact l.pairing.parallel_effect hsame (fun hdeclares s t h => hentry hdeclares _ _ h.conditions)
    hpush hpop

/-- A file is entered alike where every path shows lines that belong together. -/
theorem enter {ctx' : WalkContext} {r : List Line → List Line → Prop}
    (h : ∀ path, LinesAlike ctx ctx' r path) (hlayout : ctx'.layout = ctx.layout)
    (directory : Text) :
    Parallel excused l.Alike (perform ctx (.enter directory)) (perform ctx' (.enter directory)) :=
  Pairing.parallel_enter (p := l.pairing) h hlayout directory

end Parallel

/-- Runs are alike whose first files are walked alike. -/
theorem Meets.run {l : Likeness ctx.layout} {walk walk' : Walk Unit}
    {maxLevels maxConditions : Limit} {showInternal : Bool}
    (hfresh : l.Alike (.fresh maxLevels maxConditions showInternal)
      (.fresh maxLevels maxConditions showInternal))
    (hwalk : ∀ banner, Meets excused l.Alike
      (walk (.rooted maxLevels maxConditions showInternal banner))
      (walk' (.rooted maxLevels maxConditions showInternal banner))) :
    Meets excused l.Alike
      ((openRoot ctx >>= fun _ => walk >>= fun _ => closeRoot)
        (.fresh maxLevels maxConditions showInternal))
      ((openRoot ctx >>= fun _ => walk' >>= fun _ => closeRoot)
        (.fresh maxLevels maxConditions showInternal)) := by
  have hnumbered : l.Alike (.numbered maxLevels maxConditions showInternal)
      (.numbered maxLevels maxConditions showInternal) :=
    ⟨rfl, rfl, rfl, hfresh.body, hfresh.conditions, hfresh.opened⟩
  have hclose : Parallel excused l.Alike closeRoot closeRoot := by
    intro s t h
    rw [closeRoot_apply, closeRoot_apply]
    exact .ok () h.closed
  rw [bind_apply, bind_apply, openRoot_fresh]
  rcases maxLevels.reached 0 with m | _ | _
  · exact .error _ hfresh
  · cases ctx.bannerText with
    | error m => exact .error _ hnumbered
    | ok banner => exact (hwalk banner).bind fun _ s t _ h => hclose s t h
  · exact .error _ hfresh

/-- Another tree holds files whose lines are alike: they open and close the same blocks, declare
entries and attributes at the same places, lead to the same files and do alike. -/
structure Mirrors (ctx : WalkContext) (tree : FileTree) (excused : Failure → Prop)
    (l : Likeness ctx.layout) (like : Line → Line → Prop) : Prop where
  paths : ∀ path, LinesAlike ctx (ctx.onTree tree) (List.Forall₂ like) path
  turn : ∀ {line line'}, like line line' → line'.turn = line.turn
  isAttribute : ∀ {line line'}, like line line' → line'.isAttribute = line.isAttribute
  declares : ∀ {line line'}, like line line' → (line'.declares ↔ line.declares)
  target : ∀ {line line'}, like line line' → ctx.target? line' = ctx.target? line
  line : ∀ {line line' after after'} directory, like line line' → List.Forall₂ like after after' →
    Parallel excused l.Alike (effect ctx (fun _ => pure ()) directory line after)
      (effect ctx (fun _ => pure ()) directory line' after')

namespace Mirrors

variable {ctx : WalkContext} {tree : FileTree} {l : Likeness ctx.layout}
  {like : Line → Line → Prop}

/-- Files whose lines are alike are walked alike. Where the first walk is excused for having too
many files open, the second may have more. -/
theorem itinerary (h : Mirrors ctx tree excused l like) {depth depth' : Nat}
    (hdepth : depth = depth' ∨ depth ≤ depth' ∧ excused (.misused .endless)) (directory : Text) :
    Parallel excused l.Alike (follow ctx (itinerary ctx depth directory))
      (follow (ctx.onTree tree) (Walk.itinerary (ctx.onTree tree) depth' directory)) := by
  have hechoes : Echoes ctx (ctx.onTree tree) excused l.pairing.states like :=
    { layout := rfl
      paths := h.paths
      turn := h.turn
      isAttribute := h.isAttribute
      declares := h.declares
      target := h.target
      enter := .enter h.paths rfl
      line := h.line
      leave := fun _ _ => .change fun _ _ => l.pairing.leaves _ _ }
  exact hechoes.itinerary hdepth directory

end Mirrors

end Walk

end KconfigReference
