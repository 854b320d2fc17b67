import KconfigReference.Proofs.Files.Alike
import KconfigReference.Proofs.Walk.Itinerary
import Mathlib.Data.List.Forall2

/-!
Trees with other contents. Two trees of one shape show at every path the same fault, or lines that
belong together. What belonging together means is left open: that the lines are alike one by one, or
that some lines were added.
-/

namespace KconfigReference

namespace WalkContext

/-- The file system under the same settings with other files. -/
def onTree (ctx : WalkContext) (tree : FileTree) : WalkContext := { ctx with tree := tree }

/-- The file system with other files, which are read under another line size. -/
def reread (ctx : WalkContext) (tree : FileTree) (lineSize : LineSize) : WalkContext :=
  { ctx with tree := tree, lineSize := lineSize }

/-- The lines that contents give under a path. -/
def cut (ctx : WalkContext) (path : Text) (content : Bytes) : Except Misuse (List Line) :=
  ctx.lineSize.lines path
    (Text.physicalLines (Text.normalizeLineEndings (Utf8.decodeLenient content)))

/-- Two contents give lines that belong together, or cannot be cut for the same reason. -/
def CutBy (ctx : WalkContext) (r : List Line → List Line → Prop) (content content' : Bytes) :
    Prop :=
  ∀ path, match ctx.cut path content, ctx.cut path content' with
    | .ok lines, .ok lines' => r lines lines'
    | .error m, .error m' => m' = m
    | _, _ => False

/-- Two contents give lines that are alike one by one, or cannot be cut for the same reason. -/
def CutAlike (ctx : WalkContext) (like : Line → Line → Prop) (content content' : Bytes) : Prop :=
  ∀ path, match ctx.cut path content, ctx.cut path content' with
    | .ok lines, .ok lines' => List.Forall₂ like lines lines'
    | .error m, .error m' => m' = m
    | _, _ => False

variable {ctx : WalkContext} {tree : FileTree}

theorem readText_of_read_error {path : Text} {e : SystemError} (hnul : ¬path.contains '\x00' = true)
    (h : ctx.tree.read path = .error e) :
    ctx.readText path =
      .error (.reported (.inFile .kconfigOpen ("open failed: " ++ e.reason) path)) := by
  rw [readText, if_neg hnul, h]

theorem readText_of_read {path : Text} {content : Bytes} (hnul : ¬path.contains '\x00' = true)
    (h : ctx.tree.read path = .ok content) :
    ctx.readText path = .ok (Text.normalizeLineEndings (Utf8.decodeLenient content)) := by
  rw [readText, if_neg hnul, h]

end WalkContext

namespace Walk

/-- A path shows the same fault under both settings, or lines that belong together. -/
inductive LinesAlike (ctx ctx' : WalkContext) (r : List Line → List Line → Prop) (path : Text) :
    Prop where
  | unread (e : Failure) (h : ctx.readText path = .error e) (h' : ctx'.readText path = .error e)
  | uncut (m : Misuse) (text text' : Text) (h : ctx.readText path = .ok text)
      (h' : ctx'.readText path = .ok text')
      (hcut : ctx.lineSize.lines path (Text.physicalLines text) = .error m)
      (hcut' : ctx'.lineSize.lines path (Text.physicalLines text') = .error m)
  | cut (lines lines' : List Line) (text text' : Text) (h : ctx.readText path = .ok text)
      (h' : ctx'.readText path = .ok text')
      (hcut : ctx.lineSize.lines path (Text.physicalLines text) = .ok lines)
      (hcut' : ctx'.lineSize.lines path (Text.physicalLines text') = .ok lines')
      (hlike : r lines lines')

theorem LinesAlike.refl {r : List Line → List Line → Prop} (hrefl : ∀ lines, r lines lines)
    (ctx : WalkContext) (path : Text) : LinesAlike ctx ctx r path := by
  cases htext : ctx.readText path with
  | error e => exact .unread e htext htext
  | ok text =>
      cases hcut : ctx.lineSize.lines path (Text.physicalLines text) with
      | error m => exact .uncut m text text htext htext hcut hcut
      | ok lines => exact .cut lines lines text text htext htext hcut hcut (hrefl lines)

theorem LinesAlike.mono {ctx ctx' : WalkContext} {r r' : List Line → List Line → Prop} {path : Text}
    (h : LinesAlike ctx ctx' r path) (himp : ∀ lines lines', r lines lines' → r' lines lines') :
    LinesAlike ctx ctx' r' path := by
  cases h with
  | unread e h h' => exact .unread e h h'
  | uncut m text text' h h' hcut hcut' => exact .uncut m text text' h h' hcut hcut'
  | cut lines lines' text text' h h' hcut hcut' hlike =>
      exact .cut lines lines' text text' h h' hcut hcut' (himp lines lines' hlike)

variable {ctx ctx' : WalkContext} {tree : FileTree} {r : List Line → List Line → Prop}

/-- In a tree with contents that belong together every path shows lines that do. -/
theorem linesAlike_of_cutBy (hsize : ctx'.lineSize = ctx.lineSize)
    (h : ctx.tree.Alike (ctx.CutBy r) ctx'.tree) (path : Text) : LinesAlike ctx ctx' r path := by
  by_cases hnul : path.contains '\x00' = true
  · have hfault : ∀ ctx : WalkContext, ctx.readText path = .error (.misused .badValue) :=
      fun ctx => by rw [WalkContext.readText, if_pos hnul]
    exact .unread _ (hfault _) (hfault _)
  · rcases h.read path with ⟨e, he, he'⟩ | ⟨content, content', hcontent, hcontent', hlike⟩
    · exact .unread _ (WalkContext.readText_of_read_error hnul he)
        (WalkContext.readText_of_read_error hnul he')
    · have htext := WalkContext.readText_of_read hnul hcontent
      have htext' := WalkContext.readText_of_read hnul hcontent'
      have hcut := hlike path
      unfold WalkContext.cut at hcut
      revert hcut
      rcases hlines : ctx.lineSize.lines path _ with m | lines <;>
        rcases hlines' : ctx.lineSize.lines path _ with m' | lines'
      · rintro rfl
        exact .uncut m' _ _ htext htext' hlines (hsize ▸ hlines')
      · exact False.elim
      · exact False.elim
      · exact fun hforall => .cut lines lines' _ _ htext htext' hlines (hsize ▸ hlines') hforall

theorem linesAlike_onTree (h : ctx.tree.Alike (ctx.CutBy r) tree) (path : Text) :
    LinesAlike ctx (ctx.onTree tree) r path := by
  have hsize : (ctx.onTree tree).lineSize = ctx.lineSize := rfl
  exact linesAlike_of_cutBy hsize h path

/-- A file has lines under both settings, which belong together, or under neither. -/
theorem LinesAlike.fileLines? (h : ∀ path, LinesAlike ctx ctx' r path)
    (hlayout : ctx'.layout = ctx.layout) (directory : Text) :
    (ctx.fileLines? directory = none ∧ ctx'.fileLines? directory = none) ∨
      ∃ lines lines', ctx.fileLines? directory = some lines ∧
        ctx'.fileLines? directory = some lines' ∧ r lines lines' := by
  unfold WalkContext.fileLines?
  rw [hlayout]
  cases ctx.layout.filePath directory with
  | error m => exact .inl ⟨rfl, rfl⟩
  | ok path =>
      cases ctx.layout.hasNameableFiles with
      | false => exact .inl ⟨rfl, rfl⟩
      | true =>
          simp only [if_true]
          cases h path with
          | unread e he he' => simp [he, he']
          | uncut m text text' htext htext' hcut hcut' =>
              simp [htext, htext', hcut, hcut', Except.toOption]
          | cut lines lines' text text' htext htext' hcut hcut' hlike =>
              exact .inr ⟨lines, lines', by simp [htext, hcut, Except.toOption],
                by simp [htext', hcut', Except.toOption], hlike⟩

/-- Whatever stands in the first list has its partner in the second. -/
theorem exists_of_forall₂ {α β : Type} {like : α → β → Prop} {xs : List α} {ys : List β}
    (h : List.Forall₂ like xs ys) {x : α} (hx : x ∈ xs) : ∃ y ∈ ys, like x y := by
  induction h with
  | nil => cases hx
  | cons hxy _ ih =>
      rcases List.mem_cons.1 hx with rfl | hx
      · exact ⟨_, List.mem_cons_self, hxy⟩
      · obtain ⟨y, hy, hlike⟩ := ih hx
        exact ⟨y, List.mem_cons_of_mem _ hy, hlike⟩

/-- The same lines are dispatched among lines that open and close the same blocks and declare
entries and attributes at the same places, by induction on the lines. -/
theorem forall₂_dispatched {like : Line → Line → Prop}
    (hturn : ∀ {line line'}, like line line' → line'.turn = line.turn)
    (hattribute : ∀ {line line'}, like line line' → line'.isAttribute = line.isAttribute)
    (hdeclares : ∀ {line line'}, like line line' → (line'.declares ↔ line.declares))
    {lines lines' : List Line} (hlines : List.Forall₂ like lines lines') (taking : Bool)
    (opened : Nat) :
    List.Forall₂ (fun place place' => like place.1 place'.1 ∧ List.Forall₂ like place.2 place'.2)
      (dispatched taking opened lines) (dispatched taking opened lines') := by
  induction hlines generalizing taking opened with
  | nil => exact .nil
  | @cons line line' after after' hline hafter ih =>
      rw [dispatched, dispatched, hattribute hline, hturn hline]
      split
      · exact ih true opened
      · refine .cons ⟨hline, hafter⟩ ?_
        cases line.turn.count opened with
        | none => exact .nil
        | some opened =>
            simp only [hdeclares hline]
            exact ih _ opened

/-- In a tree of the same shape as many files may be open. -/
theorem depthBound_of_alike {like : Bytes → Bytes → Prop} (ctx ctx' : WalkContext)
    (htree : ctx.tree.Alike like ctx'.tree) (s : WalkState) : depthBound ctx' s = depthBound ctx s := by
  simp only [depthBound, htree.length_allFiles]

end Walk

end KconfigReference
