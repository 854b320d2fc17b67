import KconfigReference.Proofs.Kconfig.Blocks
import KconfigReference.Proofs.Kconfig.Reading

/-!
The structure of a Kconfig tree: a file is a list of entries, of blocks and conditions around
further lists, of lines that say nothing, and of source lines with the files that they name.
-/

namespace KconfigReference

/-- A list of items, each given by its lines and, around a list or a file, by what is in it. -/
inductive Items where
  | nil
  /-- An entry with its attribute lines. -/
  | config (line : Line) (attributes : List Line) (rest : Items)
  /-- A line that says nothing, with the attribute lines after it, which say nothing either. -/
  | ignored (line : Line) (attributes : List Line) (rest : Items)
  | block (kind : BlockKind) (opener : Line) (inner : Items) (closer : Line) (rest : Items)
  | conditional (opener : Line) (inner : Items) (closer : Line) (rest : Items)
  /-- A source line with the directory that it leads to and the items of the file there. -/
  | source (line : Line) (directory : Text) (inner : Items) (rest : Items)
deriving Repr

/-- The file of a directory can be read, and its lines fit into the line size. -/
structure WalkContext.Reads (ctx : WalkContext) (directory : Text) (lines : List Line) : Prop where
  nameable : ctx.layout.hasNameableFiles = true
  found : ∃ path text size, ctx.layout.filePath directory = .ok path ∧
    ctx.readText path = .ok text ∧ ctx.lineSize = .characters size ∧
    (∀ physical ∈ Text.physicalLines text, Fits (lineRoom size) physical) ∧
    lines = wholeLines path (Text.physicalLines text)

/-- A source line leads to a directory that the system takes as a part of a path. -/
def WalkContext.LeadsTo (ctx : WalkContext) (line : Line) (directory : Text) : Prop :=
  ∃ resolved, ctx.layout.resolve (Text.firstWord line.rest) = .ok (some resolved) ∧
    resolved.isNameable = true ∧ resolved.directory = directory

namespace Items

/-- The lines of the file that the items stand in. -/
def lines : Items → List Line
  | .nil => []
  | .config line attributes rest => line :: (attributes ++ rest.lines)
  | .ignored line attributes rest => line :: (attributes ++ rest.lines)
  | .block _ opener inner closer rest => opener :: (inner.lines ++ closer :: rest.lines)
  | .conditional opener inner closer rest => opener :: (inner.lines ++ closer :: rest.lines)
  | .source line _ _ rest => line :: rest.lines

/-- Every line is of the kind that its place asks for, and every source line leads to a file with
the items that are given for it. -/
def WellFormed (ctx : WalkContext) : Items → Prop
  | .nil => True
  | .config line attributes rest =>
      line.declares ∧ (∀ a ∈ attributes, a.isAttribute = true) ∧ rest.WellFormed ctx
  | .ignored line attributes rest =>
      line.keyword? = none ∧ (∀ a ∈ attributes, a.isAttribute = true) ∧ rest.WellFormed ctx
  | .block kind opener inner closer rest =>
      opener.keyword? = some kind.opening ∧ closer.keyword? = some kind.closing ∧
        inner.WellFormed ctx ∧ rest.WellFormed ctx
  | .conditional opener inner closer rest =>
      opener.keyword? = some .ifWord ∧ closer.keyword? = some .endIf ∧
        inner.WellFormed ctx ∧ rest.WellFormed ctx
  | .source line directory inner rest =>
      line.keyword? = some .source ∧ ctx.LeadsTo line directory ∧
        ctx.Reads directory inner.lines ∧ inner.WellFormed ctx ∧ rest.WellFormed ctx

/-- How many blocks are around an item at most. -/
def blockDepth : Items → Nat
  | .nil => 0
  | .config _ _ rest => rest.blockDepth
  | .ignored _ _ rest => rest.blockDepth
  | .block _ _ inner _ rest => max (inner.blockDepth + 1) rest.blockDepth
  | .conditional _ inner _ rest => max inner.blockDepth rest.blockDepth
  | .source _ _ inner rest => max inner.blockDepth rest.blockDepth

/-- How many conditions are around an item at most. -/
def conditionDepth : Items → Nat
  | .nil => 0
  | .config _ _ rest => rest.conditionDepth
  | .ignored _ _ rest => rest.conditionDepth
  | .block _ _ inner _ rest => max inner.conditionDepth rest.conditionDepth
  | .conditional _ inner _ rest => max (inner.conditionDepth + 1) rest.conditionDepth
  | .source _ _ inner rest => max inner.conditionDepth rest.conditionDepth

/-- How many source lines lead to an item at most. -/
def fileDepth : Items → Nat
  | .nil => 0
  | .config _ _ rest => rest.fileDepth
  | .ignored _ _ rest => rest.fileDepth
  | .block _ _ inner _ rest => max inner.fileDepth rest.fileDepth
  | .conditional _ inner _ rest => max inner.fileDepth rest.fileDepth
  | .source _ _ inner rest => max (inner.fileDepth + 1) rest.fileDepth

end Items

namespace Line

/-- The entry that a line and its attribute lines declare. -/
def entryWith (line : Line) (attributes : List Line) (directory : Text)
    (conditions : List Text) : Entry :=
  (Entry.bare (Text.firstWord line.rest) directory conditions).withLines attributes

theorem isAttribute_of_keyword {line : Line} {keyword : Keyword}
    (h : line.keyword? = some keyword)
    (hplain : keyword ∈ [Keyword.config, .menu, .endMenu, .choice, .endChoice, .source, .ifWord,
      .endIf]) : line.isAttribute = false := by
  cases keyword <;> simp_all [isAttribute, attribute?]

theorem isAttribute_of_keyword_none {line : Line} (h : line.keyword? = none) :
    line.isAttribute = false := by
  simp [isAttribute, attribute?, h]

/-- Lines that do not begin with an attribute line. -/
def NoAttributeFirst (lines : List Line) : Prop := ∀ first ∈ lines.head?, first.isAttribute = false

theorem noAttributeFirst_cons {line : Line} {lines : List Line} :
    NoAttributeFirst (line :: lines) ↔ line.isAttribute = false := by
  simp [NoAttributeFirst]

/-- The attribute lines before other lines are the longest run of attribute lines. -/
theorem takeWhile_attributes {attributes after : List Line}
    (hattributes : ∀ a ∈ attributes, a.isAttribute = true) (hafter : NoAttributeFirst after) :
    (attributes ++ after).takeWhile isAttribute = attributes := by
  rw [List.takeWhile_append_of_pos hattributes]
  cases after with
  | nil => simp
  | cons first rest => simp [noAttributeFirst_cons.1 hafter]

theorem dropWhile_attributes {attributes after : List Line}
    (hattributes : ∀ a ∈ attributes, a.isAttribute = true) (hafter : NoAttributeFirst after) :
    (attributes ++ after).dropWhile isAttribute = after := by
  rw [List.dropWhile_append_of_pos hattributes]
  cases after with
  | nil => rfl
  | cons first rest => simp [noAttributeFirst_cons.1 hafter]

end Line

/-- No item begins with an attribute line. -/
theorem Items.WellFormed.noAttributeFirst {ctx : WalkContext} {items : Items}
    (h : items.WellFormed ctx) {after : List Line} (hafter : Line.NoAttributeFirst after) :
    Line.NoAttributeFirst (items.lines ++ after) := by
  cases items with
  | nil => exact hafter
  | config line attributes rest =>
      exact Line.noAttributeFirst_cons.2 (Line.isAttribute_of_keyword h.1.1 (by simp))
  | ignored line attributes rest =>
      exact Line.noAttributeFirst_cons.2 (Line.isAttribute_of_keyword_none h.1)
  | block kind opener inner closer rest =>
      exact Line.noAttributeFirst_cons.2
        (Line.isAttribute_of_keyword h.1 (by cases kind <;> simp [BlockKind.opening]))
  | conditional opener inner closer rest =>
      exact Line.noAttributeFirst_cons.2 (Line.isAttribute_of_keyword h.1 (by simp))
  | source line directory inner rest =>
      exact Line.noAttributeFirst_cons.2 (Line.isAttribute_of_keyword h.1 (by simp))

end KconfigReference
