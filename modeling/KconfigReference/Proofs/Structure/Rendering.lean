import KconfigReference.Proofs.Structure.Items

/-!
The rendering of a structure. It is read off the structure, without a state: a paragraph has the
number of the block around it and one more than the paragraphs before it there, an anchor counts
the blocks of its kind before it, and an entry has the conditions around it.
-/

namespace KconfigReference

/-- What is written to the two streams. -/
structure Rendering where
  toc : List TocItem
  body : List BodyItem
deriving Repr, DecidableEq

namespace Rendering

def empty : Rendering := ⟨[], []⟩

instance : Append Rendering := ⟨fun a b => ⟨a.toc ++ b.toc, a.body ++ b.body⟩⟩

@[simp] theorem toc_append (a b : Rendering) : (a ++ b).toc = a.toc ++ b.toc := rfl

@[simp] theorem body_append (a b : Rendering) : (a ++ b).body = a.body ++ b.body := rfl

end Rendering

/-- What is around an item. -/
structure Surroundings where
  directory : Text
  /-- The number of the block around it. -/
  outer : ParagraphNumber
  /-- The conditions around it, outermost first. -/
  conditions : List Text
  /-- How many choices are around it. -/
  choices : Nat

/-- What is taken before an item: the paragraphs in the same block, and all menus and choices. -/
structure Taken where
  paragraphs : Nat
  menus : Nat
  choices : Nat

namespace Surroundings

/-- The number of the next paragraph. -/
def number (around : Surroundings) (taken : Taken) : ParagraphNumber :=
  around.outer ++ [taken.paragraphs + 1]

/-- What is around the items of a block with a number. -/
def within (around : Surroundings) (kind : BlockKind) (number : ParagraphNumber) : Surroundings :=
  { around with
    outer := number
    choices := match kind with
      | .menu => around.choices
      | .choice => around.choices + 1 }

/-- What is around the items below a condition. -/
def under (around : Surroundings) (condition : Text) : Surroundings :=
  { around with conditions := around.conditions ++ [condition] }

/-- What is around the items of the file in a directory. -/
def inFile (around : Surroundings) (directory : Text) : Surroundings :=
  { around with directory := directory }

end Surroundings

namespace Taken

/-- How many blocks of a kind are taken. -/
def blocks (taken : Taken) : BlockKind → Nat
  | .menu => taken.menus
  | .choice => taken.choices

/-- What is taken before the items of a block. -/
def entering (taken : Taken) : BlockKind → Taken
  | .menu => ⟨0, taken.menus + 1, taken.choices⟩
  | .choice => ⟨0, taken.menus, taken.choices + 1⟩

/-- What is taken after a block, given what was taken before it and at its end. -/
def leaving (taken atEnd : Taken) : Taken := { atEnd with paragraphs := taken.paragraphs + 1 }

end Taken

/-- Link and heading of a block, and its list in one of the streams. -/
def BlockKind.opened (kind : BlockKind) (anchor : Text) (number : ParagraphNumber)
    (caption : Text) : Rendering :=
  match kind with
  | .menu => ⟨[.block anchor number caption, .openList], [.menu anchor number caption]⟩
  | .choice => ⟨[.block anchor number caption], [.choice anchor number caption, .openList]⟩

/-- The end of the list of a block. -/
def BlockKind.closed : BlockKind → Rendering
  | .menu => ⟨[.closeList], []⟩
  | .choice => ⟨[], [.closeList]⟩

namespace Items

/-- Whether an entry with these attribute lines is shown. -/
def shows (showInternal : Bool) (line : Line) (attributes : List Line) : Bool :=
  showInternal || !(line.entryWith attributes [] []).isHidden

/-- How many paragraphs the items take in the block around them. -/
def paragraphs (showInternal : Bool) (choices : Nat) : Items → Nat
  | .nil => 0
  | .config line attributes rest =>
      (if shows showInternal line attributes && choices = 0 then 1 else 0) +
        rest.paragraphs showInternal choices
  | .ignored _ _ rest => rest.paragraphs showInternal choices
  | .block _ _ _ _ rest => 1 + rest.paragraphs showInternal choices
  | .conditional _ inner _ rest =>
      inner.paragraphs showInternal choices + rest.paragraphs showInternal choices
  | .source _ _ inner rest =>
      inner.paragraphs showInternal choices + rest.paragraphs showInternal choices

/-- How many blocks of a kind there are. -/
def blocks (kind : BlockKind) : Items → Nat
  | .nil => 0
  | .config _ _ rest => rest.blocks kind
  | .ignored _ _ rest => rest.blocks kind
  | .block k _ inner _ rest => (if k = kind then 1 else 0) + inner.blocks kind + rest.blocks kind
  | .conditional _ inner _ rest => inner.blocks kind + rest.blocks kind
  | .source _ _ inner rest => inner.blocks kind + rest.blocks kind

end Items

/-- What is taken after items in the same block. -/
def Taken.past (taken : Taken) (showInternal : Bool) (choices : Nat) (items : Items) : Taken where
  paragraphs := taken.paragraphs + items.paragraphs showInternal choices
  menus := taken.menus + items.blocks .menu
  choices := taken.choices + items.blocks .choice

/-- An entry outside all choices has a link and a number, one inside a choice has neither. -/
def Entry.rendering (entry : Entry) (showInternal : Bool) (path : Text) (around : Surroundings)
    (number : ParagraphNumber) : Rendering :=
  if entry.isHidden && !showInternal then .empty
  else if around.choices = 0 then
    ⟨[.config entry number], [.config entry (some number), .details entry path]⟩
  else ⟨[], [.config entry none, .details entry path]⟩

/-- The rendering of items at a place. -/
def Items.rendering (showInternal : Bool) (fileName : Text) (around : Surroundings)
    (taken : Taken) : Items → Rendering
  | .nil => .empty
  | .config line attributes rest =>
      let entry := line.entryWith attributes around.directory around.conditions
      let path := around.directory ++ "/" ++ fileName
      let taken' := taken.past showInternal around.choices (.config line attributes .nil)
      entry.rendering showInternal path around (around.number taken) ++
        rest.rendering showInternal fileName around taken'
  | .ignored _ _ rest => rest.rendering showInternal fileName around taken
  | .block kind opener inner _ rest =>
      let number := around.number taken
      let within := around.within kind number
      let caption := Markup.caption kind.word (Prompt.extract opener.rest)
      let atEnd := (taken.entering kind).past showInternal within.choices inner
      kind.opened (kind.anchor (taken.blocks kind)) number caption ++
        inner.rendering showInternal fileName within (taken.entering kind) ++
        kind.closed ++ rest.rendering showInternal fileName around (taken.leaving atEnd)
  | .conditional opener inner _ rest =>
      inner.rendering showInternal fileName (around.under opener.rest) taken ++
        rest.rendering showInternal fileName around
          (taken.past showInternal around.choices inner)
  | .source _ directory inner rest =>
      inner.rendering showInternal fileName (around.inFile directory) taken ++
        rest.rendering showInternal fileName around
          (taken.past showInternal around.choices inner)

namespace Taken

variable (taken : Taken) (showInternal : Bool) (choices : Nat)

@[simp] theorem past_nil : taken.past showInternal choices .nil = taken := rfl

@[simp] theorem past_ignored (line : Line) (attributes : List Line) (rest : Items) :
    taken.past showInternal choices (.ignored line attributes rest) =
      taken.past showInternal choices rest := rfl

theorem past_config (line : Line) (attributes : List Line) (rest : Items) :
    taken.past showInternal choices (.config line attributes rest) =
      (taken.past showInternal choices (.config line attributes .nil)).past showInternal choices
        rest := by
  simp [past, Items.paragraphs, Items.blocks, Nat.add_assoc]

theorem past_conditional (opener : Line) (inner : Items) (closer : Line) (rest : Items) :
    taken.past showInternal choices (.conditional opener inner closer rest) =
      (taken.past showInternal choices inner).past showInternal choices rest := by
  simp [past, Items.paragraphs, Items.blocks, Nat.add_assoc]

theorem past_source (line : Line) (directory : Text) (inner rest : Items) :
    taken.past showInternal choices (.source line directory inner rest) =
      (taken.past showInternal choices inner).past showInternal choices rest := by
  simp [past, Items.paragraphs, Items.blocks, Nat.add_assoc]

theorem past_block (kind : BlockKind) (opener : Line) (inner : Items) (closer : Line)
    (rest : Items) (inside : Nat) :
    taken.past showInternal choices (.block kind opener inner closer rest) =
      (taken.leaving ((taken.entering kind).past showInternal inside inner)).past showInternal
        choices rest := by
  cases kind <;>
    simp [past, leaving, entering, Items.paragraphs, Items.blocks, Nat.add_assoc]

end Taken

/-- Whether an entry is hidden depends on its attribute lines only. -/
theorem Line.isHidden_entryWith (line : Line) (attributes : List Line) (directory : Text)
    (conditions : List Text) :
    (line.entryWith attributes directory conditions).isHidden =
      (line.entryWith attributes [] []).isHidden := by
  have hset : ∀ (found : List Attribute) (a b : Entry), a.description = b.description →
      (found.foldl Entry.set a).description = (found.foldl Entry.set b).description := by
    intro found
    induction found with
    | nil => exact fun _ _ h => h
    | cons first rest ih =>
        intro a b h
        apply ih
        cases first <;> simp [Entry.set, h]
  have hdescription := hset (attributes.filterMap attribute?)
    (.bare (Text.firstWord line.rest) directory conditions)
    (.bare (Text.firstWord line.rest) [] []) rfl
  unfold entryWith Entry.withLines Entry.isHidden
  rw [hdescription]

end KconfigReference
