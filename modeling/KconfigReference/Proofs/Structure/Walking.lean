import KconfigReference.Proofs.Files.Sourcing
import KconfigReference.Proofs.Page.Staging
import KconfigReference.Proofs.Structure.Stepping
import KconfigReference.Proofs.Walk.Run

/-!
The walk of a structure. A walk on the lines of well-formed items comes to the lines after them, has
written the rendering of the items, and stands where the items end. Main statement: a run on a
well-formed tree writes the rendering of the tree.
-/

namespace KconfigReference

namespace Walk

variable {ctx : WalkContext} {maxLevels maxConditions : Limit} {showInternal : Bool}
  {name : CodeText}

/-- A file whose lines are walked to their end. -/
theorem file_of_blockLines {depth : Nat} {directory : Text} {lines : List Line}
    {s t u : WalkState} (hopen : openFile ctx directory s = .ok lines t)
    (hblock : blockLines ctx (file ctx depth) directory lines t = .ok [] u) :
    file ctx (depth + 1) directory s = .ok () u := by
  rw [file_succ]
  simp [bind_apply, hopen, hblock]

/-- The blocks and the conditions of items stay within the limits at a place. -/
structure Room (maxLevels maxConditions : Limit) (around : Surroundings) (items : Items) : Prop where
  levels : maxLevels.Admits (around.outer.length + 1 + items.blockDepth)
  conditions : maxConditions.Admits (around.conditions.length + items.conditionDepth)

namespace Room

variable {around : Surroundings} {inner rest : Items} {opener closer line : Line}

theorem inBlock {kind : BlockKind} (h : Room maxLevels maxConditions around
      (.block kind opener inner closer rest)) (taken : Taken) :
    Room maxLevels maxConditions (around.within kind (around.number taken)) inner where
  levels := h.levels.mono (by
    simp [Items.blockDepth, Surroundings.within, Surroundings.number]
    omega)
  conditions := h.conditions.mono (by
    simp only [Items.conditionDepth, Surroundings.within]
    omega)

theorem pastBlock {kind : BlockKind} (h : Room maxLevels maxConditions around
      (.block kind opener inner closer rest)) : Room maxLevels maxConditions around rest where
  levels := h.levels.mono (by simp only [Items.blockDepth]; omega)
  conditions := h.conditions.mono (by simp only [Items.conditionDepth]; omega)

theorem inConditional (h : Room maxLevels maxConditions around
      (.conditional opener inner closer rest)) (condition : Text) :
    Room maxLevels maxConditions (around.under condition) inner where
  levels := h.levels.mono (by
    simp only [Items.blockDepth, Surroundings.under]
    omega)
  conditions := h.conditions.mono (by
    simp [Items.conditionDepth, Surroundings.under]
    omega)

theorem pastConditional (h : Room maxLevels maxConditions around
      (.conditional opener inner closer rest)) : Room maxLevels maxConditions around rest where
  levels := h.levels.mono (by simp only [Items.blockDepth]; omega)
  conditions := h.conditions.mono (by simp only [Items.conditionDepth]; omega)

theorem inSource {directory : Text} (h : Room maxLevels maxConditions around
      (.source line directory inner rest)) :
    Room maxLevels maxConditions (around.inFile directory) inner where
  levels := h.levels.mono (by
    simp only [Items.blockDepth, Surroundings.inFile]
    omega)
  conditions := h.conditions.mono (by
    simp only [Items.conditionDepth, Surroundings.inFile]
    omega)

theorem pastSource {directory : Text} (h : Room maxLevels maxConditions around
      (.source line directory inner rest)) : Room maxLevels maxConditions around rest where
  levels := h.levels.mono (by simp only [Items.blockDepth]; omega)
  conditions := h.conditions.mono (by simp only [Items.conditionDepth]; omega)

end Room

/-- From any place with room for them, the walk on the lines of items comes to the lines after them,
stands where the items end, and has written their rendering. -/
def Renders (ctx : WalkContext) (maxLevels maxConditions : Limit) (showInternal : Bool)
    (fileName : Text) (items : Items) : Prop :=
  ∀ {depth : Nat} {around : Surroundings} {taken : Taken} {s : WalkState} {after : List Line},
    items.fileDepth ≤ depth → Stands maxLevels maxConditions showInternal around taken s →
    Room maxLevels maxConditions around items → Line.NoAttributeFirst after →
    ∃ t, blockLines ctx (file ctx depth) around.directory (items.lines ++ after) s =
        blockLines ctx (file ctx depth) around.directory after t ∧
      Stands maxLevels maxConditions showInternal around
        (taken.past showInternal around.choices items) t ∧
      Wrote s t (items.rendering showInternal fileName around taken)

section Cases

variable {inner rest : Items} {fileName : Text}

theorem renders_config (hname : ctx.layout.fileName.shown = .ok name) {line : Line}
    {attributes : List Line} (h : (Items.config line attributes rest).WellFormed ctx)
    (ih : Renders ctx maxLevels maxConditions showInternal name.inName rest) :
    Renders ctx maxLevels maxConditions showInternal name.inName (.config line attributes rest) := by
  intro depth around taken s after hdepth hs hroom hafter
  obtain ⟨hline, hattributes, hrest⟩ := h
  have hfirst := hrest.noAttributeFirst hafter
  have hturn : line.turn = .onward := by simp [Line.turn, hline.1]
  obtain ⟨t, ht, htstands, htwrote⟩ := config_step ctx (file ctx depth) hline hattributes hfirst
    (Layout.filePath_eq hname around.directory) hs
  obtain ⟨u, hu, hustands, huwrote⟩ := ih hdepth htstands ⟨hroom.levels, hroom.conditions⟩ hafter
  refine ⟨u, ?_, ?_, htwrote.trans huwrote⟩
  · rw [← hu, Items.lines, List.cons_append, List.append_assoc, blockLines_onward hturn ht,
      Line.behind, if_pos hline, Line.dropWhile_attributes hattributes hfirst]
  · rw [Taken.past_config]
    exact hustands

theorem renders_ignored {line : Line} {attributes : List Line}
    (h : (Items.ignored line attributes rest).WellFormed ctx)
    (ih : Renders ctx maxLevels maxConditions showInternal fileName rest) :
    Renders ctx maxLevels maxConditions showInternal fileName (.ignored line attributes rest) := by
  intro depth around taken s after hdepth hs hroom hafter
  obtain ⟨hline, hattributes, -⟩ := h
  obtain ⟨t, ht, htstands, htwrote⟩ := ignored_step ctx (file ctx depth) around.directory
    (.inl hline) hs (attributes ++ (rest.lines ++ after))
  obtain ⟨u, hu, hustands, huwrote⟩ := attributes_step ctx (file ctx depth) around.directory
    hattributes htstands (rest.lines ++ after)
  obtain ⟨v, hv, hvstands, hvwrote⟩ := ih hdepth hustands ⟨hroom.levels, hroom.conditions⟩ hafter
  refine ⟨v, ?_, hvstands, htwrote.trans (huwrote.trans hvwrote)⟩
  rw [← hv, ← hu, ← ht, Items.lines, List.cons_append, List.append_assoc]

theorem renders_block {kind : BlockKind} {opener closer : Line}
    (h : (Items.block kind opener inner closer rest).WellFormed ctx)
    (ihinner : Renders ctx maxLevels maxConditions showInternal fileName inner)
    (ihrest : Renders ctx maxLevels maxConditions showInternal fileName rest) :
    Renders ctx maxLevels maxConditions showInternal fileName
      (.block kind opener inner closer rest) := by
  intro depth around taken s after hdepth hs hroom hafter
  obtain ⟨hopener, hcloser, -, -⟩ := h
  have hfirst : Line.NoAttributeFirst (closer :: (rest.lines ++ after)) :=
    Line.noAttributeFirst_cons.2
      (Line.isAttribute_of_keyword hcloser (by cases kind <;> simp [BlockKind.closing]))
  have hlevel : maxLevels.reached (around.outer.length + 1) = .ok false :=
    hroom.levels _ (by simp only [Items.blockDepth]; omega)
  obtain ⟨t, ht, htstands, htwrote⟩ := opening_step ctx (file ctx depth) around.directory hopener
    hs hlevel (inner.lines ++ closer :: (rest.lines ++ after))
  obtain ⟨u, hu, hustands, huwrote⟩ := ihinner (Nat.le_trans (Nat.le_max_left _ _) hdepth) htstands
    (hroom.inBlock taken) hfirst
  obtain ⟨v, hv, hvstands, hvwrote⟩ := closing_step ctx (file ctx depth) around.directory hcloser
    hustands (rest.lines ++ after)
  obtain ⟨w, hw, hwstands, hwwrote⟩ := ihrest (Nat.le_trans (Nat.le_max_right _ _) hdepth) hvstands
    hroom.pastBlock hafter
  refine ⟨w, ?_, ?_, ((htwrote.trans huwrote).trans hvwrote).trans hwwrote⟩
  · rw [← hw, Items.lines, List.cons_append, List.append_assoc, List.cons_append]
    exact blockLines_block hopener hcloser ht hu hv
  · rw [Taken.past_block]
    exact hwstands

theorem renders_conditional {opener closer : Line}
    (h : (Items.conditional opener inner closer rest).WellFormed ctx)
    (ihinner : Renders ctx maxLevels maxConditions showInternal fileName inner)
    (ihrest : Renders ctx maxLevels maxConditions showInternal fileName rest) :
    Renders ctx maxLevels maxConditions showInternal fileName
      (.conditional opener inner closer rest) := by
  intro depth around taken s after hdepth hs hroom hafter
  obtain ⟨hopener, hcloser, -, -⟩ := h
  have hfirst : Line.NoAttributeFirst (closer :: (rest.lines ++ after)) :=
    Line.noAttributeFirst_cons.2 (Line.isAttribute_of_keyword hcloser (by simp))
  have hopenerPlain : opener.turn = .onward ∧ ¬opener.declares := by
    simp [Line.turn, Line.declares, hopener]
  have hcloserPlain : closer.turn = .onward ∧ ¬closer.declares := by
    simp [Line.turn, Line.declares, hcloser]
  have hheight : maxConditions.reached around.conditions.length = .ok false :=
    hroom.conditions _ (by simp only [Items.conditionDepth]; omega)
  obtain ⟨t, ht, htstands, htwrote⟩ := if_step ctx (file ctx depth) around.directory hopener hs
    hheight (inner.lines ++ closer :: (rest.lines ++ after))
  obtain ⟨u, hu, hustands, huwrote⟩ := ihinner (Nat.le_trans (Nat.le_max_left _ _) hdepth) htstands
    (hroom.inConditional opener.rest) hfirst
  obtain ⟨v, hv, hvstands, hvwrote⟩ := endIf_step ctx (file ctx depth) around.directory hcloser
    hustands (rest.lines ++ after)
  obtain ⟨w, hw, hwstands, hwwrote⟩ := ihrest (Nat.le_trans (Nat.le_max_right _ _) hdepth) hvstands
    hroom.pastConditional hafter
  refine ⟨w, ?_, ?_, htwrote.trans (huwrote.trans (hvwrote.trans hwwrote))⟩
  · rw [← hw, Items.lines, List.cons_append, List.append_assoc, List.cons_append,
      blockLines_plain hopenerPlain ht, ← blockLines_plain hcloserPlain hv]
    exact hu
  · rw [Taken.past_conditional]
    exact hwstands

/-- One file less may be open inside the file that is sourced. -/
theorem renders_source {line : Line} {directory : Text}
    (h : (Items.source line directory inner rest).WellFormed ctx)
    (ihinner : Renders ctx maxLevels maxConditions showInternal fileName inner)
    (ihrest : Renders ctx maxLevels maxConditions showInternal fileName rest) :
    Renders ctx maxLevels maxConditions showInternal fileName
      (.source line directory inner rest) := by
  intro depth around taken s after hdepth hs hroom hafter
  obtain ⟨hline, htarget, hreads, -, -⟩ := h
  have hplain : line.turn = .onward ∧ ¬line.declares := by
    simp [Line.turn, Line.declares, hline]
  obtain ⟨depth, rfl⟩ : ∃ d, depth = d + 1 :=
    ⟨depth - 1, by simp only [Items.fileDepth] at hdepth; omega⟩
  have hshallow : inner.fileDepth ≤ depth := by
    simp only [Items.fileDepth] at hdepth
    omega
  have hnone : Line.NoAttributeFirst [] := by simp [Line.NoAttributeFirst]
  obtain ⟨record, heffect⟩ := source_step ctx (file ctx (depth + 1)) around.directory s hline
    htarget (rest.lines ++ after)
  obtain ⟨t, ht, htstands, htwrote⟩ := openFile_step ctx directory hreads
    ((hs.note record).inFile directory)
  obtain ⟨u, hu, hustands, huwrote⟩ := ihinner hshallow htstands hroom.inSource hnone
  have hfile : file ctx (depth + 1) directory (s.note record) = .ok () u := by
    rw [List.append_nil, blockLines_nil] at hu
    exact file_of_blockLines ht hu
  have hback : Stands maxLevels maxConditions showInternal around
      (taken.past showInternal around.choices inner) u := hustands.inFile around.directory
  obtain ⟨w, hw, hwstands, hwwrote⟩ := ihrest (Nat.le_trans (Nat.le_max_right _ _) hdepth) hback
    hroom.pastSource hafter
  have hnoted : Wrote s t .empty := ⟨htwrote.toc, htwrote.body⟩
  refine ⟨w, ?_, ?_, (hnoted.trans huwrote).trans hwwrote⟩
  · rw [← hw, Items.lines, List.cons_append, blockLines_plain hplain (heffect.trans hfile)]
  · rw [Taken.past_source]
    exact hwstands

end Cases

/-- Well-formed items are rendered, by induction on the items: what is around an item is what the
state knows, and what is taken before it has been counted by the state. -/
theorem renders_items (hname : ctx.layout.fileName.shown = .ok name) {items : Items}
    (h : items.WellFormed ctx) :
    Renders ctx maxLevels maxConditions showInternal name.inName items := by
  induction items with
  | nil =>
      intro depth around taken s after _ hs _ _
      exact ⟨s, rfl, hs, .nothing rfl rfl⟩
  | config line attributes rest ih => exact renders_config hname h (ih h.2.2)
  | ignored line attributes rest ih => exact renders_ignored h (ih h.2.2)
  | block kind opener inner closer rest ihinner ihrest =>
      exact renders_block h (ihinner h.2.2.1) (ihrest h.2.2.2)
  | conditional opener inner closer rest ihinner ihrest =>
      exact renders_conditional h (ihinner h.2.2.1) (ihrest h.2.2.2)
  | source line directory inner rest ihinner ihrest =>
      exact renders_source h (ihinner h.2.2.2.1) (ihrest h.2.2.2.2)

/-- The walk of a file with well-formed items. -/
theorem file_items (hname : ctx.layout.fileName.shown = .ok name) {items : Items}
    (h : items.WellFormed ctx) {depth : Nat} (hdepth : items.fileDepth ≤ depth)
    {around : Surroundings} {taken : Taken} {s : WalkState}
    (hreads : ctx.Reads around.directory items.lines)
    (hs : Stands maxLevels maxConditions showInternal around taken s)
    (hroom : Room maxLevels maxConditions around items) :
    ∃ t, file ctx (depth + 1) around.directory s = .ok () t ∧
      Stands maxLevels maxConditions showInternal around
        (taken.past showInternal around.choices items) t ∧
      Wrote s t (items.rendering showInternal name.inName around taken) := by
  have hnone : Line.NoAttributeFirst [] := by simp [Line.NoAttributeFirst]
  obtain ⟨t, ht, htstands, htwrote⟩ := openFile_step ctx around.directory hreads hs
  obtain ⟨u, hu, hustands, huwrote⟩ := renders_items hname h hdepth htstands hroom hnone
  rw [List.append_nil, blockLines_nil] at hu
  exact ⟨u, file_of_blockLines ht hu, hustands, htwrote.trans huwrote⟩

/-- A run on a well-formed tree, within its limits, ends, and has written the link and the heading
of the root, the rendering of the tree, and the end of the table of contents. No block, choice or
condition is left open. A document carries the texts of these items. -/
theorem run_renders (hname : ctx.layout.fileName.shown = .ok name) {banner : Text}
    (hbanner : ctx.bannerText = .ok banner) (root : Option Text) {items : Items}
    (hitems : items.WellFormed ctx) (hreads : ctx.Reads (startDirectory ctx root) items.lines)
    (hlevels : maxLevels.Admits (items.blockDepth + 1))
    (hconditions : maxConditions.Admits items.conditionDepth) (showInternal : Bool) :
    let rendering := items.rendering showInternal name.inName
      ⟨startDirectory ctx root, [], [], 0⟩ ⟨0, 1, 0⟩
    let toc : List TocItem :=
      .block (Anchor.menu 0) [1] banner :: (rendering.toc ++ [.closeList])
    let body : List BodyItem := .menu (Anchor.menu 0) [1] banner :: rendering.body
    ∃ s, run ctx root (.fresh maxLevels maxConditions showInternal) = .ok () s ∧
      s.toc.toList = toc ∧ s.body.toList = body ∧
      s.nesting.level = 1 ∧ s.nesting.inChoice = 0 ∧ s.conditions.height = 0 ∧
      ∀ maxSize, ∃ d,
        (do Document.openStaging none; Reference.draft s) (.fresh maxSize) = .ok () d ∧
          d.Carries (toc.map TocItem.text) (body.map BodyItem.text) := by
  intro rendering toc body
  let around : Surroundings := ⟨startDirectory ctx root, [], [], 0⟩
  let start := WalkState.rooted maxLevels maxConditions showInternal banner
  have hstart : Stands maxLevels maxConditions showInternal around ⟨0, 1, 0⟩ start :=
    ⟨rfl, rfl, rfl⟩
  have hroot : openRoot ctx (.fresh maxLevels maxConditions showInternal) = .ok () start := by
    rw [openRoot_fresh, hlevels 0 (Nat.succ_pos _), hbanner]
  obtain ⟨depth, hdepth⟩ := Nat.exists_eq_succ_of_ne_zero
    (Nat.ne_of_gt (Nat.zero_lt_of_lt (hitems.fileDepth_lt_depthBound hreads start)))
  have hshallow : items.fileDepth ≤ depth := by
    have := hitems.fileDepth_lt_depthBound hreads start
    omega
  have hroom : Room maxLevels maxConditions around items :=
    ⟨hlevels.mono (by simp [around]; omega), hconditions.mono (by simp [around])⟩
  obtain ⟨t, ht, hstands, hwrote⟩ := file_items hname hitems hshallow hreads hstart hroom
  have hwalk : processFile ctx (startDirectory ctx root) start = .ok () t := by
    simp only [processFile, bind_apply, get_apply, hdepth]
    exact ht
  have htoc : t.closed.toc.toList = toc := by
    simp [WalkState.closed, WalkState.writeToc, hwrote.toc, start, WalkState.rooted, toc,
      rendering, around]
  have hbody : t.closed.body.toList = body := by
    simp [WalkState.closed, WalkState.writeToc, hwrote.body, start, WalkState.rooted, body,
      rendering, around]
  refine ⟨t.closed, ?_, htoc, hbody, ?_, ?_, ?_, fun maxSize => ?_⟩
  · rw [run_apply, hroot]
    simp only [hwalk]
  · exact hstands.level_eq
  · exact congrArg Nesting.inChoice hstands.nesting
  · exact congrArg Conditions.height hstands.conditions
  · rw [← htoc, ← hbody]
    exact Reference.exists_carries t.closed maxSize

/-- A tree of two files: a menu with an entry, and a choice in a file that is sourced. -/
def sampleContext : WalkContext where
  tree :=
    { root := .directory
        [("Kconfig", .file (Utf8.encode
            "menu \"A\"\nconfig X\n\tbool \"x\"\nendmenu\nsource \"d/Kconfig\"\n")),
          ("d", .directory
            [("Kconfig", .file (Utf8.encode "choice\nconfig Y\nbool \"y\"\nendchoice\n"))])]
      home := [] }
  layout := ⟨".", .text "apps".toList, .text "@".toList, .text "Kconfig".toList⟩
  lineSize := .characters 80
  banner := .text "B".toList

/-- The items of the file that is sourced. -/
def sampleChoice : Items :=
  .block .choice ⟨"choice", "./d/Kconfig", 1⟩
    (.config ⟨"config Y", "./d/Kconfig", 2⟩ [⟨"bool \"y\"", "./d/Kconfig", 3⟩] .nil)
    ⟨"endchoice", "./d/Kconfig", 4⟩ .nil

def sampleItems : Items :=
  .block .menu ⟨"menu \"A\"", "./Kconfig", 1⟩
    (.config ⟨"config X", "./Kconfig", 2⟩ [⟨"bool \"x\"", "./Kconfig", 3⟩] .nil)
    ⟨"endmenu", "./Kconfig", 4⟩
    (.source ⟨"source \"d/Kconfig\"", "./Kconfig", 5⟩ "./d" sampleChoice .nil)

theorem reads_sample : sampleContext.Reads "." sampleItems.lines where
  nameable := by decide
  found := by
    refine ⟨"./Kconfig", "menu \"A\"\nconfig X\n\tbool \"x\"\nendmenu\nsource \"d/Kconfig\"\n", 80,
      rfl, by rfl, rfl, by decide +kernel, by decide +kernel⟩

theorem reads_sampleChoice : sampleContext.Reads "./d" sampleChoice.lines where
  nameable := by decide
  found := ⟨"./d/Kconfig", "choice\nconfig Y\nbool \"y\"\nendchoice\n", 80, rfl, by rfl, rfl,
    by decide +kernel, by decide +kernel⟩

theorem wellFormed_sample : sampleItems.WellFormed sampleContext := by
  have hleads : sampleContext.LeadsTo ⟨"source \"d/Kconfig\"", "./Kconfig", 5⟩ "./d" :=
    ⟨_, by rfl, by rfl, by rfl⟩
  have hchoice : sampleChoice.WellFormed sampleContext := by
    refine ⟨by decide, by decide, ⟨by decide, ?_, trivial⟩, trivial⟩
    simp only [List.mem_singleton, forall_eq]
    decide
  refine ⟨by decide, by decide, ⟨by decide, ?_, trivial⟩, by decide, hleads, reads_sampleChoice,
    hchoice, trivial⟩
  simp only [List.mem_singleton, forall_eq]
  decide

/-- The reference of the two files, with the entry of the choice in the body only. -/
theorem run_renders_sample :
    sampleItems.WellFormed sampleContext ∧ sampleContext.Reads "." sampleItems.lines ∧
      (Limit.count 2).Admits (sampleItems.blockDepth + 1) ∧
      (Limit.count 0).Admits sampleItems.conditionDepth ∧
      ∃ s, run sampleContext none (.fresh (.count 2) (.count 0) false) = .ok () s ∧
        s.toc.toList =
          [.block (Anchor.menu 0) [1] "B", .block (Anchor.menu 1) [1] "Menu: A", .openList,
            .config ⟨"X", ".", some .boolean, some "x", none, false, []⟩ [1, 1], .closeList,
            .block (Anchor.choice 0) [2] "Choice", .closeList] ∧
        s.body.toList.filterMap (fun
          | .config entry number => some (entry.name, number)
          | _ => none) = [("X".toList, some [1, 1]), ("Y".toList, none)] := by
  have hlevels : (Limit.count 2).Admits (sampleItems.blockDepth + 1) :=
    Limit.admits_count.2 (by decide)
  have hconditions : (Limit.count 0).Admits sampleItems.conditionDepth :=
    Limit.admits_count.2 (by decide)
  have hname : sampleContext.layout.fileName.shown = .ok "Kconfig".toList := rfl
  obtain ⟨s, hs, htoc, hbody, -⟩ := run_renders hname rfl none wellFormed_sample reads_sample
    hlevels hconditions false
  refine ⟨wellFormed_sample, reads_sample, hlevels, hconditions, s, hs, ?_, ?_⟩
  · rw [htoc]
    rfl
  · rw [hbody]
    rfl

end Walk

end KconfigReference
