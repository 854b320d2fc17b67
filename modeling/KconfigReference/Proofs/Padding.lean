import KconfigReference.Proofs.Inlining
import KconfigReference.Proofs.Walk.Recorded
import KconfigReference.Proofs.Walk.Renumbering

/-!
Lines that make no difference. A line that asks for nothing is passed over, and an entry that is not
shown leaves no trace; neither takes attribute lines away from an entry or hands over its own. Main
statement: a run on a tree with such lines added in any places writes the same reference, and where
it fails, it fails for the same reason.
-/

namespace KconfigReference

namespace Line

/-- Whether a line, unless an entry takes it, has no effect: it asks for nothing, or it is a source
line without an argument. -/
def IsInert (line : Line) : Prop :=
  line.IsIdle ∨ line.keyword? = some .source ∧ Layout.dequote (Text.firstWord line.rest) = none

instance (line : Line) : Decidable line.IsInert := by unfold IsInert IsIdle; infer_instance

/-- Whether a line is an attribute line that does not say how an entry is described. -/
def isPromptless (line : Line) : Bool :=
  match line.attribute? with
  | some (.type _ prompt) => prompt.getD [] = []
  | found => found.isSome

variable {line : Line}

theorem IsInert.turn_eq (h : line.IsInert) : line.turn = .onward := by
  rcases h with hidle | ⟨hk, -⟩
  · exact hidle.turn_eq
  · simp [turn, hk]

theorem IsInert.not_declares (h : line.IsInert) : ¬line.declares := by
  rcases h with hidle | ⟨hk, -⟩
  · exact hidle.not_declares
  · rintro ⟨hk', -⟩
    simp [hk] at hk'

theorem IsInert.target?_eq_none (h : line.IsInert) (ctx : WalkContext) :
    ctx.target? line = none := by
  rcases h with hidle | ⟨hk, hnone⟩
  · exact WalkContext.target?_of_ne (hidle.keyword?_ne (by simp))
  · simp [WalkContext.target?, hk, Layout.resolve, hnone]

theorem isAttribute_of_isPromptless (h : line.isPromptless = true) : line.isAttribute = true := by
  unfold isPromptless at h
  unfold isAttribute
  split at h
  next hfound => rw [hfound, Option.isSome_some]
  next => exact h

/-- Attribute lines without a prompt leave an entry without a description. -/
theorem isHidden_withLines {entry : Entry} {lines : List Line} (hentry : entry.isHidden = true)
    (hlines : ∀ line ∈ lines, line.isPromptless = true) :
    (entry.withLines lines).isHidden = true := by
  induction lines generalizing entry with
  | nil => exact hentry
  | cons line rest ih =>
      have hline := hlines line List.mem_cons_self
      obtain ⟨found, hfound⟩ := Option.isSome_iff_exists.1 (isAttribute_of_isPromptless hline)
      rw [Entry.withLines_cons hfound]
      apply ih
      · cases found with
        | type type prompt =>
            have hprompt : prompt.getD [] = [] := by simpa [isPromptless, hfound] using hline
            simpa [Entry.set, hprompt, Entry.isHidden] using hentry
        | default value => exact hentry
        | help => exact hentry
      · exact fun other hother => hlines other (List.mem_cons_of_mem _ hother)

end Line

/-- Lines of which nothing is seen: lines without effect and, where hidden entries are not shown,
entries that are hidden. -/
inductive Invisible (showInternal : Bool) : List Line → Prop where
  | nil : Invisible showInternal []
  | inert {line : Line} {rest : List Line} (hline : line.IsInert)
      (hrest : Invisible showInternal rest) : Invisible showInternal (line :: rest)
  | hidden {line : Line} {attributes rest : List Line} (hshow : showInternal = false)
      (hline : line.declares) (hattributes : ∀ a ∈ attributes, a.isPromptless = true)
      (hfirst : Line.NoAttributeFirst rest) (hrest : Invisible showInternal rest) :
      Invisible showInternal (line :: (attributes ++ rest))

/-- The second lines are the first under other numbers, with lines added of which nothing is seen.
Neither the lines added nor those after them begin with an attribute line; but a help line may be
given again. -/
inductive Padded (showInternal : Bool) : List Line → List Line → Prop where
  | nil : Padded showInternal [] []
  | line (line : Line) (number : Nat) {after after' : List Line}
      (hafter : Padded showInternal after after') :
      Padded showInternal (line :: after) (line.renumber number :: after')
  | again {line : Line} (number : Nat) {repeated after after' : List Line}
      (hline : line.attribute? = some .help)
      (hrepeated : ∀ a ∈ repeated, a.attribute? = some .help)
      (hafter : Padded showInternal after after') :
      Padded showInternal (line :: after) (line.renumber number :: (repeated ++ after'))
  | extra {extra after after' : List Line} (hextra : Invisible showInternal extra)
      (hfirst : Line.NoAttributeFirst extra) (hnext : Line.NoAttributeFirst after)
      (hafter : Padded showInternal after after') : Padded showInternal after (extra ++ after')

section Padded

variable {showInternal : Bool} {lines lines' : List Line}

/-- Nothing of the lines that are added goes to an entry above them. -/
theorem Padded.noAttributeFirst (h : Padded showInternal lines lines')
    (hlines : Line.NoAttributeFirst lines) : Line.NoAttributeFirst lines' := by
  induction h with
  | nil => exact hlines
  | line line number hafter ih =>
      rw [Line.noAttributeFirst_cons] at hlines ⊢
      exact hlines
  | again number hline hrepeated hafter ih =>
      rw [Line.noAttributeFirst_cons] at hlines ⊢
      exact hlines
  | extra hextra hfirst hnext hafter ih => exact Line.noAttributeFirst_append hfirst (ih hnext)

/-- Help may be asked for again. -/
theorem Entry.withLines_again {repeated : List Line}
    (hrepeated : ∀ a ∈ repeated, a.attribute? = some .help) (entry : Entry) (lines : List Line) :
    (entry.set .help).withLines (repeated ++ lines) = (entry.set .help).withLines lines := by
  induction repeated with
  | nil => rfl
  | cons first rest ih =>
      have hfirst := hrepeated first List.mem_cons_self
      rw [List.cons_append, withLines_cons hfirst]
      exact ih fun a ha => hrepeated a (List.mem_cons_of_mem _ ha)

/-- What attribute lines say of an entry stays the same. -/
theorem Padded.withLines (h : Padded showInternal lines lines') (entry : Entry) :
    entry.withLines (lines'.takeWhile Line.isAttribute) =
      entry.withLines (lines.takeWhile Line.isAttribute) := by
  induction h generalizing entry with
  | nil => rfl
  | line line number hafter ih =>
      rw [List.takeWhile_cons, List.takeWhile_cons, Line.isAttribute_renumber]
      split
      next hattribute =>
        obtain ⟨found, hfound⟩ := Option.isSome_iff_exists.1 hattribute
        have hmoved : (line.renumber number).attribute? = some found := hfound
        rw [Entry.withLines_cons hfound, Entry.withLines_cons hmoved, ih]
      next => rfl
  | @again line number repeated after after' hline hrepeated hafter ih =>
      have hmoved : (line.renumber number).attribute? = some .help := hline
      have hattribute : line.isAttribute = true := by simp [Line.isAttribute, hline]
      have hattributes : ∀ a ∈ repeated, a.isAttribute = true := by
        intro a ha
        simp [Line.isAttribute, hrepeated a ha]
      rw [List.takeWhile_cons_of_pos hattribute, List.takeWhile_cons_of_pos (by exact hattribute),
        List.takeWhile_append_of_pos hattributes, Entry.withLines_cons hline,
        Entry.withLines_cons hmoved, Entry.withLines_again hrepeated, ih]
  | @extra extra after after' hextra hfirst hnext hafter ih =>
      have hnone : ∀ {lines : List Line}, Line.NoAttributeFirst lines →
          lines.takeWhile Line.isAttribute = [] := by
        intro lines hlines
        cases lines with
        | nil => rfl
        | cons first rest => simp [Line.noAttributeFirst_cons.1 hlines]
      have hadded := Line.noAttributeFirst_append hfirst (hafter.noAttributeFirst hnext)
      rw [hnone hadded, hnone hnext]

end Padded

section Inserting

variable {showInternal : Bool} {path : Text} {room : Nat}

/-- Lines of a text that comes later have greater numbers. -/
theorem readLines_append (path : Text) (room : Nat) (before after : List Text) :
    readLines path room (before ++ after) =
      readLines path room before ++ (readLines path room after).map fun line =>
        line.renumber (line.number + before.length) := by
  let linesOf (place : Text × Nat) : List Line := linesOfPhysical path room place.2 place.1
  have hread (physicals : List Text) :
      readLines path room physicals = (physicals.zipIdx 1).flatMap linesOf := rfl
  have hshift : ∀ start, (after.zipIdx (start + before.length)).flatMap linesOf =
      ((after.zipIdx start).flatMap linesOf).map fun line =>
        line.renumber (line.number + before.length) := by
    induction after with
    | nil => exact fun _ => rfl
    | cons physical rest ih =>
        intro start
        rw [List.zipIdx_cons, List.zipIdx_cons, List.flatMap_cons, List.flatMap_cons,
          List.map_append, ← ih (start + 1), Nat.add_right_comm start 1]
        congr 1
        show linesOfPhysical _ _ _ _ = (linesOfPhysical _ _ _ _).map _
        unfold linesOfPhysical
        rw [List.map_filterMap]
        apply List.filterMap_congr
        intro text _
        split <;> rfl
  rw [hread, hread, hread, List.zipIdx_append, List.flatMap_append, hshift 1]

theorem Line.noAttributeFirst_renumber {lines : List Line} (h : NoAttributeFirst lines)
    (number : Line → Nat) : NoAttributeFirst (lines.map fun line => line.renumber (number line)) := by
  cases lines with
  | nil => exact h
  | cons line rest =>
      rw [noAttributeFirst_cons] at h
      rw [List.map_cons, noAttributeFirst_cons]
      exact h

theorem Invisible.renumber {lines : List Line} (h : Invisible showInternal lines)
    (number : Line → Nat) :
    Invisible showInternal (lines.map fun line => line.renumber (number line)) := by
  induction h with
  | nil => exact .nil
  | inert hline _ ih => exact .inert hline ih
  | @hidden line attributes rest hshow hline hattributes hfirst _ ih =>
      have hmoved : (line.renumber (number line)).declares := hline
      rw [List.map_cons, List.map_append]
      apply Invisible.hidden hshow hmoved _ (Line.noAttributeFirst_renumber hfirst number) ih
      intro a ha
      obtain ⟨original, horiginal, rfl⟩ := List.mem_map.1 ha
      exact hattributes original horiginal

/-- Lines under two numbers are the same lines. -/
theorem Padded.renumber (lines : List Line) (number number' : Line → Nat) :
    Padded showInternal (lines.map fun line => line.renumber (number line))
      (lines.map fun line => line.renumber (number' line)) := by
  induction lines with
  | nil => exact .nil
  | cons line rest ih => exact .line (line.renumber (number line)) (number' line) ih

theorem Padded.append_left {after after' : List Line} (h : Padded showInternal after after')
    (before : List Line) : Padded showInternal (before ++ after) (before ++ after') := by
  induction before with
  | nil => exact h
  | cons line rest ih => exact .line line line.number ih

/-- Text of which nothing is seen may be put in between two lines, if the second is no attribute
line. -/
theorem padded_insert {before extra after : Text} (hbefore : Text.EndsLine before)
    (hextra : Text.EndsLine extra)
    (hinvisible : Invisible showInternal (readLines path room (Text.physicalLines extra)))
    (hfirst : Line.NoAttributeFirst (readLines path room (Text.physicalLines extra)))
    (hnext : Line.NoAttributeFirst (readLines path room (Text.physicalLines after))) :
    Padded showInternal (readLines path room (Text.physicalLines (before ++ after)))
      (readLines path room (Text.physicalLines (before ++ (extra ++ after)))) := by
  rw [hbefore.physicalLines_append, hbefore.physicalLines_append, hextra.physicalLines_append,
    readLines_append, readLines_append, readLines_append, List.map_append, List.map_map]
  apply Padded.append_left
  apply Padded.extra (hinvisible.renumber _) (Line.noAttributeFirst_renumber hfirst _)
    (Line.noAttributeFirst_renumber hnext _)
  exact .renumber _ _ _

/-- So may it in the contents of a file. -/
theorem WalkContext.cutBy_insert {ctx : WalkContext} {size : Int} {content content' : Bytes}
    {before extra after : Text} (hsize : ctx.lineSize = .characters size)
    (hcontent : Text.normalizeLineEndings (Utf8.decodeLenient content) = before ++ after)
    (hcontent' : Text.normalizeLineEndings (Utf8.decodeLenient content') =
      before ++ (extra ++ after))
    (hbefore : Text.EndsLine before) (hextra : Text.EndsLine extra)
    (hinvisible : ∀ path,
      Invisible showInternal (readLines path (lineRoom size) (Text.physicalLines extra)))
    (hfirst : ∀ path,
      Line.NoAttributeFirst (readLines path (lineRoom size) (Text.physicalLines extra)))
    (hnext : ∀ path,
      Line.NoAttributeFirst (readLines path (lineRoom size) (Text.physicalLines after))) :
    ctx.CutBy (Padded showInternal) content content' := by
  intro path
  rw [WalkContext.cut, WalkContext.cut, hcontent, hcontent', hsize]
  exact padded_insert hbefore hextra (hinvisible path) (hfirst path) (hnext path)

end Inserting

namespace Walk

section Silence

variable {ctx : WalkContext} {showInternal : Bool} {directory : Text} {line : Line}

theorem silent_note (record : LogRecord) : Silent showInternal (note record) :=
  fun s _ => ⟨s.log.push record, rfl⟩

theorem silent_of_isInert (h : line.IsInert) (after : List Line) :
    Silent showInternal (effect ctx (fun _ => pure ()) directory line after) := by
  rcases h with hidle | ⟨hk, hnone⟩
  · obtain ⟨record, hrecord⟩ := effect_of_isIdle after hidle
    rw [hrecord]
    exact silent_note record
  · intro s _
    have hresolve : ctx.layout.resolve (Text.firstWord line.rest) = .ok none := by
      rw [Layout.resolve, hnone]
    refine ⟨s.log.push (.debug (remark line "empty source directive skipped")), ?_⟩
    simp only [effect_source after hk, sourceLine, hresolve, mapError_ok, bind_apply, lift_ok,
      debug_apply]
    rfl

/-- An entry that is hidden is not rendered. -/
theorem silent_of_hidden {attributes after : List Line} (hline : line.declares)
    (hattributes : ∀ a ∈ attributes, a.isPromptless = true)
    (hafter : Line.NoAttributeFirst after) :
    Silent false (effect ctx (fun _ => pure ()) directory line (attributes ++ after)) := by
  intro s hshow
  have htaken : ∀ a ∈ attributes, a.isAttribute = true := fun a ha =>
    Line.isAttribute_of_isPromptless (hattributes a ha)
  have hhidden :
      (line.entry directory s.conditions.inForce (attributes ++ after)).isHidden = true := by
    rw [Line.entry, Line.takeWhile_attributes htaken hafter]
    exact Line.isHidden_withLines rfl hattributes
  rw [effect_config _ hline]
  cases ((attributes ++ after).dropWhile Line.isAttribute).head? with
  | none =>
      refine ⟨_, renderEntry_of_hidden (s := s) ?_⟩
      simp [hhidden, hshow]
  | some ended =>
      refine ⟨_, renderEntry_of_hidden (s := s.note (unhandled ended)) ?_⟩
      have hnoted : (s.note (unhandled ended)).showInternal = false := hshow
      simp [hhidden, hnoted]

end Silence

section Passes

variable {ctx : WalkContext} {tree : FileTree} {lineSize : LineSize} {showInternal : Bool} {directory : Text}
  {below below' : Text → List Step} {m : Walk Unit} {opened : Nat} {line : Line} {after : List Line}

theorem dispatched_attributes {attributes : List Line}
    (hattributes : ∀ a ∈ attributes, a.isAttribute = true) (opened : Nat) (after : List Line) :
    dispatched true opened (attributes ++ after) = dispatched true opened after := by
  induction attributes with
  | nil => rfl
  | cons first rest ih =>
      have hfirst := hattributes first List.mem_cons_self
      rw [List.cons_append, dispatched, if_pos (by simpa using hfirst)]
      exact ih fun a ha => hattributes a (List.mem_cons_of_mem _ ha)

/-- A pass over a line without effect goes on like the pass over the lines after it. -/
theorem Shadows.pass_inert (hline : line.IsInert)
    (h : Shadows ctx.layout showInternal m
      (follow (ctx.reread tree lineSize) (passSteps (ctx.reread tree lineSize) below directory false opened after))) :
    Shadows ctx.layout showInternal m
      (follow (ctx.reread tree lineSize)
        (passSteps (ctx.reread tree lineSize) below directory false opened (line :: after))) := by
  have hsteps : passSteps (ctx.reread tree lineSize) below directory false opened (line :: after) =
      .line directory line after ::
        passSteps (ctx.reread tree lineSize) below directory false opened after := by
    simp [passSteps, dispatched, lineSteps, hline.turn_eq, hline.not_declares, Turn.count,
      hline.target?_eq_none]
  rw [hsteps, follow_cons]
  exact h.skip (silent_of_isInert hline after)

/-- So does a pass over lines of which nothing is seen, by induction on the lines. -/
theorem Shadows.pass_invisible {extra : List Line} (hextra : Invisible showInternal extra)
    (hafter : Line.NoAttributeFirst after)
    (h : Shadows ctx.layout showInternal m
      (follow (ctx.reread tree lineSize) (passSteps (ctx.reread tree lineSize) below directory false opened after))) :
    Shadows ctx.layout showInternal m
      (follow (ctx.reread tree lineSize)
        (passSteps (ctx.reread tree lineSize) below directory false opened (extra ++ after))) := by
  induction hextra with
  | nil => exact h
  | inert hline hrest ih => exact ih.pass_inert hline
  | @hidden line attributes rest hshow hline hattributes hfirst hrest ih =>
      -- The entry takes its attribute lines, so that the line after them is dispatched next.
      have hk : line.keyword? ≠ some .source := by simp [hline.1]
      have hturn : line.turn = .onward := by simp [Line.turn, hline.1]
      have htaken : ∀ a ∈ attributes, a.isAttribute = true := fun a ha =>
        Line.isAttribute_of_isPromptless (hattributes a ha)
      have hmore := Line.noAttributeFirst_append hfirst hafter
      have hsteps : passSteps (ctx.reread tree lineSize) below directory false opened
            (line :: (attributes ++ rest) ++ after) =
          .line directory line (attributes ++ (rest ++ after)) ::
            passSteps (ctx.reread tree lineSize) below directory false opened (rest ++ after) := by
        rw [List.cons_append, List.append_assoc, passSteps, dispatched]
        simp only [Bool.false_and, Bool.false_eq_true, if_false, hturn, Turn.count, hline,
          decide_true, dispatched_attributes htaken, dispatched_of_noAttributeFirst hmore,
          List.flatMap_cons, lineSteps, WalkContext.target?_of_ne hk, Option.elim_none]
        rfl
      subst hshow
      rw [hsteps, follow_cons]
      exact ih.skip (silent_of_hidden hline hattributes hmore)

theorem Shadows.pass_attributes {attributes : List Line}
    (hattributes : ∀ a ∈ attributes, a.isAttribute = true)
    (h : Shadows ctx.layout showInternal m
      (follow (ctx.reread tree lineSize) (passSteps (ctx.reread tree lineSize) below directory false opened after))) :
    Shadows ctx.layout showInternal m
      (follow (ctx.reread tree lineSize)
        (passSteps (ctx.reread tree lineSize) below directory false opened (attributes ++ after))) := by
  induction attributes with
  | nil => exact h
  | cons first rest ih =>
      have hfirst := hattributes first List.mem_cons_self
      have hrest := ih fun a ha => hattributes a (List.mem_cons_of_mem _ ha)
      exact hrest.pass_inert (.inl (.inr (.inl hfirst)))

/-- A line under another number does the same, and so do the files that it leads to. -/
theorem Shadows.lineSteps {after' : List Line} (number : Nat)
    (hentry : line.declares → ∀ conditions,
      line.entry directory conditions after' = line.entry directory conditions after)
    (hbelow : ∀ d, Shadows ctx.layout showInternal (follow ctx (below d))
      (follow (ctx.reread tree lineSize) (below' d))) :
    Shadows ctx.layout showInternal
      (follow ctx (Walk.lineSteps ctx below directory (line, after)))
      (follow (ctx.reread tree lineSize)
        (Walk.lineSteps (ctx.reread tree lineSize) below' directory (line.renumber number, after'))) := by
  have htarget : (ctx.reread tree lineSize).target? (line.renumber number) = ctx.target? line := rfl
  simp only [Walk.lineSteps, follow_cons, htarget]
  apply Shadows.bind
  · exact .renumbered number hentry
  · intro _
    cases ctx.target? line with
    | none => exact .pure ()
    | some target => exact hbelow target

/-- A pass over padded lines writes the same, if the files that are sourced are walked alike; by
induction on the lines and what was added to them. -/
theorem shadows_pass {lines lines' : List Line} (h : Padded showInternal lines lines')
    (hbelow : ∀ d, Shadows ctx.layout showInternal (follow ctx (below d))
      (follow (ctx.reread tree lineSize) (below' d))) (taking : Bool) (opened : Nat) :
    Shadows ctx.layout showInternal
      (follow ctx (passSteps ctx below directory taking opened lines))
      (follow (ctx.reread tree lineSize)
        (passSteps (ctx.reread tree lineSize) below' directory taking opened lines')) := by
  induction h generalizing taking opened with
  | nil => exact .pure ()
  | @line line number after after' hafter ih =>
      have hentry : line.declares → ∀ conditions,
          line.entry directory conditions after' = line.entry directory conditions after :=
        fun _ _ => hafter.withLines _
      rw [passSteps, passSteps, dispatched, dispatched, Line.isAttribute_renumber,
        Line.turn_renumber]
      split
      next => exact ih true opened
      next =>
        rw [List.flatMap_cons, List.flatMap_cons, follow_append, follow_append]
        apply Shadows.bind (.lineSteps number hentry hbelow)
        intro _
        cases line.turn.count opened with
        | none => exact .pure ()
        | some next => exact ih (decide line.declares) next
  | @again line number repeated after after' hline hrepeated hafter ih =>
      have hattribute : ∀ {line : Line},
          line.attribute? = some .help → line.isAttribute = true := by
        intro line hhelp
        simp [Line.isAttribute, hhelp]
      have hattributes : ∀ a ∈ repeated, a.isAttribute = true := fun a ha =>
        hattribute (hrepeated a ha)
      rw [passSteps, passSteps, dispatched, dispatched, Line.isAttribute_renumber,
        Line.turn_renumber, hattribute hline]
      -- Either an entry takes all of these lines, or each is dispatched and passed over.
      cases taking with
      | true =>
          simp only [Bool.and_self, if_true, dispatched_attributes hattributes]
          exact ih true opened
      | false =>
          have hidle : line.IsIdle := .inr (.inl (hattribute hline))
          have hdeclares : ¬line.declares := hidle.not_declares
          simp only [Bool.false_and, Bool.false_eq_true, if_false, hidle.turn_eq, Turn.count,
            Line.declares_renumber, hdeclares, decide_false, List.flatMap_cons, follow_append]
          apply Shadows.bind (.lineSteps number (fun h => absurd h hdeclares) hbelow)
          intro _
          exact (ih false opened).pass_attributes hattributes
  | @extra extra after after' hextra hfirst hnext hafter ih =>
      have hmore := hafter.noAttributeFirst hnext
      have hadded := Line.noAttributeFirst_append hfirst hmore
      have hpass := ih false opened
      have hadding := hpass.pass_invisible hextra hmore
      rw [passSteps, passSteps] at hadding ⊢
      rw [dispatched_of_noAttributeFirst hnext, dispatched_of_noAttributeFirst hadded]
      exact hadding

/-- The walk of a file whose lines are padded writes the same, by induction on how many files may be
open. -/
theorem shadows_itinerary
    (hpaths : ∀ path, LinesAlike ctx (ctx.reread tree lineSize) (Padded showInternal) path) (depth : Nat)
    (directory : Text) :
    Shadows ctx.layout showInternal (follow ctx (itinerary ctx depth directory))
      (follow (ctx.reread tree lineSize) (itinerary (ctx.reread tree lineSize) depth directory)) := by
  have hsteady := steady_showInternal ctx showInternal
  induction depth generalizing directory with
  | zero => exact .of_parallel (.throw _) (.throw hsteady.stop _)
  | succ depth ih =>
      rw [itinerary, itinerary, follow_cons, follow_cons]
      apply Shadows.bind
      · exact .of_parallel (.enter hpaths rfl directory) (hsteady.perform (.enter directory))
      · intro _
        rcases LinesAlike.fileLines? hpaths rfl directory with
          ⟨hnone, hnone'⟩ | ⟨lines, lines', hlines, hlines', hpadded⟩
        · rw [hnone, hnone']
          exact .pure ()
        · rw [hlines, hlines']
          simp only [Option.elim_some, follow_append]
          apply Shadows.bind (shadows_pass hpadded ih false 0)
          intro _
          apply Shadows.of_parallel
          · exact .change fun s t h =>
              ⟨h.nesting, h.showInternal, h.toc, h.body, h.conditions, h.opened⟩
          · exact hsteady.perform (.leave (leftOver false 0 lines))

end Passes

/-- Two states with the same reference: the same texts, and the same blocks and conditions that are
open. -/
structure SameReference (s t : WalkState) : Prop where
  tocText : t.tocText = s.tocText
  bodyText : t.bodyText = s.bodyText
  nesting : t.nesting = s.nesting
  conditions : t.conditions = s.conditions
  opened : t.opened = s.opened

theorem map_text_of_verbatim {layout : Layout} {items items' : List BodyItem}
    (h : List.Forall₂ (verbatim layout).body items items') :
    items'.map BodyItem.text = items.map BodyItem.text := by
  rw [← List.forall₂_eq_eq_eq, List.forall₂_map_left_iff, List.forall₂_map_right_iff]
  exact h.flip

theorem sameReference_of_verbatim {layout : Layout} {s t : WalkState}
    (h : (verbatim layout).Alike s t) : SameReference s t where
  tocText := by simp only [WalkState.tocText, List.flatMap_def, h.toc]
  bodyText := by simp only [WalkState.bodyText, List.flatMap_def, map_text_of_verbatim h.body]
  nesting := h.nesting
  conditions := h.conditions
  opened := h.opened

/-- Two runs end with the same reference, or fail with it for the same reason, at whatever lines. -/
inductive SameOutcome :
    EStateM.Result Failure WalkState Unit → EStateM.Result Failure WalkState Unit → Prop where
  | ended {s t : WalkState} (h : SameReference s t) : SameOutcome (.ok () s) (.ok () t)
  | failed {e e' : Failure} {s t : WalkState} (hreason : e'.unnumbered = e.unnumbered)
      (h : SameReference s t) : SameOutcome (.error e s) (.error e' t)

theorem SameOutcome.exists_of_ok {outcome outcome' : EStateM.Result Failure WalkState Unit}
    {t' : WalkState} (h : SameOutcome outcome outcome') (hok : outcome' = .ok () t') :
    ∃ t, outcome = .ok () t ∧ SameReference t t' := by
  cases h with
  | ended h =>
      cases hok
      exact ⟨_, rfl, h⟩
  | failed hreason h => cases hok

theorem sameOutcome_of_meets {layout : Layout} {m m' : Walk Unit} {s t : WalkState}
    (h : Meets (fun _ => False) (verbatim layout).Alike (unnumbered m s) (unnumbered m' t)) :
    SameOutcome (m s) (m' t) := by
  unfold unnumbered at h
  generalize m s = outcome at h ⊢
  generalize m' t = outcome' at h ⊢
  cases outcome with
  | ok _ u =>
      cases outcome' with
      | ok _ v =>
          cases h with
          | ok _ h => exact .ended (sameReference_of_verbatim h)
      | error e' v => cases h
  | error e u =>
      cases outcome' with
      | ok _ v =>
          cases h with
          | excused he _ _ => exact he.elim
      | error e' v =>
          -- The failures agree as far as they do not name a line, and no further.
          change Meets _ _ (.error e.unnumbered u) (.error e'.unnumbered v) at h
          generalize hkind : e.unnumbered = kind at h
          generalize hkind' : e'.unnumbered = kind' at h
          cases h with
          | error _ h => exact .failed (hkind'.trans hkind.symm) (sameReference_of_verbatim h)
          | excused he _ _ => exact he.elim

section Runs

variable {ctx : WalkContext} {tree : FileTree} {lineSize : LineSize} {showInternal : Bool}

/-- A run on padded files writes the same. -/
theorem shadows_run {like : Bytes → Bytes → Prop} (htree : ctx.tree.Alike like tree)
    (hpaths : ∀ path, LinesAlike ctx (ctx.reread tree lineSize) (Padded showInternal) path)
    (root : Option Text) (maxLevels maxConditions : Limit) :
    let start : WalkState := .fresh maxLevels maxConditions showInternal
    Meets (fun _ => False) (verbatim ctx.layout).Alike (unnumbered (run ctx root) start)
      (unnumbered (run (ctx.reread tree lineSize) root) start) := by
  intro start
  have hparts : ∀ ctx : WalkContext, unnumbered (run ctx root) start =
      (openRoot ctx >>= fun _ => unnumbered (processFile ctx (startDirectory ctx root)) >>= fun _ =>
        closeRoot) start := by
    intro ctx
    rw [run, unnumbered_bind, bind_apply, bind_apply, unnumbered_openRoot]
    simp only [unnumbered_bind]
    rfl
  rw [hparts, hparts]
  refine Meets.run (verbatim_refl ctx.layout start) fun banner => ?_
  let rooted : WalkState := .rooted maxLevels maxConditions showInternal banner
  have hwalk := shadows_itinerary hpaths (depthBound ctx rooted) (startDirectory ctx root) rooted
    rooted ⟨verbatim_refl ctx.layout rooted, rfl⟩
  have hstart : ∀ ctx : WalkContext, unnumbered (processFile ctx (startDirectory ctx root)) rooted =
      unnumbered (follow ctx (itinerary ctx (depthBound ctx rooted) (startDirectory ctx root)))
        rooted := by
    intro ctx
    simp only [unnumbered, processFile_apply]
  rw [hstart, hstart, depthBound_of_alike ctx (ctx.reread tree lineSize) htree]
  exact hwalk.mono fun s t h => h.1

/-- Nothing is seen of lines that ask for nothing and of entries that are hidden, wherever they are
put in before a line that is no attribute line or at the end of a file: lines whose first word is
not reserved, `config` lines without a name, source lines without an argument, and, where hidden
entries are not shown, entries without a prompt. With any number of them in any files a run ends or
fails alike, for the same reason if it fails; it writes the same table of contents and the same
body, and it leaves the same blocks and conditions open. -/
theorem run_ignores_invisible_lines
    (htree : ctx.tree.Alike (ctx.CutBy (Padded showInternal)) tree) (root : Option Text)
    (maxLevels maxConditions : Int) :
    let start : WalkState := .fresh (.count maxLevels) (.count maxConditions) showInternal
    SameOutcome (run ctx root start) (run (ctx.onTree tree) root start) := by
  intro start
  have hmeets := shadows_run htree (linesAlike_onTree htree) root (.count maxLevels)
    (.count maxConditions)
  exact sameOutcome_of_meets hmeets

end Runs

/-- What stands before and after the text that is put in. -/
def menuText : Text := "menu \"M\"\nconfig X\n\tbool \"x\"\n"

def menuEnd : Text := "endmenu\n"

/-- A line of each kind of which nothing is seen, and a hidden entry. -/
def unseenText : Text := "comment\nconfig\nsource\nconfig H\n\tint\n\tdefault 3\n"

def menuContext : WalkContext :=
  .ofSettings .builtIn
    ⟨.directory [("Kconfig", .file (Utf8.encode (menuText ++ menuEnd)))], []⟩ "."

def paddedTree : FileTree :=
  ⟨.directory [("Kconfig", .file (Utf8.encode (menuText ++ (unseenText ++ menuEnd))))], []⟩

theorem padded_menu : menuContext.tree.Alike (menuContext.CutBy (Padded false)) paddedTree := by
  have hsize : menuContext.lineSize = .characters 1024 := rfl
  have hcontent : Text.normalizeLineEndings (Utf8.decodeLenient (Utf8.encode (menuText ++ menuEnd)))
      = menuText ++ menuEnd := by rfl
  have hcontent' : Text.normalizeLineEndings
      (Utf8.decodeLenient (Utf8.encode (menuText ++ (unseenText ++ menuEnd)))) =
      menuText ++ (unseenText ++ menuEnd) := by rfl
  have hunseen : ∀ path, readLines path (lineRoom 1024) (Text.physicalLines unseenText) =
      [⟨"comment", path, 1⟩, ⟨"config", path, 2⟩, ⟨"source", path, 3⟩, ⟨"config H", path, 4⟩,
        ⟨"int", path, 5⟩, ⟨"default 3", path, 6⟩] := by
    intro path
    rw [readLines_of_fits (by decide +kernel)]
    rfl
  have hend : ∀ path, readLines path (lineRoom 1024) (Text.physicalLines menuEnd) =
      [⟨"endmenu", path, 1⟩] := by
    intro path
    rw [readLines_of_fits (by decide +kernel)]
    rfl
  have hinvisible : ∀ path,
      Invisible false (readLines path (lineRoom 1024) (Text.physicalLines unseenText)) := by
    intro path
    have hhidden : Invisible false (⟨"config H", path, 4⟩ ::
        ([⟨"int", path, 5⟩, ⟨"default 3", path, 6⟩] ++ [])) := by
      apply Invisible.hidden rfl
      · exact of_decide_eq_true rfl
      · simp only [List.mem_cons, List.not_mem_nil, or_false, forall_eq_or_imp, forall_eq]
        exact ⟨rfl, rfl⟩
      · simp [Line.NoAttributeFirst]
      · exact .nil
    rw [hunseen]
    apply Invisible.inert (of_decide_eq_true rfl)
    apply Invisible.inert (of_decide_eq_true rfl)
    apply Invisible.inert (of_decide_eq_true rfl)
    exact hhidden
  have hfirst : ∀ path, Line.NoAttributeFirst
      (readLines path (lineRoom 1024) (Text.physicalLines unseenText)) := by
    intro path
    rw [hunseen]
    exact Line.noAttributeFirst_cons.2 rfl
  have hnext : ∀ path, Line.NoAttributeFirst
      (readLines path (lineRoom 1024) (Text.physicalLines menuEnd)) := by
    intro path
    rw [hend]
    exact Line.noAttributeFirst_cons.2 rfl
  refine ⟨rfl, rfl, ?_, trivial⟩
  exact WalkContext.cutBy_insert hsize hcontent hcontent' (.inr (by decide)) (.inr (by decide))
    hinvisible hfirst hnext

/-- Of the two entries only the one that is not hidden is written, and the menu has used up one
number and one anchor. -/
theorem run_ignores_invisible_lines_sample : ∃ t t',
    run menuContext none (.fresh (.count 2) (.count 1) false) = .ok () t ∧
      run (menuContext.onTree paddedTree) none (.fresh (.count 2) (.count 1) false) = .ok () t' ∧
      SameReference t t' ∧ t'.nesting = ⟨.count 2, [2], 0, 2, 0⟩ ∧
      t'.detailed = [⟨"X", ".", some .boolean, some "x", none, false, []⟩] := by
  have hends : endsWith (run (menuContext.onTree paddedTree) none)
      (fun t => t.nesting = ⟨.count 2, [2], 0, 2, 0⟩ ∧
        t.detailed = [⟨"X", ".", some .boolean, some "x", none, false, []⟩])
      (.fresh (.count 2) (.count 1) false) = true := by decide +kernel
  obtain ⟨_, t', hrun', ht'⟩ := exists_of_endsWith hends
  obtain ⟨hnesting, hdetailed⟩ := of_decide_eq_true ht'
  have hruns := @run_ignores_invisible_lines menuContext paddedTree false padded_menu none 2 1
  obtain ⟨t, hrun, hsame⟩ := hruns.exists_of_ok hrun'
  exact ⟨t, t', hrun, hrun', hsame, hnesting, hdetailed⟩

end Walk

end KconfigReference
