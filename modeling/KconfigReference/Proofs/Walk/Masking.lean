import KconfigReference.Proofs.Page.Brackets
import KconfigReference.Proofs.Walk.SideBySide
import KconfigReference.Proofs.Walk.Untouched

/-!
Walks of two trees of which the second has its markup replaced. Both read the same lines and do the
same, because no character of markup decides anything; so they write the same items, and the second
one lacks the brackets of the texts that stand unescaped. Main statement: both runs end or neither
does, and the streams of the second have lost the brackets of the banner and of the names.
-/

namespace KconfigReference

open Text (firstWord)

/-- Whether the lines of a keyword hold a prompt or a title. -/
def Keyword.hasPrompt : Keyword → Bool
  | .bool | .int | .hex | .string | .menu | .choice => true
  | _ => false

/-- The same line after every character of markup in the text that it gives is replaced: the name of
an entry, a prompt or a title, a default or a condition. -/
structure Line.Masked (line line' : Line) : Prop where
  keyword : line'.keyword? = line.keyword?
  place : line'.place = line.place
  name : line.keyword? = some .config → Text.Masked (firstWord line.rest) (firstWord line'.rest)
  prompt : ∀ keyword, line.keyword? = some keyword → keyword.hasPrompt = true →
    Option.Rel Text.Masked (Prompt.extract line.rest) (Prompt.extract line'.rest)
  value : line.keyword? = some .default ∨ line.keyword? = some .ifWord →
    Text.Masked line.rest line'.rest
  source : line.keyword? = some .source → line'.rest = line.rest

/-- A character of markup is replaced by one that divides nothing: a space, a quotation mark or a
backslash stands where one stood before. -/
def Text.MasksWithin (c c' : Char) : Prop :=
  Masks c c' ∧ ∀ mark ∈ [' ', '"', '\\'], (c' = mark ↔ c = mark)

instance (c c' : Char) : Decidable (Text.MasksWithin c c') :=
  @instDecidableAnd _ _ _ (List.decidableBAll _ _)

section Within

variable {t t' : Text}

theorem Text.firstWord_masked (h : List.Forall₂ MasksWithin t t') :
    Masked (firstWord t) (firstWord t') := by
  unfold firstWord
  induction h with
  | nil => exact .nil
  | @cons c c' rest rest' hc _ ih =>
      have hspace : c' = ' ' ↔ c = ' ' := hc.2 ' ' (by simp)
      by_cases hblank : c = ' '
      · simp [hblank, hspace.2 hblank]
      · have hblank' : c' ≠ ' ' := fun h => hblank (hspace.1 h)
        rw [List.takeWhile_cons_of_pos (by simpa using hblank),
          List.takeWhile_cons_of_pos (by simpa using hblank')]
        exact .cons hc.1 ih

/-- Marks are found at the same places, by induction on the text. -/
theorem Prompt.splitAtMark_masked (h : List.Forall₂ Text.MasksWithin t t') (escaped : Bool) :
    Option.Rel (fun sides sides' => List.Forall₂ Text.MasksWithin sides.1 sides'.1 ∧
        List.Forall₂ Text.MasksWithin sides.2 sides'.2)
      (splitAtMark ['"'] escaped t) (splitAtMark ['"'] escaped t') := by
  induction h generalizing escaped with
  | nil => exact .none
  | @cons c c' rest rest' hc hrest ih =>
      have hescape : c' = '\\' ↔ c = '\\' := hc.2 '\\' (by simp)
      have hquote : [c'] = ['"'] ↔ [c] = ['"'] := by
        have hmark := hc.2 '"' (by simp)
        simpa using hmark
      have hfurther (escaped : Bool) :
          Option.Rel (fun sides sides' => List.Forall₂ Text.MasksWithin sides.1 sides'.1 ∧
              List.Forall₂ Text.MasksWithin sides.2 sides'.2)
            ((splitAtMark ['"'] escaped rest).map fun sides => (c :: sides.1, sides.2))
            ((splitAtMark ['"'] escaped rest').map fun sides => (c' :: sides.1, sides.2)) := by
        have hsplit := ih escaped
        generalize splitAtMark ['"'] escaped rest = sides at hsplit ⊢
        generalize splitAtMark ['"'] escaped rest' = sides' at hsplit ⊢
        cases hsplit with
        | none => exact .none
        | some hsides => exact .some ⟨.cons hc hsides.1, hsides.2⟩
      simp only [splitAtMark, hescape, hquote]
      split
      · exact hfurther false
      split
      · exact hfurther true
      split
      · exact .some ⟨.nil, hrest⟩
      · exact hfurther false

theorem Prompt.extract_masked (h : List.Forall₂ Text.MasksWithin t t') :
    Option.Rel Text.Masked (extract t) (extract t') := by
  have hopening := splitAtMark_masked h false
  unfold extract
  generalize splitAtMark ['"'] false t = sides at hopening ⊢
  generalize splitAtMark ['"'] false t' = sides' at hopening ⊢
  cases hopening with
  | none => exact .none
  | @some sides sides' hsides =>
      have hclosing := splitAtMark_masked hsides.2 false
      simp only [Option.map_some]
      generalize splitAtMark ['"'] false sides.2 = rest at hclosing ⊢
      generalize splitAtMark ['"'] false sides'.2 = rest' at hclosing ⊢
      cases hclosing with
      | none => exact .some (hsides.2.imp fun _ _ hc => hc.1)
      | some hprompt => exact .some (hprompt.1.imp fun _ _ hc => hc.1)

/-- So it is enough to replace markup after the first word of a line that is no source line. -/
theorem Line.Masked.of_rest {line line' : Line} (hword : line'.word = line.word)
    (hplace : line'.place = line.place)
    (hrest : List.Forall₂ Text.MasksWithin line.rest line'.rest)
    (hsource : line.keyword? = some .source → line'.rest = line.rest) : line.Masked line' where
  keyword := by rw [keyword?, keyword?, hword]
  place := hplace
  name _ := Text.firstWord_masked hrest
  prompt _ _ _ := Prompt.extract_masked hrest
  value _ := hrest.imp fun _ _ hc => hc.1
  source := hsource

end Within

/-- What an attribute line says after its markup is replaced. -/
inductive Attribute.Masked : Attribute → Attribute → Prop where
  | type (type : ValueType) {prompt prompt' : Option Text}
      (h : Option.Rel Text.Masked prompt prompt') : Masked (.type type prompt) (.type type prompt')
  | default {value value' : Text} (h : Text.Masked value value') :
      Masked (.default value) (.default value')
  | help : Masked .help .help

theorem Entry.Masked.set {e e' : Entry} {found found' : Attribute} (h : e.Masked e')
    (hfound : found.Masked found') : (e.set found).Masked (e'.set found') := by
  cases hfound with
  | type type hprompt =>
      refine ⟨h.name, rfl, ?_, h.default, h.hasHelp, h.conditions⟩
      cases hprompt with
      | none => exact h.description
      | some hmasked =>
          simp only [Entry.set, Option.getD_some, hmasked.eq_nil_iff]
          split
          · exact h.description
          · exact .some hmasked
  | default hvalue =>
      exact ⟨h.name, h.type, h.description, .some hvalue, h.hasHelp, h.conditions⟩
  | help => exact ⟨h.name, h.type, h.description, h.default, rfl, h.conditions⟩

namespace Line.Masked

variable {line line' : Line} {lines lines' : List Line}

theorem turn_eq (h : line.Masked line') : line'.turn = line.turn := by
  rw [turn, turn, h.keyword]

theorem attribute? (h : line.Masked line') :
    Option.Rel Attribute.Masked line.attribute? line'.attribute? := by
  unfold Line.attribute?
  rw [h.keyword]
  cases hk : line.keyword? with
  | none => exact .none
  | some keyword =>
      cases keyword with
      | bool => exact .some (.type .boolean (h.prompt _ hk rfl))
      | int => exact .some (.type .integer (h.prompt _ hk rfl))
      | hex => exact .some (.type .hexadecimal (h.prompt _ hk rfl))
      | string => exact .some (.type .string (h.prompt _ hk rfl))
      | default => exact .some (.default (h.value (.inl hk)))
      | help => exact .some .help
      | _ => exact .none

theorem isAttribute_eq (h : line.Masked line') : line'.isAttribute = line.isAttribute := by
  have hfound := h.attribute?
  unfold isAttribute
  generalize line.attribute? = found at hfound ⊢
  generalize line'.attribute? = found' at hfound ⊢
  cases hfound <;> rfl

theorem declares_iff (h : line.Masked line') : line'.declares ↔ line.declares := by
  unfold declares
  rw [h.keyword]
  exact and_congr_right fun hk => not_congr (h.name hk).eq_nil_iff

theorem target_eq (h : line.Masked line') {ctx ctx' : WalkContext}
    (hlayout : ctx'.layout = ctx.layout) : ctx'.target? line' = ctx.target? line := by
  unfold WalkContext.target?
  rw [hlayout, h.keyword]
  by_cases hk : line.keyword? = some .source
  · rw [h.source hk]
  · cases hkeyword : line.keyword? with
    | none => rfl
    | some keyword =>
        cases keyword <;> first | rfl | exact absurd hkeyword hk

/-- The attribute lines after an entry say the same of it but for the markup, by induction on the
lines. -/
theorem withLines (h : List.Forall₂ Masked lines lines') {e e' : Entry} (hentry : e.Masked e') :
    (e.withLines (lines.takeWhile isAttribute)).Masked
      (e'.withLines (lines'.takeWhile isAttribute)) := by
  induction h generalizing e e' with
  | nil => exact hentry
  | @cons line line' rest rest' hline _ ih =>
      have hfound := hline.attribute?
      have hsame := hline.isAttribute_eq
      rw [List.takeWhile_cons, List.takeWhile_cons, hsame]
      split
      next hattribute =>
        obtain ⟨found, hfirst⟩ := Option.isSome_iff_exists.1 hattribute
        obtain ⟨found', hfirst'⟩ := Option.isSome_iff_exists.1 (hsame.trans hattribute)
        rw [hfirst, hfirst'] at hfound
        rw [Entry.withLines_cons hfirst, Entry.withLines_cons hfirst']
        cases hfound with
        | some hmasked => exact ih (hentry.set hmasked)
      next => exact hentry

/-- Lines that declare an entry declare the same one but for the markup. -/
theorem entry (h : line.Masked line') (hk : line.keyword? = some .config)
    (hafter : List.Forall₂ Masked lines lines') {conditions conditions' : List Text}
    (hconditions : List.Forall₂ Text.Masked conditions conditions') (directory : Text) :
    (line.entry directory conditions lines).Masked
      (line'.entry directory conditions' lines') := by
  refine withLines hafter ?_
  exact ⟨h.name hk, rfl, .none, .none, rfl, hconditions⟩

end Line.Masked

namespace WalkState

/-- The names in the table of contents. -/
def tocNames (s : WalkState) : List Text := s.toc.toList.filterMap TocItem.name?

/-- The names over the entries in the body. -/
def bodyNames (s : WalkState) : List Text := s.body.toList.filterMap BodyItem.name?

variable (s : WalkState)

theorem tocText_writeToc (item : TocItem) : (s.writeToc item).tocText = s.tocText ++ item.text := by
  simp [tocText, writeToc]

theorem bodyText_writeBody (item : BodyItem) :
    (s.writeBody item).bodyText = s.bodyText ++ item.text := by
  simp [bodyText, writeBody]

theorem tocNames_writeToc (item : TocItem) :
    (s.writeToc item).tocNames = s.tocNames ++ item.name?.toList := by
  rw [tocNames, writeToc, Array.toList_push, List.filterMap_append]
  cases h : item.name? <;> simp [tocNames, h]

theorem bodyNames_writeBody (item : BodyItem) :
    (s.writeBody item).bodyNames = s.bodyNames ++ item.name?.toList := by
  rw [bodyNames, writeBody, Array.toList_push, List.filterMap_append]
  cases h : item.name? <;> simp [bodyNames, h]

end WalkState

namespace Walk

/-- Two states that number alike, with the same conditions but for the markup, where each stream of
the second has lost the brackets of the banner and those of the names, which stand in it twice. -/
structure Masking (banner : Text) (s t : WalkState) : Prop where
  nesting : t.nesting = s.nesting
  showInternal : t.showInternal = s.showInternal
  toc : Text.Sheds (banner.brackets.length + 2 * Text.strays s.tocNames) s.tocText t.tocText
  body : Text.Sheds (banner.brackets.length + 2 * Text.strays s.bodyNames) s.bodyText t.bodyText
  capacity : t.conditions.capacity = s.conditions.capacity
  stack : List.Forall₂ Text.Masked s.conditions.stack t.conditions.stack

namespace Masking

variable {banner : Text} {s t : WalkState}

theorem writeToc (h : Masking banner s t) {item item' : TocItem} (hitem : item.Sheds item') :
    Masking banner (s.writeToc item) (t.writeToc item') := by
  refine ⟨h.nesting, h.showInternal, ?_, h.body, h.capacity, h.stack⟩
  rw [WalkState.tocText_writeToc, WalkState.tocText_writeToc, WalkState.tocNames_writeToc,
    Text.strays_append, Nat.mul_add, ← Nat.add_assoc]
  exact h.toc.append hitem

theorem writeBody (h : Masking banner s t) {item item' : BodyItem} (hitem : item.Sheds item') :
    Masking banner (s.writeBody item) (t.writeBody item') := by
  refine ⟨h.nesting, h.showInternal, h.toc, ?_, h.capacity, h.stack⟩
  rw [WalkState.bodyText_writeBody, WalkState.bodyText_writeBody, WalkState.bodyNames_writeBody,
    Text.strays_append, Nat.mul_add, ← Nat.add_assoc]
  exact h.body.append hitem

theorem inForce (h : Masking banner s t) :
    List.Forall₂ Text.Masked s.conditions.inForce t.conditions.inForce :=
  List.rel_reverse h.stack

theorem closed (h : Masking banner s t) : Masking banner s.closed t.closed := by
  have hlist : Masking banner (s.writeToc .closeList) (t.writeToc .closeList) :=
    h.writeToc (.refl _)
  exact ⟨hlist.nesting, hlist.showInternal, hlist.toc, hlist.body, hlist.capacity, hlist.stack⟩

/-- A run begins with the banner in both streams. -/
theorem rooted {banner' : Text} (h : Text.Masked banner banner') (maxLevels maxConditions : Limit)
    (showInternal : Bool) :
    Masking banner (.rooted maxLevels maxConditions showInternal banner)
      (.rooted maxLevels maxConditions showInternal banner') := by
  have htoc (text : Text) : (WalkState.rooted maxLevels maxConditions showInternal text).tocText =
      (TocItem.block (Anchor.menu 0) [1] text).text := List.flatMap_singleton ..
  have hbody (text : Text) : (WalkState.rooted maxLevels maxConditions showInternal text).bodyText =
      (BodyItem.menu (Anchor.menu 0) [1] text).text := List.flatMap_singleton ..
  refine ⟨rfl, rfl, ?_, ?_, rfl, .nil⟩
  · rw [htoc, htoc]
    exact TocItem.sheds_block h.sheds (Anchor.menu 0) [1]
  · rw [hbody, hbody]
    exact BodyItem.sheds_menu h.sheds (Anchor.menu 0) [1]

end Masking

/-- Such states, with the entries that differ in their markup and whatever titles there are. -/
def masking (layout : Layout) (banner : Text) : Pairing layout where
  states := Masking banner
  entries := Entry.Masked
  titles _ _ := True
  toc := TocItem.Sheds
  body := BodyItem.Sheds
  nesting_eq h := h.nesting
  showInternal_eq h := h.showInternal
  logs _ _ h := ⟨h.nesting, h.showInternal, h.toc, h.body, h.capacity, h.stack⟩
  nest _ h := ⟨rfl, h.showInternal, h.toc, h.body, h.capacity, h.stack⟩
  opens _ h := ⟨h.nesting, h.showInternal, h.toc, h.body, h.capacity, h.stack⟩
  leaves _ _ h := ⟨h.nesting, h.showInternal, h.toc, h.body, h.capacity, h.stack⟩
  writeToc h := h.writeToc
  writeBody h := h.writeBody
  tocLists := ⟨.refl _, .refl _⟩
  bodyLists := ⟨.refl _, .refl _⟩
  blockLink anchor number kind _ :=
    TocItem.sheds_block (Markup.sheds_caption kind _ _) anchor number
  menuHeading anchor number kind _ :=
    BodyItem.sheds_menu (Markup.sheds_caption kind _ _) anchor number
  choiceHeading anchor number kind _ :=
    BodyItem.sheds_choice (Markup.sheds_caption kind _ _) anchor number
  isHidden_eq h := h.isHidden_eq
  entryLink number h := TocItem.sheds_config h number
  entryHeading number h := BodyItem.sheds_config h number
  details h _ _ := BodyItem.sheds_details h _ _

section Lines

variable {ctx ctx' : WalkContext} {banner : Text} {excused : Failure → Prop} {line line' : Line}

/-- How many conditions are open does not depend on their texts. -/
theorem Masking.pushCondition (h : line.Masked line') (hk : line.keyword? = some .ifWord) :
    Parallel excused (Masking banner) (Walk.pushCondition line) (Walk.pushCondition line') := by
  intro s t hst
  have hheight : t.conditions.height = s.conditions.height := hst.stack.length_eq.symm
  rw [pushCondition_apply, pushCondition_apply, Conditions.push, Conditions.push, hst.capacity,
    hheight, h.place]
  rcases s.conditions.capacity.reached s.conditions.height with m | _ | _
  · exact .error _ hst
  · exact .ok () ⟨hst.nesting, hst.showInternal, hst.toc, hst.body, rfl,
      .cons (h.value (.inr hk)) hst.stack⟩
  · exact .error _ hst

theorem Masking.popCondition (h : line.Masked line') :
    Parallel excused (Masking banner) (Walk.popCondition line) (Walk.popCondition line') := by
  intro s t hst
  have hstack := hst.stack
  rw [popCondition_apply, popCondition_apply, Conditions.pop, Conditions.pop, h.place]
  revert hstack
  rcases s.conditions.stack with _ | ⟨condition, outer⟩ <;>
    rcases t.conditions.stack with _ | ⟨condition', outer'⟩
  · exact fun _ => .error _ hst
  · rintro ⟨⟩
  · rintro ⟨⟩
  · rintro (_ | ⟨-, houter⟩)
    exact .ok () ⟨hst.nesting, hst.showInternal, hst.toc, hst.body, hst.capacity, houter⟩

theorem parallel_masked {directory : Text} {after after' : List Line} (h : line.Masked line')
    (hafter : List.Forall₂ Line.Masked after after') :
    Parallel excused (Masking banner) (effect ctx (fun _ => pure ()) directory line after)
      (effect ctx (fun _ => pure ()) directory line' after') := by
  have hsays : (masking ctx.layout banner).SaysAlike line line' :=
    { keyword := h.keyword
      place := h.place
      title := fun _ => trivial
      source := h.source
      name := fun hk => (h.name hk).eq_nil_iff }
  exact (masking ctx.layout banner).parallel_effect hsays
    (fun hdeclares s t hst => h.entry hdeclares.1 hafter hst.inForce directory)
    (Masking.pushCondition h) fun _ => Masking.popCondition h

end Lines

section Runs

variable {ctx ctx' : WalkContext} {R : WalkState → WalkState → Prop}

/-- A line does the same under any settings that name files alike. -/
theorem effect_of_layout (h : ctx'.layout = ctx.layout) (visit : Text → Walk Unit)
    (directory : Text) (line : Line) (after : List Line) :
    effect ctx' visit directory line after = effect ctx visit directory line after := by
  obtain ⟨tree, layout, lineSize, banner⟩ := ctx
  obtain ⟨tree', layout', lineSize', banner'⟩ := ctx'
  obtain rfl : layout' = layout := h
  rfl

/-- Trees of which the second has its markup replaced are walked alike. -/
theorem echoes_masked (hlayout : ctx'.layout = ctx.layout) (hsize : ctx'.lineSize = ctx.lineSize)
    (htree : ctx.tree.Alike (ctx.CutAlike Line.Masked) ctx'.tree) (banner : Text) :
    Echoes ctx ctx' (fun _ => False) (Masking banner) Line.Masked where
  layout := hlayout
  paths := linesAlike_of_cutBy hsize htree
  turn h := h.turn_eq
  isAttribute h := h.isAttribute_eq
  declares h := h.declares_iff
  target h := h.target_eq hlayout
  enter := Pairing.parallel_enter (p := masking ctx.layout banner)
    (linesAlike_of_cutBy hsize htree) hlayout
  line directory hline hafter := by
    rw [perform, perform, effect_of_layout hlayout]
    exact parallel_masked hline hafter
  leave _ _ := .change fun _ _ => (masking ctx.layout banner).leaves _ _

/-- Two walks that both end, in states that belong together, or neither of which does. -/
structure EndTogether (R : WalkState → WalkState → Prop)
    (outcome outcome' : EStateM.Result Failure WalkState Unit) : Prop where
  forth : ∀ {s}, outcome = .ok () s → ∃ t, outcome' = .ok () t ∧ R s t
  back : ∀ {t}, outcome' = .ok () t → ∃ s, outcome = .ok () s ∧ R s t

theorem Meets.endTogether {outcome outcome' : EStateM.Result Failure WalkState Unit}
    (h : Meets (fun _ => False) R outcome outcome') : EndTogether R outcome outcome' := by
  cases h with
  | ok _ hst =>
      refine ⟨fun h => ?_, fun h => ?_⟩
      · cases h
        exact ⟨_, rfl, hst⟩
      · cases h
        exact ⟨_, rfl, hst⟩
  | error e hst => exact ⟨nofun, nofun⟩
  | excused he _ _ => exact he.elim

/-- Files that are walked alike under every bound on open files are walked alike, whatever the
bounds are that the two trees give. -/
theorem Echoes.processFile {like : Line → Line → Prop}
    (h : Echoes ctx ctx' (fun _ => False) R like) {s t : WalkState} (hst : R s t)
    (directory : Text) :
    EndTogether R (processFile ctx directory s) (Walk.processFile ctx' directory t) := by
  have hdepth (depth : Nat) := (h.itinerary (.inl (Eq.refl depth)) directory s t hst).endTogether
  refine ⟨fun hs => ?_, fun ht => ?_⟩
  · obtain ⟨depth, hfollow⟩ := processFile_ok_iff.1 hs
    obtain ⟨u, hfollow', hu⟩ := (hdepth depth).forth hfollow
    exact ⟨u, processFile_ok_iff.2 ⟨depth, hfollow'⟩, hu⟩
  · obtain ⟨depth, hfollow⟩ := processFile_ok_iff.1 ht
    obtain ⟨u, hfollow', hu⟩ := (hdepth depth).back hfollow
    exact ⟨u, processFile_ok_iff.2 ⟨depth, hfollow'⟩, hu⟩

/-- Runs on trees of which the second has its markup replaced, as has its banner, both end or
neither does, and the streams of the second have lost the brackets of the banner and of the
names. -/
theorem run_masked (hlayout : ctx'.layout = ctx.layout) (hsize : ctx'.lineSize = ctx.lineSize)
    (htree : ctx.tree.Alike (ctx.CutAlike Line.Masked) ctx'.tree) {banner banner' : Text}
    (hbanner : ctx.bannerText = .ok banner) (hbanner' : ctx'.bannerText = .ok banner')
    (hmasked : Text.Masked banner banner') (root : Option Text) (maxLevels maxConditions : Limit)
    (showInternal : Bool) :
    EndTogether (Masking banner) (run ctx root (.fresh maxLevels maxConditions showInternal))
      (run ctx' root (.fresh maxLevels maxConditions showInternal)) := by
  have hstart : startDirectory ctx' root = startDirectory ctx root := by
    rw [startDirectory, startDirectory, hlayout]
  have hwalk := (echoes_masked hlayout hsize htree banner).processFile
    (.rooted hmasked maxLevels maxConditions showInternal) (startDirectory ctx root)
  refine ⟨fun hs => ?_, fun ht => ?_⟩
  · obtain ⟨hlevels, _, s, hb, hs, rfl⟩ := run_ok_iff.1 hs
    obtain rfl := Except.ok.inj (hbanner.symm.trans hb)
    obtain ⟨t, ht, hst⟩ := hwalk.forth hs
    exact ⟨t.closed, run_ok_iff.2 ⟨hlevels, banner', t, hbanner', hstart ▸ ht, rfl⟩, hst.closed⟩
  · obtain ⟨hlevels, _, t, hb, ht, rfl⟩ := run_ok_iff.1 ht
    obtain rfl := Except.ok.inj (hbanner'.symm.trans hb)
    obtain ⟨s, hs, hst⟩ := hwalk.back (hstart ▸ ht)
    exact ⟨s.closed, run_ok_iff.2 ⟨hlevels, banner, s, hbanner, hs, rfl⟩, hst.closed⟩

end Runs

end Walk

end KconfigReference
