import KconfigReference.Proofs.Walk.Contents

/-!
Two walks side by side. What belongs together in them is left open: states, entries, titles and
items, as long as the states number alike and stay together when both walks do alike. Main
statement: walks of files whose lines do alike one by one come to outcomes that belong together.
-/

namespace KconfigReference

namespace Walk

variable {excused : Failure → Prop} {R : WalkState → WalkState → Prop}

/-- Two outcomes that belong together: in both a value, the same one, or in both the same failure,
unless the first is excused. -/
inductive Meets (excused : Failure → Prop) (R : WalkState → WalkState → Prop) :
    EStateM.Result Failure WalkState α → EStateM.Result Failure WalkState α → Prop where
  | ok (a : α) {s t : WalkState} (h : R s t) : Meets excused R (.ok a s) (.ok a t)
  | error (e : Failure) {s t : WalkState} (h : R s t) : Meets excused R (.error e s) (.error e t)
  | excused {e : Failure} (h : excused e) (s : WalkState)
      (outcome : EStateM.Result Failure WalkState α) : Meets excused R (.error e s) outcome

theorem Meets.mono {weaker : WalkState → WalkState → Prop}
    {outcome outcome' : EStateM.Result Failure WalkState α} (h : Meets excused R outcome outcome')
    (himp : ∀ s t, R s t → weaker s t) : Meets excused weaker outcome outcome' := by
  cases h with
  | ok a h => exact .ok a (himp _ _ h)
  | error e h => exact .error e (himp _ _ h)
  | excused he s _ => exact .excused he s _

/-- What is done next may depend on how the first walk came there. -/
theorem Meets.bind {m m' : Walk α} {f f' : α → Walk β} {s t : WalkState}
    (hm : Meets excused R (m s) (m' t))
    (hf : ∀ a u v, m s = .ok a u → R u v → Meets excused R (f a u) (f' a v)) :
    Meets excused R ((m >>= f) s) ((m' >>= f') t) := by
  rw [bind_apply, bind_apply]
  generalize m s = outcome at hm hf ⊢
  generalize m' t = outcome' at hm ⊢
  cases hm with
  | ok a h => exact hf a _ _ rfl h
  | error e h => exact .error e h
  | excused he u outcome => exact .excused he u _

/-- From states that are alike two walks come to outcomes that belong together. -/
def Parallel (excused : Failure → Prop) (R : WalkState → WalkState → Prop) (m m' : Walk α) : Prop :=
  ∀ s t, R s t → Meets excused R (m s) (m' t)

namespace Parallel

theorem pure (a : α) : Parallel excused R (Pure.pure a : Walk α) (Pure.pure a) :=
  fun _ _ h => .ok a h

theorem bind {m m' : Walk α} {f f' : α → Walk β} (hm : Parallel excused R m m')
    (hf : ∀ a, Parallel excused R (f a) (f' a)) : Parallel excused R (m >>= f) (m' >>= f') :=
  fun s t h => (hm s t h).bind fun a u v _ h => hf a u v h

theorem change {f f' : WalkState → WalkState} (h : ∀ s t, R s t → R (f s) (f' t)) :
    Parallel excused R (modify f : Walk Unit) (modify f') := fun s t hs => .ok () (h s t hs)

theorem throw (e : Failure) :
    Parallel excused R (MonadExcept.throw e : Walk α) (MonadExcept.throw e) :=
  fun _ _ h => .error e h

theorem lift (outcome : Except Failure α) :
    Parallel excused R (Walk.lift outcome) (Walk.lift outcome) := by
  cases outcome with
  | ok a => exact pure a
  | error e => exact throw e

end Parallel

/-- Which states, entries, titles and items of two walks belong together. States that do have the
same numbering, and still belong together after the same step of the numbering, after remarks, and
after items that do have been written to both. -/
structure Pairing (layout : Layout) where
  states : WalkState → WalkState → Prop
  entries : Entry → Entry → Prop
  titles : Option Text → Option Text → Prop
  toc : TocItem → TocItem → Prop
  body : BodyItem → BodyItem → Prop
  nesting_eq : ∀ {s t}, states s t → t.nesting = s.nesting
  showInternal_eq : ∀ {s t}, states s t → t.showInternal = s.showInternal
  logs : ∀ {s t} log log', states s t → states { s with log := log } { t with log := log' }
  nest : ∀ {s t} nesting, states s t →
    states { s with nesting := nesting } { t with nesting := nesting }
  opens : ∀ {s t} path, states s t →
    states { s with opened := s.opened.push path } { t with opened := t.opened.push path }
  leaves : ∀ {s t} unread unread', states s t →
    states { s with unread := unread } { t with unread := unread' }
  writeToc : ∀ {s t item item'}, states s t → toc item item' →
    states (s.writeToc item) (t.writeToc item')
  writeBody : ∀ {s t item item'}, states s t → body item item' →
    states (s.writeBody item) (t.writeBody item')
  tocLists : toc .openList .openList ∧ toc .closeList .closeList
  bodyLists : body .openList .openList ∧ body .closeList .closeList
  blockLink : ∀ {title title'} anchor number kind, titles title title' →
    toc (.block anchor number (Markup.caption kind title))
      (.block anchor number (Markup.caption kind title'))
  menuHeading : ∀ {title title'} anchor number kind, titles title title' →
    body (.menu anchor number (Markup.caption kind title))
      (.menu anchor number (Markup.caption kind title'))
  choiceHeading : ∀ {title title'} anchor number kind, titles title title' →
    body (.choice anchor number (Markup.caption kind title))
      (.choice anchor number (Markup.caption kind title'))
  isHidden_eq : ∀ {e e'}, entries e e' → e'.isHidden = e.isHidden
  entryLink : ∀ {e e'} number, entries e e' → toc (.config e number) (.config e' number)
  entryHeading : ∀ {e e'} number, entries e e' → body (.config e number) (.config e' number)
  details : ∀ {e e' path path'}, entries e e' → layout.filePath e.directory = .ok path →
    layout.filePath e'.directory = .ok path' → body (.details e path) (.details e' path')

namespace Pairing

section States

variable {layout : Layout} {p : Pairing layout} {e e' : Entry} {s t : WalkState}

theorem note (h : p.states s t) (record record' : LogRecord) :
    p.states (s.note record) (t.note record') := p.logs _ _ h

theorem number_eq (h : p.states s t) : t.number = s.number := by
  rw [WalkState.number, WalkState.number, p.nesting_eq h]

theorem withCounters (h : p.states s t) (counters : List Nat) :
    p.states (s.withCounters counters) (t.withCounters counters) := by
  rw [WalkState.withCounters, WalkState.withCounters, p.nesting_eq h]
  exact p.nest _ h

theorem enterChoice (h : p.states s t) : p.states s.enterChoice t.enterChoice := by
  rw [WalkState.enterChoice, WalkState.enterChoice, p.nesting_eq h]
  exact p.nest _ h

theorem leaveChoice (h : p.states s t) : p.states s.leaveChoice t.leaveChoice := by
  rw [WalkState.leaveChoice, WalkState.leaveChoice, p.nesting_eq h]
  exact p.nest _ h

theorem announceMenu {title title' : Option Text} (h : p.states s t)
    (htitle : p.titles title title') :
    p.states (s.announceMenu title) (t.announceMenu title') := by
  have hlink := p.writeToc h (p.blockLink s.nesting.menuAnchor s.number "Menu" htitle)
  have hheading := p.writeBody (p.writeToc hlink p.tocLists.1)
    (p.menuHeading s.nesting.menuAnchor s.number "Menu" htitle)
  have hpast := p.nest s.nesting.pastMenuAnchor hheading
  unfold WalkState.announceMenu
  rw [number_eq h, p.nesting_eq h]
  exact hpast

theorem announceChoice {title title' : Option Text} (h : p.states s t)
    (htitle : p.titles title title') :
    p.states (s.announceChoice title) (t.announceChoice title') := by
  have hlink := p.writeToc h (p.blockLink s.nesting.choiceAnchor s.number "Choice" htitle)
  have hheading := p.writeBody hlink
    (p.choiceHeading s.nesting.choiceAnchor s.number "Choice" htitle)
  have hpast := p.nest s.nesting.pastChoiceAnchor (p.writeBody hheading p.bodyLists.1)
  unfold WalkState.announceChoice
  rw [number_eq h, p.nesting_eq h]
  exact hpast

theorem announced (h : p.states s t) (path : Text) :
    p.states (Walk.announced s path) (Walk.announced t path) := note h _ _

theorem listEntry (h : p.states s t) (hentry : p.entries e e') (counters : List Nat) :
    p.states (Walk.listEntry s e counters) (Walk.listEntry t e' counters) := by
  have hlink := p.writeToc h (p.entryLink s.number hentry)
  have hheading := p.writeBody (withCounters hlink counters) (p.entryHeading (some s.number) hentry)
  unfold Walk.listEntry
  rw [number_eq h]
  exact hheading

end States

section Lines

variable {ctx : WalkContext} {p : Pairing ctx.layout} {excused : Failure → Prop} {line line' : Line}

theorem parallel_note (record record' : LogRecord) :
    Parallel excused p.states (Walk.note record) (Walk.note record') :=
  .change fun _ _ h => note h record record'

theorem parallel_openMenu (hplace : line'.place = line.place)
    (htitle : p.titles (Prompt.extract line.rest) (Prompt.extract line'.rest)) :
    Parallel excused p.states (Walk.openMenu line) (Walk.openMenu line') := by
  intro s t h
  have hlink := announceMenu h htitle
  rw [openMenu_apply, openMenu_apply, p.nesting_eq h, hplace]
  rcases s.nesting.maxLevels.reached s.nesting.level with m | _ | _
  · exact .error _ hlink
  · exact .ok () (withCounters hlink _)
  · exact .error _ hlink

theorem parallel_openChoice (hplace : line'.place = line.place)
    (htitle : p.titles (Prompt.extract line.rest) (Prompt.extract line'.rest)) :
    Parallel excused p.states (Walk.openChoice line) (Walk.openChoice line') := by
  intro s t h
  have hlink := announceChoice h htitle
  rw [openChoice_apply, openChoice_apply, p.nesting_eq h, hplace]
  rcases s.nesting.maxLevels.reached s.nesting.level with m | _ | _
  · exact .error _ hlink
  · exact .ok () (enterChoice (withCounters hlink _))
  · exact .error _ hlink

theorem parallel_closeMenu (hplace : line'.place = line.place) :
    Parallel excused p.states (Walk.closeMenu line) (Walk.closeMenu line') := by
  intro s t h
  have hlist := p.writeToc h p.tocLists.2
  rw [closeMenu_apply, closeMenu_apply, p.nesting_eq h, hplace]
  rcases s.nesting.counters with _ | ⟨last, _ | ⟨counter, outer⟩⟩
  · exact .error _ hlist
  · exact .error _ (withCounters hlist _)
  · exact .ok () (withCounters hlist _)

theorem parallel_closeChoice (hplace : line'.place = line.place) :
    Parallel excused p.states (Walk.closeChoice line) (Walk.closeChoice line') := by
  intro s t h
  have hlist := leaveChoice (p.writeBody h p.bodyLists.2)
  rw [closeChoice_apply, closeChoice_apply, p.nesting_eq h, hplace]
  rcases s.nesting.counters with _ | ⟨last, _ | ⟨counter, outer⟩⟩
  · exact .error _ hlist
  · exact .error _ (withCounters hlist _)
  · exact .ok () (withCounters hlist _)

/-- The details of entries that belong together are written or fail alike, because the name of the
files does not depend on the directory. -/
theorem writeDetails_meets (excused : Failure → Prop) {e e' : Entry} {s t : WalkState}
    (hentry : p.entries e e') (h : p.states s t) :
    Meets excused p.states
      (match ctx.layout.filePath e.directory with
        | .ok path => .ok () (s.writeBody (.details e path))
        | .error m => .error (.misused m) s)
      (match ctx.layout.filePath e'.directory with
        | .ok path => .ok () (t.writeBody (.details e' path))
        | .error m => .error (.misused m) t) := by
  cases hname : ctx.layout.fileName.shown with
  | error m =>
      rw [Layout.filePath_eq_error hname, Layout.filePath_eq_error hname]
      exact .error _ h
  | ok name =>
      rw [Layout.filePath_eq hname, Layout.filePath_eq hname]
      exact .ok () (p.writeBody h (p.details hentry (Layout.filePath_eq hname _)
        (Layout.filePath_eq hname _)))

theorem parallel_renderEntry {e e' : Entry} (hentry : p.entries e e') :
    Parallel excused p.states (Walk.renderEntry ctx e) (Walk.renderEntry ctx e') := by
  intro s t h
  have hhidden : (e'.isHidden && !t.showInternal) = (e.isHidden && !s.showInternal) := by
    rw [p.isHidden_eq hentry, p.showInternal_eq h]
  have hchoice : t.nesting.inChoice = s.nesting.inChoice := by rw [p.nesting_eq h]
  have hcounters : t.nesting.counters = s.nesting.counters := by rw [p.nesting_eq h]
  cases hshown : (e.isHidden && !s.showInternal) with
  | true =>
      rw [renderEntry_of_hidden hshown, renderEntry_of_hidden (hhidden.trans hshown)]
      exact .ok () (note h _ _)
  | false =>
      by_cases hin : s.nesting.inChoice = 0
      · cases hs : s.nesting.counters with
        | nil =>
            have hlink := p.writeToc h (p.entryLink s.number hentry)
            rw [renderEntry_unnested hshown hin hs, renderEntry_unnested (hhidden.trans hshown)
              (hchoice.trans hin) (hcounters.trans hs), number_eq h]
            exact .error _ hlink
        | cons counter outer =>
            have hdetails := writeDetails_meets excused hentry
              (listEntry h hentry ((counter + 1) :: outer))
            rw [renderEntry_outside hshown hin hs, renderEntry_outside (hhidden.trans hshown)
              (hchoice.trans hin) (hcounters.trans hs)]
            exact hdetails
      · have hdetails := writeDetails_meets excused hentry
          (p.writeBody h (p.entryHeading none hentry))
        rw [renderEntry_inside hshown hin, renderEntry_inside (hhidden.trans hshown)
          (by rwa [hchoice])]
        exact hdetails

/-- Source lines with the same argument lead to the same place. -/
theorem parallel_sourceLine (hrest : line'.rest = line.rest) :
    Parallel excused p.states (Walk.sourceLine ctx (fun _ => Pure.pure ()) line)
      (Walk.sourceLine ctx (fun _ => Pure.pure ()) line') := by
  rw [Walk.sourceLine, Walk.sourceLine, hrest]
  refine .bind (.lift _) fun resolved => ?_
  cases resolved with
  | none => exact parallel_note _ _
  | some resolved =>
      refine .bind (parallel_note _ _) fun _ => ?_
      cases resolved.isNameable with
      | true => exact .pure ()
      | false =>
          refine .bind (fun s t h => ?_) fun _ => .throw _
          rw [announce_apply, announce_apply]
          cases ctx.layout.filePath resolved.directory with
          | error m => exact .error _ h
          | ok path => exact .ok path (announced h path)

/-- Two lines say the same, up to titles that belong together and to the entries and conditions that
they declare. -/
structure SaysAlike (p : Pairing ctx.layout) (line line' : Line) : Prop where
  keyword : line'.keyword? = line.keyword?
  place : line'.place = line.place
  title : line.keyword? = some .menu ∨ line.keyword? = some .choice →
    p.titles (Prompt.extract line.rest) (Prompt.extract line'.rest)
  source : line.keyword? = some .source → line'.rest = line.rest
  name : line.keyword? = some .config →
    (Text.firstWord line'.rest = [] ↔ Text.firstWord line.rest = [])

/-- Lines that say the same do the same in both walks if the entries that they declare, and what
they do to the conditions, belong together. -/
theorem parallel_effect {directory directory' : Text} {after after' : List Line}
    (h : SaysAlike p line line')
    (hentry : line.declares → ∀ s t, p.states s t →
      p.entries (line.entry directory s.conditions.inForce after)
        (line'.entry directory' t.conditions.inForce after'))
    (hpush : line.keyword? = some .ifWord →
      Parallel excused p.states (Walk.pushCondition line) (Walk.pushCondition line'))
    (hpop : line.keyword? = some .endIf →
      Parallel excused p.states (Walk.popCondition line) (Walk.popCondition line')) :
    Parallel excused p.states (Walk.effect ctx (fun _ => Pure.pure ()) directory line after)
      (Walk.effect ctx (fun _ => Pure.pure ()) directory' line' after') := by
  cases hk : line.keyword? with
  | none =>
      rw [effect_of_ignored after (.inl hk),
        effect_of_ignored after' (.inl (h.keyword.trans hk))]
      exact parallel_note _ _
  | some keyword =>
      have hk' := h.keyword.trans hk
      cases keyword with
      | source =>
          rw [effect_source after hk, effect_source after' hk']
          exact parallel_sourceLine (h.source hk)
      | menu =>
          rw [effect_menu after hk, effect_menu after' hk']
          exact .bind (parallel_openMenu h.place (h.title (.inl hk)))
            fun _ s t hst => .ok () (note hst _ _)
      | choice =>
          rw [effect_choice after hk, effect_choice after' hk']
          exact .bind (parallel_openChoice h.place (h.title (.inr hk)))
            fun _ s t hst => .ok () (note hst _ _)
      | endMenu =>
          rw [effect_endMenu after hk, effect_endMenu after' hk']
          exact parallel_closeMenu h.place
      | endChoice =>
          rw [effect_endChoice after hk, effect_endChoice after' hk']
          exact parallel_closeChoice h.place
      | ifWord =>
          rw [effect_if after hk, effect_if after' hk']
          exact hpush hk
      | endIf =>
          rw [effect_endIf after hk, effect_endIf after' hk']
          exact hpop hk
      | config =>
          by_cases hname : Text.firstWord line.rest = []
          · rw [effect_nameless after hk hname, effect_nameless after' hk' ((h.name hk).2 hname)]
            exact parallel_note _ _
          · intro s t hst
            have hname' : Text.firstWord line'.rest ≠ [] := fun hnil => hname ((h.name hk).1 hnil)
            rw [effect_config after ⟨hk, hname⟩, effect_config after' ⟨hk', hname'⟩]
            apply parallel_renderEntry (hentry ⟨hk, hname⟩ s t hst)
            -- A line that ends the attributes is remarked on in one walk or in both.
            cases (after.dropWhile Line.isAttribute).head? <;>
              cases (after'.dropWhile Line.isAttribute).head? <;>
              exact p.logs _ _ hst
      | _ =>
          have hignored : line.isAttribute = true := by
            simp [Line.isAttribute, Line.attribute?, hk]
          have hignored' : line'.isAttribute = true := by
            simp [Line.isAttribute, Line.attribute?, hk']
          rw [effect_of_ignored after (.inr hignored), effect_of_ignored after' (.inr hignored')]
          exact parallel_note _ _

end Lines

end Pairing

namespace Parallel

variable {ctx ctx' : WalkContext}

theorem follow_flatMap {α β : Type} {r : α → β → Prop} {f : α → List Step} {g : β → List Step}
    {xs : List α} {ys : List β} (h : List.Forall₂ r xs ys)
    (hsteps : ∀ x y, r x y →
      Parallel excused R (Walk.follow ctx (f x)) (Walk.follow ctx' (g y))) :
    Parallel excused R (Walk.follow ctx (xs.flatMap f)) (Walk.follow ctx' (ys.flatMap g)) := by
  induction h with
  | nil => exact pure ()
  | cons hxy _ ih =>
      simp only [List.flatMap_cons, follow_append]
      exact bind (hsteps _ _ hxy) fun _ => ih

/-- Lines that do alike and lead to the same file take walks that are alike. -/
theorem follow_lineSteps {below below' : Text → List Step} {directory directory' : Text}
    {place place' : Line × List Line}
    (hline : Parallel excused R (perform ctx (.line directory place.1 place.2))
      (perform ctx' (.line directory' place'.1 place'.2)))
    (htarget : ctx'.target? place'.1 = ctx.target? place.1)
    (hbelow : ∀ d, Parallel excused R (Walk.follow ctx (below d)) (Walk.follow ctx' (below' d))) :
    Parallel excused R (Walk.follow ctx (lineSteps ctx below directory place))
      (Walk.follow ctx' (lineSteps ctx' below' directory' place')) := by
  simp only [lineSteps, follow_cons, htarget]
  refine bind hline fun _ => ?_
  cases ctx.target? place.1 with
  | none => exact pure ()
  | some target => exact hbelow target

end Parallel

/-- A file is entered alike where every path shows lines that belong together. -/
theorem Pairing.parallel_enter {p : Pairing ctx.layout} {r : List Line → List Line → Prop}
    (h : ∀ path, LinesAlike ctx ctx' r path) (hlayout : ctx'.layout = ctx.layout)
    (directory : Text) :
    Parallel excused p.states (perform ctx (.enter directory))
      (perform ctx' (.enter directory)) := by
  intro s t hs
  have hopens (path : Text) := p.opens path (announced hs path)
  simp only [perform, map_apply, openFile_apply, hlayout]
  cases ctx.layout.filePath directory with
  | error m => exact .error _ hs
  | ok path =>
      cases ctx.layout.hasNameableFiles with
      | false => exact .error _ (announced hs path)
      | true =>
          simp only [if_true]
          cases h path with
          | unread e he he' =>
              rw [he, he']
              exact .error _ (announced hs path)
          | uncut m text text' htext htext' hcut hcut' =>
              simp only [htext, htext', hcut, hcut']
              exact .error _ (hopens path)
          | cut lines lines' text text' htext htext' hcut hcut' _ =>
              simp only [htext, htext', hcut, hcut']
              exact .ok () (hopens path)

/-- Under other settings, or on another tree, files have lines that do alike one by one: they open
and close the same blocks, declare entries and attributes at the same places, and lead to the same
files. -/
structure Echoes (ctx ctx' : WalkContext) (excused : Failure → Prop)
    (R : WalkState → WalkState → Prop) (like : Line → Line → Prop) : Prop where
  layout : ctx'.layout = ctx.layout
  paths : ∀ path, LinesAlike ctx ctx' (List.Forall₂ like) path
  turn : ∀ {line line'}, like line line' → line'.turn = line.turn
  isAttribute : ∀ {line line'}, like line line' → line'.isAttribute = line.isAttribute
  declares : ∀ {line line'}, like line line' → (line'.declares ↔ line.declares)
  target : ∀ {line line'}, like line line' → ctx'.target? line' = ctx.target? line
  enter : ∀ directory, Parallel excused R (perform ctx (.enter directory))
    (perform ctx' (.enter directory))
  line : ∀ {line line' after after'} directory, like line line' → List.Forall₂ like after after' →
    Parallel excused R (perform ctx (.line directory line after))
      (perform ctx' (.line directory line' after'))
  leave : ∀ unread unread', Parallel excused R (perform ctx (.leave unread))
    (perform ctx' (.leave unread'))

/-- Files whose lines do alike are walked alike, by induction on how many files may be open. Where
the first walk is excused for having too many files open, the second may have more. -/
theorem Echoes.itinerary {like : Line → Line → Prop} (h : Echoes ctx ctx' excused R like)
    {depth depth' : Nat}
    (hdepth : depth = depth' ∨ depth ≤ depth' ∧ excused (.misused .endless)) (directory : Text) :
    Parallel excused R (follow ctx (itinerary ctx depth directory))
      (follow ctx' (Walk.itinerary ctx' depth' directory)) := by
  induction depth generalizing depth' directory with
  | zero =>
      rcases hdepth with rfl | ⟨-, hendless⟩
      · exact .throw _
      · exact fun s t _ => .excused hendless s _
  | succ depth ih =>
      obtain ⟨fewer, rfl⟩ : ∃ fewer, depth' = fewer + 1 := ⟨depth' - 1, by omega⟩
      rw [Walk.itinerary, Walk.itinerary, follow_cons, follow_cons]
      refine .bind (h.enter directory) fun _ => ?_
      rcases LinesAlike.fileLines? h.paths h.layout directory with
        ⟨hnone, hnone'⟩ | ⟨lines, lines', hlines, hlines', hlike⟩
      · rw [hnone, hnone']
        exact .pure ()
      · rw [hlines, hlines']
        simp only [Option.elim_some, follow_append, passSteps]
        have hplaces := forall₂_dispatched h.turn h.isAttribute h.declares hlike false 0
        refine .bind (.follow_flatMap hplaces ?_) fun _ => ?_
        · rintro place place' ⟨hline, hafter⟩
          have hfewer : depth = fewer ∨ depth ≤ fewer ∧ excused (.misused .endless) :=
            hdepth.imp Nat.succ.inj (And.imp_left Nat.le_of_succ_le_succ)
          exact .follow_lineSteps (h.line directory hline hafter) (h.target hline) (ih hfewer)
        · simp only [follow_cons, follow_nil]
          exact .bind (h.leave _ _) fun _ => .pure ()

end Walk

end KconfigReference
