import KconfigReference.Proofs.Structure.Walking
import KconfigReference.Proofs.Walk.Parallel

/-!
Source lines in place. A file whose blocks are closed within it hands the walk back as it took it
over, up to what it wrote. Main statement: to walk lines with a source line among them is to walk
them with the lines of the sourced file in its place, except for the paths that the entries of the
file show.
-/

namespace KconfigReference

namespace Line

variable {lines more : List Line}

theorem takeWhile_append_of_noAttributeFirst (h : NoAttributeFirst more) (lines : List Line) :
    (lines ++ more).takeWhile isAttribute = lines.takeWhile isAttribute := by
  induction lines with
  | nil =>
      cases more with
      | nil => rfl
      | cons first rest => simp [noAttributeFirst_cons.1 h]
  | cons line lines ih =>
      rw [List.cons_append, List.takeWhile_cons, List.takeWhile_cons, ih]

theorem noAttributeFirst_append (h : NoAttributeFirst lines) (hmore : NoAttributeFirst more) :
    NoAttributeFirst (lines ++ more) := by
  cases lines with
  | nil => exact hmore
  | cons first rest => exact h

/-- An entry ends where the next line is no attribute line, whatever that line is. -/
theorem entry_append (line : Line) (directory : Text) (conditions : List Text) (lines : List Line)
    (h : NoAttributeFirst more) :
    line.entry directory conditions (lines ++ more) = line.entry directory conditions lines := by
  rw [entry, entry, takeWhile_append_of_noAttributeFirst h]

end Line

namespace Walk

/-- How many blocks are open after some lines; none where a line closes a block outside them. -/
def openAfter (opened : Nat) (lines : List Line) : Option Nat :=
  lines.foldlM (fun opened line => line.turn.count opened) opened

/-- Every block that the lines open they close, and they close no other. -/
def Balanced (lines : List Line) : Prop := openAfter 0 lines = some 0

instance (lines : List Line) : Decidable (Balanced lines) := by unfold Balanced; infer_instance

variable {line : Line} {lines more : List Line} {opened next : Nat}

theorem openAfter_cons (opened : Nat) (line : Line) (rest : List Line) :
    openAfter opened (line :: rest) = (line.turn.count opened).bind (openAfter · rest) := rfl

theorem openAfter_cons_of_isAttribute (h : line.isAttribute = true) (opened : Nat)
    (rest : List Line) : openAfter opened (line :: rest) = openAfter opened rest := by
  rw [openAfter_cons, Line.turn_of_isAttribute h]
  rfl

/-- Blocks around make no difference. -/
theorem Turn.count_add {turn : Turn} (h : turn.count opened = some next) (outer : Nat) :
    turn.count (opened + outer) = some (next + outer) := by
  cases turn with
  | onward =>
      cases h
      rfl
  | inside =>
      cases h
      simp only [Turn.count, Option.some.injEq]
      omega
  | done =>
      cases opened with
      | zero => cases h
      | succ inner =>
          cases h
          rw [Nat.add_right_comm]
          rfl

theorem openAfter_add (h : openAfter opened lines = some next) (outer : Nat) :
    openAfter (opened + outer) lines = some (next + outer) := by
  induction lines generalizing opened with
  | nil =>
      cases h
      rfl
  | cons line rest ih =>
      rw [openAfter_cons, Option.bind_eq_some_iff] at h
      obtain ⟨between, hcount, hrest⟩ := h
      rw [openAfter_cons, Turn.count_add hcount, Option.bind_some, ih hrest]

/-- A pass over lines that close no block outside them does not depend on the blocks around. -/
theorem dispatched_add (h : openAfter opened lines = some next) (taking : Bool) (outer : Nat) :
    dispatched taking (opened + outer) lines = dispatched taking opened lines := by
  induction lines generalizing taking opened with
  | nil => rfl
  | cons line rest ih =>
      rw [dispatched, dispatched]
      split
      next htaken =>
        rw [Bool.and_eq_true] at htaken
        rw [openAfter_cons_of_isAttribute htaken.2] at h
        exact ih h true
      next =>
        rw [openAfter_cons, Option.bind_eq_some_iff] at h
        obtain ⟨between, hcount, hrest⟩ := h
        rw [hcount, Turn.count_add hcount]
        exact congrArg _ (ih hrest _)

theorem dispatched_of_noAttributeFirst (h : Line.NoAttributeFirst lines) (taking : Bool)
    (opened : Nat) : dispatched taking opened lines = dispatched false opened lines := by
  cases lines with
  | nil => rfl
  | cons first rest => simp [dispatched, Line.noAttributeFirst_cons.1 h]

theorem leftOver_of_noAttributeFirst (h : Line.NoAttributeFirst lines) (taking : Bool)
    (opened : Nat) : leftOver taking opened lines = leftOver false opened lines := by
  cases lines with
  | nil => rfl
  | cons first rest => simp [leftOver, Line.noAttributeFirst_cons.1 h]

/-- A pass over lines and more lines, by induction on the lines. -/
theorem dispatched_append (h : Line.NoAttributeFirst more) (taking : Bool) (opened : Nat)
    (lines : List Line) :
    dispatched taking opened (lines ++ more) =
      (dispatched taking opened lines).map (fun place => (place.1, place.2 ++ more)) ++
        (openAfter opened lines).elim [] (dispatched false · more) := by
  induction lines generalizing taking opened with
  | nil => exact dispatched_of_noAttributeFirst h taking opened
  | cons line rest ih =>
      rw [List.cons_append, dispatched, dispatched]
      split
      next htaken =>
        rw [Bool.and_eq_true] at htaken
        rw [ih, openAfter_cons_of_isAttribute htaken.2]
      next =>
        rw [openAfter_cons]
        cases line.turn.count opened with
        | none => rfl
        | some between =>
            simp only [Option.bind_some, List.map_cons, List.cons_append, ih]

theorem leftOver_append (h : Line.NoAttributeFirst more) (taking : Bool) (opened : Nat)
    (lines : List Line) :
    leftOver taking opened (lines ++ more) =
      (openAfter opened lines).elim (leftOver taking opened lines ++ more)
        (leftOver false · more) := by
  induction lines generalizing taking opened with
  | nil => exact leftOver_of_noAttributeFirst h taking opened
  | cons line rest ih =>
      rw [List.cons_append, leftOver, leftOver]
      split
      next htaken =>
        rw [Bool.and_eq_true] at htaken
        rw [ih, openAfter_cons_of_isAttribute htaken.2]
      next =>
        rw [openAfter_cons]
        cases line.turn.count opened with
        | none => rfl
        | some between => simp only [Option.bind_some, ih]

/-- The file of a directory holds the declaration of an entry among these lines. -/
def DeclaredIn (directory : Text) (lines : List Line) (entry : Entry) : Prop :=
  ∃ line after conditions, line :: after <:+ lines ∧ line.declares ∧
    entry = line.entry directory conditions after

/-- An item of the body is the same in both, or it holds the details of an entry of the file of
`target`, once with the path of that file and once with the path of the file of `directory`. -/
inductive Relocated (layout : Layout) (target directory : Text) (inner : List Line)
    (item item' : BodyItem) : Prop where
  | same (h : item'.text = item.text)
  | moved (entry : Entry) (path path' : Text) (hentry : DeclaredIn target inner entry)
      (hpath : layout.filePath target = .ok path) (hpath' : layout.filePath directory = .ok path')
      (h : item.text = Markup.entryDetails entry path)
      (h' : item'.text = Markup.entryDetails entry path')

variable {ctx : WalkContext} {target directory : Text} {inner before after : List Line}

/-- Two walks that differ in the directory of the entries of one file. -/
def relocation (layout : Layout) (target directory : Text) (inner : List Line) :
    Likeness layout where
  entries e e' := e' = e ∨ DeclaredIn target inner e ∧ e' = { e with directory := directory }
  body := Relocated layout target directory inner
  conditions c c' := c' = c
  opened _ _ := True
  name_eq h := by rcases h with rfl | ⟨-, rfl⟩ <;> rfl
  description_eq h := by rcases h with rfl | ⟨-, rfl⟩ <;> rfl
  heading _ _ h := .same h
  details := by
    rintro e e' path path' (rfl | ⟨hdeclared, rfl⟩) hpath hpath'
    · rw [hpath] at hpath'
      cases hpath'
      exact .same rfl
    · have htarget : e.directory = target := by
        obtain ⟨line, after, conditions, -, -, rfl⟩ := hdeclared
        exact Entry.directory_withLines _ _
      exact .moved e path path' hdeclared (htarget ▸ hpath) hpath' rfl rfl
  push _ h := h

/-- Such walks do alike, unless the first has too many files open. -/
abbrev Relocates (ctx : WalkContext) (target directory : Text) (inner : List Line)
    (m m' : Walk Unit) : Prop :=
  Parallel (· = .misused .endless) (relocation ctx.layout target directory inner).Alike m m'

theorem relocation_refl (layout : Layout) (target directory : Text) (inner : List Line)
    (s : WalkState) : (relocation layout target directory inner).Alike s s :=
  ⟨rfl, rfl, rfl, List.forall₂_same.2 fun _ _ => .same rfl, rfl, trivial⟩

/-- A line does the same to both walks wherever it stands, if the entry that it declares is the same
or moves. -/
theorem relocation_effect {line : Line} {directory₁ directory₂ : Text} {after₁ after₂ : List Line}
    (hentry : line.declares → ∀ conditions,
      (relocation ctx.layout target directory inner).entries
        (line.entry directory₁ conditions after₁) (line.entry directory₂ conditions after₂)) :
    Relocates ctx target directory inner
      (effect ctx (fun _ => pure ()) directory₁ line after₁)
      (effect ctx (fun _ => pure ()) directory₂ line after₂) := by
  refine .effect (fun hdeclares c c' hc => ?_) (fun _ => .pushCondition (fun _ _ => Iff.rfl) line)
    (fun _ => .popCondition (fun _ _ => Iff.rfl) line)
  cases hc
  exact hentry hdeclares c.inForce

/-- A walk is like itself, whatever the directory of some entries was before it. -/
theorem mirrors_self : Mirrors ctx ctx.tree (· = .misused .endless)
    (relocation ctx.layout target directory inner) (· = ·) where
  paths path := .refl (fun lines => List.forall₂_same.2 fun _ _ => rfl) ctx path
  turn h := by rw [h]
  isAttribute h := by rw [h]
  declares h := by rw [h]
  target h := by rw [h]
  line directory hline hafter := by
    obtain rfl := List.forall₂_eq_eq_eq ▸ hafter
    cases hline
    exact relocation_effect fun _ _ => .inl rfl

/-- More files may be open in the second walk. -/
theorem relocation_itinerary {depth depth' : Nat} (hdepth : depth ≤ depth') (d : Text) :
    Relocates ctx target directory inner
      (follow ctx (itinerary ctx depth d)) (follow ctx (itinerary ctx depth' d)) :=
  mirrors_self.itinerary (.inr ⟨hdepth, rfl⟩) d

theorem passSteps_append {below : Text → List Step} (h : Line.NoAttributeFirst more) (taking : Bool)
    (opened : Nat) (lines : List Line) :
    passSteps ctx below directory taking opened (lines ++ more) =
      (dispatched taking opened lines).flatMap
          (fun place => lineSteps ctx below directory (place.1, place.2 ++ more)) ++
        (openAfter opened lines).elim [] (passSteps ctx below directory false · more) := by
  rw [passSteps, dispatched_append h, List.flatMap_append, List.flatMap_map]
  cases openAfter opened lines <;> rfl

/-- What comes after some lines makes no difference to them, if it does not begin with an attribute
line. -/
theorem relocation_lines {more' : List Line} (h : Line.NoAttributeFirst more)
    (h' : Line.NoAttributeFirst more') (depth : Nat) (places : List (Line × List Line)) :
    Relocates ctx target directory inner
      (follow ctx (places.flatMap fun place =>
        lineSteps ctx (itinerary ctx depth) directory (place.1, place.2 ++ more)))
      (follow ctx (places.flatMap fun place =>
        lineSteps ctx (itinerary ctx depth) directory (place.1, place.2 ++ more'))) := by
  refine .follow_flatMap (List.forall₂_same.2 fun _ _ => rfl) ?_
  rintro place _ rfl
  refine .follow_lineSteps (relocation_effect fun _ conditions => .inl ?_) rfl
    (relocation_itinerary (Nat.le_refl depth))
  rw [Line.entry_append _ _ _ _ h, Line.entry_append _ _ _ _ h']

theorem relocation_pass_self (depth opened : Nat) :
    Relocates ctx target directory inner
      (follow ctx (passSteps ctx (itinerary ctx depth) directory false opened lines))
      (follow ctx (passSteps ctx (itinerary ctx depth) directory false opened lines)) := by
  refine .follow_flatMap (List.forall₂_same.2 fun _ _ => rfl) ?_
  rintro place _ rfl
  exact .follow_lineSteps (relocation_effect fun _ _ => .inl rfl) rfl
    (relocation_itinerary (Nat.le_refl depth))

/-- The pass over the lines of a file, in the file and in place. -/
theorem relocation_inner (hafter : Line.NoAttributeFirst after) (depth : Nat) :
    Relocates ctx target directory inner
      (follow ctx (passSteps ctx (itinerary ctx depth) target false 0 inner))
      (follow ctx ((dispatched false 0 inner).flatMap fun place =>
        lineSteps ctx (itinerary ctx (depth + 1)) directory (place.1, place.2 ++ after))) := by
  refine .follow_flatMap (r := fun place place' => place = place' ∧ place.1 :: place.2 <:+ inner)
    (List.forall₂_same.2 fun place hplace => ⟨rfl, suffix_of_mem_dispatched hplace⟩) ?_
  rintro place _ ⟨rfl, hsuffix⟩
  refine .follow_lineSteps (relocation_effect fun hdeclares conditions => .inr ⟨?_, ?_⟩) rfl
    (relocation_itinerary (Nat.le_succ depth))
  · exact ⟨place.1, place.2, conditions, hsuffix, hdeclares, rfl⟩
  · rw [Line.entry_append _ _ _ _ hafter]
    exact Line.entry_directory _ _ _ _ _

/-- A source line on its own only says where it leads. -/
theorem exists_effect_of_leadsTo (hk : line.keyword? = some .source)
    (htarget : ctx.LeadsTo line target) (directory : Text) (after : List Line) (s : WalkState) :
    ∃ record, effect ctx (fun _ => pure ()) directory line after s = .ok () (s.note record) := by
  obtain ⟨resolved, hresolve, hnameable, -⟩ := htarget
  refine ⟨.debug resolved.remark, ?_⟩
  simp only [effect_source after hk, sourceLine, hresolve, mapError_ok, bind_apply, lift_ok,
    debug_apply, hnameable, if_true, pure_apply]

/-- What a source line does is what the lines of its file do in its place: the file is entered with
the state as it is, and left with the blocks as they were. -/
theorem relocation_source (hk : line.keyword? = some .source) (htarget : ctx.LeadsTo line target)
    (hinner : ctx.fileLines? target = some inner) (hafter : Line.NoAttributeFirst after)
    (depth : Nat) :
    Relocates ctx target directory inner
      (follow ctx (lineSteps ctx (itinerary ctx depth) directory (line, after)))
      (follow ctx ((dispatched false 0 inner).flatMap fun place =>
        lineSteps ctx (itinerary ctx depth) directory (place.1, place.2 ++ after))) := by
  intro s t h
  obtain ⟨record, hline⟩ := exists_effect_of_leadsTo hk htarget directory after s
  have hleads : ctx.target? line = some target := by
    obtain ⟨resolved, hresolve, hnameable, hdirectory⟩ := htarget
    exact WalkContext.target?_of_leadsTo hk hresolve hnameable hdirectory
  simp only [lineSteps, hleads, Option.elim_some, follow_cons, bind_apply, perform, hline]
  cases depth with
  | zero =>
      have hendless : follow ctx (itinerary ctx 0 target) (s.note record) =
          .error (.misused .endless) (s.note record) := rfl
      rw [hendless]
      refine .excused ?_ _ _
      rfl
  | succ depth =>
      obtain ⟨path, -, hopen⟩ := openFile_of_fileLines? hinner (s.note record)
      rw [itinerary, hinner, Option.elim_some, follow_cons, bind_apply, perform, map_apply, hopen]
      have hopened : (relocation ctx.layout target directory inner).Alike
          { announced (s.note record) path with opened := s.opened.push path } t :=
        ⟨h.nesting, h.showInternal, h.toc, h.body, h.conditions, trivial⟩
      have hleave : Relocates ctx target directory inner
          (follow ctx [.leave (leftOver false 0 inner)]) (pure ()) := fun u v h =>
        .ok () ⟨h.nesting, h.showInternal, h.toc, h.body, h.conditions, trivial⟩
      have hpass := (relocation_inner hafter depth).bind fun _ => hleave
      rw [bind_pure_unit] at hpass
      rw [follow_append]
      exact hpass _ _ hopened

theorem Balanced.openAfter_eq (h : Balanced inner) (opened : Nat) :
    openAfter opened inner = some opened := by
  simpa using openAfter_add h opened

theorem dispatched_cons_source (hk : line.keyword? = some .source) (opened : Nat)
    (after : List Line) :
    dispatched false opened (line :: after) = (line, after) :: dispatched false opened after := by
  have hturn : line.turn = .onward := by simp [Line.turn, hk]
  have hdeclares : ¬line.declares := fun h => by simpa [hk] using h.1
  simp [dispatched, hturn, hdeclares, Turn.count]

theorem leftOver_cons_source (hk : line.keyword? = some .source) (opened : Nat)
    (after : List Line) :
    leftOver false opened (line :: after) = leftOver false opened after := by
  have hturn : line.turn = .onward := by simp [Line.turn, hk]
  have hdeclares : ¬line.declares := fun h => by simpa [hk] using h.1
  simp [leftOver, hturn, hdeclares, Turn.count]

/-- The lines around the source line do the same, and it does what the lines of its file do. -/
theorem relocation_pass (hk : line.keyword? = some .source) (htarget : ctx.LeadsTo line target)
    (hinner : ctx.fileLines? target = some inner) (hbalanced : Balanced inner)
    (hfirst : Line.NoAttributeFirst inner) (hafter : Line.NoAttributeFirst after) (depth : Nat)
    (before : List Line) :
    Relocates ctx target directory inner
      (follow ctx (passSteps ctx (itinerary ctx depth) directory false 0
        (before ++ line :: after)))
      (follow ctx (passSteps ctx (itinerary ctx depth) directory false 0
        (before ++ (inner ++ after)))) := by
  have hline : line.isAttribute = false := Line.isAttribute_of_keyword hk (by simp)
  have hmore : Line.NoAttributeFirst (line :: after) := Line.noAttributeFirst_cons.2 hline
  have hmore' := Line.noAttributeFirst_append hfirst hafter
  rw [passSteps_append hmore, passSteps_append hmore', follow_append, follow_append]
  refine .bind (relocation_lines hmore hmore' depth _) fun _ => ?_
  cases openAfter 0 before with
  | none => exact .pure ()
  | some opened =>
      have hdispatched : dispatched false opened inner = dispatched false 0 inner := by
        simpa using dispatched_add hbalanced false opened
      have hsource : passSteps ctx (itinerary ctx depth) directory false opened (line :: after) =
          lineSteps ctx (itinerary ctx depth) directory (line, after) ++
            passSteps ctx (itinerary ctx depth) directory false opened after := by
        simp only [passSteps, dispatched_cons_source hk, List.flatMap_cons]
      simp only [Option.elim_some]
      rw [hsource, passSteps_append hafter, hbalanced.openAfter_eq, hdispatched, follow_append,
        follow_append]
      refine .bind (relocation_source hk htarget hinner hafter depth) fun _ => ?_
      exact relocation_pass_self depth _

/-- The lines that are left are the same, or they still hold the source line and its replacement. -/
theorem leftOver_source (hk : line.keyword? = some .source) (hbalanced : Balanced inner)
    (hfirst : Line.NoAttributeFirst inner) (hafter : Line.NoAttributeFirst after)
    (before : List Line) :
    let left := leftOver false 0 (before ++ line :: after)
    let left' := leftOver false 0 (before ++ (inner ++ after))
    left' = left ∨ ∃ rest, left = rest ++ line :: after ∧ left' = rest ++ (inner ++ after) := by
  have hline : line.isAttribute = false := Line.isAttribute_of_keyword hk (by simp)
  have hmore : Line.NoAttributeFirst (line :: after) := Line.noAttributeFirst_cons.2 hline
  simp only
  rw [leftOver_append hmore, leftOver_append (Line.noAttributeFirst_append hfirst hafter)]
  cases openAfter 0 before with
  | none => exact .inr ⟨_, rfl, rfl⟩
  | some opened =>
      refine .inl ?_
      simp only [Option.elim_some]
      rw [leftOver_append hafter, hbalanced.openAfter_eq, leftOver_cons_source hk, Option.elim_some]

/-- Two states that differ, as far as the reference goes, in the paths that the entries of one file
show. -/
structure SameButPaths (layout : Layout) (target directory : Text) (inner : List Line)
    (s t : WalkState) : Prop where
  toc : t.toc.toList.map TocItem.text = s.toc.toList.map TocItem.text
  body : List.Forall₂ (Relocated layout target directory inner) s.body.toList t.body.toList
  nesting : t.nesting = s.nesting
  conditions : t.conditions = s.conditions

/-- To walk lines with a source line among them is to walk them with the lines of the sourced file
in its place, if that file closes the blocks that it opens and no others, and neither its first line
nor the line after the source line is an attribute line that the other would take away or hand over.
From any state both walks end, or both fail alike, unless the files source each other without end.
The lines that are left are the same, or they still hold the source line where the other holds its
replacement; and what was written differs at most in the paths that the entries of the file show. -/
theorem source_renders_inline {cursor cursor' : Cursor} (hk : line.keyword? = some .source)
    (htarget : ctx.LeadsTo line target) (hinner : ctx.fileLines? target = some inner)
    (hbalanced : Balanced inner) (hfirst : Line.NoAttributeFirst inner)
    (hafter : Line.NoAttributeFirst after) (hcursor : cursor.lines = before ++ line :: after)
    (hcursor' : cursor'.lines = before ++ (inner ++ after)) (s : WalkState)
    (hends : ∀ t, processBlock ctx directory cursor s ≠ .error (.misused .endless) t) :
    match processBlock ctx directory cursor s, processBlock ctx directory cursor' s with
    | .ok left t, .ok left' t' =>
        (left' = left ∨ ∃ rest, left = rest ++ line :: after ∧ left' = rest ++ (inner ++ after)) ∧
          SameButPaths ctx.layout target directory inner t t'
    | .error e t, .error e' t' => e' = e ∧ SameButPaths ctx.layout target directory inner t t'
    | _, _ => False := by
  have hleft := leftOver_source hk hbalanced hfirst hafter before
  have hpass := relocation_pass hk htarget hinner hbalanced hfirst hafter (depthBound ctx s) before
    s s (relocation_refl ctx.layout target directory inner s)
  rw [processBlock_apply, hcursor] at hends ⊢
  rw [processBlock_apply, hcursor']
  revert hpass hends
  generalize follow ctx (passSteps ctx (itinerary ctx (depthBound ctx s)) directory false 0
    (before ++ line :: after)) s = outcome
  generalize follow ctx (passSteps ctx (itinerary ctx (depthBound ctx s)) directory false 0
    (before ++ (inner ++ after))) s = outcome'
  intro hends hmeets
  cases hmeets with
  | ok _ h => exact ⟨hleft, h.toc, h.body, h.nesting, h.conditions⟩
  | error e h => exact ⟨rfl, h.toc, h.body, h.nesting, h.conditions⟩
  | excused h t _ =>
      subst h
      exact absurd rfl (hends t)

/-- A menu whose entries come from a file and from the lines after it. -/
def sampleMenu : Items :=
  .block .menu ⟨"menu \"M\"", "./Kconfig", 1⟩
    (.source ⟨"source \"d/Kconfig\"", "./Kconfig", 2⟩ "./d" sampleChoice
      (.config ⟨"config X", "./Kconfig", 3⟩ [⟨"bool \"x\"", "./Kconfig", 4⟩] .nil))
    ⟨"endmenu", "./Kconfig", 5⟩ .nil

theorem wellFormed_sampleMenu : sampleMenu.WellFormed sampleContext := by
  have hleads : sampleContext.LeadsTo ⟨"source \"d/Kconfig\"", "./Kconfig", 2⟩ "./d" :=
    ⟨_, by rfl, by rfl, by rfl⟩
  refine ⟨by decide, by decide, ⟨by decide, hleads, reads_sampleChoice, ?_, by decide, ?_, trivial⟩,
    trivial⟩
  · exact wellFormed_sample.2.2.2.2.2.2.1
  · simp only [List.mem_singleton, forall_eq]
    decide

/-- The entries of the choice show the path of the menu where the choice is written in the menu. -/
theorem source_renders_inline_sample :
    let start := WalkState.rooted (.count 3) (.count 0) false "B"
    let directory : Text := "."
    let after : List Line :=
      [⟨"config X", "./Kconfig", 3⟩, ⟨"bool \"x\"", "./Kconfig", 4⟩, ⟨"endmenu", "./Kconfig", 5⟩]
    let sourced : Cursor :=
      .ofLines (⟨"menu \"M\"", "./Kconfig", 1⟩ :: ⟨"source \"d/Kconfig\"", "./Kconfig", 2⟩ :: after)
    let inlined : Cursor :=
      .ofLines (⟨"menu \"M\"", "./Kconfig", 1⟩ :: (sampleChoice.lines ++ after))
    Balanced sampleChoice.lines ∧ Line.NoAttributeFirst sampleChoice.lines ∧
      Line.NoAttributeFirst after ∧
      ∃ t t', processBlock sampleContext directory sourced start = .ok [] t ∧
        processBlock sampleContext directory inlined start = .ok [] t' ∧
        SameButPaths sampleContext.layout "./d" directory sampleChoice.lines t t' := by
  intro start directory after sourced inlined
  have hname : sampleContext.layout.fileName.shown = .ok "Kconfig".toList := rfl
  have hleads : sampleContext.LeadsTo ⟨"source \"d/Kconfig\"", "./Kconfig", 2⟩ "./d" :=
    ⟨_, by rfl, by rfl, by rfl⟩
  have hbalanced : Balanced sampleChoice.lines := by decide
  have hfirst : Line.NoAttributeFirst sampleChoice.lines := Line.noAttributeFirst_cons.2 (by decide)
  have hafter : Line.NoAttributeFirst after := Line.noAttributeFirst_cons.2 (by decide)
  have hstart : Stands (.count 3) (.count 0) false ⟨directory, [], [], 0⟩ ⟨0, 1, 0⟩ start :=
    ⟨rfl, rfl, rfl⟩
  have hroom : Room (.count 3) (.count 0) ⟨directory, [], [], 0⟩ sampleMenu :=
    ⟨Limit.admits_count.2 (by decide), Limit.admits_count.2 (by decide)⟩
  have hdepth : sampleMenu.fileDepth ≤ depthBound sampleContext start := by decide +kernel
  obtain ⟨t, ht, -, -⟩ := renders_items hname wellFormed_sampleMenu hdepth hstart hroom
    (show Line.NoAttributeFirst [] by simp [Line.NoAttributeFirst])
  have hended : processBlock sampleContext directory sourced start = .ok [] t := by
    rw [blockLines_nil] at ht
    rw [processBlock_eq_flatLines, ← file_eq_flatFile, ← blockLines_eq_flatLines]
    exact ht
  have hboth := source_renders_inline (by decide) hleads reads_sampleChoice.fileLines? hbalanced
    hfirst hafter (show sourced.lines = [_] ++ _ :: after from rfl)
    (show inlined.lines = _ ++ (sampleChoice.lines ++ after) from rfl) start
    (fun u => by rw [hended]; simp)
  rw [hended] at hboth
  refine ⟨hbalanced, hfirst, hafter, t, ?_⟩
  cases hinlined : processBlock sampleContext directory inlined start with
  | error e u => simp [hinlined] at hboth
  | ok left u =>
      simp only [hinlined] at hboth
      obtain ⟨hleft, hsame⟩ := hboth
      obtain rfl : left = [] := by simpa using hleft
      exact ⟨u, hended, rfl, hsame⟩

end Walk

end KconfigReference
