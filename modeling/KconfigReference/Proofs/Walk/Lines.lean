import KconfigReference.Proofs.Walk.Apply
import KconfigReference.Walk.Run

/-!
The walk of a block on plain lines. A block depends on the lines of its cursor only, not on which
of them were pushed back, so that it is a walk on a list: a line has its effect, and then the block
goes on, is entered once more, or is done.
-/

namespace KconfigReference

/-- Whether a line says something about an entry above it. -/
def Line.isAttribute (line : Line) : Bool := line.attribute?.isSome

namespace Entry

/-- The entry with what attribute lines say about it. -/
def withLines (entry : Entry) (lines : List Line) : Entry :=
  (lines.filterMap Line.attribute?).foldl set entry

@[simp] theorem withLines_nil (entry : Entry) : entry.withLines [] = entry := rfl

theorem withLines_cons {entry : Entry} {line : Line} {found : Attribute}
    (h : line.attribute? = some found) (lines : List Line) :
    entry.withLines (line :: lines) = (entry.set found).withLines lines := by
  simp [withLines, h]

/-- What no attribute changes, attribute lines leave as it is. -/
theorem eq_withLines {α : Type} {f : Entry → α}
    (hf : ∀ entry found, f (Entry.set entry found) = f entry) (entry : Entry) (lines : List Line) :
    f (entry.withLines lines) = f entry := by
  unfold withLines
  induction lines.filterMap Line.attribute? generalizing entry with
  | nil => rfl
  | cons first rest ih => rw [List.foldl_cons, ih, hf]

theorem directory_withLines (entry : Entry) (lines : List Line) :
    (entry.withLines lines).directory = entry.directory :=
  eq_withLines (fun _ found => by cases found <;> rfl) entry lines

theorem name_withLines (entry : Entry) (lines : List Line) :
    (entry.withLines lines).name = entry.name :=
  eq_withLines (fun _ found => by cases found <;> rfl) entry lines

/-- Collecting takes the attribute lines before the first other line, and nothing else. -/
theorem collect_eq (entry : Entry) (cursor : Cursor) :
    (entry.collect cursor).entry = entry.withLines (cursor.lines.takeWhile Line.isAttribute) ∧
    (entry.collect cursor).cursor.lines = cursor.lines.dropWhile Line.isAttribute ∧
    (entry.collect cursor).ended = (cursor.lines.dropWhile Line.isAttribute).head? := by
  fun_induction Entry.collect entry cursor with
  | case1 entry cursor rest h =>
      have hhead := Cursor.next_fst cursor
      have htail := Cursor.lines_next_snd cursor
      rw [h] at hhead htail
      have hnil : cursor.lines = [] := by simpa using hhead.symm
      simp [hnil, htail]
  | case2 entry cursor line rest h hnone =>
      simp [Cursor.lines_of_next h, Line.isAttribute, hnone]
  | case3 entry cursor line rest h found hfound ih =>
      simpa [Cursor.lines_of_next h, Line.isAttribute, hfound, withLines_cons hfound] using ih

theorem collect_entry (entry : Entry) (cursor : Cursor) :
    (entry.collect cursor).entry = entry.withLines (cursor.lines.takeWhile Line.isAttribute) :=
  (collect_eq entry cursor).1

theorem collect_ended (entry : Entry) (cursor : Cursor) :
    (entry.collect cursor).ended = (cursor.lines.dropWhile Line.isAttribute).head? :=
  (collect_eq entry cursor).2.2

end Entry

namespace Line

/-- Whether a line declares an entry with a name, which then takes the attribute lines after it. -/
def declares (line : Line) : Prop :=
  line.keyword? = some .config ∧ Text.firstWord line.rest ≠ []

instance (line : Line) : Decidable line.declares := by unfold declares; infer_instance

/-- What a line does to the block structure. -/
def turn (line : Line) : Walk.Turn :=
  match line.keyword? with
  | some .menu => .inside
  | some .choice => .inside
  | some .endMenu => .done
  | some .endChoice => .done
  | _ => .onward

/-- The lines that are left behind a line once it has taken its attribute lines. -/
def behind (line : Line) (after : List Line) : List Line :=
  if line.declares then after.dropWhile isAttribute else after

/-- The entry that a line declares, given the conditions in force and the lines after it. -/
def entry (line : Line) (directory : Text) (conditions : List Text) (after : List Line) : Entry :=
  (Entry.bare (Text.firstWord line.rest) directory conditions).withLines
    (after.takeWhile isAttribute)

/-- Whether a line asks for nothing: its first word is not reserved, or it is an attribute line on
its own, or it declares an entry without a name. -/
def IsIdle (line : Line) : Prop :=
  line.keyword? = none ∨ line.isAttribute = true ∨
    line.keyword? = some .config ∧ Text.firstWord line.rest = []

theorem turn_of_isAttribute {line : Line} (h : line.isAttribute = true) : line.turn = .onward := by
  cases hk : line.keyword? with
  | none => simp [turn, hk]
  | some keyword => cases keyword <;> simp_all [isAttribute, attribute?, turn]

theorem IsIdle.turn_eq {line : Line} (h : line.IsIdle) : line.turn = .onward := by
  rcases h with hk | hattribute | ⟨hk, -⟩
  · simp [turn, hk]
  · exact turn_of_isAttribute hattribute
  · simp [turn, hk]

theorem IsIdle.not_declares {line : Line} (h : line.IsIdle) : ¬line.declares := by
  rintro ⟨hk, hname⟩
  rcases h with hk' | hattribute | ⟨-, hname'⟩
  · simp [hk] at hk'
  · simp [isAttribute, attribute?, hk] at hattribute
  · exact hname hname'

/-- A line that asks for nothing opens and closes nothing and leads nowhere. -/
theorem IsIdle.keyword?_ne {line : Line} {keyword : Keyword} (h : line.IsIdle)
    (hactive : keyword ∈ [Keyword.menu, .endMenu, .choice, .endChoice, .source, .ifWord, .endIf]) :
    line.keyword? ≠ some keyword := by
  intro hk
  rcases h with hnone | hattribute | ⟨hconfig, -⟩
  · simp [hk] at hnone
  · cases keyword <;> simp_all [isAttribute, attribute?]
  · rw [hk] at hconfig
    cases hconfig
    simp at hactive

theorem behind_sublist (line : Line) (after : List Line) : (line.behind after).Sublist after := by
  unfold behind
  split
  · exact List.dropWhile_sublist _
  · exact List.Sublist.refl _

theorem length_behind_le (line : Line) (after : List Line) :
    (line.behind after).length ≤ after.length := (line.behind_sublist after).length_le

end Line

namespace Walk

variable (ctx : WalkContext) (visit : Text → Walk Unit) (directory : Text)

/-- What a line does to the state of a walk, when so many lines come after it. -/
def effect (line : Line) (after : List Line) : Walk Unit :=
  (fun _ => ()) <$> dispatch ctx visit directory line (.ofLines after)

/-- The walk of a block on a list of lines, with the lines after it. -/
def blockLines (lines : List Line) : Walk (List Line) :=
  (·.val.lines) <$> block ctx visit directory (.ofLines lines)

/-- How a block goes on after a line, with the lines that are left. -/
def proceed (turn : Turn) (left : List Line) : Walk (List Line) :=
  match turn with
  | .onward => blockLines ctx visit directory left
  | .inside => blockLines ctx visit directory left >>= blockLines ctx visit directory
  | .done => pure left

/-- How a line is dispatched depends on the lines of the cursor only. -/
theorem dispatch_eq (line : Line) (cursor : Cursor) :
    (fun r => (r.1, r.2.val.lines)) <$> dispatch ctx visit directory line cursor =
      (do effect ctx visit directory line cursor.lines
          pure (line.turn, line.behind cursor.lines)) := by
  unfold effect dispatch
  cases hk : line.keyword? with
  | none => simp [Line.turn, Line.behind, Line.declares, hk]
  | some keyword =>
      cases keyword with
      | config =>
          cases hname : Text.firstWord line.rest with
          | nil => simp [configLine, Line.turn, Line.behind, Line.declares, hk, hname]
          | cons c more =>
              cases hended : (cursor.lines.dropWhile Line.isAttribute).head? <;>
                simp [configLine, Line.turn, Line.behind, Line.declares, hk, hname,
                  Entry.collect_eq, hended]
      | _ => simp [Line.turn, Line.behind, Line.declares, hk]

variable {ctx visit directory}

theorem effect_of_dispatch_ok {line : Line} {cursor : Cursor} {s t : WalkState} {turn : Turn}
    {rest : { rest : Cursor // rest.size ≤ cursor.size }}
    (h : dispatch ctx visit directory line cursor s = .ok (turn, rest) t) :
    effect ctx visit directory line cursor.lines s = .ok () t ∧ turn = line.turn ∧
      rest.val.lines = line.behind cursor.lines := by
  have heq := congrFun (dispatch_eq ctx visit directory line cursor) s
  rw [map_apply, h, bind_apply] at heq
  cases heffect : effect ctx visit directory line cursor.lines s with
  | ok a u =>
      simp only [heffect, pure_apply, EStateM.Result.ok.injEq, Prod.mk.injEq] at heq
      obtain ⟨⟨hturn, hrest⟩, hstate⟩ := heq
      exact ⟨by rw [hstate], hturn, hrest⟩
  | error e u => simp [heffect] at heq

theorem effect_of_dispatch_error {line : Line} {cursor : Cursor} {s t : WalkState} {e : Failure}
    (h : dispatch ctx visit directory line cursor s = .error e t) :
    effect ctx visit directory line cursor.lines s = .error e t := by
  have heq := congrFun (dispatch_eq ctx visit directory line cursor) s
  rw [map_apply, h, bind_apply] at heq
  cases heffect : effect ctx visit directory line cursor.lines s with
  | ok a u => simp [heffect] at heq
  | error e u => simpa [heffect] using heq.symm

/-- One line of a block, once shorter cursors are known to be walked as their lines are. -/
private theorem map_block_step (cursor : Cursor)
    (ih : ∀ shorter : Cursor, shorter.size < cursor.size →
      (·.val.lines) <$> block ctx visit directory shorter =
        blockLines ctx visit directory shorter.lines) :
    (·.val.lines) <$> block ctx visit directory cursor =
      match cursor.lines with
      | [] => pure []
      | line :: after =>
          effect ctx visit directory line after >>= fun _ =>
            proceed ctx visit directory line.turn (line.behind after) := by
  rw [block]
  split
  next rest hnext =>
    have hhead := Cursor.next_fst cursor
    have hnil : cursor.lines = [] := by simpa [hnext] using hhead.symm
    simp [hnil]
  next line after hnext =>
    have hafter := Cursor.size_lt_of_next hnext
    rw [Cursor.lines_of_next hnext]
    funext s
    simp only [map_apply, bind_apply]
    cases hdispatch : dispatch ctx visit directory line after s with
    | error e t => simp [effect_of_dispatch_error hdispatch]
    | ok result t =>
        obtain ⟨turn, rest, hrest⟩ := result
        obtain ⟨heffect, rfl, hlines⟩ := effect_of_dispatch_ok hdispatch
        have hblock := congrFun (ih rest (by omega)) t
        simp only at hlines
        rw [hlines, map_apply] at hblock
        simp only [heffect]
        cases line.turn with
        | onward =>
            simp only [proceed, bind_apply]
            rw [← hblock]
            cases block ctx visit directory rest t <;> rfl
        | inside =>
            simp only [proceed, bind_apply]
            rw [← hblock]
            cases hinner : block ctx visit directory rest t with
            | error e u => rfl
            | ok inner u =>
                have hleft := congrFun (ih inner.val (by have := inner.property; omega)) u
                rw [map_apply] at hleft
                simp only
                rw [← hleft]
                cases block ctx visit directory inner.val u <;> rfl
        | done => simp [hlines, proceed]

/-- The walk of a block depends on the lines of its cursor only. -/
theorem lines_block (cursor : Cursor) :
    (·.val.lines) <$> block ctx visit directory cursor =
      blockLines ctx visit directory cursor.lines := by
  have hsize : ∀ (size : Nat) (cursor : Cursor), cursor.size = size →
      (·.val.lines) <$> block ctx visit directory cursor =
        blockLines ctx visit directory cursor.lines := by
    intro size
    induction size using Nat.strongRecOn with
    | ind size ih =>
        rintro cursor rfl
        have hcursor := map_block_step cursor fun shorter h => ih _ h shorter rfl
        have hplain := map_block_step (.ofLines cursor.lines) fun shorter h => ih _ h shorter rfl
        exact hcursor.trans hplain.symm
  exact hsize cursor.size cursor rfl

@[simp] theorem blockLines_nil : blockLines ctx visit directory [] = pure [] :=
  map_block_step (.ofLines []) fun shorter _ => lines_block shorter

theorem blockLines_cons (line : Line) (after : List Line) :
    blockLines ctx visit directory (line :: after) =
      effect ctx visit directory line after >>= fun _ =>
        proceed ctx visit directory line.turn (line.behind after) :=
  map_block_step (.ofLines (line :: after)) fun shorter _ => lines_block shorter

/-- A block leaves no more lines than it was given. -/
theorem length_le_of_blockLines {lines left : List Line} {s t : WalkState}
    (h : blockLines ctx visit directory lines s = .ok left t) : left.length ≤ lines.length := by
  rw [blockLines, map_apply] at h
  cases hblock : block ctx visit directory (.ofLines lines) s with
  | error e u => simp [hblock] at h
  | ok rest u =>
      simp only [hblock, EStateM.Result.ok.injEq] at h
      rw [← h.1]
      exact rest.property

variable {line : Line} (after : List Line)

theorem effect_source (h : line.keyword? = some .source) :
    effect ctx visit directory line after = sourceLine ctx visit line := by
  simp [effect, dispatch, h]

theorem effect_menu (h : line.keyword? = some .menu) :
    effect ctx visit directory line after = (do
      openMenu line
      debug ("Recursing for menu in " ++ directory ++ " (level " ++
        Text.ofNat (← get).nesting.level ++ ")")) := by
  simp [effect, dispatch, h]

theorem effect_choice (h : line.keyword? = some .choice) :
    effect ctx visit directory line after = (do
      openChoice line
      debug ("Recursing for choice in " ++ directory ++ " (level " ++
        Text.ofNat (← get).nesting.level ++ ")")) := by
  simp [effect, dispatch, h]

theorem effect_endMenu (h : line.keyword? = some .endMenu) :
    effect ctx visit directory line after = closeMenu line := by
  simp [effect, dispatch, h]

theorem effect_endChoice (h : line.keyword? = some .endChoice) :
    effect ctx visit directory line after = closeChoice line := by
  simp [effect, dispatch, h]

theorem effect_if (h : line.keyword? = some .ifWord) :
    effect ctx visit directory line after = pushCondition line := by
  simp [effect, dispatch, h]

theorem effect_endIf (h : line.keyword? = some .endIf) :
    effect ctx visit directory line after = popCondition line := by
  simp [effect, dispatch, h]

/-- A line that is no directive has no effect: its first word is not reserved, or it is an
attribute line without an entry above it. -/
theorem effect_of_ignored (h : line.keyword? = none ∨ line.isAttribute = true) :
    effect ctx visit directory line after = note (unhandled line) := by
  have hattribute : line.isAttribute = true → line.attribute?.isSome = true := id
  simp only [Line.attribute?] at hattribute
  cases hk : line.keyword? with
  | none => simp [effect, dispatch, hk]
  | some keyword =>
      cases keyword <;> simp_all [effect, dispatch]

theorem effect_nameless (h : line.keyword? = some .config)
    (hname : Text.firstWord line.rest = []) :
    effect ctx visit directory line after =
      debug (remark line "config without a name skipped") := by
  simp [effect, dispatch, h, configLine, hname]

/-- A line that asks for nothing is only noted. -/
theorem effect_of_isIdle (h : line.IsIdle) :
    ∃ record, effect ctx visit directory line after = note record := by
  rcases h with hk | hattribute | ⟨hk, hname⟩
  · exact ⟨_, effect_of_ignored after (.inl hk)⟩
  · exact ⟨_, effect_of_ignored after (.inr hattribute)⟩
  · exact ⟨_, effect_nameless after hk hname⟩

theorem effect_config (h : line.declares) (s : WalkState) :
    effect ctx visit directory line after s =
      renderEntry ctx (line.entry directory s.conditions.inForce after)
        (((after.dropWhile Line.isAttribute).head?.map unhandled).elim s s.note) := by
  obtain ⟨hk, hname⟩ := h
  cases hw : Text.firstWord line.rest with
  | nil => exact absurd hw hname
  | cons c more =>
      simp only [effect, dispatch, hk, configLine, hw, Entry.collect_ended, Entry.collect_entry,
        Cursor.lines_ofLines, Line.entry]
      cases (after.dropWhile Line.isAttribute).head? with
      | none =>
          simp only [map_apply, bind_apply, get_apply, pure_apply, Option.map_none, Option.elim_none]
          cases renderEntry ctx _ s <;> rfl
      | some ended =>
          simp only [map_apply, bind_apply, get_apply, pure_apply, note_apply, Option.map_some,
            Option.elim_some]
          cases renderEntry ctx _ (s.note (unhandled ended)) <;> rfl

/-- The state once a file is announced. -/
def announced (s : WalkState) (path : Text) : WalkState :=
  s.note (.debug ("Processing " ++ path ++ " (level " ++ Text.ofNat s.nesting.level ++ ")"))

theorem announce_apply (ctx : WalkContext) (directory : Text) (s : WalkState) :
    announce ctx directory s =
      match ctx.layout.filePath directory with
      | .error m => .error (.misused m) s
      | .ok path => .ok path (announced s path) := by
  simp only [announce, bind_apply]
  cases ctx.layout.filePath directory <;> rfl

/-- A file whose lines cannot be cut counts as opened. -/
theorem openFile_apply (ctx : WalkContext) (directory : Text) (s : WalkState) :
    openFile ctx directory s =
      match ctx.layout.filePath directory with
      | .error m => .error (.misused m) s
      | .ok path =>
          if ctx.layout.hasNameableFiles then
            match ctx.readText path with
            | .error e => .error e (announced s path)
            | .ok text =>
                match ctx.lineSize.lines path (Text.physicalLines text) with
                | .error m =>
                    .error (.misused m) { announced s path with opened := s.opened.push path }
                | .ok lines => .ok lines { announced s path with opened := s.opened.push path }
          else .error (.misused .unencodable) (announced s path) := by
  simp only [openFile, bind_apply, announce_apply]
  cases ctx.layout.filePath directory with
  | error m => rfl
  | ok path =>
      cases ctx.layout.hasNameableFiles with
      | false => rfl
      | true =>
          cases hread : ctx.readText path with
          | error e => simp [hread, bind_apply]
          | ok text =>
              simp only [hread, bind_apply, Bool.not_true, Bool.false_eq_true, if_false, if_true,
                lift_ok, modify_apply]
              cases ctx.lineSize.lines path (Text.physicalLines text) <;> rfl

/-- What is known of a file once it is opened. -/
theorem eq_of_openFile_ok {ctx : WalkContext} {directory : Text} {lines : List Line}
    {s t : WalkState} (h : openFile ctx directory s = .ok lines t) :
    ∃ path text, ctx.layout.filePath directory = .ok path ∧ ctx.readText path = .ok text ∧
      ctx.lineSize.lines path (Text.physicalLines text) = .ok lines ∧
      t = { announced s path with opened := s.opened.push path } := by
  rw [openFile_apply] at h
  cases hpath : ctx.layout.filePath directory with
  | error m => simp [hpath] at h
  | ok path =>
      simp only [hpath] at h
      split at h
      next =>
        cases htext : ctx.readText path with
        | error e => simp [htext] at h
        | ok text =>
            simp only [htext] at h
            cases hlines : ctx.lineSize.lines path (Text.physicalLines text) with
            | error m => simp [hlines] at h
            | ok found =>
                simp only [hlines, EStateM.Result.ok.injEq] at h
                exact ⟨path, text, rfl, htext, by rw [hlines, h.1], h.2.symm⟩
      next => simp at h

/-- A source line that does not fail is passed over, or the file that it leads to is walked. -/
theorem sourceLine_ok_cases {ctx : WalkContext} {visit : Text → Walk Unit} {line : Line}
    {s t : WalkState} (h : sourceLine ctx visit line s = .ok () t) :
    (∃ record, t = s.note record) ∨
      ∃ resolved record, ctx.layout.resolve (Text.firstWord line.rest) = .ok (some resolved) ∧
        visit resolved.directory (s.note record) = .ok () t := by
  simp only [sourceLine, bind_apply] at h
  cases hresolve : ctx.layout.resolve (Text.firstWord line.rest) with
  | error m => simp [hresolve] at h
  | ok found =>
      simp only [hresolve, mapError_ok, lift_ok] at h
      cases found with
      | none =>
          simp only [debug_apply, EStateM.Result.ok.injEq, true_and] at h
          exact .inl ⟨_, h.symm⟩
      | some resolved =>
          simp only [bind_apply, debug_apply] at h
          split at h
          next => exact .inr ⟨resolved, _, rfl, h⟩
          next =>
            simp only [bind_apply, announce_apply] at h
            cases hpath : ctx.layout.filePath resolved.directory <;> simp [hpath] at h

/-- The walk of a file, on the lines of its text. -/
theorem file_succ (ctx : WalkContext) (depth : Nat) (directory : Text) :
    file ctx (depth + 1) directory = (do
      let lines ← openFile ctx directory
      let rest ← blockLines ctx (file ctx depth) directory lines
      modify fun s => { s with unread := s.unread ++ rest.toArray }) := by
  simp [file, blockLines]

end Walk

end KconfigReference
