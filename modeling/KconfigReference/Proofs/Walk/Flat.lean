import KconfigReference.Proofs.Walk.Invariant

/-!
Blocks without recursion. Only the number of blocks opened since the beginning decides whether a
closing line is the end, so that the walk of a block is one pass over its lines with a count. Main
statement: the walk of a cursor that descends into blocks, and into the files that are sourced, is
such a pass, and a pass of its own over each file.
-/

namespace KconfigReference.Walk

variable (ctx : WalkContext) (visit : Text → Walk Unit) (directory : Text)

/-- One pass over lines in which so many blocks are open within the one that is walked. -/
def flatLines (opened : Nat) (lines : List Line) : Walk (List Line) :=
  match lines with
  | [] => pure []
  | line :: after =>
      effect ctx visit directory line after >>= fun _ =>
        match line.turn, opened with
        | .onward, opened => flatLines opened (line.behind after)
        | .inside, opened => flatLines (opened + 1) (line.behind after)
        | .done, 0 => pure (line.behind after)
        | .done, outer + 1 => flatLines outer (line.behind after)
termination_by lines.length
decreasing_by all_goals exact Nat.lt_succ_of_le (line.length_behind_le after)

variable {ctx visit directory}

@[simp] theorem flatLines_nil (opened : Nat) :
    flatLines ctx visit directory opened [] = pure [] := by
  rw [flatLines]

theorem flatLines_cons (opened : Nat) (line : Line) (after : List Line) :
    flatLines ctx visit directory opened (line :: after) =
      effect ctx visit directory line after >>= fun _ =>
        match line.turn, opened with
        | .onward, opened => flatLines ctx visit directory opened (line.behind after)
        | .inside, opened => flatLines ctx visit directory (opened + 1) (line.behind after)
        | .done, 0 => pure (line.behind after)
        | .done, outer + 1 => flatLines ctx visit directory outer (line.behind after) := by
  rw [flatLines.eq_def]

theorem bind_congr_of_ok {m : Walk α} {f g : α → Walk β} {s : WalkState}
    (h : ∀ a t, m s = .ok a t → f a t = g a t) : (m >>= f) s = (m >>= g) s := by
  rw [bind_apply, bind_apply]
  cases hm : m s with
  | ok a t => exact h a t hm
  | error e t => rfl

/-- Walking on after a block is walking the blocks around it in turn, by induction on the number of
lines. -/
theorem flatLines_eq (lines : List Line) :
    flatLines ctx visit directory 0 lines = blockLines ctx visit directory lines ∧
      ∀ outer, flatLines ctx visit directory (outer + 1) lines =
        blockLines ctx visit directory lines >>= flatLines ctx visit directory outer := by
  induction hlength : lines.length using Nat.strongRecOn generalizing lines with
  | ind length ih =>
      subst hlength
      cases lines with
      | nil =>
          simp
      | cons line after =>
          have hle := line.length_behind_le after
          obtain ⟨hzero, hsucc⟩ := ih (line.behind after).length
            (by simp only [List.length_cons]; omega) (line.behind after) rfl
          have hshorter : ∀ {left : List Line} {s t : WalkState},
              blockLines ctx visit directory (line.behind after) s = .ok left t →
              flatLines ctx visit directory 0 left = blockLines ctx visit directory left ∧
                ∀ outer, flatLines ctx visit directory (outer + 1) left =
                  blockLines ctx visit directory left >>= flatLines ctx visit directory outer := by
            intro left s t hleft
            have hless := length_le_of_blockLines hleft
            exact ih left.length (by simp only [List.length_cons]; omega) left rfl
          constructor
          · rw [flatLines_cons, blockLines_cons]
            funext s
            refine bind_congr_of_ok fun _ t _ => ?_
            cases line.turn with
            | onward => exact congrFun hzero t
            | done => rfl
            | inside =>
                have hinner := congrFun (hsucc 0) t
                refine hinner.trans (bind_congr_of_ok fun left u hleft => ?_)
                rw [(hshorter hleft).1]
          · intro outer
            rw [flatLines_cons, blockLines_cons, bind_assoc]
            funext s
            refine bind_congr_of_ok fun _ t _ => ?_
            cases line.turn with
            | onward => exact congrFun (hsucc outer) t
            | done => simp [proceed]
            | inside =>
                have hinner := congrFun (hsucc (outer + 1)) t
                simp only [proceed, bind_assoc]
                refine hinner.trans (bind_congr_of_ok fun left u hleft => ?_)
                rw [(hshorter hleft).2]

/-- The walk of a block is one pass over its lines. -/
theorem blockLines_eq_flatLines (lines : List Line) :
    blockLines ctx visit directory lines = flatLines ctx visit directory 0 lines :=
  (flatLines_eq lines).1.symm

/-- The walk of a file in one pass over its lines, which begins with no open block; the files that
it sources are walked likewise. -/
def flatFile (ctx : WalkContext) : Nat → Text → Walk Unit
  | 0, _ => throw (.misused .endless)
  | depth + 1, directory => do
      let lines ← openFile ctx directory
      let rest ← flatLines ctx (flatFile ctx depth) directory 0 lines
      modify fun s => { s with unread := s.unread ++ rest.toArray }

/-- The walk of a file is one pass over its lines, by induction on how many files may be open. -/
theorem file_eq_flatFile (ctx : WalkContext) (depth : Nat) :
    file ctx depth = flatFile ctx depth := by
  induction depth with
  | zero => rfl
  | succ depth ih =>
      funext directory
      rw [file_succ, flatFile, ih]
      simp only [blockLines_eq_flatLines]

theorem map_lines_block (ctx : WalkContext) (depth : Nat) (directory : Text) (cursor : Cursor) :
    (fun rest => rest.val.lines) <$> block ctx (file ctx depth) directory cursor =
      flatLines ctx (flatFile ctx depth) directory 0 cursor.lines := by
  rw [lines_block, blockLines_eq_flatLines, file_eq_flatFile]

theorem processBlock_eq_flatLines (ctx : WalkContext) (directory : Text) (cursor : Cursor)
    (s : WalkState) :
    processBlock ctx directory cursor s =
      flatLines ctx (flatFile ctx (depthBound ctx s)) directory 0 cursor.lines s := by
  rw [← map_lines_block]
  simp only [processBlock, bind_apply, get_apply, map_apply]
  cases block ctx (file ctx (depthBound ctx s)) directory cursor s <;> rfl

/-- The walk of a block that descends into the blocks within it is one pass over the lines of its
cursor, whatever their order: a count of open blocks that begins at 0 goes up after a line that
opens one and down after a line that closes one, and the pass ends at the end of the lines or after
a closing line that finds the count at 0. Both end in the same state with the same lines left, or
fail alike in the same state. -/
theorem block_is_one_pass (ctx : WalkContext) (directory : Text) (cursor : Cursor) :
    (∀ depth, (fun rest => rest.val.lines) <$> block ctx (file ctx depth) directory cursor =
        flatLines ctx (flatFile ctx depth) directory 0 cursor.lines) ∧
      ∀ s, processBlock ctx directory cursor s =
        flatLines ctx (flatFile ctx (depthBound ctx s)) directory 0 cursor.lines s :=
  ⟨fun depth => map_lines_block ctx depth directory cursor,
    processBlock_eq_flatLines ctx directory cursor⟩

/-- What every step keeps is kept by one pass, in however many blocks it begins. -/
theorem Steady.flatLines {inv fault : WalkState → Prop} (h : Steady ctx inv fault)
    (hvisit : ∀ d, Keeps inv fault (visit d)) (opened : Nat) (lines : List Line) :
    Keeps inv fault (Walk.flatLines ctx visit directory opened lines) := by
  induction opened generalizing lines with
  | zero =>
      rw [← blockLines_eq_flatLines]
      exact h.blockLines hvisit lines
  | succ outer ih =>
      rw [(flatLines_eq lines).2]
      exact .bind (h.blockLines hvisit lines) ih

end KconfigReference.Walk
