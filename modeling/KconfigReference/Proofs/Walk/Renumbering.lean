import KconfigReference.Proofs.Walk.Parallel
import KconfigReference.Proofs.Walk.Run

/-!
Lines under other numbers. A walk has the number of a line for its remarks, and for the failures
that name the line; nothing else depends on it. Main statement: a line under another number does the
same, and where it fails, it fails for the same reason.
-/

namespace KconfigReference

namespace Line

/-- The line with another number. -/
def renumber (line : Line) (number : Nat) : Line := { line with number := number }

variable (line : Line) (number : Nat)

@[simp] theorem rest_renumber : (line.renumber number).rest = line.rest := rfl

@[simp] theorem keyword?_renumber : (line.renumber number).keyword? = line.keyword? := rfl

@[simp] theorem attribute?_renumber : (line.renumber number).attribute? = line.attribute? := rfl

@[simp] theorem isAttribute_renumber : (line.renumber number).isAttribute = line.isAttribute := rfl

@[simp] theorem turn_renumber : (line.renumber number).turn = line.turn := rfl

@[simp] theorem declares_renumber : (line.renumber number).declares ↔ line.declares := Iff.rfl

end Line

/-- The failure without the line that it names. The kind, the message and the file stay. -/
def Failure.unnumbered : Failure → Failure
  | .reported d => .reported { d with place := { d.place with line := none } }
  | .misused m => .misused m

namespace Walk

/-- The walk whose failures do not name a line. -/
def unnumbered (m : Walk α) : Walk α := fun s =>
  match m s with
  | .ok a t => .ok a t
  | .error e t => .error e.unnumbered t

@[simp] theorem unnumbered_pure (a : α) : unnumbered (pure a : Walk α) = pure a := rfl

theorem unnumbered_bind (m : Walk α) (f : α → Walk β) :
    unnumbered (m >>= f) = unnumbered m >>= fun a => unnumbered (f a) := by
  funext s
  simp only [unnumbered, bind_apply]
  cases m s <;> rfl

/-- A root that cannot be opened names no line. -/
theorem unnumbered_openRoot (ctx : WalkContext) (maxLevels maxConditions : Limit)
    (showInternal : Bool) :
    unnumbered (openRoot ctx) (.fresh maxLevels maxConditions showInternal) =
      openRoot ctx (.fresh maxLevels maxConditions showInternal) := by
  rw [unnumbered, openRoot_fresh]
  rcases maxLevels.reached 0 with m | _ | _
  · rfl
  · cases ctx.bannerText <;> rfl
  · rfl

section Lines

variable {ctx : WalkContext} {visit : Text → Walk Unit} {directory : Text} {line : Line}

theorem unnumbered_openMenu (line : Line) (number : Nat) :
    unnumbered (openMenu (line.renumber number)) = unnumbered (openMenu line) := by
  funext s
  simp only [unnumbered, openMenu_apply]
  rcases s.nesting.maxLevels.reached s.nesting.level with m | _ | _ <;> rfl

theorem unnumbered_openChoice (line : Line) (number : Nat) :
    unnumbered (openChoice (line.renumber number)) = unnumbered (openChoice line) := by
  funext s
  simp only [unnumbered, openChoice_apply]
  rcases s.nesting.maxLevels.reached s.nesting.level with m | _ | _ <;> rfl

theorem unnumbered_closeMenu (line : Line) (number : Nat) :
    unnumbered (closeMenu (line.renumber number)) = unnumbered (closeMenu line) := by
  funext s
  simp only [unnumbered, closeMenu_apply]
  rcases s.nesting.counters with _ | ⟨last, _ | ⟨counter, outer⟩⟩ <;> rfl

theorem unnumbered_closeChoice (line : Line) (number : Nat) :
    unnumbered (closeChoice (line.renumber number)) = unnumbered (closeChoice line) := by
  funext s
  simp only [unnumbered, closeChoice_apply]
  rcases s.nesting.counters with _ | ⟨last, _ | ⟨counter, outer⟩⟩ <;> rfl

theorem unnumbered_pushCondition (line : Line) (number : Nat) :
    unnumbered (pushCondition (line.renumber number)) = unnumbered (pushCondition line) := by
  funext s
  simp only [unnumbered, pushCondition_apply, Conditions.push, Line.rest_renumber]
  rcases s.conditions.capacity.reached s.conditions.height with m | _ | _ <;> rfl

theorem unnumbered_popCondition (line : Line) (number : Nat) :
    unnumbered (popCondition (line.renumber number)) = unnumbered (popCondition line) := by
  funext s
  simp only [unnumbered, popCondition_apply, Conditions.pop]
  cases s.conditions.stack <;> rfl

/-- Under another number a line does the same, remarks included, unless it is a source line or
declares an entry without a name. -/
theorem unnumbered_effect (number : Nat) (after : List Line)
    (hsource : line.keyword? ≠ some .source)
    (hname : line.keyword? = some .config → Text.firstWord line.rest ≠ []) :
    unnumbered (effect ctx visit directory (line.renumber number) after) =
      unnumbered (effect ctx visit directory line after) := by
  have hmoved : (line.renumber number).keyword? = line.keyword? := rfl
  cases hk : line.keyword? with
  | none =>
      rw [hk] at hmoved
      rw [effect_of_ignored after (.inl hk), effect_of_ignored after (.inl hmoved)]
      rfl
  | some keyword =>
      rw [hk] at hmoved
      cases keyword with
      | source => exact absurd hk hsource
      | menu =>
          rw [effect_menu after hk, effect_menu after hmoved]
          simp only [unnumbered_bind, unnumbered_openMenu]
      | choice =>
          rw [effect_choice after hk, effect_choice after hmoved]
          simp only [unnumbered_bind, unnumbered_openChoice]
      | endMenu =>
          rw [effect_endMenu after hk, effect_endMenu after hmoved, unnumbered_closeMenu]
      | endChoice =>
          rw [effect_endChoice after hk, effect_endChoice after hmoved, unnumbered_closeChoice]
      | ifWord => rw [effect_if after hk, effect_if after hmoved, unnumbered_pushCondition]
      | endIf => rw [effect_endIf after hk, effect_endIf after hmoved, unnumbered_popCondition]
      | config =>
          have hdeclares : line.declares := ⟨hk, hname hk⟩
          have hdeclares' : (line.renumber number).declares := hdeclares
          congr 1
          funext s
          rw [effect_config after hdeclares, effect_config after hdeclares']
          rfl
      | _ =>
          have hattribute : line.isAttribute = true := by
            simp [Line.isAttribute, Line.attribute?, hk]
          have hattribute' : (line.renumber number).isAttribute = true := hattribute
          rw [effect_of_ignored after (.inr hattribute), effect_of_ignored after (.inr hattribute')]
          rfl

end Lines

/-- Two walks of which the second writes the same. -/
def verbatim (layout : Layout) : Likeness layout where
  entries e e' := e' = e
  body item item' := item'.text = item.text
  conditions c c' := c' = c
  opened paths paths' := paths' = paths
  name_eq h := by rw [h]
  description_eq h := by rw [h]
  heading _ _ h := h
  details := by
    rintro e _ path path' rfl hpath hpath'
    obtain rfl : path = path' := Except.ok.inj (hpath.symm.trans hpath')
    rfl
  push := @Likeness.push_eq

theorem verbatim_refl (layout : Layout) (s : WalkState) : (verbatim layout).Alike s s :=
  ⟨rfl, rfl, rfl, List.forall₂_same.2 fun _ _ => rfl, rfl, rfl⟩

/-- No step of a walk changes whether hidden entries are shown. -/
theorem steady_showInternal (ctx : WalkContext) (showInternal : Bool) :
    Steady ctx (·.showInternal = showInternal) (·.showInternal = showInternal) where
  stop _ h := h
  note _ _ h := h
  opened _ _ h := h
  unread _ _ h := h
  openMenu _ := .openMenu (fun _ h => h) fun _ h => h
  closeMenu _ := .closeMenu (fun _ _ _ _ h _ => h) fun _ _ h => h
  openChoice _ := .openChoice (fun _ h => h) fun _ h => h
  closeChoice _ := .closeChoice (fun _ _ _ _ h _ => h) fun _ _ h => h
  pushCondition _ := .pushCondition (fun _ h => h) fun _ _ h _ => h
  popCondition _ := .popCondition (fun _ h => h) fun _ _ h _ => h
  renderEntry _ := .renderEntry (fun _ _ h _ => h) (fun _ h _ _ => h)
    (fun _ _ _ h _ _ => ⟨h, fun _ _ => h⟩) fun _ h _ => ⟨h, fun _ _ => h⟩

/-- What the first of two walks keeps may be added to how they are alike. -/
theorem Parallel.keeping {excused : Failure → Prop} {R : WalkState → WalkState → Prop}
    {inv : WalkState → Prop} {m m' : Walk α} (h : Parallel excused R m m')
    (hkeeps : Keeps inv inv m) : Parallel excused (fun s t => R s t ∧ inv s) m m' := by
  rintro s t ⟨hst, hs⟩
  have hmeets := h s t hst
  have hinv := hkeeps s hs
  generalize m s = outcome at hmeets hinv ⊢
  generalize m' t = outcome' at hmeets ⊢
  cases hmeets with
  | ok a h => exact .ok a ⟨h, hinv⟩
  | error e h => exact .error e ⟨h, hinv⟩
  | excused he u _ => exact .excused he u _

/-- Two walks that differ, as long as hidden entries are shown or are not, in the lines that their
failures name and in their remarks. -/
def Shadows (layout : Layout) (showInternal : Bool) (m m' : Walk α) : Prop :=
  Parallel (fun _ => False) (fun s t => (verbatim layout).Alike s t ∧ s.showInternal = showInternal)
    (unnumbered m) (unnumbered m')

/-- A step that does nothing but remark on something. -/
def Silent (showInternal : Bool) (m : Walk Unit) : Prop :=
  ∀ s, s.showInternal = showInternal → ∃ log, m s = .ok () { s with log := log }

namespace Shadows

variable {layout : Layout} {showInternal : Bool}

theorem pure (a : α) : Shadows layout showInternal (Pure.pure a : Walk α) (Pure.pure a) :=
  fun _ _ h => .ok a h

theorem bind {m m' : Walk α} {f f' : α → Walk β} (hm : Shadows layout showInternal m m')
    (hf : ∀ a, Shadows layout showInternal (f a) (f' a)) :
    Shadows layout showInternal (m >>= f) (m' >>= f') := by
  unfold Shadows
  rw [unnumbered_bind, unnumbered_bind]
  exact Parallel.bind hm hf

/-- Walks that write the same differ in less. -/
theorem of_parallel {m m' : Walk α} (h : Parallel (fun _ => False) (verbatim layout).Alike m m')
    (hkeeps : Keeps (·.showInternal = showInternal) (·.showInternal = showInternal) m) :
    Shadows layout showInternal m m' := by
  intro s t hst
  have hmeets := h.keeping hkeeps s t hst
  simp only [unnumbered]
  generalize m s = outcome at hmeets ⊢
  generalize m' t = outcome' at hmeets ⊢
  cases hmeets with
  | ok a h => exact .ok a h
  | error e h => exact .error e.unnumbered h
  | excused he u _ => exact he.elim

/-- Silent steps of the second walk make no difference. -/
theorem skip {m m' step : Walk Unit} (h : Shadows layout showInternal m m')
    (hstep : Silent showInternal step) :
    Shadows layout showInternal m (step >>= fun _ => m') := by
  rintro s t ⟨hst, hshow⟩
  obtain ⟨log, hlog⟩ := hstep t (hst.showInternal.trans hshow)
  have hstart : unnumbered (step >>= fun _ => m') t = unnumbered m' { t with log := log } := by
    simp only [unnumbered, bind_apply, hlog]
  rw [hstart]
  apply h
  exact ⟨⟨hst.nesting, hst.showInternal, hst.toc, hst.body, hst.conditions, hst.opened⟩, hshow⟩

/-- Under another number a line does the same, if it declares the same entry. -/
theorem renumbered {ctx : WalkContext} {directory : Text} {line : Line} {after after' : List Line}
    (number : Nat)
    (hentry : line.declares → ∀ conditions,
      line.entry directory conditions after' = line.entry directory conditions after) :
    Shadows ctx.layout showInternal (effect ctx (fun _ => Pure.pure ()) directory line after)
      (effect ctx (fun _ => Pure.pure ()) directory (line.renumber number) after') := by
  have hkeeps : Keeps (·.showInternal = showInternal) (·.showInternal = showInternal)
      (effect ctx (fun _ => Pure.pure ()) directory line after) :=
    (steady_showInternal ctx showInternal).effect (fun _ => .pure _) line after
  have hsame : Shadows ctx.layout showInternal
      (effect ctx (fun _ => Pure.pure ()) directory line after)
      (effect ctx (fun _ => Pure.pure ()) directory line after') := by
    apply of_parallel _ hkeeps
    apply Parallel.effect
    · intro hdeclares c c' hc
      cases hc
      exact hentry hdeclares c.inForce
    · exact fun _ => .pushCondition (fun _ _ => Iff.rfl) line
    · exact fun _ => .popCondition (fun _ _ => Iff.rfl) line
  -- Only remarks on source lines and on entries without a name say where they are.
  by_cases hsource : line.keyword? = some .source
  · have hmoved : (line.renumber number).keyword? = some .source := hsource
    apply of_parallel _ hkeeps
    rw [effect_source after hsource, effect_source after' hmoved]
    exact .sourceLine rfl
  · by_cases hname : line.keyword? = some .config ∧ Text.firstWord line.rest = []
    · obtain ⟨hk, hnone⟩ := hname
      have hmoved : (line.renumber number).keyword? = some .config := hk
      apply of_parallel _ hkeeps
      rw [effect_nameless after hk hnone, effect_nameless after' hmoved hnone]
      exact .note _ _
    · unfold Shadows
      rw [unnumbered_effect number after' hsource fun hk hnone => hname ⟨hk, hnone⟩]
      exact hsame

end Shadows

end Walk

end KconfigReference
