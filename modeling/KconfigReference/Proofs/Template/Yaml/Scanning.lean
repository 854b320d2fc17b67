import KconfigReference.Template.Yaml.Block
import KconfigReference.Template.Yaml.Plain
import KconfigReference.Template.Yaml.Property
import KconfigReference.Template.Yaml.Quoted
import Mathlib.Tactic.Common

/-!
What readers of parts of a text in YAML may fail with: a fault of the format, the fault behind the
text, or a number that is too great. A reader leaves what is behind the text as it is.
-/

namespace KconfigReference.Yaml

open Std.Do

set_option mvcgen.warning false

section Loops

universe u

variable {m : Type → Type u} {ps : PostShape} [Monad m] [WPMonad m ps] {inv : Assertion ps}
  {fault : ExceptConds ps}

/-- What each round keeps is kept by the loop. -/
theorem keeps_mapM {f : α → m β} (h : ∀ a, ⦃inv⦄ f a ⦃(fun _ => inv, fault)⦄) (items : List α) :
    ⦃inv⦄ items.mapM f ⦃(fun _ => inv, fault)⦄ := by
  induction items with
  | nil =>
      rw [List.mapM_nil]
      mvcgen
  | cons item rest ih =>
      rw [List.mapM_cons]
      mvcgen [h, ih]

theorem keeps_forM {f : α → m PUnit} (h : ∀ a, ⦃inv⦄ f a ⦃(fun _ => inv, fault)⦄)
    (items : List α) : ⦃inv⦄ items.forM f ⦃(fun _ => inv, fault)⦄ := by
  induction items with
  | nil =>
      rw [List.forM_eq_forM, List.forM_nil]
      mvcgen
  | cons item rest ih =>
      rw [List.forM_eq_forM, List.forM_cons]
      exact Triple.bind _ _ (h item) fun _ => ih

theorem keeps_foldlM {f : β → α → m β} (h : ∀ b a, ⦃inv⦄ f b a ⦃(fun _ => inv, fault)⦄)
    (items : List α) (b : β) : ⦃inv⦄ items.foldlM f b ⦃(fun _ => inv, fault)⦄ := by
  induction items generalizing b with
  | nil =>
      rw [List.foldlM_nil]
      mvcgen
  | cons item rest ih =>
      rw [List.foldlM_cons]
      exact Triple.bind _ _ (h b item) ih

end Loops

/-- A fault is one of the format, or a misuse of an allowed kind. -/
def Fault.Within (allowed : Misuse → Prop) : Fault → Prop
  | .malformed => True
  | .misused m => allowed m

/-- What fails only with faults that are allowed. -/
abbrev Fault.Bounds (allowed : Misuse → Prop) (outcome : Except Fault α) : Prop :=
  ⦃⌜True⌝⦄ outcome ⦃post⟨fun _ => ⌜True⌝, fun fault => ⌜fault.Within allowed⌝⟩⦄

@[spec] theorem Fault.bounds_ok {allowed : Misuse → Prop} (a : α) :
    Fault.Bounds allowed (.ok a : Except Fault α) := fun _ => trivial

@[spec] theorem Fault.bounds_error {allowed : Misuse → Prop} {fault : Fault}
    (h : fault.Within allowed) : Fault.Bounds allowed (.error fault : Except Fault α) := fun _ => h

@[spec high] theorem Fault.bounds_throw {allowed : Misuse → Prop} {fault : Fault}
    (h : fault.Within allowed) : Fault.Bounds allowed (throw fault : Except Fault α) := fun _ => h

theorem Fault.Within.mono {allowed allowed' : Misuse → Prop} {fault : Fault}
    (h : fault.Within allowed) (himp : ∀ m, allowed m → allowed' m) : fault.Within allowed' := by
  cases fault with
  | malformed => trivial
  | misused m => exact himp m h

section Steps

variable {σ τ : Type}

/-- A fault that is thrown is the fault of the step. The rule of the library leaves open which monad
the states are put on. -/
@[spec high] theorem throw_spec (fault : Fault) (Q : PostCond α (.arg σ (.except Fault .pure))) :
    ⦃fun _ => Q.2.1 fault⦄ (throw fault : StateT σ (Except Fault) α) ⦃Q⦄ :=
  fun _ hfault => hfault

/-- A step on a part of the state does there what it does alone. -/
theorem zoom_spec {get : τ → σ} {set : τ → σ → τ} {part : StateT σ (Except Fault) α}
    {whole : StateT τ (Except Fault) α}
    (hwhole : ∀ t, whole t = (part (get t)).map fun (a, s) => (a, set t s))
    (Q : PostCond α (.arg τ (.except Fault .pure))) :
    ⦃fun t => wp⟦part⟧ (fun a s => Q.1 a (set t s), Q.2) (get t)⦄ whole ⦃Q⦄ := by
  intro t h
  change (wp⟦part (get t)⟧ _).down at h
  change (wp⟦whole t⟧ _).down
  rw [hwhole]
  cases hpart : part (get t) with
  | ok result =>
      rw [hpart] at h
      exact h
  | error fault =>
      rw [hpart] at h
      exact h

end Steps

/-- The misuses that a text may come to while it is read: a version number with too many digits, the
escape of a code point that does not exist, and bytes that are no text where there are some. -/
def Unreadable (flawed : Prop) : Misuse → Prop
  | .badValue => True
  | .overflow => True
  | .badEncoding => flawed
  | _ => False

/-- What is wrong behind the text, if anything is, may be met while it is read. -/
def Input.Bounded (flawed : Prop) (input : Input) : Prop :=
  ∀ fault, input.beyond = some fault → fault.Within (Unreadable flawed)

variable {flawed : Prop}

theorem beyond_step (input : Input) : input.step.beyond = input.beyond := by
  unfold Input.step
  split
  · rfl
  · split <;> rfl

theorem beyond_advance (input : Input) (n : Nat) : (input.advance n).beyond = input.beyond := by
  induction n generalizing input with
  | zero => rfl
  | succ n ih => rw [Input.advance, ih, beyond_step]

theorem Input.Bounded.advance {input : Input} (h : input.Bounded flawed) (n : Nat) :
    (input.advance n).Bounded flawed := by
  intro fault hfault
  exact h fault (beyond_advance input n ▸ hfault)

namespace Scan

/-- A reader fails only with what may be met while a text is read. -/
abbrev Sound (flawed : Prop) (part : Scan α) : Prop :=
  ⦃fun input => ⌜input.Bounded flawed⌝⦄ part
  ⦃post⟨fun _ input => ⌜input.Bounded flawed⌝, fun fault => ⌜fault.Within (Unreadable flawed)⌝⟩⦄

@[spec] theorem sound_malformed : Sound flawed (malformed : Scan α) := by
  mvcgen [malformed]

@[spec] theorem sound_lookAhead (count : Nat) : Sound flawed (lookAhead count) := by
  mvcgen [lookAhead]
  next hbounded _ fault hbeyond _ => exact hbounded fault hbeyond

@[spec] theorem sound_peek : Sound flawed peek := by mvcgen [peek]

@[spec] theorem sound_peekAt (offset : Nat) : Sound flawed (peekAt offset) := by mvcgen [peekAt]

@[spec] theorem sound_advance (count : Nat) : Sound flawed (advance count) := by
  mvcgen [advance]
  next hbounded _ => exact Input.Bounded.advance hbounded count

@[spec] theorem sound_step : Sound flawed step := sound_advance 1

@[spec] theorem sound_run (p : Char → Bool) : Sound flawed (run p) := by mvcgen [run]

@[spec] theorem sound_takeRun (p : Char → Bool) : Sound flawed (takeRun p) := by mvcgen [takeRun]

@[spec] theorem sound_skipRun (p : Char → Bool) : Sound flawed (skipRun p) := by mvcgen [skipRun]

@[spec] theorem sound_skipSpaces : Sound flawed skipSpaces := sound_skipRun _

@[spec] theorem sound_lineBreak : Sound flawed lineBreak := by mvcgen [lineBreak]

@[spec] theorem sound_nextIs (p : Char → Bool) : Sound flawed (nextIs p) := by mvcgen [nextIs]

@[spec] theorem sound_atMark (marks : List Text) : Sound flawed (atMark marks) := by
  mvcgen [atMark]

@[spec] theorem sound_atDocumentMark : Sound flawed atDocumentMark := sound_atMark _

@[spec] theorem sound_ignoredLine : Sound flawed ignoredLine := by mvcgen [ignoredLine]

end Scan

open Scan

@[spec] theorem sound_anchorName : Sound flawed anchorName := by mvcgen [anchorName]

@[spec] theorem sound_percentBytes (bound : Nat) : Sound flawed (percentBytes bound) := by
  induction bound with
  | zero => mvcgen [percentBytes]
  | succ bound ih => mvcgen [percentBytes, ih]

@[spec] theorem sound_uriTail (bound : Nat) : Sound flawed (uriTail bound) := by
  induction bound with
  | zero => mvcgen [uriTail]
  | succ bound ih => mvcgen [uriTail, ih]

@[spec] theorem sound_uri : Sound flawed uri := by mvcgen [uri]

@[spec] theorem sound_tagHandle : Sound flawed tagHandle := by mvcgen [tagHandle]

@[spec] theorem sound_writtenTag : Sound flawed writtenTag := by mvcgen [writtenTag]

@[spec] theorem sound_versionNumber : Sound flawed versionNumber := by
  mvcgen [versionNumber]

@[spec] theorem sound_directive : Sound flawed directive := by mvcgen [directive]

@[spec] theorem bounds_codePointOf (code : Nat) :
    Fault.Bounds (Unreadable flawed) (codePointOf code) := by
  mvcgen [codePointOf]

@[spec] theorem sound_hexDigits (count offset value : Nat) :
    Sound flawed (hexDigits count offset value) := by
  induction count generalizing offset value with
  | zero => mvcgen [hexDigits]
  | succ count ih => mvcgen [hexDigits, ih]

@[spec] theorem sound_quotedBreaks (bound : Nat) : Sound flawed (quotedBreaks bound) := by
  induction bound with
  | zero => mvcgen [quotedBreaks]
  | succ bound ih => mvcgen [quotedBreaks, ih]

@[spec] theorem sound_quotedSpace : Sound flawed quotedSpace := by mvcgen [quotedSpace]

@[spec] theorem sound_escape : Sound flawed escape := by mvcgen [escape]

@[spec] theorem sound_quotedTail (double : Bool) (bound : Nat) :
    Sound flawed (quotedTail double bound) := by
  induction bound with
  | zero => mvcgen [quotedTail]
  | succ bound ih => mvcgen [quotedTail, ih]

@[spec] theorem sound_quotedScalar : Sound flawed quotedScalar := by mvcgen [quotedScalar]

@[spec] theorem sound_startsPlain (inFlow : Bool) (c : Char) :
    Sound flawed (startsPlain inFlow c) := by
  mvcgen [startsPlain]

@[spec] theorem sound_plainWord (inFlow : Bool) : Sound flawed (plainWord inFlow) := by
  mvcgen [plainWord]

@[spec] theorem sound_plainBreaks (bound : Nat) : Sound flawed (plainBreaks bound) := by
  induction bound with
  | zero => mvcgen [plainBreaks]
  | succ bound ih => mvcgen [plainBreaks, ih]

@[spec] theorem sound_plainGap : Sound flawed plainGap := by mvcgen [plainGap]

@[spec] theorem sound_plainWords (inFlow : Bool) (indent bound : Nat) (broken : Bool) :
    Sound flawed (plainWords inFlow indent bound broken) := by
  induction bound generalizing broken with
  | zero => mvcgen [plainWords]
  | succ bound ih => mvcgen [plainWords, ih]

@[spec] theorem sound_plainScalar (inFlow : Bool) (indent : Nat) :
    Sound flawed (plainScalar inFlow indent) := by
  mvcgen [plainScalar]

@[spec] theorem sound_chomping : Sound flawed chomping := by mvcgen [chomping]

@[spec] theorem sound_increment : Sound flawed increment := by mvcgen [increment]

@[spec] theorem sound_blockHeader : Sound flawed blockHeader := by mvcgen [blockHeader]

@[spec] theorem sound_leadingLines (bound deepest : Nat) :
    Sound flawed (leadingLines bound deepest) := by
  induction bound generalizing deepest with
  | zero => mvcgen [leadingLines]
  | succ bound ih => mvcgen [leadingLines, ih]

@[spec] theorem sound_skipIndent (indent bound : Nat) : Sound flawed (skipIndent indent bound) := by
  induction bound with
  | zero => mvcgen [skipIndent]
  | succ bound ih => mvcgen [skipIndent, ih]

@[spec] theorem sound_emptyLines (indent bound : Nat) : Sound flawed (emptyLines indent bound) := by
  induction bound with
  | zero => mvcgen [emptyLines]
  | succ bound ih => mvcgen [emptyLines, ih]

@[spec] theorem sound_atBlockLine (indent : Nat) : Sound flawed (atBlockLine indent) := by
  mvcgen [atBlockLine]

@[spec] theorem sound_blockLines (folded : Bool) (indent bound : Nat) (empty : List Text) :
    Sound flawed (blockLines folded indent bound empty) := by
  induction bound generalizing empty with
  | zero => mvcgen [blockLines]
  | succ bound ih => mvcgen [blockLines, ih]

@[spec] theorem sound_blockScalar (folded : Bool) (least : Nat) :
    Sound flawed (blockScalar folded least) := by
  mvcgen [blockScalar]

end KconfigReference.Yaml
