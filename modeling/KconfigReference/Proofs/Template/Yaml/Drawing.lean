import KconfigReference.Proofs.Template.Yaml.Composing
import KconfigReference.Proofs.Text.Intake
import KconfigReference.Template.Yaml.Value

/-!
What the nodes of a document may fail with when they get their values, which is where texts turn out
to be none of the values of their types. Main statement: what reading a file may fail with.
-/

namespace KconfigReference.Yaml

open Std.Do

set_option mvcgen.warning false

/-- The misuses that nodes may come to when they get their values. -/
def Unfit : Misuse → Prop
  | .badValue => True
  | .overflow => True
  | .badKey => True
  | .badIndex => True
  | .notText => True
  | .wrongType => True
  | .endless => True
  | _ => False

@[spec] theorem bounds_integerOf (base : Nat) (marks : List Char) (t : Text) :
    Fault.Bounds Unfit (integerOf base marks t) := by
  mvcgen [integerOf]

@[spec] theorem bounds_decimalInteger (t : Text) : Fault.Bounds Unfit (decimalInteger t) := by
  mvcgen [decimalInteger]

@[spec] theorem bounds_integer (t : Text) : Fault.Bounds Unfit (integer t) := by
  have hparts : ∀ parts : List Text, Fault.Bounds Unfit (parts.mapM decimalInteger) :=
    keeps_mapM bounds_decimalInteger
  mvcgen [integer, hparts]

@[spec] theorem bounds_realPart (t : Text) : Fault.Bounds Unfit (realPart t) := by
  mvcgen [realPart]

@[spec] theorem bounds_sumSixtieths (parts : List Binary64) :
    Fault.Bounds Unfit (sumSixtieths parts) := by
  refine keeps_foldlM (fun sum part => ?_) _ _
  mvcgen

@[spec] theorem bounds_real (t : Text) : Fault.Bounds Unfit (real t) := by
  have hparts : ∀ parts : List Text, Fault.Bounds Unfit (parts.mapM realPart) :=
    keeps_mapM bounds_realPart
  mvcgen [real, hparts]

@[spec] theorem bounds_truth (t : Text) : Fault.Bounds Unfit (truth t) := by mvcgen [truth]

@[spec] theorem bounds_binary (t : Text) : Fault.Bounds Unfit (binary t) := by mvcgen [binary]

@[spec] theorem bounds_timestamp (t : Text) : Fault.Bounds Unfit (timestamp t) := by
  mvcgen [timestamp]

@[spec] theorem bounds_map {allowed : Misuse → Prop} {outcome : Except Fault α}
    (h : Fault.Bounds allowed outcome) (f : α → β) : Fault.Bounds allowed (outcome.map f) := by
  cases outcome with
  | ok a => exact Fault.bounds_ok _
  | error fault => exact fun htrue => h htrue

@[spec] theorem bounds_plainValue (tag : Tag) (t : Text) :
    Fault.Bounds Unfit (plainValue tag t) := by
  mvcgen [plainValue]

@[spec] theorem bounds_scalarValue (tag : Tag) (t : CodeText) :
    Fault.Bounds Unfit (scalarValue tag t) := by
  mvcgen [scalarValue]

@[spec] theorem bounds_scalarText (graph : Graph) (bound : Nat) (id : NodeId) :
    Fault.Bounds Unfit (graph.scalarText bound id) := by
  induction bound generalizing id with
  | zero => mvcgen [Graph.scalarText]
  | succ bound ih => mvcgen [Graph.scalarText, ih]

@[spec] theorem bounds_leaf (graph : Graph) (id : NodeId) :
    Fault.Bounds Unfit (graph.leaf id) := by
  mvcgen [Graph.leaf]

namespace Rework

/-- Merging fails only with faults of the format. -/
abbrev Sound (part : Rework α) : Prop :=
  ⦃⌜True⌝⦄ part ⦃post⟨fun _ _ => ⌜True⌝, fun fault => ⌜fault.Within Unfit⌝⟩⦄

/-- All parts of merging, by induction on the bound that they share. -/
theorem sound_parts (bound : Nat) :
    (∀ id merged, Sound (settle bound id merged)) ∧
    (∀ value, Sound (toMerge bound value)) ∧
    (∀ items, Sound (settleAll bound items)) ∧
    ∀ id, Sound (settledEntries bound id) := by
  induction bound with
  | zero =>
      refine ⟨fun id merged => ?_, fun value => ?_, fun items => ?_, fun id => ?_⟩
      · mvcgen [settle]
      · mvcgen [toMerge]
      · mvcgen [settleAll]
      · mvcgen [settledEntries]
  | succ bound ih =>
      obtain ⟨hsettle, htoMerge, hsettleAll, hsettledEntries⟩ := ih
      refine ⟨fun id merged => ?_, fun value => ?_, fun items => ?_, fun id => ?_⟩
      · mvcgen [settle, htoMerge, hsettle]
      · mvcgen [toMerge, hsettledEntries, hsettleAll]
      · cases items with
        | nil => mvcgen [settleAll]
        | cons item rest => mvcgen [settleAll, hsettledEntries, hsettleAll]
      · mvcgen [settledEntries, hsettle]

@[spec] theorem bounds_settle (bound : Nat) (id : NodeId) (merged : Entries) (graph : Graph) :
    Fault.Bounds Unfit (settle bound id merged graph) :=
  fun h => (sound_parts bound).1 id merged graph h

end Rework

namespace Draw

/-- Outlines are drawn or fail with what nodes may come to. -/
abbrev Sound (part : Draw α) : Prop :=
  ⦃⌜True⌝⦄ part ⦃post⟨fun _ _ => ⌜True⌝, fun fault => ⌜fault.Within Unfit⌝⟩⦄

@[spec] theorem sound_malformed : Sound (malformed : Draw α) := by mvcgen [malformed]

@[spec] theorem sound_setOutline (id : NodeId) (outline : Outline) :
    Sound (setOutline id outline) := by
  mvcgen [setOutline]

@[spec] theorem sound_outline (id : NodeId) : Sound (outline id) := by mvcgen [outline]

@[spec] theorem sound_keyed (id : NodeId) : Sound (keyed id) := by
  mvcgen [keyed] invariants
    · post⟨fun _ _ => ⌜True⌝, fun fault => ⌜fault.Within Unfit⌝⟩
    · post⟨fun _ _ => ⌜True⌝, fun fault => ⌜fault.Within Unfit⌝⟩
  with simp_all

@[spec] theorem sound_onlyEntry (id : NodeId) : Sound (onlyEntry id) := by mvcgen [onlyEntry]

@[spec] theorem sound_fill (id : NodeId) : Sound (fill id) := by
  have hlist : ∀ items : List NodeId, Sound (items.forM fun item => do let _ ← outline item) :=
    keeps_forM fun item => by mvcgen
  have hpairs : ∀ items : List NodeId, Sound (items.mapM onlyEntry) := keeps_mapM sound_onlyEntry
  mvcgen [fill, hlist, hpairs]

@[spec] theorem sound_rounds (bound : Nat) : Sound (rounds bound) := by
  induction bound with
  | zero => mvcgen [rounds]
  | succ bound ih =>
      have hfill : ∀ items : List NodeId, Sound (items.forM fill) := keeps_forM sound_fill
      mvcgen [rounds, hfill, ih]

end Draw

theorem bounds_outlines (graph : Graph) (root : NodeId) :
    Fault.Bounds Unfit (graph.outlines root) := by
  have hdrawn : Draw.Sound (Draw.outline root >>= fun _ => Draw.rounds (graph.size + 1)) := by
    mvcgen
  have hrun : ∀ d, Fault.Bounds Unfit
      ((Draw.outline root >>= fun _ => Draw.rounds (graph.size + 1)) d) := fun d h => hdrawn d h
  mvcgen [Graph.outlines, hrun]

theorem Input.beyond_ofText (text : Text) (beyond : Option Fault) :
    (Input.ofText text beyond).beyond = beyond := by
  unfold Input.ofText
  split <;> rfl

@[spec] theorem ofBytes_spec (bytes : Bytes) :
    ⦃⌜True⌝⦄ Input.ofBytes bytes
    ⦃post⟨fun input => ⌜input.Bounded (Utf8.decode? bytes = none)⌝,
      fun fault => ⌜fault.Within (Unreadable (Utf8.decode? bytes = none))⌝⟩⦄ := by
  have hflawed : (Text.pieceWise bytes).2 = true →
      (Fault.misused .badEncoding).Within (Unreadable (Utf8.decode? bytes = none)) :=
    fun h => Text.decode?_of_pieceWise h
  unfold Input.ofBytes
  revert hflawed
  generalize Text.pieceWise bytes = handed
  obtain ⟨pieces, faulty⟩ := handed
  intro hflawed
  dsimp only at hflawed ⊢
  split
  next hearly => exact fun _ => hflawed (by simp_all)
  next =>
    -- What is behind the text is a fault of its characters or of its bytes.
    generalize hsound : (Input.groups pieces).takeWhile (fun group => group.all isPermitted) = sound
    generalize hbeyond : (if sound.length < (Input.groups pieces).length then some Fault.malformed
      else if faulty then some (.misused .badEncoding) else none) = beyond
    have hwithin : ∀ fault, beyond = some fault →
        fault.Within (Unreadable (Utf8.decode? bytes = none)) := by
      rintro fault rfl
      split_ifs at hbeyond with hfew hfaulty
      · cases hbeyond
        trivial
      · cases hbeyond
        exact hflawed hfaulty
    split
    next fault => exact fun _ => hwithin fault rfl
    next =>
      intro _ fault hfault
      rw [Input.beyond_ofText] at hfault
      exact hwithin fault hfault

/-- Reading a file fails with a fault of the format, as its text does or as its values do. -/
theorem within_of_read {bytes : Bytes} {fault : Fault} (h : read bytes = .error fault) :
    fault.Within fun m => Unreadable (Utf8.decode? bytes = none) m ∨ Unfit m := by
  have hinput := ofBytes_spec bytes trivial
  rcases bind_eq_error_iff.1 h with hbytes | ⟨input, hbytes, hread⟩
  · rw [hbytes] at hinput
    exact Fault.Within.mono hinput fun _ => .inl
  · rw [hbytes] at hinput
    have hgraph := bounds_ofInput hinput trivial
    rcases bind_eq_error_iff.1 hread with hcomposed | ⟨composed, -, hdrawing⟩
    · rw [hcomposed] at hgraph
      exact Fault.Within.mono hgraph fun _ => .inl
    · split at hdrawing
      next => cases hdrawing
      next _ graph root =>
        have houtlines := bounds_outlines graph root trivial
        rcases bind_eq_error_iff.1 hdrawing with hdrawn | ⟨outlines, -, hvalue⟩
        · rw [hdrawn] at houtlines
          exact Fault.Within.mono houtlines fun _ => .inr
        · cases hvalue

end KconfigReference.Yaml
