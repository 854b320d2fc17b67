import KconfigReference.Proofs.Template.Yaml.Scanning
import KconfigReference.Template.Yaml.Node

/-!
What composing a document from its tokens may fail with: nothing but what its text may come to while
it is read.
-/

namespace KconfigReference.Yaml

open Std.Do

set_option mvcgen.warning false

variable {flawed : Prop}

namespace Reading

@[simp] theorem input_emit (r : Reading) (token : Token) : (r.emit token).input = r.input := rfl

@[simp] theorem input_closeWhile (r : Reading) (p : Nat → Bool) :
    (r.closeWhile p).input = r.input := rfl

@[simp] theorem input_closeTo (r : Reading) (column : Nat) :
    (r.closeTo column).input = r.input := by
  unfold closeTo
  split <;> rfl

@[simp] theorem input_closeAll (r : Reading) : r.closeAll.input = r.input := by
  unfold closeAll
  split <;> rfl

@[simp] theorem input_openBlock (r : Reading) (token : Token) :
    (r.openBlock token).input = r.input := by
  unfold openBlock
  dsimp only
  split <;> rfl

end Reading

namespace Lex

/-- A reader of tokens fails only with what may be met while a text is read. -/
abbrev Sound (flawed : Prop) (part : Lex α) : Prop :=
  ⦃fun r => ⌜r.input.Bounded flawed⌝⦄ part
  ⦃post⟨fun _ r => ⌜r.input.Bounded flawed⌝, fun fault => ⌜fault.Within (Unreadable flawed)⌝⟩⦄

@[spec] theorem sound_malformed : Sound flawed (malformed : Lex α) := by mvcgen [malformed]

/-- A part of the text is read as its reader reads it. -/
@[spec] theorem scan_spec (part : Scan α) (Q : PostCond α (.arg Reading (.except Fault .pure))) :
    ⦃fun r => wp⟦part⟧ (fun a input => Q.1 a { r with input := input }, Q.2) r.input⦄
    scan part ⦃Q⦄ :=
  zoom_spec (fun _ => rfl) Q

@[spec] theorem sound_setKeyAllowed (allowed : Bool) : Sound flawed (setKeyAllowed allowed) := by
  mvcgen [setKeyAllowed]

@[spec] theorem sound_skipBlank (bound : Nat) : Sound flawed (skipBlank bound) := by
  induction bound with
  | zero => mvcgen [skipBlank]
  | succ bound ih => mvcgen [skipBlank, ih]

@[spec] theorem bounds_keep (input : Input) (candidate : Option Candidate) :
    Fault.Bounds (Unreadable flawed) (keep input candidate) := by
  mvcgen [keep]

@[spec] theorem sound_dropStale : Sound flawed dropStale := by
  have houter : ∀ input candidates, Fault.Bounds (Unreadable flawed)
      (List.mapM (keep input) candidates) := fun input => keeps_mapM (bounds_keep input)
  mvcgen [dropStale, houter]

@[spec] theorem sound_dropCandidate : Sound flawed dropCandidate := by mvcgen [dropCandidate]

@[spec] theorem sound_noteCandidate : Sound flawed noteCandidate := by mvcgen [noteCandidate]

@[spec] theorem sound_mark (token : Token) (width : Nat) : Sound flawed (mark token width) := by
  mvcgen [mark]

@[spec] theorem sound_endStream : Sound flawed endStream := by
  mvcgen [endStream]
  next hbounded after => simpa [after] using hbounded

@[spec] theorem sound_readDirective : Sound flawed readDirective := by
  mvcgen [readDirective]
  next hbounded after => simpa [after] using hbounded

@[spec] theorem sound_documentMark (token : Token) : Sound flawed (documentMark token) := by
  mvcgen [documentMark]
  next hbounded after => simpa [after] using hbounded

@[spec] theorem sound_openFlow (token : Token) : Sound flawed (openFlow token) := by
  mvcgen [openFlow]

@[spec] theorem sound_closeFlow (token : Token) : Sound flawed (closeFlow token) := by
  mvcgen [closeFlow]

@[spec] theorem sound_flowEntry : Sound flawed flowEntry := by mvcgen [flowEntry]

@[spec] theorem sound_requireKeyAllowed : Sound flawed requireKeyAllowed := by
  mvcgen [requireKeyAllowed]

@[spec] theorem sound_blockEntry : Sound flawed blockEntry := by
  mvcgen [blockEntry]
  next hbounded after => simpa [after] using hbounded

@[spec] theorem sound_markedKey : Sound flawed markedKey := by
  mvcgen [markedKey]
  next hbounded opened after => simpa [after, opened] using hbounded

@[spec] theorem sound_acceptCandidate (c : Candidate) : Sound flawed (acceptCandidate c) := by
  mvcgen [acceptCandidate]

@[spec] theorem sound_value : Sound flawed value := by
  mvcgen [value]
  next hbounded opened after => simpa [after, opened] using hbounded

@[spec] theorem sound_plain : Sound flawed plain := by mvcgen [plain]

@[spec] theorem sound_block (folded : Bool) : Sound flawed (block folded) := by mvcgen [block]

@[spec] theorem sound_endsMark : Sound flawed endsMark := by mvcgen [endsMark]

@[spec] theorem sound_isMark : Sound flawed isMark := by mvcgen [isMark]

@[spec] theorem sound_atMark (c : Char) : Sound flawed (atMark c) := by mvcgen [atMark]

@[spec] theorem sound_readContent (c : Char) : Sound flawed (readContent c) := by
  mvcgen [readContent, nodePart]

@[spec] theorem sound_readIndicator (c : Char) : Sound flawed (readIndicator c) := by
  mvcgen [readIndicator]

@[spec] theorem sound_readDocumentLine (c : Char) : Sound flawed (readDocumentLine c) := by
  mvcgen [readDocumentLine]

@[spec] theorem sound_next : Sound flawed next := by
  mvcgen [next]
  next hbounded after => simpa [after] using hbounded

@[spec] theorem sound_isOpen : Sound flawed isOpen := by mvcgen [isOpen]

@[spec] theorem sound_settle (bound : Nat) : Sound flawed (settle bound) := by
  induction bound with
  | zero => mvcgen [settle]
  | succ bound ih => mvcgen [settle, ih]

@[spec] theorem sound_peek : Sound flawed peek := by mvcgen [peek]

@[spec] theorem sound_skip : Sound flawed skip := by mvcgen [skip]

end Lex

namespace Compose

/-- Composing fails only with what may be met while a text is read. -/
abbrev Sound (flawed : Prop) (part : Compose α) : Prop :=
  ⦃fun c => ⌜c.reading.input.Bounded flawed⌝⦄ part
  ⦃post⟨fun _ c => ⌜c.reading.input.Bounded flawed⌝,
    fun fault => ⌜fault.Within (Unreadable flawed)⌝⟩⦄

@[spec] theorem sound_malformed : Sound flawed (malformed : Compose α) := by mvcgen [malformed]

/-- Tokens are taken as their reader takes them. -/
@[spec] theorem lex_spec (part : Lex α)
    (Q : PostCond α (.arg Composition (.except Fault .pure))) :
    ⦃fun c => wp⟦part⟧ (fun a reading => Q.1 a { c with reading := reading }, Q.2) c.reading⦄
    lex part ⦃Q⦄ :=
  zoom_spec (fun _ => rfl) Q

@[spec] theorem sound_peek : Sound flawed peek := by mvcgen [peek]

@[spec] theorem sound_skip : Sound flawed skip := by mvcgen [skip]

@[spec] theorem sound_expect (token : Token) : Sound flawed (expect token) := by mvcgen [expect]

@[spec] theorem sound_skipIf (token : Token) : Sound flawed (skipIf token) := by mvcgen [skipIf]

@[spec] theorem sound_fullName (written : WrittenTag) : Sound flawed (fullName written) := by
  mvcgen [fullName]

@[spec] theorem sound_mapM_fullName (written : Option WrittenTag) :
    Sound flawed (written.mapM fullName) := by
  cases written with
  | none =>
      rw [Option.mapM_none]
      mvcgen
  | some tag =>
      rw [Option.mapM_some]
      mvcgen

@[spec] theorem sound_add (anchor : Option Text) (node : Node) :
    Sound flawed (add anchor node) := by
  mvcgen [add]

@[spec] theorem sound_absent : Sound flawed absent := sound_add _ _

@[spec] theorem sound_finish (id : NodeId) (content : Content) :
    Sound flawed (finish id content) := by
  mvcgen [finish]

@[spec] theorem sound_properties : Sound flawed properties := by mvcgen [properties]

end Compose

open Compose

/-- All readers of nodes and their parts, by induction on the bound that they share. -/
theorem sound_nodes (bound : Nat) :
    (∀ place, Sound flawed (node bound place)) ∧
    (∀ ends place, Sound flawed (nodeUnless ends bound place)) ∧
    Sound flawed (blockItems bound) ∧
    Sound flawed (flushItems bound) ∧
    Sound flawed (blockEntries bound) ∧
    (∀ isFirst, Sound flawed (flowItems bound isFirst)) ∧
    ∀ isFirst, Sound flawed (flowEntries bound isFirst) := by
  induction bound with
  | zero =>
      simp only [node, nodeUnless, blockItems, flushItems, blockEntries, flowItems, flowEntries]
      exact ⟨fun _ => sound_malformed, fun _ _ => sound_malformed, sound_malformed,
        sound_malformed, sound_malformed, fun _ => sound_malformed, fun _ => sound_malformed⟩
  | succ bound ih =>
      obtain ⟨hnode, hunless, hblockItems, hflushItems, hblockEntries, hflowItems,
        hflowEntries⟩ := ih
      refine ⟨fun place => ?_, fun ends place => ?_, ?_, ?_, ?_, fun isFirst => ?_,
        fun isFirst => ?_⟩
      · mvcgen [node, hflowItems, hflowEntries, hflushItems, hblockItems, hblockEntries]
      · mvcgen [nodeUnless, hnode]
      · mvcgen [blockItems, hunless, hblockItems]
      · mvcgen [flushItems, hunless, hflushItems]
      · mvcgen [blockEntries, hunless, hblockEntries]
      · mvcgen [flowItems, hnode, hunless, hflowItems]
      · mvcgen [flowEntries, hnode, hunless, hflowEntries]

@[spec] theorem sound_node (bound : Nat) (place : Surroundings) :
    Sound flawed (node bound place) := (sound_nodes bound).1 place

@[spec] theorem sound_directives (bound : Nat) (versioned : Bool) :
    Sound flawed (directives bound versioned) := by
  induction bound generalizing versioned with
  | zero => mvcgen [directives]
  | succ bound ih => mvcgen [directives, ih]

@[spec] theorem sound_documentStart (bound : Nat) : Sound flawed (documentStart bound) := by
  mvcgen [documentStart]

@[spec] theorem sound_markedContent (bound : Nat) : Sound flawed (markedContent bound) := by
  mvcgen [markedContent]

@[spec] theorem sound_markedDocument (bound : Nat) :
    Sound flawed (documentStart bound *> markedContent bound) := by
  rw [seqRight_eq_bind]
  mvcgen

@[spec] theorem sound_skipEnds (bound : Nat) : Sound flawed (skipEnds bound) := by
  induction bound with
  | zero => mvcgen [skipEnds]
  | succ bound ih => mvcgen [skipEnds, ih]

@[spec] theorem sound_document (bound : Nat) : Sound flawed (document bound) := by
  mvcgen [document]

theorem bounds_ofInput {input : Input} (h : input.Bounded flawed) :
    Fault.Bounds (Unreadable flawed) (Graph.ofInput input) := by
  have hdocument : ∀ bound,
      Fault.Bounds (Unreadable flawed) (document bound ⟨.ofInput input, [], [], #[]⟩) := by
    intro bound
    have hdocument : Sound flawed (document bound) := sound_document bound
    have hsound := hdocument ⟨.ofInput input, [], [], #[]⟩ h
    change (wp⟦document bound ⟨.ofInput input, [], [], #[]⟩⟧ _).down at hsound
    cases hrun : document bound ⟨.ofInput input, [], [], #[]⟩ with
    | ok result => exact Fault.bounds_ok _
    | error fault =>
        rw [hrun] at hsound
        exact Fault.bounds_error hsound
  mvcgen [Graph.ofInput, hdocument]

end KconfigReference.Yaml
