import KconfigReference.Proofs.Balance
import KconfigReference.Proofs.Kconfig.Resolving

/-!
Source lines with a path in quotation marks. The argument is cut off at the first space of the line,
before anything is known of its marks. Main statement: a path whose directory has no space is taken
whole, and of any other one the first word counts, as if it stood there alone and without a mark.
-/

namespace KconfigReference

namespace Line

def source (argument path : Text) (number : Nat) : Line := ⟨"source " ++ argument, path, number⟩

/-- The line that names a file of a directory, in quotation marks. -/
def quotedSource (part file path : Text) (number : Nat) : Line :=
  source (Layout.marked true true (part ++ "/" ++ file)) path number

variable (argument path : Text) (number : Nat)

theorem source_words : (source argument path number).word = "source".toList ∧
    (source argument path number).rest = argument := by
  have hspace : ' ' ∉ "source".toList := by decide
  exact Text.firstWord_append_space hspace argument

@[simp] theorem rest_source : (source argument path number).rest = argument :=
  (source_words argument path number).2

@[simp] theorem keyword?_source : (source argument path number).keyword? = some .source := by
  rw [keyword?, (source_words argument path number).1]
  rfl

@[simp] theorem keyword?_quotedSource (part file : Text) :
    (quotedSource part file path number).keyword? = some .source :=
  keyword?_source _ path number

end Line

theorem Path.directory_isPrefix (path : Text) : Path.directory path <+: path := by
  have hdrop : ∀ (p : Char → Bool) (t : Text), Text.dropTrailing p t <+: t := by
    intro p t
    rw [Text.dropTrailing, ← List.reverse_suffix, List.reverse_reverse]
    exact List.dropWhile_suffix p
  rw [Path.directory]
  split
  · exact hdrop _ path
  · exact (hdrop _ _).trans (hdrop _ path)

namespace Layout

variable {layout : Layout} {token : CodeText} {part file argument : Text}

/-- The part of a quoted path before its first space: the closing mark is lost if the name of the
file has the space. -/
theorem firstWord_quoted (hpart : ' ' ∉ part) (hfile : IsFileName file) :
    ∃ closing name, IsFileName name ∧
      Text.firstWord (marked true true (part ++ "/" ++ file)) =
        marked true closing (part ++ "/" ++ name) := by
  by_cases hspace : ' ' ∈ file
  · obtain ⟨name, rest, rfl, hname⟩ := List.eq_append_cons_of_mem hspace
    refine ⟨false, name, ?_, ?_⟩
    · exact ⟨fun h => hfile.1 (by simp [h]), fun h => hfile.2 (by simp [h])⟩
    · have hbefore : ' ' ∉ marked true false (part ++ "/" ++ name) := by
        simp [marked, hpart, hname]
      have hline : marked true true (part ++ "/" ++ (name ++ ' ' :: rest)) =
          marked true false (part ++ "/" ++ name) ++ ' ' :: (rest ++ ['"']) := by simp [marked]
      rw [hline, (Text.firstWord_append_space hbefore _).1]
  · refine ⟨true, file, hfile, ?_⟩
    have hnone : ' ' ∉ marked true true (part ++ "/" ++ file) := by simp [marked, hpart, hspace]
    exact (Text.firstWord_of_not_mem hnone).1

/-- A path without marks is resolved as it is with one before it. -/
theorem resolve_opened (hne : argument ≠ []) (hquote : '"' ∉ argument) :
    layout.resolve (marked true false argument) = layout.resolve argument := by
  have hboth : ∀ opening, dequote (marked opening false argument) = some argument :=
    fun opening => dequote_marked hne hquote opening false
  have hbare : marked false false argument = argument := by simp [marked]
  rw [resolve, resolve, hboth true, ← hbare, hboth false, hbare]

theorem not_mem_directoryPart {t : Text} {c : Char} (hdot : c ≠ '.') (h : c ∉ t) :
    c ∉ directoryPart t := by
  rw [directoryPart]
  split
  · simpa using hdot
  · exact fun hc => h ((Path.directory_isPrefix t).subset hc)

/-- The token stands in no directory that its path does not have it in, but for the directory that
says nothing. -/
theorem absent_directoryPart {path : Text} (hne : token ≠ []) (hdot : token ≠ [.char '.'])
    (hnone : ¬token <:+: path.map CodePoint.char) :
    ¬token <:+: (directoryPart path).map CodePoint.char := by
  intro hoccurs
  rw [directoryPart] at hoccurs
  split at hoccurs
  · rcases (List.infix_singleton_iff _ _).1 hoccurs with hnil | hsingle
    · exact hne hnil
    · exact hdot hsingle
  · exact hnone (hoccurs.trans ((Path.directory_isPrefix path).isInfix.map _))

end Layout

namespace Walk

open Layout

variable {ctx : WalkContext} {path part file argument other target : Text} {number : Nat}
  {token : CodeText}

/-- Dispatching the line has the file of that directory walked, and only says so before; the lines
after it are left as they are. -/
def Processes (ctx : WalkContext) (line : Line) (target : Text) : Prop :=
  ∃ message, ∀ visit directory cursor, ∃ here, here.val = cursor ∧
    dispatch ctx visit directory line cursor = do
      debug message
      visit target
      pure (.onward, here)

/-- A walk that notes the directories it is sent to tells them apart. -/
theorem Processes.unique {line : Line} {target' : Text} (h : Processes ctx line target)
    (h' : Processes ctx line target') : target = target' := by
  obtain ⟨message, hdispatch⟩ := h
  obtain ⟨message', hdispatch'⟩ := h'
  obtain ⟨here, -, heq⟩ := hdispatch debug [] (.ofLines [])
  obtain ⟨here', -, heq'⟩ := hdispatch' debug [] (.ofLines [])
  have hlog := congrFun (heq.symm.trans heq') (.ofSettings .builtIn)
  simp only [bind_apply, debug_apply, pure_apply, EStateM.Result.ok.injEq] at hlog
  have hlast := congrArg (fun s : WalkState => s.log.toList.getLast?) hlog.2
  simpa [WalkState.note, LogRecord.debug] using hlast

theorem processes_iff {line : Line} {found : Text} (hk : line.keyword? = some .source)
    (hleads : ctx.LeadsTo line found) : Processes ctx line target ↔ target = found := by
  have hprocesses : Processes ctx line found := by
    obtain ⟨resolved, hresolve, hnameable, rfl⟩ := hleads
    refine ⟨resolved.remark, fun visit directory cursor => ⟨⟨cursor, Nat.le_refl _⟩, rfl, ?_⟩⟩
    simp [dispatch, hk, sourceLine, hresolve, hnameable, lift]
  constructor
  · intro h
    exact h.unique hprocesses
  · rintro rfl
    exact hprocesses

/-- Only what the argument up to its first space is resolved to matters. -/
theorem dispatch_source_congr (h : ctx.layout.resolve (Text.firstWord argument) =
      ctx.layout.resolve (Text.firstWord other)) (visit : Text → Walk Unit) (directory : Text)
    (cursor : Cursor) : dispatch ctx visit directory (.source argument path number) cursor =
      dispatch ctx visit directory (.source other path number) cursor := by
  have hremark : ∀ text, remark (.source argument path number) text =
      remark (.source other path number) text := fun _ => rfl
  simp only [dispatch, Line.keyword?_source, sourceLine, Line.rest_source, h, hremark]

/-- A quoted path that has no space in its directory is taken whole. -/
theorem leadsTo_quotedSource (htoken : ctx.layout.appsToken = .text token) (hne : token ≠ [])
    (hpart : part ≠ []) (hquote : '"' ∉ part) (hlast : part.getLast? ≠ some '/')
    (hnone : ¬token <:+: part.map CodePoint.char) (hfile : IsFileName file) (hspace : ' ' ∉ part) :
    ctx.LeadsTo (.quotedSource part file path number) (ctx.layout.root ++ "/" ++ part) := by
  obtain ⟨closing, name, hname, hfirst⟩ := firstWord_quoted hspace hfile
  have hresolve := resolve_marked htoken hne hpart hquote hlast hname (Nat.le_refl 1) true closing
  rw [splice_of_absent hnone] at hresolve
  refine ⟨⟨part ++ "/" ++ name, part, ctx.layout.root ++ "/" ++ part, true⟩, ?_, rfl, rfl⟩
  rw [Line.quotedSource, Line.rest_source, hfirst]
  exact hresolve

/-- Of any other one the first word is looked at, as if it stood alone and without marks. -/
theorem resolve_quotedSource {first rest : Text} (hfirst : ' ' ∉ first) (hne : first ≠ [])
    (hquote : '"' ∉ first) : ctx.layout.resolve (Text.firstWord (marked true true
      (first ++ ' ' :: rest ++ "/" ++ file))) = ctx.layout.resolve first := by
  have hbefore : ' ' ∉ marked true false first := by simp [marked, hfirst]
  have hline : marked true true (first ++ ' ' :: rest ++ "/" ++ file) =
      marked true false first ++ ' ' :: (rest ++ "/" ++ file ++ ['"']) := by simp [marked]
  rw [hline, (Text.firstWord_append_space hbefore _).1, resolve_opened hne hquote]

theorem leadsTo_of_resolve_eq {line : Line} {first : Text}
    (hresolve : ctx.layout.resolve (Text.firstWord line.rest) = ctx.layout.resolve first)
    (htoken : ctx.layout.appsToken = .text token) (hne : token ≠ []) (hfirst : first ≠ [])
    (hquote : '"' ∉ first) (hnone : ¬token <:+: (directoryPart first).map CodePoint.char) :
    ctx.LeadsTo line (ctx.layout.root ++ "/" ++ directoryPart first) := by
  refine ⟨⟨first, directoryPart first, ctx.layout.root ++ "/" ++ directoryPart first, true⟩,
    ?_, rfl, rfl⟩
  have hbare : dequote first = some first := by
    simpa [marked] using dequote_marked hfirst hquote false false
  rw [hresolve, resolve_eq hbare htoken hne, splice_of_absent hnone]
  rfl

/-- The path of a source line is taken whole between its quotation marks if its directory has no
space. Otherwise the line does what the first word of its path does alone: the directory of that
word is processed, which is another one. The token `.` would be taken out of the directory that says
nothing. -/
theorem dispatch_quotedSource (htoken : ctx.layout.appsToken = .text token) (hne : token ≠ [])
    (hpart : part ≠ []) (hhead : part.head? ≠ some ' ') (hquote : '"' ∉ part)
    (hlast : part.getLast? ≠ some '/') (hnone : ¬token <:+: part.map CodePoint.char)
    (hfile : IsFileName file) (path : Text) (number : Nat) :
    (' ' ∉ part → ∀ target, Processes ctx (.quotedSource part file path number) target ↔
      target = ctx.layout.root ++ "/" ++ part) ∧
    (' ' ∈ part →
      (∀ visit directory cursor,
        dispatch ctx visit directory (.quotedSource part file path number) cursor =
          dispatch ctx visit directory (.source (Text.firstWord part) path number) cursor) ∧
      (token ≠ [.char '.'] → ∀ target,
        Processes ctx (.quotedSource part file path number) target ↔
          target = ctx.layout.root ++ "/" ++ directoryPart (Text.firstWord part)) ∧
      directoryPart (Text.firstWord part) ≠ part) := by
  constructor
  · intro hspace target
    exact processes_iff (Line.keyword?_quotedSource path number part file)
      (leadsTo_quotedSource htoken hne hpart hquote hlast hnone hfile hspace)
  · intro hspace
    obtain ⟨first, rest, rfl, hfirst⟩ := List.eq_append_cons_of_mem hspace
    have hword : Text.firstWord (first ++ ' ' :: rest) = first :=
      (Text.firstWord_append_space hfirst rest).1
    have hfirstNe : first ≠ [] := by
      rintro rfl
      exact hhead rfl
    have hfirstQuote : '"' ∉ first := fun h => hquote (List.mem_append_left _ h)
    have hresolve : ctx.layout.resolve
        (Text.firstWord (Line.quotedSource (first ++ ' ' :: rest) file path number).rest) =
          ctx.layout.resolve first := by
      rw [Line.quotedSource, Line.rest_source]
      exact resolve_quotedSource hfirst hfirstNe hfirstQuote
    rw [hword]
    refine ⟨?_, ?_, ?_⟩
    · intro visit directory cursor
      apply dispatch_source_congr
      rw [(Text.firstWord_of_not_mem hfirst).1]
      exact resolve_quotedSource hfirst hfirstNe hfirstQuote
    · intro hdot target
      have hnoneFirst : ¬token <:+: first.map CodePoint.char := by
        intro h
        exact hnone (h.trans ((List.prefix_append first _).isInfix.map _))
      apply processes_iff (Line.keyword?_quotedSource path number _ file)
      exact leadsTo_of_resolve_eq hresolve htoken hne hfirstNe hfirstQuote
        (absent_directoryPart hne hdot hnoneFirst)
    · intro hsame
      have hnospace := not_mem_directoryPart (c := ' ') (by decide) hfirst
      rw [hsame] at hnospace
      exact hnospace hspace

/-- A directory with a space in its name, and another one with the part of that name before the
space. -/
def spacedTree : FileTree where
  root := .directory
    [("Kconfig", .file (Utf8.encode "source \"s/my dir/Kconfig\"\n")),
      ("s", .directory
        [("Kconfig", .file (Utf8.encode "config WRONG\n\tbool \"w\"\n")),
          ("my dir", .directory
            [("Kconfig", .file (Utf8.encode "config RIGHT\n\tbool \"r\"\n"))])])]
  home := []

theorem dispatch_quotedSource_sample :
    (∀ target, Processes (.ofSettings .builtIn spacedTree ".")
        (.quotedSource "s" "Kconfig" "./Kconfig" 1) target ↔ target = "./s".toList) ∧
    ∀ target, Processes (.ofSettings .builtIn spacedTree ".")
        (.quotedSource "s/my dir" "Kconfig" "./Kconfig" 1) target ↔ target = "./s".toList := by
  have htoken : (WalkContext.ofSettings .builtIn spacedTree ".").layout.appsToken =
      .text (("$APPSDIR".toList : Text) : CodeText) := by rfl
  have hfile : IsFileName "Kconfig" := ⟨by decide, by decide⟩
  have hwhole := (dispatch_quotedSource htoken (by decide) (show "s".toList ≠ [] by decide)
    (by decide) (by decide) (by decide) (by decide) hfile "./Kconfig" 1).1 (by decide)
  have hcut := ((dispatch_quotedSource htoken (by decide) (show "s/my dir".toList ≠ [] by decide)
    (by decide) (by decide) (by decide) (by decide) hfile "./Kconfig" 1).2 (by decide)).2.1
      (by decide)
  exact ⟨hwhole, hcut⟩

/-- The file before the space is read, and that of the directory between the marks is not. -/
theorem run_cuts_quotedSource :
    ¬Processes (.ofSettings .builtIn spacedTree ".")
      (.quotedSource "s/my dir" "Kconfig" "./Kconfig" 1) "./s/my dir" ∧
    ∃ t, run (.ofSettings .builtIn spacedTree ".") none (.ofSettings .builtIn) = .ok () t ∧
      t.opened.toList = ["./Kconfig".toList, "./s/Kconfig".toList] := by
  have hleads : (WalkContext.ofSettings .builtIn spacedTree ".").LeadsTo
      (.quotedSource "s/my dir" "Kconfig" "./Kconfig" 1) "./s" :=
    ⟨⟨"s/my", "s", "./s", true⟩, by decide +kernel, rfl, rfl⟩
  have hends : endsWith (run (.ofSettings .builtIn spacedTree ".") none)
      (fun t => decide (t.opened.toList = ["./Kconfig".toList, "./s/Kconfig".toList]))
      (.ofSettings .builtIn) = true := by decide +kernel
  obtain ⟨_, t, hrun, ht⟩ := exists_of_endsWith hends
  constructor
  · rw [processes_iff (Line.keyword?_quotedSource _ _ _ _) hleads]
    decide
  · exact ⟨t, hrun, of_decide_eq_true ht⟩

end Walk

end KconfigReference
