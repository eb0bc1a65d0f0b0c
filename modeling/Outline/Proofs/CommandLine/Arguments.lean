import Mathlib.Tactic.Common
import Outline.CommandLine.Introspect

set_option autoImplicit false

/-!
# Arguments that ask for a report

A root folder followed by options with their values is read as it is meant, as long as none of these
texts looks like an option.
-/
namespace Outline.CommandLine

/-- Whether a text is taken for an argument or a value, and not for an option. -/
def isTaken (text : String) : Bool := (markOf introspect text).toOption == some .plain

def isPlain (text : String) : Bool := text.toList.head? != some '-'

/-- Options with their values as arguments. -/
def spell (options : List (String × String)) : List String :=
  options.flatMap fun o => [o.1, o.2]

def optionsFor (entities filter : Option String) : List (String × String) :=
  entities.toList.map (("--entities", ·)) ++ filter.toList.map (("--filter", ·))

/-- The arguments that ask for a report. -/
def argumentsFor (root : String) (entities filter : Option String) : List String :=
  root :: spell (optionsFor entities filter)

theorem markOf_of_isTaken {text : String} (h : isTaken text) :
    markOf introspect text = .ok .plain := by
  unfold isTaken at h
  cases hmark : markOf introspect text with
  | error e => simp [hmark, Except.toOption] at h
  | ok mark => simpa [hmark, Except.toOption] using h

theorem isTaken_of_isPlain {text : String} (h : isPlain text) : isTaken text := by
  have hmark : markOf introspect text = .ok .plain := by
    unfold markOf
    exact if_pos h
  simp [isTaken, hmark, Except.toOption]

theorem ne_separator_of_isTaken {text : String} (h : isTaken text) : (text == "--") = false := by
  rw [beq_eq_false_iff_ne]
  rintro rfl
  revert h
  decide +kernel

theorem markAll_cons {p : Program} {text : String} {mark : Mark} {rest : List String}
    (h : (text == "--") = false) (hmark : markOf p text = .ok mark) :
    markAll p (text :: rest) = (markAll p rest).map fun marks => (text, mark) :: marks := by
  rw [markAll, h, hmark]
  cases markAll p rest <;> rfl

/-- The options of a report that take a text. -/
def reportOptions : List String := ["--entities", "--filter"]

theorem markOf_reportOption {name : String} (h : name ∈ reportOptions) :
    (name == "--") = false ∧
      markOf introspect name = .ok (.option name ⟨[name], .text⟩ none) := by
  have hall : ∀ name ∈ reportOptions, (name == "--") = false ∧
      markOf introspect name = .ok (.option name ⟨[name], .text⟩ none) := by
    decide +kernel
  exact hall name h

theorem title_single (name : String) (kind : OptionKind) :
    OptionSpec.title ⟨[name], kind⟩ = name := by
  simp [OptionSpec.title]

/-- What has been read after options with their values: the argument can no longer follow. -/
def Reading.withOptions (r : Reading) (options : List (String × String)) : Reading :=
  { r with
    own := if options.isEmpty then r.own else .closed
    values := options.reverse ++ r.values }

theorem follow_spell {options : List (String × String)}
    (hnames : ∀ o ∈ options, o.1 ∈ reportOptions) (hvalues : ∀ o ∈ options, isTaken o.2)
    {r : Reading} (hown : r.own ≠ .open) (hextras : r.extras = []) :
    (markAll introspect (spell options)).bind (follow introspect r) =
      .ok (.run (r.withOptions options)) := by
  induction options generalizing r with
  | nil =>
    change follow introspect r [] = _
    rw [follow, if_pos (by simp [hextras])]
    rfl
  | cons o rest ih =>
    obtain ⟨name, value⟩ := o
    rw [List.forall_mem_cons] at hnames hvalues
    obtain ⟨hname, hmark⟩ := markOf_reportOption hnames.1
    have hspell : spell ((name, value) :: rest) = name :: value :: spell rest := rfl
    have hstep : ∀ marks, follow introspect r
        ((name, .option name ⟨[name], .text⟩ none) :: (value, .plain) :: marks) =
        follow introspect (r.withOptions [(name, value)]) marks := by
      intro marks
      simp [follow, OptionKind.takesValue, Reading.assign, Reading.settle, Reading.withOptions,
        title_single, hown]
    have hrest := ih hnames.2 hvalues.2 (r := r.withOptions [(name, value)]) (by
      simp [Reading.withOptions]) hextras
    rw [hspell, markAll_cons hname hmark,
      markAll_cons (ne_separator_of_isTaken hvalues.1) (markOf_of_isTaken hvalues.1)]
    cases hmarks : markAll introspect (spell rest) with
    | error e =>
      rw [hmarks] at hrest
      cases hrest
    | ok marks =>
      rw [hmarks] at hrest
      change follow introspect r _ = _
      rw [hstep]
      refine Eq.trans hrest ?_
      simp [Reading.withOptions]

theorem readArguments_spell {root : String} {options : List (String × String)}
    (hroot : isTaken root) (hnames : ∀ o ∈ options, o.1 ∈ reportOptions)
    (hvalues : ∀ o ∈ options, isTaken o.2) :
    readArguments introspect (root :: spell options) =
      .ok (.run (({ argument := some root, own := .taken } : Reading).withOptions options)) := by
  rw [readArguments, markAll_cons (ne_separator_of_isTaken hroot) (markOf_of_isTaken hroot)]
  have hfollow := follow_spell hnames hvalues
    (r := ({ argument := some root, own := .taken } : Reading)) (by simp) rfl
  cases hmarks : markAll introspect (spell options) with
  | error e =>
    rw [hmarks] at hfollow
    cases hfollow
  | ok marks =>
    rw [hmarks] at hfollow
    exact hfollow

/-- What has been read of such arguments. -/
def readingFor (root : String) (entities filter : Option String) : Reading :=
  Reading.withOptions { argument := some root, own := .taken } (optionsFor entities filter)

theorem lookup_readingFor (root : String) (entities filter : Option String) :
    (readingFor root entities filter).values.lookup "--entities" = entities ∧
      (readingFor root entities filter).values.lookup "--filter" = filter ∧
      (readingFor root entities filter).values.lookup "--log-level" = none := by
  cases entities <;> cases filter <;> exact ⟨rfl, rfl, rfl⟩

theorem run_argumentsFor [CharacterNames] {root : String} {entities filter : Option String}
    (h : ∀ text ∈ root :: (entities.toList ++ filter.toList), isTaken text)
    (fs : FileSystem) (here token : String) (parse : Parser) (room : Option ℕ) :
    run fs here token (argumentsFor root entities filter) parse room =
      finish fs here token (readingFor root entities filter) defaultThreshold parse room := by
  rw [List.forall_mem_cons, List.forall_mem_append] at h
  obtain ⟨hroot, hentities, hfilter⟩ := h
  have hnames : ∀ o ∈ optionsFor entities filter, o.1 ∈ reportOptions := by
    rw [optionsFor, List.forall_mem_append, List.forall_mem_map, List.forall_mem_map]
    exact ⟨fun _ _ => .head _, fun _ _ => .tail _ (.head _)⟩
  have hvalues : ∀ o ∈ optionsFor entities filter, isTaken o.2 := by
    rw [optionsFor, List.forall_mem_append, List.forall_mem_map, List.forall_mem_map]
    exact ⟨hentities, hfilter⟩
  have hthreshold : chosenThreshold (readingFor root entities filter) = .ok defaultThreshold := by
    rw [chosenThreshold, (lookup_readingFor root entities filter).2.2]
  rw [run, argumentsFor, readArguments_spell hroot hnames hvalues]
  simp only
  rw [← readingFor, hthreshold]

theorem markAll_untaken {text : String} (h : isTaken text = false)
    {marks : List (String × Mark)} (hmarks : markAll introspect [text] = .ok marks) :
    ∃ mark, marks = [(text, mark)] ∧ mark ≠ .plain := by
  cases hseparator : text == "--" with
  | true =>
    rw [markAll, hseparator] at hmarks
    cases hmarks
    exact ⟨.separator, rfl, by simp⟩
  | false =>
    cases hmark : markOf introspect text with
    | error e =>
      rw [markAll, hseparator, hmark] at hmarks
      cases hmarks
    | ok mark =>
      rw [markAll_cons hseparator hmark] at hmarks
      cases hmarks
      refine ⟨mark, rfl, ?_⟩
      rintro rfl
      simp [isTaken, hmark, Except.toOption] at h

/-- A filter that looks like an option leaves the option for the filter without a value. -/
theorem run_untaken_filter [CharacterNames] {root text : String} (hroot : isTaken root)
    (htext : isTaken text = false) (fs : FileSystem) (here token : String) (parse : Parser)
    (room : Option ℕ) :
    (run fs here token (argumentsFor root none (some text)) parse room).files = fs ∧
      (run fs here token (argumentsFor root none (some text)) parse room).exit = .ok 2 ∧
      (run fs here token (argumentsFor root none (some text)) parse room).written = none := by
  obtain ⟨hname, hmark⟩ := markOf_reportOption (.tail _ (.head _) : "--filter" ∈ reportOptions)
  have herror : ∃ e, readArguments introspect [root, "--filter", text] = .error e := by
    rw [readArguments, markAll_cons (ne_separator_of_isTaken hroot) (markOf_of_isTaken hroot),
      markAll_cons hname hmark]
    cases hmarks : markAll introspect [text] with
    | error e => exact ⟨e, rfl⟩
    | ok marks =>
      obtain ⟨mark, rfl, hne⟩ := markAll_untaken htext hmarks
      refine ⟨.missingValue ⟨["--filter"], .text⟩, ?_⟩
      cases mark with
      | plain => exact absurd rfl hne
      | separator => rfl
      | option name spec joined => rfl
      | unknown => rfl
  obtain ⟨e, he⟩ := herror
  have hrun : run fs here token (argumentsFor root none (some text)) parse room =
      { files := fs, exit := .ok 2, errors := introspect.complaint e } := by
    change run fs here token [root, "--filter", text] parse room = _
    rw [run, he]
  rw [hrun]
  exact ⟨rfl, rfl, rfl⟩

end Outline.CommandLine
