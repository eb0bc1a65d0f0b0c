import Mathlib.Data.List.DropRight
import Mathlib.Data.List.SplitBy
import Outline.Proofs.Decl.Lines

set_option autoImplicit false

/-!
# Parameters

A parameter is cut out of the source from its first node to its last, so what stands around it is
lost, and put on one line: a run of blanks with a line break in it becomes what stands before the
break and one space. All other runs are kept, so that putting a text on one line twice is the same
as doing it once.
-/
namespace Outline.SyntaxTree

/-! ## Runs -/

/-- A text cut between blanks and other characters, into runs that are as long as can be. -/
def runs (chars : List Char) : List (List Char) :=
  chars.splitBy fun a b => Text.isBlank a == Text.isBlank b

def isSpaceOrTab (c : Char) : Bool := c == ' ' || c == '\t'

/-- A run that is put on one line: what stands before its first line break, without spaces and tabs
at the end, and one space. A run without a line break is kept. -/
def foldRun (run : List Char) : List Char :=
  if run.any breaksLine then
    (run.takeWhile (!breaksLine ·)).rdropWhile isSpaceOrTab ++ [' ']
  else run

/-- Characters that are all blanks, or all not, with a character of the other sort behind them. -/
structure IsRun (blank : Bool) (run rest : List Char) : Prop where
  ne_nil : run ≠ []
  alike : ∀ c ∈ run, Text.isBlank c = blank
  ends : ∀ c ∈ rest.head?, Text.isBlank c = !blank

theorem IsRun.runs_append {blank : Bool} {run rest : List Char} (h : IsRun blank run rest) :
    runs (run ++ rest) = run :: runs rest := by
  have hchain : run.IsChain fun a b => (Text.isBlank a == Text.isBlank b) = true := by
    refine List.Pairwise.isChain (List.pairwise_of_forall_mem_list fun a ha b hb => ?_)
    rw [h.alike a ha, h.alike b hb, beq_self_eq_true]
  have hsplit := @List.splitBy_append _ (fun a b => Text.isBlank a == Text.isBlank b) run rest
  rw [runs, hsplit, List.splitBy_of_isChain h.ne_nil hchain]
  · rfl
  · intro a ha b hb
    rw [h.alike a (List.mem_of_mem_getLast? ha), h.ends b hb]
    cases blank <;> rfl

/-- Every text is a sequence of runs. -/
theorem runs_induction {motive : List Char → Prop} (nil : motive [])
    (run : ∀ blank run rest, IsRun blank run rest → motive rest → motive (run ++ rest))
    (chars : List Char) : motive chars := by
  induction hn : chars.length using Nat.strong_induction_on generalizing chars with
  | _ n ih =>
    subst hn
    cases chars with
    | nil => exact nil
    | cons c rest =>
      let alike (d : Char) : Bool := Text.isBlank d == Text.isBlank c
      have hrun : IsRun (Text.isBlank c) (c :: rest.takeWhile alike) (rest.dropWhile alike) := by
        refine ⟨List.cons_ne_nil _ _, ?_, ?_⟩
        · rw [List.forall_mem_cons]
          refine ⟨rfl, fun d hd => ?_⟩
          have halike : alike d = true := List.mem_takeWhile_imp hd
          exact beq_iff_eq.1 halike
        · intro d hd
          have hother := List.head?_dropWhile_not alike rest
          rw [Option.mem_def.1 hd] at hother
          exact Bool.eq_not.2 (by simpa [alike] using hother)
      have hlength : (rest.dropWhile alike).length < (c :: rest).length := by
        rw [List.length_cons]
        exact Nat.lt_succ_of_le (List.dropWhile_suffix alike).length_le
      have hwhole := run _ _ _ hrun (ih _ hlength _ rfl)
      rwa [List.cons_append, List.takeWhile_append_dropWhile] at hwhole

/-! ## Texts on one line -/

theorem isBlank_of_breaksLine {c : Char} (h : breaksLine c = true) : Text.isBlank c = true := by
  rw [breaksLine, Bool.or_eq_true, beq_iff_eq, beq_iff_eq] at h
  rcases h with rfl | rfl <;> decide

theorem not_breaksLine_of_not_isBlank {c : Char} (h : Text.isBlank c = false) :
    breaksLine c = false := by
  cases hc : breaksLine c with
  | false => rfl
  | true =>
    rw [isBlank_of_breaksLine hc] at h
    cases h

theorem isBlank_of_isSpaceOrTab {c : Char} (h : isSpaceOrTab c = true) :
    Text.isBlank c = true := by
  rw [isSpaceOrTab, Bool.or_eq_true, beq_iff_eq, beq_iff_eq] at h
  rcases h with rfl | rfl <;> decide

theorem foldBreaksFrom_cons (result held : List Char) (inBreak : Bool) (c : Char)
    (rest : List Char) :
    foldBreaksFrom result held inBreak (c :: rest) =
      if inBreak && Text.isBlank c then foldBreaksFrom result [] true rest
      else if breaksLine c then foldBreaksFrom (' ' :: result) [] true rest
      else if isSpaceOrTab c then foldBreaksFrom result (c :: held) false rest
      else foldBreaksFrom (c :: held ++ result) [] false rest := by
  rw [foldBreaksFrom]
  rfl

theorem foldBreaksFrom_result (result held : List Char) (inBreak : Bool) (chars : List Char) :
    foldBreaksFrom result held inBreak chars =
      result.reverse ++ foldBreaksFrom [] held inBreak chars := by
  induction chars generalizing result held inBreak with
  | nil => simp [foldBreaksFrom]
  | cons c rest ih =>
    rw [foldBreaksFrom_cons, foldBreaksFrom_cons]
    split_ifs
    · exact ih _ _ _
    · rw [ih, ih [' ']]
      simp
    · exact ih _ _ _
    · rw [ih, ih (c :: held ++ [])]
      simp

/-- A character that is no blank ends a break, and what is held is shown before it. -/
theorem foldBreaksFrom_letter (held : List Char) (inBreak : Bool) {c : Char}
    (h : Text.isBlank c = false) (rest : List Char) :
    foldBreaksFrom [] held inBreak (c :: rest) =
      held.reverse ++ c :: foldBreaksFrom [] [] false rest := by
  have hspace : isSpaceOrTab c = false := by
    cases hc : isSpaceOrTab c with
    | false => rfl
    | true =>
      rw [isBlank_of_isSpaceOrTab hc] at h
      cases h
  rw [foldBreaksFrom_cons, h, not_breaksLine_of_not_isBlank h, hspace, Bool.and_false,
    if_neg Bool.false_ne_true, if_neg Bool.false_ne_true, if_neg Bool.false_ne_true,
    foldBreaksFrom_result]
  simp

theorem foldBreaksFrom_ends (held : List Char) (inBreak : Bool) {rest : List Char}
    (h : ∀ c ∈ rest.head?, Text.isBlank c = false) :
    foldBreaksFrom [] held inBreak rest = held.reverse ++ foldBreaksFrom [] [] false rest := by
  cases rest with
  | nil => simp [foldBreaksFrom]
  | cons c rest => rw [foldBreaksFrom_letter _ _ (h c rfl), foldBreaksFrom_letter _ _ (h c rfl),
      List.reverse_nil, List.nil_append]

theorem foldBreaksFrom_letters {run : List Char} (h : ∀ c ∈ run, Text.isBlank c = false)
    (rest : List Char) :
    foldBreaksFrom [] [] false (run ++ rest) = run ++ foldBreaksFrom [] [] false rest := by
  induction run with
  | nil => rfl
  | cons c run ih =>
    rw [List.forall_mem_cons] at h
    rw [List.cons_append, foldBreaksFrom_letter _ _ h.1, ih h.2]
    rfl

/-- The blanks behind a break belong to it. -/
theorem foldBreaksFrom_inBreak {run : List Char} (h : ∀ c ∈ run, Text.isBlank c = true)
    (rest : List Char) :
    foldBreaksFrom [] [] true (run ++ rest) = foldBreaksFrom [] [] true rest := by
  induction run with
  | nil => rfl
  | cons c run ih =>
    rw [List.forall_mem_cons] at h
    rw [List.cons_append, foldBreaksFrom_cons, h.1, Bool.and_self, if_pos rfl, ih h.2]

theorem rdropWhile_append_cons {p : Char → Bool} {c : Char} (h : p c = false)
    (before after : List Char) :
    (before ++ c :: after).rdropWhile p = before ++ c :: after.rdropWhile p := by
  rw [List.rdropWhile, List.reverse_append, List.reverse_cons, List.append_assoc,
    List.dropWhile_append]
  split_ifs with hnil
  · rw [List.singleton_append, List.dropWhile_cons_of_neg (by simp [h]), List.rdropWhile,
      List.isEmpty_iff.1 hnil]
    simp
  · simp [List.rdropWhile]

theorem rtakeWhile_append_cons {p : Char → Bool} {c : Char} (h : p c = false)
    (before after : List Char) :
    (before ++ c :: after).rtakeWhile p = after.rtakeWhile p := by
  have hwhole : (before ++ c :: after).rdropWhile p ++ (before ++ c :: after).rtakeWhile p =
      (before ++ c :: after).rdropWhile p ++ after.rtakeWhile p := by
    rw [List.rdropWhile_append_rtakeWhile, rdropWhile_append_cons h, List.append_assoc,
      List.cons_append, List.rdropWhile_append_rtakeWhile]
  exact List.append_cancel_left hwhole

/-- As long as there is no break, only spaces and tabs at the end are held. -/
theorem foldBreaksFrom_held {run : List Char} (h : ∀ c ∈ run, breaksLine c = false)
    (held : List Char) (hheld : ∀ c ∈ held, isSpaceOrTab c = true) (rest : List Char) :
    foldBreaksFrom [] held false (run ++ rest) =
      (held.reverse ++ run).rdropWhile isSpaceOrTab ++
        foldBreaksFrom [] ((held.reverse ++ run).rtakeWhile isSpaceOrTab).reverse false rest := by
  induction run generalizing held with
  | nil =>
    have hdrop : held.reverse.rdropWhile isSpaceOrTab = [] := by
      rw [List.rdropWhile_eq_nil_iff]
      simpa using hheld
    have htake : held.reverse.rtakeWhile isSpaceOrTab = held.reverse := by
      rw [List.rtakeWhile_eq_self_iff]
      simpa using hheld
    rw [List.append_nil, hdrop, htake, List.reverse_reverse]
    rfl
  | cons d run ih =>
    rw [List.forall_mem_cons] at h
    rw [List.cons_append, foldBreaksFrom_cons, Bool.false_and, if_neg Bool.false_ne_true, h.1,
      if_neg Bool.false_ne_true]
    split_ifs with hd
    · rw [ih h.2 _ (List.forall_mem_cons.2 ⟨hd, hheld⟩), List.reverse_cons, List.append_assoc]
      rfl
    · have hshown : isSpaceOrTab d = false := by simpa using hd
      rw [foldBreaksFrom_result, ih h.2 _ (List.forall_mem_nil _), rdropWhile_append_cons hshown,
        rtakeWhile_append_cons hshown]
      simp

/-- A break drops what is held. -/
theorem foldBreaksFrom_break (held : List Char) {c : Char} (hc : breaksLine c = true)
    (rest : List Char) :
    foldBreaksFrom [] held false (c :: rest) = ' ' :: foldBreaksFrom [] [] true rest := by
  rw [foldBreaksFrom_cons, Bool.false_and, if_neg Bool.false_ne_true, if_pos hc,
    foldBreaksFrom_result]
  rfl

theorem foldRun_of_unbroken {run : List Char} (h : ∀ c ∈ run, breaksLine c = false) :
    foldRun run = run := by
  rw [foldRun, if_neg]
  simpa using h

theorem foldRun_of_break {before : List Char} (h : ∀ d ∈ before, breaksLine d = false) {c : Char}
    (hc : breaksLine c = true) (after : List Char) :
    foldRun (before ++ c :: after) = before.rdropWhile isSpaceOrTab ++ [' '] := by
  have htake : (before ++ c :: after).takeWhile (!breaksLine ·) = before := by
    rw [List.takeWhile_append_of_pos (by simpa using h), List.takeWhile_cons_of_neg (by simp [hc]),
      List.append_nil]
  rw [foldRun, if_pos (by simp [hc]), htake]

theorem IsRun.foldBreaksFrom_append {blank : Bool} {run rest : List Char}
    (h : IsRun blank run rest) :
    foldBreaksFrom [] [] false (run ++ rest) = foldRun run ++ foldBreaksFrom [] [] false rest := by
  cases hfirst : run.find? breaksLine with
  | some c =>
    obtain ⟨hc, before, after, rfl, hbefore⟩ := List.find?_eq_some_iff_append.1 hfirst
    have hunbroken : ∀ d ∈ before, breaksLine d = false := by simpa using hbefore
    obtain rfl : blank = true := by
      rw [← h.alike c (by simp), isBlank_of_breaksLine hc]
    have hafter : ∀ d ∈ after, Text.isBlank d = true := fun d hd => h.alike d (by simp [hd])
    rw [List.append_assoc, List.cons_append,
      foldBreaksFrom_held hunbroken [] (List.forall_mem_nil _), foldBreaksFrom_break _ hc,
      foldBreaksFrom_inBreak hafter, foldBreaksFrom_ends [] true h.ends,
      foldRun_of_break hunbroken hc]
    simp
  | none =>
    have hunbroken : ∀ c ∈ run, breaksLine c = false := by simpa using hfirst
    rw [foldRun_of_unbroken hunbroken]
    cases blank with
    | false => exact foldBreaksFrom_letters h.alike rest
    | true =>
      rw [foldBreaksFrom_held hunbroken [] (List.forall_mem_nil _), foldBreaksFrom_ends _ _ h.ends,
        List.reverse_reverse, ← List.append_assoc, List.rdropWhile_append_rtakeWhile]
      rfl

theorem foldBreaksFrom_eq_flatMap (chars : List Char) :
    foldBreaksFrom [] [] false chars = (runs chars).flatMap foldRun := by
  induction chars using runs_induction with
  | nil => rfl
  | run blank run rest h ih => rw [h.foldBreaksFrom_append, h.runs_append, List.flatMap_cons, ih]

/-! ## What is kept -/

theorem IsRun.isBlank_of_mem_foldRun {blank : Bool} {run rest : List Char}
    (h : IsRun blank run rest) : ∀ c ∈ foldRun run, Text.isBlank c = blank := by
  intro c hc
  rw [foldRun] at hc
  split_ifs at hc with hany
  · obtain ⟨d, hd, hbreak⟩ := List.any_eq_true.1 hany
    rcases List.mem_append.1 hc with hc | hc
    · apply h.alike c
      exact (List.takeWhile_prefix _).mem ((List.rdropWhile_prefix _ _).mem hc)
    · rw [List.mem_singleton.1 hc, ← h.alike d hd, isBlank_of_breaksLine hbreak]
      rfl
  · exact h.alike c hc

theorem foldRun_ne_nil {run : List Char} (h : run ≠ []) : foldRun run ≠ [] := by
  rw [foldRun]
  split_ifs
  · simp
  · exact h

theorem isBlank_head_foldBreaksFrom {blank : Bool} {chars : List Char}
    (h : ∀ c ∈ chars.head?, Text.isBlank c = blank) :
    ∀ c ∈ (foldBreaksFrom [] [] false chars).head?, Text.isBlank c = blank := by
  induction chars using runs_induction with
  | nil => exact h
  | run b run rest hrun _ =>
    intro c hc
    rw [hrun.foldBreaksFrom_append,
      List.head?_append_of_ne_nil _ (foldRun_ne_nil hrun.ne_nil)] at hc
    obtain ⟨d, others, rfl⟩ := List.exists_cons_of_ne_nil hrun.ne_nil
    rw [hrun.isBlank_of_mem_foldRun c (List.mem_of_mem_head? hc), ← h d rfl,
      hrun.alike d List.mem_cons_self]

theorem IsRun.folded {blank : Bool} {run rest : List Char} (h : IsRun blank run rest) :
    IsRun blank (foldRun run) (foldBreaksFrom [] [] false rest) :=
  ⟨foldRun_ne_nil h.ne_nil, h.isBlank_of_mem_foldRun, isBlank_head_foldBreaksFrom h.ends⟩

theorem runs_foldBreaksFrom (chars : List Char) :
    runs (foldBreaksFrom [] [] false chars) = (runs chars).map foldRun := by
  induction chars using runs_induction with
  | nil => rfl
  | run blank run rest h ih =>
    rw [h.foldBreaksFrom_append, h.folded.runs_append, h.runs_append, List.map_cons, ih]

theorem IsRun.filter_foldRun {blank : Bool} {run rest : List Char} (h : IsRun blank run rest) :
    (foldRun run).filter (!Text.isBlank ·) = run.filter (!Text.isBlank ·) := by
  cases blank with
  | false =>
    rw [foldRun_of_unbroken fun c hc => not_breaksLine_of_not_isBlank (h.alike c hc)]
  | true =>
    rw [List.filter_eq_nil_iff.2 fun c hc => by simp [h.isBlank_of_mem_foldRun c hc],
      List.filter_eq_nil_iff.2 fun c hc => by simp [h.alike c hc]]

theorem filter_foldBreaksFrom (chars : List Char) :
    (foldBreaksFrom [] [] false chars).filter (!Text.isBlank ·) =
      chars.filter (!Text.isBlank ·) := by
  induction chars using runs_induction with
  | nil => rfl
  | run blank run rest h ih =>
    rw [h.foldBreaksFrom_append, List.filter_append, List.filter_append, h.filter_foldRun, ih]

theorem toList_foldBreaks (text : String) :
    (foldBreaks text).toList = foldBreaksFrom [] [] false text.toList :=
  String.toList_ofList

theorem not_breaksLine_of_mem_foldBreaks {text : String} {c : Char}
    (h : c ∈ (foldBreaks text).toList) : breaksLine c = false := by
  rw [toList_foldBreaks] at h
  exact not_breaksLine_of_mem_foldBreaksFrom (List.forall_mem_nil _) c h

/-- A text without line breaks is a sequence of runs that are all kept. -/
theorem foldBreaks_eq_self {text : String} (h : ∀ c ∈ text.toList, breaksLine c = false) :
    foldBreaks text = text := by
  have hruns : ∀ run ∈ runs text.toList, foldRun run = run := by
    intro run hrun
    apply foldRun_of_unbroken
    intro c hc
    apply h c
    rw [← List.flatten_splitBy _ text.toList]
    exact List.mem_flatten_of_mem hrun hc
  apply String.toList_injective
  rw [toList_foldBreaks, foldBreaksFrom_eq_flatMap, List.flatMap_congr hruns, List.flatMap_id',
    runs, List.flatten_splitBy]

theorem foldBreaks_foldBreaks (text : String) : foldBreaks (foldBreaks text) = foldBreaks text :=
  foldBreaks_eq_self fun _ => not_breaksLine_of_mem_foldBreaks

/-! ## Groups of nodes -/

def parameterNodes (n : Node) : List Node :=
  ((n.childFor? "parameters" "parameter_list").map Node.children).getD []

def isParameterPart (n : Node) : Bool :=
  !(n.kind == "(" || n.kind == ")" || n.kind == "comment")

/-- What is left between the commas of a parameter list without brackets and comments, where
anything is left. -/
def parameterParts (n : Node) : List (List Node) :=
  (((parameterNodes n).splitOnP (·.kind == ",")).map (·.filter isParameterPart)).filter
    (!·.isEmpty)

theorem parameterGroups_eq (nodes : List Node) :
    parameterGroups nodes = (nodes.splitOnP (·.kind == ",")).map (·.filter isParameterPart) := by
  induction nodes with
  | nil => rfl
  | cons n rest ih =>
    obtain ⟨group, groups, hgroups⟩ :=
      List.exists_cons_of_ne_nil (List.splitOnP_ne_nil (·.kind == ",") rest)
    have hpart : isParameterPart n = !(n.kind == "(" || n.kind == ")" || n.isComment) := rfl
    rw [hgroups] at ih
    rw [List.splitOnP_cons_eq_if_modifyHead, hgroups, parameterGroups, ih]
    split_ifs with hcomma hskip
    · rfl
    · have hfilter : (n :: group).filter isParameterPart = group.filter isParameterPart :=
        List.filter_cons_of_neg (by simp only [hpart, hskip]; exact Bool.false_ne_true)
      simp only [List.modifyHead_cons, List.map_cons, hfilter]
    · have hfilter : (n :: group).filter isParameterPart = n :: group.filter isParameterPart :=
        List.filter_cons_of_pos (by simpa [hpart] using hskip)
      simp only [List.modifyHead_cons, List.map_cons, hfilter]

/-! ## Parameters -/

/-- A text is what was cut out, put on one line: run by run, so that other characters and runs
without a line break stay as they are. -/
structure IsFolded (cut text : List Char) : Prop where
  folded : text = (runs cut).flatMap foldRun
  runs_eq : runs text = (runs cut).map foldRun
  letters_eq : text.filter (!Text.isBlank ·) = cut.filter (!Text.isBlank ·)

/-- A parameter goes from the first of its nodes to the last. -/
def IsParameter (source : Source) (parts : List Node) (text : String) : Prop :=
  ∃ first last, parts.head? = some first ∧ parts.getLast? = some last ∧
    IsFolded (Text.Utf8.slice source first.start last.stop).toList text.toList

theorem isFolded_foldBreaks (text : String) : IsFolded text.toList (foldBreaks text).toList := by
  rw [toList_foldBreaks]
  exact ⟨foldBreaksFrom_eq_flatMap _, runs_foldBreaksFrom _, filter_foldBreaksFrom _⟩

theorem forall₂_isParameter (source : Source) (groups : List (List Node)) :
    List.Forall₂ (IsParameter source) (groups.filter (!·.isEmpty))
      (groups.filterMap (groupText? source)) := by
  induction groups with
  | nil => exact .nil
  | cons group groups ih =>
    cases group with
    | nil => exact ih
    | cons first rest =>
      refine .cons ⟨first, rest.getLastD first, rfl, ?_, isFolded_foldBreaks _⟩ ih
      rw [List.getLast?_cons, List.getLastD_eq_getLast?]

theorem parameters_eq (source : Source) (n : Node) :
    parameters source n =
      (parameterGroups (parameterNodes n)).filterMap (groupText? source) := by
  unfold parameters parameterNodes
  cases n.childFor? "parameters" "parameter_list" with
  | none => rfl
  | some list => rfl

theorem exists_foldBreaks_of_mem_parameters {source : Source} {n : Node} {text : String}
    (h : text ∈ parameters source n) : ∃ cut, text = foldBreaks cut := by
  rw [parameters_eq] at h
  obtain ⟨group, -, hgroup⟩ := List.mem_filterMap.1 h
  cases group with
  | nil => cases hgroup
  | cons first rest => exact ⟨_, (Option.some.inj hgroup).symm⟩

/-- The parameters are the groups between the commas of the parameter list, each cut out from its
first node to its last and put on one line. They hold no line break, and putting them on one line
again changes nothing, as with any text. -/
theorem parameters_cut_and_folded (source : Source) (n : Node) :
    List.Forall₂ (IsParameter source) (parameterParts n) (parameters source n) ∧
    (∀ text ∈ parameters source n,
      (∀ c ∈ text.toList, c ≠ '\n' ∧ c ≠ '\r') ∧ foldBreaks text = text) ∧
    ∀ text, foldBreaks (foldBreaks text) = foldBreaks text := by
  refine ⟨?_, fun text htext => ?_, foldBreaks_foldBreaks⟩
  · rw [parameters_eq, parameterGroups_eq]
    exact forall₂_isParameter source _
  · obtain ⟨cut, rfl⟩ := exists_foldBreaks_of_mem_parameters htext
    refine ⟨fun c hc => ?_, foldBreaks_foldBreaks cut⟩
    simpa [breaksLine] using not_breaksLine_of_mem_foldBreaks hc

/-- Only spaces and tabs are dropped in front of a break, but all blanks behind it. -/
example : foldBreaks "a \x0c \t\r\n\u2003b\x0c c" = "a \x0c b\x0c c" := by decide +kernel

end Outline.SyntaxTree
