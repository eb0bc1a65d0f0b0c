import Mathlib.Tactic.SplitIfs
import Outline.Proofs.SyntaxTree.Walk

set_option autoImplicit false

/-!
# A comment documents only its own declaration

A summary depends on the source through the texts of some comments: those right before the
declaration among its siblings, and those it begins with. If no two comments overlap, a change of
the source within one comment therefore shows only in the summary of the first node behind it that
is no comment, and in that of the node around it if nothing but comments and attributes stands
before it there.
-/
namespace Outline

/-- The summaries of the types of an outline, each followed by those of its members. -/
def SourceOutline.summaries (o : SourceOutline) : List (Option String) :=
  o.types.flatMap fun t => t.summary :: t.members.map Member.summary

/-! ## The places of declarations -/

namespace Node

/-- The number of the first child with a role, or else of the first of a kind. -/
def numberFor? (n : Node) (role kind : String) : Option ℕ :=
  (n.children.findIdx? (·.role == some role)).or (n.children.findIdx? (·.kind == kind))

theorem childFor?_eq (n : Node) (role kind : String) :
    n.childFor? role kind = (n.numberFor? role kind).bind (n.children[·]?) := by
  rw [childFor?, childInRole?, numberFor?, List.find?_eq_bind_findIdx?_getElem?,
    List.find?_eq_bind_findIdx?_getElem?]
  cases h : n.children.findIdx? (·.role == some role) with
  | none => rfl
  | some number =>
    obtain ⟨hlt, -⟩ := List.findIdx?_eq_some_iff_getElem.1 h
    simp [List.getElem?_eq_getElem hlt]

end Node

namespace SyntaxTree

/-- The places, seen from a type, of the nodes that declare its members. -/
def memberPlaces (n : Node) : List (List ℕ) :=
  match n.numberFor? "body" "declaration_list", n.childFor? "body" "declaration_list" with
  | some number, some body =>
    ((List.range body.children.length).filter fun i =>
      (body.children[i]?).any declaresMember).map fun i => [number, i]
  | _, _ => []

def ownPlaces (tree : Node) (place : List ℕ) : List (List ℕ) :=
  place :: (((Placed.root tree).at? place).elim [] fun p => memberPlaces p.node).map (place ++ ·)

/-- The places of the types of a tree, each followed by those of its members. -/
def declarationPlaces (tree : Node) : List (List ℕ) := (typePlaces tree).flatMap (ownPlaces tree)

theorem map_at?_memberPlaces (p : Placed) :
    (memberPlaces p.node).map p.at? = (memberNodes p.node).map some := by
  unfold memberPlaces memberNodes
  rw [Node.childFor?_eq]
  cases hnumber : p.node.numberFor? "body" "declaration_list" with
  | none => rfl
  | some number =>
    cases hbody : p.node.children[number]? with
    | none => simp [hbody]
    | some body =>
      have hat : ∀ i : ℕ, p.at? [number, i] = (Placed.root body).children[i]? := by
        intro i
        rw [Placed.at?, Placed.getElem?_children, hbody, Option.map_some, Option.bind_some,
          Placed.at?_singleton]
        rfl
      have htest : ∀ i : ℕ, (body.children[i]?).any declaresMember =
          ((Placed.root body).children[i]?).any fun c : Placed => declaresMember c.node := by
        intro i
        rw [Placed.getElem?_children, Option.any_map]
        rfl
      have hfilter := congrArg (List.filter fun found : Option Placed =>
        found.any (declaresMember ·.node)) (Placed.map_range_children (.root body))
      rw [List.filter_map, List.filter_map] at hfilter
      simp only [Option.bind_some, hbody, List.map_map, htest, Function.comp_def, hat]
      exact hfilter

def summaryAt (source : Source) (tree : Node) (place : List ℕ) : Option String :=
  ((Placed.root tree).at? place).bind (summary? source)

theorem map_memberPlaces_summary (source : Source) (p : Placed) :
    (memberPlaces p.node).map (fun place => (p.at? place).bind (summary? source)) =
      (members source p.node).map Member.summary := by
  have hdeclared : ∀ {nodes : List Placed} {ms : List Member},
      List.Forall₂ (Declares source) nodes ms →
        nodes.map (summary? source) = ms.map Member.summary := by
    intro nodes ms h
    induction h with
    | nil => rfl
    | cons hm _ ih => rw [List.map_cons, List.map_cons, ih, hm.summary]
  have hplaces := congrArg (List.map fun found : Option Placed => found.bind (summary? source))
    (map_at?_memberPlaces p)
  rw [List.map_map, List.map_map] at hplaces
  exact hplaces.trans (hdeclared (forall₂_memberNodes source p.node))

theorem map_summaryAt_ownPlaces {source : Source} {tree : Node} {place : List ℕ} {p : Placed}
    (hp : (Placed.root tree).at? place = some p) :
    (ownPlaces tree place).map (summaryAt source tree) =
      summary? source p :: (members source p.node).map Member.summary := by
  rw [ownPlaces, hp, List.map_cons, List.map_map, ← map_memberPlaces_summary, summaryAt, hp]
  refine congrArg _ (List.map_congr_left fun rest _ => ?_)
  rw [Function.comp_apply, summaryAt, Placed.at?_append, hp]
  rfl

theorem summaries_eq (source : String) (tree : Node) :
    (SourceOutline.ofTree source tree).summaries =
      (declarationPlaces tree).map (summaryAt (Text.Utf8.encode source.toList) tree) := by
  let listed (p : Placed) : List (Option String) :=
    summary? (Text.Utf8.encode source.toList) p ::
      (members (Text.Utf8.encode source.toList) p.node).map Member.summary
  have hplaces := congrArg (List.flatMap fun found : Option Placed => found.elim [] listed)
    (map_at?_typePlaces tree)
  rw [List.flatMap_map, List.flatMap_map] at hplaces
  rw [declarationPlaces, List.map_flatMap, SourceOutline.summaries, SourceOutline.ofTree,
    List.flatMap_map]
  refine hplaces.symm.trans (List.flatMap_congr fun place hplace => ?_)
  obtain ⟨p, hp, -⟩ := mem_typePlaces_iff.1 hplace
  rw [hp, map_summaryAt_ownPlaces hp]
  rfl

/-! ## Where comments are found -/

theorem exists_getElem?_of_mem_takeWhile {test : Node → Bool} {nodes : List Node} {n : Node}
    (h : n ∈ nodes.takeWhile test) : ∃ i : ℕ, nodes[i]? = some n ∧ test n = true ∧
      ∀ k < i, ∀ m, nodes[k]? = some m → test m = true := by
  induction nodes with
  | nil => simp at h
  | cons first rest ih =>
    rw [List.takeWhile_cons] at h
    split at h
    · rename_i hfirst
      rcases List.mem_cons.1 h with rfl | h
      · exact ⟨0, rfl, hfirst, fun k hk => absurd hk (Nat.not_lt_zero k)⟩
      · obtain ⟨i, hi, htest, hbefore⟩ := ih h
        refine ⟨i + 1, hi, htest, fun k hk m hm => ?_⟩
        cases k with
        | zero =>
          obtain rfl : first = m := by simpa using hm
          exact hfirst
        | succ k => exact hbefore k (by omega) m hm
    · simp at h

theorem exists_getElem?_of_mem_takeWhile_reverse {test : Node → Bool} {nodes : List Node} {n : Node}
    (h : n ∈ nodes.reverse.takeWhile test) : ∃ i : ℕ, nodes[i]? = some n ∧ test n = true ∧
      ∀ k, i < k → ∀ m, nodes[k]? = some m → test m = true := by
  obtain ⟨i, hi, htest, hbefore⟩ := exists_getElem?_of_mem_takeWhile h
  have hlt : i < nodes.length := by
    have := (List.getElem?_eq_some_iff.1 hi).1
    simpa using this
  rw [List.getElem?_reverse hlt] at hi
  refine ⟨nodes.length - 1 - i, hi, htest, fun k hk m hm => ?_⟩
  have hklt : k < nodes.length := (List.getElem?_eq_some_iff.1 hm).1
  refine hbefore (nodes.length - 1 - k) (by omega) m ?_
  rw [List.getElem?_reverse (by omega), ← hm]
  congr 1
  omega

/-- A comment at a place belongs to the declaration at another place. Either the declaration is the
first of the siblings behind the comment that is no comment itself, or the comment is one of its
children, with only comments and attribute lists in front. -/
inductive Documents (tree : Node) (place : List ℕ) : List ℕ → Prop
  | before {parent : List ℕ} {i j : ℕ} (own : place = parent ++ [i]) (behind : i < j)
      (between : ∀ k, i < k → k < j → ∀ p, (Placed.root tree).at? (parent ++ [k]) = some p →
        p.node.isComment = true)
      (declared : ∀ p, (Placed.root tree).at? (parent ++ [j]) = some p → p.node.isComment = false) :
      Documents tree place (parent ++ [j])
  | inside {declaration : List ℕ} {i : ℕ} (own : place = declaration ++ [i])
      (ahead : ∀ k < i, ∀ p, (Placed.root tree).at? (declaration ++ [k]) = some p →
        p.node.isComment = true ∨ p.node.kind = "attribute_list") :
      Documents tree place declaration

theorem at?_concat {tree : Node} {place : List ℕ} {p : Placed} (i : ℕ)
    (hp : (Placed.root tree).at? place = some p) : (Placed.root tree).at? (place ++ [i]) =
      p.node.children[i]?.map fun n => ⟨n, (p.node.children.take i).reverse⟩ := by
  rw [Placed.at?_append, hp, Option.bind_some, Placed.at?_singleton, Placed.getElem?_children]

theorem getElem?_of_at?_concat {tree : Node} {place : List ℕ} {p c : Placed} {i : ℕ}
    (hp : (Placed.root tree).at? place = some p)
    (hc : (Placed.root tree).at? (place ++ [i]) = some c) :
    p.node.children[i]? = some c.node := by
  rw [at?_concat i hp, Option.map_eq_some_iff] at hc
  obtain ⟨n, hn, rfl⟩ := hc
  exact hn

theorem documents_of_mem_before {tree : Node} {q : List ℕ} {p : Placed}
    (hq : (Placed.root tree).at? q = some p) (hp : p.node.isComment = false) {c : Node}
    (hc : c ∈ p.before.takeWhile Node.isComment) : ∃ place before, Documents tree place q ∧
      (Placed.root tree).at? place = some ⟨c, before⟩ ∧ c.isComment = true := by
  rcases List.eq_nil_or_concat q with rfl | ⟨parent, j, rfl⟩
  · -- the root has no siblings
    obtain rfl : Placed.root tree = p := Option.some.inj hq
    cases hc
  · rw [List.concat_eq_append] at hq ⊢
    obtain ⟨around, haround, -⟩ : ∃ around, (Placed.root tree).at? parent = some around ∧
        around.at? [j] = some p := by
      rwa [Placed.at?_append, Option.bind_eq_some_iff] at hq
    have hplaced := hq
    rw [at?_concat j haround, Option.map_eq_some_iff] at hplaced
    obtain ⟨n, -, rfl⟩ := hplaced
    obtain ⟨i, hi, hcomment, hbehind⟩ := exists_getElem?_of_mem_takeWhile_reverse hc
    rw [List.getElem?_take] at hi
    split_ifs at hi with hij
    have hfound : (Placed.root tree).at? (parent ++ [i]) =
        some ⟨c, (around.node.children.take i).reverse⟩ := by
      rw [at?_concat i haround, hi, Option.map_some]
    refine ⟨parent ++ [i], _, .before rfl hij ?_ ?_, hfound, hcomment⟩
    · intro k hik hkj r hr
      refine hbehind k hik r.node ?_
      rw [List.getElem?_take, if_pos hkj]
      exact getElem?_of_at?_concat haround hr
    · intro r hr
      obtain rfl := Option.some.inj (hq.symm.trans hr)
      exact hp

theorem documents_of_mem_innerComments {tree : Node} {q : List ℕ} {p : Placed}
    (hq : (Placed.root tree).at? q = some p) {c : Node} (hc : c ∈ innerComments p.node) :
    ∃ place before, Documents tree place q ∧ (Placed.root tree).at? place = some ⟨c, before⟩ ∧
      c.isComment = true := by
  obtain ⟨hmem, hcomment⟩ := List.mem_filter.1 hc
  obtain ⟨i, hi, -, hahead⟩ := exists_getElem?_of_mem_takeWhile hmem
  have hfound : (Placed.root tree).at? (q ++ [i]) =
      some ⟨c, (p.node.children.take i).reverse⟩ := by
    rw [at?_concat i hq, hi, Option.map_some]
  refine ⟨q ++ [i], _, .inside rfl fun k hk r hr => ?_, hfound, hcomment⟩
  simpa using hahead k hk r.node (getElem?_of_at?_concat hq hr)

/-! ## Two sources -/

/-- Nodes with a byte in common. -/
def Overlap (a b : Node) : Prop := max a.start b.start < min a.stop b.stop

instance (a b : Node) : Decidable (Overlap a b) :=
  inferInstanceAs (Decidable (max a.start b.start < min a.stop b.stop))

/-- Sources that differ only within a node. -/
def DifferWithin (c : Node) (source source' : Source) : Prop :=
  ∀ i, i < c.start ∨ c.stop ≤ i → source'[i]? = source[i]?

theorem nodeText_eq_of_not_overlap {source source' : Source} {c n : Node}
    (h : DifferWithin c source source') (hn : ¬ Overlap n c) :
    nodeText source' (some n) = nodeText source (some n) := by
  have hbytes : (source'.drop n.start).take (n.stop - n.start) =
      (source.drop n.start).take (n.stop - n.start) := by
    refine List.ext_getElem? fun i => ?_
    rw [List.getElem?_take, List.getElem?_take, List.getElem?_drop, List.getElem?_drop]
    split_ifs with hi
    · refine h _ ?_
      unfold Overlap at hn
      omega
    · rfl
  rw [nodeText, nodeText, Text.Utf8.slice, Text.Utf8.slice, hbytes]

/-- A comment at a place, with no byte in common with any other comment of the tree. -/
structure StandsAlone (tree : Node) (place : List ℕ) (c : Node) : Prop where
  found : ∃ p, (Placed.root tree).at? place = some p ∧ p.node = c
  comment : c.isComment = true
  apart : ∀ other p, (Placed.root tree).at? other = some p → p.node.isComment = true →
    other ≠ place → ¬ Overlap p.node c

theorem summary?_eq_of_not_documents {source source' : Source} {tree : Node} {place q : List ℕ}
    {c : Node} {p : Placed} (hc : StandsAlone tree place c) (h : DifferWithin c source source')
    (hq : (Placed.root tree).at? q = some p) (hp : p.node.isComment = false)
    (hown : ¬ Documents tree place q) : summary? source' p = summary? source p := by
  have htext : ∀ n ∈ commentNodes p, nodeText source' (some n) = nodeText source (some n) := by
    intro n hn
    obtain ⟨other, before, hother, hn, hcomment⟩ : ∃ other before, Documents tree other q ∧
        (Placed.root tree).at? other = some ⟨n, before⟩ ∧ n.isComment = true := by
      rcases List.mem_append.1 hn with hn | hn
      · exact documents_of_mem_before hq hp (List.mem_reverse.1 hn)
      · exact documents_of_mem_innerComments hq hn
    refine nodeText_eq_of_not_overlap h (hc.apart other _ hn hcomment ?_)
    rintro rfl
    exact hown hother
  rw [summary?, summary?, leadingComments_eq, leadingComments_eq, List.map_congr_left htext]

theorem isComment_of_isType {n : Node} (h : isType n = true) : n.isComment = false := by
  rw [Bool.eq_false_iff]
  intro hcomment
  rw [isType, eq_of_beq hcomment] at h
  exact absurd h (by decide)

theorem isComment_of_declaresMember {n : Node} (h : declaresMember n = true) :
    n.isComment = false := by
  rw [Bool.eq_false_iff]
  intro hcomment
  have hkind : n.kind = "comment" := eq_of_beq hcomment
  simp [declaresMember, hkind] at h

theorem declaresMember_of_mem_memberNodes {n : Node} {p : Placed} (h : p ∈ memberNodes n) :
    declaresMember p.node = true := by
  unfold memberNodes at h
  split at h
  · simpa using List.of_mem_filter h
  · cases h

theorem exists_at?_of_mem_declarationPlaces {tree : Node} {q : List ℕ}
    (h : q ∈ declarationPlaces tree) :
    ∃ p, (Placed.root tree).at? q = some p ∧ p.node.isComment = false := by
  obtain ⟨place, hplace, hq⟩ := List.mem_flatMap.1 h
  obtain ⟨p, hp, htype⟩ := mem_typePlaces_iff.1 hplace
  rw [ownPlaces, hp, List.mem_cons] at hq
  rcases hq with rfl | hq
  · exact ⟨p, hp, isComment_of_isType htype⟩
  · obtain ⟨rest, hrest, rfl⟩ := List.mem_map.1 hq
    have hmem : p.at? rest ∈ (memberNodes p.node).map some :=
      map_at?_memberPlaces p ▸ List.mem_map_of_mem hrest
    obtain ⟨m, hm, hat⟩ := List.mem_map.1 hmem
    refine ⟨m, ?_, isComment_of_declaresMember (declaresMember_of_mem_memberNodes hm)⟩
    rw [Placed.at?_append, hp, Option.bind_some, hat]

/-- A comment documents only its own declaration: sources that differ only within a comment that
stands alone give outlines with the same declarations, and the same summary for each of them to
which the comment does not belong. -/
theorem comment_documents_own_declaration {source source' : String} {tree : Node}
    {place : List ℕ} {c : Node} (hc : StandsAlone tree place c)
    (h : DifferWithin c (Text.Utf8.encode source.toList) (Text.Utf8.encode source'.toList)) :
    (SourceOutline.ofTree source tree).summaries.length = (declarationPlaces tree).length ∧
    (SourceOutline.ofTree source' tree).summaries.length = (declarationPlaces tree).length ∧
    ∀ (k : ℕ) (q : List ℕ), (declarationPlaces tree)[k]? = some q → ¬ Documents tree place q →
      (SourceOutline.ofTree source' tree).summaries[k]? =
        (SourceOutline.ofTree source tree).summaries[k]? := by
  simp only [summaries_eq, List.length_map, List.getElem?_map, true_and]
  intro k q hk hown
  obtain ⟨p, hp, hcomment⟩ := exists_at?_of_mem_declarationPlaces (List.mem_of_getElem? hk)
  rw [hk, Option.map_some, Option.map_some, summaryAt, summaryAt, hp, Option.bind_some,
    Option.bind_some, summary?_eq_of_not_documents hc h hp hcomment hown]

/-- Two classes on lines of their own, each with a comment on the line before it. -/
def twoClasses : Node :=
  .mk "compilation_unit" none 0 67 false
    [.mk "comment" none 0 23 false [], .mk "class_declaration" none 24 33 false [],
      .mk "comment" none 34 57 false [], .mk "class_declaration" none 58 67 false []]

def twoSummaries (first : String) : String :=
  "///<summary>" ++ first ++ "</summary>\nclass A\x7b\x7d\n///<summary>q</summary>\nclass B\x7b\x7d"

theorem comment_documents_own_declaration_first :
    StandsAlone twoClasses [0] (.mk "comment" none 0 23 false []) ∧
    DifferWithin (.mk "comment" none 0 23 false [])
      (Text.Utf8.encode (twoSummaries "p").toList) (Text.Utf8.encode (twoSummaries "r").toList) ∧
    (declarationPlaces twoClasses)[1]? = some [3] ∧ ¬ Documents twoClasses [0] [3] ∧
    (SourceOutline.ofTree (twoSummaries "r") twoClasses).summaries[1]? =
      (SourceOutline.ofTree (twoSummaries "p") twoClasses).summaries[1]? := by
  have halone : StandsAlone twoClasses [0] (.mk "comment" none 0 23 false []) := by
    refine ⟨⟨_, rfl, rfl⟩, rfl, fun other p hp hcomment hne => ?_⟩
    have hall : ∀ other ∈ twoClasses.places, other ≠ [0] →
        ∀ p ∈ (Placed.root twoClasses).at? other, p.node.isComment = true →
          ¬ Overlap p.node (.mk "comment" none 0 23 false []) := by decide +kernel
    exact hall other (Placed.mem_places_iff.2 ⟨p, hp⟩) hne p hp hcomment
  have hdiffer : DifferWithin (.mk "comment" none 0 23 false [])
      (Text.Utf8.encode (twoSummaries "p").toList)
      (Text.Utf8.encode (twoSummaries "r").toList) := by
    have hlength : (Text.Utf8.encode (twoSummaries "p").toList).length = 67 ∧
        (Text.Utf8.encode (twoSummaries "r").toList).length = 67 := by decide +kernel
    have hbytes : ∀ i < 67, 23 ≤ i → (Text.Utf8.encode (twoSummaries "r").toList)[i]? =
        (Text.Utf8.encode (twoSummaries "p").toList)[i]? := by decide +kernel
    intro i hi
    rcases Nat.lt_or_ge i 67 with hlt | hge
    · exact hbytes i hlt (hi.resolve_left (Nat.not_lt_zero i))
    · rw [List.getElem?_eq_none (by omega), List.getElem?_eq_none (by omega)]
  have hplace : (declarationPlaces twoClasses)[1]? = some [3] := by decide +kernel
  have hother : ¬ Documents twoClasses [0] [3] := by
    intro h
    generalize hq : [3] = q at h
    cases h with
    | @before parent i j own behind between =>
      obtain ⟨rfl, hi⟩ := List.append_inj' (show [] ++ [0] = parent ++ [i] from own) rfl
      obtain rfl : 0 = i := by simpa using hi
      obtain rfl : 3 = j := by simpa using hq
      exact absurd (between 1 (by decide) (by decide) _ rfl) (by decide)
    | inside own =>
      subst hq
      simp at own
  exact ⟨halone, hdiffer, hplace, hother,
    (comment_documents_own_declaration halone hdiffer).2.2 1 [3] hplace hother⟩

end SyntaxTree

end Outline
