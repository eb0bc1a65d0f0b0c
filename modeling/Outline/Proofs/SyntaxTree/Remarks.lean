import Mathlib.Logic.Relation
import Mathlib.Tactic.SplitIfs
import Outline.Proofs.SyntaxTree.Places

set_option autoImplicit false

/-!
# Ordinary comments are invisible

A comment that documents nothing may stand anywhere in a syntax tree without a trace in the outline.
To see this, such comments are sifted out of the tree. Whatever is read from the children of a node
is the same before and after, since it is found by kinds and roles that these comments do not have,
or from comments by the documentation in them. Two trees that differ only in such comments are the
same when sifted.
-/
namespace Outline

namespace Doc

/-- A documentation comment: one that begins with exactly three slashes, or a block that opens with
two stars, unless it is closed at once. -/
def IsDocumentation (text : String) : Prop :=
  (text.toList.takeWhile (· == '/')).length = 3 ∨
    "/**".toList <+: text.toList ∧ text ≠ "/**/"

instance (text : String) : Decidable (IsDocumentation text) :=
  inferInstanceAs (Decidable ((text.toList.takeWhile (· == '/')).length = 3 ∨
    "/**".toList <+: text.toList ∧ text ≠ "/**/"))

theorem docLines_eq_nil {text : String} (h : ¬ IsDocumentation text) :
    docLines text.toList = [] := by
  obtain ⟨hslashes, hblock⟩ := not_or.1 h
  unfold docLines
  rw [if_neg, if_neg]
  · intro hdoc
    rw [Bool.and_eq_true, startsWith, List.isPrefixOf_iff_prefix, bne_iff_ne] at hdoc
    exact hblock ⟨hdoc.1, fun heq => hdoc.2 (congrArg String.toList heq)⟩
  · intro hdoc
    rw [Bool.and_eq_true, Bool.not_eq_true', startsWith, List.isPrefixOf_iff_prefix] at hdoc
    obtain ⟨⟨rest, hrest⟩, hfour⟩ := hdoc
    rw [← hrest] at hslashes hfour
    cases rest with
    | nil => simp at hslashes
    | cons c rest =>
      have hc : c ≠ '/' := by
        rintro rfl
        simp [startsWith] at hfour
      simp [hc] at hslashes

end Doc

namespace SyntaxTree

variable {source : Source}

def linesOf (source : Source) (n : Node) : List (List Char) :=
  Doc.docLines (nodeText source (some n)).toList

/-- A comment without children and without a role that documents nothing. -/
def isSilent (source : Source) (n : Node) : Bool :=
  n.isComment && n.role.isNone && n.children.isEmpty && (linesOf source n).isEmpty

mutual

/-- A tree without the silent comments below its root. -/
def sift (source : Source) : Node → Node
  | .mk kind role start stop flawed children =>
    .mk kind role start stop flawed (siftAll source children)

/-- Nodes in a row without silent comments; a comment may become silent when it is sifted. -/
def siftAll (source : Source) : List Node → List Node
  | [] => []
  | n :: rest =>
    if isSilent source (sift source n) then siftAll source rest
    else sift source n :: siftAll source rest

end

@[simp]
theorem kind_sift (n : Node) : (sift source n).kind = n.kind := by cases n; rfl

@[simp]
theorem role_sift (n : Node) : (sift source n).role = n.role := by cases n; rfl

@[simp]
theorem start_sift (n : Node) : (sift source n).start = n.start := by cases n; rfl

@[simp]
theorem stop_sift (n : Node) : (sift source n).stop = n.stop := by cases n; rfl

@[simp]
theorem children_sift (n : Node) : (sift source n).children = siftAll source n.children := by
  cases n
  rfl

@[simp]
theorem isComment_sift (n : Node) : (sift source n).isComment = n.isComment := by
  simp [Node.isComment]

@[simp]
theorem isType_sift (n : Node) : isType (sift source n) = isType n := by
  simp [isType]

@[simp]
theorem nodeText_map_sift (n : Option Node) :
    nodeText source (n.map (sift source)) = nodeText source n := by
  cases n <;> simp [nodeText]

@[simp]
theorem linesOf_sift (n : Node) : linesOf source (sift source n) = linesOf source n := by
  simp [linesOf, nodeText]

theorem siftAll_eq (nodes : List Node) :
    siftAll source nodes = (nodes.map (sift source)).filter fun n => !isSilent source n := by
  induction nodes with
  | nil => rfl
  | cons n nodes ih =>
    rw [siftAll, List.map_cons, List.filter_cons, ih]
    cases isSilent source (sift source n) <;> rfl

theorem isComment_of_isSilent {n : Node} (h : isSilent source n = true) : n.isComment = true := by
  simp only [isSilent, Bool.and_eq_true] at h
  exact h.1.1.1

theorem role_of_isSilent {n : Node} (h : isSilent source n = true) : n.role = none := by
  simp only [isSilent, Bool.and_eq_true, Option.isNone_iff_eq_none] at h
  exact h.1.1.2

/-! ## What is found among children -/

/-- A test that depends on nothing in the node but what sifting keeps, and that no silent comment
passes. -/
structure IsBlind (source : Source) (test : Node → Bool) : Prop where
  sift : ∀ n, test (sift source n) = test n
  silent : ∀ n, isSilent source n = true → test n = false

theorem isBlind_kind {kind : String} (h : kind ≠ "comment") : IsBlind source (·.kind == kind) where
  sift n := by simp
  silent n hn := by
    have hkind : n.kind = "comment" := eq_of_beq (isComment_of_isSilent hn)
    simp [hkind, h.symm]

theorem isBlind_role (role : String) : IsBlind source (·.role == some role) where
  sift n := by simp
  silent n hn := by simp [role_of_isSilent hn]

theorem filter_siftAll {test : Node → Bool} (h : IsBlind source test) (nodes : List Node) :
    (siftAll source nodes).filter test = (nodes.filter test).map (sift source) := by
  induction nodes with
  | nil => rfl
  | cons n nodes ih =>
    rw [siftAll, List.filter_cons, ← h.sift n]
    cases hn : isSilent source (sift source n) with
    | true => simp [ih, h.silent _ hn]
    | false => cases htest : test (sift source n) <;> simp [ih, htest]

theorem find?_siftAll {test : Node → Bool} (h : IsBlind source test) (nodes : List Node) :
    (siftAll source nodes).find? test = (nodes.find? test).map (sift source) := by
  rw [← List.head?_filter, filter_siftAll h, List.head?_map, List.head?_filter]

theorem childInRole?_sift (n : Node) (role : String) :
    (sift source n).childInRole? role = (n.childInRole? role).map (sift source) := by
  rw [Node.childInRole?, children_sift, find?_siftAll (isBlind_role role)]
  rfl

theorem childFor?_sift (n : Node) (role : String) {kind : String} (h : kind ≠ "comment") :
    (sift source n).childFor? role kind = (n.childFor? role kind).map (sift source) := by
  rw [Node.childFor?, childInRole?_sift, children_sift, find?_siftAll (isBlind_kind h),
    Node.childFor?]
  cases n.childInRole? role <;> rfl

theorem modifiers_sift (n : Node) : modifiers source (sift source n) = modifiers source n := by
  rw [modifiers, children_sift, filter_siftAll (isBlind_kind (by decide)), List.map_map, modifiers]
  exact List.map_congr_left fun m _ => nodeText_map_sift (some m)

theorem typeKind_sift (n : Node) : typeKind (sift source n) = typeKind n := by
  have hstruct : (siftAll source n.children).any (·.kind == "struct") =
      n.children.any (·.kind == "struct") := by
    rw [← List.isSome_find?, ← List.isSome_find?, find?_siftAll (isBlind_kind (by decide)),
      Option.isSome_map]
  rw [typeKind, typeKind, children_sift, kind_sift, hstruct]

theorem boundNames_sift (n : Node) : boundNames source (sift source n) = boundNames source n := by
  rw [boundNames, children_sift, filter_siftAll (isBlind_kind (by decide)), List.map_map,
    boundNames]
  refine List.map_congr_left fun d _ => ?_
  rw [Function.comp_apply, childFor?_sift d "name" (by decide), nodeText_map_sift]

/-! ## Parameters -/

theorem parameterGroups_siftAll (nodes : List Node) :
    parameterGroups (siftAll source nodes) =
      (parameterGroups nodes).map (List.map (sift source)) := by
  induction nodes with
  | nil => rfl
  | cons n nodes ih =>
    rw [siftAll]
    cases hn : isSilent source (sift source n) with
    | true =>
      have hcomment : n.isComment = true := by simpa using isComment_of_isSilent hn
      have hkind : n.kind = "comment" := eq_of_beq hcomment
      simp [parameterGroups, ih, hkind, hcomment]
    | false =>
      simp only [parameterGroups, kind_sift, isComment_sift, ih, Bool.false_eq_true, if_false]
      split_ifs
      · rfl
      · rfl
      · cases parameterGroups nodes <;> rfl

theorem groupText?_sift (group : List Node) :
    groupText? source (group.map (sift source)) = groupText? source group := by
  cases group with
  | nil => rfl
  | cons first rest =>
    have hlast : ((rest.map (sift source)).getLastD (sift source first)).stop =
        (rest.getLastD first).stop := by
      rw [List.getLastD_eq_getLast?, List.getLastD_eq_getLast?, List.getLast?_map]
      cases rest.getLast? <;> simp
    rw [List.map_cons, groupText?, groupText?, hlast, start_sift]

theorem parameters_sift (n : Node) : parameters source (sift source n) = parameters source n := by
  rw [parameters, childFor?_sift n "parameters" (by decide), parameters]
  cases n.childFor? "parameters" "parameter_list" with
  | none => rfl
  | some list =>
    rw [Option.map_some]
    simp only [children_sift, parameterGroups_siftAll, List.filterMap_map]
    exact List.filterMap_congr fun group _ => groupText?_sift group

/-! ## Summaries -/

theorem summary?_eq (source : Source) (p : Placed) : summary? source p =
    (Doc.findElement? (['\n'].intercalate ((commentNodes p).flatMap (linesOf source)))).map
      String.ofList := by
  rw [summary?, Doc.summary?, Doc.documentation, leadingComments_eq, List.flatMap_map]
  rfl

theorem linesOf_eq_nil_of_isSilent {n : Node} (h : isSilent source n = true) :
    linesOf source n = [] := by
  simp only [isSilent, Bool.and_eq_true, List.isEmpty_iff] at h
  exact h.2

theorem flatMap_linesOf_siftAll (nodes : List Node) :
    (siftAll source nodes).flatMap (linesOf source) = nodes.flatMap (linesOf source) := by
  induction nodes with
  | nil => rfl
  | cons n nodes ih =>
    rw [siftAll, List.flatMap_cons]
    cases hn : isSilent source (sift source n) with
    | true =>
      have hnone : linesOf source n = [] := by simpa using linesOf_eq_nil_of_isSilent hn
      simp [hnone, ih]
    | false => simp [ih]

theorem reverse_siftAll (nodes : List Node) :
    (siftAll source nodes).reverse = siftAll source nodes.reverse := by
  rw [siftAll_eq, siftAll_eq, List.map_reverse, List.filter_reverse]

theorem filter_isComment_siftAll (nodes : List Node) :
    (siftAll source nodes).filter Node.isComment =
      siftAll source (nodes.filter Node.isComment) := by
  induction nodes with
  | nil => rfl
  | cons n nodes ih =>
    rw [siftAll, List.filter_cons]
    cases hn : isSilent source (sift source n) with
    | true =>
      have hcomment : n.isComment = true := by simpa using isComment_of_isSilent hn
      simp [hcomment, siftAll, hn, ih]
    | false => cases hc : n.isComment <;> simp [siftAll, hn, hc, ih]

theorem takeWhile_siftAll {test : Node → Bool} (hsift : ∀ n, test (sift source n) = test n)
    (hsilent : ∀ n, isSilent source n = true → test n = true) (nodes : List Node) :
    (siftAll source nodes).takeWhile test = siftAll source (nodes.takeWhile test) := by
  induction nodes with
  | nil => rfl
  | cons n nodes ih =>
    rw [siftAll, List.takeWhile_cons, ← hsift n]
    cases hn : isSilent source (sift source n) with
    | true => simp [hsilent _ hn, siftAll, hn, ih]
    | false => cases htest : test (sift source n) <;> simp [htest, siftAll, hn, ih]

theorem innerComments_sift (n : Node) :
    innerComments (sift source n) = siftAll source (innerComments n) := by
  rw [innerComments, children_sift, takeWhile_siftAll (by simp), filter_isComment_siftAll,
    innerComments]
  intro c hc
  simp [isComment_of_isSilent hc]

def siftPlaced (source : Source) (p : Placed) : Placed :=
  ⟨sift source p.node, siftAll source p.before⟩

theorem summary?_sift (p : Placed) : summary? source (siftPlaced source p) = summary? source p := by
  have hbefore : (siftAll source p.before).takeWhile Node.isComment =
      siftAll source (p.before.takeWhile Node.isComment) :=
    takeWhile_siftAll isComment_sift (fun _ => isComment_of_isSilent) p.before
  rw [summary?_eq, summary?_eq, commentNodes, commentNodes, siftPlaced, hbefore, reverse_siftAll,
    innerComments_sift]
  simp only [List.flatMap_append, flatMap_linesOf_siftAll]

/-! ## Declarations -/

theorem signature_sift (p : Placed) :
    signature source (siftPlaced source p) = signature source p := by
  unfold signature
  rw [summary?_sift, siftPlaced, modifiers_sift, parameters_sift, childInRole?_sift,
    nodeText_map_sift]

theorem member?_sift (p : Placed) : member? source (siftPlaced source p) = member? source p := by
  have hfield : (sift source p.node).childFor? "declaration" "variable_declaration" =
      (p.node.childFor? "declaration" "variable_declaration").map (sift source) :=
    childFor?_sift p.node "declaration" (by decide)
  unfold member?
  simp only [signature_sift, summary?_sift]
  simp only [siftPlaced, kind_sift, modifiers_sift, childInRole?_sift, ← Option.map_or,
    nodeText_map_sift, hfield, Option.map_map, Function.comp_def, boundNames_sift]

theorem member?_of_isSilent {p : Placed} (h : isSilent source p.node = true) :
    member? source p = none := by
  have hkind : p.node.kind = "comment" := eq_of_beq (isComment_of_isSilent h)
  simp [member?, hkind]

theorem row_siftAll (before nodes : List Node) :
    Placed.row (siftAll source before) (siftAll source nodes) =
      ((Placed.row before nodes).filter fun p => !isSilent source (sift source p.node)).map
        (siftPlaced source) := by
  induction nodes generalizing before with
  | nil => rfl
  | cons n nodes ih =>
    have hrest := ih (n :: before)
    rw [siftAll] at hrest
    rw [siftAll, Placed.row, List.filter_cons]
    cases hn : isSilent source (sift source n) with
    | true => simpa [hn] using hrest
    | false => simpa [hn, Placed.row, siftPlaced] using hrest

theorem members_sift (n : Node) : members source (sift source n) = members source n := by
  have hrow : ∀ row : List Placed,
      ((row.filter fun p => !isSilent source (sift source p.node)).map
        (siftPlaced source)).filterMap (member? source) = row.filterMap (member? source) := by
    intro row
    induction row with
    | nil => rfl
    | cons p row ih =>
      rw [List.filter_cons, List.filterMap_cons, ← member?_sift]
      cases hp : isSilent source (sift source p.node) with
      | true =>
        have hnone : member? source (siftPlaced source p) = none := member?_of_isSilent hp
        simp [hnone, ih]
      | false => simp [List.filterMap_cons, ih]
  rw [members, childFor?_sift n "body" (by decide), members]
  cases n.childFor? "body" "declaration_list" with
  | none => rfl
  | some body =>
    have hbody : Placed.row [] (siftAll source body.children) = _ := row_siftAll [] body.children
    rw [← children_sift] at hbody
    simp only [Option.map_some, Placed.children, Placed.root, hbody]
    exact hrow _

theorem typeDecl_sift (p : Placed) : typeDecl source (siftPlaced source p) = typeDecl source p := by
  unfold typeDecl
  rw [summary?_sift, siftPlaced, typeKind_sift, modifiers_sift, members_sift, childInRole?_sift,
    nodeText_map_sift]

def typesAt (p : Placed) : List Placed := p.preorder.filter (isType ·.node)

theorem typesAt_eq (p : Placed) :
    typesAt p = [p].filter (isType ·.node) ++ p.children.flatMap typesAt := by
  rw [typesAt, Placed.preorder_eq, ← List.singleton_append, List.filter_append,
    List.filter_flatMap]
  rfl

theorem typesAt_of_isSilent {p : Placed} (h : isSilent source p.node = true) : typesAt p = [] := by
  have hkind : p.node.kind = "comment" := eq_of_beq (isComment_of_isSilent h)
  have hchildren : p.children = [] := by
    simp only [isSilent, Bool.and_eq_true, List.isEmpty_iff] at h
    simp [Placed.children, h.1.2, Placed.row]
  have htype : isType p.node = false := by
    rw [isType, hkind]
    decide
  simp [typesAt_eq, hchildren, htype]

theorem typesAt_sift (p : Placed) :
    typesAt (siftPlaced source p) = (typesAt p).map (siftPlaced source) := by
  obtain ⟨n, before⟩ := p
  induction n generalizing before with
  | step n ih =>
    have hrow : ∀ row : List Placed, (∀ c ∈ row, c.node ∈ n.children) →
        ((row.filter fun c => !isSilent source (sift source c.node)).map
          (siftPlaced source)).flatMap typesAt =
            (row.flatMap typesAt).map (siftPlaced source) := by
      intro row hmem
      induction row with
      | nil => rfl
      | cons c row ihrow =>
        rw [List.forall_mem_cons] at hmem
        have hfirst := ih c.node hmem.1 c.before
        rw [List.filter_cons, List.flatMap_cons, List.map_append, ← hfirst, ← ihrow hmem.2]
        -- a comment that is sifted out has no types in it
        cases hc : isSilent source (sift source c.node) with
        | true =>
          have hnone : typesAt (siftPlaced source c) = [] := typesAt_of_isSilent hc
          simp [hnone]
        | false => simp
    have hown : [siftPlaced source ⟨n, before⟩].filter (isType ·.node) =
        ([(⟨n, before⟩ : Placed)].filter (isType ·.node)).map (siftPlaced source) := by
      cases hn : isType n <;> simp [siftPlaced, hn]
    have hchildren : Placed.row [] (siftAll source n.children) = _ := row_siftAll [] n.children
    rw [← children_sift] at hchildren
    rw [typesAt_eq, typesAt_eq, List.map_append, hown]
    congr 1
    rw [Placed.children, siftPlaced, hchildren]
    exact hrow _ fun c hc => Placed.node_mem_of_mem_children (p := ⟨n, before⟩) hc

theorem typeNodes_sift (tree : Node) :
    typeNodes (sift source tree) = (typeNodes tree).map (siftPlaced source) := by
  rw [typeNodes_eq, typeNodes_eq]
  exact typesAt_sift (.root tree)

theorem ofTree_sift (source : String) (tree : Node) :
    SourceOutline.ofTree source (sift (Text.Utf8.encode source.toList) tree) =
      SourceOutline.ofTree source tree := by
  simp only [SourceOutline.ofTree, typeNodes_sift, List.map_map]
  congr 1
  exact List.map_congr_left fun p _ => typeDecl_sift p

/-! ## Adding comments -/

/-- An ordinary comment: it has no children, no role, and documents nothing. -/
structure IsRemark (source : Source) (n : Node) : Prop where
  kind : n.kind = "comment"
  role : n.role = none
  children : n.children = []
  text : ¬ Doc.IsDocumentation (nodeText source (some n))

/-- A tree and the same tree with one more ordinary comment, at any place among the children of any
node. -/
inductive AddsRemark (source : Source) : Node → Node → Prop
  | here {kind : String} {role : Option String} {start stop : ℕ} {flawed : Bool}
      (before after : List Node) {remark : Node} (h : IsRemark source remark) :
      AddsRemark source (.mk kind role start stop flawed (before ++ after))
        (.mk kind role start stop flawed (before ++ remark :: after))
  | deeper {kind : String} {role : Option String} {start stop : ℕ} {flawed : Bool}
      (before after : List Node) {n n' : Node} (h : AddsRemark source n n') :
      AddsRemark source (.mk kind role start stop flawed (before ++ n :: after))
        (.mk kind role start stop flawed (before ++ n' :: after))

theorem siftAll_append (nodes more : List Node) :
    siftAll source (nodes ++ more) = siftAll source nodes ++ siftAll source more := by
  simp [siftAll_eq]

theorem IsRemark.isSilent_sift {n : Node} (h : IsRemark source n) :
    isSilent source (sift source n) = true := by
  have hlines : linesOf source n = [] := Doc.docLines_eq_nil h.text
  simp [isSilent, Node.isComment, h.kind, h.role, h.children, siftAll, hlines]

theorem AddsRemark.sift_eq {n n' : Node} (h : AddsRemark source n n') :
    sift source n' = sift source n := by
  induction h with
  | here _ _ h => rw [sift, sift, siftAll_append, siftAll_append, siftAll, if_pos h.isSilent_sift]
  | deeper _ _ _ ih => rw [sift, sift, siftAll_append, siftAll_append, siftAll, siftAll, ih]

/-- Ordinary comments are invisible: however many of them are added to a tree, and wherever, the
outline stays the same. -/
theorem ordinary_comments_invisible {source : String} {tree tree' : Node}
    (h : Relation.ReflTransGen (AddsRemark (Text.Utf8.encode source.toList)) tree tree') :
    SourceOutline.ofTree source tree' = SourceOutline.ofTree source tree := by
  have hsift : sift (Text.Utf8.encode source.toList) tree' =
      sift (Text.Utf8.encode source.toList) tree := by
    induction h with
    | refl => rfl
    | tail _ h ih => rw [h.sift_eq, ih]
  rw [← ofTree_sift source tree', hsift, ofTree_sift]

/-- A class on the last line, with documentation on the first line and a remark between them. -/
def remarkedSource : String := "///<summary>x</summary>\n//y\nclass A\x7b\x7d"

def withoutRemark : Node :=
  .mk "compilation_unit" none 0 37 false
    [.mk "comment" none 0 23 false [], .mk "class_declaration" none 28 37 false []]

def withRemark : Node :=
  .mk "compilation_unit" none 0 37 false
    [.mk "comment" none 0 23 false [], .mk "comment" none 24 27 false [],
      .mk "class_declaration" none 28 37 false []]

theorem ordinary_comments_invisible_between :
    AddsRemark (Text.Utf8.encode remarkedSource.toList) withoutRemark withRemark ∧
      SourceOutline.ofTree remarkedSource withRemark =
        SourceOutline.ofTree remarkedSource withoutRemark := by
  have hremark : IsRemark (Text.Utf8.encode remarkedSource.toList)
      (.mk "comment" none 24 27 false []) := ⟨rfl, rfl, rfl, by decide +kernel⟩
  have hadds : AddsRemark (Text.Utf8.encode remarkedSource.toList) withoutRemark withRemark :=
    .here [.mk "comment" none 0 23 false []] _ hremark
  exact ⟨hadds, ordinary_comments_invisible (.single hadds)⟩

end SyntaxTree

end Outline
