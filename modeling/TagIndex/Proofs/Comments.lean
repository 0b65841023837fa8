import Mathlib.Tactic.Common
import TagIndex.Concrete.Lower
import TagIndex.Session

namespace TagIndex

namespace Syntax

/-- The second list is the first one with nodes put in that have no shape and nothing else. -/
inductive Padded : List Node → List Node → Prop
  | nil : Padded [] []
  | keep (node : Node) {nodes others : List Node} (h : Padded nodes others) :
      Padded (node :: nodes) (node :: others)
  | pad {nodes others : List Node} (h : Padded nodes others) :
      Padded nodes ({ shape := .other } :: others)

theorem steps_other (source : Bytes) (around : Surroundings) :
    steps source around { shape := .other } = [] := rfl

theorem Padded.memberSteps_eq {nodes others : List Node} (h : Padded nodes others)
    (source : Bytes) (around : Surroundings) :
    memberSteps source around others = memberSteps source around nodes := by
  induction h with
  | nil => rfl
  | keep node _ ih => rw [memberSteps, memberSteps, ih]
  | pad _ ih => rw [memberSteps, steps_other, List.nil_append, ih]

end Syntax

namespace Concrete

open Syntax (Padded)

/-- A comment as the parser makes it: it may stand anywhere, in no role, and nothing is below it. -/
structure IsComment (node : Concrete) : Prop where
  kind : node.kind = "comment"
  named : node.named = true
  extra : node.extra = true
  error : node.error = false
  missing : node.missing = false
  field : node.field = none
  children : node.children = []

/-- The second list is the first one with comments put in, between its nodes and between the
children of any node below them. -/
inductive Commented : List Concrete → List Concrete → Prop
  | nil : Commented [] []
  | keep (node : Concrete) {children nodes others : List Concrete}
      (hbelow : Commented node.children children) (hrest : Commented nodes others) :
      Commented (node :: nodes) ({ node with children := children } :: others)
  | comment {node : Concrete} {nodes others : List Concrete} (hnode : node.IsComment)
      (hrest : Commented nodes others) : Commented nodes (node :: others)

/-- The node without what is below it. -/
def trunk (node : Concrete) : Concrete := { node with children := [] }

theorem trunk_children (node : Concrete) (children : List Concrete) :
    trunk { node with children := children } = trunk node := rfl

variable {nodes others children : List Concrete} {node : Concrete}

theorem Commented.append {first second : List Concrete} (h : Commented nodes others)
    (k : Commented first second) : Commented (nodes ++ first) (others ++ second) := by
  induction h with
  | nil => exact k
  | keep node hbelow _ _ ih => exact .keep node hbelow ih
  | comment hnode _ ih => exact .comment hnode ih

theorem Commented.refl : (nodes : List Concrete) → Commented nodes nodes
  | [] => .nil
  | ⟨kind, named, extra, error, missing, span, field, children⟩ :: rest =>
    .keep ⟨kind, named, extra, error, missing, span, field, children⟩ (.refl children) (.refl rest)
termination_by nodes => sizeAll nodes
decreasing_by all_goals simp only [sizeAll, size_eq]; omega

theorem IsComment.isFaulty (h : node.IsComment) : node.isFaulty = false := by
  simp [Concrete.isFaulty, h.error, h.missing]

/-- Two stacks that differ in comments stay so while they are worked off. -/
theorem Commented.countFaultsFrom_eq (h : Commented nodes others) (count : Nat) :
    countFaultsFrom others count = countFaultsFrom nodes count := by
  fun_induction countFaultsFrom others count generalizing nodes with
  | case1 count =>
    cases h
    rw [countFaultsFrom]
  | case2 count top more ih =>
    cases h with
    | keep node hbelow hrest =>
      rw [countFaultsFrom]
      exact ih (hbelow.append hrest)
    | comment hnode hrest =>
      -- a comment is taken from the stack of one side only, and leaves nothing there
      rw [hnode.children, hnode.isFaulty] at ih
      simpa [hnode.children, hnode.isFaulty] using ih hrest

/-- A search that looks at nodes themselves and not below them, and passes over comments, finds the
same node. -/
theorem Commented.find?_trunk {wanted : Concrete → Bool}
    (hcomment : ∀ node : Concrete, node.IsComment → wanted node = false)
    (hbelow : ∀ node : Concrete, wanted node = wanted node.trunk)
    (h : Commented nodes others) :
    (others.find? wanted).map trunk = (nodes.find? wanted).map trunk := by
  induction h with
  | nil => rfl
  | @keep node children nodes others _ _ _ ih =>
    have hsame : wanted { node with children := children } = wanted node := by
      rw [hbelow, trunk_children, ← hbelow]
    rw [List.find?_cons, List.find?_cons, hsame]
    cases wanted node with
    | true => rfl
    | false => exact ih
  | comment hnode _ ih =>
    rw [List.find?_cons, hcomment _ hnode]
    exact ih

theorem Commented.inField?_trunk (h : Commented nodes others) (role : String) :
    (inField? role others).map trunk = (inField? role nodes).map trunk := by
  refine h.find?_trunk ?_ fun _ => rfl
  intro node hnode
  simp [hnode.field]

theorem Commented.named?_trunk (h : Commented nodes others) {kind : String}
    (hkind : kind ≠ "comment") :
    (named? kind others).map trunk = (named? kind nodes).map trunk := by
  refine h.find?_trunk ?_ fun _ => rfl
  intro node hnode
  simp [hnode.kind, hkind.symm]

/-- What two searches find alike is nothing, or two nodes that differ below themselves only. -/
theorem found_alike {a b : Option Concrete} (h : a.map trunk = b.map trunk) :
    (a = none ∧ b = none) ∨
      ∃ first second, a = some first ∧ b = some second ∧ first.kind = second.kind ∧
        first.span = second.span := by
  cases a with
  | none =>
    cases b with
    | none => exact .inl ⟨rfl, rfl⟩
    | some second => cases h
  | some first =>
    cases b with
    | none => cases h
    | some second =>
      have htrunk : first.trunk = second.trunk := Option.some.inj h
      exact .inr ⟨first, second, rfl, rfl, congrArg (·.kind) htrunk, congrArg (·.span) htrunk⟩

theorem map_span_of_trunk {a b : Option Concrete} (h : a.map trunk = b.map trunk) :
    a.map (·.span) = b.map (·.span) := by
  rcases found_alike h with ⟨rfl, rfl⟩ | ⟨first, second, rfl, rfl, _, hspan⟩
  · rfl
  · exact congrArg some hspan

theorem Commented.identifier?_eq (h : Commented nodes others) :
    identifier? others = identifier? nodes :=
  map_span_of_trunk (h.named?_trunk (by decide))

theorem Commented.functionName?_eq (h : Commented nodes others) :
    functionName? others = functionName? nodes := by
  unfold functionName?
  rcases found_alike (h.inField?_trunk "name") with
    ⟨hother, hname⟩ | ⟨second, first, hother, hname, _, hspan⟩
  · simp only [hother, hname, h.identifier?_eq]
  · simp only [hother, hname, hspan]

theorem Commented.keyword?_eq (h : Commented nodes others) : keyword? others = keyword? nodes := by
  refine map_span_of_trunk (h.find?_trunk ?_ fun _ => rfl)
  intro node hnode
  simp [hnode.named]

theorem Commented.lowerField_eq (h : Commented nodes others) :
    lowerField others = lowerField nodes := by
  have htype := h.inField?_trunk "type"
  unfold lowerField
  rcases found_alike (h.inField?_trunk "name") with
    ⟨hother, hname⟩ | ⟨second, first, hother, hname, _, hspan⟩
  · rcases found_alike htype with ⟨hno, hnone⟩ | ⟨type, same, hfound, hsame, hkind, hspan⟩
    · simp only [hother, hname, hno, hnone]
    · simp only [hother, hname, hfound, hsame, hkind, hspan]
  · have htyped : (inField? "type" others).isSome = (inField? "type" nodes).isSome := by
      simpa using congrArg Option.isSome htype
    simp only [hother, hname, hspan, htyped]

/-- The nodes below a node decide what it is lowered to by what the searches among them find. -/
theorem Commented.lower_of_below {source : Bytes} (h : Commented node.children children)
    (hinit : lowerInit source false children = lowerInit source false node.children)
    (hmembers : lowerMembers source children = lowerMembers source node.children) :
    lower source { node with children := children } = lower source node := by
  rcases node with ⟨kind, named, extra, error, missing, span, field, below⟩
  rw [lower, lower, h.functionName?_eq, h.identifier?_eq, h.keyword?_eq, h.lowerField_eq, hinit,
    hmembers]

/-- Neither the initializer among some children nor the members among them change. -/
theorem Commented.lowered (source : Bytes) (h : Commented nodes others) :
    (∀ behind, lowerInit source behind others = lowerInit source behind nodes) ∧
      lowerMembers source others = lowerMembers source nodes := by
  induction h with
  | nil => exact ⟨fun _ => rfl, rfl⟩
  | @keep node children nodes others hbelow _ ihbelow ihrest =>
    have hlower := hbelow.lower_of_below (ihbelow.1 false) ihbelow.2
    constructor
    · intro behind
      rw [lowerInit, lowerInit, hlower, ihrest.1]
    · rw [lowerMembers, lowerMembers, hlower, ihrest.2]
  | @comment node nodes others hnode _ ih =>
    constructor
    · intro behind
      -- an extra is no initializer, and what is named is no equals sign
      simp [lowerInit, hnode.named, hnode.extra, ih.1]
    · have hkind : isMemberKind node.kind = false := by
        rw [hnode.kind]
        decide
      simp [lowerMembers, hkind, ih.2]

theorem Commented.lower_eq (source : Bytes) (h : Commented node.children children) :
    lower source { node with children := children } = lower source node :=
  h.lower_of_below ((h.lowered source).1 false) (h.lowered source).2

theorem IsComment.lower_eq (h : node.IsComment) (source : Bytes) :
    lower source node = { shape := .other } := by
  rcases node with ⟨kind, named, extra, error, missing, span, field, below⟩
  obtain rfl : kind = "comment" := h.kind
  rfl

/-- Among the declarations of a file comments leave nodes without a shape. -/
theorem Commented.padded (source : Bytes) (h : Commented nodes others) :
    Padded ((nodes.filter (·.named)).map (lower source))
      ((others.filter (·.named)).map (lower source)) := by
  induction h with
  | nil => exact .nil
  | @keep node children nodes others hbelow _ _ ih =>
    have hlower := hbelow.lower_eq source
    by_cases hnamed : node.named
    · have hsame : ({ node with children := children } : Concrete).named := hnamed
      rw [List.filter_cons_of_pos hnamed, List.filter_cons_of_pos hsame, List.map_cons,
        List.map_cons, hlower]
      exact ih.keep _
    · have hsame : ¬({ node with children := children } : Concrete).named := hnamed
      rw [List.filter_cons_of_neg hnamed, List.filter_cons_of_neg hsame]
      exact ih
  | @comment node nodes others hnode _ ih =>
    rw [List.filter_cons_of_pos hnode.named, List.map_cons, hnode.lower_eq]
    exact ih.pad

def remark (span : Span) : Concrete := { kind := "comment", extra := true, span := span }

theorem isComment_remark (span : Span) : (remark span).IsComment :=
  ⟨rfl, rfl, rfl, rfl, rfl, rfl, rfl⟩

/-- The tree of a struct of one member, with some nodes at the top of the file, behind the equals
sign and inside the braces. -/
def structAmong (top behind inside : List Concrete) : Concrete :=
  { kind := "source_file", span := ⟨0, 43⟩
    children := top ++
      [{ kind := "variable_declaration", span := ⟨5, 43⟩
         children :=
          [{ kind := "const", named := false, span := ⟨5, 10⟩ },
           { kind := "identifier", span := ⟨11, 12⟩ },
           { kind := "=", named := false, span := ⟨13, 14⟩ }] ++ behind ++
          [{ kind := "struct_declaration", span := ⟨20, 42⟩
             children :=
              [{ kind := "struct", named := false, span := ⟨20, 26⟩ }] ++ inside ++
              [{ kind := "container_field", span := ⟨35, 40⟩
                 children :=
                  [{ kind := "identifier", span := ⟨35, 36⟩, field := some "name" },
                   { kind := "builtin_type", span := ⟨38, 40⟩, field := some "type" }] }] }] }] }

theorem commented_structAmong (top behind inside : Span) :
    Commented (structAmong [] [] []).children
      (structAmong [remark top] [remark behind] [remark inside]).children := by
  have put (span : Span) : Commented [] [remark span] := .comment (isComment_remark span) .nil
  refine (put top).append (.keep _ ?_ .nil)
  refine ((Commented.refl _).append (put behind)).append (.keep _ ?_ .nil)
  exact ((Commented.refl _).append (put inside)).append (.refl _)

end Concrete

namespace Session

open Concrete (Commented commented_structAmong remark structAmong)

/-- Comments that are put into a concrete tree, wherever they are put, change neither the number of
its faulty places nor its declarations, but for nodes without a shape at the top; and tagging the
file does the same in every session. -/
theorem extract_ignores_comments (source : Bytes) (root : Concrete) (children : List Concrete)
    (h : Commented root.children children) :
    let plain := Concrete.tree source root
    let commented := Concrete.tree source { root with children := children }
    commented.faults = plain.faults ∧
      Syntax.Padded plain.declarations commented.declarations ∧
      ∀ (session : Session) (path : Bytes),
        session.extract commented path = session.extract plain path := by
  intro plain commented
  have hpadded : Syntax.Padded plain.declarations commented.declarations := h.padded source
  refine ⟨?_, hpadded, ?_⟩
  · have hroot : Commented [root] [{ root with children := children }] := .keep root h .nil
    exact hroot.countFaultsFrom_eq 0
  · intro session path
    have hsteps : commented.steps path = plain.steps path := hpadded.memberSteps_eq source _
    rw [extract, extract, hsteps]

theorem extract_structAmong :
    let source := Bytes.ofString "// t\nconst S = // i\nstruct \x7b // m\n a: u8 \x7d;"
    let path := Bytes.ofString "a.zig"
    let plain := Concrete.tree source (structAmong [] [] [])
    let commented := Concrete.tree source
      (structAmong [remark ⟨0, 4⟩] [remark ⟨15, 19⟩] [remark ⟨29, 33⟩])
    commented.declarations.length = 2 ∧ Syntax.Padded plain.declarations commented.declarations ∧
      extract {} commented path = extract {} plain path ∧
      (extract {} commented path).1 = .ok 2 := by
  intro source path plain commented
  obtain ⟨_, hpadded, hextract⟩ := extract_ignores_comments source (structAmong [] [] []) _
    (commented_structAmong ⟨0, 4⟩ ⟨15, 19⟩ ⟨29, 33⟩)
  exact ⟨rfl, hpadded, hextract {} path, rfl⟩

end Session

end TagIndex
