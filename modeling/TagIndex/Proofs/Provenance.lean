import TagIndex.Proofs.ConcreteWalk
import TagIndex.Proofs.Recovery

namespace TagIndex

namespace Syntax

/-- A step down in a declaration tree. -/
inductive Turn where
  | init
  | member (i : Nat)

namespace Node

/-- The node that some steps down lead to. -/
def reach? (node : Node) : List Turn → Option Node
  | [] => some node
  | .init :: rest => node.init.bind (·.reach? rest)
  | .member i :: rest => node.members[i]?.bind (·.reach? rest)

mutual

/-- The number of nodes of a declaration tree. -/
def size (node : Node) : Nat :=
  match node with
  | ⟨_, _, init, _, _, members⟩ => 1 + sizeInit init + sizeAll members
termination_by structural node

def sizeInit (init : Option Node) : Nat :=
  match init with
  | none => 0
  | some node => node.size
termination_by structural init

def sizeAll (nodes : List Node) : Nat :=
  match nodes with
  | [] => 0
  | node :: rest => node.size + sizeAll rest
termination_by structural nodes

end

theorem size_eq (node : Node) : node.size = 1 + sizeInit node.init + sizeAll node.members := by
  cases node
  rfl

/-- A node has the parts that its shape allows and no others. -/
structure WellShaped (node : Node) : Prop where
  init : node.init ≠ none → node.shape = .binding
  keyword : node.keyword ≠ none → node.shape = .container
  members : node.members ≠ [] → node.shape = .container
  name : node.name ≠ none → node.shape ∈ [.function, .binding, .field]
  typed : node.typed = true → node.shape = .field ∧ node.name ≠ none
  declarations : ∀ member ∈ node.members, member.shape ∈ [.function, .binding, .field]

end Node

end Syntax

namespace Concrete

open Syntax (Turn)

/-- The children of a container that are declarations. -/
def declarations (node : Concrete) : List Concrete :=
  node.children.filter fun child => child.named && isMemberKind child.kind

/-- The concrete node that some steps down the lowered tree come from. -/
def origin? (node : Concrete) : List Turn → Option Concrete
  | [] => some node
  | .init :: rest =>
    if node.kind = bindingKind then
      (initializer? node.children).bind fun init => init.1.origin? rest
    else none
  | .member i :: rest =>
    if isContainerKind node.kind then node.declarations[i]?.bind (·.origin? rest) else none

theorem lower_init (source : Bytes) (node : Concrete) :
    (lower source node).init =
      if node.kind = bindingKind then
        (initializer? node.children).map fun init => lower source init.1
      else none := by
  rcases kind_cases node.kind with h | h | h | h | ⟨hmember, hcontainer⟩
  · rw [lower_function h, h]
    rfl
  · rw [lower_binding h, if_pos h]
  · rw [lower_field h, h]
    rfl
  · have hbinding : node.kind ≠ bindingKind := by
      intro heq
      rw [heq] at h
      exact absurd h (by decide)
    rw [lower_container h, if_neg hbinding]
  · rw [isMemberKind_iff, not_or, not_or] at hmember
    rw [lower_rest (by simp [isMemberKind_iff, hmember]) hcontainer, if_neg hmember.2.1]

theorem lowerMembers_eq_map (source : Bytes) (node : Concrete) :
    lowerMembers source node.children = node.declarations.map (lower source) := by
  let declares (child : Concrete) : Bool := child.named && isMemberKind child.kind
  calc
    _ = (node.children.zipIdx.filter fun child => declares child.1).map
          fun child => lower source child.1 := lowerMembers_eq source node.children 0
    _ = ((node.children.zipIdx.map Prod.fst).filter declares).map (lower source) := by
      rw [List.filter_map, List.map_map]
      rfl
    _ = _ := by
      rw [List.zipIdx_map_fst]
      rfl

theorem lower_members (source : Bytes) (node : Concrete) :
    (lower source node).members =
      if isContainerKind node.kind then node.declarations.map (lower source) else [] := by
  rcases kind_cases node.kind with h | h | h | h | ⟨hmember, hcontainer⟩
  · rw [lower_function h, h]
    rfl
  · rw [lower_binding h, h]
    rfl
  · rw [lower_field h, h]
    rfl
  · rw [lower_container h, if_pos h, lowerMembers_eq_map]
  · rw [lower_rest hmember hcontainer, if_neg hcontainer]

/-- Going down the lowered tree is going down the concrete tree and lowering what is there. -/
theorem reach?_lower (source : Bytes) (top : Concrete) (way : List Turn) :
    (lower source top).reach? way = (top.origin? way).map (lower source) := by
  induction way generalizing top with
  | nil => rfl
  | cons turn rest ih =>
    cases turn with
    | init =>
      rw [Syntax.Node.reach?, origin?, lower_init]
      split_ifs
      · cases initializer? top.children with
        | none => rfl
        | some init => exact ih init.1
      · rfl
    | member i =>
      rw [Syntax.Node.reach?, origin?, lower_members]
      split_ifs
      · rw [List.getElem?_map]
        cases top.declarations[i]? with
        | none => rfl
        | some child => exact ih child
      · rfl

/-- What a node is lowered to takes its names and members from the children of that node. -/
structure LoweredFrom (source : Bytes) (origin : Concrete) (node : Syntax.Node) : Prop where
  lowered : node = lower source origin
  name : ∀ span ∈ node.name, ∃ child ∈ origin.children, child.span = span
  keyword : ∀ span ∈ node.keyword, ∃ child ∈ origin.children, child.span = span
  members : node.shape = .container → node.members = origin.declarations.map (lower source)

theorem lower_shape_of_isMemberKind {source : Bytes} {node : Concrete}
    (h : isMemberKind node.kind) :
    (lower source node).shape ∈ [.function, .binding, .field] := by
  rcases (isMemberKind_iff _).mp h with h | h | h
  · simp [lower_function h]
  · simp [lower_binding h]
  · simp [lower_field h]

theorem isMemberKind_of_mem_declarations {node child : Concrete} (h : child ∈ node.declarations) :
    isMemberKind child.kind := by
  have hkept := (List.mem_filter.mp h).2
  rw [Bool.and_eq_true] at hkept
  exact hkept.2

theorem lower_shape_eq_container_iff {source : Bytes} {node : Concrete} :
    (lower source node).shape = .container ↔ isContainerKind node.kind := by
  rcases kind_cases node.kind with h | h | h | h | ⟨hmember, hcontainer⟩
  · rw [lower_function h, h]
    exact iff_of_false nofun (by decide)
  · rw [lower_binding h, h]
    exact iff_of_false nofun (by decide)
  · rw [lower_field h, h]
    exact iff_of_false nofun (by decide)
  · rw [lower_container h]
    exact iff_of_true rfl h
  · rw [lower_rest hmember hcontainer]
    refine iff_of_false ?_ hcontainer
    split_ifs <;> nofun

/-- Only a field with a name counts as typed. -/
theorem lower_typed {source : Bytes} {node : Concrete} (h : (lower source node).typed = true) :
    (lower source node).shape = .field ∧ (lower source node).name ≠ none := by
  rcases kind_cases node.kind with hkind | hkind | hkind | hkind | ⟨hmember, hcontainer⟩
  · rw [lower_function hkind] at h
    cases h
  · rw [lower_binding hkind] at h
    cases h
  · rw [lower_field hkind] at h ⊢
    obtain ⟨hname, _⟩ := Bool.and_eq_true_iff.mp h
    obtain ⟨name, hname⟩ := Option.isSome_iff_exists.mp hname
    have hnamed : node.name? = some name.span := by
      rw [name?_eq, if_neg (hkind ▸ fieldKind_ne_functionKind),
        if_neg (hkind ▸ fieldKind_ne_bindingKind), if_pos hkind, hname]
      rfl
    exact ⟨rfl, by simp [hnamed]⟩
  · rw [lower_container hkind] at h
    cases h
  · rw [lower_rest hmember hcontainer] at h
    cases h

theorem wellShaped_lower (source : Bytes) (node : Concrete) : (lower source node).WellShaped where
  init := by
    rw [lower_init, lower_shape_eq_binding_iff]
    split_ifs <;> simp_all
  keyword := by
    rw [lower_keyword, lower_shape_eq_container_iff]
    split_ifs <;> simp_all
  members := by
    rw [lower_members, lower_shape_eq_container_iff]
    split_ifs <;> simp_all
  name := by
    intro hname
    rw [lower_name] at hname
    by_contra hshape
    have hmember : ¬isMemberKind node.kind :=
      fun hmember => hshape (lower_shape_of_isMemberKind hmember)
    exact hname (name?_of_not_isMemberKind hmember)
  typed := lower_typed
  declarations := by
    intro member hmem
    rw [lower_members] at hmem
    split_ifs at hmem
    · obtain ⟨child, hchild, rfl⟩ := List.mem_map.mp hmem
      exact lower_shape_of_isMemberKind (isMemberKind_of_mem_declarations hchild)
    · cases hmem

theorem loweredFrom_lower (source : Bytes) (node : Concrete) :
    LoweredFrom source node (lower source node) where
  lowered := rfl
  name := fun _ hspan => name_lower hspan
  keyword := by
    intro span hspan
    rw [lower_keyword] at hspan
    split_ifs at hspan
    · obtain ⟨child, hfound, hchild⟩ := Option.map_eq_some_iff.mp hspan
      exact ⟨child, List.mem_of_find?_eq_some hfound, hchild⟩
    · cases hspan
  members := by
    intro hshape
    rw [lower_members, if_pos (lower_shape_eq_container_iff.mp hshape)]

theorem sizeAll_le_of_sublist {a b : List Concrete} (h : a.Sublist b) : sizeAll a ≤ sizeAll b := by
  induction h with
  | slnil => exact Nat.le_refl _
  | cons node _ ih =>
    rw [sizeAll]
    omega
  | cons_cons node _ ih =>
    rw [sizeAll, sizeAll]
    omega

theorem sizeAll_map_lower_le (source : Bytes) {nodes : List Concrete}
    (h : ∀ node ∈ nodes, (lower source node).size ≤ node.size) :
    Syntax.Node.sizeAll (nodes.map (lower source)) ≤ sizeAll nodes := by
  induction nodes with
  | nil => exact Nat.le_refl _
  | cons node rest ih =>
    have hnode := h node List.mem_cons_self
    have hrest := ih fun other hmem => h other (List.mem_cons_of_mem node hmem)
    rw [List.map_cons, Syntax.Node.sizeAll, sizeAll]
    omega

theorem size_lower_le (source : Bytes) (node : Concrete) :
    (lower source node).size ≤ node.size := by
  have ih : ∀ child ∈ node.children, (lower source child).size ≤ child.size :=
    fun child _ => size_lower_le source child
  rw [size_eq, Syntax.Node.size_eq, lower_init, lower_members]
  split_ifs with hbinding hcontainer
  · rw [hbinding] at hcontainer
    exact absurd hcontainer (by decide)
  · -- of a binding's children one at most goes into the result
    cases hinit : initializer? node.children with
    | none => simp [Syntax.Node.sizeInit, Syntax.Node.sizeAll]
    | some init =>
      have hmem : init.1 ∈ node.children := List.mem_of_getElem? (initializer?_eq_some hinit)
      have hlower := ih init.1 hmem
      have hbelow := sizeAll_le_of_sublist (List.singleton_sublist.mpr hmem)
      simp only [sizeAll] at hbelow
      simp only [Option.map_some, Syntax.Node.sizeInit, Syntax.Node.sizeAll]
      omega
  · have hkept : node.declarations.Sublist node.children := List.filter_sublist
    have hlower := sizeAll_map_lower_le source fun child hmem => ih child (hkept.subset hmem)
    have hbelow := sizeAll_le_of_sublist hkept
    simp only [Syntax.Node.sizeInit]
    omega
  · simp [Syntax.Node.sizeInit, Syntax.Node.sizeAll]
termination_by sizeOf node
decreasing_by exact sizeOf_lt_of_mem_children ‹_›

/-- A concrete node is lowered to a tree that goes down along it: each node of the result is made
from the concrete node at the end of the same steps. It has the parts of its shape and no others,
its names and keywords are the spans of children of that concrete node, and a container's members
are made from that node's declarations, one from each and in order. The result has no more nodes
than the concrete tree. -/
theorem lower_traces_concrete (source : Bytes) (top : Concrete) :
    (∀ way, (lower source top).reach? way = (top.origin? way).map (lower source)) ∧
    (∀ way node, (lower source top).reach? way = some node →
      ∃ origin, top.origin? way = some origin ∧ node.WellShaped ∧
        LoweredFrom source origin node) ∧
    (lower source top).size ≤ top.size := by
  refine ⟨reach?_lower source top, ?_, size_lower_le source top⟩
  intro way node hreach
  rw [reach?_lower] at hreach
  obtain ⟨origin, horigin, rfl⟩ := Option.map_eq_some_iff.mp hreach
  exact ⟨origin, horigin, wellShaped_lower source origin, loweredFrom_lower source origin⟩

end Concrete

end TagIndex
