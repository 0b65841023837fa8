import Mathlib.Tactic.Common
import TagIndex.Syntax.Walk

namespace TagIndex.Syntax

namespace Node

/-- The members of the container that a node is bound to. -/
def inner (node : Node) : List Node :=
  match node.init with
  | none => []
  | some init => init.members

/-- The text of a node's name, empty for a node without one. -/
def title (source : Bytes) (node : Node) : Bytes :=
  match node.name with
  | none => []
  | some span => span.text source

/-- The text of the keyword of the container that a node is bound to. -/
def word? (source : Bytes) (node : Node) : Option Bytes :=
  node.init.bind fun init => init.keyword.map (·.text source)

/-- A named binding of a container whose keyword is `struct`, `union` or `enum`. Only such a node
has anything visible below it. -/
def Opens (source : Bytes) (node : Node) : Prop :=
  node.shape = .binding ∧ node.name.isSome ∧
    (∃ init, node.init = some init ∧ init.shape = .container) ∧
    ∃ word, node.word? source = some word ∧
      word ∈ [Bytes.ofString "struct", Bytes.ofString "union", Bytes.ofString "enum"]

/-- A function, binding or field with a name and a kind. -/
def Tagged (source : Bytes) (node : Node) : Prop :=
  node.shape ∈ [.function, .binding, .field] ∧ node.name.isSome ∧ (node.kind? source).isSome

theorem sizeOf_lt_of_mem_inner {node member : Node} (h : member ∈ node.inner) :
    sizeOf member < sizeOf node := by
  rcases node with ⟨shape, name, init, keyword, typed, members⟩
  cases init with
  | none => simp [inner] at h
  | some init =>
    rcases init with ⟨_, _, _, _, _, within⟩
    have hm : sizeOf member < sizeOf within := List.sizeOf_lt_of_mem h
    simp only [Node.mk.sizeOf_spec, Option.some.sizeOf_spec]
    omega

/-- Induction over a node by way of the members below it. -/
theorem inner_induction {motive : Node → Prop}
    (step : ∀ node, (∀ member ∈ node.inner, motive member) → motive node) (node : Node) :
    motive node :=
  step node fun member _ => inner_induction step member
termination_by sizeOf node
decreasing_by exact sizeOf_lt_of_mem_inner ‹_›

end Node

theorem containerKindOf?_isSome_iff (word : Bytes) :
    (containerKindOf? word).isSome ↔
      word ∈ [Bytes.ofString "struct", Bytes.ofString "union", Bytes.ofString "enum"] := by
  unfold containerKindOf?
  split_ifs <;> simp_all

namespace Node

/-- Whether the walk enters the node. -/
def opens (source : Bytes) (node : Node) : Bool :=
  match node with
  | ⟨.binding, some _, some ⟨.container, _, _, keyword, _, _⟩, _, _, _⟩ =>
    (keyword.bind fun span => containerKindOf? (span.text source)).isSome
  | _ => false

theorem opens_iff (source : Bytes) (node : Node) : node.opens source ↔ node.Opens source := by
  unfold opens
  split
  · rename_i keyword _ _ _ _ _
    cases keyword <;> simp [Opens, word?, containerKindOf?_isSome_iff]
  · rename_i hother
    constructor
    · intro h
      cases h
    · intro h
      obtain ⟨hshape, hname, ⟨init, hinit, hcontainer⟩, _⟩ := h
      obtain ⟨span, hspan⟩ := Option.isSome_iff_exists.mp hname
      rcases node with ⟨shape, name, init, keyword, typed, members⟩
      rcases init with _ | ⟨inShape, _, _, _, _, _⟩
      · cases hinit
      · obtain rfl := Option.some.inj hinit
        simp only at hshape hspan hcontainer
        subst hshape hspan hcontainer
        exact absurd rfl (hother _ _ _ _ _ _ _ _ _)

theorem Opens.kind?_eq {source : Bytes} {node : Node} (h : node.Opens source) :
    node.kind? source = (node.word? source).bind containerKindOf? := by
  obtain ⟨hshape, _, ⟨init, hinit, hcontainer⟩, word, hword, _⟩ := h
  simp only [word?, hinit, Option.bind_some] at hword ⊢
  cases hk : init.keyword with
  | none => simp [hk] at hword
  | some span => simp [kind?, hshape, hinit, bindingKind?, hcontainer, containerKind?, hk]

/-- What the walk enters it also tags. -/
theorem Opens.tagged {source : Bytes} {node : Node} (h : node.Opens source) :
    node.Tagged source := by
  have hkind := h.kind?_eq
  obtain ⟨hshape, hname, _, word, hword, hmem⟩ := h
  refine ⟨by simp [hshape], hname, ?_⟩
  rw [hkind, hword]
  exact (containerKindOf?_isSome_iff word).mpr hmem

end Node

/-- The way from the top of a file to a node, or from a node to one below it. -/
abbrev Position := List Nat

/-- Post-order: a position comes behind all positions below it, and siblings go by their numbers. -/
def Position.Before (p q : Position) : Prop :=
  (∃ rest, rest ≠ [] ∧ p = q ++ rest) ∨
    ∃ common i j left right, i < j ∧ p = common ++ i :: left ∧ q = common ++ j :: right

namespace Position

theorem Before.cons {p q : Position} (i : Nat) (h : p.Before q) : Before (i :: p) (i :: q) := by
  rcases h with ⟨rest, hne, rfl⟩ | ⟨common, j, k, left, right, hlt, rfl, rfl⟩
  · exact .inl ⟨rest, hne, rfl⟩
  · exact .inr ⟨i :: common, j, k, left, right, hlt, rfl, rfl⟩

theorem before_of_lt {i j : Nat} (h : i < j) (p q : Position) : Before (i :: p) (j :: q) :=
  .inr ⟨[], i, j, p, q, h, rfl, rfl⟩

theorem before_nil {p : Position} (h : p ≠ []) : Before p [] := .inl ⟨p, h, rfl⟩

theorem not_nil_before (q : Position) : ¬Before [] q := by
  rintro (⟨rest, hne, h⟩ | ⟨common, i, j, left, right, _, h, _⟩)
  · exact hne (List.append_eq_nil_iff.mp h.symm).2
  · simp at h

theorem cons_before_cons_iff {i j : Nat} {p q : Position} :
    Before (i :: p) (j :: q) ↔ i < j ∨ i = j ∧ p.Before q := by
  constructor
  · rintro (⟨rest, hne, h⟩ | ⟨_ | ⟨c, common⟩, a, b, left, right, hlt, hp, hq⟩)
    · obtain ⟨rfl, rfl⟩ := List.cons.inj h
      exact .inr ⟨rfl, .inl ⟨rest, hne, rfl⟩⟩
    · obtain ⟨rfl, _⟩ := List.cons.inj hp
      obtain ⟨rfl, _⟩ := List.cons.inj hq
      exact .inl hlt
    · obtain ⟨rfl, rfl⟩ := List.cons.inj hp
      obtain ⟨rfl, rfl⟩ := List.cons.inj hq
      exact .inr ⟨rfl, .inr ⟨common, a, b, left, right, hlt, rfl, rfl⟩⟩
  · rintro (hlt | ⟨rfl, h⟩)
    · exact before_of_lt hlt p q
    · exact h.cons i

theorem Before.asymm {p q : Position} (h : p.Before q) : ¬q.Before p := by
  induction p generalizing q with
  | nil => exact absurd h (not_nil_before q)
  | cons i p ih =>
    cases q with
    | nil => exact not_nil_before _
    | cons j q =>
      rw [cons_before_cons_iff] at h ⊢
      rintro (hlt | ⟨rfl, hback⟩)
      · omega
      · rcases h with hlt | ⟨_, h⟩
        · omega
        · exact ih h hback

theorem Before.irrefl (p : Position) : ¬p.Before p := fun h => h.asymm h

end Position

/-- What stands at a position: the node, and the nodes around it, outermost first. -/
structure Site where
  ancestors : List Node
  node : Node

namespace Site

/-- The same site seen from one node further out. -/
def under (node : Node) (site : Site) : Site := ⟨node :: site.ancestors, site.node⟩

/-- Every node around the site is entered, and the node itself gets a tag. -/
def Visible (source : Bytes) (site : Site) : Prop :=
  (∀ node ∈ site.ancestors, node.Opens source) ∧ site.node.Tagged source

theorem visible_under {source : Bytes} {node : Node} {site : Site} :
    (site.under node).Visible source ↔ node.Opens source ∧ site.Visible source := by
  simp [Visible, under, and_assoc]

end Site

/-- The site below a node. -/
def Node.site? (node : Node) : Position → Option Site
  | [] => some ⟨[], node⟩
  | i :: rest => node.inner[i]?.bind fun member => (member.site? rest).map (Site.under node)

/-- The site in a file. The empty position stands for the file itself, where no node is. -/
def Tree.site? (tree : Tree) : Position → Option Site
  | [] => none
  | i :: rest => tree.declarations[i]?.bind (·.site? rest)

/-- A position with a node that is to be tagged, entered from the top of the file. -/
def Tree.Visible (tree : Tree) (p : Position) : Prop :=
  ∃ site, tree.site? p = some site ∧ site.Visible tree.source

end TagIndex.Syntax
