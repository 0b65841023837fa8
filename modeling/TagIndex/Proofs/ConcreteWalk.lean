import Mathlib.Data.List.Basic
import TagIndex.Proofs.Listing
import TagIndex.Proofs.Lowering

namespace TagIndex.Concrete

open Syntax (Position Site)

/-- The node at an address, which numbers the children on the way down. -/
def at? (node : Concrete) : Position → Option Concrete
  | [] => some node
  | i :: rest => node.children[i]?.bind (·.at? rest)

theorem at?_append {node next : Concrete} {way : Position} (h : node.at? way = some next)
    (rest : Position) : node.at? (way ++ rest) = next.at? rest := by
  induction way generalizing node with
  | nil =>
    obtain rfl := Option.some.inj h
    rfl
  | cons i below ih =>
    obtain ⟨child, hchild, hbelow⟩ := Option.bind_eq_some_iff.mp h
    rw [List.cons_append, at?, hchild, Option.bind_some, ih hbelow]

/-- A declaration that the walk comes to: where it stands, and the bindings around it, outermost
first. -/
structure Visit where
  address : Position
  around : List Concrete
  node : Concrete

namespace Visit

/-- The same declaration seen from a node further out. -/
def under (node : Concrete) (way : Position) (visit : Visit) : Visit :=
  ⟨way ++ visit.address, node :: visit.around, visit.node⟩

/-- The same declaration seen from the root of the file. -/
def fromTop (i : Nat) (visit : Visit) : Visit := { visit with address := i :: visit.address }

/-- The record of the declaration. Inside containers the scope is the dotted path of the names
around it, and the label is the keyword of the innermost container. -/
def record? (source path : Bytes) (visit : Visit) : Option Draft :=
  match visit.node.name?, visit.node.tagKind? source with
  | some span, some kind => some
    { name := span.text source
      path := path
      pattern := Text.escape (Text.lineAt source span.start)
      kind := kind.letter
      label := visit.around.getLast?.bind (·.word? source)
      scope :=
        if visit.around.isEmpty then none
        else some (Bytes.join [Scope.dot] (visit.around.map (·.title source))) }
  | _, _ => none

/-- Where the declaration stands after lowering. -/
def site (source : Bytes) (visit : Visit) : Site :=
  ⟨visit.around.map (lower source), lower source visit.node⟩

end Visit

/-- The walk below a node comes to a declaration: at once, or through a declaration of the container
that the node is bound to. -/
inductive Leads (source : Bytes) : Concrete → Visit → Prop
  | here (node : Concrete) : Leads source node ⟨[], [], node⟩
  | into {node init member : Concrete} {a b : Nat} {visit : Visit} (hopens : node.Opens source)
      (hinit : initializer? node.children = some (init, a))
      (hmember : init.children[b]? = some member) (hnamed : member.named)
      (hkind : member.kind ∈ declarationKinds) (h : Leads source member visit) :
      Leads source node (visit.under node [a, b])

/-- The walk over a file comes to a declaration from a named child of the root. -/
def Reached (source : Bytes) (root : Concrete) (visit : Visit) : Prop :=
  ∃ i child below, root.children[i]? = some child ∧ child.named ∧ Leads source child below ∧
    visit = below.fromTop i

theorem mem_inner_iff {node member : Concrete} {way : Position} :
    (way, member) ∈ node.inner ↔ ∃ init a b, initializer? node.children = some (init, a) ∧
      init.children[b]? = some member ∧ member.named ∧ member.kind ∈ declarationKinds ∧
      way = [a, b] := by
  unfold inner
  cases hinit : initializer? node.children with
  | none => simp
  | some found =>
    simp only [List.mem_map, List.mem_filter, Prod.exists, List.mem_zipIdx_iff_getElem?,
      Bool.and_eq_true, List.contains_iff_mem, Prod.mk.injEq, Option.some.injEq]
    constructor
    · intro h
      obtain ⟨child, b, ⟨hchild, hnamed, hkind⟩, rfl, rfl⟩ := h
      exact ⟨found.1, found.2, b, rfl, hchild, hnamed, hkind, rfl⟩
    · intro h
      obtain ⟨init, a, b, rfl, hchild, hnamed, hkind, rfl⟩ := h
      exact ⟨member, b, ⟨hchild, hnamed, hkind⟩, rfl, rfl⟩

theorem sizeOf_lt_of_mem_children {node child : Concrete} (h : child ∈ node.children) :
    sizeOf child < sizeOf node := by
  rcases node with ⟨kind, named, extra, error, missing, span, field, children⟩
  have hlt : sizeOf child < sizeOf children := List.sizeOf_lt_of_mem h
  simp only [Concrete.mk.sizeOf_spec]
  omega

theorem sizeOf_lt_of_mem_inner {node : Concrete} {entry : Position × Concrete}
    (h : entry ∈ node.inner) : sizeOf entry.2 < sizeOf node := by
  obtain ⟨init, a, b, hinit, hmember, _⟩ := mem_inner_iff.mp h
  have houter := sizeOf_lt_of_mem_children (List.mem_of_getElem? (initializer?_eq_some hinit))
  have hinner := sizeOf_lt_of_mem_children (List.mem_of_getElem? hmember)
  omega

/-- Induction over a concrete node by way of the declarations below it. -/
theorem inner_induction {motive : Concrete → Prop}
    (step : ∀ node, (∀ entry ∈ node.inner, motive entry.2) → motive node) (node : Concrete) :
    motive node :=
  step node fun entry _ => inner_induction step entry.2
termination_by sizeOf node
decreasing_by exact sizeOf_lt_of_mem_inner ‹_›

/-- The declarations to be tagged below a node and at it, members before the binding that holds
them. -/
def visits (source : Bytes) (node : Concrete) : List Visit :=
  (if node.Opens source then
    node.inner.attach.flatMap fun entry =>
      (visits source entry.1.2).map (·.under node entry.1.1)
  else []) ++ if node.Indexed source then [⟨[], [], node⟩] else []
termination_by sizeOf node
decreasing_by exact sizeOf_lt_of_mem_inner entry.2

/-- The declarations to be tagged in a file, child after child of the root. -/
def walk (source : Bytes) (root : Concrete) : List Visit :=
  (root.children.zipIdx.filter (·.1.named)).flatMap fun child =>
    (child.1.visits source).map (·.fromTop child.2)

theorem visits_eq (source : Bytes) (node : Concrete) :
    node.visits source =
      (if node.Opens source then
        node.inner.flatMap fun entry => (entry.2.visits source).map (·.under node entry.1)
      else []) ++ if node.Indexed source then [⟨[], [], node⟩] else [] := by
  rw [visits, List.flatMap_subtype (g := fun entry =>
    (entry.2.visits source).map (·.under node entry.1)) fun entry hmem => rfl,
    List.unattach_attach]

/-- The walk below a node comes exactly to what the node leads to, as far as it is indexed. -/
theorem mem_visits_iff {source : Bytes} {node : Concrete} {visit : Visit} :
    visit ∈ node.visits source ↔ Leads source node visit ∧ visit.node.Indexed source := by
  induction node using inner_induction generalizing visit with
  | step node ih =>
    rw [visits_eq, List.mem_append]
    constructor
    · intro h
      rcases h with h | h
      · split_ifs at h with hopens
        · obtain ⟨⟨way, member⟩, hmem, hvisit⟩ := List.mem_flatMap.mp h
          obtain ⟨below, hbelow, rfl⟩ := List.mem_map.mp hvisit
          obtain ⟨hleads, hindexed⟩ := (ih _ hmem).mp hbelow
          obtain ⟨init, a, b, hinit, hmember, hnamed, hkind, rfl⟩ := mem_inner_iff.mp hmem
          exact ⟨.into hopens hinit hmember hnamed hkind hleads, hindexed⟩
        · cases h
      · split_ifs at h with hindexed
        · obtain rfl := List.mem_singleton.mp h
          exact ⟨.here node, hindexed⟩
        · cases h
    · intro h
      obtain ⟨hleads, hindexed⟩ := h
      cases hleads with
      | here => exact .inr (by simp [hindexed])
      | @into _ init member a b below hopens hinit hmember hnamed hkind hbelow =>
        have hmem : ([a, b], member) ∈ node.inner :=
          mem_inner_iff.mpr ⟨init, a, b, hinit, hmember, hnamed, hkind, rfl⟩
        refine .inl ?_
        rw [if_pos hopens]
        exact List.mem_flatMap.mpr
          ⟨_, hmem, List.mem_map_of_mem ((ih _ hmem).mpr ⟨hbelow, hindexed⟩)⟩

theorem mem_walk_iff {source : Bytes} {root : Concrete} {visit : Visit} :
    visit ∈ root.walk source ↔ Reached source root visit ∧ visit.node.Indexed source := by
  simp only [walk, List.mem_flatMap, List.mem_filter, List.mem_map, Prod.exists,
    List.mem_zipIdx_iff_getElem?, mem_visits_iff]
  constructor
  · intro h
    obtain ⟨child, i, ⟨hchild, hnamed⟩, below, ⟨hleads, hindexed⟩, rfl⟩ := h
    exact ⟨⟨i, child, below, hchild, hnamed, hleads, rfl⟩, hindexed⟩
  · intro h
    obtain ⟨⟨i, child, below, hchild, hnamed, hleads, rfl⟩, hindexed⟩ := h
    exact ⟨child, i, ⟨hchild, hnamed⟩, below, ⟨hleads, hindexed⟩, rfl⟩

theorem Leads.at?_address {source : Bytes} {node : Concrete} {visit : Visit}
    (h : Leads source node visit) : node.at? visit.address = some visit.node := by
  induction h with
  | here node => rfl
  | @into node init member a b visit hopens hinit hmember hnamed hkind _ ih =>
    have hway : node.at? [a, b] = some member := by
      simp [at?, initializer?_eq_some hinit, hmember]
    exact (at?_append hway _).trans ih

/-- An address leads to the declaration that it stands with. -/
theorem Reached.at?_address {source : Bytes} {root : Concrete} {visit : Visit}
    (h : Reached source root visit) : root.at? visit.address = some visit.node := by
  obtain ⟨i, child, below, hchild, _, hleads, rfl⟩ := h
  rw [Visit.fromTop, at?, hchild]
  exact hleads.at?_address

theorem Leads.opens_around {source : Bytes} {node : Concrete} {visit : Visit}
    (h : Leads source node visit) : ∀ outer ∈ visit.around, outer.Opens source := by
  induction h with
  | here node => simp
  | into hopens _ _ _ _ _ ih => simpa [Visit.under, hopens] using ih

theorem zipIdx_filter_pairwise (children : List Concrete) (keep : Concrete × Nat → Bool) :
    (children.zipIdx.filter keep).Pairwise fun a b => a.2 < b.2 := by
  refine List.Pairwise.filter _ (List.pairwise_map.mp ?_)
  rw [List.zipIdx_map_snd]
  exact List.pairwise_lt_range'

theorem visits_pairwise (source : Bytes) (node : Concrete) :
    (node.visits source).Pairwise fun a b => a.address.Before b.address := by
  induction node using inner_induction with
  | step node ih =>
    rw [visits_eq, List.pairwise_append]
    refine ⟨?_, ?_, ?_⟩
    · split_ifs with hopens
      · rw [List.pairwise_flatMap]
        refine ⟨?_, ?_⟩
        · intro entry hmem
          obtain ⟨init, a, b, _, _, _, _, hway⟩ := mem_inner_iff.mp hmem
          rw [List.pairwise_map]
          refine (ih entry hmem).imp ?_
          intro first second hbefore
          simp only [Visit.under, hway]
          exact (hbefore.cons b).cons a
        · unfold inner
          cases initializer? node.children with
          | none => exact List.Pairwise.nil
          | some found =>
            refine List.pairwise_map.mpr ((zipIdx_filter_pairwise _ _).imp ?_)
            intro first second hlt x hx y hy
            obtain ⟨below, _, rfl⟩ := List.mem_map.mp hx
            obtain ⟨other, _, rfl⟩ := List.mem_map.mp hy
            exact (Position.before_of_lt hlt _ _).cons found.2
      · exact List.Pairwise.nil
    · split_ifs <;> simp
    · intro first hfirst second hsecond
      split_ifs at hsecond
      · obtain rfl := List.mem_singleton.mp hsecond
        split_ifs at hfirst
        · obtain ⟨⟨way, member⟩, hmem, hvisit⟩ := List.mem_flatMap.mp hfirst
          obtain ⟨init, a, b, _, _, _, _, rfl⟩ := mem_inner_iff.mp hmem
          obtain ⟨below, _, rfl⟩ := List.mem_map.mp hvisit
          exact Position.before_nil (by simp [Visit.under])
        · cases hfirst
      · cases hsecond

theorem walk_pairwise (source : Bytes) (root : Concrete) :
    (root.walk source).Pairwise fun a b => a.address.Before b.address := by
  rw [walk, List.pairwise_flatMap]
  refine ⟨?_, ?_⟩
  · intro child _
    rw [List.pairwise_map]
    exact (visits_pairwise source child.1).imp fun hbefore => hbefore.cons child.2
  · refine (zipIdx_filter_pairwise _ _).imp ?_
    intro first second hlt x hx y hy
    obtain ⟨below, _, rfl⟩ := List.mem_map.mp hx
    obtain ⟨other, _, rfl⟩ := List.mem_map.mp hy
    exact Position.before_of_lt hlt _ _

theorem snd_memberVisits (source : Bytes) (members : List Syntax.Node) (i : Nat) :
    (Syntax.memberVisits source i members).map Prod.snd =
      members.flatMap fun member => (Syntax.visits source member).map Prod.snd := by
  induction members generalizing i with
  | nil => simp [Syntax.memberVisits]
  | cons first others ih =>
    rw [Syntax.memberVisits, List.map_append, ih, List.map_map, List.flatMap_cons]
    rfl

theorem ownVisit_lower (source : Bytes) (node : Concrete) :
    Syntax.ownVisit source (lower source node) =
      if node.Indexed source then [([], ⟨[], lower source node⟩)] else [] := by
  by_cases h : node.Indexed source
  · have hmem : ([], ⟨[], lower source node⟩) ∈ Syntax.ownVisit source (lower source node) :=
      Syntax.mem_ownVisit_iff.mpr ⟨rfl, rfl, lower_tagged_iff.mpr h⟩
    rw [if_pos h]
    unfold Syntax.ownVisit at hmem ⊢
    split_ifs at hmem ⊢
    · rfl
    · cases hmem
  · rw [if_neg h]
    refine List.eq_nil_iff_forall_not_mem.mpr fun visit hmem => ?_
    exact h (lower_tagged_iff.mp (Syntax.mem_ownVisit_iff.mp hmem).2.2)

/-- Lowering a node and listing the visible sites below it gives the sites of the walk. -/
theorem visits_lower (source : Bytes) (node : Concrete) :
    (Syntax.visits source (lower source node)).map Prod.snd =
      (node.visits source).map (·.site source) := by
  induction node using inner_induction with
  | step node ih =>
    rw [Syntax.visits_eq, visits_eq, List.map_append, List.map_append, ownVisit_lower]
    congr 1
    · by_cases h : node.Opens source
      · have hopens : (lower source node).opens source :=
          (Syntax.Node.opens_iff _ _).mpr (lower_opens_iff.mpr h)
        rw [if_pos hopens, if_pos h, h.lower_inner]
        calc
          _ = ((Syntax.memberVisits source 0 (node.inner.map fun member =>
                lower source member.2)).map Prod.snd).map (Site.under (lower source node)) := by
            rw [List.map_map, List.map_map]
            rfl
          _ = node.inner.flatMap fun entry =>
                ((entry.2.visits source).map (·.site source)).map
                  (Site.under (lower source node)) := by
            rw [snd_memberVisits, List.flatMap_map, List.map_flatMap]
            refine List.flatMap_congr fun entry hmem => ?_
            rw [ih entry hmem]
          _ = _ := by
            rw [List.map_flatMap]
            refine List.flatMap_congr fun entry _ => ?_
            rw [List.map_map, List.map_map]
            rfl
      · have hopens : ¬(lower source node).opens source := fun hopens =>
          h (lower_opens_iff.mp ((Syntax.Node.opens_iff _ _).mp hopens))
        rw [if_neg hopens, if_neg h]
        rfl
    · split_ifs <;> rfl

theorem walk_lower (source : Bytes) (root : Concrete) :
    (tree source root).visits.map Prod.snd = (root.walk source).map (·.site source) := by
  have hnamed : root.children.filter (·.named) =
      (root.children.zipIdx.filter (·.1.named)).map Prod.fst := by
    calc
      _ = (root.children.zipIdx.map Prod.fst).filter (·.named) := by rw [List.zipIdx_map_fst]
      _ = _ := by rw [List.filter_map]; rfl
  rw [Syntax.Tree.visits, tree, snd_memberVisits, walk, hnamed, List.map_flatMap, List.map_map,
    List.flatMap_map]
  refine List.flatMap_congr fun child _ => ?_
  rw [List.map_map]
  exact visits_lower source child.1

theorem Visit.record?_eq {source : Bytes} {visit : Visit} (path : Bytes)
    (h : ∀ outer ∈ visit.around, outer.Opens source) :
    visit.record? source path = (visit.site source).record? source path := by
  have hlabel : ((visit.around.map (lower source)).getLast?.bind (·.word? source)) =
      visit.around.getLast?.bind (·.word? source) := by
    rw [List.getLast?_map]
    cases hlast : visit.around.getLast? with
    | none => rfl
    | some last => exact lower_word? (h last (List.mem_of_getLast? hlast)).1
  have htitles : (visit.around.map (lower source)).map (·.title source) =
      visit.around.map (·.title source) := by
    rw [List.map_map]
    exact List.map_congr_left fun outer _ => lower_title source outer
  have hempty : (visit.around.map (lower source)).isEmpty = visit.around.isEmpty := by simp
  cases hname : visit.node.name? <;> cases hkind : visit.node.tagKind? source <;>
    simp only [Visit.record?, Site.record?, Visit.site, lower_name, lower_kind?, hlabel, htitles,
      hempty, hname, hkind]

/-- All declarations of a file that get a tag, each once and in post-order of the concrete tree, and
their tags. -/
structure Listing (source path : Bytes) (root : Concrete) (visits : List Visit)
    (tags : List Tag) : Prop where
  reached : ∀ visit, visit ∈ visits ↔ Reached source root visit ∧ visit.node.Indexed source
  placed : ∀ visit ∈ visits, root.at? visit.address = some visit.node
  ordered : (visits.map (·.address)).Pairwise Position.Before
  tagged : visits.map (·.record? source path) = tags.map fun tag => some tag.draft

theorem listing_of_drafts_eq {source path : Bytes} {root : Concrete} {tags : List Tag}
    (h : (tree source root).drafts path = tags.map Tag.draft) :
    root.Listing source path (root.walk source) tags := by
  refine ⟨fun _ => mem_walk_iff, ?_, List.pairwise_map.mpr (walk_pairwise source root), ?_⟩
  · intro visit hvisit
    exact (mem_walk_iff.mp hvisit).1.at?_address
  · rw [← Syntax.Tree.records_of_drafts_eq h, walk_lower, List.map_map]
    apply List.map_congr_left
    intro visit hvisit
    obtain ⟨⟨i, child, below, _, _, hleads, rfl⟩, _⟩ := mem_walk_iff.mp hvisit
    exact Visit.record?_eq path hleads.opens_around

/-- The tree of `const U = // c` with `union(enum) { a: u8 } = 1;` on the next line: a comment
stands before the initializer and a second equals sign behind it, and the container has two
keywords. -/
def commentedUnion : Concrete :=
  { kind := "source_file", span := ⟨0, 41⟩
    children :=
      [{ kind := "variable_declaration", span := ⟨0, 41⟩
         children :=
          [{ kind := "const", named := false, span := ⟨0, 5⟩ },
           { kind := "identifier", span := ⟨6, 7⟩ },
           { kind := "=", named := false, span := ⟨8, 9⟩ },
           { kind := "comment", extra := true, span := ⟨10, 14⟩ },
           { kind := "union_declaration", span := ⟨15, 36⟩
             children :=
              [{ kind := "union", named := false, span := ⟨15, 20⟩ },
               { kind := "enum", named := false, span := ⟨21, 25⟩ },
               { kind := "container_field", span := ⟨29, 34⟩
                 children :=
                  [{ kind := "identifier", span := ⟨29, 30⟩, field := some "name" },
                   { kind := "builtin_type", span := ⟨32, 34⟩, field := some "type" }] }] },
           { kind := "=", named := false, span := ⟨37, 38⟩ },
           { kind := "integer", span := ⟨39, 40⟩ }] }] }

end TagIndex.Concrete

namespace TagIndex.Session

open Concrete (commentedUnion)

/-- Lowering a concrete tree and tagging the result writes the lines of the walk over the concrete
tree itself. -/
theorem extract_tree_writes_walk (session done : Session) (source path : Bytes)
    (root : Concrete) (count : Nat)
    (h : session.extract (Concrete.tree source root) path = (.ok count, done)) :
    ∃ tags, root.Listing source path (root.walk source) tags ∧
      ((root.walk source).map (·.address)).Nodup ∧
      done.sink.held = session.sink.held ++ (tags.map Tag.line).flatten ∧
      count = (root.walk source).length := by
  obtain ⟨tags, hdrafts, hwrote, rfl⟩ := extract_ok h
  have hlisting := Concrete.listing_of_drafts_eq hdrafts
  refine ⟨tags, hlisting, hlisting.ordered.imp ?_, hwrote.held, ?_⟩
  · intro p _ hbefore heq
    subst heq
    exact Syntax.Position.Before.irrefl p hbefore
  · simpa using (congrArg List.length hlisting.tagged).symm

theorem extract_commentedUnion :
    let source := Bytes.ofString "const U = // c\nunion(enum) \x7b a: u8 \x7d = 1;"
    let path := Bytes.ofString "a.zig"
    let run := extract {} (Concrete.tree source commentedUnion) path
    run.1 = .ok 2 ∧ (commentedUnion.walk source).map (·.address) = [[0, 4, 2], [0]] ∧
    run.2.sink.held = Bytes.ofString
      ("a\ta.zig\t/^union(enum) \x7b a: u8 \x7d = 1;$/;\"\tm\tunion:U\n" ++
        "U\ta.zig\t/^const U = \\/\\/ c$/;\"\tu\n") ∧
    ∃ tags, commentedUnion.Listing source path (commentedUnion.walk source) tags ∧
      (tags.map Tag.line).flatten = run.2.sink.held := by
  intro source path run
  have hrun : run.1 = .ok 2 := by rfl
  obtain ⟨tags, hlisting, _, hheld, _⟩ :=
    extract_tree_writes_walk {} run.2 source path commentedUnion 2 (Prod.ext hrun rfl)
  exact ⟨hrun, by decide +kernel +zetaReduce, by decide +kernel +zetaReduce, tags, hlisting,
    hheld.symm⟩

end TagIndex.Session
