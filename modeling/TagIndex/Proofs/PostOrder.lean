import TagIndex.Proofs.Position

namespace TagIndex.Syntax

open Position

/-- The tag of the node itself comes last and stands at the empty position. -/
def ownVisit (source : Bytes) (node : Node) : List (Position × Site) :=
  if node.nameSpan?.isSome && (node.kind? source).isSome then [([], ⟨[], node⟩)] else []

mutual

/-- The visible sites below a node and at it. -/
def visits (source : Bytes) (node : Node) : List (Position × Site) :=
  (match node with
    | ⟨_, _, some ⟨_, _, _, _, _, members⟩, _, _, _⟩ =>
      if node.opens source then
        (memberVisits source 0 members).map fun visit => (visit.1, visit.2.under node)
      else []
    | _ => []) ++ ownVisit source node
termination_by structural node

/-- The visible sites in a list of nodes whose first has the number `i`. -/
def memberVisits (source : Bytes) (i : Nat) (members : List Node) : List (Position × Site) :=
  match members with
  | [] => []
  | node :: rest =>
    (visits source node).map (fun visit => (i :: visit.1, visit.2)) ++
      memberVisits source (i + 1) rest
termination_by structural members

end

def Tree.visits (tree : Tree) : List (Position × Site) :=
  memberVisits tree.source 0 tree.declarations

theorem mem_ownVisit_iff {source : Bytes} {node : Node} {p : Position} {site : Site} :
    (p, site) ∈ ownVisit source node ↔ p = [] ∧ site = ⟨[], node⟩ ∧ node.Tagged source := by
  unfold ownVisit Node.Tagged Node.nameSpan?
  cases node.shape <;> split_ifs <;> simp_all

theorem visits_eq (source : Bytes) (node : Node) :
    visits source node =
      (if node.opens source then
        (memberVisits source 0 node.inner).map fun visit => (visit.1, visit.2.under node)
      else []) ++ ownVisit source node := by
  rcases node with ⟨_, _, _ | ⟨_, _, _, _, _, _⟩, _, _, _⟩
  · simp [visits, Node.inner, memberVisits]
  · rw [visits]
    rfl

theorem mem_memberVisits_iff {source : Bytes} {members : List Node} {i : Nat} {p : Position}
    {site : Site} :
    (p, site) ∈ memberVisits source i members ↔
      ∃ j rest member, members[j]? = some member ∧ p = (i + j) :: rest ∧
        (rest, site) ∈ visits source member := by
  induction members generalizing i with
  | nil => simp [memberVisits]
  | cons first others ih =>
    simp only [memberVisits, List.mem_append, List.mem_map, Prod.mk.injEq, Prod.exists, ih]
    constructor
    · intro h
      rcases h with ⟨rest, _, hmem, rfl, rfl⟩ | ⟨j, rest, member, hget, rfl, hmem⟩
      · exact ⟨0, rest, first, rfl, rfl, hmem⟩
      · exact ⟨j + 1, rest, member, hget, by rw [Nat.add_right_comm, Nat.add_assoc], hmem⟩
    · intro h
      obtain ⟨j, rest, member, hget, rfl, hmem⟩ := h
      cases j with
      | zero =>
        obtain rfl : first = member := by simpa using hget
        exact .inl ⟨rest, site, hmem, rfl, rfl⟩
      | succ j =>
        exact .inr ⟨j, rest, member, hget, by rw [Nat.add_right_comm, Nat.add_assoc], hmem⟩

theorem nil_mem_visits_iff {source : Bytes} {node : Node} {site : Site} :
    ([], site) ∈ visits source node ↔ site = ⟨[], node⟩ ∧ node.Tagged source := by
  rw [visits_eq, List.mem_append, mem_ownVisit_iff]
  constructor
  · intro h
    rcases h with h | h
    · split_ifs at h
      · simp [mem_memberVisits_iff] at h
      · simp at h
    · exact h.2
  · intro h
    exact .inr ⟨rfl, h⟩

theorem cons_mem_visits_iff {source : Bytes} {node : Node} {i : Nat} {rest : Position}
    {site : Site} :
    (i :: rest, site) ∈ visits source node ↔
      node.Opens source ∧ ∃ member inside, node.inner[i]? = some member ∧
        (rest, inside) ∈ visits source member ∧ inside.under node = site := by
  rw [visits_eq, List.mem_append, mem_ownVisit_iff, ← Node.opens_iff]
  by_cases h : node.opens source
  · simp only [h, if_true, List.mem_map, Prod.exists, Prod.mk.injEq, mem_memberVisits_iff]
    constructor
    · intro h
      rcases h with ⟨_, inside, ⟨j, below, member, hget, hp, hmem⟩, rfl, rfl⟩ | ⟨hp, _⟩
      · obtain ⟨rfl, rfl⟩ := List.cons.inj hp
        exact ⟨trivial, member, inside, by simpa using hget, hmem, rfl⟩
      · cases hp
    · intro h
      obtain ⟨_, member, inside, hget, hmem, rfl⟩ := h
      exact .inl ⟨_, inside, ⟨i, rest, member, hget, by simp, hmem⟩, rfl, rfl⟩
  · simp [h]

/-- The listing below a node holds every visible site with its position, and nothing else. -/
theorem mem_visits_iff {source : Bytes} {node : Node} {p : Position} {site : Site} :
    (p, site) ∈ visits source node ↔ node.site? p = some site ∧ site.Visible source := by
  induction node using Node.inner_induction generalizing p site with
  | step node ih =>
    cases p with
    | nil =>
      rw [nil_mem_visits_iff, Node.site?, Option.some.injEq]
      constructor
      · intro h
        obtain ⟨rfl, h⟩ := h
        exact ⟨rfl, by simp, h⟩
      · intro h
        obtain ⟨rfl, h⟩ := h
        exact ⟨rfl, h.2⟩
    | cons i rest =>
      rw [cons_mem_visits_iff]
      simp only [Node.site?, Option.bind_eq_some_iff, Option.map_eq_some_iff]
      constructor
      · intro h
        obtain ⟨hopen, member, inside, hget, hmem, rfl⟩ := h
        have hin := (ih member (List.mem_of_getElem? hget)).mp hmem
        exact ⟨⟨member, hget, inside, hin.1, rfl⟩, Site.visible_under.mpr ⟨hopen, hin.2⟩⟩
      · intro h
        obtain ⟨⟨member, hget, inside, hsite, rfl⟩, hvisible⟩ := h
        obtain ⟨hopen, hin⟩ := Site.visible_under.mp hvisible
        exact ⟨hopen, member, inside, hget,
          (ih member (List.mem_of_getElem? hget)).mpr ⟨hsite, hin⟩, rfl⟩

theorem Tree.mem_visits_iff {tree : Tree} {p : Position} {site : Site} :
    (p, site) ∈ tree.visits ↔ tree.site? p = some site ∧ site.Visible tree.source := by
  unfold Tree.visits
  rw [mem_memberVisits_iff]
  cases p with
  | nil => simp [Tree.site?]
  | cons i rest =>
    simp only [Nat.zero_add, List.cons.injEq, Tree.site?, Option.bind_eq_some_iff,
      Syntax.mem_visits_iff]
    constructor
    · intro h
      obtain ⟨_, _, member, hget, ⟨rfl, rfl⟩, hsite, hvisible⟩ := h
      exact ⟨⟨member, hget, hsite⟩, hvisible⟩
    · intro h
      obtain ⟨⟨member, hget, hsite⟩, hvisible⟩ := h
      exact ⟨i, rest, member, hget, ⟨rfl, rfl⟩, hsite, hvisible⟩

theorem memberVisits_pairwise {source : Bytes} {members : List Node} (i : Nat)
    (h : ∀ member ∈ members, (visits source member).Pairwise fun a b => a.1.Before b.1) :
    (memberVisits source i members).Pairwise fun a b => a.1.Before b.1 := by
  induction members generalizing i with
  | nil => simp [memberVisits]
  | cons first others ih =>
    rw [memberVisits, List.pairwise_append]
    refine ⟨?_, ih (i + 1) fun member hmem => h member (by simp [hmem]), ?_⟩
    · rw [List.pairwise_map]
      exact (h first (by simp)).imp fun hab => hab.cons i
    · intro a ha other hb
      obtain ⟨q, site⟩ := other
      obtain ⟨visit, _, rfl⟩ := List.mem_map.mp ha
      obtain ⟨j, rest, _, _, rfl, _⟩ := mem_memberVisits_iff.mp hb
      exact before_of_lt (by omega) _ _

theorem visits_pairwise (source : Bytes) (node : Node) :
    (visits source node).Pairwise fun a b => a.1.Before b.1 := by
  induction node using Node.inner_induction with
  | step node ih =>
    rw [visits_eq, List.pairwise_append]
    refine ⟨?_, ?_, ?_⟩
    · split_ifs
      · rw [List.pairwise_map]
        exact memberVisits_pairwise 0 ih
      · exact List.Pairwise.nil
    · unfold ownVisit
      split_ifs <;> simp
    · intro visit ha other hb
      obtain ⟨p, site⟩ := visit
      obtain ⟨q, own⟩ := other
      obtain ⟨rfl, _⟩ := mem_ownVisit_iff.mp hb
      apply before_nil
      intro heq
      subst heq
      split_ifs at ha
      · simp [mem_memberVisits_iff] at ha
      · simp at ha

theorem Tree.visits_pairwise (tree : Tree) :
    tree.visits.Pairwise fun a b => a.1.Before b.1 :=
  memberVisits_pairwise 0 fun member _ => Syntax.visits_pairwise tree.source member

/-- The draft that a step asks for. -/
def Step.draft? : Step → Option Draft
  | .skip _ => none
  | .tag draft => some draft

/-- The drafts that steps ask for, in order. -/
def wanted (steps : List Step) : List Draft := steps.filterMap Step.draft?

theorem wanted_append (a b : List Step) : wanted (a ++ b) = wanted a ++ wanted b :=
  List.filterMap_append

/-- Where the members of a node stand. -/
def Surroundings.inside (source : Bytes) (around : Surroundings) (node : Node) : Surroundings :=
  { around with
    label := node.word? source
    scope := Scope.enter around.scope (node.title source) }

/-- The draft for a site: its surroundings grow from the outermost node inwards. -/
def Site.candidate? (source : Bytes) (around : Surroundings) (site : Site) : Option Draft :=
  draft? source (site.ancestors.foldl (Surroundings.inside source) around) site.node

theorem wanted_ownSteps (source : Bytes) (around : Surroundings) (node : Node) :
    wanted (ownSteps source around node) = (draft? source around node).toList := by
  unfold ownSteps
  cases draft? source around node <;> rfl

theorem wanted_steps_of_opens {source : Bytes} {node : Node} (around : Surroundings)
    (h : node.opens source) :
    wanted (steps source around node) =
      wanted (memberSteps source (around.inside source node) node.inner) ++
        (draft? source around node).toList := by
  rw [← wanted_ownSteps, ← wanted_append]
  unfold Node.opens at h
  split at h
  · rw [steps]
    simp only [h, if_true]
    rfl
  · cases h

theorem wanted_steps_of_not_opens {source : Bytes} {node : Node} (around : Surroundings)
    (h : ¬node.opens source) :
    wanted (steps source around node) = (draft? source around node).toList := by
  rw [← wanted_ownSteps]
  unfold Node.opens at h
  split at h
  · rw [steps]
    simp only [h]
    rfl
  · rw [steps]
    · rfl
    · assumption

theorem candidate?_ownVisit (source : Bytes) (around : Surroundings) (node : Node) :
    (ownVisit source node).map (fun visit => visit.2.candidate? source around) =
      (draft? source around node).toList.map some := by
  unfold ownVisit
  cases hname : node.nameSpan? <;> cases hkind : node.kind? source <;>
    simp [Site.candidate?, draft?, hname, hkind]

theorem wanted_memberSteps {source : Bytes} {members : List Node} (around : Surroundings)
    (i : Nat)
    (h : ∀ member ∈ members, (wanted (steps source around member)).map some =
      (visits source member).map fun visit => visit.2.candidate? source around) :
    (wanted (memberSteps source around members)).map some =
      (memberVisits source i members).map fun visit => visit.2.candidate? source around := by
  induction members generalizing i with
  | nil => rfl
  | cons first others ih =>
    have hrest := ih (i + 1) fun member hmem => h member (by simp [hmem])
    simp only [memberSteps, memberVisits, wanted_append, List.map_append, hrest,
      h first (by simp), List.map_map]
    rfl

/-- The walk below a node wants exactly the drafts of the visible sites, in their order. -/
theorem wanted_steps (source : Bytes) (around : Surroundings) (node : Node) :
    (wanted (steps source around node)).map some =
      (visits source node).map fun visit => visit.2.candidate? source around := by
  induction node using Node.inner_induction generalizing around with
  | step node ih =>
    rw [visits_eq, List.map_append, candidate?_ownVisit]
    by_cases h : node.opens source
    · -- the walk steps inside once, a site below starts its fold with the same node
      have hin := wanted_memberSteps (around.inside source node) 0
        fun member hmem => ih member hmem (around.inside source node)
      rw [wanted_steps_of_opens around h, List.map_append]
      simp only [h, if_true, List.map_map, hin]
      rfl
    · rw [wanted_steps_of_not_opens around h]
      simp [h]

/-- The drafts that the walk over a file wants. -/
def Tree.drafts (tree : Tree) (path : Bytes) : List Draft := wanted (tree.steps path)

theorem Tree.drafts_eq (tree : Tree) (path : Bytes) :
    (tree.drafts path).map some =
      tree.visits.map fun visit => visit.2.candidate? tree.source { path := path } :=
  wanted_memberSteps _ 0 fun member _ => wanted_steps tree.source _ member

end TagIndex.Syntax
