import Mathlib.Data.List.Nodup
import Mathlib.Data.Set.Card
import TagIndex.Proofs.ConcreteWalk

namespace TagIndex.Concrete

open Syntax (Position)

mutual

/-- Every node of a tree with its address, a node before what is below it. -/
def located (node : Concrete) : List (Position × Concrete) :=
  match node with
  | ⟨kind, named, extra, error, missing, span, field, children⟩ =>
    ([], ⟨kind, named, extra, error, missing, span, field, children⟩) :: locatedFrom 0 children
termination_by structural node

def locatedFrom (i : Nat) (nodes : List Concrete) : List (Position × Concrete) :=
  match nodes with
  | [] => []
  | node :: rest =>
    node.located.map (fun entry => (i :: entry.1, entry.2)) ++ locatedFrom (i + 1) rest
termination_by structural nodes

end

theorem located_eq (node : Concrete) :
    node.located = ([], node) :: locatedFrom 0 node.children := by
  cases node
  rfl

theorem mem_locatedFrom_iff {i : Nat} {nodes : List Concrete} {address : Position}
    {node : Concrete} :
    (address, node) ∈ locatedFrom i nodes ↔
      ∃ j child below, address = (i + j) :: below ∧ nodes[j]? = some child ∧
        (below, node) ∈ child.located := by
  induction nodes generalizing i with
  | nil => simp [locatedFrom]
  | cons first rest ih =>
    rw [locatedFrom, List.mem_append, ih]
    constructor
    · rintro (hfirst | ⟨j, child, below, rfl, hchild, hmem⟩)
      · obtain ⟨⟨below, _⟩, hmem, heq⟩ := List.mem_map.mp hfirst
        obtain ⟨rfl, rfl⟩ := Prod.mk.inj heq
        exact ⟨0, first, below, rfl, rfl, hmem⟩
      · exact ⟨j + 1, child, below, by rw [Nat.add_right_comm, Nat.add_assoc], hchild, hmem⟩
    · rintro ⟨j, child, below, rfl, hchild, hmem⟩
      cases j with
      | zero =>
        obtain rfl := Option.some.inj hchild
        exact .inl (List.mem_map.mpr ⟨(below, node), hmem, rfl⟩)
      | succ j =>
        exact .inr ⟨j, child, below, by rw [Nat.add_right_comm, Nat.add_assoc], hchild, hmem⟩

theorem mem_located_iff {root node : Concrete} {address : Position} :
    (address, node) ∈ root.located ↔ root.at? address = some node := by
  induction address generalizing root with
  | nil =>
    rw [located_eq, List.mem_cons, mem_locatedFrom_iff]
    simp [at?, eq_comm]
  | cons i below ih =>
    rw [located_eq, List.mem_cons, mem_locatedFrom_iff, at?, Option.bind_eq_some_iff]
    constructor
    · rintro (heq | ⟨j, child, rest, haddress, hchild, hmem⟩)
      · cases heq
      · rw [Nat.zero_add] at haddress
        obtain ⟨rfl, rfl⟩ := List.cons.inj haddress
        exact ⟨child, hchild, ih.mp hmem⟩
    · rintro ⟨child, hchild, hbelow⟩
      exact .inr ⟨i, child, below, by rw [Nat.zero_add], hchild, ih.mpr hbelow⟩

theorem nodup_locatedFrom {nodes : List Concrete}
    (h : ∀ node ∈ nodes, (node.located.map (·.1)).Nodup) (i : Nat) :
    ((locatedFrom i nodes).map (·.1)).Nodup := by
  induction nodes generalizing i with
  | nil => exact List.nodup_nil
  | cons node rest ih =>
    have hfirst : ((node.located.map (·.1)).map (i :: ·)).Nodup :=
      (h node (by simp)).map List.cons_injective
    have hrest := ih (fun node hmem => h node (by simp [hmem])) (i + 1)
    rw [locatedFrom, List.map_append, List.map_map]
    refine List.Nodup.append (by simpa [Function.comp_def] using hfirst) hrest ?_
    -- addresses below different children start with different numbers
    intro address hhere hthere
    obtain ⟨entry, _, rfl⟩ := List.mem_map.mp hhere
    obtain ⟨⟨_, other⟩, hmem, heq⟩ := List.mem_map.mp hthere
    obtain ⟨j, _, below, haddress, _⟩ := mem_locatedFrom_iff.mp hmem
    have hcons : (i + 1 + j) :: below = i :: entry.1 := haddress.symm.trans heq
    have hhead := (List.cons.inj hcons).1
    omega

theorem nodup_located (root : Concrete) : (root.located.map (·.1)).Nodup := by
  have ih : ∀ child ∈ root.children, (child.located.map (·.1)).Nodup :=
    fun child _ => nodup_located child
  rw [located_eq, List.map_cons, List.nodup_cons]
  refine ⟨?_, nodup_locatedFrom ih 0⟩
  intro hmem
  obtain ⟨⟨_, below⟩, hmem, heq⟩ := List.mem_map.mp hmem
  obtain ⟨j, _, _, haddress, _⟩ := mem_locatedFrom_iff.mp hmem
  exact absurd (haddress.symm.trans heq) (by simp)
termination_by sizeOf root
decreasing_by exact sizeOf_lt_of_mem_children ‹_›

/-- The nodes of a tree, each one as often as it stands there. -/
def nodes (root : Concrete) : List Concrete := root.located.map (·.2)

theorem map_snd_locatedFrom (i : Nat) (forest : List Concrete) :
    (locatedFrom i forest).map (·.2) = forest.flatMap nodes := by
  induction forest generalizing i with
  | nil => rfl
  | cons node rest ih =>
    rw [locatedFrom, List.map_append, List.map_map, ih, List.flatMap_cons]
    rfl

theorem nodes_eq (root : Concrete) : root.nodes = root :: root.children.flatMap nodes := by
  rw [nodes, located_eq, List.map_cons, map_snd_locatedFrom]

/-- The addresses of the nodes that are an error or missing. -/
def faultyPlaces (root : Concrete) : Set Position :=
  {address | ∃ node, root.at? address = some node ∧ (node.error ∨ node.missing)}

theorem ncard_faultyPlaces (root : Concrete) :
    root.faultyPlaces.ncard = root.nodes.countP isFaulty := by
  let faulty := root.located.filter (·.2.isFaulty)
  have hnodup : (faulty.map (·.1)).Nodup :=
    (nodup_located root).sublist (List.filter_sublist.map _)
  have hplaces : root.faultyPlaces = ((faulty.map (·.1)).toFinset : Set Position) := by
    ext address
    simp [faultyPlaces, faulty, mem_located_iff, isFaulty]
  calc
    root.faultyPlaces.ncard = (faulty.map (·.1)).length := by
      rw [hplaces, Set.ncard_coe_finset, List.toFinset_card_of_nodup hnodup]
    _ = root.located.countP (·.2.isFaulty) := by
      rw [List.length_map, List.countP_eq_length_filter]
    _ = root.nodes.countP isFaulty := by
      rw [nodes, List.countP_map]
      rfl

/-- Some rounds of counting, from a stack and a count to what is left of the stack and the count
then, by way of the nodes seen. A round takes a node from anywhere in the stack, counts it if it is
faulty, and puts its children where it stood. -/
inductive Rounds : List Concrete → Nat → List Concrete → List Concrete → Nat → Prop
  | rest (stack : List Concrete) (count : Nat) : Rounds stack count [] stack count
  | see (before : List Concrete) {after seen left : List Concrete} {node : Concrete}
      {count total : Nat}
      (h : Rounds (before ++ node.children ++ after)
        (if node.isFaulty then count + 1 else count) seen left total) :
      Rounds (before ++ node :: after) count (node :: seen) left total

variable {stack seen left : List Concrete} {count total : Nat}

theorem Rounds.perm (h : Rounds stack count seen left total) :
    (seen ++ left.flatMap nodes).Perm (stack.flatMap nodes) := by
  induction h with
  | rest stack count => exact .refl _
  | @see before after seen left node count total _ ih =>
    have hnode : (before ++ node :: after).flatMap nodes =
        before.flatMap nodes ++
          node :: (node.children.flatMap nodes ++ after.flatMap nodes) := by
      rw [List.flatMap_append, List.flatMap_cons, nodes_eq, List.cons_append]
    have hchildren : (before ++ node.children ++ after).flatMap nodes =
        before.flatMap nodes ++ (node.children.flatMap nodes ++ after.flatMap nodes) := by
      rw [List.flatMap_append, List.flatMap_append, List.append_assoc]
    rw [hchildren] at ih
    rw [hnode]
    exact (ih.cons node).trans List.perm_middle.symm

/-- Each round leaves one node less to be seen. -/
theorem Rounds.length_add_sizeAll (h : Rounds stack count seen left total) :
    seen.length + sizeAll left = sizeAll stack := by
  induction h with
  | rest stack count => simp
  | see before _ ih =>
    simp only [sizeAll_append, sizeAll, size_eq, List.length_cons] at ih ⊢
    omega

theorem Rounds.total_eq (h : Rounds stack count seen left total) :
    total = count + seen.countP isFaulty := by
  induction h with
  | rest stack count => rfl
  | see before _ ih =>
    rw [ih, List.countP_cons]
    split <;> omega

/-- Counting from a stack is a run that ends when nothing is left of it. -/
theorem rounds_countFaultsFrom (stack : List Concrete) (count : Nat) :
    ∃ seen, Rounds stack count seen [] (countFaultsFrom stack count) := by
  fun_induction countFaultsFrom stack count with
  | case1 count => exact ⟨[], .rest [] count⟩
  | case2 count node rest ih =>
    obtain ⟨seen, h⟩ := ih
    exact ⟨node :: seen, .see [] h⟩

theorem countFaults_eq_countP (root : Concrete) :
    root.countFaults = root.nodes.countP isFaulty := by
  obtain ⟨seen, h⟩ := rounds_countFaultsFrom [root] 0
  have hperm : seen.Perm root.nodes := by simpa using h.perm
  rw [countFaults, h.total_eq, Nat.zero_add, hperm.countP_eq]

theorem countFaults_eq_add_sum (root : Concrete) :
    root.countFaults =
      (if root.error ∨ root.missing then 1 else 0) + (root.children.map countFaults).sum := by
  have hbelow : (root.children.flatMap nodes).countP isFaulty =
      (root.children.map countFaults).sum := by
    rw [List.countP_flatMap]
    congr 1
    exact List.map_congr_left fun child _ => (countFaults_eq_countP child).symm
  rw [countFaults_eq_countP, nodes_eq, List.countP_cons, hbelow, Nat.add_comm]
  simp [isFaulty]

/-- The second tree is the first one with children put in another order, those of the root or those
of a node below it, any number of times. -/
inductive Rearranged : Concrete → Concrete → Prop
  | children (node : Concrete) {children : List Concrete} (h : node.children.Perm children) :
      Rearranged node { node with children := children }
  | deeper (node : Concrete) (before : List Concrete) {after : List Concrete}
      {child other : Concrete}
      (hchild : node.children = before ++ child :: after) (h : Rearranged child other) :
      Rearranged node { node with children := before ++ other :: after }
  | trans {first second third : Concrete} (h : Rearranged first second)
      (k : Rearranged second third) : Rearranged first third

theorem Rearranged.countFaults_eq {root other : Concrete} (h : Rearranged root other) :
    other.countFaults = root.countFaults := by
  induction h with
  | children node h =>
    rw [countFaults_eq_add_sum, countFaults_eq_add_sum node, (h.map countFaults).sum_eq]
  | deeper node before hchild _ ih =>
    rw [countFaults_eq_add_sum, countFaults_eq_add_sum node, hchild]
    simp only [List.map_append, List.map_cons, ih]
  | trans _ _ ih ih' => exact ih'.trans ih

/-- Counting ends with the number of places at which a node is an error or missing. Whichever nodes
its rounds take, each one leaves one node less to be seen, those seen are different nodes of the
tree, and the count lacks the faulty ones below the stack. The number is the sum over the children
and what the root itself adds, and the order of children does not change it. -/
theorem countFaults_sees_each_once (root : Concrete) :
    (∃ seen, Rounds [root] 0 seen [] root.countFaults ∧ seen.Perm root.nodes) ∧
    (∀ seen left count, Rounds [root] 0 seen left count →
      seen.length + sizeAll left = root.size ∧
      (seen ++ left.flatMap nodes).Perm root.nodes ∧
      count + (left.flatMap nodes).countP isFaulty = root.countFaults) ∧
    root.countFaults = root.faultyPlaces.ncard ∧
    root.countFaults =
      (if root.error ∨ root.missing then 1 else 0) + (root.children.map countFaults).sum ∧
    ∀ other, Rearranged root other → other.countFaults = root.countFaults := by
  have hperm {seen left : List Concrete} {count : Nat} (h : Rounds [root] 0 seen left count) :
      (seen ++ left.flatMap nodes).Perm root.nodes := by simpa using h.perm
  obtain ⟨seen, hrun⟩ := rounds_countFaultsFrom [root] 0
  refine ⟨⟨seen, hrun, by simpa using hperm hrun⟩, ?_, ?_, countFaults_eq_add_sum root, ?_⟩
  · intro seen left count h
    refine ⟨by simpa [sizeAll] using h.length_add_sizeAll, hperm h, ?_⟩
    rw [countFaults_eq_countP, ← (hperm h).countP_eq, List.countP_append, h.total_eq, Nat.zero_add]
  · rw [countFaults_eq_countP, ncard_faultyPlaces]
  · intro other h
    exact h.countFaults_eq

/-- A file with a comment and a declaration that breaks off before its name. The name is an error
and missing at once. -/
def brokenOff (top inside : List Concrete → List Concrete) : Concrete :=
  { kind := "source_file", span := ⟨0, 9⟩
    children := top
      [{ kind := "comment", extra := true, span := ⟨0, 2⟩ },
       { kind := "ERROR", error := true, span := ⟨3, 9⟩
         children := inside
          [{ kind := "const", named := false, span := ⟨3, 8⟩ },
           { kind := "identifier", error := true, missing := true, span := ⟨9, 9⟩ }] }] }

theorem countFaults_brokenOff :
    Rearranged (brokenOff id id) (brokenOff List.reverse List.reverse) ∧
      (brokenOff List.reverse List.reverse).countFaults = (brokenOff id id).countFaults ∧
      (brokenOff id id).faultyPlaces.ncard = 2 := by
  have hinside : Rearranged (brokenOff id id) (brokenOff id List.reverse) :=
    .deeper (brokenOff id id) [_] rfl (.children _ (List.reverse_perm _).symm)
  have htop : Rearranged (brokenOff id List.reverse) (brokenOff List.reverse List.reverse) :=
    .children (brokenOff id List.reverse) (List.reverse_perm _).symm
  obtain ⟨_, _, hplaces, _, hsame⟩ := countFaults_sees_each_once (brokenOff id id)
  have htwo : (brokenOff id id).countFaults = 2 := by decide +kernel
  exact ⟨hinside.trans htop, hsame _ (hinside.trans htop), hplaces.symm.trans htwo⟩

end TagIndex.Concrete
