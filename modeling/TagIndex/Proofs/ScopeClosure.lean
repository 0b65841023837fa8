import TagIndex.Proofs.Listing

namespace TagIndex.Syntax

/-- `owner` names the container that `draft` stands in, if it stands in one. -/
def Owns (owner draft : Draft) : Prop :=
  ∀ scope, draft.scope = some scope → ∃ label kind, draft.label = some label ∧
    containerKindOf? label = some kind ∧ owner.kind = kind.letter ∧
    Scope.enter (owner.scope.getD []) owner.name = scope

/-- The draft stands directly in the surroundings. -/
def StandsIn (around : Surroundings) (draft : Draft) : Prop :=
  draft.label = around.label.bind nonEmpty? ∧ draft.scope = nonEmpty? around.scope

/-- Every draft stands directly in the surroundings or is followed by its owner. -/
def Closed (around : Surroundings) : List Draft → Prop
  | [] => True
  | draft :: rest =>
    (StandsIn around draft ∨ ∃ owner ∈ rest, Owns owner draft) ∧ Closed around rest

theorem Closed.append {around : Surroundings} {a b : List Draft} (ha : Closed around a)
    (hb : Closed around b) : Closed around (a ++ b) := by
  induction a with
  | nil => exact hb
  | cons draft rest ih =>
    refine ⟨?_, ih ha.2⟩
    rcases ha.1 with h | ⟨owner, hmem, hown⟩
    · exact .inl h
    · exact .inr ⟨owner, List.mem_append_left b hmem, hown⟩

/-- Leaving a container: its own draft, which comes last, owns what stood directly in it. -/
theorem Closed.leave {inner outer : Surroundings} {drafts : List Draft} {owner : Draft}
    (h : Closed inner drafts) (hown : ∀ draft, StandsIn inner draft → Owns owner draft)
    (howner : StandsIn outer owner) : Closed outer (drafts ++ [owner]) := by
  induction drafts with
  | nil => exact ⟨.inl howner, trivial⟩
  | cons draft rest ih =>
    refine ⟨.inr ?_, ih h.2⟩
    rcases h.1 with hdirect | ⟨other, hmem, hother⟩
    · exact ⟨owner, by simp, hown draft hdirect⟩
    · exact ⟨other, List.mem_append_left _ hmem, hother⟩

theorem Closed.of_append {around : Surroundings} {before after : List Draft} {draft : Draft}
    (h : Closed around (before ++ draft :: after)) :
    StandsIn around draft ∨ ∃ owner ∈ after, Owns owner draft := by
  induction before with
  | nil => exact h.1
  | cons first rest ih => exact ih h.2

theorem draft?_standsIn {source : Bytes} {around : Surroundings} {node : Node} {draft : Draft}
    (h : draft? source around node = some draft) : StandsIn around draft := by
  unfold draft? at h
  split at h
  · obtain rfl := Option.some.inj h
    exact ⟨rfl, rfl⟩
  · cases h

theorem getD_nonEmpty? (bytes : Bytes) : (nonEmpty? bytes).getD [] = bytes := by
  unfold nonEmpty?
  split_ifs with h
  · exact h.symm
  · rfl

/-- The draft of an entered node owns what stands directly in its container. -/
theorem Node.Opens.owns {source : Bytes} {node : Node} (h : node.Opens source)
    (around : Surroundings) :
    ∃ owner, draft? source around node = some owner ∧
      ∀ draft, StandsIn (around.inside source node) draft → Owns owner draft := by
  have htagged := h.tagged
  obtain ⟨word, hword, hmem⟩ := h.2.2.2
  obtain ⟨kind, hkind⟩ := Option.isSome_iff_exists.mp ((containerKindOf?_isSome_iff word).mpr hmem)
  obtain ⟨span, hspan⟩ := Option.isSome_iff_exists.mp htagged.2.1
  have hnode : node.kind? source = some kind := by rw [h.kind?_eq, hword, Option.bind_some, hkind]
  unfold draft?
  rw [htagged.nameSpan?_eq, hspan, hnode]
  refine ⟨_, rfl, ?_⟩
  intro draft hstands scope hsome
  obtain ⟨hlabel, hscope⟩ := hstands
  refine ⟨word, kind, ?_, hkind, rfl, ?_⟩
  · rw [hlabel]
    simp [Surroundings.inside, hword, nonEmpty?, h.word_ne_nil hword]
  · have htitle : node.title source = span.text source := by simp [Node.title, hspan]
    have hpath := getD_nonEmpty? (around.inside source node).scope
    rw [← hscope, hsome, Option.getD_some] at hpath
    rw [getD_nonEmpty?, ← htitle]
    exact hpath.symm

theorem memberSteps_closed {source : Bytes} {around : Surroundings} {members : List Node}
    (h : ∀ member ∈ members, Closed around (wanted (steps source around member))) :
    Closed around (wanted (memberSteps source around members)) := by
  induction members with
  | nil => trivial
  | cons first others ih =>
    rw [memberSteps, wanted_append]
    exact (h first (by simp)).append (ih fun member hmem => h member (by simp [hmem]))

/-- What the walk makes below a node is closed but for the node's own level. -/
theorem steps_closed (source : Bytes) (around : Surroundings) (node : Node) :
    Closed around (wanted (steps source around node)) := by
  induction node using Node.inner_induction generalizing around with
  | step node ih =>
    by_cases h : node.opens source
    · have hopen := (Node.opens_iff source node).mp h
      obtain ⟨owner, howner, howns⟩ := hopen.owns around
      have hmembers := memberSteps_closed fun member hmem =>
        ih member hmem (around.inside source node)
      -- the node's own draft is made last, so it stands behind all that it owns
      rw [wanted_steps_of_opens around h, howner]
      exact hmembers.leave howns (draft?_standsIn howner)
    · rw [wanted_steps_of_not_opens around h]
      cases hdraft : draft? source around node with
      | none => trivial
      | some draft => exact ⟨.inl (draft?_standsIn hdraft), trivial⟩

theorem Tree.drafts_closed (tree : Tree) (path : Bytes) :
    Closed { path := path } (tree.drafts path) :=
  memberSteps_closed fun member _ => steps_closed tree.source _ member

/-- A tag inside a container has the container's tag behind it. -/
theorem Tree.owner_of_enclosure {tree : Tree} {path : Bytes} {before after : List Tag} {tag : Tag}
    {enclosure : Enclosure} (h : tree.drafts path = (before ++ tag :: after).map Tag.draft)
    (hscoped : tag.enclosure = some enclosure) :
    ∃ owner ∈ after, containerKindOf? enclosure.label = some owner.kind ∧
      Scope.enter ((owner.enclosure.map (·.path)).getD []) owner.name = enclosure.path := by
  have hclosed := tree.drafts_closed path
  rw [h, List.map_append, List.map_cons] at hclosed
  have hscope : tag.draft.scope = some enclosure.path := by simp [Tag.draft, hscoped]
  rcases hclosed.of_append with ⟨_, htop⟩ | ⟨draft, hmem, hown⟩
  · rw [hscope] at htop
    cases htop
  · obtain ⟨owner, hafter, rfl⟩ := List.mem_map.mp hmem
    obtain ⟨label, kind, hlabel, hkind, hletter, hpath⟩ := hown enclosure.path hscope
    have hsame : label = enclosure.label := by simpa [Tag.draft, hscoped] using hlabel.symm
    have hown : owner.kind = kind := by
      have hread := Kind.ofLetter?_letter owner.kind
      rw [show owner.kind.letter = kind.letter from hletter, Kind.ofLetter?_letter] at hread
      exact (Option.some.inj hread).symm
    exact ⟨owner, hafter, by rw [← hsame, hkind, hown], hpath⟩

end TagIndex.Syntax

namespace TagIndex.Session

open Syntax (Tree containerKindOf? nestedContainers)

/-- No member is indexed under a container that is not indexed itself. -/
theorem extract_indexes_owners (session done : Session) (tree : Tree) (path : Bytes)
    (count : Nat) (h : session.extract tree path = (.ok count, done)) :
    ∃ positions tags, tree.Listing path positions tags ∧
      done.sink.held = session.sink.held ++ (tags.map Tag.line).flatten ∧
      ∀ before tag after enclosure, tags = before ++ tag :: after →
        tag.enclosure = some enclosure →
        enclosure.label ∈
          [Bytes.ofString "struct", Bytes.ofString "union", Bytes.ofString "enum"] ∧
        ∃ owner ∈ after, containerKindOf? enclosure.label = some owner.kind ∧
          Scope.enter ((owner.enclosure.map (·.path)).getD []) owner.name = enclosure.path := by
  obtain ⟨tags, hdrafts, hwrote, _⟩ := extract_ok h
  refine ⟨_, tags, Tree.listing_of_drafts_eq hdrafts, hwrote.held, ?_⟩
  intro before tag after enclosure heq hscoped
  subst heq
  obtain ⟨owner, hafter, hkind, hpath⟩ := Tree.owner_of_enclosure hdrafts hscoped
  refine ⟨?_, owner, hafter, hkind, hpath⟩
  rw [← Syntax.containerKindOf?_isSome_iff, hkind]
  rfl

/-- The owner of `b`, whose scope is `S.E`, is the enum `E` behind it. -/
theorem extract_nestedContainers_owners :
    let run := extract {} nestedContainers (Bytes.ofString "a.zig")
    let outer : Enclosure := ⟨Bytes.ofString "struct", Bytes.ofString "S"⟩
    let inner : Enclosure := ⟨Bytes.ofString "enum", Bytes.ofString "S.E"⟩
    run.1 = .ok 4 ∧ ∃ tags : List Tag, (tags.map Tag.line).flatten = run.2.sink.held ∧
      tags.map (fun tag => (tag.name, tag.kind, tag.enclosure)) =
        [(Bytes.ofString "a", .member, some outer), (Bytes.ofString "b", .enumerant, some inner),
          (Bytes.ofString "E", .enumType, some outer), (Bytes.ofString "S", .structType, none)] ∧
      ∃ owner ∈ tags.drop 2, owner.kind = .enumType ∧
        Scope.enter ((owner.enclosure.map (·.path)).getD []) owner.name = Bytes.ofString "S.E" := by
  intro run outer inner
  have hrun : run.1 = .ok 4 := by rfl
  obtain ⟨positions, tags, hlisting, hheld, howners⟩ := extract_indexes_owners {} run.2
    nestedContainers (Bytes.ofString "a.zig") 4 (Prod.ext hrun rfl)
  obtain ⟨_, htags⟩ := listing_nestedContainers hlisting
  refine ⟨hrun, tags, hheld.symm, htags, ?_⟩
  obtain ⟨a, _, rfl, _, hrest⟩ := List.map_eq_cons_iff.mp htags
  obtain ⟨b, rest, rfl, hb, _⟩ := List.map_eq_cons_iff.mp hrest
  obtain ⟨_, _, henclosure⟩ : b.name = _ ∧ b.kind = _ ∧ b.enclosure = some inner := by
    simpa only [Prod.mk.injEq] using hb
  obtain ⟨_, owner, hmem, hkind, hpath⟩ := howners [a] b rest inner rfl henclosure
  exact ⟨owner, hmem, (Option.some.inj hkind).symm, hpath⟩

end TagIndex.Session
