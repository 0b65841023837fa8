import TagIndex.Proofs.Draft
import TagIndex.Proofs.Run
import TagIndex.Proofs.ScopePath

namespace TagIndex.Syntax

/-- The record at a site. Inside containers the scope is the dotted path of their names, and the
label is the keyword of the innermost one. -/
def Site.record? (source path : Bytes) (site : Site) : Option Draft :=
  match site.node.name, site.node.kind? source with
  | some span, some kind => some
    { name := span.text source
      path := path
      pattern := Text.escape (Text.lineAt source span.start)
      kind := kind.letter
      label := site.ancestors.getLast?.bind (·.word? source)
      scope :=
        if site.ancestors.isEmpty then none
        else some (Bytes.join [Scope.dot] (site.ancestors.map (·.title source))) }
  | _, _ => none

/-- The tag at a position of a file. -/
def Tree.tag? (tree : Tree) (path : Bytes) (p : Position) : Option Tag :=
  (tree.site? p).bind fun site =>
    (site.record? tree.source path).bind fun draft => draft.check.toOption

/-- All visible positions of a file in post-order, and the tags at them. -/
structure Tree.Listing (tree : Tree) (path : Bytes) (positions : List Position)
    (tags : List Tag) : Prop where
  visible : ∀ p, p ∈ positions ↔ tree.Visible p
  ordered : positions.Pairwise Position.Before
  tagged : positions.map (tree.tag? path) = tags.map some

/-- No node at a visible position has an empty name. -/
def Tree.Named (tree : Tree) : Prop :=
  ∀ p site, tree.site? p = some site → site.Visible tree.source → site.node.title tree.source ≠ []

theorem Node.site?_ancestor {node : Node} {p : Position} {site : Site} {ancestor : Node}
    (h : node.site? p = some site) (hmem : ancestor ∈ site.ancestors) :
    ∃ q outer rest, site.ancestors = outer ++ ancestor :: rest ∧
      node.site? q = some ⟨outer, ancestor⟩ := by
  induction p generalizing node site with
  | nil =>
    obtain rfl := Option.some.inj h
    cases hmem
  | cons i below ih =>
    simp only [Node.site?, Option.bind_eq_some_iff, Option.map_eq_some_iff] at h
    obtain ⟨member, hget, inside, hinside, rfl⟩ := h
    rcases List.mem_cons.mp hmem with rfl | hmem
    · exact ⟨[], [], inside.ancestors, rfl, rfl⟩
    · obtain ⟨q, outer, rest, heq, hq⟩ := ih hinside hmem
      refine ⟨i :: q, node :: outer, rest, by simp [Site.under, heq], ?_⟩
      simp [Node.site?, hget, hq, Site.under]

/-- The nodes around a visible site are visible themselves. -/
theorem Tree.visible_ancestor {tree : Tree} {p : Position} {site : Site} {ancestor : Node}
    (h : tree.site? p = some site) (hvisible : site.Visible tree.source)
    (hmem : ancestor ∈ site.ancestors) :
    ∃ q outer, tree.site? q = some ⟨outer, ancestor⟩ ∧
      Site.Visible tree.source ⟨outer, ancestor⟩ := by
  cases p with
  | nil => cases h
  | cons i below =>
    obtain ⟨declaration, hget, hsite⟩ := Option.bind_eq_some_iff.mp h
    obtain ⟨q, outer, rest, heq, hq⟩ := Node.site?_ancestor hsite hmem
    refine ⟨i :: q, outer, by simp [Tree.site?, hget, hq], ?_, (hvisible.1 ancestor hmem).tagged⟩
    intro node hnode
    exact hvisible.1 node (by simp [heq, hnode])

theorem foldl_inside (source : Bytes) (around : Surroundings) (nodes : List Node) :
    nodes.foldl (Surroundings.inside source) around =
      { path := around.path
        label := (nodes.getLast?.map (·.word? source)).getD around.label
        scope := (nodes.map (·.title source)).foldl Scope.enter around.scope } := by
  induction nodes generalizing around with
  | nil => rfl
  | cons node rest ih =>
    rw [List.foldl_cons, ih, List.getLast?_cons]
    cases rest.getLast? <;> rfl

theorem Node.Tagged.nameSpan?_eq {source : Bytes} {node : Node} (h : node.Tagged source) :
    node.nameSpan? = node.name := by
  unfold Node.nameSpan?
  obtain ⟨hshape, _⟩ := h
  cases hs : node.shape <;> simp_all

theorem Node.Opens.word_ne_nil {source word : Bytes} {node : Node} (h : node.Opens source)
    (hword : node.word? source = some word) : word ≠ [] := by
  obtain ⟨_, _, _, found, hfound, hmem⟩ := h
  obtain rfl := Option.some.inj (hword.symm.trans hfound)
  intro heq
  subst heq
  revert hmem
  decide

/-- Where no name around a site is empty, the walk makes the site's record. -/
theorem Site.candidate?_eq_record? {source : Bytes} {site : Site} (path : Bytes)
    (h : site.Visible source) (hnames : ∀ node ∈ site.ancestors, node.title source ≠ []) :
    site.candidate? source { path := path } = site.record? source path := by
  obtain ⟨hopens, htagged⟩ := h
  obtain ⟨span, hspan⟩ := Option.isSome_iff_exists.mp htagged.2.1
  obtain ⟨kind, hkind⟩ := Option.isSome_iff_exists.mp htagged.2.2
  unfold Site.candidate? Site.record? draft?
  rw [htagged.nameSpan?_eq, foldl_inside, hspan, hkind]
  have hscope : (site.ancestors.map (·.title source)).foldl Scope.enter [] =
      Bytes.join [Scope.dot] (site.ancestors.map (·.title source)) := by
    apply Scope.foldl_enter_of_forall_ne_nil
    simpa using hnames
  have hlabel : ((site.ancestors.getLast?.map (·.word? source)).getD (some [])).bind nonEmpty? =
      site.ancestors.getLast?.bind (·.word? source) := by
    cases hlast : site.ancestors.getLast? with
    | none => rfl
    | some last =>
      have hopen := hopens last (List.mem_of_getLast? hlast)
      cases hword : last.word? source with
      | none => simp [hword]
      | some word => simp [hword, nonEmpty?, hopen.word_ne_nil hword]
  have hpath : nonEmpty? (Bytes.join [Scope.dot] (site.ancestors.map (·.title source))) =
      if site.ancestors.isEmpty then none
      else some (Bytes.join [Scope.dot] (site.ancestors.map (·.title source))) := by
    by_cases hempty : site.ancestors = []
    · simp [hempty, Bytes.join, nonEmpty?]
    · have hne : Bytes.join [Scope.dot] (site.ancestors.map (·.title source)) ≠ [] :=
        Scope.join_ne_nil (by simpa using hempty) (by simpa using hnames)
      simp [hempty, nonEmpty?, hne]
  simp only [hscope, hlabel, hpath]

/-- At a visible site there is a draft, with the name, the line and a kind of the node. -/
theorem Site.Visible.exists_candidate {source : Bytes} {site : Site} (h : site.Visible source)
    (around : Surroundings) :
    ∃ draft span, site.candidate? source around = some draft ∧ site.node.name = some span ∧
      draft.name = span.text source ∧
      draft.pattern = Text.escape (Text.lineAt source span.start) ∧
      ∃ kind : Kind, draft.kind = kind.letter := by
  obtain ⟨_, htagged⟩ := h
  obtain ⟨span, hspan⟩ := Option.isSome_iff_exists.mp htagged.2.1
  obtain ⟨kind, hkind⟩ := Option.isSome_iff_exists.mp htagged.2.2
  unfold Site.candidate? draft?
  rw [htagged.nameSpan?_eq, hspan, hkind]
  exact ⟨_, span, rfl, rfl, rfl, rfl, kind, rfl⟩

theorem Tree.mem_drafts_iff {tree : Tree} {path : Bytes} {draft : Draft} :
    draft ∈ tree.drafts path ↔
      ∃ p site, tree.site? p = some site ∧ site.Visible tree.source ∧
        site.candidate? tree.source { path := path } = some draft := by
  have hmem : draft ∈ tree.drafts path ↔ some draft ∈ (tree.drafts path).map some := by simp
  rw [hmem, Tree.drafts_eq, List.mem_map]
  constructor
  · intro h
    obtain ⟨⟨p, site⟩, hvisit, hcandidate⟩ := h
    obtain ⟨hsite, hvisible⟩ := Tree.mem_visits_iff.mp hvisit
    exact ⟨p, site, hsite, hvisible, hcandidate⟩
  · intro h
    obtain ⟨p, site, hsite, hvisible, hcandidate⟩ := h
    exact ⟨(p, site), Tree.mem_visits_iff.mpr ⟨hsite, hvisible⟩, hcandidate⟩

/-- Drafts that pass the checks leave no visible node without a name. -/
theorem Tree.named_of_checked {tree : Tree} {path : Bytes}
    (h : ∀ draft ∈ tree.drafts path, ∃ tag, draft.check = .ok tag) : tree.Named := by
  intro p site hsite hvisible
  obtain ⟨draft, span, hcandidate, hspan, hname, _⟩ := hvisible.exists_candidate { path := path }
  have hchecked := h draft (Tree.mem_drafts_iff.mpr ⟨p, site, hsite, hvisible, hcandidate⟩)
  have hne := (Draft.check_isOk_iff.mp hchecked).1
  simpa [Node.title, hspan, hname] using hne

theorem Tree.Named.candidate?_eq_record? {tree : Tree} (h : tree.Named) {p : Position}
    {site : Site} (path : Bytes) (hsite : tree.site? p = some site)
    (hvisible : site.Visible tree.source) :
    site.candidate? tree.source { path := path } = site.record? tree.source path := by
  apply Site.candidate?_eq_record? path hvisible
  intro node hnode
  obtain ⟨q, outer, hq, hv⟩ := Tree.visible_ancestor hsite hvisible hnode
  exact h q _ hq hv

theorem Site.Visible.record?_parts {source path : Bytes} {site : Site} {draft : Draft}
    (h : site.Visible source) (hrecord : site.record? source path = some draft) :
    draft.label.isSome = draft.scope.isSome := by
  unfold Site.record? at hrecord
  split at hrecord
  · obtain rfl := Option.some.inj hrecord
    cases hlast : site.ancestors.getLast? with
    | none => simp [List.getLast?_eq_none_iff.mp hlast]
    | some last =>
      have hmem := List.mem_of_getLast? hlast
      obtain ⟨_, _, _, word, hword, _⟩ := h.1 last hmem
      have hne : site.ancestors ≠ [] := List.ne_nil_of_mem hmem
      simp [hword, hne]
  · cases hrecord

/-- The drafts of a file all pass exactly if each visible node has a name and stands on a line that
is not empty. -/
theorem Tree.checked_iff {tree : Tree} {path : Bytes} :
    (∀ draft ∈ tree.drafts path, ∃ tag, draft.check = .ok tag) ↔
      ∀ p site span, tree.site? p = some site → site.Visible tree.source →
        site.node.name = some span →
        span.text tree.source ≠ [] ∧ Text.lineAt tree.source span.start ≠ [] := by
  constructor
  · intro h p site span hsite hvisible hspan
    obtain ⟨draft, found, hcandidate, hfound, hname, hpattern, _⟩ :=
      hvisible.exists_candidate { path := path }
    obtain rfl := Option.some.inj (hspan.symm.trans hfound)
    have hmem := Tree.mem_drafts_iff.mpr ⟨p, site, hsite, hvisible, hcandidate⟩
    obtain ⟨hne, hline, _⟩ := Draft.check_isOk_iff.mp (h draft hmem)
    rw [hname] at hne
    rw [hpattern, ne_eq, Text.escape_eq_nil_iff] at hline
    exact ⟨hne, hline⟩
  · intro h draft hmem
    have hnamed : tree.Named := by
      intro p site hsite hvisible
      obtain ⟨span, hspan⟩ := Option.isSome_iff_exists.mp hvisible.2.2.1
      simpa [Node.title, hspan] using (h p site span hsite hvisible hspan).1
    obtain ⟨p, site, hsite, hvisible, hcandidate⟩ := Tree.mem_drafts_iff.mp hmem
    obtain ⟨same, span, hsame, hspan, hname, hpattern, hkind⟩ :=
      hvisible.exists_candidate { path := path }
    obtain rfl := Option.some.inj (hcandidate.symm.trans hsame)
    obtain ⟨htext, hline⟩ := h p site span hsite hvisible hspan
    -- the scope is there whenever the label is, because no name around the site is empty
    rw [hnamed.candidate?_eq_record? path hsite hvisible] at hcandidate
    refine Draft.check_isOk_iff.mpr ⟨?_, ?_, hkind, hvisible.record?_parts hcandidate⟩
    · rw [hname]
      exact htext
    · rw [hpattern, ne_eq, Text.escape_eq_nil_iff]
      exact hline

theorem Tree.named_of_drafts_eq {tree : Tree} {path : Bytes} {tags : List Tag}
    (h : tree.drafts path = tags.map Tag.draft) : tree.Named := by
  refine Tree.named_of_checked fun draft (hmem : draft ∈ tree.drafts path) => ?_
  rw [h] at hmem
  obtain ⟨tag, _, rfl⟩ := List.mem_map.mp hmem
  exact ⟨tag, Draft.check_draft tag⟩

/-- Where all drafts pass, the visible sites have the records of the tags. -/
theorem Tree.records_of_drafts_eq {tree : Tree} {path : Bytes} {tags : List Tag}
    (h : tree.drafts path = tags.map Tag.draft) :
    (tree.visits.map Prod.snd).map (·.record? tree.source path) =
      tags.map fun tag => some tag.draft := by
  have hnamed := Tree.named_of_drafts_eq h
  have hrecords : (tree.visits.map Prod.snd).map (·.record? tree.source path) =
      tree.visits.map fun visit => visit.2.candidate? tree.source { path := path } := by
    rw [List.map_map]
    apply List.map_congr_left
    intro visit hvisit
    obtain ⟨p, site⟩ := visit
    obtain ⟨hsite, hvisible⟩ := Tree.mem_visits_iff.mp hvisit
    exact (hnamed.candidate?_eq_record? path hsite hvisible).symm
  rw [hrecords, ← Tree.drafts_eq, h, List.map_map]
  rfl

/-- A file whose drafts all pass is listed by its visible positions. -/
theorem Tree.listing_of_drafts_eq {tree : Tree} {path : Bytes} {tags : List Tag}
    (h : tree.drafts path = tags.map Tag.draft) :
    tree.Listing path (tree.visits.map Prod.fst) tags := by
  refine ⟨?_, List.pairwise_map.mpr tree.visits_pairwise, ?_⟩
  · intro p
    simp [Tree.Visible, Tree.mem_visits_iff]
  · have htags : (tree.visits.map Prod.fst).map (tree.tag? path) =
        ((tree.visits.map Prod.snd).map (·.record? tree.source path)).map
          (·.bind fun draft => draft.check.toOption) := by
      rw [List.map_map, List.map_map, List.map_map]
      apply List.map_congr_left
      intro visit hvisit
      obtain ⟨p, site⟩ := visit
      obtain ⟨hsite, _⟩ := Tree.mem_visits_iff.mp hvisit
      simp only [Function.comp, Tree.tag?, hsite, Option.bind_some]
    rw [htags, Tree.records_of_drafts_eq h, List.map_map]
    simp [Function.comp_def, Except.toOption]

theorem Tree.Listing.nodup {tree : Tree} {path : Bytes} {positions : List Position}
    {tags : List Tag} (h : tree.Listing path positions tags) : positions.Nodup := by
  refine h.ordered.imp ?_
  intro p _ hbefore heq
  subst heq
  exact Position.Before.irrefl p hbefore

/-- A file has one listing. -/
theorem Tree.Listing.unique {tree : Tree} {path : Bytes} {positions others : List Position}
    {tags labels : List Tag} (h : tree.Listing path positions tags)
    (k : tree.Listing path others labels) : positions = others ∧ tags = labels := by
  have hperm : positions.Perm others :=
    (List.perm_ext_iff_of_nodup h.nodup k.nodup).mpr fun p => (h.visible p).trans (k.visible p).symm
  have hsame : positions = others :=
    hperm.eq_of_pairwise (fun p q _ _ hpq hqp => absurd hqp hpq.asymm) h.ordered k.ordered
  subst hsame
  refine ⟨rfl, ?_⟩
  exact (List.map_inj_right fun _ _ heq => Option.some.inj heq).mp (h.tagged.symm.trans k.tagged)

theorem Tree.Listing.length_eq {tree : Tree} {path : Bytes} {positions : List Position}
    {tags : List Tag} (h : tree.Listing path positions tags) : positions.length = tags.length := by
  simpa using congrArg List.length h.tagged

/-- The declarations of `const S = struct { a: u8, const E = enum { b }; };`. -/
def nestedContainers : Tree :=
  { source := Bytes.ofString "const S = struct \x7b a: u8, const E = enum \x7b b \x7d; \x7d;"
    declarations :=
      [{ shape := .binding, name := some ⟨6, 7⟩
         init := some
          { shape := .container, keyword := some ⟨10, 16⟩
            members :=
              [{ shape := .field, name := some ⟨19, 20⟩, typed := true },
               { shape := .binding, name := some ⟨32, 33⟩
                 init := some
                  { shape := .container, keyword := some ⟨36, 40⟩
                    members := [{ shape := .field, name := some ⟨43, 44⟩ }] } }] } }] }

end TagIndex.Syntax

namespace TagIndex.Session

open Syntax (Tree nestedContainers)

/-- Tagging a file to its end adds the lines of the records at the visible positions, in post-order
and each once, and counts them. -/
theorem extract_writes_postorder (session done : Session) (tree : Tree) (path : Bytes)
    (count : Nat) (h : session.extract tree path = (.ok count, done)) :
    ∃ positions tags, tree.Listing path positions tags ∧ positions.Nodup ∧
      done.sink.held = session.sink.held ++ (tags.map Tag.line).flatten ∧
      count = positions.length ∧ done.written = session.written + positions.length := by
  obtain ⟨tags, hdrafts, hwrote, rfl⟩ := extract_ok h
  have hlisting := Tree.listing_of_drafts_eq hdrafts
  refine ⟨_, tags, hlisting, hlisting.nodup, hwrote.held, hlisting.length_eq.symm, ?_⟩
  rw [hlisting.length_eq]
  exact hwrote.written

theorem listing_nestedContainers {positions : List Syntax.Position} {tags : List Tag}
    (h : nestedContainers.Listing (Bytes.ofString "a.zig") positions tags) :
    let outer : Enclosure := ⟨Bytes.ofString "struct", Bytes.ofString "S"⟩
    let inner : Enclosure := ⟨Bytes.ofString "enum", Bytes.ofString "S.E"⟩
    positions = [[0, 0], [0, 1, 0], [0, 1], [0]] ∧
      tags.map (fun tag => (tag.name, tag.kind, tag.enclosure)) =
        [(Bytes.ofString "a", .member, some outer), (Bytes.ofString "b", .enumerant, some inner),
          (Bytes.ofString "E", .enumType, some outer),
          (Bytes.ofString "S", .structType, none)] := by
  intro outer inner
  have hrun : (extract {} nestedContainers (Bytes.ofString "a.zig")).1 = .ok 4 := by rfl
  obtain ⟨made, hdrafts, _, _⟩ := extract_ok (Prod.ext hrun rfl)
  obtain ⟨rfl, hmade⟩ := h.unique (Tree.listing_of_drafts_eq hdrafts)
  let fields (tag : Tag) := (tag.name, tag.kind, tag.enclosure)
  let checked (draft : Draft) := draft.check.toOption.map fields
  have hchecked : checked ∘ Tag.draft = some ∘ fields := by
    funext tag
    simp [checked, Except.toOption]
  have hfields : tags.map fields =
      (nestedContainers.drafts (Bytes.ofString "a.zig")).filterMap checked := by
    rw [hmade, hdrafts, List.filterMap_map, hchecked, List.filterMap_eq_map]
  exact ⟨by decide +kernel, hfields.trans (by decide +kernel +zetaReduce)⟩

/-- Members come before the binding of their container: `a`, then `b` and its `E`, then `S`. -/
theorem extract_nestedContainers :
    let path := Bytes.ofString "a.zig"
    let run := extract {} nestedContainers path
    let search := Bytes.ofString
      "\ta.zig\t/^const S = struct \x7b a: u8, const E = enum \x7b b \x7d; \x7d;$/;\""
    run.1 = .ok 4 ∧ run.2.written = 4 ∧
    run.2.sink.held =
      Bytes.ofString "a" ++ search ++ Bytes.ofString "\tm\tstruct:S\n" ++
      (Bytes.ofString "b" ++ search ++ Bytes.ofString "\te\tenum:S.E\n") ++
      (Bytes.ofString "E" ++ search ++ Bytes.ofString "\tg\tstruct:S\n") ++
      (Bytes.ofString "S" ++ search ++ Bytes.ofString "\ts\n") ∧
    ∃ tags, nestedContainers.Listing path [[0, 0], [0, 1, 0], [0, 1], [0]] tags ∧
      (tags.map Tag.line).flatten = run.2.sink.held := by
  intro path run search
  have hrun : run.1 = .ok 4 := by rfl
  obtain ⟨positions, tags, hlisting, _, hheld, _, hwritten⟩ :=
    extract_writes_postorder {} run.2 nestedContainers path 4 (Prod.ext hrun rfl)
  obtain ⟨rfl, _⟩ := listing_nestedContainers hlisting
  exact ⟨hrun, hwritten, by decide +kernel +zetaReduce, tags, hlisting, hheld.symm⟩

end TagIndex.Session
