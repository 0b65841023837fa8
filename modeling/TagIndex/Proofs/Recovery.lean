import TagIndex.Concrete.Lower
import TagIndex.Proofs.Listing

namespace TagIndex

/-- The span lies in a source of the given length. -/
def Span.Inside (length : Nat) (span : Span) : Prop :=
  0 ≤ span.start ∧ span.start ≤ span.stop ∧ span.stop ≤ length

instance (length : Nat) (span : Span) : Decidable (span.Inside length) :=
  inferInstanceAs (Decidable (_ ∧ _ ∧ _))

theorem Span.Inside.length_text {source : Bytes} {span : Span} (h : span.Inside source.length) :
    (span.text source).length = (span.stop - span.start).toNat := by
  obtain ⟨hstart, hle, hstop⟩ := h
  have hi : Bytes.place source.length span.start = span.start.toNat := by
    unfold Bytes.place
    split_ifs <;> omega
  have hj : Bytes.place source.length span.stop = span.stop.toNat := by
    unfold Bytes.place
    split_ifs <;> omega
  simp only [Span.text, Bytes.slice, hi, hj, List.length_take, List.length_drop]
  omega

theorem Span.Inside.text_ne_nil_iff {source : Bytes} {span : Span}
    (h : span.Inside source.length) : span.text source ≠ [] ↔ span.start < span.stop := by
  rw [← List.length_pos_iff, h.length_text]
  omega

namespace Concrete

/-- The node is the root or lies below it. -/
inductive Holds (root : Concrete) : Concrete → Prop
  | root : Holds root root
  | child {node child : Concrete} (h : Holds root node) (hmem : child ∈ node.children) :
      Holds root child

theorem Holds.trans {root node below : Concrete} (h : root.Holds node) (k : node.Holds below) :
    root.Holds below := by
  induction k with
  | root => exact h
  | child _ hmem ih => exact .child ih hmem

theorem holds_iff {root node : Concrete} :
    root.Holds node ↔ node = root ∨ ∃ child ∈ root.children, child.Holds node := by
  constructor
  · intro h
    induction h with
    | root => exact .inl rfl
    | child _ hmem ih =>
      rcases ih with rfl | ⟨top, htop, hbelow⟩
      · exact .inr ⟨_, hmem, .root⟩
      · exact .inr ⟨top, htop, .child hbelow hmem⟩
  · intro h
    rcases h with rfl | ⟨child, hmem, h⟩
    · exact .root
    · exact Holds.trans (.child .root hmem) h

theorem Holds.eq_of_childless {root node : Concrete} (h : root.Holds node)
    (hleaf : root.children = []) : node = root := by
  rcases holds_iff.mp h with heq | ⟨child, hmem, _⟩
  · exact heq
  · rw [hleaf] at hmem
    cases hmem

theorem inField?_mem {role : String} {children : List Concrete} {child : Concrete}
    (h : inField? role children = some child) : child ∈ children := List.mem_of_find?_eq_some h

theorem identifier?_eq_some {children : List Concrete} {span : Span}
    (h : identifier? children = some span) : ∃ child ∈ children, child.span = span := by
  obtain ⟨child, hfound, hspan⟩ := Option.map_eq_some_iff.mp h
  exact ⟨child, List.mem_of_find?_eq_some hfound, hspan⟩

theorem functionName?_eq_some {children : List Concrete} {span : Span}
    (h : functionName? children = some span) : ∃ child ∈ children, child.span = span := by
  unfold functionName? at h
  split at h
  · rename_i name hname
    exact ⟨name, inField?_mem hname, Option.some.inj h⟩
  · exact identifier?_eq_some h

theorem name_lowerField {children : List Concrete} {span : Span}
    (h : (lowerField children).name = some span) : ∃ child ∈ children, child.span = span := by
  unfold lowerField at h
  cases hname : inField? "name" children with
  | some name =>
    rw [hname] at h
    exact ⟨name, inField?_mem hname, Option.some.inj h⟩
  | none =>
    cases htype : inField? "type" children with
    | none => simp [hname, htype] at h
    | some type =>
      simp only [hname, htype] at h
      split_ifs at h
      exact ⟨type, inField?_mem htype, Option.some.inj h⟩

theorem lowerField_childless (children : List Concrete) :
    (lowerField children).init = none ∧ (lowerField children).members = [] := by
  unfold lowerField
  split
  · exact ⟨rfl, rfl⟩
  · split_ifs <;> exact ⟨rfl, rfl⟩
  · exact ⟨rfl, rfl⟩

/-- A lowered node is named by a child of the node that it comes from. -/
theorem name_lower {source : Bytes} {node : Concrete} {span : Span}
    (h : (lower source node).name = some span) : ∃ child ∈ node.children, child.span = span := by
  rcases node with ⟨kind, named, extra, error, missing, place, field, children⟩
  unfold lower at h
  split_ifs at h
  · exact functionName?_eq_some h
  · exact identifier?_eq_some h
  · exact name_lowerField h

theorem lowerInit_eq_some {source : Bytes} {behind : Bool} {children : List Concrete}
    {init : Syntax.Node} (h : lowerInit source behind children = some init) :
    ∃ child ∈ children, init = lower source child := by
  induction children generalizing behind with
  | nil => simp [lowerInit] at h
  | cons child rest ih =>
    unfold lowerInit at h
    split_ifs at h
    · exact ⟨child, List.mem_cons_self, (Option.some.inj h).symm⟩
    · obtain ⟨found, hmem, hinit⟩ := ih h
      exact ⟨found, List.mem_cons_of_mem child hmem, hinit⟩

theorem mem_lowerMembers {source : Bytes} {children : List Concrete} {member : Syntax.Node}
    (h : member ∈ lowerMembers source children) :
    ∃ child ∈ children, member = lower source child := by
  induction children with
  | nil => simp [lowerMembers] at h
  | cons child rest ih =>
    have hcases : member = lower source child ∨ member ∈ lowerMembers source rest := by
      unfold lowerMembers at h
      split_ifs at h
      · exact List.mem_cons.mp h
      · exact .inr h
    rcases hcases with rfl | hrest
    · exact ⟨child, List.mem_cons_self, rfl⟩
    · obtain ⟨found, hmem, hmember⟩ := ih hrest
      exact ⟨found, List.mem_cons_of_mem child hmem, hmember⟩

theorem init_lower {source : Bytes} {node : Concrete} {init : Syntax.Node}
    (h : (lower source node).init = some init) :
    ∃ child ∈ node.children, init = lower source child := by
  rcases node with ⟨kind, named, extra, error, missing, place, field, children⟩
  unfold lower at h
  split_ifs at h
  · exact lowerInit_eq_some h
  · rw [(lowerField_childless children).1] at h
    cases h

theorem members_lower {source : Bytes} {node : Concrete} {member : Syntax.Node}
    (h : member ∈ (lower source node).members) :
    ∃ child ∈ node.children, member = lower source child := by
  rcases node with ⟨kind, named, extra, error, missing, place, field, children⟩
  unfold lower at h
  split_ifs at h
  · cases h
  · cases h
  · exact mem_lowerMembers h
  · rw [(lowerField_childless children).2] at h
    cases h
  · cases h
  · cases h
  · cases h

/-- The members that the walk meets below a lowered node come from below its origin. -/
theorem inner_lower {source : Bytes} {node : Concrete} {member : Syntax.Node}
    (h : member ∈ (lower source node).inner) :
    ∃ origin, node.Holds origin ∧ member = lower source origin := by
  unfold Syntax.Node.inner at h
  split at h
  · cases h
  · rename_i init hinit
    obtain ⟨child, hchild, rfl⟩ := init_lower hinit
    obtain ⟨origin, horigin, rfl⟩ := members_lower h
    exact ⟨origin, .child (.child .root hchild) horigin, rfl⟩

theorem site?_lower {source : Bytes} {node : Concrete} {p : Syntax.Position}
    {site : Syntax.Site} (h : (lower source node).site? p = some site) :
    ∃ origin, node.Holds origin ∧ site.node = lower source origin := by
  induction p generalizing node site with
  | nil =>
    obtain rfl := Option.some.inj h
    exact ⟨node, .root, rfl⟩
  | cons i rest ih =>
    simp only [Syntax.Node.site?, Option.bind_eq_some_iff, Option.map_eq_some_iff] at h
    obtain ⟨member, hget, inside, hinside, rfl⟩ := h
    obtain ⟨origin, horigin, rfl⟩ := inner_lower (List.mem_of_getElem? hget)
    obtain ⟨below, hbelow, hnode⟩ := ih hinside
    exact ⟨below, horigin.trans hbelow, hnode⟩

/-- Every name in a lowered file is the span of a node of the concrete tree. -/
theorem name_site?_tree {source : Bytes} {root : Concrete} {p : Syntax.Position}
    {site : Syntax.Site} {span : Span} (h : (tree source root).site? p = some site)
    (hname : site.node.name = some span) : ∃ node, root.Holds node ∧ node.span = span := by
  cases p with
  | nil => cases h
  | cons i rest =>
    obtain ⟨declaration, hget, hsite⟩ := Option.bind_eq_some_iff.mp h
    obtain ⟨child, hchild, rfl⟩ := List.mem_map.mp (List.mem_of_getElem? hget)
    obtain ⟨origin, horigin, hnode⟩ := site?_lower hsite
    rw [hnode] at hname
    obtain ⟨name, hmem, hspan⟩ := name_lower hname
    have hroot : root.Holds child := .child .root (List.mem_filter.mp hchild).1
    exact ⟨name, .child (hroot.trans horigin) hmem, hspan⟩

/-- The tree of `const  ;`, where the parser has put a name of zero width. -/
def missingName : Concrete :=
  { kind := "source_file", span := ⟨0, 8⟩
    children :=
      [{ kind := "variable_declaration", span := ⟨0, 8⟩
         children :=
          [{ kind := "const", named := false, span := ⟨0, 5⟩ },
           { kind := "identifier", missing := true, span := ⟨6, 6⟩ },
           { kind := ";", named := false, span := ⟨7, 8⟩ }] }] }

theorem inside_missingName : ∀ node, missingName.Holds node → node.span.Inside 8 := by
  intro node h
  rcases holds_iff.mp h with rfl | ⟨declaration, hmem, h⟩
  · decide
  obtain rfl := List.mem_singleton.mp hmem
  rcases holds_iff.mp h with rfl | ⟨token, hmem, h⟩
  · decide
  simp only [List.mem_cons, List.not_mem_nil, or_false] at hmem
  rcases hmem with rfl | rfl | rfl <;> rw [h.eq_of_childless rfl] <;> decide

end Concrete

namespace Session

open Syntax (Tree)
open Concrete (missingName inside_missingName)

/-- A recovered file is tagged to its end exactly if no visible declaration has a name of zero width
or a name on an empty line; otherwise tagging stops at a draft that the format refuses. -/
theorem extract_recovered_iff (session : Session) (source path : Bytes) (root : Concrete)
    (steady : ∀ call, session.sink.device.onWrite call = none)
    (inside : ∀ node, root.Holds node → node.span.Inside source.length) :
    let tree := Concrete.tree source root
    ((∃ count done positions tags, session.extract tree path = (.ok count, done) ∧
        tree.Listing path positions tags ∧
        done.sink.held = session.sink.held ++ (tags.map Tag.line).flatten ∧
        count = positions.length) ↔
      ∀ p site span, tree.site? p = some site → site.Visible source →
        site.node.name = some span →
        span.start < span.stop ∧ Text.lineAt source span.start ≠ []) ∧
    ∀ failure done, session.extract tree path = (.error failure, done) →
      ∃ refusal, failure = .refused refusal := by
  intro tree
  have hname : ∀ p site span, tree.site? p = some site → site.node.name = some span →
      (span.text source ≠ [] ↔ span.start < span.stop) := by
    intro p site span hsite hspan
    obtain ⟨node, hnode, rfl⟩ := Concrete.name_site?_tree hsite hspan
    exact (inside node hnode).text_ne_nil_iff
  have hreturns : (∃ count done, session.extract tree path = (.ok count, done)) ↔
      ∀ p site span, tree.site? p = some site → site.Visible source →
        site.node.name = some span →
        span.text source ≠ [] ∧ Text.lineAt source span.start ≠ [] :=
    (extract_isOk_iff steady).trans Tree.checked_iff
  refine ⟨⟨?_, ?_⟩, ?_⟩
  · intro h p site span hsite hvisible hspan
    obtain ⟨count, done, _, _, hrun, _⟩ := h
    obtain ⟨htext, hline⟩ := hreturns.mp ⟨count, done, hrun⟩ p site span hsite hvisible hspan
    exact ⟨(hname p site span hsite hspan).mp htext, hline⟩
  · intro h
    obtain ⟨count, done, hrun⟩ := hreturns.mpr fun p site span hsite hvisible hspan =>
      (h p site span hsite hvisible hspan).imp_left (hname p site span hsite hspan).mpr
    obtain ⟨tags, hdrafts, hwrote, rfl⟩ := extract_ok hrun
    have hlisting := Tree.listing_of_drafts_eq hdrafts
    exact ⟨_, done, _, tags, hrun, hlisting, hwrote.held, hlisting.length_eq.symm⟩
  · intro failure done hrun
    obtain ⟨_, _, refusal, _, hrefused⟩ := extract_error_of_steady steady hrun
    exact ⟨refusal, hrefused⟩

/-- A missing name is enough to stop the tagging of a file. -/
theorem extract_missingName :
    (extract {} (Concrete.tree (Bytes.ofString "const  ;") missingName)
      (Bytes.ofString "a.zig")).1 = .error (.refused .emptyName) := by
  rfl

theorem extract_missingName_iff :
    let source := Bytes.ofString "const  ;"
    let path := Bytes.ofString "a.zig"
    let tree := Concrete.tree source missingName
    (∀ node, missingName.Holds node → node.span.Inside source.length) ∧
    ((∃ count done positions tags, extract {} tree path = (.ok count, done) ∧
        tree.Listing path positions tags ∧
        done.sink.held = [] ++ (tags.map Tag.line).flatten ∧ count = positions.length) ↔
      ∀ p site span, tree.site? p = some site → site.Visible source →
        site.node.name = some span →
        span.start < span.stop ∧ Text.lineAt source span.start ≠ []) ∧
    ∀ failure done, extract {} tree path = (.error failure, done) →
      ∃ refusal, failure = .refused refusal := by
  intro source path tree
  have hinside : ∀ node, missingName.Holds node → node.span.Inside source.length :=
    inside_missingName
  exact ⟨hinside, extract_recovered_iff {} source path missingName (fun _ => rfl) hinside⟩

end Session

end TagIndex
