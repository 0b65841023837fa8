import TagIndex.Proofs.Pattern
import TagIndex.Proofs.Recovery
import TagIndex.Proofs.SourceLine

namespace TagIndex

open Bytes (newline)

/-- A span that can be a name: a piece of the source that is not empty and lies on one line. -/
def Span.Proper (source : Bytes) (span : Span) : Prop :=
  0 ≤ span.start ∧ span.start < span.stop ∧ span.stop ≤ source.length ∧
    newline ∉ span.text source

instance (source : Bytes) (span : Span) : Decidable (span.Proper source) :=
  inferInstanceAs (Decidable (_ ∧ _ ∧ _ ∧ _))

/-- The number of the line on which a span starts: the newlines before it. -/
def Span.lineNumber (source : Bytes) (span : Span) : Nat :=
  (source.take span.start.toNat).count newline

/-- The tag's pattern is the line on which the span starts, and the tag's name stands in that line
at the span's distance from the start of the line. -/
structure Tag.LeadsTo (source : Bytes) (span : Span) (tag : Tag) : Prop where
  line : (Bytes.split newline source)[span.lineNumber source]? = some (Text.unescape tag.pattern)
  behind_start :
    Text.lineStart (Bytes.split newline source) (span.lineNumber source) ≤ span.start.toNat
  name : tag.name <+: (Text.unescape tag.pattern).drop
    (span.start.toNat - Text.lineStart (Bytes.split newline source) (span.lineNumber source))

theorem Span.Proper.text_ne_nil {source : Bytes} {span : Span} (h : span.Proper source) :
    span.text source ≠ [] := by
  obtain ⟨hstart, hlt, hstop, _⟩ := h
  have hinside : span.Inside source.length := ⟨hstart, Int.le_of_lt hlt, hstop⟩
  exact hinside.text_ne_nil_iff.mpr hlt

theorem Span.Proper.text_prefix {source : Bytes} {span : Span} (h : span.Proper source) :
    span.text source <+: source.drop span.start.toNat := by
  obtain ⟨hstart, hlt, hstop, _⟩ := h
  have hplace : Bytes.place source.length span.start = span.start.toNat := by
    rw [← Int.toNat_of_nonneg hstart, Bytes.place_natCast (by omega), Int.toNat_natCast]
  rw [Span.text, Bytes.slice, hplace]
  exact List.take_prefix _ _

/-- A proper name stands in the line of its start, at its column. -/
theorem Span.Proper.column {source : Bytes} {span : Span} (h : span.Proper source) :
    Text.lineStart (Bytes.split newline source) (span.lineNumber source) ≤ span.start.toNat ∧
      span.text source <+: (Text.lineAt source span.start).drop
        (span.start.toNat -
          Text.lineStart (Bytes.split newline source) (span.lineNumber source)) := by
  have hcut : span.start.toNat ≤ source.length := by
    obtain ⟨hstart, hlt, hstop, _⟩ := h
    omega
  have hin := Text.prefix_drop_lineAt hcut h.text_prefix h.2.2.2
  rwa [Int.toNat_of_nonneg h.1] at hin

theorem Span.Proper.lineAt_ne_nil {source : Bytes} {span : Span} (h : span.Proper source) :
    Text.lineAt source span.start ≠ [] := by
  intro hnil
  have hin := h.column.2
  rw [hnil, List.drop_nil, List.prefix_nil] at hin
  exact h.text_ne_nil hin

theorem Span.Proper.leadsTo {source : Bytes} {span : Span} {tag : Tag} (h : span.Proper source)
    (hname : tag.name = span.text source)
    (hpattern : tag.pattern = Text.escape (Text.lineAt source span.start)) :
    tag.LeadsTo source span := by
  have hline := Text.getElem?_split_eq_lineAt source span.start.toNat
  have hcut : span.start.toNat ≤ source.length := by
    obtain ⟨hstart, hlt, hstop, _⟩ := h
    omega
  rw [Bytes.place_natCast hcut, Int.toNat_of_nonneg h.1] at hline
  have hback : Text.unescape tag.pattern = Text.lineAt source span.start := by
    rw [hpattern, Text.unescape_escape]
  refine ⟨?_, h.column.1, ?_⟩
  · rw [hback]
    exact hline
  · rw [hback, hname]
    exact h.column.2

namespace Syntax

theorem Site.record?_eq_some {source path : Bytes} {site : Site} {draft : Draft}
    (h : site.record? source path = some draft) :
    ∃ span, site.node.name = some span ∧ draft.name = span.text source ∧
      draft.pattern = Text.escape (Text.lineAt source span.start) := by
  unfold Site.record? at h
  split at h
  · rename_i span kind hspan _
    obtain rfl := Option.some.inj h
    exact ⟨span, hspan, rfl, rfl⟩
  · cases h

/-- The tag at a position has the name and the line of the node there. -/
theorem Tree.tag?_eq_some {tree : Tree} {path : Bytes} {p : Position} {tag : Tag}
    (h : tree.tag? path p = some tag) :
    ∃ site span, tree.site? p = some site ∧ site.node.name = some span ∧
      tag.name = span.text tree.source ∧
      tag.pattern = Text.escape (Text.lineAt tree.source span.start) := by
  obtain ⟨site, hsite, h⟩ := Option.bind_eq_some_iff.mp h
  obtain ⟨draft, hrecord, h⟩ := Option.bind_eq_some_iff.mp h
  have hcheck : draft.check = .ok tag := by
    cases hc : draft.check with
    | error refusal => simp [hc, Except.toOption] at h
    | ok found => simpa [hc, Except.toOption] using h
  obtain rfl := Draft.check_eq_ok_iff.mp hcheck
  obtain ⟨span, hspan, hname, hpattern⟩ := Site.record?_eq_some hrecord
  exact ⟨site, span, hsite, hspan, hname, hpattern⟩

/-- The declarations of a file of four lines, one of which has to be escaped. The last line has no
newline, and its function starts in the first column. -/
def severalLines : Tree :=
  { source := Bytes.ofString
      "const S = struct \x7b\n  a: u8, // a\\/b\n\x7d;\nfn f() void \x7b\x7d"
    declarations :=
      [{ shape := .binding, name := some ⟨6, 7⟩
         init := some
          { shape := .container, keyword := some ⟨10, 16⟩
            members := [{ shape := .field, name := some ⟨21, 22⟩, typed := true }] } },
       { shape := .function, name := some ⟨42, 43⟩ }] }

theorem proper_severalLines (p : Position) (site : Site) (span : Span)
    (h : severalLines.site? p = some site) (hvisible : site.Visible severalLines.source)
    (hspan : site.node.name = some span) : span.Proper severalLines.source := by
  have hall : ∀ visit ∈ severalLines.visits, ∀ span ∈ visit.2.node.name,
      span.Proper severalLines.source := by decide
  exact hall (p, site) (Tree.mem_visits_iff.mpr ⟨h, hvisible⟩) span hspan

end Syntax

namespace Session

open Syntax (Tree severalLines proper_severalLines)

/-- A file whose visible names are proper is tagged to its end, and every tag leads to the name at
its position. No draft that the walk makes is refused, at any depth. -/
theorem extract_leads_to_names (session : Session) (tree : Tree) (path : Bytes)
    (steady : ∀ call, session.sink.device.onWrite call = none)
    (proper : ∀ p site span, tree.site? p = some site → site.Visible tree.source →
      site.node.name = some span → span.Proper tree.source) :
    (∀ draft ∈ tree.drafts path, ∃ tag, draft.check = .ok tag) ∧
    ∃ done positions tags, session.extract tree path = (.ok positions.length, done) ∧
      tree.Listing path positions tags ∧
      done.sink.held = session.sink.held ++ (tags.map Tag.line).flatten ∧
      ∀ p ∈ positions, ∃ site span tag, tree.site? p = some site ∧
        site.node.name = some span ∧ tree.tag? path p = some tag ∧
        tag.name = span.text tree.source ∧ tag.LeadsTo tree.source span := by
  have hchecked : ∀ draft ∈ tree.drafts path, ∃ tag, draft.check = .ok tag := by
    refine Tree.checked_iff.mpr fun p site span hsite hvisible hspan => ?_
    have hproper := proper p site span hsite hvisible hspan
    exact ⟨hproper.text_ne_nil, hproper.lineAt_ne_nil⟩
  obtain ⟨count, done, hrun⟩ := (extract_isOk_iff steady).mpr hchecked
  obtain ⟨tags, hdrafts, hwrote, rfl⟩ := extract_ok hrun
  have hlisting := Tree.listing_of_drafts_eq hdrafts
  refine ⟨hchecked, done, _, tags, ?_, hlisting, hwrote.held, ?_⟩
  · rw [hrun, hlisting.length_eq]
  · intro p hp
    have hmem : tree.tag? path p ∈ tags.map some :=
      hlisting.tagged ▸ List.mem_map_of_mem hp
    obtain ⟨tag, _, htag⟩ := List.mem_map.mp hmem
    obtain ⟨site, span, hsite, hspan, hname, hpattern⟩ := Tree.tag?_eq_some htag.symm
    obtain ⟨seen, hseen, hvisible⟩ := (hlisting.visible p).mp hp
    obtain rfl := Option.some.inj (hsite.symm.trans hseen)
    have hproper := proper p site span hsite hvisible hspan
    exact ⟨site, span, tag, hsite, hspan, htag.symm, hname, hproper.leadsTo hname hpattern⟩

/-- The tag of `a`, on the line that has to be escaped, leads to the name at its place. -/
theorem extract_severalLines :
    let path := Bytes.ofString "a.zig"
    let run := extract {} severalLines path
    run.1 = .ok 3 ∧
    run.2.sink.held =
      Bytes.ofString "a\ta.zig\t/^  a: u8, \\/\\/ a\\\\\\/b$/;\"\tm\tstruct:S\n" ++
      Bytes.ofString "S\ta.zig\t/^const S = struct \x7b$/;\"\ts\n" ++
      Bytes.ofString "f\ta.zig\t/^fn f() void \x7b\x7d$/;\"\tf\n" ∧
    ∃ tags, severalLines.Listing path [[0, 0], [0], [1]] tags ∧
      (tags.map Tag.line).flatten = run.2.sink.held ∧
      ∃ tag ∈ tags, tag.name = Bytes.ofString "a" ∧
        tag.LeadsTo severalLines.source ⟨21, 22⟩ := by
  intro path run
  obtain ⟨_, done, positions, tags, hrun, hlisting, hheld, hleads⟩ :=
    extract_leads_to_names {} severalLines path (fun _ => rfl) proper_severalLines
  obtain ⟨_, hdrafts, _, _⟩ := extract_ok hrun
  obtain ⟨rfl, rfl⟩ := hlisting.unique (Tree.listing_of_drafts_eq hdrafts)
  have hpositions : severalLines.visits.map Prod.fst = [[0, 0], [0], [1]] := by decide +kernel
  rw [hpositions] at hlisting hrun hleads
  have hdone : run.2 = done := congrArg Prod.snd hrun
  refine ⟨congrArg Prod.fst hrun, by decide +kernel +zetaReduce, tags, hlisting, ?_, ?_⟩
  · rw [hdone]
    exact hheld.symm
  · obtain ⟨site, span, tag, hsite, hspan, htag, hname, hfound⟩ := hleads [0, 0] (by simp)
    have hmem : tag ∈ tags := by
      have hsome : some tag ∈ tags.map some :=
        hlisting.tagged ▸ htag ▸ List.mem_map_of_mem (by simp)
      simpa using hsome
    obtain rfl : (⟨21, 22⟩ : Span) = span := by
      have hplace : ((severalLines.site? [0, 0]).bind (·.node.name)) = some ⟨21, 22⟩ := by
        decide +kernel
      rw [hsite, Option.bind_some, hspan] at hplace
      exact (Option.some.inj hplace).symm
    exact ⟨tag, hmem, hname.trans (by decide +kernel), hfound⟩

end Session

end TagIndex
