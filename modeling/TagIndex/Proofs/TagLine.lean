import Mathlib.Tactic.Common
import TagIndex.Proofs.Pattern
import TagIndex.Tag

namespace TagIndex

namespace Bytes

/-- Cuts at the first occurrence of a byte. -/
def cut? (b : UInt8) : Bytes → Option (Bytes × Bytes)
  | [] => none
  | c :: rest => if c = b then some ([], rest) else (cut? b rest).map fun cut => (c :: cut.1, cut.2)

/-- What follows the given head. -/
def after? (head s : Bytes) : Option Bytes :=
  if s.take head.length = head then some (s.drop head.length) else none

/-- What comes before the given last byte. -/
def chop? (b : UInt8) (s : Bytes) : Option Bytes :=
  if s.getLast? = some b then some s.dropLast else none

theorem cut?_append {b : UInt8} {s : Bytes} (h : b ∉ s) (rest : Bytes) :
    cut? b (s ++ b :: rest) = some (s, rest) := by
  induction s with
  | nil => simp [cut?]
  | cons c more ih =>
    obtain ⟨hc, hmore⟩ := List.ne_and_not_mem_of_not_mem_cons h
    simp [cut?, Ne.symm hc, ih hmore]

theorem cut?_of_not_mem {b : UInt8} {s : Bytes} (h : b ∉ s) : cut? b s = none := by
  induction s with
  | nil => rfl
  | cons c more ih =>
    obtain ⟨hc, hmore⟩ := List.ne_and_not_mem_of_not_mem_cons h
    simp [cut?, Ne.symm hc, ih hmore]

theorem after?_append (head s : Bytes) : after? head (head ++ s) = some s := by
  simp [after?]

theorem chop?_append (b : UInt8) (s : Bytes) : chop? b (s ++ [b]) = some s := by
  simp [chop?]

theorem length_split (b : UInt8) (s : Bytes) : (split b s).length = s.count b + 1 := by
  induction s with
  | nil => rfl
  | cons c rest ih =>
    unfold split
    by_cases h : c = b
    · simp [h, ih]
    · obtain ⟨part, parts, hparts⟩ := List.exists_cons_of_ne_nil (split_ne_nil b rest)
      rw [hparts] at ih
      simpa [h, hparts] using ih

end Bytes

open Bytes (newline slash)

/-- The kind that a field of a line spells. -/
def Kind.ofField? (field : Bytes) : Option Kind :=
  Kind.all.find? fun kind => Bytes.ofString kind.letter = field

namespace Tag

def colon : UInt8 := 58

def dollar : UInt8 := 36

/-- The fields behind the search command: the kind, and the scope of a tag inside a container. -/
def lastFields? (rest : Bytes) : Option (Kind × Option Enclosure) :=
  match Bytes.cut? tab rest with
  | none => (Kind.ofField? rest).map (·, none)
  | some (kind, scope) => do
    let kind ← Kind.ofField? kind
    let (label, path) ← Bytes.cut? colon scope
    return (kind, some ⟨label, path⟩)

/-- The tag of a line, which comes without its newline. -/
def ofLine? (line : Bytes) : Option Tag := do
  let (name, rest) ← Bytes.cut? tab line
  let (path, rest) ← Bytes.cut? tab rest
  let command ← Bytes.after? (Bytes.ofString "/^") rest
  let (body, rest) ← Text.search? command
  let pattern ← Bytes.chop? dollar body
  let rest ← Bytes.after? (Bytes.ofString ";\"\t") rest
  let (kind, enclosure) ← lastFields? rest
  if h : name ≠ [] ∧ pattern ≠ [] then
    some ⟨name, path, pattern, kind, enclosure, h.1, h.2⟩
  else none

/-- The tags of a stream of lines, each ended by its newline. -/
def ofStream? (stream : Bytes) : Option (List Tag) :=
  let lines := Bytes.split newline stream
  if lines.getLast? = some [] then lines.dropLast.mapM ofLine? else none

/-- A tag whose fields keep clear of the bytes that end them. The pattern is that of some line. -/
structure Clean (tag : Tag) : Prop where
  name : tab ∉ tag.name ∧ newline ∉ tag.name
  path : tab ∉ tag.path ∧ newline ∉ tag.path
  pattern : ∃ line, newline ∉ line ∧ tag.pattern = Text.escape line
  enclosure : ∀ enclosure, tag.enclosure = some enclosure →
    (colon ∉ enclosure.label ∧ tab ∉ enclosure.label ∧ newline ∉ enclosure.label) ∧
      tab ∉ enclosure.path ∧ newline ∉ enclosure.path

/-- What follows the search command in a line. -/
def ending (tag : Tag) : Bytes := Bytes.ofString tag.kind.letter ++ scopeField tag.enclosure

/-- A line without its newline. -/
def bare (tag : Tag) : Bytes :=
  tag.name ++ tab :: (tag.path ++ tab :: (Bytes.ofString "/^" ++
    (tag.pattern ++ [dollar] ++ slash :: (Bytes.ofString ";\"\t" ++ tag.ending))))

theorem line_eq (tag : Tag) : tag.line = tag.bare ++ [newline] := by
  have hclose : Bytes.ofString "$/;\"" ++ [tab] = [dollar] ++ slash :: Bytes.ofString ";\"\t" := by
    decide
  have hcommand (s : Bytes) : Bytes.ofString "$/;\"" ++ tab :: s =
      [dollar] ++ slash :: (Bytes.ofString ";\"\t" ++ s) := by
    simpa using congrArg (· ++ s) hclose
  simp [line, bare, ending, hcommand]

theorem ofField?_letter (kind : Kind) :
    Kind.ofField? (Bytes.ofString kind.letter) = some kind := by
  cases kind <;> decide

theorem tab_not_mem_letter (kind : Kind) : tab ∉ Bytes.ofString kind.letter := by
  cases kind <;> decide

theorem Clean.lastFields?_ending {tag : Tag} (h : tag.Clean) :
    lastFields? tag.ending = some (tag.kind, tag.enclosure) := by
  unfold lastFields? ending
  cases he : tag.enclosure with
  | none =>
    rw [scopeField, List.append_nil, Bytes.cut?_of_not_mem (tab_not_mem_letter tag.kind)]
    simp [ofField?_letter]
  | some enclosure =>
    obtain ⟨⟨hcolon, _, _⟩, _⟩ := h.enclosure enclosure he
    have hscope : scopeField (some enclosure) =
        tab :: (enclosure.label ++ colon :: enclosure.path) := by
      simp only [scopeField, List.cons_append, List.append_assoc]
      rfl
    rw [hscope, Bytes.cut?_append (tab_not_mem_letter tag.kind)]
    simp [ofField?_letter, Bytes.cut?_append hcolon]

/-- The search command ends at the delimiter behind its `$`, whatever the pattern holds. -/
theorem Clean.search?_command {tag : Tag} (h : tag.Clean) (rest : Bytes) :
    Text.search? (tag.pattern ++ [dollar] ++ slash :: rest) =
      some (tag.pattern ++ [dollar], rest) := by
  obtain ⟨line, _, hline⟩ := h.pattern
  have hdollar : Text.Paired [dollar] := .plain (by decide) (by decide) .nil
  have hpaired : Text.Paired (tag.pattern ++ [dollar]) :=
    hline ▸ (Text.paired_escape line).append hdollar
  exact Text.search?_eq_some_iff.mpr ⟨rfl, hpaired⟩

/-- A clean line reads back as its tag. -/
theorem Clean.ofLine?_bare {tag : Tag} (h : tag.Clean) : ofLine? tag.bare = some tag := by
  have hname := Bytes.cut?_append h.name.1
  have hpath := Bytes.cut?_append h.path.1
  simp only [ofLine?, bare, hname, hpath, Option.bind_eq_bind, Option.bind_some,
    Bytes.after?_append, h.search?_command, Bytes.chop?_append, h.lastFields?_ending]
  simp [tag.name_ne_nil, tag.pattern_ne_nil]

theorem Clean.newline_not_mem_bare {tag : Tag} (h : tag.Clean) : newline ∉ tag.bare := by
  obtain ⟨line, hline, hpattern⟩ := h.pattern
  have hescaped : newline ∉ tag.pattern := by
    rw [hpattern]
    exact fun hmem => hline (Text.mem_of_mem_escape hmem (by decide))
  have hletter : newline ∉ Bytes.ofString tag.kind.letter := by cases tag.kind <;> decide
  have hending : newline ∉ scopeField tag.enclosure := by
    cases he : tag.enclosure with
    | none => simp [scopeField]
    | some enclosure =>
      obtain ⟨⟨_, _, hlabel⟩, _, hpath⟩ := h.enclosure enclosure he
      have hcolon : newline ∉ Bytes.ofString ":" := by decide
      simp [scopeField, hlabel, hcolon, hpath, show newline ≠ tab by decide]
  have hopen : newline ∉ Bytes.ofString "/^" := by decide
  have hclose : newline ∉ Bytes.ofString ";\"\t" := by decide
  simp [bare, ending, h.name.2, h.path.2, hescaped, hletter, hending, hopen, hclose,
    show newline ≠ tab by decide, show newline ≠ dollar by decide,
    show newline ≠ slash by decide]

theorem split_flatMap_line {tags : List Tag} (h : ∀ tag ∈ tags, tag.Clean) :
    Bytes.split newline (tags.flatMap line) = tags.map bare ++ [[]] := by
  induction tags with
  | nil => rfl
  | cons tag rest ih =>
    have hclean := (h tag (by simp)).newline_not_mem_bare
    rw [List.flatMap_cons, line_eq, List.append_assoc, List.singleton_append,
      Bytes.split_append_cons hclean, ih fun tag hmem => h tag (by simp [hmem])]
    rfl

theorem mapM_ofLine?_bare {tags : List Tag} (h : ∀ tag ∈ tags, tag.Clean) :
    (tags.map bare).mapM ofLine? = some tags := by
  induction tags with
  | nil => rfl
  | cons tag rest ih =>
    rw [List.map_cons, List.mapM_cons, (h tag (by simp)).ofLine?_bare,
      ih fun tag hmem => h tag (by simp [hmem])]
    rfl

/-- Behind the pattern of a clean line, a tab stands before the kind and one before the scope. -/
theorem Clean.count_tab_ending {tag : Tag} (h : tag.Clean) :
    tag.ending.count tab = if tag.enclosure.isSome then 1 else 0 := by
  have hletter := List.count_eq_zero.mpr (tab_not_mem_letter tag.kind)
  rw [ending, List.count_append, hletter]
  cases he : tag.enclosure with
  | none => rfl
  | some enclosure =>
    obtain ⟨⟨_, hlabel, _⟩, hpath, _⟩ := h.enclosure enclosure he
    have hcolon : (Bytes.ofString ":").count tab = 0 := by decide
    simp [scopeField, List.count_append, List.count_eq_zero.mpr hlabel,
      List.count_eq_zero.mpr hpath, hcolon]

theorem Clean.count_tab_line {tag : Tag} (h : tag.Clean) :
    tag.line.count tab = 3 + tag.pattern.count tab + if tag.enclosure.isSome then 1 else 0 := by
  have hname := List.count_eq_zero.mpr h.name.1
  have hpath := List.count_eq_zero.mpr h.path.1
  have hopen : (Bytes.ofString "/^").count tab = 0 := by decide
  have hdollar : [dollar].count tab = 0 := by decide
  have hclose : (Bytes.ofString ";\"\t").count tab = 1 := by decide
  have hend : [newline].count tab = 0 := by decide
  rw [line_eq, bare]
  simp only [List.count_append, List.count_cons_self,
    List.count_cons_of_ne (show slash ≠ tab by decide), hname, hpath, hopen, hdollar, hclose,
    hend, h.count_tab_ending]
  omega

/-- A stream of clean lines reads back as its tags, and every source line with it. In each line the
search command closes at the first slash outside a backslash pair, so that only the tabs of the
pattern add to the fields of the format. -/
theorem ofStream?_flatMap_line (tags : List Tag) (clean : ∀ tag ∈ tags, tag.Clean) :
    ofStream? (tags.flatMap line) = some tags ∧ ∀ tag ∈ tags,
      (∀ source, tag.pattern = Text.escape source → Text.unescape tag.pattern = source) ∧
      (∃ rest, tag.line = tag.name ++ tab :: tag.path ++ tab :: Bytes.ofString "/^" ++
          (tag.pattern ++ Bytes.ofString "$" ++ slash :: rest) ∧
        Text.search? (tag.pattern ++ Bytes.ofString "$" ++ slash :: rest) =
          some (tag.pattern ++ Bytes.ofString "$", rest)) ∧
      (Bytes.split tab tag.line).length =
        4 + tag.pattern.count tab + if tag.enclosure.isSome then 1 else 0 := by
  constructor
  · simp only [ofStream?, split_flatMap_line clean, List.getLast?_append, List.getLast?_singleton,
      Option.some_or, List.dropLast_concat, mapM_ofLine?_bare clean]
    rfl
  · intro tag hmem
    have hclean := clean tag hmem
    refine ⟨?_, ?_, ?_⟩
    · intro source hsource
      rw [hsource]
      exact Text.unescape_escape source
    · refine ⟨Bytes.ofString ";\"\t" ++ tag.ending ++ [newline], ?_, hclean.search?_command _⟩
      rw [line_eq, bare]
      simp [show Bytes.ofString "$" = [dollar] by decide]
    · rw [Bytes.length_split, hclean.count_tab_line]
      omega

/-- A source line with every byte that structures a tag line. -/
def hostileLine : Bytes := Bytes.ofString "f\t$/;\"\tv\tstruct:S\\"

def hostileTags : List Tag :=
  [⟨Bytes.ofString "f", Bytes.ofString "a.zig", Text.escape hostileLine, .function, none,
    by decide, by decide⟩,
   ⟨Bytes.ofString "b", Bytes.ofString "a.zig", Text.escape hostileLine, .member,
    some ⟨Bytes.ofString "union", Bytes.ofString "S.U"⟩, by decide, by decide⟩]

theorem clean_hostileTags : ∀ tag ∈ hostileTags, tag.Clean := by
  intro tag hmem
  have hline : newline ∉ hostileLine := by decide
  simp only [hostileTags, List.mem_cons, List.not_mem_nil, or_false] at hmem
  rcases hmem with rfl | rfl
  · exact ⟨by decide, by decide, ⟨hostileLine, hline, rfl⟩, nofun⟩
  · refine ⟨by decide, by decide, ⟨hostileLine, hline, rfl⟩, ?_⟩
    intro _ h
    obtain ⟨rfl⟩ := h
    decide

theorem ofStream?_hostileTags :
    (∀ tag ∈ hostileTags, tag.Clean) ∧
      ofStream? (hostileTags.flatMap line) = some hostileTags ∧ ∀ tag ∈ hostileTags,
        (∀ source, tag.pattern = Text.escape source → Text.unescape tag.pattern = source) ∧
        (∃ rest, tag.line = tag.name ++ tab :: tag.path ++ tab :: Bytes.ofString "/^" ++
            (tag.pattern ++ Bytes.ofString "$" ++ slash :: rest) ∧
          Text.search? (tag.pattern ++ Bytes.ofString "$" ++ slash :: rest) =
            some (tag.pattern ++ Bytes.ofString "$", rest)) ∧
        (Bytes.split tab tag.line).length =
          4 + tag.pattern.count tab + if tag.enclosure.isSome then 1 else 0 :=
  ⟨clean_hostileTags, ofStream?_flatMap_line hostileTags clean_hostileTags⟩

end Tag

end TagIndex
