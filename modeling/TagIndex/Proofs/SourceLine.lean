import Mathlib.Algebra.Order.Ring.Int
import Mathlib.Data.List.TakeWhile
import TagIndex.Text.Line

namespace TagIndex.Text

open Bytes

/-- The offset at which a line starts: behind all earlier lines and their newlines. -/
def lineStart (lines : List Bytes) (number : Nat) : Nat :=
  ((lines.take number).map (·.length + 1)).sum

@[simp] theorem lineStart_zero (lines : List Bytes) : lineStart lines 0 = 0 := rfl

@[simp] theorem lineStart_succ (line : Bytes) (lines : List Bytes) (number : Nat) :
    lineStart (line :: lines) (number + 1) = line.length + 1 + lineStart lines number := by
  simp [lineStart]

theorem takeWhile_of_not_mem {s : Bytes} (h : newline ∉ s) : s.takeWhile (· != newline) = s := by
  rw [List.takeWhile_eq_self_iff]
  intro b hb
  simpa using fun heq : b = newline => h (heq ▸ hb)

theorem lastLine_of_not_mem {s : Bytes} (h : newline ∉ s) : lastLine s = s := by
  rw [lastLine, takeWhile_of_not_mem (by simpa using h), List.reverse_reverse]

theorem lastLine_newline_cons (s : Bytes) : lastLine (newline :: s) = lastLine s := by
  unfold lastLine
  rw [List.reverse_cons, List.takeWhile_append]
  split_ifs with h
  · simp [(List.takeWhile_sublist _).eq_of_length h]
  · rfl

theorem lastLine_cons_of_mem {s : Bytes} (c : UInt8) (h : newline ∈ s) :
    lastLine (c :: s) = lastLine s := by
  unfold lastLine
  rw [List.reverse_cons, List.takeWhile_append, if_neg]
  intro hlength
  have hall := List.takeWhile_eq_self_iff.mp ((List.takeWhile_sublist _).eq_of_length hlength)
  simpa using hall newline (by simpa using h)

theorem getElem?_zero_split (s : Bytes) : (split newline s)[0]? = some (firstLine s) := by
  induction s with
  | nil => rfl
  | cons c rest ih =>
    obtain ⟨part, parts, hparts⟩ := List.exists_cons_of_ne_nil (split_ne_nil newline rest)
    rw [hparts, List.getElem?_cons_zero, Option.some.injEq] at ih
    by_cases h : c = newline
    · simp [split, firstLine, h]
    · simp [split, h, hparts, ih, firstLine]

/-- The line around a cut of the source has the number of newlines before the cut, and the cut lies
behind its start by what the line has before the cut. -/
theorem split_at_cut (source : Bytes) {cut : Nat} (h : cut ≤ source.length) :
    (split newline source)[(source.take cut).count newline]? =
        some (lastLine (source.take cut) ++ firstLine (source.drop cut)) ∧
      lineStart (split newline source) ((source.take cut).count newline) +
        (lastLine (source.take cut)).length = cut := by
  induction source generalizing cut with
  | nil =>
    obtain rfl : cut = 0 := by simpa using h
    exact ⟨rfl, rfl⟩
  | cons c rest ih =>
    cases cut with
    | zero => exact ⟨getElem?_zero_split (c :: rest), rfl⟩
    | succ cut =>
      obtain ⟨hline, hstart⟩ := ih (Nat.le_of_succ_le_succ h)
      simp only [List.take_succ_cons, List.drop_succ_cons]
      by_cases hc : c = newline
      · subst hc
        have hsplit : split newline (newline :: rest) = [] :: split newline rest := by simp [split]
        rw [hsplit, List.count_cons_self, List.getElem?_cons_succ, lastLine_newline_cons,
          lineStart_succ]
        exact ⟨hline, by simp only [List.length_nil]; omega⟩
      · obtain ⟨part, parts, hparts⟩ := List.exists_cons_of_ne_nil (split_ne_nil newline rest)
        have hsplit : split newline (c :: rest) = (c :: part) :: parts := by
          simp [split, hc, hparts]
        rw [hparts] at hline hstart
        rw [hsplit, List.count_cons_of_ne hc]
        -- a newline before the cut keeps `c` out of the line around it
        by_cases hmem : newline ∈ rest.take cut
        · obtain ⟨n, hn⟩ := Nat.exists_eq_add_one.mpr (List.count_pos_iff.mpr hmem)
          rw [hn] at hline hstart ⊢
          rw [lastLine_cons_of_mem c hmem]
          refine ⟨hline, ?_⟩
          simp only [lineStart_succ, List.length_cons] at hstart ⊢
          omega
        · have hcons : newline ∉ c :: rest.take cut := by simp [hmem, Ne.symm hc]
          rw [List.count_eq_zero.mpr hmem] at hline hstart ⊢
          rw [lastLine_of_not_mem hmem] at hline hstart
          rw [lastLine_of_not_mem hcons]
          simp only [List.getElem?_cons_zero, Option.some.injEq] at hline
          refine ⟨by simp [hline], ?_⟩
          simp only [lineStart_zero, List.length_cons] at hstart ⊢
          omega

/-- The line at an offset has the number of newlines before the offset. -/
theorem getElem?_split_eq_lineAt (source : Bytes) (offset : Int) :
    (split newline source)[(source.take (place source.length offset)).count newline]? =
      some (lineAt source offset) :=
  (split_at_cut source (place_le source.length offset)).1

/-- What stands at an offset and has no newline stands in the line at that column. -/
theorem prefix_drop_lineAt {source text : Bytes} {cut : Nat} (hcut : cut ≤ source.length)
    (htext : text <+: source.drop cut) (hline : newline ∉ text) :
    let start := lineStart (split newline source) ((source.take cut).count newline)
    start ≤ cut ∧ text <+: (lineAt source cut).drop (cut - start) := by
  intro start
  have hcolumn : start + (lastLine (source.take cut)).length = cut := (split_at_cut source hcut).2
  refine ⟨by omega, ?_⟩
  rw [show cut - start = (lastLine (source.take cut)).length by omega, lineAt,
    place_natCast hcut, List.drop_left]
  obtain ⟨rest, hrest⟩ := htext
  rw [firstLine, ← hrest, List.takeWhile_append, takeWhile_of_not_mem hline, if_pos rfl]
  exact List.prefix_append _ _

/-- An offset as a distance from the start of a string: a negative one counts from the end, and one
that lies outside moves to the nearer end. -/
def clamp (length : Nat) (offset : Int) : Nat :=
  (max 0 (min (if offset < 0 then offset + length else offset) length)).toNat

theorem clamp_eq_place (length : Nat) (offset : Int) :
    clamp length offset = place length offset := by
  unfold place clamp
  split <;> omega

theorem clamp_le (length : Nat) (offset : Int) : clamp length offset ≤ length := by
  rw [clamp_eq_place]
  exact place_le length offset

theorem take_clamp_natCast (source : Bytes) (offset : Nat) :
    source.take (clamp source.length offset) = source.take offset := by
  have hclamp : clamp source.length offset = min offset source.length := by
    unfold clamp
    split <;> omega
  rw [hclamp, ← List.take_eq_take_min]

/-- The number of the line at an offset: the newlines before it. -/
def lineNumber (source : Bytes) (offset : Int) : Nat :=
  (source.take (clamp source.length offset)).count newline

theorem getElem?_lineNumber (source : Bytes) (offset : Int) :
    (split newline source)[lineNumber source offset]? = some (lineAt source offset) := by
  rw [lineNumber, clamp_eq_place]
  exact getElem?_split_eq_lineAt source offset

theorem lastLine_suffix (s : Bytes) : lastLine s <:+ s := by
  rw [lastLine, ← List.reverse_prefix, List.reverse_reverse]
  exact List.takeWhile_prefix _

theorem firstLine_prefix (s : Bytes) : firstLine s <+: s := List.takeWhile_prefix _

/-- The source around the line at an offset. Before the line stands what the earlier lines take up,
and the offset lies in the line or at one of its ends. -/
theorem source_around_lineAt (source : Bytes) (offset : Int) :
    ∃ before after, source = before ++ lineAt source offset ++ after ∧
      before.length = lineStart (split newline source) (lineNumber source offset) ∧
      before.length ≤ clamp source.length offset ∧
      clamp source.length offset ≤ before.length + (lineAt source offset).length := by
  have hline : lineAt source offset =
      lastLine (source.take (clamp source.length offset)) ++
        firstLine (source.drop (clamp source.length offset)) := by
    rw [clamp_eq_place, lineAt]
  have hle := clamp_le source.length offset
  rw [hline, lineNumber]
  generalize clamp source.length offset = here at hle ⊢
  obtain ⟨before, hbefore⟩ := lastLine_suffix (source.take here)
  obtain ⟨after, hafter⟩ := firstLine_prefix (source.drop here)
  have hcut : before.length + (lastLine (source.take here)).length = here := by
    rw [← List.length_append, hbefore, List.length_take, Nat.min_eq_left hle]
  have hstart := (split_at_cut source hle).2
  refine ⟨before, after, ?_, by omega, by omega, ?_⟩
  · rw [← List.append_assoc, hbefore, List.append_assoc, hafter, List.take_append_drop]
  · rw [List.length_append]
    omega

theorem slice_middle (before middle after : Bytes) :
    slice (before ++ middle ++ after) before.length (before.length + middle.length : Nat) =
      middle := by
  have hstart : before.length ≤ (before ++ middle ++ after).length := by
    simp only [List.length_append]
    omega
  have hstop : before.length + middle.length ≤ (before ++ middle ++ after).length := by
    simp only [List.length_append]
    omega
  rw [slice, place_natCast hstart, place_natCast hstop, Nat.add_sub_cancel_left, List.append_assoc,
    List.drop_left, List.take_left]

/-- Offsets that go through the lines of a source, one for each line and in order. -/
structure OnePerLine (source : Bytes) (offsets : List Int) : Prop where
  length : offsets.length = (split newline source).length
  number : ∀ i offset, offsets[i]? = some offset → lineNumber source offset = i

theorem OnePerLine.map_lineAt {source : Bytes} {offsets : List Int}
    (h : OnePerLine source offsets) : offsets.map (lineAt source) = split newline source := by
  apply List.ext_getElem?
  intro i
  rw [List.getElem?_map]
  cases hoffset : offsets[i]? with
  | none =>
    have hlength := List.getElem?_eq_none_iff.mp hoffset
    rw [h.length] at hlength
    exact (List.getElem?_eq_none hlength).symm
  | some offset =>
    have hline := getElem?_lineNumber source offset
    rw [h.number i offset hoffset] at hline
    exact hline.symm

/-- Before the start of a line there are as many newlines as lines. -/
theorem count_take_lineStart {lines : List Bytes} (h : ∀ line ∈ lines, newline ∉ line)
    {number : Nat} (hnumber : number < lines.length) :
    ((join [newline] lines).take (lineStart lines number)).count newline = number := by
  induction lines generalizing number with
  | nil => simp at hnumber
  | cons line rest ih =>
    cases number with
    | zero => simp
    | succ number =>
      cases rest with
      | nil => simp at hnumber
      | cons next more =>
        have hline : line.count newline = 0 := List.count_eq_zero.mpr (h line (by simp))
        have hrest := ih (fun line hmem => h line (by simp [hmem]))
          (Nat.lt_of_succ_lt_succ hnumber)
        have hjoin : join [newline] (line :: next :: more) =
            line ++ [newline] ++ join [newline] (next :: more) := rfl
        have hcut : line.length + 1 = (line ++ [newline]).length := by simp
        rw [lineStart_succ, hjoin, hcut, List.take_length_add_append, List.count_append,
          List.count_append, hline, hrest, List.count_singleton_self]
        omega

theorem lineNumber_lineStart (source : Bytes) {number : Nat}
    (h : number < (split newline source).length) :
    lineNumber source (lineStart (split newline source) number) = number := by
  have hcount := count_take_lineStart (fun _ hmem => not_mem_of_mem_split hmem) h
  rw [join_split] at hcount
  rw [lineNumber, take_clamp_natCast, hcount]

theorem onePerLine_lineStart (source : Bytes) :
    OnePerLine source ((List.range (split newline source).length).map
      fun number => (lineStart (split newline source) number : Int)) := by
  refine ⟨by simp, ?_⟩
  intro i offset hoffset
  rw [List.getElem?_map] at hoffset
  obtain ⟨number, hnumber, rfl⟩ := Option.map_eq_some_iff.mp hoffset
  obtain ⟨hlt, hnumber⟩ := List.getElem?_eq_some_iff.mp hnumber
  rw [List.getElem_range] at hnumber
  subst hnumber
  exact lineNumber_lineStart source (by simpa using hlt)

/-- The line at an offset, whichever integer that is, is the one with as many lines before it as
there are newlines before the offset: a stretch of the source without a newline, with the offset in
it or at one of its ends. Every source has offsets that go through its lines, and joining the lines
at any such offsets gives the source back. -/
theorem lineAt_parts_source (source : Bytes) (offset : Int) :
    let here := clamp source.length offset
    let start := lineStart (split newline source) ((source.take here).count newline)
    let stop := start + (lineAt source offset).length
    (split newline source)[(source.take here).count newline]? = some (lineAt source offset) ∧
    newline ∉ lineAt source offset ∧
    lineAt source offset = slice source start stop ∧ start ≤ here ∧ here ≤ stop ∧
    (∃ offsets, OnePerLine source offsets) ∧
    ∀ offsets, OnePerLine source offsets →
      join [newline] (offsets.map (lineAt source)) = source := by
  intro here start stop
  obtain ⟨before, after, hsource, hstart, hbefore, hafter⟩ := source_around_lineAt source offset
  have hslice := slice_middle before (lineAt source offset) after
  rw [← hsource, hstart] at hslice
  rw [hstart] at hbefore hafter
  refine ⟨getElem?_lineNumber source offset, newline_not_mem_lineAt source offset, hslice.symm,
    hbefore, hafter, ⟨_, onePerLine_lineStart source⟩, ?_⟩
  intro offsets h
  rw [h.map_lineAt, join_split]

theorem lineAt_threeLines :
    let source := Bytes.ofString "ab\n\nc"
    OnePerLine source [-7, 3, 9] ∧
      (split newline source)[(source.take 3).count newline]? = some (lineAt source (-2)) ∧
      lineAt source (-2) = [] ∧
      join [newline] ([-7, 3, 9].map (lineAt source)) = source := by
  intro source
  have hoffsets : OnePerLine source [-7, 3, 9] := by
    refine ⟨by decide, ?_⟩
    intro i offset hoffset
    match i with
    | 0 | 1 | 2 =>
      obtain rfl := Option.some.inj hoffset
      decide
    | i + 3 => cases hoffset
  obtain ⟨hline, _, _, _, _, _, hjoin⟩ := lineAt_parts_source source (-2)
  exact ⟨hoffsets, hline, by decide, hjoin _ hoffsets⟩

end TagIndex.Text
