namespace TagIndex

/-- A byte string. Nothing promises that sources, paths and names are valid UTF-8. -/
abbrev Bytes := List UInt8

namespace Bytes

def ofString (s : String) : Bytes := s.toList.flatMap String.utf8EncodeChar

def newline : UInt8 := 10

def slash : UInt8 := 47

def backslash : UInt8 := 92

/-- The place between `0` and `length` that an integer offset means. A negative one counts from the
end. -/
def place (length : Nat) (offset : Int) : Nat :=
  if offset < 0 then (offset + length).toNat else min offset.toNat length

theorem place_le (length : Nat) (offset : Int) : place length offset ≤ length := by
  unfold place
  split
  · omega
  · exact Nat.min_le_right _ _

theorem place_natCast {length offset : Nat} (h : offset ≤ length) :
    place length offset = offset := by
  unfold place
  split <;> omega

/-- The bytes from `start` up to `stop`, empty when `stop` does not lie behind `start`. -/
def slice (s : Bytes) (start stop : Int) : Bytes :=
  let i := place s.length start
  let j := place s.length stop
  (s.drop i).take (j - i)

/-- Cuts a byte string at every occurrence of a byte: `n` occurrences give `n + 1` parts. -/
def split (b : UInt8) : Bytes → List Bytes
  | [] => [[]]
  | c :: rest =>
    if c = b then [] :: split b rest
    else match split b rest with
      | [] => [[c]]
      | part :: parts => (c :: part) :: parts

/-- Puts `sep` between the parts. -/
def join (sep : Bytes) : List Bytes → Bytes
  | [] => []
  | [part] => part
  | part :: parts => part ++ sep ++ join sep parts

theorem split_ne_nil (b : UInt8) (s : Bytes) : split b s ≠ [] := by
  cases s with
  | nil => simp [split]
  | cons c rest =>
    unfold split
    split
    · simp
    · split <;> simp

theorem join_split (b : UInt8) (s : Bytes) : join [b] (split b s) = s := by
  induction s with
  | nil => rfl
  | cons c rest ih =>
    obtain ⟨part, parts, hs⟩ := List.exists_cons_of_ne_nil (split_ne_nil b rest)
    rw [hs] at ih
    by_cases h : c = b
    · simp [split, h, hs, join, ih]
    · cases parts <;> simpa [split, h, hs, join] using ih

theorem split_append_cons {b : UInt8} {s : Bytes} (h : b ∉ s) (rest : Bytes) :
    split b (s ++ b :: rest) = s :: split b rest := by
  induction s with
  | nil => simp [split]
  | cons c more ih =>
    obtain ⟨hc, hmore⟩ : b ≠ c ∧ b ∉ more := by simpa using h
    simp [split, Ne.symm hc, ih hmore]

theorem split_of_not_mem {b : UInt8} {s : Bytes} (h : b ∉ s) : split b s = [s] := by
  induction s with
  | nil => rfl
  | cons c more ih =>
    obtain ⟨hc, hmore⟩ : b ≠ c ∧ b ∉ more := by simpa using h
    simp [split, Ne.symm hc, ih hmore]

theorem split_join {b : UInt8} {parts : List Bytes} (hne : parts ≠ [])
    (h : ∀ part ∈ parts, b ∉ part) : split b (join [b] parts) = parts := by
  induction parts with
  | nil => exact absurd rfl hne
  | cons part rest ih =>
    have hpart : b ∉ part := h part (by simp)
    cases rest with
    | nil => exact split_of_not_mem hpart
    | cons next more =>
      have hrest := ih (by simp) fun part hmem => h part (by simp [hmem])
      simp only [join, List.append_assoc, List.singleton_append]
      rw [split_append_cons hpart, hrest]

theorem not_mem_of_mem_split {b : UInt8} {s part : Bytes} (h : part ∈ split b s) : b ∉ part := by
  induction s generalizing part with
  | nil => simp_all [split]
  | cons c rest ih =>
    obtain ⟨first, others, hparts⟩ := List.exists_cons_of_ne_nil (split_ne_nil b rest)
    rw [hparts] at ih
    by_cases hc : c = b
    · have hmem : part = [] ∨ part ∈ first :: others := by simpa [split, hc, hparts] using h
      rcases hmem with rfl | hmem
      · simp
      · exact ih hmem
    · have hmem : part = c :: first ∨ part ∈ others := by simpa [split, hc, hparts] using h
      rcases hmem with rfl | hmem
      · have hfirst : b ∉ first := ih (by simp)
        simpa [Ne.symm hc] using hfirst
      · exact ih (by simp [hmem])

end Bytes

end TagIndex
