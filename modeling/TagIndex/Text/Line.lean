import TagIndex.Bytes

namespace TagIndex.Text

open Bytes

/-- The part of a byte string behind its last newline. -/
def lastLine (s : Bytes) : Bytes := (s.reverse.takeWhile (· != newline)).reverse

/-- The part of a byte string before its first newline. -/
def firstLine (s : Bytes) : Bytes := s.takeWhile (· != newline)

/-- The line that holds `offset`. A newline byte belongs to the line it ends. -/
def lineAt (source : Bytes) (offset : Int) : Bytes :=
  let here := place source.length offset
  lastLine (source.take here) ++ firstLine (source.drop here)

theorem newline_not_mem_lineAt (source : Bytes) (offset : Int) :
    newline ∉ lineAt source offset := by
  have clean (s : Bytes) : newline ∉ s.takeWhile (· != newline) := by
    induction s with
    | nil => simp
    | cons b rest ih => by_cases h : b = newline <;> simp [h, ih, Ne.symm]
  intro h
  rcases List.mem_append.mp h with h | h
  · exact clean _ (List.mem_reverse.mp h)
  · exact clean _ h

end TagIndex.Text
