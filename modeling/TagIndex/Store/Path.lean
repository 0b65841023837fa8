import TagIndex.Bytes

namespace TagIndex

abbrev Place := List Bytes

namespace Path

def dot : Bytes := Bytes.ofString "."

def dotDot : Bytes := Bytes.ofString ".."

def names (path : Bytes) : List Bytes := Bytes.split Bytes.slash path

def isAbsolute (path : Bytes) : Bool := path.head? = some Bytes.slash

/-- The place where reading a path begins. -/
def origin (workdir : Place) (path : Bytes) : Place := if isAbsolute path then [] else workdir

/-- The last name of a path, empty behind a final slash. -/
def baseName (path : Bytes) : Bytes := (names path).getLastD []

/-- One name of a path read by its letters alone: `..` goes up whatever it leaves. -/
def follow (place : Place) (name : Bytes) : Place :=
  if name = [] ∨ name = dot then place
  else if name = dotDot then place.dropLast
  else place ++ [name]

/-- The place that a path spells, without looking at any file. -/
def spelled (workdir : Place) (path : Bytes) : Place :=
  (names path).foldl follow (origin workdir path)

def ofPlace (place : Place) : Bytes := Bytes.slash :: Bytes.join [Bytes.slash] place

end Path

end TagIndex
