import TagIndex.Fault
import TagIndex.Store.Path

namespace TagIndex

/-- What stands at a place. The mode of a file is among what a run leaves behind. -/
inductive Item where
  | file (content : Bytes) (mode : Nat)
  | directory
deriving DecidableEq, Repr

/-- The working directory and the directories above it are always there. `onRead` is what the system
answers instead of letting a path be read, whatever stands there. -/
structure Store where
  workdir : Place
  items : List (Place × Item) := []
  onRead : Bytes → Option SystemFault := fun _ => none

namespace Store

def item? (store : Store) (place : Place) : Option Item :=
  if place.isPrefixOf store.workdir then some .directory else store.items.lookup place

def remove (store : Store) (place : Place) : Store :=
  { store with items := store.items.filter fun entry => entry.1 != place }

def put (store : Store) (place : Place) (item : Item) : Store :=
  { store with items := (place, item) :: (store.remove place).items }

def refuse (store : Store) (path : Bytes) (fault : SystemFault) : Store :=
  { store with onRead := fun other => if other = path then some fault else store.onRead other }

/-- Puts an item at the place that a path spells and makes the directories above it. -/
def install (store : Store) (path : Bytes) (item : Item) : Store :=
  let place := Path.spelled store.workdir path
  let parents := (List.range place.length).map place.take
  let store := parents.foldl
    (fun store parent => if (store.item? parent).isSome then store else store.put parent .directory)
    store
  store.put place item

/-- The longest name, in bytes, that a directory can hold. -/
def longestName : Nat := 255

/-- The longest path, in bytes, that a file operation takes. -/
def longestPath : Nat := 4095

def isDirectory (store : Store) (place : Place) : Bool := store.item? place = some .directory

/-- The place that names lead to from `place`. Every name needs a directory to stand in, also an
empty one behind a final slash. -/
def walk (store : Store) (place : Place) : List Bytes → Except Obstacle Place
  | [] => .ok place
  | name :: rest =>
    if !store.isDirectory place then .error .notDirectory
    else if longestName < name.length then .error .nameTooLong
    else
      let next := Path.follow place name
      if (store.item? next).isSome then store.walk next rest else .error .notFound

/-- Faults of a path that no file operation gets past. -/
def unusable? (path : Bytes) : Option (Except Fault Obstacle) :=
  if path.contains 0 then some (.error .zeroByte)
  else if path = [] then some (.ok .notFound)
  else if longestPath < path.length then some (.ok .nameTooLong)
  else none

def resolve (store : Store) (path : Bytes) : Except Fault Place :=
  match unusable? path with
  | some (.error fault) => .error fault
  | some (.ok obstacle) => .error (.system (obstacle.fault path))
  | none =>
    match store.walk (Path.origin store.workdir path) (Path.names path) with
    | .ok place => .ok place
    | .error obstacle => .error (.system (obstacle.fault path))

/-- The content of the file at a path, unless the system refuses to have it read. -/
def read (store : Store) (path : Bytes) : Except Fault Bytes :=
  if path.contains 0 then .error .zeroByte
  else
    match store.onRead path, store.resolve path with
    | some fault, _ => .error (.system fault)
    | none, .error fault => .error fault
    | none, .ok place =>
      match store.item? place with
      | some (.file content _) => .ok content
      | some .directory => .error (.system (Obstacle.isDirectory.fault path))
      | none => .error (.system (Obstacle.notFound.fault path))

/-- Where a new file of the given path would stand: its directory and its name. -/
def entry (store : Store) (names : List Bytes) (origin : Place) :
    Except Obstacle (Place × Bytes) :=
  match store.walk origin names.dropLast with
  | .error obstacle => .error obstacle
  | .ok directory =>
    let name := names.getLastD []
    if !store.isDirectory directory then .error .notDirectory
    else if longestName < name.length then .error .nameTooLong
    else .ok (directory, name)

/-- Makes an empty file that was not there before, readable by its owner only. -/
def create (store : Store) (path : Bytes) : Except Fault Store :=
  match unusable? path with
  | some (.error fault) => .error fault
  | some (.ok obstacle) => .error (.system (obstacle.fault path))
  | none =>
    match store.entry (Path.names path) (Path.origin store.workdir path) with
    | .error obstacle => .error (.system (obstacle.fault path))
    | .ok (directory, name) =>
      let place := Path.follow directory name
      if (store.item? place).isSome then .error (.system (Obstacle.alreadyThere.fault path))
      else .ok (store.put place (.file [] 0o600))

/-- Where a file can be moved to. A final `.` or `..` names no entry, a final slash asks for a
directory, and a directory cannot be replaced by a file. -/
def landing (store : Store) (target : Bytes) : Except Obstacle Place :=
  let names := Path.names target
  let bare := (names.reverse.dropWhile (· = [])).reverse
  match store.entry bare (Path.origin store.workdir target) with
  | .error obstacle => .error obstacle
  | .ok (directory, name) =>
    if name = [] ∨ name = Path.dot ∨ name = Path.dotDot then .error .busy
    else if bare.length < names.length then .error .notDirectory
    else
      let place := Path.follow directory name
      if store.isDirectory place then .error .isDirectory else .ok place

def move (store : Store) (place : Place) (target : Bytes) : Except Fault Store :=
  match unusable? target with
  | some (.error fault) => .error fault
  | some (.ok obstacle) => .error (.system (obstacle.fault (Path.ofPlace place) (some target)))
  | none =>
    match store.landing target, store.item? place with
    | .error obstacle, _ => .error (.system (obstacle.fault (Path.ofPlace place) (some target)))
    | .ok _, none => .error (.system (Obstacle.notFound.fault (Path.ofPlace place) (some target)))
    | .ok there, some item => .ok ((store.remove place).put there item)

end Store

end TagIndex
