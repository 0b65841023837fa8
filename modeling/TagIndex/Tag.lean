import TagIndex.Text.Quoted

namespace TagIndex

inductive Kind where
  | function
  | structType
  | unionType
  | enumType
  | errorSet
  | binding
  | enumerant
  | member
deriving DecidableEq, Repr

namespace Kind

def letter : Kind → String
  | function => "f"
  | structType => "s"
  | unionType => "u"
  | enumType => "g"
  | errorSet => "r"
  | binding => "v"
  | enumerant => "e"
  | member => "m"

def all : List Kind :=
  [function, structType, unionType, enumType, errorSet, binding, enumerant, member]

def ofLetter? (text : String) : Option Kind := all.find? fun kind => kind.letter = text

theorem ofLetter?_letter (kind : Kind) : ofLetter? kind.letter = some kind := by
  cases kind <;> decide

end Kind

/-- The container around a tag: its keyword and the path of names down to it. -/
structure Enclosure where
  label : Bytes
  path : Bytes
deriving DecidableEq, Repr

/-- A tag line before its checks. The pattern is already escaped. -/
structure Draft where
  name : Bytes
  path : Bytes
  pattern : Bytes
  kind : String
  label : Option Bytes := none
  scope : Option Bytes := none
deriving DecidableEq, Repr

/-- A tag that the format can write. -/
structure Tag where
  name : Bytes
  path : Bytes
  pattern : Bytes
  kind : Kind
  enclosure : Option Enclosure
  name_ne_nil : name ≠ []
  pattern_ne_nil : pattern ≠ []
deriving DecidableEq

inductive Refusal where
  | emptyName
  | emptyPattern
  | unknownKind (kind : String)
  | halfScope
deriving DecidableEq, Repr

def Refusal.message : Refusal → String
  | emptyName => "Tag name must not be empty"
  | emptyPattern => "Tag pattern must not be empty"
  | unknownKind kind => "Unknown tag kind " ++ Text.quoted kind
  | halfScope => "Scope label and scope path must be set together"

def Enclosure.ofParts : Option Bytes → Option Bytes → Except Refusal (Option Enclosure)
  | none, none => .ok none
  | some label, some path => .ok (some ⟨label, path⟩)
  | _, _ => .error .halfScope

/-- The checks, in the order in which they are reported. -/
def Draft.check (draft : Draft) : Except Refusal Tag :=
  if hn : draft.name = [] then .error .emptyName
  else if hp : draft.pattern = [] then .error .emptyPattern
  else match Kind.ofLetter? draft.kind with
    | none => .error (.unknownKind draft.kind)
    | some kind => match Enclosure.ofParts draft.label draft.scope with
      | .error refusal => .error refusal
      | .ok enclosure => .ok
        { name := draft.name, path := draft.path, pattern := draft.pattern
          kind := kind, enclosure := enclosure
          name_ne_nil := hn, pattern_ne_nil := hp }

namespace Tag

def tab : UInt8 := 9

/-- The last field of a line, present inside a container only. -/
def scopeField : Option Enclosure → Bytes
  | none => []
  | some enclosure => tab :: enclosure.label ++ Bytes.ofString ":" ++ enclosure.path

def line (tag : Tag) : Bytes :=
  tag.name ++ tab :: tag.path ++ tab :: Bytes.ofString "/^" ++ tag.pattern ++
    Bytes.ofString "$/;\"" ++ tab :: Bytes.ofString tag.kind.letter ++
    scopeField tag.enclosure ++ [Bytes.newline]

end Tag

end TagIndex
