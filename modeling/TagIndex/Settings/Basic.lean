import TagIndex.Fault
import TagIndex.Journal.Basic
import TagIndex.Yaml.Error

namespace TagIndex

structure Settings where
  level : Level := .warning
  output : Text := Text.ofString "-"
  strict : Bool := false
deriving DecidableEq, Repr

/-- The environment variables that the program reads. Their values are bytes, as paths are. -/
structure Environment where
  settingsPath : Option Bytes := none
  level : Option Bytes := none
  strict : Option Bytes := none
deriving DecidableEq, Repr

/-- Why a settings document has no value. The words for what is not well formed are the reader's. -/
inductive DocumentFault where
  | malformed (detail : String)
  | failed (cause : Yaml.Error)
deriving DecidableEq, Repr

/-- How the bytes of a settings file become a value. -/
abbrev DocumentReader := Bytes → Except DocumentFault Value

namespace Settings

/-- A wish for the output: a value from the settings file, or a path from the caller. -/
inductive Wish where
  | value (value : Value)
  | path (path : Bytes)
deriving Repr

/-- What the caller asks for over all other sources. -/
structure Overrides where
  level : Option String := none
  output : Option Wish := none
deriving Repr

namespace Wish

def accepted? : Wish → Option Text
  | value (.text s) => if s = [] then none else some s
  | value _ => none
  | path p => if p = [] then none else some (Text.ofPath p)

def quoted? : Wish → Option String
  | value v => v.quoted?
  | path p => some (Text.quotedPath p)

end Wish

/-- What can be wrong. Values are kept as messages show them. -/
inductive Problem where
  | fileMissing (path : Bytes) (cause : SystemFault)
  | fileMalformed (path : Bytes) (detail : String)
  | notMapping (typeName : String)
  | unknownKeys (keys : List Text)
  | unknownLevel (shown : String)
  | unusableOutput (quoted : String)
deriving Repr

def Problem.message : Problem → String
  | fileMissing path _ => "Config file not found: " ++ Text.displayPath path
  | fileMalformed path detail =>
    "Failed to parse config YAML at " ++ Text.displayPath path ++ ": " ++ detail
  | notMapping typeName => "Unexpected config payload type: " ++ typeName
  | unknownKeys keys => "Unknown config keys: " ++ ", ".intercalate (keys.map Text.display)
  | unknownLevel shown => "Unknown log level '" ++ shown ++ "'"
  | unusableOutput quoted => "Invalid output path: " ++ quoted

/-- Why there are no settings: a rejected problem, or something that no mode passes over. -/
inductive Failure where
  | rejected (problem : Problem)
  | fault (cause : Fault)
  | document (cause : Yaml.Error)
  | mixedKeys (message : String)
  /-- A message would have to show an integer with too many digits. -/
  | longInteger
deriving Repr

def Failure.message : Failure → String
  | rejected problem => problem.message
  | fault cause => cause.message
  | document cause => cause.message
  | mixedKeys message => message
  | longInteger => Yaml.Error.digitLimit ""

/-- Work on settings: it keeps a journal and may fail. The journal stays when it fails. -/
abbrev Check := ExceptT Failure (StateM Journal)

def note (notice : Notice) : Check Unit := modify (·.note notice)

def wording (text? : Option String) : Check String :=
  match text? with
  | some text => return text
  | none => throw .longInteger

/-- Rejects a problem in strict mode and warns about it otherwise. -/
def report (strict : Bool) (problem : Problem) : Check Unit :=
  if strict then throw (.rejected problem) else note (.settingIgnored problem.message)

end Settings

end TagIndex
