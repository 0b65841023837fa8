import TagIndex.Settings.Resolve
import TagIndex.Store.Basic

namespace TagIndex.Settings

/-- The mapping in a settings file, empty where a problem was passed over. -/
def loadFile (store : Store) (documents : DocumentReader) (path : Bytes) (strict : Bool) :
    Check Mapping := do
  match store.read path with
  | .error (.system fault) =>
    if fault.condition = .notFound then
      report strict (.fileMissing path fault)
      return []
    else throw (.fault (.system fault))
  | .error fault => throw (.fault fault)
  | .ok content =>
    match documents content with
    | .error (.malformed detail) =>
      report strict (.fileMalformed path detail)
      return []
    | .error (.failed cause) => throw (.document cause)
    | .ok .null => return []
    | .ok (.map payload) => return payload
    | .ok value =>
      report strict (.notMapping value.typeName)
      return []

/-- The settings file to read: the caller's, or else the environment's. An empty path is none. -/
def filePath? (path : Option Bytes) (env : Environment) : Option Bytes :=
  let chosen := match path with
    | some (b :: rest) => some (b :: rest)
    | _ => env.settingsPath
  chosen.filter (· ≠ [])

def load (store : Store) (documents : DocumentReader) (path : Option Bytes) (env : Environment)
    (overrides : Overrides) : Check Settings := do
  let strict := strictFlag env false
  let payload ← match filePath? path env with
    | none => pure []
    | some path => do
      let payload ← loadFile store documents path strict
      note (.settingsLoaded path)
      pure payload
  resolve payload strict env overrides

end TagIndex.Settings
