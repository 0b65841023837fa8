import TagIndex.Command.Program
import TagIndex.Yaml.Document
import TagIndex.Zig.Declaration

namespace TagIndex.Disk

def textOf (path : Bytes) : String := Text.Utf8.decodeLossy path

def faultOf (path : Bytes) (error : IO.Error) : SystemFault :=
  let (number, reason) : Option UInt32 × String := match error with
    | .otherError n s | .resourceBusy n s | .resourceVanished n s | .unsupportedOperation n s
    | .hardwareFault n s | .unsatisfiedConstraints n s | .illegalOperation n s | .protocolError n s
    | .timeExpired n s | .interrupted _ n s | .noFileOrDirectory _ n s | .alreadyExists _ n s
    | .invalidArgument _ n s | .permissionDenied _ n s | .resourceExhausted _ n s
    | .inappropriateType _ n s | .noSuchThing _ n s => (some n, s)
    | .unexpectedEof => (none, "unexpected end of file")
    | .userError s => (none, s)
  let number := number.map fun n => (n.toNat : Int)
  { condition := (number.map Condition.ofNumber).getD .other
    number := number, reason := reason, path := some path }

/-- The store with what stands at one more path. Reading tells whether it is a directory or nothing
at all; any other fault is one that the run will meet. -/
def look (store : Store) (path : Bytes) : IO Store := do
  match ← (IO.FS.readBinFile (textOf path)).toBaseIO with
  | .ok content => return store.install path (.file content.toList 0o644)
  | .error error =>
    let fault := faultOf path error
    return match fault.condition with
      | .isDirectory => store.install path .directory
      | .notFound => store
      | _ => store.refuse path fault

def gather (store : Store) (paths : List Bytes) : IO Store := paths.foldlM look store

/-- The invocation with everything in its store that its run looks at: the inputs and the settings
file, then the output that the settings name and the directory around it. -/
def furnish (inv : Invocation) : IO Invocation := do
  match Arguments.parse inv.arguments with
  | .error _ => return inv
  | .ok parsed =>
    let file? := Settings.filePath? (parsed.settings.map Program.givenPath) inv.environment
    let inv := { inv with store := ← gather inv.store (parsed.files.getD [] ++ file?.toList) }
    match Program.loadSettings inv parsed with
    | (.error _, _) => return inv
    | (.ok settings, _) =>
      let output := (Text.toPath? settings.output).getD []
      let around := Path.ofPlace (Path.spelled inv.store.workdir output).dropLast
      return { inv with store := ← gather inv.store [output, around] }

/-- Writes back the files that differ. Each is written beside its place and then moved. -/
def commit (before after : Store) : IO Unit := do
  for (place, item) in after.items do
    match item with
    | .directory => pure ()
    | .file content _ =>
      if before.item? place ≠ some item then
        let path := textOf (Path.ofPlace place)
        IO.FS.writeBinFile (path ++ ".new") ⟨content.toArray⟩
        IO.FS.rename (path ++ ".new") path

end TagIndex.Disk

open TagIndex

def main (args : List String) : IO UInt32 := do
  let workdir := Path.spelled [] (Bytes.ofString (← IO.currentDir).toString)
  let inv ← Disk.furnish
    { program := Bytes.ofString (← IO.appPath).toString
      arguments := args.map Bytes.ofString
      environment :=
        { settingsPath := (← IO.getEnv "ZTAGS_CONFIG").map Bytes.ofString
          level := (← IO.getEnv "ZTAGS_LOG_LEVEL").map Bytes.ofString
          strict := (← IO.getEnv "STRICT_CONFIG_VALIDATION").map Bytes.ofString }
      store := { workdir := workdir }
      reader := Zig.read
      documents := Yaml.reader fun _ => Yaml.Error.malformed.message
      scratch := { stamp := Bytes.ofString "scratch" } }
  let result := Program.run inv
  Disk.commit inv.store result.store
  (← IO.getStderr).putStr result.console.stderr
  (← IO.getStdout).write ⟨result.stdout.held.toArray⟩
  match result.ending with
  | .exit code => return code.toUInt32
  | .escape cause =>
    (← IO.getStderr).putStrLn cause.message
    return 1
