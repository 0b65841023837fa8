import TagIndex.Batch
import TagIndex.Command.Arguments
import TagIndex.Command.Help
import TagIndex.Journal.Console
import TagIndex.Settings.Load

namespace TagIndex

/-- How the scratch file of a run behaves: the part of its name that makes it new, its device, and
what stands in the way of making it, of setting its mode and of moving it. -/
structure Scratch where
  stamp : Bytes
  device : Device := .steady
  onCreate : Option SystemFault := none
  onMode : Option SystemFault := none
  onMove : Option SystemFault := none

structure Invocation where
  program : Bytes
  arguments : List Bytes
  environment : Environment := {}
  store : Store
  reader : Reader
  documents : DocumentReader
  umask : Nat := 0o022
  stdout : Device := .steady
  scratch : Scratch

inductive Escape where
  | settings (failure : Settings.Failure)
  | session (failure : Failure)
  | fault (cause : Fault)
  /-- The output has a code point that no path can hold. -/
  | unwritablePath (path : Text)
deriving Repr

def Escape.message : Escape → String
  | settings failure => failure.message
  | session failure => failure.message
  | fault cause => cause.message
  | unwritablePath path =>
    let place := (path.takeWhile fun point => (Text.pathBytes? point).isSome).length
    "'utf-8' codec can't encode character '" ++ Text.display ((path.drop place).take 1) ++
      "' in position " ++ toString place ++ ": surrogates not allowed"

inductive Ending where
  | exit (code : Nat)
  | escape (cause : Escape)
deriving Repr

/-- What a run leaves behind. `silenced` tells whether standard output was given up. -/
structure Result where
  ending : Ending
  stdout : Sink
  console : Console
  store : Store
  silenced : Bool := false

namespace Program

def programName (argv0 : Bytes) : Bytes :=
  let name := Path.baseName argv0
  if name = [] then Bytes.ofString "ztags" else name

/-- The level that a number of `-v` options asks for. -/
def verbosityLevel? : Nat → Option String
  | 0 => none
  | 1 => some Level.info.name
  | _ => some Level.debug.name

/-- The wish that an `-o` option makes. A value that was lost is no path. -/
def wish : Arguments.Given → Settings.Wish
  | .text value => .path value
  | .nothing => .value (.list [])

/-- The path that a `--config` option gives. -/
def givenPath : Arguments.Given → Bytes
  | .text value => value
  | .nothing => []

def scratchName (scratch : Scratch) (output : Bytes) : Bytes :=
  Path.dot ++ Path.baseName output ++ Path.dot ++ scratch.stamp ++ Bytes.ofString ".tmp"

/-- Where the scratch file for an output stands: beside the output. -/
def scratchPlace (inv : Invocation) (output : Bytes) : Place :=
  (Path.spelled inv.store.workdir output).dropLast ++ [scratchName inv.scratch output]

def outputMode (umask : Nat) : Nat := 0o666 &&& (0o777 ^^^ (umask &&& 0o777))

/-- The result of tagging: the number of processed files, and the files afterwards. -/
structure Tagged where
  outcome : Except Failure Int
  session : Session
  store : Store

def tagInto (inv : Invocation) (store : Store) (sink : Sink) (files : List Bytes) :
    Except Failure Stats × Session :=
  match Session.tagFiles store inv.reader { sink := sink } files with
  | (.error failure, session) => (.error failure, session)
  | (.ok stats, session) =>
    match session.flush with
    | (none, session) => (.ok stats, session)
    | (some failure, session) => (.error failure, session)

def finish (inv : Invocation) (store : Store) (place : Place) (content output : Bytes) :
    Except Failure Store :=
  match inv.scratch.onMode, inv.scratch.onMove with
  | some fault, _ | none, some fault => .error (.fault (.system fault))
  | none, none =>
    match (store.put place (.file content (outputMode inv.umask))).move place output with
    | .ok store => .ok store
    | .error fault => .error (.fault fault)

/-- Tags into a file. The scratch file is gone afterwards, whatever happened. -/
def tagIntoFile (inv : Invocation) (files : List Bytes) (output : Bytes) : Tagged :=
  let place := scratchPlace inv output
  let path := Path.ofPlace place
  let created : Except Fault Store := match inv.scratch.onCreate with
    | some fault => .error (.system fault)
    | none => if output.contains 0 then .error .zeroByte else inv.store.create path
  match created with
  | .error fault => ⟨.error (.fault fault), {}, inv.store⟩
  | .ok store =>
    match tagInto inv store { device := inv.scratch.device } files with
    | (.error failure, session) => ⟨.error failure, session, store.remove place⟩
    | (.ok stats, session) =>
      -- without a processed file the index that is there stays
      if 0 < stats.processed then
        match finish inv store place session.sink.held output with
        | .error failure => ⟨.error failure, session, store.remove place⟩
        | .ok store =>
          ⟨.ok stats.processed, session.note (.outputWritten stats.tags output), store⟩
      else ⟨.ok stats.processed, session, store.remove place⟩

def stdoutMark : Bytes := Bytes.ofString "-"

def deliver (inv : Invocation) (files : List Bytes) (output : Bytes) : Tagged :=
  if output = stdoutMark then
    let (outcome, session) := tagInto inv inv.store { device := inv.stdout } files
    ⟨outcome.map (·.processed), session, inv.store⟩
  else tagIntoFile inv files output

/-- Ends a run in which tagging failed. Faults of the output and of the files are logged, others
escape. -/
def conclude (failure : Failure) (result : Result) : Result :=
  let logged (notice : Notice) (silenced : Bool) : Result :=
    { result with
      ending := .exit 1
      console := result.console.replay [⟨noSource, notice⟩]
      silenced := silenced }
  match failure with
  | .write _ cause | .flush cause =>
    -- after a broken pipe nothing more may be written when the process ends
    logged (.outputFailed failure.message) (cause.condition = .brokenPipe)
  | .fault (.system _) => logged (.filesFailed failure.message) false
  | .refused _ | .fault (.invalid _) => { result with ending := .escape (.session failure) }

/-- Says that nothing was processed, and offers the script on standard output. -/
def offerScript (program : String) (result : Result) : Result :=
  let console := result.console.print (Help.noFiles program)
  let result := { result with console := console }
  match result.stdout.write (Bytes.ofString (Help.sortScript program)) with
  | (some fault, sink) => { result with ending := .escape (.fault fault), stdout := sink }
  | (none, sink) =>
    match sink.flush with
    | (some fault, sink) => { result with ending := .escape (.fault fault), stdout := sink }
    | (none, sink) => { result with ending := .exit 1, stdout := sink }

def work (inv : Invocation) (console : Console) (output : Bytes) (files : List Bytes) : Result :=
  let program := Text.displayPath (programName inv.program)
  let tagged := deliver inv files output
  let result : Result :=
    { ending := .exit 0
      stdout :=
        if output = stdoutMark then tagged.session.sink else { device := inv.stdout }
      console := console.replay tagged.session.journal.entries
      store := tagged.store }
  match tagged.outcome with
  | .error failure => conclude failure result
  | .ok processed => if processed = 0 then offerScript program result else result

def loadSettings (inv : Invocation) (parsed : Arguments.Parsed) :
    Except Settings.Failure Settings × Journal :=
  let overrides : Settings.Overrides :=
    { level := verbosityLevel? parsed.verbosity, output := parsed.output.map wish }
  (Settings.load inv.store inv.documents (parsed.settings.map givenPath) inv.environment
    overrides).run.run {}

/-- Runs with the arguments understood. While settings are loaded the log shows warnings only. -/
def start (inv : Invocation) (parsed : Arguments.Parsed) : Result :=
  let (settings, journal) := loadSettings inv parsed
  let console := (Console.configure {} Level.warning.value).replay journal.entries
  let result : Result :=
    { ending := .exit 1
      stdout := { device := inv.stdout }
      console := console
      store := inv.store }
  match settings with
  | .ok settings =>
    let console := console.configure settings.level.value
    match Text.toPath? settings.output with
    | some output => work inv console output (parsed.files.getD [])
    | none =>
      let path := Text.ofPath (Path.ofPlace inv.store.workdir) ++ Text.ofString "/." ++
        settings.output
      { result with ending := .escape (.unwritablePath path), console := console }
  | .error (.rejected problem) =>
    { result with
      console := console.replay [⟨noSource, .settingsRejected problem.message⟩] }
  | .error failure => { result with ending := .escape (.settings failure) }

def run (inv : Invocation) : Result :=
  let program := Text.displayPath (programName inv.program)
  let idle : Result :=
    { ending := .exit 0, stdout := { device := inv.stdout }, console := {}, store := inv.store }
  match Arguments.parse inv.arguments with
  | .error misuse =>
    { idle with
      ending := .exit 2
      console := idle.console.print (Help.misuse program misuse.message) }
  | .ok parsed =>
    if parsed.help then
      { idle with stdout := (idle.stdout.write (Bytes.ofString (Help.help program))).2 }
    else start inv parsed

end Program

end TagIndex
