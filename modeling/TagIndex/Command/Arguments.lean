import TagIndex.Text.Digit
import TagIndex.Text.Quoted

namespace TagIndex

inductive Flag where
  | help
  | output
  | settings
  | verbose
deriving DecidableEq, Repr

namespace Flag

def spellings : List (Bytes × Flag) :=
  [("-h", help), ("--help", help), ("-o", output), ("--output", output), ("--config", settings),
   ("-v", verbose), ("--verbose", verbose)].map fun (text, flag) => (Bytes.ofString text, flag)

def takesValue : Flag → Bool
  | output | settings => true
  | help | verbose => false

def title : Flag → String
  | help => "-h/--help"
  | output => "-o/--output"
  | settings => "--config"
  | verbose => "-v/--verbose"

end Flag

namespace Arguments

inductive Misuse where
  | ambiguous (argument : Bytes) (spellings : List Bytes)
  | needsValue (flag : Flag)
  | ignoredValue (flag : Flag) (value : Bytes)
  | unrecognized (arguments : List Bytes)
deriving DecidableEq, Repr

open Text (displayPath)

def Misuse.message : Misuse → String
  | ambiguous argument spellings =>
    "ambiguous option: " ++ displayPath argument ++ " could match " ++
      ", ".intercalate (spellings.map displayPath)
  | needsValue flag => "argument " ++ flag.title ++ ": expected one argument"
  | ignoredValue flag value =>
    "argument " ++ flag.title ++ ": ignored explicit argument " ++ Text.quotedPath value
  | unrecognized arguments =>
    "unrecognized arguments: " ++ " ".intercalate (arguments.map displayPath)

/-- What an argument is, seen on its own. -/
inductive Role where
  | plain
  | separator
  | unknown
  | option (flag : Flag) (spelling : Bytes) (value : Option Bytes)
deriving DecidableEq, Repr

def hyphen : UInt8 := 45

def equals : UInt8 := 61

/-- The text before the first equals sign, and the text behind it if there is one. -/
def splitEquals (argument : Bytes) : Bytes × Option Bytes :=
  match argument.dropWhile (· ≠ equals) with
  | [] => (argument, none)
  | _ :: value => (argument.takeWhile (· ≠ equals), some value)

/-- Digits, or a point with digits behind it and perhaps before it. -/
def isNumeral (cs : List Char) : Bool :=
  match cs.dropWhile Text.isDecimal with
  | [] => !cs.isEmpty
  | point :: fraction => point = '.' && !fraction.isEmpty && fraction.all Text.isDecimal

/-- A hyphen and a numeral. A final line feed is passed over. -/
def isNegativeNumber (argument : Bytes) : Bool :=
  let body := if argument.getLast? = some Bytes.newline then argument.dropLast else argument
  match Text.Utf8.decode? body with
  | none => false
  | some text => text.toList.head? = some '-' && isNumeral text.toList.tail

/-- The options that an argument may mean when it is not spelled in full. -/
def candidates (argument : Bytes) : List (Bytes × Flag × Option Bytes) :=
  if argument[1]? = some hyphen then
    let (start, value) := splitEquals argument
    Flag.spellings.filterMap fun (spelling, flag) =>
      if start.isPrefixOf spelling then some (spelling, flag, value) else none
  else
    Flag.spellings.filterMap fun (spelling, flag) =>
      if spelling = argument.take 2 then some (spelling, flag, some (argument.drop 2)) else none

def role (argument : Bytes) : Except Misuse Role :=
  if argument.head? ≠ some hyphen then .ok .plain
  else match Flag.spellings.lookup argument with
    | some flag => .ok (.option flag argument none)
    | none =>
      if argument.length = 1 then .ok .plain
      else
        let (start, value) := splitEquals argument
        match value, Flag.spellings.lookup start with
        | some value, some flag => .ok (.option flag start (some value))
        | _, _ =>
          match candidates argument with
          | [(spelling, flag, value)] => .ok (.option flag spelling value)
          | [] =>
            if isNegativeNumber argument || argument.contains 32 then .ok .plain
            else .ok .unknown
          | several => .error (.ambiguous argument (several.map (·.1)))

/-- The roles of all arguments. Behind `--` every argument is plain. -/
def roles : List Bytes → Except Misuse (List (Bytes × Role))
  | [] => .ok []
  | argument :: rest =>
    if argument = [hyphen, hyphen] then
      .ok ((argument, .separator) :: rest.map fun argument => (argument, .plain))
    else
      match role argument, roles rest with
      | .error misuse, _ => .error misuse
      | .ok _, .error misuse => .error misuse
      | .ok role, .ok roles => .ok ((argument, role) :: roles)

/-- The value of an option. A value that is spelled `--` is lost, and nothing is left of it. -/
inductive Given where
  | text (value : Bytes)
  | nothing
deriving DecidableEq, Repr

def Given.of (value : Bytes) : Given := if value = [hyphen, hyphen] then .nothing else .text value

/-- The arguments as they were understood. `files` is absent until the run of files was met. -/
structure Parsed where
  files : Option (List Bytes) := none
  output : Option Given := none
  settings : Option Given := none
  verbosity : Nat := 0
  help : Bool := false
  extras : List Bytes := []
deriving DecidableEq, Repr

/-- Carries out an option. Once help was asked for nothing else matters. -/
def Parsed.apply (parsed : Parsed) : Flag × Option Bytes → Parsed
  | (flag, value) =>
    if parsed.help then parsed
    else match flag, value with
      | .help, _ => { parsed with help := true }
      | .verbose, _ => { parsed with verbosity := parsed.verbosity + 1 }
      | .output, value => { parsed with output := value.map Given.of }
      | .settings, value => { parsed with settings := value.map Given.of }

abbrev Taken := List (Flag × Option Bytes) × List (Bytes × Role)

/-- An option without a value attached to it. If it needs one, the next argument must be it. -/
def detached (rest : List (Bytes × Role)) (flag : Flag) : Except Misuse Taken :=
  if !flag.takesValue then .ok ([(flag, none)], rest)
  else
    match rest with
    | (value, .plain) :: rest => .ok ([(flag, some value)], rest)
    | _ => .error (.needsValue flag)

/-- An option with a value attached to it. A short option that needs none takes the value for a
cluster of further short options. -/
def attached (rest : List (Bytes × Role)) (flag : Flag) (isLong : Bool) (value : Bytes) :
    Except Misuse Taken :=
  if flag.takesValue then .ok ([(flag, some value)], rest)
  else if isLong then .error (.ignoredValue flag value)
  else
    match value with
    | [] => .error (.ignoredValue flag value)
    | letter :: more =>
      match Flag.spellings.lookup [hyphen, letter] with
      | none => .error (.ignoredValue flag value)
      | some next =>
        match (if more.isEmpty then detached rest next else attached rest next false more) with
        | .error misuse => .error misuse
        | .ok (options, rest) => .ok ((flag, none) :: options, rest)

def options (rest : List (Bytes × Role)) (flag : Flag) (spelling : Bytes) :
    Option Bytes → Except Misuse Taken
  | none => detached rest flag
  | some value => attached rest flag (spelling[1]? = some hyphen) value

def isFile : Bytes × Role → Bool
  | (_, .plain) | (_, .separator) => true
  | _ => false

/-- The files of a run: the first `--` in it is dropped. -/
def fileRun (run : List (Bytes × Role)) : List Bytes :=
  (run.map (·.1)).erase [hyphen, hyphen]

/-- Goes through the arguments. The first run of files is taken, later ones are left over. -/
def go (parsed : Parsed) (arguments : List (Bytes × Role)) : Nat → Except Misuse Parsed
  | 0 => .ok parsed
  | fuel + 1 =>
    if parsed.help then .ok parsed
    else match arguments with
      | [] => .ok parsed
      | (argument, .unknown) :: rest =>
        go { parsed with extras := parsed.extras ++ [argument] } rest fuel
      | (_, .option flag spelling value) :: rest =>
        match options rest flag spelling value with
        | .error misuse => .error misuse
        | .ok (taken, rest) => go (taken.foldl Parsed.apply parsed) rest fuel
      | arguments =>
        let run := arguments.takeWhile isFile
        let rest := arguments.dropWhile isFile
        match parsed.files with
        | none => go { parsed with files := some (fileRun run) } rest fuel
        | some _ => go { parsed with extras := parsed.extras ++ run.map (·.1) } rest fuel

/-- Reads the arguments. Asking for help wins over arguments that are left over. -/
def parse (arguments : List Bytes) : Except Misuse Parsed :=
  match roles arguments with
  | .error misuse => .error misuse
  | .ok roles =>
    match go {} roles (roles.length + 1) with
    | .error misuse => .error misuse
    | .ok parsed =>
      if parsed.help || parsed.extras.isEmpty then .ok parsed
      else .error (.unrecognized parsed.extras)

end Arguments

end TagIndex
