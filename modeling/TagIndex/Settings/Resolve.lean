import TagIndex.Settings.Basic
import TagIndex.Text.Lowercase
import TagIndex.Text.Trim

namespace TagIndex.Settings

/-- Whether the environment asks for strict mode; `preset` counts when it says nothing. -/
def strictFlag (env : Environment) (preset : Bool) : Bool :=
  match env.strict with
  | none => preset
  | some raw =>
    let word := Text.lower ((Text.trim (Text.looks (Text.ofPath raw))).map .char)
    ["1", "true", "yes", "on"].any (word = Text.ofString ·)

def knownKeys : List String := ["log_level", "output", "strict"]

def texts? : List Value → Option (List Text)
  | [] => some []
  | .text s :: rest => (texts? rest).map (s :: ·)
  | _ :: _ => none

/-- Whether a text comes before another or is the same, by the values of their code points. -/
def inOrder : Text → Text → Bool
  | [], _ => true
  | _ :: _, [] => false
  | a :: s, b :: t => a.value < b.value || (a = b && inOrder s t)

def fullTypeName : Value → String
  | .date _ => "datetime.date"
  | .moment _ => "datetime.datetime"
  | value => value.typeName

/-- Why one of two keys cannot be put before the other, if there is a reason. -/
def disorder? (later earlier : Value) : Option String :=
  match later, earlier with
  | .text _, .text _ | .bytes _, .bytes _ | .date _, .date _ => none
  | .moment a, .moment b =>
    if a.offset.isSome = b.offset.isSome then none
    else some "can't compare offset-naive and offset-aware datetimes"
  | .moment _, .date _ | .date _, .moment _ =>
    some "can't compare datetime.datetime to datetime.date"
  | a, b =>
    if a.number?.isSome && b.number?.isSome then none
    else
      some ("'<' not supported between instances of '" ++ fullTypeName a ++ "' and '" ++
        fullTypeName b ++ "'")

def firstDisorder? : List Value → Option String
  | earlier :: later :: rest =>
    (disorder? later earlier).or (firstDisorder? (later :: rest))
  | _ => none

/-- The least of a value and of others that are of its kind. Only numbers differ in their types, so
only they are compared. -/
def least (value : Value) : List Value → Value
  | [] => value
  | other :: rest =>
    match value.number?, other.number? with
    | some x, some y => least (if y.less x then other else value) rest
    | _, _ => least value rest

/-- What is said about unknown keys that are not all texts. They cannot be joined, and keys of
different kinds cannot even be put in order. -/
def mixedKeysMessage (keys : List Value) : String :=
  match firstDisorder? keys, keys with
  | some reason, _ => reason
  | none, first :: rest =>
    "sequence item 0: expected str instance, " ++ fullTypeName (least first rest) ++ " found"
  | none, [] => ""

def unknownKeys (payload : Mapping) : Check (List Text) := do
  let unknown := (payload.map (·.1)).filter fun key =>
    !knownKeys.any fun known => key.sameKey (.ofString known)
  match texts? unknown with
  | some keys => return keys.mergeSort inOrder
  | none => throw (.mixedKeys (mixedKeysMessage unknown))

/-- The level that the text of a value names, whatever its case and the blanks around it. -/
def levelOf? (shown : String) : Option Level :=
  Level.ofName? (String.ofList (Text.upper (Text.trim shown.toList)))

/-- The last usable level of some candidates, in front of which stands `level`. -/
def resolveLevel (strict : Bool) (level : Level) : List Value → Check Level
  | [] => return level
  | value :: rest => do
    let shown ← wording value.shown?
    match levelOf? shown with
    | some level => resolveLevel strict level rest
    | none =>
      report strict (.unknownLevel shown)
      resolveLevel strict level rest

/-- The last usable output of some candidates, in front of which stands `output`. -/
def resolveOutput (strict : Bool) (output : Text) : List Wish → Check Text
  | [] => return output
  | wish :: rest =>
    match wish.accepted? with
    | some output => resolveOutput strict output rest
    | none => do
      report strict (.unusableOutput (← wording wish.quoted?))
      resolveOutput strict output rest

/-- A setting that is present and not null. -/
def setting? (payload : Mapping) (key : String) : Option Value :=
  match payload.get? key with
  | some .null | none => none
  | some value => some value

def levelCandidates (payload : Mapping) (env : Environment) (overrides : Overrides) : List Value :=
  (setting? payload "log_level").toList ++ (env.level.map Value.ofPath).toList ++
    (overrides.level.map Value.ofString).toList

def outputCandidates (payload : Mapping) (overrides : Overrides) : List Wish :=
  ((setting? payload "output").map Wish.value).toList ++ overrides.output.toList

/-- The settings. Unknown keys are judged by the caller's strictness alone; the payload can only ask
for more strictness, and what it asks for holds from then on. -/
def resolve (payload : Mapping) (strict : Bool) (env : Environment) (overrides : Overrides) :
    Check Settings := do
  let unknown ← unknownKeys payload
  if !unknown.isEmpty then report strict (.unknownKeys unknown)
  let strict := (payload.get? "strict").any (·.isTruthy) || strict
  let level ← resolveLevel strict .warning (levelCandidates payload env overrides)
  let output ← resolveOutput strict (Text.ofString "-") (outputCandidates payload overrides)
  return { level := level, output := output, strict := strict }

end TagIndex.Settings
