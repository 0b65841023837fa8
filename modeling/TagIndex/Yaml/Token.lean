import TagIndex.Text.Utf8
import TagIndex.Yaml.ScalarText

namespace TagIndex.Yaml

inductive Token where
  | documentStart
  | documentEnd
  | versionDirective (major : Nat)
  | tagDirective (handle expansion : String)
  | otherDirective
  | blockSequenceStart
  | blockMappingStart
  | blockEnd
  | flowSequenceStart
  | flowSequenceEnd
  | flowMappingStart
  | flowMappingEnd
  | blockEntry
  | flowEntry
  | key
  | value
  | reference (name : String)
  | anchor (name : String)
  | tag (handle : Option String) (suffix : String)
  | scalar (text : Text) (plain : Bool)
deriving DecidableEq, Repr

/-- A token that may turn out to be a key. It must when it stands where only a key can stand. -/
structure PossibleKey where
  position : Nat
  required : Bool
  index : Nat
  line : Nat
  column : Nat
deriving Repr

/-- The state of scanning. `keys` holds at most one possible key for each flow level; `indent` is
the column of the innermost block, `-1` outside of all. -/
structure Scan where
  cursor : Cursor
  tokens : List Token := []
  flow : Nat := 0
  indent : Int := -1
  indents : List Int := []
  allowKey : Bool := true
  keys : List (Nat × PossibleKey) := []

namespace Scan

def push (scan : Scan) (token : Token) : Scan := { scan with tokens := scan.tokens ++ [token] }

def insert (scan : Scan) (position : Nat) (token : Token) : Scan :=
  { scan with tokens := scan.tokens.take position ++ token :: scan.tokens.drop position }

def column (scan : Scan) : Int := scan.cursor.column

def longestKey : Nat := 1024

/-- Whether a token can no longer be a key. -/
def isStale (scan : Scan) (key : PossibleKey) : Bool :=
  key.line ≠ scan.cursor.line || longestKey < scan.cursor.index - key.index

def dropStale (scan : Scan) : Except Error Scan :=
  if scan.keys.any fun (_, key) => scan.isStale key && key.required then .error .malformed
  else .ok { scan with keys := scan.keys.filter fun (_, key) => !scan.isStale key }

/-- The tokens that are settled: none of them, nor any before it, may still turn out to be a key. -/
def settled (scan : Scan) : List Token :=
  let open_ := scan.keys.filterMap fun (_, key) =>
    if scan.isStale key then none else some key.position
  scan.tokens.take (open_.foldl min scan.tokens.length)

def dropKey (scan : Scan) : Except Error Scan :=
  match scan.keys.lookup scan.flow with
  | none => .ok scan
  | some key =>
    if key.required then .error .malformed
    else .ok { scan with keys := scan.keys.filter fun (level, _) => level ≠ scan.flow }

def saveKey (scan : Scan) : Except Error Scan :=
  if !scan.allowKey then .ok scan
  else
    match scan.dropKey with
    | .error error => .error error
    | .ok scan =>
      let key : PossibleKey :=
        { position := scan.tokens.length
          required := scan.flow = 0 && scan.indent = scan.column
          index := scan.cursor.index, line := scan.cursor.line, column := scan.cursor.column }
      .ok { scan with keys := (scan.flow, key) :: scan.keys }

/-- Ends the blocks that are indented further than `column`. -/
def unwind (scan : Scan) (column : Int) : Scan :=
  if scan.flow ≠ 0 then scan
  else go scan.indents scan
where
  go : List Int → Scan → Scan
    | [], scan => scan
    | outer :: rest, scan =>
      if column < scan.indent then
        go rest { scan.push .blockEnd with indent := outer, indents := rest }
      else scan

/-- Begins a block at `column`, if it is indented further than the one around it. -/
def indentTo? (scan : Scan) (column : Int) : Option Scan :=
  if scan.indent < column then
    some { scan with indents := scan.indent :: scan.indents, indent := column }
  else none

/-- Passes over blanks, comments and line breaks. Behind a break in block context a key may
stand. -/
def skipGaps (scan : Scan) : Nat → Scan
  | 0 => scan
  | fuel + 1 =>
    let cursor := scan.cursor.skipSpaces.skipComment
    if isBreak cursor.peek then
      let scan :=
        { scan with cursor := cursor.lineBreak.2, allowKey := scan.allowKey || scan.flow = 0 }
      scan.skipGaps fuel
    else { scan with cursor := cursor }

def mark (scan : Scan) (token : Token) (length : Nat := 1) : Scan :=
  { scan with cursor := scan.cursor.skip length }.push token

/-- A name behind `&` or `*`. -/
def name (cursor : Cursor) : Except Error (String × Cursor) :=
  let (word, cursor) := cursor.next.takeWhile isWordChar
  let follower := cursor.peek
  if word.isEmpty then .error .malformed
  else if isGap follower || ['?', ':', ',', ']', '\x7d', '%', '@', '\x60'].contains follower then
    .ok (String.ofList word, cursor)
  else .error .malformed

def isUriChar (c : Char) : Bool :=
  c.isAlphanum || ['-', ';', '/', '?', ':', '@', '&', '=', '+', '$', ',', '_', '.', '!', '~', '*',
    '\x27', '(', ')', '[', ']', '%'].contains c

/-- The bytes of a word in which some are written by their numbers behind percent signs. -/
def percentBytes : List Char → Option Bytes
  | [] => some []
  | '%' :: high :: low :: rest =>
    match hexDigit? high, hexDigit? low with
    | some h, some l => (percentBytes rest).map ((h * 16 + l).toUInt8 :: ·)
    | _, _ => none
  | c :: rest => if c = '%' then none else (percentBytes rest).map (String.utf8EncodeChar c ++ ·)

def uri (cursor : Cursor) : Except Error (String × Cursor) :=
  let (word, cursor) := cursor.takeWhile isUriChar
  match (percentBytes word).bind Text.Utf8.decode? with
  | some text => if word.isEmpty then .error .malformed else .ok (text, cursor)
  | none => .error .malformed

def handle (cursor : Cursor) : Except Error (String × Cursor) :=
  if cursor.peek ≠ '!' then .error .malformed
  else if cursor.peek 1 = ' ' then .ok ("!", cursor.next)
  else
    let (word, cursor) := cursor.next.takeWhile isWordChar
    if cursor.peek = '!' then .ok ("!" ++ String.ofList word ++ "!", cursor.next)
    else .error .malformed

def hasHandle (cursor : Cursor) : Bool :=
  (cursor.next.rest.takeWhile (!isGapNoTab ·)).contains '!'

def tagToken (cursor : Cursor) : Except Error (Token × Cursor) := do
  let (token, cursor) ←
    if cursor.peek 1 = '<' then do
      let (suffix, cursor) ← uri (cursor.skip 2)
      if cursor.peek ≠ '>' then .error .malformed
      else pure (Token.tag none suffix, cursor.next)
    else if isGap (cursor.peek 1) then pure (Token.tag none "!", cursor.next)
    else do
      let (handle, cursor) ←
        if hasHandle cursor then handle cursor else pure ("!", cursor.next)
      let (suffix, cursor) ← uri cursor
      pure (Token.tag (some handle) suffix, cursor)
  if isGapNoTab cursor.peek then pure (token, cursor) else .error .malformed

def number (cursor : Cursor) : Except Error (Nat × Cursor) :=
  let (digits, cursor) := cursor.takeWhile (·.isDigit)
  if digits.isEmpty then .error .malformed
  else if Value.mostDigits < digits.length then .error (.longInteger digits.length)
  else .ok (digits.foldl (fun n d => n * 10 + (d.toNat - 48)) 0, cursor)

def directive (cursor : Cursor) : Except Error (Token × Cursor) := do
  let (word, cursor) := cursor.next.takeWhile isWordChar
  if word.isEmpty || !isGapNoTab cursor.peek then throw .malformed
  let (token, cursor) ←
    if String.ofList word = "YAML" then do
      let (major, cursor) ← number cursor.skipSpaces
      if cursor.peek ≠ '.' then throw .malformed
      let (_, cursor) ← number cursor.next
      if isGapNoTab cursor.peek then pure (Token.versionDirective major, cursor)
      else throw .malformed
    else if String.ofList word = "TAG" then do
      let (handle, cursor) ← handle cursor.skipSpaces
      if cursor.peek ≠ ' ' then throw .malformed
      let (expansion, cursor) ← uri cursor.skipSpaces
      if isGapNoTab cursor.peek then pure (Token.tagDirective handle expansion, cursor)
      else throw .malformed
    else pure (Token.otherDirective, cursor.skipWhile (!isBreak ·))
  return (token, ← cursor.endLine)

/-- An indicator of a block: it begins a block where it stands, if that is further in. -/
def blockIndicator (scan : Scan) (start token : Token) : Except Error Scan := do
  if scan.flow ≠ 0 then
    let scan ← { scan with allowKey := token = Token.blockEntry }.dropKey
    return scan.mark token
  if !scan.allowKey then throw .malformed
  let scan := match scan.indentTo? scan.column with
    | some deeper => deeper.push start
    | none => scan
  let scan ← { scan with allowKey := true }.dropKey
  return scan.mark token

/-- A colon behind a possible key makes it one; otherwise it belongs to a key marked by `?`. -/
def valueIndicator (scan : Scan) : Except Error Scan :=
  match scan.keys.lookup scan.flow with
  | some key =>
    let scan :=
      { scan with keys := scan.keys.filter fun (level, _) => level ≠ scan.flow, allowKey := false }
    let scan := scan.insert key.position .key
    let scan :=
      if scan.flow ≠ 0 then scan
      else match scan.indentTo? key.column with
        | some deeper => deeper.insert key.position .blockMappingStart
        | none => scan
    .ok (scan.mark .value)
  | none => scan.blockIndicator .blockMappingStart .value

def openFlow (scan : Scan) (token : Token) : Except Error Scan := do
  let scan ← scan.saveKey
  return { scan with flow := scan.flow + 1, allowKey := true }.mark token

/-- The end of a flow collection. Outside of all of them it is out of place. -/
def closeFlow (scan : Scan) (token : Token) : Except Error Scan := do
  let scan ← scan.dropKey
  if scan.flow = 0 then throw .malformed
  return { scan with flow := scan.flow - 1, allowKey := false }.mark token

/-- A token that may be a key, read by `read`. -/
def keyToken (scan : Scan) (read : Cursor → Except Error (Token × Cursor)) : Except Error Scan := do
  let scan ← scan.saveKey
  let (token, cursor) ← read scan.cursor
  return { scan with cursor := cursor, allowKey := false }.push token

def quotedScalar (double : Bool) (cursor : Cursor) : Except Error (Token × Cursor) := do
  let (text, cursor) ← cursor.next.quotedText double (cursor.rest.length + 1)
  return (.scalar text false, cursor)

def blockScalar (scan : Scan) (folded : Bool) : Except Error Scan := do
  let scan ← { scan with allowKey := true }.dropKey
  let (text, cursor) ← scan.cursor.next.blockText folded scan.indent
  return { scan with cursor := cursor }.push (.scalar (text.map .char) false)

def plainScalar (scan : Scan) : Except Error Scan := do
  let scan ← scan.saveKey
  let (text, broke, cursor) :=
    scan.cursor.plainText (scan.flow ≠ 0) (scan.indent + 1) [] false (scan.cursor.rest.length + 1)
  return { scan with cursor := cursor, allowKey := broke }.push (.scalar (text.map .char) true)

/-- Characters that cannot begin a plain scalar, except where the next one makes it a word. -/
def isIndicator (c : Char) : Bool :=
  ['-', '?', ':', ',', '[', ']', '\x7b', '\x7d', '#', '&', '*', '!', '|', '>', '\x27', '\x22', '%',
    '@', '\x60'].contains c

def startsPlain (scan : Scan) : Bool :=
  let c := scan.cursor.peek
  !(isGap c || isIndicator c) ||
    (!isGap (scan.cursor.peek 1) && (c = '-' || (scan.flow = 0 && (c = '?' || c = ':'))))

/-- A line of document context: it ends all blocks. -/
def atMargin (scan : Scan) : Except Error Scan := do
  let scan ← (scan.unwind (-1)).dropKey
  return { scan with allowKey := false }

def token (scan : Scan) : Except Error Scan := do
  let c := scan.cursor.peek
  let standsAlone := isGap (scan.cursor.peek 1)
  let margin := scan.cursor.column = 0
  if margin && c = '%' then
    let scan ← scan.atMargin
    let (token, cursor) ← directive scan.cursor
    return { scan with cursor := cursor }.push token
  else if margin && scan.cursor.atMarker '-' then
    return (← scan.atMargin).mark .documentStart 3
  else if margin && scan.cursor.atMarker '.' then
    return (← scan.atMargin).mark .documentEnd 3
  else if c = '[' then scan.openFlow .flowSequenceStart
  else if c = '\x7b' then scan.openFlow .flowMappingStart
  else if c = ']' then scan.closeFlow .flowSequenceEnd
  else if c = '\x7d' then scan.closeFlow .flowMappingEnd
  else if c = ',' then
    let scan ← { scan with allowKey := true }.dropKey
    return scan.mark .flowEntry
  else if c = '-' && standsAlone then scan.blockIndicator .blockSequenceStart .blockEntry
  else if c = '?' && (scan.flow ≠ 0 || standsAlone) then
    scan.blockIndicator .blockMappingStart .key
  else if c = ':' && (scan.flow ≠ 0 || standsAlone) then scan.valueIndicator
  else if c = '*' then
    scan.keyToken fun cursor => return ((fun (n, c) => (.reference n, c)) (← name cursor))
  else if c = '&' then
    scan.keyToken fun cursor => return ((fun (n, c) => (.anchor n, c)) (← name cursor))
  else if c = '!' then scan.keyToken tagToken
  else if c = '|' && scan.flow = 0 then scan.blockScalar false
  else if c = '>' && scan.flow = 0 then scan.blockScalar true
  else if c = '\x27' then scan.keyToken (quotedScalar false)
  else if c = '\x22' then scan.keyToken (quotedScalar true)
  else if scan.startsPlain then scan.plainScalar
  else throw .malformed

def advance (scan : Scan) : Except Error (Scan × Bool) := do
  let scan ← (scan.skipGaps (scan.cursor.rest.length + 1)).dropStale
  let scan := scan.unwind scan.column
  if scan.cursor.rest.isEmpty then return (← (scan.unwind (-1)).dropKey, true)
  else return (← scan.token, false)

end Scan

structure Scanned where
  tokens : List Token
  failure : Option Error := none

namespace Scan

/-- Reads tokens up to the end of the text; every round but the last takes a character. Where the
text ends early because of `cut`, a token that touches its end is not known yet. -/
def run (cut : Option Error) (scan : Scan) : Nat → Scanned
  | 0 => { tokens := scan.settled, failure := some .malformed }
  | fuel + 1 =>
    match scan.advance with
    | .error .unfinished =>
      { tokens := scan.settled, failure := some (cut.getD .malformed) }
    | .error error => { tokens := scan.settled, failure := some error }
    | .ok (next, finished) =>
      if cut.isSome && next.cursor.rest.isEmpty then { tokens := scan.settled, failure := cut }
      else if finished then { tokens := next.tokens }
      else next.run cut fuel

end Scan

/-- The tokens of a document, which ends early if there is a `cut`. A byte order mark in front is
passed over. -/
def Token.scan (text : List Char) (cut : Option Error) : Scanned :=
  let cursor : Cursor := { rest := text }
  let cursor := if cursor.peek = byteOrderMark then cursor.next else cursor
  Scan.run cut { cursor := cursor } (text.length + 2)

end TagIndex.Yaml
