import TagIndex.Yaml.Cursor

namespace TagIndex.Yaml

def fold (first : List Char) (breaks : List Char) : List Char :=
  if first ≠ ['\n'] then first ++ breaks
  else if breaks.isEmpty then [' ']
  else breaks

namespace Cursor

/-- The breaks of the empty lines that follow inside a quoted scalar. No such line may separate
documents. -/
def quotedBreaks (cursor : Cursor) : Nat → Except Error (List Char × Cursor)
  | 0 => .error .malformed
  | fuel + 1 =>
    if cursor.atSeparator then .error .malformed
    else
      let cursor := cursor.skipWhile fun c => c = ' ' || c = '\t'
      if isBreak cursor.peek then
        let (first, cursor) := cursor.lineBreak
        match cursor.quotedBreaks fuel with
        | .error error => .error error
        | .ok (breaks, cursor) => .ok (first ++ breaks, cursor)
      else .ok ([], cursor)

def escapeChar? (c : Char) : Option Nat :=
  match c with
  | '0' => some 0
  | 'a' => some 7
  | 'b' => some 8
  | 't' | '\t' => some 9
  | 'n' => some 10
  | 'v' => some 11
  | 'f' => some 12
  | 'r' => some 13
  | 'e' => some 27
  | ' ' => some 32
  | '\x22' => some 34
  | '/' => some 47
  | '\\' => some 92
  | 'N' => some 0x85
  | '_' => some 0xA0
  | 'L' => some 0x2028
  | 'P' => some 0x2029
  | _ => none

def escapeDigits? (c : Char) : Option Nat :=
  match c with
  | 'x' => some 2
  | 'u' => some 4
  | 'U' => some 8
  | _ => none

/-- The code point written with `count` digits here. -/
def codePoint (cursor : Cursor) (count : Nat) : Except Error (Text.CodePoint × Cursor) :=
  let digits := (cursor.rest.take count).filterMap hexDigit?
  if digits.length ≠ count then
    .error (if cursor.rest.length < count then .unfinished else .malformed)
  else
    let code := digits.foldl (fun n d => n * 16 + d) 0
    if 0x110000 ≤ code then .error (.noCodePoint code)
    else .ok (.ofValue code, cursor.skip count)

/-- The text of a quoted scalar behind its opening quote, up to and with the closing one. -/
def quotedText (cursor : Cursor) (double : Bool) : Nat → Except Error (Text × Cursor)
  | 0 => .error .malformed
  | fuel + 1 =>
    let quote := if double then '\x22' else '\x27'
    let continue_ (text : Text) (cursor : Cursor) : Except Error (Text × Cursor) :=
      match cursor.quotedText double fuel with
      | .error error => .error error
      | .ok (rest, cursor) => .ok (text ++ rest, cursor)
    let c := cursor.peek
    if !double && c = quote && cursor.peek 1 = quote then continue_ [.char quote] (cursor.skip 2)
    else if c = quote then .ok ([], cursor.next)
    else if double && c = '\\' then
      let cursor := cursor.next
      let letter := cursor.peek
      match escapeChar? letter, escapeDigits? letter with
      | some code, _ => continue_ [.ofValue code] cursor.next
      | none, some count =>
        match cursor.next.codePoint count with
        | .error error => .error error
        | .ok (point, cursor) => continue_ [point] cursor
      | none, none =>
        if isBreak letter then
          match cursor.lineBreak.2.quotedBreaks (fuel + 1) with
          | .error error => .error error
          | .ok (breaks, cursor) => continue_ (breaks.map .char) cursor
        else .error (if letter = nul then .unfinished else .malformed)
    else if c = ' ' || c = '\t' || isBreak c then
      let (blanks, cursor) := cursor.takeWhile fun c => c = ' ' || c = '\t'
      if isBreak cursor.peek then
        let (first, cursor) := cursor.lineBreak
        match cursor.quotedBreaks (fuel + 1) with
        | .error error => .error error
        | .ok (breaks, cursor) => continue_ ((fold first breaks).map .char) cursor
      else continue_ (blanks.map .char) cursor
    else if c = nul then .error .unfinished
    else continue_ [.char c] cursor.next

/-- The breaks and blanks behind a word of a plain scalar, unless a separator of documents follows.
The flag tells whether a line break was passed. -/
def plainBreaks (cursor : Cursor) : Nat → Option (List Char) × Cursor
  | 0 => (none, cursor)
  | fuel + 1 =>
    if cursor.atSeparator then (none, cursor)
    else
      let cursor := cursor.skipSpaces
      if isBreak cursor.peek then
        let (first, cursor) := cursor.lineBreak
        let (breaks, cursor) := cursor.plainBreaks fuel
        (breaks.map (first ++ ·), cursor)
      else (some [], cursor)

/-- What stands between two words of a plain scalar: `none` where the scalar has to end. -/
def plainGap (cursor : Cursor) : Option (List Char) × Bool × Cursor :=
  let (blanks, cursor) := cursor.takeWhile (· = ' ')
  if isBreak cursor.peek then
    let (first, cursor) := cursor.lineBreak
    match cursor.plainBreaks (cursor.rest.length + 1) with
    | (none, cursor) => (none, true, cursor)
    | (some breaks, cursor) => (some (fold first breaks), true, cursor)
  else if blanks.isEmpty then (none, false, cursor)
  else (some blanks, false, cursor)

/-- The length of the word of a plain scalar at the head of a text. A colon ends it before a gap,
and inside flow collections brackets, commas and question marks do. -/
def plainLength (flow : Bool) : List Char → Nat
  | [] => 0
  | c :: rest =>
    let follower := rest.headD nul
    if isGap c then 0
    else if c = ':' &&
        (isGap follower || (flow && [',', '[', ']', '\x7b', '\x7d'].contains follower)) then 0
    else if flow && [',', '?', '[', ']', '\x7b', '\x7d'].contains c then 0
    else 1 + plainLength flow rest

/-- The text of a plain scalar. `indent` is the least column of its further lines in block context;
the flag tells whether the scalar was left behind a line break. -/
def plainText (cursor : Cursor) (flow : Bool) (indent : Int) (pending : List Char) (broke : Bool) :
    Nat → List Char × Bool × Cursor
  | 0 => ([], broke, cursor)
  | fuel + 1 =>
    let size := plainLength flow cursor.rest
    if cursor.peek = '#' || size = 0 then ([], broke, cursor)
    else
      let word := pending ++ cursor.rest.take size
      match (cursor.skip size).plainGap with
      | (none, broke, cursor) => (word, broke, cursor)
      | (some gap, broke, cursor) =>
        if cursor.peek = '#' || (!flow && (cursor.column : Int) < indent) then (word, broke, cursor)
        else
          let (rest, brokeLater, cursor) := cursor.plainText flow indent gap broke fuel
          (word ++ rest, brokeLater, cursor)

inductive Chomping where
  | strip
  | clip
  | keep
deriving DecidableEq

/-- The header of a block scalar: how its end is treated, and how far it is indented. -/
def blockHeader (cursor : Cursor) : Except Error (Chomping × Option Nat × Cursor) :=
  let chomping? (cursor : Cursor) : Option Chomping × Cursor :=
    if cursor.peek = '+' then (some .keep, cursor.next)
    else if cursor.peek = '-' then (some .strip, cursor.next)
    else (none, cursor)
  let digit? (cursor : Cursor) : Option Nat × Cursor :=
    if cursor.peek.isDigit then (some (cursor.peek.toNat - 48), cursor.next) else (none, cursor)
  let (early, cursor) := chomping? cursor
  let (increment, cursor) := digit? cursor
  let (late, cursor) :=
    if early.isNone && increment.isSome then chomping? cursor else (none, cursor)
  if increment = some 0 || !isGapNoTab cursor.peek then .error .malformed
  else
    match cursor.endLine with
    | .error error => .error error
    | .ok cursor => .ok ((early.or late).getD .clip, increment, cursor)

/-- The empty lines before a block scalar whose indentation is not given, and the widest of them and
of the first line of text. -/
def blockIndentation (cursor : Cursor) (widest : Nat) : Nat → List Char × Nat × Cursor
  | 0 => ([], widest, cursor)
  | fuel + 1 =>
    let cursor := cursor.skipSpaces
    let widest := max widest cursor.column
    if isBreak cursor.peek then
      let (first, cursor) := cursor.lineBreak
      let (breaks, widest, cursor) := cursor.blockIndentation widest fuel
      (first ++ breaks, widest, cursor)
    else ([], widest, cursor)

/-- At most `indent` columns of spaces. -/
def skipIndent (cursor : Cursor) (indent : Nat) : Cursor :=
  cursor.skip (min (indent - cursor.column) (cursor.rest.takeWhile (· = ' ')).length)

def blockBreaks (cursor : Cursor) (indent : Nat) : Nat → List Char × Cursor
  | 0 => ([], cursor)
  | fuel + 1 =>
    let cursor := cursor.skipIndent indent
    if isBreak cursor.peek then
      let (first, cursor) := cursor.lineBreak
      let (breaks, cursor) := cursor.blockBreaks indent fuel
      (first ++ breaks, cursor)
    else ([], cursor)

/-- The lines of a block scalar. `breaks` are the empty lines before the next line of text. -/
def blockLines (cursor : Cursor) (folded : Bool) (chomping : Chomping) (indent : Nat)
    (last breaks : List Char) : Nat → List Char × Cursor
  | 0 => ([], cursor)
  | fuel + 1 =>
    if cursor.column ≠ indent || cursor.peek = nul then
      let tail := match chomping with
        | .strip => []
        | .clip => last
        | .keep => last ++ breaks
      (tail, cursor)
    else
      let isText (c : Char) : Bool := c ≠ ' ' && c ≠ '\t'
      let startsText := isText cursor.peek
      let (text, cursor) := cursor.takeWhile (!isBreak ·)
      let (ending, cursor) := cursor.lineBreak
      let (empty, cursor) := cursor.blockBreaks indent (fuel + 1)
      let more := cursor.column = indent && cursor.peek ≠ nul
      let joint :=
        if !more then []
        else if folded && ending = ['\n'] && startsText && isText cursor.peek then
          if empty.isEmpty then [' '] else []
        else ending
      let (rest, cursor) := cursor.blockLines folded chomping indent ending empty fuel
      (breaks ++ text ++ joint ++ rest, cursor)

/-- The text of a block scalar behind its indicator; `parent` is the indentation around it. -/
def blockText (cursor : Cursor) (folded : Bool) (parent : Int) :
    Except Error (List Char × Cursor) :=
  match cursor.blockHeader with
  | .error error => .error error
  | .ok (chomping, increment, cursor) =>
    let least := (max (parent + 1) 1).toNat
    let fuel := cursor.rest.length + 1
    let (breaks, indent, cursor) := match increment with
      | none =>
        let (breaks, widest, cursor) := cursor.blockIndentation 0 fuel
        (breaks, max least widest, cursor)
      | some increment =>
        let indent := least + increment - 1
        let (breaks, cursor) := cursor.blockBreaks indent fuel
        (breaks, indent, cursor)
    .ok (cursor.blockLines folded chomping indent [] breaks fuel)

end Cursor

end TagIndex.Yaml
