import TagIndex.Text.CodePoint
import TagIndex.Text.Printable

namespace TagIndex.Text

def apostrophe : Char := '\x27'

def doubleQuote : Char := '\x22'

def quoteMark (cs : List Char) : Char :=
  if cs.contains apostrophe && !cs.contains doubleQuote then doubleQuote else apostrophe

/-- Escapes that do not depend on what can be shown. -/
def namedEscape? (mark c : Char) : Option String :=
  if c = mark || c = '\\' then some (String.ofList ['\\', c])
  else if c = '\n' then some "\\n"
  else if c = '\r' then some "\\r"
  else if c = '\t' then some "\\t"
  else none

def codeEscape (n : Nat) : String :=
  if n < 0x100 then "\\x" ++ hex 2 n
  else if n < 0x10000 then "\\u" ++ hex 4 n
  else "\\U" ++ hex 8 n

def quotedChar (mark c : Char) : String :=
  match namedEscape? mark c with
  | some text => text
  | none => if isPrintable c then c.toString else codeEscape c.toNat

def quotedText (text : Text) : String :=
  let mark := quoteMark (looks text)
  let body := text.map fun
    | .char c => quotedChar mark c
    | point => codeEscape point.value
  mark.toString ++ String.join body ++ mark.toString

def quoted (s : String) : String := quotedText (ofString s)

def quotedPath (path : Bytes) : String := quotedText (ofPath path)

/-- A byte string in quotes behind a `b`. Bytes outside visible basic Latin are written as
numbers. -/
def quotedBytes (bytes : Bytes) : String :=
  let cs := bytes.map fun b => Char.ofNat b.toNat
  let mark := quoteMark cs
  let body := cs.map fun c =>
    match namedEscape? mark c with
    | some text => text
    | none => if 32 ≤ c.toNat && c.toNat ≤ 126 then c.toString else codeEscape c.toNat
  "b" ++ mark.toString ++ String.join body ++ mark.toString

end TagIndex.Text
