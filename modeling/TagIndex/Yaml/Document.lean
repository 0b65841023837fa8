import TagIndex.Settings.Basic
import TagIndex.Yaml.Source
import TagIndex.Yaml.Unfold

namespace TagIndex.Yaml

/-- The value of a document's text; an empty document has no value. -/
def parse (source : Source) : Except Error Value := do
  match ← Document.ofTokens? (Token.scan source.chars source.cut) with
  | none => return .null
  | some document => document.value

def load (bytes : Bytes) : Except Error Value := parse (.ofBytes bytes)

/-- The reader of settings files, with what it says of a document that is not well formed. -/
def reader (detail : Bytes → String) : DocumentReader := fun bytes =>
  match load bytes with
  | .ok value => .ok value
  | .error .malformed => .error (.malformed (detail bytes))
  | .error cause => .error (.failed cause)

end TagIndex.Yaml
