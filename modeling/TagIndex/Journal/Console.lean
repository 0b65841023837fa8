import TagIndex.Journal.Basic

namespace TagIndex

/-- A receiver of log records. A handler on standard error keeps no text of its own. -/
structure Handler where
  toStderr : Bool
  configured : Bool := false
  written : String := ""
deriving DecidableEq, Repr

structure Console where
  threshold : Int := 30
  handlers : List Handler := []
  sources : List Bytes := []
  stderr : String := ""
deriving DecidableEq, Repr

namespace Console

/-- The innermost source that was entered and not left. -/
def source (console : Console) : Bytes := console.sources.headD noSource

def enter (console : Console) (source : Bytes) : Console :=
  { console with sources := source :: console.sources }

def leave (console : Console) : Console := { console with sources := console.sources.tail }

/-- Adds an unconfigured handler on a stream of its own. -/
def addHandler (console : Console) : Console :=
  { console with handlers := console.handlers ++ [{ toStderr := false }] }

/-- Sets the threshold and configures every handler. If there is none, one on standard error is
added first. -/
def configure (console : Console) (threshold : Int) : Console :=
  let handlers := if console.handlers.isEmpty then [{ toStderr := true }] else console.handlers
  { console with
    threshold := threshold
    handlers := handlers.map fun handler => { handler with configured := true } }

def Handler.line (handler : Handler) (source : Bytes) (record : Record) : String :=
  if handler.configured then record.line source else record.text ++ "\n"

def admits (console : Console) (level : Int) : Bool := 0 < level && console.threshold ≤ level

/-- The console after a record was made while `source` was in force. -/
def receive (console : Console) (source : Bytes) (record : Record) : Console :=
  if !console.admits record.level then console
  else if console.handlers.isEmpty then
    -- a record that no handler takes is shown bare, if it is a warning at least
    if Level.warning.value ≤ record.level then
      { console with stderr := console.stderr ++ record.text ++ "\n" }
    else console
  else
    { console with
      handlers := console.handlers.map fun handler =>
        if handler.toStderr then handler
        else { handler with written := handler.written ++ Handler.line handler source record }
      stderr := console.stderr ++ String.join
        ((console.handlers.filter (·.toStderr)).map fun handler =>
          Handler.line handler source record) }

/-- Logs a record under the console's own source. The unnamed logger is the root. -/
def log (console : Console) (record : Record) : Console :=
  let logger := if record.logger = "" then "root" else record.logger
  console.receive console.source { record with logger := logger }

def replay (console : Console) (entries : List JournalEntry) : Console :=
  entries.foldl (fun console entry => console.receive entry.source entry.notice.record) console

def print (console : Console) (text : String) : Console :=
  { console with stderr := console.stderr ++ text }

end Console

end TagIndex
