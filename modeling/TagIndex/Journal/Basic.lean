import TagIndex.Journal.Notice

namespace TagIndex

/-- A line of the log before it is laid out. -/
structure Record where
  level : Int
  logger : String
  text : String
deriving DecidableEq, Repr

def Record.line (record : Record) (source : Bytes) : String :=
  Level.describe record.level ++ " | source=" ++ Text.displayPath source ++ " | " ++
    record.logger ++ " | " ++ record.text ++ "\n"

def Notice.record (notice : Notice) : Record :=
  ⟨notice.level.value, notice.logger, notice.text⟩

structure JournalEntry where
  source : Bytes
  notice : Notice
deriving DecidableEq, Repr

/-- The source outside of any file. -/
def noSource : Bytes := Bytes.ofString "-"

structure Journal where
  source : Bytes := noSource
  entries : List JournalEntry := []
deriving DecidableEq, Repr

namespace Journal

def note (journal : Journal) (notice : Notice) : Journal :=
  { journal with entries := journal.entries ++ [⟨journal.source, notice⟩] }

@[simp] theorem source_note (journal : Journal) (notice : Notice) :
    (journal.note notice).source = journal.source := rfl

def withSource (journal : Journal) (source : Bytes) : Journal := { journal with source := source }

/-- The log text of the entries at or above a threshold. -/
def render (threshold : Int) (entries : List JournalEntry) : String :=
  String.join <| (entries.filter fun entry => threshold ≤ entry.notice.level.value).map
    fun entry => entry.notice.record.line entry.source

end Journal

end TagIndex
