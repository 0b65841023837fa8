import TagIndex.Journal.Level
import TagIndex.Stats
import TagIndex.Tag

namespace TagIndex

inductive Notice where
  | parserReady
  | faultsParsed (count : Nat)
  | bytesParsed (count : Nat)
  | fileParsed (path : Bytes)
  | fileFaulty (path : Bytes) (count : Nat)
  | directorySkipped (path : Bytes)
  | missingSkipped (path : Bytes)
  | runComplete (stats : Stats)
  | tagEmitted (kind : Kind) (name : Bytes)
  | membersSkipped (offset : Int)
  | fileTagged (count : Nat)
  | settingIgnored (problem : String)
  | settingsLoaded (path : Bytes)
  | settingsRejected (problem : String)
  | outputFailed (problem : String)
  | filesFailed (problem : String)
  | outputWritten (count : Int) (path : Bytes)
deriving DecidableEq, Repr

namespace Notice

def level : Notice → Level
  | parserReady | faultsParsed _ | bytesParsed _ | fileParsed _ | tagEmitted _ _
  | membersSkipped _ | fileTagged _ | settingsLoaded _ | outputWritten _ _ => .debug
  | runComplete _ => .info
  | fileFaulty _ _ | directorySkipped _ | missingSkipped _ | settingIgnored _ => .warning
  | settingsRejected _ | outputFailed _ | filesFailed _ => .error

/-- The part of the program that speaks. -/
def logger : Notice → String
  | parserReady | faultsParsed _ | bytesParsed _ | fileParsed _ => "tagging.parser"
  | tagEmitted _ _ => "tagging.emitter"
  | membersSkipped _ | fileTagged _ => "tagging.traversal"
  | fileFaulty _ _ | directorySkipped _ | missingSkipped _ | runComplete _ => "tagging.extractor"
  | settingIgnored _ | settingsLoaded _ => "core.startup_config"
  | settingsRejected _ | outputFailed _ | filesFailed _ | outputWritten _ _ => "run_ztags"

open Text (displayPath)
open Text.Utf8 (decodeLossy)

def text : Notice → String
  | parserReady => "Created tree-sitter Zig parser"
  | faultsParsed count => "Parsed tree contains " ++ toString count ++ " syntax errors"
  | bytesParsed count => "Parsed " ++ toString count ++ " bytes of Zig code"
  | fileParsed path => "Successfully parsed file: " ++ displayPath path
  | fileFaulty path count =>
    "File " ++ displayPath path ++ " contains syntax errors (" ++ toString count ++ " error nodes)"
  | directorySkipped path => "Input '" ++ displayPath path ++ "' is a directory, skipping..."
  | missingSkipped path => "Input '" ++ displayPath path ++ "' not found, skipping..."
  | runComplete stats => "Tagging complete: " ++ stats.summary
  | tagEmitted kind name => "Emitted " ++ kind.letter ++ " tag " ++ decodeLossy name
  | membersSkipped offset => "Skipping members of unsupported container at byte " ++ toString offset
  | fileTagged count => "Emitted " ++ toString count ++ " tags"
  | settingIgnored problem => problem ++ "; continuing with defaults"
  | settingsLoaded path => "Loaded config from " ++ displayPath path
  | settingsRejected problem => "Configuration error: " ++ problem
  | outputFailed problem => "Output error: " ++ problem
  | filesFailed problem => "File error: " ++ problem
  | outputWritten count path => "Wrote " ++ toString count ++ " tags to " ++ displayPath path

end Notice

end TagIndex
