namespace TagIndex.Help

def width : Nat := 78

def lead : String := "usage: "

def optionParts : List String := ["[-h]", "[-o OUTPUT]", "[--config CONFIG]", "[-v]"]

def fileParts : List String := ["[FILE ...]"]

/-- Fills lines with parts, one space between them. `used` is the column behind the parts of
`line`, minus the space in front of the first. -/
def fill (indent : Nat) (line : List String) (used : Nat) : List String → List (List String)
  | [] => if line.isEmpty then [] else [line]
  | part :: rest =>
    if width < used + part.length && !line.isEmpty then
      line :: fill indent [part] (indent + part.length + 1) rest
    else fill indent (line ++ [part]) (used + part.length + 1) rest

def blanks (count : Nat) : String := String.ofList (List.replicate count ' ')

def lines (indent : Nat) (parts : List String) : List String :=
  (fill indent [] indent parts).map fun line => blanks indent ++ " ".intercalate line

def usageBody (program : String) : String :=
  let single := " ".intercalate (program :: optionParts ++ fileParts)
  if lead.length + single.length ≤ width then single
  else if 4 * (lead.length + program.length) ≤ 3 * width then
    let indent := lead.length + program.length + 1
    let first := (fill indent [] lead.length (program :: optionParts)).map (" ".intercalate ·)
    match first with
    | [] => program
    | head :: more =>
      "\n".intercalate (head :: more.map (blanks indent ++ ·) ++ lines indent fileParts)
  else
    let indent := lead.length
    let together := lines indent (optionParts ++ fileParts)
    let body :=
      if 1 < together.length then lines indent optionParts ++ lines indent fileParts else together
    "\n".intercalate (program :: body)

/-- At most two line feeds in a row, of which `run` have just passed. -/
def collapse (run : Nat) : List Char → List Char
  | [] => []
  | c :: rest =>
    if c = '\n' then
      if run < 2 then c :: collapse (run + 1) rest else collapse run rest
    else c :: collapse 0 rest

def collapsed (text : String) : String := String.ofList (collapse 0 text.toList)

def usage (program : String) : String := collapsed (lead ++ usageBody program ++ "\n")

def help (program : String) : String :=
  usage program ++
"
Generate extended-format tags for Zig source files.

positional arguments:
  FILE                  Zig source files to index.

options:
  -h, --help            show this help message and exit
  -o OUTPUT, --output OUTPUT
                        Write tags to this file instead of standard output
                        ('-').
  --config CONFIG       YAML config file. Default: $ZTAGS_CONFIG
  -v, --verbose         Log more detail to stderr (-v info, -vv debug).
"

/-- What is said about arguments that cannot be understood. -/
def misuse (program message : String) : String :=
  usage program ++ program ++ ": error: " ++ message ++ "\n"

/-- What is said when no file could be processed. -/
def noFiles (program : String) : String :=
  "Usage: " ++ program ++ " FILE(s)\n\nTo sort and speed up large tag files you may want to use " ++
    "the following pipe-able bash script to generate a tags file\n"

def sortScript (program : String) : String :=
"#!/usr/bin/env bash
# Usage: ./ztags.sh FILE... > tags
set -euo pipefail
printf '!_TAG_FILE_FORMAT\\t2\\t/extended format/\\n'
printf '!_TAG_FILE_SORTED\\t1\\t/0=unsorted, 1=sorted, 2=foldcase/\\n'
" ++ program ++ " \"$@\" | LC_ALL=C sort -u\n"

end TagIndex.Help
