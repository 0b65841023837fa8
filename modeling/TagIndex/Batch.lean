import TagIndex.Session
import TagIndex.Settings.Value
import TagIndex.Store.Basic

namespace TagIndex

/-- How source bytes become a declaration tree. -/
abbrev Reader := Bytes → Syntax.Tree

namespace Session

def parse (reader : Reader) (session : Session) (source : Bytes) : Syntax.Tree × Session :=
  let tree := reader source
  let session := session.note .parserReady
  let session := if tree.faults = 0 then session else session.note (.faultsParsed tree.faults)
  (tree, session.note (.bytesParsed source.length))

structure NotBytes where
  typeName : String
deriving DecidableEq, Repr

def NotBytes.message (refused : NotBytes) : String :=
  "Source must be bytes, got " ++ refused.typeName

/-- Reads a source that may be any value. Only byte strings can be read. -/
def parseAny (reader : Reader) (session : Session) :
    Bytes ⊕ Value → Except NotBytes Syntax.Tree × Session
  | .inl source =>
    let (tree, session) := session.parse reader source
    (.ok tree, session)
  | .inr value => (.error ⟨value.typeName⟩, session)

/-- Tags one file and answers the number of faulty places in it. -/
def tagFile (store : Store) (reader : Reader) (session : Session) (path : Bytes) :
    Except Failure Nat × Session :=
  match store.read path with
  | .error fault => (.error (.fault fault), session)
  | .ok source =>
    let (tree, session) := session.parse reader source
    let session := session.note (.fileParsed path)
    let session :=
      if tree.faults = 0 then session else session.note (.fileFaulty path tree.faults)
    match session.extract tree path with
    | (.ok _, session) => (.ok tree.faults, session)
    | (.error failure, session) => (.error failure, session)

/-- The note for a path that is skipped rather than fatal. -/
def skipNotice? (path : Bytes) : Failure → Option Notice
  | .fault (.system fault) =>
    match fault.condition with
    | .isDirectory => some (.directorySkipped path)
    | .notFound => some (.missingSkipped path)
    | _ => none
  | _ => none

/-- One path of a batch, under its own source. Afterwards the source is what it was before, however
the work ended. -/
def tagPath (store : Store) (reader : Reader) (session : Session) (path : Bytes) :
    Except Failure Stats × Session :=
  let outer := session.journal.source
  match (session.withSource path).tagFile store reader path with
  | (.ok faults, done) =>
    (.ok (.ofFile (done.written - session.written) faults), done.withSource outer)
  | (.error failure, done) =>
    match skipNotice? path failure with
    | some notice => (.ok .ofSkipped, (done.note notice).withSource outer)
    | none => (.error failure, done.withSource outer)

def tagPaths (store : Store) (reader : Reader) (session : Session) (stats : Stats) :
    List Bytes → Except Failure Stats × Session
  | [] => (.ok stats, session)
  | path :: rest =>
    match session.tagPath store reader path with
    | (.ok one, session) => session.tagPaths store reader (stats + one) rest
    | (.error failure, session) => (.error failure, session)

def tagFiles (store : Store) (reader : Reader) (session : Session) (paths : List Bytes) :
    Except Failure Stats × Session :=
  match session.tagPaths store reader {} paths with
  | (.ok stats, session) => (.ok stats, session.note (.runComplete stats))
  | (.error failure, session) => (.error failure, session)

end Session

end TagIndex
