import TagIndex.Journal.Basic
import TagIndex.Sink
import TagIndex.Syntax.Walk

namespace TagIndex

/-- Why a session stops. A fault of the sink is wrapped when the system reports it and passed on
unchanged otherwise; faults of reading are passed on. -/
inductive Failure where
  | refused (refusal : Refusal)
  | write (name : Bytes) (cause : SystemFault)
  | flush (cause : SystemFault)
  | fault (cause : Fault)
deriving DecidableEq, Repr

def Failure.message : Failure → String
  | refused refusal => refusal.message
  | write name cause =>
    "Failed to write tag '" ++ Text.quotedBytes name ++ "': " ++ cause.message
  | flush cause => "Failed to flush tags output: " ++ cause.message
  | fault cause => cause.message

structure Session where
  sink : Sink := {}
  written : Nat := 0
  journal : Journal := {}

namespace Session

def note (session : Session) (notice : Notice) : Session :=
  { session with journal := session.journal.note notice }

def withSource (session : Session) (source : Bytes) : Session :=
  { session with journal := session.journal.withSource source }

/-- Writes one tag. It counts once the sink has taken it. -/
def emit (session : Session) (tag : Tag) : Option Failure × Session :=
  match session.sink.write tag.line with
  | (none, sink) =>
    (none, { session with sink := sink, written := session.written + 1 }.note
      (.tagEmitted tag.kind tag.name))
  | (some (.system cause), sink) => (some (.write tag.name cause), { session with sink := sink })
  | (some fault, sink) => (some (.fault fault), { session with sink := sink })

/-- Checks a draft and writes its tag. A refused draft never reaches the sink. -/
def emitDraft (session : Session) (draft : Draft) : Option Failure × Session :=
  match draft.check with
  | .ok tag => session.emit tag
  | .error refusal => (some (.refused refusal), session)

def flush (session : Session) : Option Failure × Session :=
  match session.sink.flush with
  | (none, sink) => (none, { session with sink := sink })
  | (some (.system cause), sink) => (some (.flush cause), { session with sink := sink })
  | (some fault, sink) => (some (.fault fault), { session with sink := sink })

def take (session : Session) : Syntax.Step → Option Failure × Session
  | .skip offset => (none, session.note (.membersSkipped offset))
  | .tag draft => session.emitDraft draft

/-- Takes the steps in order, up to the first that fails. -/
def perform (session : Session) : List Syntax.Step → Option Failure × Session
  | [] => (none, session)
  | step :: rest =>
    match session.take step with
    | (none, session) => session.perform rest
    | (some failure, session) => (some failure, session)

def extract (session : Session) (tree : Syntax.Tree) (path : Bytes) :
    Except Failure Nat × Session :=
  match session.perform (tree.steps path) with
  | (none, done) =>
    let count := done.written - session.written
    (.ok count, done.note (.fileTagged count))
  | (some failure, done) => (.error failure, done)

theorem perform_append (session : Session) (a b : List Syntax.Step) :
    session.perform (a ++ b) =
      match session.perform a with
      | (none, next) => next.perform b
      | (some failure, next) => (some failure, next) := by
  induction a generalizing session with
  | nil => rfl
  | cons step rest ih =>
    simp only [List.cons_append, perform]
    cases session.take step with
    | mk outcome next => cases outcome <;> simp [ih]

end Session

end TagIndex
