import TagIndex.Text.Quoted

namespace TagIndex

/-- The conditions that a system call reports, as far as they are told apart. -/
inductive Condition where
  | notFound
  | notDirectory
  | isDirectory
  | alreadyThere
  | notPermitted
  | brokenPipe
  | wouldBlock
  | noChild
  | noProcess
  | interrupted
  | timedOut
  | connectionAborted
  | connectionRefused
  | connectionReset
  | other
deriving DecidableEq, Repr

def Condition.ofNumber (number : Int) : Condition :=
  match number with
  | 1 | 13 => notPermitted
  | 2 => notFound
  | 3 => noProcess
  | 4 => interrupted
  | 10 => noChild
  | 11 | 114 | 115 => wouldBlock
  | 17 => alreadyThere
  | 20 => notDirectory
  | 21 => isDirectory
  | 32 | 108 => brokenPipe
  | 103 => connectionAborted
  | 104 => connectionReset
  | 110 => timedOut
  | 111 => connectionRefused
  | _ => other

/-- A fault that the system reports. A device's fault has no path; a move has two. -/
structure SystemFault where
  condition : Condition
  number : Option Int := none
  reason : String
  path : Option Bytes := none
  target : Option Bytes := none
deriving DecidableEq, Repr

/-- What stands in the way of a file operation. -/
inductive Obstacle where
  | notFound
  | busy
  | alreadyThere
  | notDirectory
  | isDirectory
  | nameTooLong
deriving DecidableEq, Repr

namespace Obstacle

def number : Obstacle → Int
  | notFound => 2
  | busy => 16
  | alreadyThere => 17
  | notDirectory => 20
  | isDirectory => 21
  | nameTooLong => 36

def reason : Obstacle → String
  | notFound => "No such file or directory"
  | busy => "Device or resource busy"
  | alreadyThere => "File exists"
  | notDirectory => "Not a directory"
  | isDirectory => "Is a directory"
  | nameTooLong => "File name too long"

/-- The fault that the obstacle makes at a path, or on the way from a path to a target. -/
def fault (obstacle : Obstacle) (path : Bytes) (target : Option Bytes := none) : SystemFault :=
  { condition := .ofNumber obstacle.number, number := some obstacle.number
    reason := obstacle.reason, path := some path, target := target }

end Obstacle

namespace SystemFault

def message (fault : SystemFault) : String :=
  let numbered := match fault.number with
    | none => fault.reason
    | some number => "[Errno " ++ toString number ++ "] " ++ fault.reason
  match fault.path, fault.target with
  | none, _ => numbered
  | some path, none => numbered ++ ": " ++ Text.quotedPath path
  | some path, some target =>
    numbered ++ ": " ++ Text.quotedPath path ++ " -> " ++ Text.quotedPath target

end SystemFault

/-- What a device or the file store answers instead of doing its work. -/
inductive Fault where
  | system (fault : SystemFault)
  | invalid (message : String)
deriving DecidableEq, Repr

def Fault.message : Fault → String
  | system fault => fault.message
  | invalid message => message

def Fault.zeroByte : Fault := .invalid "embedded null byte"

end TagIndex
