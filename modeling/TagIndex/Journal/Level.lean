namespace TagIndex

inductive Level where
  | debug
  | info
  | warning
  | error
  | critical
deriving DecidableEq, Repr

namespace Level

def value : Level → Int
  | debug => 10
  | info => 20
  | warning => 30
  | error => 40
  | critical => 50

def name : Level → String
  | debug => "DEBUG"
  | info => "INFO"
  | warning => "WARNING"
  | error => "ERROR"
  | critical => "CRITICAL"

def all : List Level := [debug, info, warning, error, critical]

def ofName? (name : String) : Option Level := all.find? fun level => level.name = name

theorem ofName?_name (level : Level) : ofName? level.name = some level := by
  cases level <;> decide

/-- The text of any level number; numbers between the named levels show as themselves. -/
def describe (value : Int) : String :=
  match all.find? fun level => level.value = value with
  | some level => level.name
  | none => if value = 0 then "NOTSET" else "Level " ++ toString value

end Level

end TagIndex
