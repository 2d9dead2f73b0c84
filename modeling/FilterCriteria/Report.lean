/-
Error reports: how grave an error is, which component raised it, and what
it says.
-/

namespace FilterCriteria

/-- How grave an error is. -/
inductive Level where
  | info
  | warning
  | error
  | critical
deriving DecidableEq

namespace Level

def all : List Level :=
  [.info, .warning, .error, .critical]

def name : Level → String
  | .info => "Info"
  | .warning => "Warning"
  | .error => "Error"
  | .critical => "Critical"

/-- The level as a report shows it. -/
def text : Level → String
  | .info => "INFO"
  | .warning => "WARNING"
  | .error => "ERROR"
  | .critical => "CRITICAL"

def ofName? (name : String) : Option Level :=
  all.find? (·.name == name)

end Level

/-- What is told about an error. The issuer is the dotted path of the
component that raised it. -/
structure Report where
  level : Level
  issuer : String
  message : String
deriving DecidableEq

/-- A report on one line. -/
def Report.line (r : Report) : String :=
  "CRITERIA | " ++ r.level.text ++ " | " ++ r.issuer ++ " | " ++ r.message

end FilterCriteria
