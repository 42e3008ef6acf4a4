import ChangeCapture.Text.Basic

namespace ChangeCapture

inductive Severity where
  | debug
  | info
  | warning
  | error
  deriving DecidableEq, Repr

def Severity.name : Severity → Text
  | .debug => "DEBUG"
  | .info => "INFO"
  | .warning => "WARNING"
  | .error => "ERROR"

def Severity.all : List Severity := [.debug, .info, .warning, .error]

def Severity.named? (name : Text) : Option Severity := Severity.all.find? fun severity => severity.name = name

def Severity.rank : Severity → Nat
  | .debug => 0
  | .info => 1
  | .warning => 2
  | .error => 3

structure LogLine where
  severity : Severity
  message : Text
  deriving DecidableEq, Repr

abbrev Log := List LogLine

end ChangeCapture
