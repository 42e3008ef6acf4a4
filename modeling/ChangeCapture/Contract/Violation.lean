import ChangeCapture.Json.Basic
import ChangeCapture.Text.Quoted

namespace ChangeCapture

inductive Invariant where
  | spec
  | i1
  | i2
  | i3
  | i4
  | i5
  | i6
  | i7
  | i8
  deriving DecidableEq, Repr

namespace Invariant

def all : List Invariant := [.spec, .i1, .i2, .i3, .i4, .i5, .i6, .i7, .i8]

def name : Invariant → Text
  | .spec => "SPEC"
  | .i1 => "I1"
  | .i2 => "I2"
  | .i3 => "I3"
  | .i4 => "I4"
  | .i5 => "I5"
  | .i6 => "I6"
  | .i7 => "I7"
  | .i8 => "I8"

def named? (name : Text) : Option Invariant := all.find? fun invariant => invariant.name = name

end Invariant

structure Violation where
  invariant : Invariant
  subject : Text
  message : Text
  deriving DecidableEq, Repr

namespace Violation

def toFields (violation : Violation) : Fields :=
  [("invariant", .text violation.invariant.name), ("subject", .text violation.subject),
    ("message", .text violation.message)]

def line (violation : Violation) : Text :=
  "[" ++ violation.invariant.name ++ "] " ++ violation.subject ++ ": " ++ violation.message

def label (violation : Violation) : Text :=
  "Violation(" ++ violation.invariant.name ++ ", " ++ violation.subject.quoted ++ ")"

end Violation

end ChangeCapture
