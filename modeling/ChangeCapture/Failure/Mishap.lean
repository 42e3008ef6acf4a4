import ChangeCapture.Document.Calendar
import ChangeCapture.Json.Reader
import ChangeCapture.Text.Utf8

namespace ChangeCapture

inductive DiskCause where
  | exists
  | missing
  | notDirectory
  | isDirectory
  | busy
  | longName
  | injected (call : Text)
  deriving DecidableEq, Repr

structure DiskFault where
  cause : DiskCause
  source : Text
  target : Option Text
  deriving DecidableEq, Repr

namespace DiskCause

def number : DiskCause → Nat
  | .missing => 2
  | .busy => 16
  | .exists => 17
  | .notDirectory => 20
  | .isDirectory => 21
  | .longName => 36
  | .injected _ => 0

def label : DiskCause → Text
  | .missing => "No such file or directory"
  | .busy => "Device or resource busy"
  | .exists => "File exists"
  | .notDirectory => "Not a directory"
  | .isDirectory => "Is a directory"
  | .longName => "File name too long"
  | .injected call => call

end DiskCause

def DiskFault.message (fault : DiskFault) : Text :=
  match fault.cause with
  | .injected call => "injected " ++ call ++ " failure"
  | cause =>
    let places : Text := match fault.target with
      | some target => Text.quoted fault.source ++ " -> " ++ Text.quoted target
      | none => Text.quoted fault.source
    "[Errno " ++ Text.ofNat cause.number ++ "] " ++ cause.label ++ ": " ++ places

-- Failures that belong to no documented kind: an input that an operation was not
-- made for, or the file tree. A path with a NUL in it does not get as far as the
-- tree.
inductive Mishap where
  | unknownName (name : Text)
  | unknownInvariant (name : Text)
  | noParts
  | emptyScalar
  | integer (fault : IntegerFault)
  | decimal (text : Text)
  | largeInteger
  | calendar (fault : CalendarFault)
  | codePoint (value : Nat)
  | noTimestamp
  | keyedTimestamp
  | circularScalar
  | unhashable (kind : Text)
  | emptyRegistry
  | missingFields (message : Text)
  | decoding (error : Utf8DecodeError) (origin : Nat)
  | encoding (error : Utf8EncodeError)
  | json (error : Json.ReadError)
  | nullByte
  | disk (fault : DiskFault)
  deriving DecidableEq, Repr

namespace Mishap

def message : Mishap → Text
  | .unknownName name => Text.quoted name
  | .unknownInvariant name => Text.quoted name ++ " is not a valid InvariantId"
  | .noParts => "tuple index out of range"
  | .emptyScalar => "string index out of range"
  | .integer fault => fault.message
  | .decimal text => "could not convert string to float: " ++ Text.quoted text
  | .largeInteger => "int too large to convert to float"
  | .calendar fault => fault.message
  | .codePoint value =>
    if value < 0x80000000 then "chr() arg not in range(0x110000)"
    else "Python int too large to convert to C int"
  | .noTimestamp => "'NoneType' object has no attribute 'groupdict'"
  | .circularScalar => "maximum recursion depth exceeded"
  | .keyedTimestamp => "expected string or bytes-like object, got 'list'"
  | .unhashable kind => "unhashable type: '" ++ kind ++ "'"
  | .emptyRegistry => "Cannot project an empty registry"
  | .missingFields message => message
  | .decoding error origin => error.message origin
  | .encoding error => error.message
  | .json error => error.message
  | .nullByte => "embedded null byte"
  | .disk fault => fault.message

end Mishap

end ChangeCapture
