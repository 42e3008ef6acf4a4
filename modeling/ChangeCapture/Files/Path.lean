import ChangeCapture.Failure.Mishap

namespace ChangeCapture

-- A path of names, relative or from a root. Empty steps and single points are no
-- names; two points stay, since what they lead to depends on the tree.
structure Path where
  slashes : Nat
  names : List Text
  deriving DecidableEq, Repr

namespace Path

def separator : CodePoint := '/'

def ofText (text : Text) : Path :=
  let slashes := (text.takeWhile (· = separator)).length
  ⟨if 2 < slashes then 1 else slashes,
    (Text.splitOn separator text).filter fun name => !name.isEmpty && name ≠ Text.ofString "."⟩

def toText (path : Path) : Text :=
  if path.slashes = 0 ∧ path.names.isEmpty then "."
  else List.replicate path.slashes separator ++ Text.joined "/" path.names

def isAbsolute (path : Path) : Bool := path.slashes ≠ 0

def join (path below : Path) : Path :=
  if below.isAbsolute then below else ⟨path.slashes, path.names ++ below.names⟩

def child (path : Path) (below : Text) : Path := path.join (ofText below)

def parent (path : Path) : Path := ⟨path.slashes, path.names.dropLast⟩

def name (path : Path) : Text := path.names.getLastD []

def split (name : Text) : Text × Text :=
  let tail := (name.reverse.takeWhile (· ≠ .char '.')).reverse
  let head := name.take (name.length - tail.length - 1)
  if tail.length = name.length ∨ tail.isEmpty ∨ head.isEmpty then (name, [])
  else (head, .char '.' :: tail)

def stem (path : Path) : Text := (split path.name).1

def suffix (path : Path) : Text := (split path.name).2

-- The names that remain when every two points have taken back the name before
-- them, whatever that name leads to.
def normalNames (names : List Text) : List Text :=
  (names.foldl (fun taken name =>
    if name = Text.ofString ".." then
      match taken with
      | [] => [name]
      | last :: rest => if last = Text.ofString ".." then name :: taken else rest
    else name :: taken) []).reverse

def normal (path : Path) : Path :=
  let names := normalNames path.names
  if path.isAbsolute then ⟨1, names.dropWhile (· = Text.ofString "..")⟩ else ⟨0, names⟩

def checkText (text : Text) : Except Mishap Unit :=
  match Utf8.encodeName text with
  | .error error => .error (.encoding error)
  | .ok bytes => if bytes.contains 0 then .error .nullByte else .ok ()

def check (path : Path) : Except Mishap Unit := checkText path.toText

-- The most bytes that a name may have, and the least that are too many for a path.
def nameLimit : Nat := 255

def lengthLimit : Nat := 4096

def byteCount (text : Text) : Nat := ((Utf8.encodeName text).toOption.getD []).length

def isLongName (name : Text) : Bool := nameLimit < byteCount name

def isLong (path : Path) : Bool := lengthLimit ≤ byteCount path.toText

def leNames : List Text → List Text → Bool
  | [], _ => true
  | _ :: _, [] => false
  | a :: s, b :: t => if a = b then leNames s t else Text.lt a b

def le (a b : Path) : Bool := leNames a.names b.names

end Path

end ChangeCapture
