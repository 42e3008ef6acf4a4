import ChangeCapture.Text.Basic

namespace ChangeCapture.Text

-- How alike two texts are: their longest common part, and what is alike before it
-- and behind it.

structure Shared where
  first : Nat
  second : Nat
  length : Nat
  deriving DecidableEq, Repr

def commonStart : Text → Text → Nat
  | a :: s, b :: t => if a = b then commonStart s t + 1 else 0
  | _, _ => 0

def longestShared (s t : Text) : Shared :=
  (List.range s.length).foldl (fun best first =>
    (List.range t.length).foldl (fun best second =>
      let length := commonStart (s.drop first) (t.drop second)
      if best.length < length then ⟨first, second, length⟩ else best) best) ⟨0, 0, 0⟩

-- The number of code points that two texts are found to share. Every part found
-- leaves less of the first text, which bounds the search.
def sharedWithin : Nat → Text → Text → Nat
  | 0, _, _ => 0
  | fuel + 1, s, t =>
    let part := longestShared s t
    if part.length = 0 then 0
    else
      sharedWithin fuel (s.take part.first) (t.take part.second) + part.length +
        sharedWithin fuel (s.drop (part.first + part.length)) (t.drop (part.second + part.length))

structure Likeness where
  shared : Nat
  total : Nat
  deriving DecidableEq, Repr

namespace Likeness

def of (s t : Text) : Likeness := ⟨sharedWithin s.length s t, s.length + t.length⟩

def lt (a b : Likeness) : Bool := a.shared * b.total < b.shared * a.total

def isClose (likeness : Likeness) : Bool := 3 * likeness.total ≤ 10 * likeness.shared

end Likeness

def closestCount : Nat := 3

def closest (word : Text) (candidates : List Text) : List Text :=
  let rated := candidates.map fun candidate => (Likeness.of candidate word, candidate)
  let isBetter (a b : Likeness × Text) : Bool :=
    Likeness.lt b.1 a.1 || (!Likeness.lt a.1 b.1 && Text.le b.2 a.2)
  let best := (Sorting.sort isBetter (rated.filter fun entry => entry.1.isClose)).take closestCount
  Text.sorted (best.map Prod.snd)

end ChangeCapture.Text
