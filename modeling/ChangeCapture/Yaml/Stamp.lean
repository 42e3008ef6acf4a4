import ChangeCapture.Document.Calendar

namespace ChangeCapture.Yaml

inductive Zone where
  | utc
  | offset (negative : Bool) (hours minutes : Nat)
  deriving DecidableEq, Repr

structure Clock where
  hour : Nat
  minute : Nat
  second : Nat
  fraction : Text
  zone : Option Zone
  deriving DecidableEq, Repr

-- A date as written, and the time of day if there is one. Nothing is said yet on
-- whether the numbers name a day.
structure Stamp where
  year : Nat
  month : Nat
  day : Nat
  clock : Option Clock
  deriving DecidableEq, Repr

namespace Stamp

def digits? (least most : Nat) (text : Text) : Option (Nat × Text) :=
  let found := (text.take most).takeWhile CodePoint.isDigit
  if found.length < least then none else some (Text.digitsValue found, text.drop found.length)

def mark? (mark : Char) : Text → Option Text
  | [] => none
  | c :: rest => if c = mark then some rest else none

def afterGap (text : Text) : Text := text.dropWhile fun c => c = .char ' ' || c = .char '\t'

def zone? (text : Text) : Option (Option Zone) :=
  match text with
  | [] => some none
  | _ =>
    match afterGap text with
    | [] => none
    | c :: rest =>
      if c = 'Z' then (if rest.isEmpty then some (some .utc) else none)
      else if c = '+' ∨ c = '-' then do
        let (hours, rest) ← digits? 1 2 rest
        match rest with
        | [] => some (some (.offset (c = '-') hours 0))
        | _ =>
          let rest ← mark? ':' rest
          let (minutes, rest) ← digits? 2 2 rest
          if rest.isEmpty then some (some (.offset (c = '-') hours minutes)) else none
      else none

def clock? (text : Text) : Option Clock := do
  let (hour, rest) ← digits? 1 2 text
  let rest ← mark? ':' rest
  let (minute, rest) ← digits? 2 2 rest
  let rest ← mark? ':' rest
  let (second, rest) ← digits? 2 2 rest
  let (fraction, rest) : Text × Text := match mark? '.' rest with
    | some rest => (rest.takeWhile CodePoint.isDigit, rest.dropWhile CodePoint.isDigit)
    | none => ([], rest)
  let zone ← zone? rest
  some ⟨hour, minute, second, fraction, zone⟩

def read? (text : Text) : Option Stamp := do
  let (year, rest) ← digits? 4 4 text.withoutFinalBreak
  let rest ← mark? '-' rest
  let (month, rest) ← digits? 1 2 rest
  let rest ← mark? '-' rest
  let (day, rest) ← digits? 1 2 rest
  match rest with
  | [] => some ⟨year, month, day, none⟩
  | c :: after =>
    let start := if c = 'T' ∨ c = 't' then after else afterGap rest
    if start.length = rest.length then none
    else do
      let clock ← clock? start
      some ⟨year, month, day, some clock⟩

def isPlain (text : Text) : Bool :=
  match read? text with
  | some stamp => stamp.clock.isSome || text.withoutFinalBreak.length = 10
  | none => false

def microseconds (fraction : Text) : Nat :=
  Text.digitsValue ((fraction ++ List.replicate 6 (CodePoint.char '0')).take 6)

def Zone.seconds : Zone → Except CalendarFault Int
  | .utc => .ok 0
  | .offset negative hours minutes =>
    let span : Int := hours * 3600 + minutes * 60
    let seconds := if negative then -span else span
    if 86400 ≤ span then .error (.offset seconds) else .ok seconds

def moment (stamp : Stamp) (clock : Clock) : Except CalendarFault Moment := do
  let offset ← match clock.zone with
    | none => .ok none
    | some zone => (Zone.seconds zone).map some
  let date ← Date.make stamp.year stamp.month stamp.day
  Moment.make date clock.hour clock.minute clock.second (microseconds clock.fraction) offset

end Stamp

end ChangeCapture.Yaml
