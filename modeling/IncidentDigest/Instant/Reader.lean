import IncidentDigest.Instant.Layout

/-!
Reading timestamps.

A timestamp has an offset, ends in `Z`, or is taken as universal time.  The strict form is tried first
and then each layout in turn.  A text with a `T` and without a plus sign that fits none of them is tried
once more without its fraction and with the offset `+00:00`.
-/

namespace IncidentDigest

inductive TimestampError where
  | unparseable (input : String)
  | windowOutOfRange (minutes : Int)
  deriving DecidableEq, Repr

def TimestampError.message : TimestampError → String
  | .unparseable input => "unparseable timestamp '" ++ input ++ "'"
  | .windowOutOfRange minutes =>
    "window of " ++ String.ofList (Numeral.signed minutes) ++ " minutes is out of range"

namespace Instant

private def date : Layout := [.year, .char '-', .month, .char '-', .day]

private def clock : Layout := [.hour, .char ':', .minute]

private def clockSeconds : Layout := clock ++ [.char ':', .second]

/-- The layouts that are tried after the strict form, in this order. -/
def layouts : List Layout :=
  [ date ++ [.blanks] ++ clockSeconds ++ [.fraction, .offset],
    date ++ [.char 'T'] ++ clock ++ [.offset],
    date ++ [.blanks] ++ clock ++ [.offset],
    date ++ [.char 'T'] ++ clockSeconds,
    date ++ [.blanks] ++ clockSeconds,
    date ++ [.blanks] ++ clockSeconds ++ [.fraction],
    date ++ [.char 'T'] ++ clock,
    date ++ [.blanks] ++ clock,
    date ]

/-- Reads a text in any of the accepted forms. -/
def readDirect? (cs : List Char) : Option Instant :=
  match readStrict? cs with
  | some t => some t
  | none => layouts.findSome? fun layout => layout.read? cs

/-- A text with every `Z` spelled as an offset. -/
def expandZulu (cs : List Char) : List Char :=
  cs.flatMap fun c => if c == 'Z' then ['+', '0', '0', ':', '0', '0'] else [c]

/-- What is tried after the text itself: up to the first point, at the offset `+00:00`. -/
def secondAttempt (cs : List Char) : List Char :=
  if !cs.contains '+' && cs.contains 'T' then
    cs.takeWhile (· != '.') ++ ['+', '0', '0', ':', '0', '0']
  else cs

/-- Reads a timestamp; a blank text is none. -/
def read (raw : String) : Except TimestampError (Option Instant) :=
  let cs := Text.trim raw.toList
  if cs.isEmpty then .ok none
  else
    let cs := expandZulu cs
    match readDirect? cs with
    | some t => .ok (some t)
    | none =>
      match readDirect? (secondAttempt cs) with
      | some t => .ok (some t)
      | none => .error (.unparseable raw)

/-- A timestamp in universal time, written with the offset `+00:00`. -/
def normalize (raw : Option String) : Except TimestampError (Option String) :=
  match raw with
  | none => .ok none
  | some raw => (read raw).map fun t => t.map format

end Instant
end IncidentDigest
