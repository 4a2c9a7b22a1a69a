import BrokerBridge.Number.Decimal
import BrokerBridge.Toml.Text

/-!
# Dates and times of TOML documents

A moment is a day, a time of day, or both, and then it may have a zone.  Its text is settled: a
capital T between day and time, no zeros at the end of a fraction of a second and no more than
nine digits in it.  A time without seconds stays one.
-/
namespace BrokerBridge.Toml

/-! ## 1. Moments -/

/-- A day of the calendar. -/
structure Day where
  year : Nat
  month : Nat
  day : Nat
  deriving DecidableEq, Repr

/-- The seconds of a time of day; the fraction of one is by its digits. -/
structure Seconds where
  whole : Nat
  fraction : List Char
  deriving DecidableEq, Repr

/-- A time of day. -/
structure Clock where
  hour : Nat
  minute : Nat
  seconds : Option Seconds
  deriving DecidableEq, Repr

/-- How far a clock is from universal time. -/
inductive Zone where
  | universal
  | offset (negative : Bool) (hours minutes : Nat)
  deriving DecidableEq, Repr

/-- A date, a time, or both. -/
inductive Moment where
  | day (d : Day)
  | clock (c : Clock)
  | both (d : Day) (c : Clock) (zone : Option Zone)
  deriving DecidableEq, Repr

/-- Whether a year of the Gregorian calendar has a day more. -/
def isLeap (year : Nat) : Bool := year % 4 == 0 && (year % 100 != 0 || year % 400 == 0)

/-- The number of days of a month. -/
def daysOf (year month : Nat) : Nat :=
  if month = 2 then if isLeap year then 29 else 28
  else if month ∈ [4, 6, 9, 11] then 30
  else 31

/-- Whether a day is one of the calendar. -/
def Day.isValid (d : Day) : Bool :=
  decide (1 ≤ d.month ∧ d.month ≤ 12 ∧ 1 ≤ d.day ∧ d.day ≤ daysOf d.year d.month)

/-- Whether a time is one of a day; a minute may end with a leap second. -/
def Clock.isValid (c : Clock) : Bool :=
  decide (c.hour < 24 ∧ c.minute < 60) && c.seconds.all fun s => decide (s.whole ≤ 60)

/-! ## 2. Texts -/

/-- A number with zeros in front, up to a width. -/
def padded (width n : Nat) : List Char :=
  let ds := Nat.toDigits 10 n
  List.replicate (width - ds.length) '0' ++ ds

/-- The text of a day. -/
def Day.chars (d : Day) : List Char :=
  padded 4 d.year ++ '-' :: padded 2 d.month ++ '-' :: padded 2 d.day

/-- The digits of a fraction of a second that count. -/
def fractionDigits (ds : List Char) : List Char :=
  ((ds.take 9).reverse.dropWhile (· == '0')).reverse

/-- The text of the seconds of a time. -/
def Seconds.chars (s : Seconds) : List Char :=
  padded 2 s.whole ++
    match fractionDigits s.fraction with
    | [] => []
    | ds => '.' :: ds

/-- The text of a time. -/
def Clock.chars (c : Clock) : List Char :=
  padded 2 c.hour ++ ':' :: padded 2 c.minute ++
    match c.seconds with
    | none => []
    | some s => ':' :: s.chars

/-- The text of a zone; there is no negative zero. -/
def Zone.chars : Zone → List Char
  | .universal => ['Z']
  | .offset negative hours minutes =>
    (if negative && (hours != 0 || minutes != 0) then '-' else '+') ::
      padded 2 hours ++ ':' :: padded 2 minutes

/-- The text of a moment. -/
def Moment.chars : Moment → List Char
  | .day d => d.chars
  | .clock c => c.chars
  | .both d c zone => d.chars ++ 'T' :: c.chars ++
    match zone with
    | some z => z.chars
    | none => []

/-! ## 3. Reading -/

/-- Whether a character is a decimal digit. -/
def isDigit (c : Char) : Bool := (digit? c).isSome

/-- Reads a number of so many digits. -/
def readNumber (width : Nat) : Reader Nat := fun cs =>
  let ds := cs.take width
  if ds.length = width ∧ ds.all isDigit then some (ofDigits (ds.filterMap digit?), cs.drop width)
  else none

/-- Reads a character that must stand here. -/
def readMark (mark : Char) (cs : List Char) : Option (List Char) :=
  match cs with
  | c :: rest => if c = mark then some rest else none
  | [] => none

/-- Reads a day. -/
def readDay : Reader Day := fun cs => do
  let (year, rest) ← readNumber 4 cs
  let (month, rest) ← readNumber 2 (← readMark '-' rest)
  let (day, rest) ← readNumber 2 (← readMark '-' rest)
  if (Day.mk year month day).isValid then some (⟨year, month, day⟩, rest) else none

/-- Reads the fraction of a second, if a point follows. -/
def readFraction : Reader (List Char)
  | '.' :: rest =>
    match rest.takeWhile isDigit with
    | [] => none
    | ds => some (ds, rest.dropWhile isDigit)
  | cs => some ([], cs)

/-- Reads the seconds of a time, which may be left out. -/
def readSeconds : Reader (Option Seconds)
  | ':' :: rest => do
    let (whole, rest) ← readNumber 2 rest
    let (fraction, rest) ← readFraction rest
    some (some ⟨whole, fraction⟩, rest)
  | cs => some (none, cs)

/-- Reads a time. -/
def readClock : Reader Clock := fun cs => do
  let (hour, rest) ← readNumber 2 cs
  let (minute, rest) ← readNumber 2 (← readMark ':' rest)
  let (seconds, rest) ← readSeconds rest
  let clock : Clock := ⟨hour, minute, seconds⟩
  if clock.isValid then some (clock, rest) else none

/-- The zone that a text writes, if it writes one. -/
def zone? : List Char → Option (Option Zone)
  | [] => some none
  | c :: rest =>
    if c = 'Z' ∨ c = 'z' then if rest = [] then some (some .universal) else none
    else if c = '+' ∨ c = '-' then do
      let (hours, rest) ← readNumber 2 rest
      let (minutes, rest) ← readNumber 2 (← readMark ':' rest)
      if rest = [] ∧ hours < 24 ∧ minutes < 60 then some (some (.offset (c == '-') hours minutes))
      else none
    else none

/-- The moment that a text writes. -/
def moment? (cs : List Char) : Option Moment :=
  match readDay cs with
  | some (day, []) => some (.day day)
  | some (day, c :: rest) =>
    if c = 'T' ∨ c = 't' ∨ c = ' ' then do
      let (clock, rest) ← readClock rest
      some (.both day clock (← zone? rest))
    else none
  | none =>
    match readClock cs with
    | some (clock, []) => some (.clock clock)
    | _ => none

end BrokerBridge.Toml
