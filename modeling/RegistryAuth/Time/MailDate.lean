import RegistryAuth.Text.Ascii
import RegistryAuth.Time.Basic

/-!
# Dates of mail (RFC 2822)

A date such as `Wed, 21 Oct 2015 07:28:00 GMT`, with comments in parentheses wherever blanks may
stand.  The day of the week is read and not compared with the date.  A sixtieth second is allowed
where one may be inserted: at the very end of a month in universal time.
-/

namespace RegistryAuth.MailDate

/-! ## The calendar -/

def isLeap (year : Int) : Bool :=
  year % 4 == 0 && (year % 100 != 0 || year % 400 == 0)

def daysInMonth (year : Int) (month : Nat) : Nat :=
  if month = 2 then (if isLeap year then 29 else 28)
  else if month = 4 ∨ month = 6 ∨ month = 9 ∨ month = 11 then 30
  else 31

/-- The days from the beginning of 1970 to a date: years are counted from March, so that a leap day is
the last of its year. -/
def daysFromEpoch (year : Int) (month day : Nat) : Int :=
  let y := if month ≤ 2 then year - 1 else year
  let m : Int := (month + 9) % 12
  -- Any five months from March on have 153 days; 719468 days lead from March of year 0 to 1970.
  y * 365 + y.fdiv 4 - y.fdiv 100 + y.fdiv 400 + (153 * m + 2) / 5 + day - 1 - 719468

/-- A date and time of day as written, with the zone's distance from universal time in minutes. -/
structure Moment where
  year : Int
  month : Nat
  day : Nat
  hour : Nat
  minute : Nat
  second : Nat
  offset : Int
  deriving DecidableEq, Repr

namespace Moment

/-- The second that a moment names. -/
def epochSecond (m : Moment) : Int :=
  daysFromEpoch m.year m.month m.day * 86400 + m.hour * 3600 + m.minute * 60 + m.second - m.offset * 60

def inRange (m : Moment) : Bool :=
  1 ≤ m.day && m.day ≤ daysInMonth m.year m.month && m.hour < 24 && m.minute < 60 && m.second < 60

def beginsMonth (second : Int) (year : Int) (month : Nat) : Bool :=
  let candidates := [(year, month), if month = 12 then (year + 1, 1) else (year, month + 1)]
  candidates.any fun c => daysFromEpoch c.1 c.2 1 * 86400 == second

/-- The instant of a moment.  A sixtieth second stands for the last nanosecond of its minute. -/
def instant? (m : Moment) : Option Instant :=
  if m.second = 60 then
    let m := { m with second := 59 }
    -- The second after it has to be the first of a month in universal time, whatever the zone.
    if m.inRange && beginsMonth (m.epochSecond + 1) m.year m.month then
      some ⟨m.epochSecond * Duration.perSecond + 999999999⟩
    else none
  else if m.inRange then some (.ofSeconds m.epochSecond)
  else none

end Moment

/-! ## Reading -/

/-- What follows a comment of which `depth` parentheses are open. -/
def skipComment? (depth : Nat) : List Char → Option (List Char)
  | [] => none
  | '\\' :: rest => skipComment? depth (rest.drop 1)
  | '(' :: rest => skipComment? (depth + 1) rest
  | ')' :: rest => if depth ≤ 1 then some rest else skipComment? (depth - 1) rest
  | _ :: rest => skipComment? depth rest
termination_by cs => cs.length
decreasing_by all_goals simp_wf; try omega

def isSpace (c : Char) : Bool :=
  c == ' ' || c == '\t'

theorem length_of_skipComment? {depth : Nat} {cs rest : List Char}
    (h : skipComment? depth cs = some rest) : rest.length < cs.length := by
  fun_induction skipComment? depth cs with
  | case1 => simp at h
  | case2 depth rest' ih =>
    have := ih h
    simp only [List.length_drop] at this
    simp only [List.length_cons]
    omega
  | case3 depth rest' ih =>
    have := ih h
    simp only [List.length_cons]
    omega
  | case4 depth rest' hd =>
    simp only [Option.some.injEq] at h
    subst h
    simp
  | case5 depth rest' hd ih =>
    have := ih h
    simp only [List.length_cons]
    omega
  | case6 depth c rest' _ _ _ ih =>
    have := ih h
    simp only [List.length_cons]
    omega

def skipBlanks (cs : List Char) : List Char :=
  match cs with
  | [] => []
  | c :: rest =>
    if isSpace c then skipBlanks rest
    else if c = '(' then
      match _h : skipComment? 1 rest with
      | some after => skipBlanks after
      | none => c :: rest
    else c :: rest
termination_by cs.length
decreasing_by
  · simp
  · have := length_of_skipComment? _h
    simp only [List.length_cons]
    omega

/-- What follows the blanks and comments at the front, of which there must be some. -/
def needBlanks (cs : List Char) : Option (List Char) :=
  let rest := skipBlanks cs
  if rest.length < cs.length then some rest else none

/-- What follows a character. -/
def expect (c : Char) : List Char → Option (List Char)
  | d :: rest => if d = c then some rest else none
  | [] => none

def digit? (c : Char) : Option Nat :=
  if Text.isDigit c then some (c.toNat - 0x30) else none

/-- Reads `count` digits. -/
def digits (count : Nat) (cs : List Char) : Option (Nat × List Char) :=
  match count with
  | 0 => some (0, cs)
  | _ =>
    if (cs.take count).length = count then
      match (cs.take count).mapM digit? with
      | some ds => some (ds.foldl (fun n d => n * 10 + d) 0, cs.drop count)
      | none => none
    else none

/-- Reads the first of some words, of any case, that the text begins with: its value and what follows
it. -/
def word {α : Type} (words : List (String × α)) (cs : List Char) : Option (α × List Char) :=
  let lowered := cs.map Text.lowerAscii
  (words.find? fun w => (w.1.toList.map Text.lowerAscii).isPrefixOf lowered).map fun w =>
    (w.2, cs.drop w.1.length)

def weekdays : List (String × Unit) :=
  ["Mon", "Tue", "Wed", "Thu", "Fri", "Sat", "Sun"].map (·, ())

def months : List (String × Nat) :=
  ["Jan", "Feb", "Mar", "Apr", "May", "Jun", "Jul", "Aug", "Sep", "Oct", "Nov", "Dec"].zip
    (List.range' 1 12)

/-- The zones that have a name, in hours from universal time. -/
def zones : List (String × Int) :=
  [("UT", 0), ("GMT", 0), ("EST", -5), ("EDT", -4), ("CST", -6), ("CDT", -5), ("MST", -7),
    ("MDT", -6), ("PST", -8), ("PDT", -7)]

/-- Whether a letter names a zone, all of which are taken for universal time. -/
def isZoneLetter (c : Char) : Bool :=
  Text.isLetter c && Text.lowerAscii c != 'j'

/-- Reads the day of the week, if there is one. -/
def readWeekday (cs : List Char) : Option (List Char) :=
  match word weekdays cs with
  | some (_, rest) => (expect ',' rest).map skipBlanks
  | none => some cs

def readDay (cs : List Char) : Option (Nat × List Char) :=
  (digits 2 cs).or (digits 1 cs)

/-- Reads a year and the blanks after it: four digits from 1900 on, or two. -/
def readYear (cs : List Char) : Option (Int × List Char) :=
  match digits 4 cs with
  | some (y, rest) =>
    let after := rest.dropWhile isSpace
    if 1900 ≤ y ∧ after.length < rest.length then some (y, after) else none
  | none => do
    let (y, rest) ← digits 2 cs
    let rest ← needBlanks rest
    return (if y < 50 then y + 2000 else y + 1900, rest)

/-- Reads a time of day and the blanks after it; the seconds may be left out. -/
def readTime (cs : List Char) : Option (Nat × Nat × Nat × List Char) := do
  let (hour, rest) ← digits 2 cs
  let rest ← expect ':' (skipBlanks rest)
  let (minute, rest) ← digits 2 (skipBlanks rest)
  match expect ':' (skipBlanks rest) with
  | some rest =>
    let (second, rest) ← digits 2 (skipBlanks rest)
    let rest ← needBlanks rest
    return (hour, minute, second, rest)
  | none =>
    let rest ← needBlanks rest
    return (hour, minute, 0, rest)

/-- Reads a zone as hours and minutes; where there are hours, the minutes go in their direction. -/
def readOffset (cs : List Char) : Option (Int × List Char) :=
  match cs with
  | sign :: rest =>
    if sign = '+' ∨ sign = '-' then do
      let (hours, rest) ← digits 2 rest
      let (minutes, rest) ← digits 2 rest
      if 25 < hours ∨ 59 < minutes then none
      else
        let distance : Int := hours * 60 + minutes
        return (if sign = '-' ∧ hours ≠ 0 then -distance else distance, rest)
    else none
  | [] => none

/-- Reads a zone: its distance from universal time in minutes. -/
def readZone (cs : List Char) : Option (Int × List Char) :=
  match word zones cs with
  | some (hours, rest) => some (hours * 60, rest)
  | none =>
    match cs with
    | c :: rest => if isZoneLetter c then some (0, rest) else readOffset cs
    | [] => none

def read? (cs : List Char) : Option Moment := do
  let rest ← readWeekday (skipBlanks cs)
  let (day, rest) ← readDay rest
  let rest ← needBlanks rest
  let (month, rest) ← word months rest
  let rest ← needBlanks rest
  let (year, rest) ← readYear rest
  let (hour, minute, second, rest) ← readTime rest
  let (offset, rest) ← readZone rest
  if skipBlanks rest = [] then some ⟨year, month, day, hour, minute, second, offset⟩ else none

def parse? (cs : List Char) : Option Instant := do
  let moment ← read? cs
  moment.instant?

end RegistryAuth.MailDate
