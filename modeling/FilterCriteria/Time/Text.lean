/-
Points in time in text, in the three forms that are written: month first
for display, between number signs as a literal, and the form of the
interchange format, which alone is read back.
-/
import FilterCriteria.Time.DateTime
import FilterCriteria.Text.Blank

namespace FilterCriteria.DateTime

-- ============================================================= writing

/-- `YYYY-MM-DD`. -/
def dateText (t : DateTime) : String :=
  let d := t.date
  Date.yearText d.year ++ "-" ++ padded 2 d.month ++ "-" ++ padded 2 d.day

/-- `hh:mm:ss`. -/
def clockText (t : DateTime) : String :=
  padded 2 t.hour ++ ":" ++ padded 2 t.minute ++ ":"
    ++ padded 2 t.shownSecond

/-- `MM/DD/YYYY hh:mm:ss`. -/
def text (t : DateTime) : String :=
  let d := t.date
  padded 2 d.month ++ "/" ++ padded 2 d.day ++ "/" ++ Date.yearText d.year
    ++ " " ++ t.clockText

/-- The literal `#YYYY-MM-DD hh:mm:ss.fffff#`. Midnight shows no time, and
zeros at the end of the fraction are left away with a point before them. -/
def literal (t : DateTime) : String :=
  let fraction := t.nano / 10000
  let shown := (padded 5 fraction).toList.reverse.dropWhile (· == '0')
  let time :=
    if t.second = 0 ∧ t.nano = 0 then ""
    else " " ++ t.clockText ++
      if fraction = 0 then "" else "." ++ String.ofList shown.reverse
  "#" ++ t.dateText ++ time ++ "#"

/-- The interchange form `YYYY-MM-DDThh:mm:ss`, with a fraction of three,
six or nine places, the fewest that lose nothing. -/
def iso (t : DateTime) : String :=
  let nano := t.nano % 1000000000
  let fraction :=
    if nano = 0 then ""
    else if nano % 1000000 = 0 then "." ++ padded 3 (nano / 1000000)
    else if nano % 1000 = 0 then "." ++ padded 6 (nano / 1000)
    else "." ++ padded 9 nano
  t.dateText ++ "T" ++ t.clockText ++ fraction

-- ============================================================= reading

/-- Reads a mark, after blanks. -/
def mark? (c : Char) (cs : List Char) : Option (List Char) :=
  match skipBlanks cs with
  | d :: rest => if c = d then some rest else none
  | [] => none

/-- Reads a number of one digit to `most` digits, after blanks. -/
def number? (most : Nat) (cs : List Char) : Option (Nat × List Char) :=
  let cs := skipBlanks cs
  let ds := (cs.take most).takeWhile isDigit
  if ds.isEmpty then none else some (ofDigits ds, cs.drop ds.length)

/-- Reads a year: up to four digits, or any number of them after a sign. -/
def year? (cs : List Char) : Option (Int × List Char) :=
  let signed (rest : List Char) : Option (Nat × List Char) :=
    let ds := rest.takeWhile isDigit
    if ds.isEmpty then none else some (ofDigits ds, rest.drop ds.length)
  match skipBlanks cs with
  | '-' :: rest => (signed rest).map fun (n, r) => (-(n : Int), r)
  | '+' :: rest => (signed rest).map fun (n, r) => ((n : Int), r)
  | cs => (number? 4 cs).map fun (n, r) => ((n : Int), r)

/-- Reads a fraction of a second, in nanoseconds; digits past the ninth do
not count. Without a point it is zero. -/
def fraction? : List Char → Option (Nat × List Char)
  | '.' :: cs =>
    let ds := cs.takeWhile isDigit
    if ds.isEmpty then none
    else
      let used := ds.take 9
      some (ofDigits used * Nat.pow 10 (9 - used.length), cs.drop ds.length)
  | cs => some (0, cs)

/-- Reads the interchange form. Blanks may stand around the numbers, the
year has to be within 262143 years before or after the year 0, and a second
60 is a leap second. -/
def ofIso? (s : String) : Option DateTime := do
  let (year, cs) ← year? s.toList
  let cs ← mark? '-' cs
  let (month, cs) ← number? 2 cs
  let cs ← mark? '-' cs
  let (day, cs) ← number? 2 cs
  let cs ← mark? 'T' cs
  let (hour, cs) ← number? 2 cs
  let cs ← mark? ':' cs
  let (minute, cs) ← number? 2 cs
  let cs ← mark? ':' cs
  let (second, cs) ← number? 2 cs
  let (nano, cs) ← fraction? cs
  if (skipBlanks cs).isEmpty ∧ -262143 ≤ year ∧ year ≤ 262142 then
    if second = 60 then
      ofParts? ⟨year, month, day⟩ hour minute 59 (1000000000 + nano)
    else ofParts? ⟨year, month, day⟩ hour minute second nano
  else none

end FilterCriteria.DateTime
