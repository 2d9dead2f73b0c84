/-
Strings and numbers of JSON text are read as what they were written for.
A string is read back from its escapes one character at a time, a number
from its parts, each of which stops where the next one starts.

A string is written with an escape for each character that needs one, and the
reader takes one unit of fuel for a character, whatever its escape looks like
(`units?_escaped`). A character is read as a unit of its own; the surrogates
that a foreign text may have in pairs are never written.

A number has a sign, a whole part, a fraction and an exponent, and all but the
whole part may be missing. What must not stand behind a part is what would
make it longer, and the text of the next part never begins with that
(`stops_exponentText`). A well-formed number has no zeros in front of its whole
part, for the reader would stop at the first one.
-/
import FilterCriteria.Json.Printer
import FilterCriteria.Json.Reader
import FilterCriteria.Proofs.Number.Digits

namespace FilterCriteria.Json

variable {rest : List Char}

-- ============================================================= strings

theorem hexValue?_hexDigit :
    ∀ n < 16, hexValue? (hexDigit n) = some n := by
  decide

/-- The escape of a control character by its code. -/
theorem codeUnit?_hexDigits {n : Nat} (h : n < 256) :
    codeUnit? ('0' :: '0' :: hexDigit (n / 16) :: hexDigit (n % 16) :: rest)
      = some (n, rest) := by
  have hzero : hexValue? '0' = some 0 := rfl
  simp only [codeUnit?, hzero, hexValue?_hexDigit (n / 16) (by omega),
    hexValue?_hexDigit (n % 16) (by omega), Option.bind_eq_bind,
    Option.bind_some, Option.pure_def, Option.some.injEq, Prod.mk.injEq,
    and_true]
  omega

/-- One character takes one unit of fuel, however many characters its
escape has. -/
theorem units?_escaped (c : Char) (fuel : Nat) :
    units? (fuel + 1) (escaped c ++ rest) =
      (units? fuel rest).map fun (us, rest) => (.char c :: us, rest) := by
  unfold escaped
  by_cases hquote : c = '\x22'
  · subst hquote; rfl
  by_cases hslash : c = '\x5c'
  · subst hslash; rfl
  by_cases hb : c = '\x08'
  · subst hb; rfl
  by_cases ht : c = '\t'
  · subst ht; rfl
  by_cases hn : c = '\n'
  · subst hn; rfl
  by_cases hf : c = '\x0c'
  · subst hf; rfl
  by_cases hr : c = '\r'
  · subst hr; rfl
  rw [if_neg hquote, if_neg hslash, if_neg hb, if_neg ht, if_neg hn,
    if_neg hf, if_neg hr]
  -- the other control characters are written by their code
  by_cases hcontrol : c.toNat < 0x20
  · have hcode : StringUnit.ofCode c.toNat = .char c := by
      unfold StringUnit.ofCode
      rw [if_neg (by omega), if_neg (by omega), Char.ofNat_toNat]
    rw [if_pos hcontrol]
    simp only [List.cons_append, List.nil_append, units?,
      codeUnit?_hexDigits (show c.toNat < 256 by omega), hcode,
      Option.bind_eq_bind, Option.bind_some]
  · rw [if_neg hcontrol]
    have hplain : (decide (c.toNat < 0x20) || c == '\x5c') = false := by
      simp [hcontrol, hslash]
    show units? (fuel + 1) (c :: rest) = _
    conv => lhs; unfold units?
    split
    · contradiction
    · rename_i heq
      exact absurd (List.cons.inj heq).1 hquote
    · rename_i heq
      exact absurd (List.cons.inj heq).1 hslash
    · rename_i heq
      exact absurd (List.cons.inj heq).1 hslash
    · rename_i heq
      obtain ⟨rfl, rfl⟩ := List.cons.inj heq
      rw [hplain]
      rfl

/-- The characters of a string are read one by one, up to the quote. -/
theorem units?_flatMap_escaped {cs : List Char} {fuel : Nat}
    (h : cs.length < fuel) :
    units? fuel (cs.flatMap escaped ++ '\x22' :: rest) =
      some (cs.map .char, rest) := by
  induction cs generalizing fuel with
  | nil =>
      obtain ⟨fuel, rfl⟩ := Nat.exists_eq_add_one_of_ne_zero
        (Nat.ne_of_gt h)
      rfl
  | cons c cs ih =>
      rw [List.length_cons] at h
      obtain ⟨fuel, rfl⟩ := Nat.exists_eq_add_one_of_ne_zero
        (show fuel ≠ 0 by omega)
      rw [List.flatMap_cons, List.append_assoc, units?_escaped,
        ih (by omega)]
      rfl

theorem unitsText?_chars (cs : List Char) :
    unitsText? (cs.map .char) = some cs := by
  induction cs with
  | nil => rfl
  | cons c cs ih => simp only [List.map_cons, unitsText?, ih, Option.map_some]

/-- No escape is shorter than the character, so the fuel is enough. -/
theorem length_le_flatMap_escaped (cs : List Char) :
    cs.length ≤ (cs.flatMap escaped).length := by
  have hpos : ∀ c, 0 < (escaped c).length := by
    intro c
    unfold escaped
    repeat' split
    all_goals simp
  induction cs with
  | nil => exact Nat.zero_le _
  | cons c cs ih =>
      have := hpos c
      rw [List.flatMap_cons, List.length_append, List.length_cons]
      omega

/-- What follows the opening quote of a string. -/
def stringTail : Option String → List Char
  | some s => s.toList.flatMap escaped ++ ['\x22']
  | none => ['\x5c', 'u', 'd', '8', '0', '0', '\x22']

theorem toList_stringText (s : Option String) :
    (stringText s).toList = '\x22' :: stringTail s := by
  cases s with
  | none => rfl
  | some s => simp [stringText, stringTail]

/-- A string is read back from its text, behind the opening quote. -/
theorem string?_stringTail (s : Option String) (rest : List Char) :
    string? (stringTail s ++ rest) = some (s, rest) := by
  cases s with
  | none => rfl
  | some s =>
      have hlen := length_le_flatMap_escaped s.toList
      simp only [string?, stringTail, List.append_assoc, List.singleton_append]
      rw [units?_flatMap_escaped (by
        rw [List.length_append]; omega)]
      simp [unitsText?_chars]

-- ============================================================= numbers

/-- A number as JSON has it: digits in every place that takes digits, one
at least in front of the point, and no zero in front of others. -/
structure Number.WellFormed (n : Number) : Prop where
  whole_ne_nil : n.whole ≠ []
  whole_digits : ∀ c ∈ n.whole, isDigit c = true
  no_leading_zero : ∀ ds, n.whole = '0' :: ds → ds = []
  fraction_digits : ∀ c ∈ n.fraction, isDigit c = true

/-- May the character continue a number? -/
def continuesNumber (c : Char) : Bool :=
  isDigit c || c == '.' || c == 'e' || c == 'E'

/-- A run of digits is read as a whole. -/
theorem someDigits?_append {ds : List Char} (hne : ds ≠ [])
    (hds : ∀ c ∈ ds, isDigit c = true) (hrest : Stops isDigit rest) :
    someDigits? (ds ++ rest) = some (ds, rest) := by
  obtain ⟨c, cs, rfl⟩ := List.exists_cons_of_ne_nil hne
  unfold someDigits? digitRun
  rw [takeWhile_append_stop hds hrest, dropWhile_append_stop hds hrest]

/-- The whole part is a single zero, or begins with another digit. -/
theorem wholePart?_append {n : Number} (hn : n.WellFormed)
    (hrest : Stops isDigit rest) :
    wholePart? (n.whole ++ rest) = some (n.whole, rest) := by
  unfold wholePart?
  rw [someDigits?_append hn.whole_ne_nil hn.whole_digits hrest]
  split
  · rename_i heq
    have hzero := hn.no_leading_zero _
      (congrArg Prod.fst (Option.some.inj heq))
    contradiction
  · rfl

/-- The fraction of a number as it is written. -/
def fractionText (ds : List Char) : String :=
  if ds.isEmpty then "" else "." ++ String.ofList ds

/-- A fraction is there exactly if a point is. -/
theorem fractionPart?_append {ds : List Char}
    (hds : ∀ c ∈ ds, isDigit c = true)
    (hrest : Stops (fun c => isDigit c || c == '.') rest) :
    fractionPart? ((fractionText ds).toList ++ rest) = some (ds, rest) := by
  cases ds with
  | nil =>
      show fractionPart? rest = _
      unfold fractionPart?
      split
      · exact absurd (hrest '.' rfl) (by decide)
      · rfl
  | cons d ds =>
      have hstop : Stops isDigit rest := fun c hc =>
        (Bool.or_eq_false_iff.mp (hrest c hc)).1
      simp only [fractionText, List.isEmpty_cons, Bool.false_eq_true,
        if_false, String.toList_append, String.toList_ofList]
      exact someDigits?_append (List.cons_ne_nil d ds) hds hstop

/-- The exponent of a number as it is written. -/
def exponentText : Option Int → String
  | none => ""
  | some e => (if e < 0 then "e-" else "e+") ++ padded 0 e.natAbs

/-- An exponent is there exactly if its letter is, and it may have a sign. -/
theorem exponentPart?_append (e : Option Int)
    (hrest : Stops continuesNumber rest) :
    exponentPart? ((exponentText e).toList ++ rest) = some (e, rest) := by
  have hstop : Stops isDigit rest := fun c hc => by
    have := hrest c hc
    simp only [continuesNumber, Bool.or_eq_false_iff] at this
    exact this.1.1.1
  have hdigits : ∀ (negative : Bool) (n : Nat),
      exponentDigits? negative ((padded 0 n).toList ++ rest) =
        some (some (if negative then -(n : Int) else n), rest) := by
    intro negative n
    unfold exponentDigits?
    rw [someDigits?_append (padded_ne_nil 0 n)
      (fun _ h => isDigit_of_mem_padded h) hstop]
    simp only [Option.map_some, ofDigits_padded]
  cases e with
  | none =>
      -- no exponent is written, so what follows must not look like one
      show exponentPart? rest = _
      cases rest with
      | nil => rfl
      | cons c cs =>
          have hc := hrest c rfl
          simp only [continuesNumber, Bool.or_eq_false_iff] at hc
          simp only [exponentPart?, hc.1.2, hc.2, Bool.or_self,
            Bool.false_eq_true, if_false]
  | some e =>
      have hminus : "e-".toList = ['e', '-'] := rfl
      have hplus : "e+".toList = ['e', '+'] := rfl
      rw [exponentText, String.toList_append, List.append_assoc]
      by_cases hneg : e < 0
      · rw [if_pos hneg, hminus, List.cons_append, List.singleton_append]
        simp only [exponentPart?, beq_self_eq_true, Bool.true_or, if_true,
          hdigits, Option.some.injEq, Prod.mk.injEq, and_true]
        omega
      · rw [if_neg hneg, hplus, List.cons_append, List.singleton_append]
        simp only [exponentPart?, beq_self_eq_true, Bool.true_or, if_true,
          hdigits, Bool.false_eq_true, if_false, Option.some.injEq,
          Prod.mk.injEq, and_true]
        omega

/-- Neither the digits of a number nor its fraction go on into the
exponent, or into what follows the number. -/
theorem stops_exponentText (e : Option Int)
    (hrest : Stops continuesNumber rest) :
    Stops (fun c => isDigit c || c == '.')
      ((exponentText e).toList ++ rest) := by
  cases e with
  | none =>
      intro c hc
      have := hrest c hc
      simp only [continuesNumber, Bool.or_eq_false_iff] at this
      simp only [this.1.1.1, this.1.1.2, Bool.or_self]
  | some e =>
      rw [exponentText, String.toList_append, List.append_assoc]
      split
      · exact stops_cons (c := 'e') _ (by rfl)
      · exact stops_cons (c := 'e') _ (by rfl)

/-- Reads a number after its sign. -/
def unsigned? (negative : Bool) (cs : List Char) :
    Option (Number × List Char) := do
  let (whole, cs) ← wholePart? cs
  let (fraction, cs) ← fractionPart? cs
  let (exponent, cs) ← exponentPart? cs
  pure (⟨negative, whole, fraction, exponent⟩, cs)

theorem number?_minus (cs : List Char) :
    number? ('-' :: cs) = unsigned? true cs := rfl

/-- A number without a minus sign is not negative. -/
theorem number?_of_stops {cs : List Char} (h : Stops (· == '-') cs) :
    number? cs = unsigned? false cs := by
  unfold number?
  split
  rename_i negative cs' heq
  split at heq
  · exact absurd (h '-' rfl) (by decide)
  · cases heq
    rfl

/-- The parts of a number are read in their order, as each one stops where the
next one starts. -/
theorem unsigned?_parts {n : Number} (hn : n.WellFormed)
    (hrest : Stops continuesNumber rest) :
    unsigned? n.negative (n.whole ++ ((fractionText n.fraction).toList
      ++ ((exponentText n.exponent).toList ++ rest))) = some (n, rest) := by
  have hexponent := stops_exponentText n.exponent hrest
  have hfraction : Stops isDigit ((fractionText n.fraction).toList
      ++ ((exponentText n.exponent).toList ++ rest)) := by
    cases n.fraction with
    | nil => exact fun c hc => (Bool.or_eq_false_iff.mp (hexponent c hc)).1
    | cons d ds =>
        rw [fractionText, if_neg (by simp), String.toList_append,
          List.append_assoc]
        exact stops_cons (c := '.') _ (by rfl)
  simp only [unsigned?, wholePart?_append hn hfraction,
    fractionPart?_append hn.fraction_digits hexponent,
    exponentPart?_append n.exponent hrest, Option.bind_eq_bind,
    Option.bind_some, Option.pure_def]

theorem toList_numberText (n : Number) :
    (numberText n).toList = (if n.negative then ['-'] else [])
      ++ (n.whole ++ ((fractionText n.fraction).toList
      ++ (exponentText n.exponent).toList)) := by
  have h : numberText n = (if n.negative then "-" else "")
      ++ String.ofList n.whole ++ fractionText n.fraction
      ++ exponentText n.exponent := rfl
  cases hneg : n.negative <;> simp [h, hneg]

/-- A number is read back from its text. -/
theorem number?_numberText {n : Number} (hn : n.WellFormed)
    (hrest : Stops continuesNumber rest) :
    number? ((numberText n).toList ++ rest) = some (n, rest) := by
  have hparts := unsigned?_parts hn hrest
  simp only [toList_numberText, List.append_assoc]
  cases hneg : n.negative with
  | true =>
      rw [hneg] at hparts
      exact (number?_minus _).trans hparts
  | false =>
      -- the first digit is no sign
      rw [hneg] at hparts
      obtain ⟨d, ds, hd⟩ := List.exists_cons_of_ne_nil hn.whole_ne_nil
      have hdigit := hn.whole_digits d (by rw [hd]; exact .head _)
      refine (number?_of_stops ?_).trans hparts
      rw [hd]
      refine stops_cons _ ?_
      rw [beq_eq_false_iff_ne]
      rintro rfl
      exact absurd hdigit (by decide)

end FilterCriteria.Json
