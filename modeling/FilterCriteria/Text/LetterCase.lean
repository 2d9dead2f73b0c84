/-
Upper and lower case of text, for every script. Case is mapped character by
character, and one character may become several; the only letter that looks
at its neighbours is the capital sigma, which has a form of its own at the
end of a word.
-/
import FilterCriteria.Text.LetterCase.Mapping
import FilterCriteria.Text.LetterCase.Property

namespace FilterCriteria

/-- A character's counterpart by a table of runs and a table of letters
that expand; a character in neither is its own. -/
def mapCase (runs : List CaseRun) (expansions : List (Nat × List Nat))
    (c : Char) : List Char :=
  match expansions.lookup c.toNat with
  | some codes => codes.map Char.ofNat
  | none =>
    match runs.find? (·.holds c.toNat) with
    | some r => [Char.ofNat (c.toNat + r.shift).toNat]
    | none => [c]

def upperChar (c : Char) : List Char :=
  mapCase upperRuns upperExpansions c

def lowerChar (c : Char) : List Char :=
  mapCase lowerRuns lowerExpansions c

/-- Does a letter come first, after what is looked through? -/
def startsCased (cs : List Char) : Bool :=
  match cs.dropWhile fun c => inRanges caseIgnorableRanges c.toNat with
  | [] => false
  | c :: _ => inRanges casedRanges c.toNat

def upperCase (s : String) : String :=
  String.ofList (s.toList.flatMap upperChar)

/-- Lower case of what follows `before`, which is kept in reverse. A capital
sigma gets its final form after a letter with no letter behind it. -/
def lowerAfter (before : List Char) : List Char → List Char
  | [] => []
  | c :: rest =>
    let lower :=
      if c = 'Σ' then
        if startsCased before && !startsCased rest then ['ς'] else ['σ']
      else lowerChar c
    lower ++ lowerAfter (c :: before) rest

def lowerCase (s : String) : String :=
  String.ofList (lowerAfter [] s.toList)

end FilterCriteria
