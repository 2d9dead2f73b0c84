/-
What is common to reading typed data out of JSON values. Every array and
every object that is looked into takes one level of the room that is left;
members that nobody asks for take none.
-/
import FilterCriteria.Json.Number

namespace FilterCriteria.Json

def text? : Json → Option String
  | .string s => s
  | _ => none

def bool? : Json → Option Bool
  | .bool b => some b
  | _ => none

/-- Text of a single character. -/
def char? (j : Json) : Option Char :=
  match j.text?.map String.toList with
  | some [c] => some c
  | _ => none

def int32? : Json → Option Int32
  | .number n => n.toInt? >>= FilterCriteria.int32?
  | _ => none

def int64? : Json → Option Int64
  | .number n => n.toInt? >>= FilterCriteria.int64?
  | _ => none

def double? : Json → Option Float
  | .number n => n.toDouble?
  | _ => none

def single? : Json → Option Float32
  | .number n => n.toSingle?
  | _ => none

/-- A name by itself, or as the only member of an object, with null. -/
def named? {α : Type} (ofName? : String → Option α) :
    (room : Nat) → Json → Option α
  | _, .string (some name) => ofName? name
  | _ + 1, .object [(some name, .null)] => ofName? name
  | _, _ => none

/-- The members of one name. -/
def membersNamed (name : String) (members : List (Option String × Json)) :
    List Json :=
  members.filterMap fun m => if m.1 = some name then some m.2 else none

/-- The fields of a record, in the order of `names`. An object may leave
fields out and may have members that are not fields, but no field twice; an
array has all the fields and nothing else. -/
def fields? (names : List String) : Json → Option (List (Option Json))
  | .object members =>
    if members.all fun m => m.1.isSome then
      names.mapM fun name =>
        match membersNamed name members with
        | [] => some none
        | [j] => some (some j)
        | _ => none
    else none
  | .array items =>
    if items.length = names.length then some (items.map some) else none
  | _ => none

end FilterCriteria.Json
