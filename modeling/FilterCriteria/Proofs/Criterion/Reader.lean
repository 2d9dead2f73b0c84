/-
A reader of the criteria language, by precedence climbing: an operand is
read, then every operator behind it that binds strongly enough, with a right
operand that binds more strongly than the operator. Chains come out nested
to the left.

The reader is a proof device. It shows that the text of a criterion can be
read at all and in one way only, so that what it gives back is all that the
text tells (`Unambiguous`). It takes every text that a criterion is written
as, and may take others.

# Progress

The reader ends on every text, since it goes on only where something has been
read off (`shorter`). The rest of a text comes with the proof that it is
shorter, and the recursion is on the length of the text. Between operands and
operators it changes hands (`criterion`, `tails`, `joined`, `operand`), and
some of these take nothing off the text themselves, so their measures have a
second part that says who calls whom.
-/
import Mathlib.Data.List.TakeWhile
import FilterCriteria.Criterion.Text
import FilterCriteria.Proofs.Time.Span

namespace FilterCriteria.Criterion.Reader

-- ============================================================== tables

/-- The first entry of a table whose text comes next, and what follows
it. -/
def next? {α : Type} (text : α → String) (table : List α)
    (cs : List Char) : Option (α × List Char) :=
  (table.find? fun a => (text a).toList.isPrefixOf cs).map fun a =>
    (a, cs.drop (text a).toList.length)

/-- What can stand behind an operand. -/
inductive Tail where
  | binary (op : BinaryOp)
  | isNull
  | like
  | within
deriving DecidableEq

namespace Tail

def all : List Tail :=
  BinaryOp.all.map .binary ++ [.isNull, .like, .within]

def text : Tail → String
  | .binary op => " " ++ op.symbol ++ " "
  | .isNull => " Is Null"
  | .like => " Like "
  | .within => " In ("

def level : Tail → Nat
  | .binary op => op.precedence.level
  | _ => Precedence.comparison.level

end Tail

/-- The operators that stand in front of their operand. -/
def signs : List UnaryOp :=
  [.not, .minus, .plus, .bitwiseNot]

def signText : UnaryOp → String
  | .not => "Not "
  | .minus => "- "
  | .plus => "+ "
  | .bitwiseNot => "~ "
  | .isNull => ""

def kindText (kind : Aggregate) : String :=
  "." ++ kind.name ++ "("

-- ============================================================ literals

/-- Characters that are in no name. -/
def isMark (c : Char) : Bool :=
  [' ', '(', ')', '[', ']', '\x27', '#', ',', '+', '-', '~'].contains c

/-- Reads up to the closing quote; two quotes stand for one. -/
def quoted? : List Char → Option (List Char × List Char)
  | '\x27' :: '\x27' :: cs =>
    (quoted? cs).map fun (s, rest) => ('\x27' :: s, rest)
  | '\x27' :: cs => some ([], cs)
  | c :: cs => (quoted? cs).map fun (s, rest) => (c :: s, rest)
  | [] => none

/-- Reads a string or a character, after the opening quote. -/
def text? (cs : List Char) : Option (Value × List Char) :=
  (quoted? cs).map fun
    | ([c], 'c' :: rest) => (.char c, rest)
    | (s, rest) => (.string (String.ofList s), rest)

/-- Reads a number without its sign. -/
def number (negative : Bool) (cs : List Char) : Value × List Char :=
  let n : Int := ofDigits (cs.takeWhile isDigit)
  let n := if negative then -n else n
  match cs.dropWhile isDigit with
  | 'L' :: rest => (.long (Int64.ofInt n), rest)
  | rest => (.int (Int32.ofInt n), rest)

/-- Reads a time span, after the opening number sign. -/
def span? (cs : List Char) : Option (Value × List Char) :=
  match cs.dropWhile (· != '#') with
  | _ :: rest => (TimeSpan.ofText? (cs.takeWhile (· != '#'))).map fun t =>
    (.timeSpan t, rest)
  | [] => none

/-- The values that are words. -/
def constants : List Value :=
  [.null, .bool true, .bool false]

def constant? (name : List Char) : Option Value :=
  constants.find? fun v => v.literal.toList = name

def functionNamed (name : List Char) : Function :=
  match Builtin.ofName? (String.ofList name) with
  | some f => .builtin f
  | none => .custom (String.ofList name)

/-- What a list between brackets stands for: an array if it holds nothing
but values, or else its only item. -/
def grouping? : List Criterion → Option Criterion
  | [c] =>
    match c with
    | .literal v => some (.literal (.array [v]))
    | c => some c
  | cs => (cs.mapM value?).map fun vs => .literal (.array vs)

-- ============================================================ progress

/-- What has been read, if the rest is shorter than the text was. -/
def shorter {α : Type} (cs : List Char) (r : Option (α × List Char)) :
    Option (α × { rest : List Char // rest.length < cs.length }) :=
  r.bind fun (a, rest) =>
    if h : rest.length < cs.length then some (a, ⟨rest, h⟩) else none

@[simp] theorem shorter_none {α : Type} (cs : List Char) :
    shorter cs (none : Option (α × List Char)) = none :=
  rfl

/-- What is shorter is read. -/
theorem shorter_some {α : Type} {cs rest : List Char} (a : α)
    (h : rest.length < cs.length) :
    shorter cs (some (a, rest)) = some (a, ⟨rest, h⟩) :=
  dif_pos h

/-- What has been read is what was read off. -/
theorem eq_of_shorter {α : Type} {cs : List Char}
    {r : Option (α × List Char)} {a : α}
    {rest : { rest : List Char // rest.length < cs.length }}
    (h : shorter cs r = some (a, rest)) : r = some (a, rest.1) := by
  obtain ⟨⟨b, ds⟩, rfl, hif⟩ := Option.bind_eq_some_iff.mp h
  obtain ⟨_, hread⟩ := Option.dite_none_right_eq_some.mp hif
  cases hread
  rfl

-- ============================================================ criteria

mutual

/-- Reads a criterion whose operators bind at least so strongly. -/
def criterion (least : Nat) (cs : List Char) :
    Option (Criterion × List Char) := do
  let (left, ⟨rest, _⟩) ← shorter cs (operand cs)
  tails least left rest
termination_by (cs.length, 2)

/-- Reads on behind an operand. -/
def tails (least : Nat) (left : Criterion) (cs : List Char) :
    Option (Criterion × List Char) :=
  match shorter cs (next? Tail.text Tail.all cs) with
  | none => some (left, cs)
  | some (t, ⟨rest, _⟩) =>
    if t.level < least then some (left, cs)
    else do
      let (c, ⟨rest, _⟩) ← shorter cs (joined left t rest)
      tails least c rest
termination_by (cs.length, 0)

/-- Reads what an operator takes on its right. -/
def joined (left : Criterion) (t : Tail) (cs : List Char) :
    Option (Criterion × List Char) :=
  match t with
  | .binary op => do
    let (right, rest) ← criterion (op.precedence.level + 1) cs
    pure (.binary op left right, rest)
  | .isNull => some (.unary .isNull left, cs)
  | .like => do
    let (right, rest) ← criterion comparedLevel cs
    pure (.function (.custom likeName) [left, right], rest)
  | .within => do
    let (values, rest) ← items cs
    pure (.within left values, rest)
termination_by (cs.length, 5)

/-- Reads an operand with the operators in front of it. -/
def operand (cs : List Char) : Option (Criterion × List Char) :=
  match shorter cs (next? signText signs cs) with
  | some (op, ⟨rest, _⟩) => do
    let (c, rest) ← criterion op.precedence.level rest
    pure (.unary op c, rest)
  | none =>
    match cs with
    | [] => none
    | c :: rest =>
      if c = '[' then
        named (rest.takeWhile (· != ']')) (rest.dropWhile (· != ']'))
      else if c = '(' then do
        let (ds, rest) ← items rest
        let d ← grouping? ds
        pure (d, rest)
      else if c = '\x27' then
        (text? rest).map fun (v, rest) => (.literal v, rest)
      else if c = '#' then
        (span? rest).map fun (v, rest) => (.literal v, rest)
      else if c = '-' then
        let (v, rest) := number true rest
        some (.literal v, rest)
      else if isDigit c then
        let (v, rest) := number false (c :: rest)
        some (.literal v, rest)
      else
        let cs := c :: rest
        word (cs.takeWhile (!isMark ·)) (cs.dropWhile (!isMark ·))
termination_by (cs.length, 1)
decreasing_by
  · exact .left _ _ ‹_›
  · exact .left _ _ (Nat.lt_succ_of_le (List.length_dropWhile_le _ _))
  · exact .left _ _ (Nat.lt_succ_self _)
  · exact .right' _ (List.length_dropWhile_le _ _) Nat.zero_lt_one

/-- Reads a property or an aggregate, after its name. -/
def named (name cs : List Char) : Option (Criterion × List Char) :=
  match cs with
  | _ :: '[' :: cs => do
    let (condition, ⟨rest, _⟩) ← shorter cs (optional ']' cs)
    match shorter rest (next? kindText Aggregate.all rest) with
    | some (kind, ⟨rest, _⟩) => do
      let (expression, rest) ← optional ')' rest
      pure (.aggregate (String.ofList name) kind expression condition, rest)
    | none => pure (.aggregate (String.ofList name) .any none condition, rest)
  | _ :: rest => some (.property (String.ofList name), rest)
  | [] => none
termination_by (cs.length, 0)

/-- Reads the operands of a function, after its name, or nothing if the name
is a value. -/
def word (name cs : List Char) : Option (Criterion × List Char) :=
  match cs with
  | '(' :: rest => do
    let (operands, rest) ← items rest
    pure (.function (functionNamed name) operands, rest)
  | rest => (constant? name).map fun v => (.literal v, rest)
termination_by (cs.length, 0)

/-- Reads a criterion up to a mark, or the mark alone. -/
def optional (mark : Char) (cs : List Char) :
    Option (Option Criterion × List Char) :=
  match cs with
  | [] => none
  | c :: rest =>
    if c = mark then some (none, rest)
    else do
      let (d, rest) ← criterion 0 (c :: rest)
      match rest with
      | c :: rest => if c = mark then some (some d, rest) else none
      | [] => none
termination_by (cs.length, 3)

/-- Reads criteria with commas between them, up to the closing bracket. -/
def items (cs : List Char) : Option (List Criterion × List Char) :=
  match cs with
  | ')' :: rest => some ([], rest)
  | cs => someItems cs
termination_by (cs.length, 4)

def someItems (cs : List Char) : Option (List Criterion × List Char) := do
  let (c, ⟨rest, _⟩) ← shorter cs (criterion 0 cs)
  moreItems c rest
termination_by (cs.length, 3)

/-- Reads on behind an item. -/
def moreItems (c : Criterion) (cs : List Char) :
    Option (List Criterion × List Char) :=
  match cs with
  | ',' :: ' ' :: rest => do
    let (ds, rest) ← someItems rest
    pure (c :: ds, rest)
  | ')' :: rest => pure ([c], rest)
  | _ => none
termination_by (cs.length, 0)

end

end FilterCriteria.Criterion.Reader
