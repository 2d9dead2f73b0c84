/-
The operands that are not made by operators: properties, aggregates, calls
of functions and values. Each is read back from its text, given the same of
the criteria inside it.

The reader decides by the first character what an operand is: a bracket opens
a name, a quote a text, a number sign a time span, and so on, and everything
else begins a word. A word may be a value, the operator `Not` or the name of a
function, and only what stands behind it tells which. So each lemma here says
of the text behind an operand what it must not begin with; all of it follows
from what can stand behind an operand at all (`Follows.stops`).
-/
import FilterCriteria.Proofs.Criterion.Reader.Operators

namespace FilterCriteria

/-- The kinds of values that the reader knows: all but dates, objects and
numbers with a fraction. -/
def Value.Legible : Value → Prop
  | .null | .bool _ | .char _ | .int _ | .long _ | .string _ | .timeSpan _
  | .array _ => True
  | .single _ | .double _ | .decimal _ | .dateTime _ | .object _ => False

namespace Criterion.Reader

variable {rest : List Char}

-- =============================================================== names

section

variable {name cs ds : List Char} {condition expression : Option Criterion}

/-- A name ends at the first closing bracket. -/
theorem operand_named (hname : ']' ∉ name) (cs : List Char) :
    operand ('[' :: (name ++ ']' :: cs)) = named name (']' :: cs) := by
  have hrun : ∀ c ∈ name, (c != ']') = true := by
    intro c hc
    rw [bne_iff_ne]
    rintro rfl
    exact hname hc
  have hstop : Stops (· != ']') (']' :: cs) := stops_cons _ (by decide)
  rw [operand, sign_next?_eq_none (stops_cons _ (by decide))]
  show named ((name ++ ']' :: cs).takeWhile _)
    ((name ++ ']' :: cs).dropWhile _) = _
  rw [takeWhile_append_stop hrun hstop, dropWhile_append_stop hrun hstop]

/-- A name with no bracket behind it is a property. -/
theorem named_property (hrest : Stops (· == '[') rest) :
    named name (']' :: rest) = some (.property (String.ofList name), rest) := by
  unfold named
  cases rest with
  | nil => rfl
  | cons c rest =>
      have hc : c ≠ '[' := by simpa using hrest c rfl
      simp [hc]

/-- That anything meets the condition goes without saying. -/
theorem named_any (hcondition : optional ']' cs = some (condition, rest))
    (hcs : rest.length < cs.length) (hrest : Stops (· == '.') rest) :
    named name (']' :: '[' :: cs) =
      some (.aggregate (String.ofList name) .any none condition, rest) := by
  unfold named
  simp only [hcondition, shorter_some _ hcs, Option.bind_eq_bind,
    Option.bind_some, kind_next?_eq_none hrest, shorter_none]
  rfl

/-- With a condition and a kind behind it, a name is a collection. -/
theorem named_aggregate {kind : Aggregate}
    (hcondition : optional ']' cs =
      some (condition, (kindText kind).toList ++ ds))
    (hcs : ((kindText kind).toList ++ ds).length < cs.length)
    (hexpression : optional ')' ds = some (expression, rest)) :
    named name (']' :: '[' :: cs) =
      some (.aggregate (String.ofList name) kind expression condition, rest) := by
  have hds := length_lt_append
    (show (kindText kind).toList ≠ [] by simp [kindText]) ds
  unfold named
  simp only [hcondition, shorter_some _ hcs, Option.bind_eq_bind,
    Option.bind_some, kind_next?_append, shorter_some _ hds, hexpression]
  rfl

end

/-- A property is read back from its text. -/
theorem reads_property {path : String} (hpath : ']' ∉ path.toList) :
    Reads (.property path) := by
  refine reads_of_operand (by simp [text]) fun rest hrest => ?_
  have htext : (property path).text.toList ++ rest =
      '[' :: (path.toList ++ ']' :: rest) := by
    simp [text]
  rw [htext, operand_named hpath, named_property (hrest.stops (by decide)),
    String.ofList_toList]

/-- An aggregate is read back from its text, with or without the condition and
the expression, given that they are. -/
theorem reads_aggregate {collection : String} {kind : Aggregate}
    {expression condition : Option Criterion}
    (hcollection : ']' ∉ collection.toList)
    (hexpression : ∀ d ∈ expression, Reads d)
    (hcondition : ∀ d ∈ condition, Reads d) :
    Reads (.aggregate collection kind expression condition) := by
  have hne : (aggregate collection kind expression condition).text.toList
      ≠ [] := by
    rw [text_aggregate, aggregateText]
    split <;> simp
  refine reads_of_operand hne fun rest hrest => ?_
  rw [text_aggregate, aggregateText]
  split
  · -- `Any` without an expression is written as the bare brackets
    rename_i hany
    obtain ⟨rfl, hnone⟩ := hany
    cases Option.isNone_iff_eq_none.mp hnone
    have hread := optional_text hcondition (.tail _ (.head _)) rest
    generalize (condition.map text).getD "" = conditionText at hread ⊢
    have htext : ("[" ++ collection ++ "][" ++ conditionText ++ "]").toList
        ++ rest = '[' :: (collection.toList ++ ']' :: '[' ::
          (conditionText.toList ++ ']' :: rest)) := by
      simp
    rw [htext, operand_named hcollection,
      named_any hread (length_lt_append_cons _ _ _) (hrest.stops (by decide)),
      String.ofList_toList]
  · have hinner := optional_text hexpression (.head _) rest
    generalize (expression.map text).getD "" = expressionText at hinner ⊢
    have hread := optional_text hcondition (.tail _ (.head _))
      ((kindText kind).toList ++ (expressionText.toList ++ ')' :: rest))
    generalize (condition.map text).getD "" = conditionText at hread ⊢
    have htext : ("[" ++ collection ++ "][" ++ conditionText ++ "]" ++ "." ++
        kind.name ++ "(" ++ expressionText ++ ")").toList ++ rest =
        '[' :: (collection.toList ++ ']' :: '[' :: (conditionText.toList ++
          ']' :: ((kindText kind).toList ++
            (expressionText.toList ++ ')' :: rest)))) := by
      simp [kindText]
    rw [htext, operand_named hcollection,
      named_aggregate hread (length_lt_append_cons _ _ _) hinner,
      String.ofList_toList]

-- =============================================================== calls

/-- A word is read as one, unless it is `Not` with a blank behind it. -/
theorem operand_isWord {name : List Char} (hname : isWord name = true)
    (hrest : Stops (!isMark ·) rest)
    (hnot : name ≠ ['N', 'o', 't'] ∨ Stops (· == ' ') rest) :
    operand (name ++ rest) = word name rest := by
  have hplain := not_isMark_of_isWord hname
  have hread : operand (name ++ rest) =
      word ((name ++ rest).takeWhile (!isMark ·))
        ((name ++ rest).dropWhile (!isMark ·)) := by
    have hsign := sign_next?_word hname hrest hnot
    obtain ⟨c, cs, rfl, hdigit, hmark⟩ := isWord_eq_cons hname
    refine operand_word hsign hdigit fun hc => ?_
    have hmarks : ['[', '(', '\x27', '#', '-'].all isMark = true := rfl
    rw [List.all_eq_true.mp hmarks c hc] at hmark
    contradiction
  rw [hread, takeWhile_append_stop hplain hrest,
    dropWhile_append_stop hplain hrest]

theorem word_call {cs : List Char} {ds : List Criterion} (name : List Char)
    (hitems : items cs = some (ds, rest)) :
    word name ('(' :: cs) = some (.function (functionNamed name) ds, rest) := by
  unfold word
  simp only [hitems]
  rfl

/-- A function is read back from its call, given that its operands are and its
name is that of no other one. -/
theorem reads_call {f : Function} {operands : List Criterion}
    (hcall : isInfix f operands = false)
    (hname : isWord f.name.toList = true)
    (hf : functionNamed f.name.toList = f)
    (hoperands : ∀ d ∈ operands, Reads d) : Reads (.function f operands) := by
  refine reads_of_operand (by simp [text_call hcall]) fun rest hrest => ?_
  have hitems := items_texts hoperands rest
  rw [text_call hcall]
  generalize String.intercalate ", " (operands.map text) = inner at hitems ⊢
  have htext : (f.name ++ "(" ++ inner ++ ")").toList ++ rest =
      f.name.toList ++ '(' :: (inner.toList ++ ')' :: rest) := by
    simp
  rw [htext, operand_isWord hname (stops_cons _ (by decide))
    (.inr (stops_cons _ (by decide))), word_call _ hitems, hf]

theorem isWord_builtin (f : Builtin) : isWord f.name.toList = true := by
  have hall : ∀ f ∈ Builtin.all, isWord f.name.toList = true := by
    decide +kernel
  exact hall f f.mem_all

theorem functionNamed_builtin (f : Builtin) :
    functionNamed f.name.toList = .builtin f := by
  rw [functionNamed, String.ofList_toList, Builtin.ofName?_name]

theorem functionNamed_custom {name : String}
    (h : Builtin.ofName? name = none) :
    functionNamed name.toList = .custom name := by
  rw [functionNamed, String.ofList_toList, h]

-- ============================================================ literals

theorem operand_quote (cs : List Char) :
    operand ('\x27' :: cs) =
      (text? cs).map fun (v, rest) => (.literal v, rest) := by
  rw [operand, sign_next?_eq_none (stops_cons _ (by decide))]
  rfl

theorem operand_span (cs : List Char) :
    operand ('#' :: cs) =
      (span? cs).map fun (v, rest) => (.literal v, rest) := by
  rw [operand, sign_next?_eq_none (stops_cons _ (by decide))]
  rfl

/-- A minus sign with no blank behind it belongs to a number. -/
theorem operand_minus {cs : List Char} (h : Stops (· == ' ') cs) :
    operand ('-' :: cs) =
      some (.literal (number true cs).1, (number true cs).2) := by
  rw [operand, sign_next?_minus h]
  rfl

/-- A digit begins a number, whatever the other rules are. -/
theorem operand_digit {c : Char} {cs : List Char} (h : isDigit c = true) :
    operand (c :: cs) =
      some (.literal (number false (c :: cs)).1,
        (number false (c :: cs)).2) := by
  have hne : ∀ d, isDigit d = false → c ≠ d := by
    rintro d hd rfl
    exact absurd h (by simp [hd])
  have hsign : Stops ['N', '-', '+', '~'].contains (c :: cs) := by
    refine stops_cons _ ?_
    simp [hne 'N' rfl, hne '-' rfl, hne '+' rfl, hne '~' rfl]
  rw [operand, sign_next?_eq_none hsign]
  simp only [shorter_none, if_neg (hne '[' rfl), if_neg (hne '(' rfl),
    if_neg (hne '\x27' rfl), if_neg (hne '#' rfl), if_neg (hne '-' rfl), h,
    if_true]

/-- A value that is a word is read as one, unless a bracket behind it makes it
a function. -/
theorem operand_constant {v : Value} (hv : v ∈ constants)
    (hrest : Stops (!isMark ·) rest) (hgroup : Stops (· == '(') rest) :
    operand (v.literal.toList ++ rest) = some (.literal v, rest) := by
  have hword : isWord v.literal.toList = true ∧
      v.literal.toList ≠ ['N', 'o', 't'] := by
    simp only [constants, List.mem_cons, List.not_mem_nil, or_false] at hv
    rcases hv with rfl | rfl | rfl <;> decide
  rw [operand_isWord hword.1 hrest (.inl hword.2)]
  unfold word
  simp only [constant?_literal hv]
  cases rest with
  | nil => rfl
  | cons c rest =>
      have hc : c ≠ '(' := by simpa using hgroup c rfl
      simp [hc]

/-- The sign of a number belongs to it. -/
theorem operand_intText (n : Int) {cs : List Char} {v : Value}
    (h : number (n < 0) ((padded 0 n.natAbs).toList ++ cs) = (v, rest)) :
    operand ((intText n).toList ++ cs) = some (.literal v, rest) := by
  obtain ⟨c, ds, hcons, hdigit⟩ := padded_eq_cons 0 n.natAbs
  rw [intText]
  by_cases hn : n < 0
  · have hblank : Stops (· == ' ') ((padded 0 n.natAbs).toList ++ cs) := by
      rw [hcons]
      refine stops_cons _ (beq_eq_false_iff_ne.mpr ?_)
      rintro rfl
      exact absurd hdigit (by decide)
    have htext : ("-" ++ padded 0 n.natAbs).toList ++ cs =
        '-' :: ((padded 0 n.natAbs).toList ++ cs) := by
      simp
    rw [decide_eq_true hn] at h
    rw [if_pos hn, htext, operand_minus hblank, h]
  · rw [decide_eq_false hn, hcons, List.cons_append] at h
    rw [if_neg hn, hcons, List.cons_append, operand_digit hdigit, h]

/-- A number is its size with its sign. -/
theorem signed_natAbs (n : Int) :
    (if (n < 0 : Bool) = true then -(n.natAbs : Int) else n.natAbs) = n := by
  simp only [decide_eq_true_eq]
  split <;> omega

/-- A number of 32 bits ends where its digits do. -/
theorem operand_int (n : Int) (hdigit : Stops isDigit rest)
    (hL : Stops (· == 'L') rest) :
    operand ((intText n).toList ++ rest) =
      some (.literal (.int (Int32.ofInt n)), rest) := by
  refine operand_intText n ?_
  rw [number_int _ _ hdigit hL, signed_natAbs]

/-- A number of 64 bits has its letter behind it. -/
theorem operand_long (n : Int) (rest : List Char) :
    operand ((intText n).toList ++ 'L' :: rest) =
      some (.literal (.long (Int64.ofInt n)), rest) := by
  refine operand_intText n ?_
  rw [number_long, signed_natAbs]

/-- Values between brackets are an array, also if there is only one, or none.
-/
theorem grouping?_literals (vs : List Value) :
    grouping? (vs.map .literal) = some (.literal (.array vs)) := by
  have hvalues : (vs.map Criterion.literal).mapM value? = some vs := by
    rw [List.mapM_map]
    show vs.mapM (fun v => pure (id v)) = some vs
    rw [List.mapM_pure, List.map_id]
    rfl
  match vs, hvalues with
  | [], _ => rfl
  | [v], _ => rfl
  | v :: w :: vs, hvalues =>
      show ((v :: w :: vs).map Criterion.literal |>.mapM value?).map _ = _
      rw [hvalues]
      rfl

theorem literals_eq_map (vs : List Value) :
    Value.literals vs = (vs.map Criterion.literal).map text := by
  induction vs with
  | nil => rfl
  | cons v vs ih => rw [Value.literals, ih, List.map_cons, List.map_cons, text]

/-- Every value has a text. -/
theorem literal_ne_nil {v : Value} (h : v.Legible) :
    v.literal.toList ≠ [] := by
  have hint : ∀ n : Int, (intText n).toList ≠ [] := by
    intro n
    obtain ⟨c, cs, hcons, -⟩ := padded_eq_cons 0 n.natAbs
    rw [intText]
    split
    · simp
    · simp [hcons]
  cases v with
  | bool b => cases b <;> decide
  | int n => exact hint n.toInt
  | null | char c | long n | string s | timeSpan t | array items =>
      simp [Value.literal, Value.quoted]
  | _ => exact absurd h id

/-- A value is read back from its text, and an array item by item. -/
theorem reads_literal {v : Value} (h : v.Every Value.Legible) :
    Reads (.literal v) := by
  induction h with
  | @node v here below ih =>
      have htext : (literal v).text.toList ≠ [] := by
        rw [text]
        exact literal_ne_nil here
      refine reads_of_operand htext fun rest hrest => ?_
      rw [text]
      -- what stands behind a value goes on with no word and opens no call
      have hmark : Stops (!isMark ·) rest := hrest.stops (by decide)
      have hgroup : Stops (· == '(') rest := hrest.stops (by decide)
      cases v with
      | null => exact operand_constant (by simp [constants]) hmark hgroup
      | bool b =>
          exact operand_constant (by cases b <;> simp [constants]) hmark hgroup
      | char c =>
          have htext : (Value.char c).literal.toList ++ rest =
              '\x27' :: (doubled [c] ++ '\x27' :: 'c' :: rest) := by
            rw [Value.literal, String.toList_append, List.append_assoc,
              toList_quoted, Char.toString, String.toList_singleton]
            rfl
          rw [htext, operand_quote, text?_char, Option.map_some]
      | int n =>
          have hread := operand_int n.toInt (hrest.stops (by decide))
            (hrest.stops (by decide))
          rwa [Int32.ofInt_toInt] at hread
      | long n =>
          have hread := operand_long n.toInt rest
          rw [Int64.ofInt_toInt] at hread
          rw [Value.literal, String.toList_append, List.append_assoc]
          exact hread
      | string s =>
          rw [Value.literal, toList_quoted, operand_quote,
            text?_string s (hrest.stops (by decide))
              (hrest.stops (by decide)), Option.map_some]
      | timeSpan t =>
          have htext : (Value.timeSpan t).literal.toList ++ rest =
              '#' :: (t.text.toList ++ '#' :: rest) := by
            simp [Value.literal]
          rw [htext, operand_span, span?_text, Option.map_some]
      | array items =>
          have hitems : ∀ d ∈ items.map Criterion.literal, Reads d := by
            intro d hd
            obtain ⟨w, hw, rfl⟩ := List.mem_map.mp hd
            exact ih w hw
          have hread := items_texts hitems rest
          rw [← literals_eq_map] at hread
          have htext : (Value.array items).literal.toList ++ rest =
              '(' :: ((String.intercalate ", "
                (Value.literals items)).toList ++ ')' :: rest) := by
            simp [Value.literal]
          rw [htext]
          exact operand_group hread (grouping?_literals items)
      | _ => exact absurd here id

end Criterion.Reader

end FilterCriteria
