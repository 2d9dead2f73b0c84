/-
What the reader does with the smallest parts of a text: the operators and
names of its tables, and the values. Each is read back from its own text
with anything behind it that can stand behind an operand.

A table is read from its top, so an entry is found if no text above it in the
table is a beginning of its own (`next?_append`), which is checked for each
table by going through it. Of the operators in front of an operand, `Not` is
also the beginning of words that are none; `sign_next?_word` says that a blank
behind it is what makes it an operator.
-/
import FilterCriteria.Proofs.Criterion.Operator
import FilterCriteria.Proofs.Criterion.Reader

namespace FilterCriteria.Criterion.Reader

-- ============================================================== tables

section

variable {α : Type} {text : α → String} {table : List α} {cs : List Char}

/-- Where no entry of a table begins with another one, an entry is read
whatever follows it. -/
theorem next?_append
    (htable : ∀ a ∈ table, ∀ b ∈ table,
      (text a).toList.isPrefixOf (text b).toList → a = b)
    {a : α} (ha : a ∈ table) (rest : List Char) :
    next? text table ((text a).toList ++ rest) = some (a, rest) := by
  have hself : (text a).toList <+: (text a).toList ++ rest :=
    List.prefix_append _ _
  have hfind : table.find? (fun b =>
      (text b).toList.isPrefixOf ((text a).toList ++ rest)) = some a := by
    cases hb : table.find? (fun b =>
        (text b).toList.isPrefixOf ((text a).toList ++ rest)) with
    | none =>
        have hno := List.find?_eq_none.mp hb a ha
        exact absurd (List.isPrefixOf_iff_prefix.mpr hself) hno
    | some b =>
        have hb' : (text b).toList <+: (text a).toList ++ rest := by
          simpa using List.find?_some hb
        have hmem := List.mem_of_find?_eq_some hb
        rcases List.prefix_or_prefix_of_prefix hself hb' with h | h
        · rw [htable a ha b hmem (List.isPrefixOf_iff_prefix.mpr h)]
        · rw [htable b hmem a ha (List.isPrefixOf_iff_prefix.mpr h)]
  rw [next?, hfind, Option.map_some, List.drop_left]

/-- No entry is read from a text that begins like none of them. -/
theorem next?_eq_none {p : Char → Bool}
    (htable : ∀ a ∈ table, (text a).toList.head?.any p = true)
    (h : Stops p cs) : next? text table cs = none := by
  have hfind : table.find? (fun a => (text a).toList.isPrefixOf cs) = none := by
    refine List.find?_eq_none.mpr fun a ha hprefix => ?_
    obtain ⟨rest, rfl⟩ := List.isPrefixOf_iff_prefix.mp hprefix
    have hhead := htable a ha
    cases htext : (text a).toList with
    | nil =>
        rw [htext] at hhead
        exact absurd hhead Bool.false_ne_true
    | cons c cs =>
        rw [htext] at hhead h
        exact absurd hhead (by simp [h c rfl])
  rw [next?, hfind, Option.map_none]

end

variable {rest : List Char}

theorem mem_tails (t : Tail) : t ∈ Tail.all := by
  cases t with
  | binary op =>
      exact List.mem_append_left _ (List.mem_map_of_mem (BinaryOp.mem_all op))
  | _ => decide

/-- An operator is read off the front, for its text is no beginning of another
one that comes earlier in the table. -/
theorem tail_next?_append (t : Tail) (rest : List Char) :
    next? Tail.text Tail.all (t.text.toList ++ rest) = some (t, rest) :=
  next?_append (by decide +kernel) (mem_tails t) rest

/-- Every operator begins with a blank. -/
theorem tail_next?_eq_none (h : Stops (· == ' ') rest) :
    next? Tail.text Tail.all rest = none :=
  next?_eq_none (by decide +kernel) h

/-- An operator that stands in front of its operand is read off the front. -/
theorem sign_next?_append {op : UnaryOp} (hop : op ∈ signs)
    (rest : List Char) :
    next? signText signs ((signText op).toList ++ rest) = some (op, rest) :=
  next?_append (by decide +kernel) hop rest

/-- The operators in front of an operand begin with one of four characters. -/
theorem sign_next?_eq_none
    (h : Stops ['N', '-', '+', '~'].contains rest) :
    next? signText signs rest = none :=
  next?_eq_none (by decide +kernel) h

/-- A minus that belongs to a number has no blank behind it. -/
theorem sign_next?_minus (h : Stops (· == ' ') rest) :
    next? signText signs ('-' :: rest) = none := by
  cases rest with
  | nil => rfl
  | cons c cs =>
      have hc : c ≠ ' ' := by simpa using h c rfl
      simp [next?, signs, signText, hc.symm]

/-- The kind of an aggregate is read off the front. -/
theorem kind_next?_append (kind : Aggregate) (rest : List Char) :
    next? kindText Aggregate.all ((kindText kind).toList ++ rest) =
      some (kind, rest) :=
  next?_append (by decide +kernel) (Aggregate.mem_all kind) rest

theorem kind_next?_eq_none (h : Stops (· == '.') rest) :
    next? kindText Aggregate.all rest = none :=
  next?_eq_none (by decide +kernel) h

-- =============================================================== words

/-- Can the characters be the name of a function? There is none of the
language's marks among them, and no digit in front. -/
def isWord (name : List Char) : Bool :=
  name.all (!isMark ·) && name.head?.any (!isDigit ·)

theorem not_isMark_of_isWord {name : List Char} (h : isWord name = true) :
    ∀ c ∈ name, (!isMark c) = true :=
  List.all_eq_true.mp (Bool.and_eq_true_iff.mp h).1

/-- A word has a first character, which is neither a digit nor a mark. -/
theorem isWord_eq_cons {name : List Char} (h : isWord name = true) :
    ∃ c cs, name = c :: cs ∧ isDigit c = false ∧ isMark c = false := by
  cases name with
  | nil => exact absurd h (by simp [isWord])
  | cons c cs =>
      have hmark := not_isMark_of_isWord h c (.head _)
      have hdigit := (Bool.and_eq_true_iff.mp h).2
      exact ⟨c, cs, rfl, by simpa using hdigit, by simpa using hmark⟩

/-- A word is not taken for the operator `Not`, unless it reads so and a
blank follows. -/
theorem sign_next?_word {name : List Char} (hname : isWord name = true)
    (hrest : Stops (!isMark ·) rest)
    (hnot : name ≠ ['N', 'o', 't'] ∨ Stops (· == ' ') rest) :
    next? signText signs (name ++ rest) = none := by
  have hplain := not_isMark_of_isWord hname
  have hfind : signs.find? (fun op =>
      (signText op).toList.isPrefixOf (name ++ rest)) = none := by
    refine List.find?_eq_none.mpr fun op hop hprefix => ?_
    obtain ⟨cs, hcs⟩ := List.isPrefixOf_iff_prefix.mp hprefix
    -- the marks tell where the word ends in either reading of the text
    have hname' := takeWhile_append_stop hplain hrest
    have hrest' := dropWhile_append_stop hplain hrest
    rw [← hcs] at hname' hrest'
    have hne : name ≠ [] := by
      rintro rfl
      exact absurd hname (by decide)
    cases op with
    | not =>
        have hN : name = ['N', 'o', 't'] := hname'.symm
        have hblank : rest = ' ' :: cs := hrest'.symm
        rcases hnot with hnot | hnot
        · exact hnot hN
        · exact absurd (hnot ' ' (by rw [hblank]; rfl)) (by decide)
    | minus => exact hne hname'.symm
    | plus => exact hne hname'.symm
    | bitwiseNot => exact hne hname'.symm
    | isNull => exact absurd hop (by decide)
  rw [next?, hfind, Option.map_none]

-- ============================================================ literals

/-- Text with every quote in it written twice. -/
def doubled (cs : List Char) : List Char :=
  cs.flatMap fun c => if c = '\x27' then [c, c] else [c]

/-- A text is written between quotes, with every quote in it doubled. -/
theorem toList_quoted (s : String) (rest : List Char) :
    (Value.quoted s).toList ++ rest =
      '\x27' :: (doubled s.toList ++ '\x27' :: rest) := by
  simp [Value.quoted, doubled]

/-- Reading takes the doubled quotes back, and stops at a single one. -/
theorem quoted?_doubled (cs : List Char) (h : Stops (· == '\x27') rest) :
    quoted? (doubled cs ++ '\x27' :: rest) = some (cs, rest) := by
  induction cs with
  | nil =>
      cases rest with
      | nil => rfl
      | cons c rest =>
          have hc : c ≠ '\x27' := by simpa using h c rfl
          simp [doubled, quoted?, hc]
  | cons c cs ih =>
      by_cases hc : c = '\x27'
      · simp only [doubled, List.flatMap_cons, if_pos hc] at ih ⊢
        rw [hc]
        simp [quoted?, ih]
      · simp only [doubled, List.flatMap_cons, if_neg hc] at ih ⊢
        simp [quoted?, ih, hc]

/-- A character has its letter behind the closing quote. -/
theorem text?_char (c : Char) (rest : List Char) :
    text? (doubled [c] ++ '\x27' :: 'c' :: rest) = some (.char c, rest) := by
  rw [text?, quoted?_doubled [c] (stops_cons _ (by decide))]
  rfl

/-- A string of one character is not taken for that character. -/
theorem text?_string (s : String) (hquote : Stops (· == '\x27') rest)
    (hc : Stops (· == 'c') rest) :
    text? (doubled s.toList ++ '\x27' :: rest) = some (.string s, rest) := by
  rw [text?, quoted?_doubled _ hquote, Option.map_some]
  split
  · rename_i heq
    rw [(Prod.mk.inj heq).2] at hc
    exact absurd (hc 'c' rfl) (by decide)
  · rename_i heq
    rw [← (Prod.mk.inj heq).1, ← (Prod.mk.inj heq).2, String.ofList_toList]

/-- The text of a time span has no number sign in it, so the next one ends it.
-/
theorem span?_text (t : TimeSpan) (rest : List Char) :
    span? (t.text.toList ++ '#' :: rest) = some (.timeSpan t, rest) := by
  have hrun : ∀ c ∈ t.text.toList, (c != '#') = true := by
    intro c hc
    rw [bne_iff_ne]
    rintro rfl
    exact TimeSpan.hash_not_mem_text t hc
  have hstop : Stops (· != '#') ('#' :: rest) := stops_cons _ (by decide)
  rw [span?, dropWhile_append_stop hrun hstop,
    takeWhile_append_stop hrun hstop]
  simp only [TimeSpan.ofText?_text, Option.map_some]

theorem number_long (negative : Bool) (n : Nat) (rest : List Char) :
    number negative ((padded 0 n).toList ++ 'L' :: rest) =
      (.long (Int64.ofInt (if negative then -n else n)), rest) := by
  have hrun : ∀ c ∈ (padded 0 n).toList, isDigit c = true :=
    fun c hc => isDigit_of_mem_padded hc
  have hstop : Stops isDigit ('L' :: rest) := stops_cons _ (by decide)
  simp only [number, dropWhile_append_stop hrun hstop,
    takeWhile_append_stop hrun hstop, ofDigits_padded]

/-- A number without the letter behind it has 32 bits. -/
theorem number_int (negative : Bool) (n : Nat) (hdigit : Stops isDigit rest)
    (hL : Stops (· == 'L') rest) :
    number negative ((padded 0 n).toList ++ rest) =
      (.int (Int32.ofInt (if negative then -n else n)), rest) := by
  have hrun : ∀ c ∈ (padded 0 n).toList, isDigit c = true :=
    fun c hc => isDigit_of_mem_padded hc
  simp only [number, dropWhile_append_stop hrun hdigit,
    takeWhile_append_stop hrun hdigit, ofDigits_padded]
  cases rest with
  | nil => rfl
  | cons c rest =>
      have hc : c ≠ 'L' := by simpa using hL c rfl
      simp [hc]

theorem constant?_literal {v : Value} (hv : v ∈ constants) :
    constant? v.literal.toList = some v := by
  simp only [constants, List.mem_cons, List.not_mem_nil, or_false] at hv
  rcases hv with rfl | rfl | rfl <;> rfl

end FilterCriteria.Criterion.Reader
