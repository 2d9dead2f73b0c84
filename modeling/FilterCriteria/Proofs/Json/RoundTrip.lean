/-
Reading undoes writing: the text of a JSON value on many lines is read as
that value. The induction is over the value; what it carries is that the
reader takes exactly the text of the value off the front of any longer
text, in fewer than two calls for every character (`Reads`).

# What stands behind

A number has no end of its own: a digit behind it would belong to it. So a
text is read back in front of anything that does not go on with a number
(`continuesNumber`), and in a longer value that is a comma, a bracket or a
new line. All other values end by themselves.

# Blanks

The text is written on many lines, with indentation by the level. The reader
skips blanks in front of values, items and members alike, so the lemmas on
sequences (`items?_separated`, `members?_separated`) are about items with a
comma and any blank text between them, and the level only decides which.

# Fuel

The reader is given fuel, two calls for each character of the text, one for a
value and one for the item or the member that it is. A sequence takes what its
items take and what its commas pay for.
-/
import FilterCriteria.Proofs.Json.Scalar

namespace FilterCriteria.Json

variable {rest : List Char}

-- ============================================================== blanks

/-- A text of blanks. -/
def Blank (ws : List Char) : Prop :=
  ∀ c ∈ ws, isSpace c = true

/-- A new line and its indentation are blank. -/
theorem blank_newline (level : Nat) : Blank (newline level).toList := by
  intro c hc
  simp only [newline, String.toList_append, String.toList_ofList,
    List.mem_append] at hc
  rcases hc with hc | hc
  · rw [List.mem_singleton.mp hc]
    rfl
  · rw [List.eq_of_mem_replicate hc]
    rfl

/-- Blank text in front is skipped. -/
theorem skipSpace_blank {ws : List Char} (h : Blank ws) (cs : List Char) :
    skipSpace (ws ++ cs) = skipSpace cs :=
  List.dropWhile_append_of_pos h

theorem skipSpace_cons {c : Char} (h : isSpace c = false)
    (cs : List Char) : skipSpace (c :: cs) = c :: cs :=
  dropWhile_of_stops (stops_cons cs h)

/-- A number stops at a blank, as it does at any other mark. -/
theorem stops_blank {ws : List Char} {c : Char} (h : Blank ws)
    (hc : continuesNumber c = false) (cs : List Char) :
    Stops continuesNumber (ws ++ c :: cs) := by
  cases ws with
  | nil => exact stops_cons cs hc
  | cons d ws =>
      refine stops_cons _ ?_
      have hd := h d (.head _)
      simp only [isSpace, Bool.or_eq_true, beq_iff_eq] at hd
      rcases hd with ((rfl | rfl) | rfl) | rfl <;> rfl

theorem value?_blank {ws : List Char} (h : Blank ws) (fuel : Nat)
    (cs : List Char) : value? fuel (ws ++ cs) = value? fuel cs := by
  cases fuel with
  | zero => rfl
  | succ fuel => simp only [value?, skipSpace_blank h]

theorem items?_blank {ws : List Char} (h : Blank ws) (fuel : Nat)
    (cs : List Char) : items? fuel (ws ++ cs) = items? fuel cs := by
  cases fuel with
  | zero => rfl
  | succ fuel => simp only [items?, value?_blank h]

theorem members?_blank {ws : List Char} (h : Blank ws) (fuel : Nat)
    (cs : List Char) : members? fuel (ws ++ cs) = members? fuel cs := by
  cases fuel with
  | zero => rfl
  | succ fuel => simp only [members?, skipSpace_blank h]

-- ============================================================ sequences

/-- A text that is read as a value, in whatever it stands. -/
structure Reads (j : Json) (text : List Char) : Prop where
  head : ∃ c cs, text = c :: cs ∧ isSpace c = false ∧ c ≠ ']'
  value : ∀ fuel rest, 2 * text.length ≤ fuel →
    Stops continuesNumber rest → value? fuel (text ++ rest) = some (j, rest)

/-- Texts with a comma and a blank text between them. -/
def separated (ws : List Char) (texts : List (List Char)) : List Char :=
  (',' :: ws).intercalate texts

theorem separated_cons_cons (ws text next : List Char)
    (texts : List (List Char)) :
    separated ws (text :: next :: texts) =
      text ++ ',' :: (ws ++ separated ws (next :: texts)) := by
  simp [separated, List.intercalate]

theorem separated_singleton (ws text : List Char) :
    separated ws [text] = text := by
  simp [separated, List.intercalate]

/-- The items of an array are read one by one, up to its bracket. -/
theorem items?_separated {ws ws' : List Char} (hws : Blank ws)
    (hws' : Blank ws') {text : Json → List Char} {items : List Json}
    (hne : items ≠ []) (h : ∀ j ∈ items, Reads j (text j)) {fuel : Nat}
    (hfuel : 2 * (separated ws (items.map text)).length + 1 ≤ fuel) :
    items? fuel (separated ws (items.map text) ++ (ws' ++ ']' :: rest)) =
      some (items, rest) := by
  induction items generalizing fuel with
  | nil => contradiction
  | cons j items ih =>
      obtain ⟨fuel, rfl⟩ := Nat.exists_eq_add_one_of_ne_zero
        (show fuel ≠ 0 by omega)
      have hj := h j (.head _)
      -- the last item is followed by the bracket, every other by a comma
      cases items with
      | nil =>
          simp only [List.map_cons, List.map_nil, separated_singleton]
            at hfuel ⊢
          have hread := hj.value fuel (ws' ++ ']' :: rest) (by omega)
            (stops_blank hws' (by decide) _)
          simp only [items?, hread, Option.bind_eq_bind, Option.bind_some,
            skipSpace_blank hws']
          rfl
      | cons k items =>
          simp only [List.map_cons, separated_cons_cons] at hfuel ⊢
          simp only [List.length_append, List.length_cons] at hfuel
          have hread := hj.value fuel (',' :: (ws
            ++ separated ws (text k :: items.map text)
            ++ (ws' ++ ']' :: rest))) (by omega) (stops_cons _ (by decide))
          have hitems : items? fuel (separated ws (text k :: items.map text)
              ++ (ws' ++ ']' :: rest)) = some (k :: items, rest) :=
            ih (List.cons_ne_nil k items) (fun i hi => h i (.tail _ hi))
              (by rw [List.map_cons]; omega)
          simp only [List.append_assoc, List.cons_append] at hread ⊢
          rw [items?, hread]
          show (items? fuel (ws ++ _)).bind _ = _
          rw [items?_blank hws, hitems]
          rfl

/-- The text of a member, for a text of its value. -/
def memberChars (text : Json → List Char) (m : Option String × Json) :
    List Char :=
  '\x22' :: (stringTail m.1 ++ ':' :: ' ' :: text m.2)

/-- One member is read, up to what follows its value. -/
theorem members?_member {text : Json → List Char}
    {m : Option String × Json} (h : Reads m.2 (text m.2)) {fuel : Nat}
    (hfuel : 2 * (memberChars text m).length ≤ fuel)
    (hrest : Stops continuesNumber rest) :
    members? (fuel + 1) (memberChars text m ++ rest) =
      match skipSpace rest with
      | ',' :: rest => do
        let (ms, rest) ← members? fuel rest
        pure (m :: ms, rest)
      | '\x7d' :: rest => pure ([m], rest)
      | _ => none := by
  obtain ⟨name, j⟩ := m
  have hblank : Blank [' '] := by
    intro c hc
    rw [List.mem_singleton.mp hc]
    rfl
  simp only [memberChars, List.length_cons, List.length_append] at hfuel
  have hlen : 2 * (text j).length ≤ fuel := by omega
  have hread : value? fuel (' ' :: (text j ++ rest)) = some (j, rest) :=
    (value?_blank hblank fuel _).trans (h.value fuel rest hlen hrest)
  rw [memberChars, List.cons_append, List.append_assoc]
  show (string? (stringTail name ++ _)).bind _ = _
  rw [string?_stringTail]
  show (value? fuel (' ' :: (text j ++ rest))).bind _ = _
  rw [hread]
  rfl

/-- The members of an object are read one by one, up to its brace. -/
theorem members?_separated {ws ws' : List Char} (hws : Blank ws)
    (hws' : Blank ws') {text : Json → List Char}
    {members : List (Option String × Json)} (hne : members ≠ [])
    (h : ∀ m ∈ members, Reads m.2 (text m.2)) {fuel : Nat}
    (hfuel : 2 * (separated ws (members.map (memberChars text))).length + 1
      ≤ fuel) :
    members? fuel (separated ws (members.map (memberChars text))
      ++ (ws' ++ '\x7d' :: rest)) = some (members, rest) := by
  induction members generalizing fuel with
  | nil => contradiction
  | cons m members ih =>
      obtain ⟨fuel, rfl⟩ := Nat.exists_eq_add_one_of_ne_zero
        (show fuel ≠ 0 by omega)
      have hm := h m (.head _)
      cases members with
      | nil =>
          simp only [List.map_cons, List.map_nil, separated_singleton]
            at hfuel ⊢
          rw [members?_member hm (by omega) (stops_blank hws' (by decide) _),
            skipSpace_blank hws']
          rfl
      | cons k members =>
          simp only [List.map_cons, separated_cons_cons] at hfuel ⊢
          simp only [List.length_append, List.length_cons] at hfuel
          have hmembers : members? fuel (separated ws
              (memberChars text k :: members.map (memberChars text))
              ++ (ws' ++ '\x7d' :: rest)) = some (k :: members, rest) :=
            ih (List.cons_ne_nil k members) (fun i hi => h i (.tail _ hi))
              (by rw [List.map_cons]; omega)
          rw [List.append_assoc, List.cons_append,
            members?_member hm (by omega) (stops_cons _ (by decide)),
            skipSpace_cons (by decide), List.append_assoc]
          show (members? fuel (ws ++ _)).bind _ = _
          rw [members?_blank hws, hmembers]
          rfl

-- ============================================================== values

/-- A value whose numbers are all written as JSON has them. -/
inductive WellFormed : Json → Prop where
  | null : WellFormed .null
  | bool (b : Bool) : WellFormed (.bool b)
  | number {n : Number} (h : n.WellFormed) : WellFormed (.number n)
  | string (s : Option String) : WellFormed (.string s)
  | array {items : List Json} (h : ∀ j ∈ items, WellFormed j) :
    WellFormed (.array items)
  | object {members : List (Option String × Json)}
    (h : ∀ m ∈ members, WellFormed m.2) : WellFormed (.object members)

theorem prettyItems_eq_map (level : Nat) (items : List Json) :
    prettyItems level items = items.map (prettyAt level) := by
  induction items with
  | nil => rfl
  | cons j items ih => rw [prettyItems, ih, List.map_cons]

theorem prettyMembers_eq_map (level : Nat)
    (members : List (Option String × Json)) :
    prettyMembers level members =
      members.map fun m => stringText m.1 ++ ": " ++ m.2.prettyAt level := by
  induction members with
  | nil => rfl
  | cons m members ih => rw [prettyMembers, ih, List.map_cons]

/-- Between the brackets of a block every item has a line of its own. -/
theorem toList_block (level : Nat) (opening closing : String)
    {items : List String} (hne : items ≠ []) :
    (block level opening closing items).toList =
      opening.toList ++ ((newline (level + 1)).toList
        ++ (separated (newline (level + 1)).toList (items.map String.toList)
        ++ ((newline level).toList ++ closing.toList))) := by
  rw [block, if_neg (by simp [hne])]
  simp [separated]

/-- A value is recognized by its first character, which is no blank and no
closing bracket; that one call is paid for by it. -/
theorem reads_cons {j : Json} {c : Char} {cs : List Char}
    (hspace : isSpace c = false) (hbracket : c ≠ ']')
    (h : ∀ fuel rest, 2 * cs.length + 1 ≤ fuel →
      Stops continuesNumber rest →
      value? (fuel + 1) (c :: (cs ++ rest)) = some (j, rest)) :
    Reads j (c :: cs) := by
  refine ⟨⟨c, cs, rfl, hspace, hbracket⟩, fun fuel rest hfuel hrest => ?_⟩
  rw [List.length_cons] at hfuel
  obtain ⟨fuel, rfl⟩ := Nat.exists_eq_add_one_of_ne_zero
    (show fuel ≠ 0 by omega)
  exact h fuel rest (by omega) hrest

/-- A number is read up to where it cannot go on. -/
theorem reads_number {n : Number} (hn : n.WellFormed) :
    Reads (.number n) (numberText n).toList := by
  have hread : ∀ rest, Stops continuesNumber rest →
      number? ((numberText n).toList ++ rest) = some (n, rest) :=
    fun rest hrest => number?_numberText hn hrest
  obtain ⟨c, cs, htext, hc⟩ :
      ∃ c cs, (numberText n).toList = c :: cs
        ∧ (c == '-' || isDigit c) = true := by
    rw [toList_numberText]
    obtain ⟨d, ds, hd⟩ := List.exists_cons_of_ne_nil hn.whole_ne_nil
    cases n.negative with
    | true => exact ⟨_, _, rfl, rfl⟩
    | false =>
        have hdigit := hn.whole_digits d (by rw [hd]; exact .head _)
        rw [hd]
        exact ⟨d, _, rfl, by rw [hdigit, Bool.or_true]⟩
  -- neither a sign nor a digit begins anything else
  have hspace : isSpace c = false := by
    rw [Bool.eq_false_iff]
    intro h
    simp only [isSpace, Bool.or_eq_true, beq_iff_eq] at h
    rcases h with ((rfl | rfl) | rfl) | rfl <;> revert hc <;> decide
  have hother : ∀ d ∈ ['[', '\x7b', '\x22', 'n', 't', 'f', ']'], c ≠ d := by
    rintro d hd rfl
    have hnone : ['[', '\x7b', '\x22', 'n', 't', 'f', ']'].all
        (fun d => !(d == '-' || isDigit d)) = true := rfl
    have := List.all_eq_true.mp hnone c hd
    rw [hc] at this
    contradiction
  rw [htext] at hread ⊢
  refine reads_cons hspace (hother _ (by simp)) fun fuel rest _ hrest => ?_
  simp only [value?, skipSpace_cons hspace]
  split
  case h_7 => exact congrArg (Option.map _) (hread rest hrest)
  all_goals
    rename_i heq
    exact absurd (List.cons.inj heq).1 (hother _ (by simp))

/-- An array is read item by item, if each item is read. -/
theorem reads_array {items : List Json} {text : Json → List Char}
    {ws ws' : List Char} (hne : items ≠ []) (hws : Blank ws)
    (hws' : Blank ws') (h : ∀ j ∈ items, Reads j (text j)) :
    Reads (.array items)
      ('[' :: (ws ++ (separated ws (items.map text) ++ (ws' ++ [']'])))) := by
  refine reads_cons (by decide) (by decide) fun fuel rest hfuel _ => ?_
  simp only [List.length_append] at hfuel
  obtain ⟨j, items, rfl⟩ := List.exists_cons_of_ne_nil hne
  obtain ⟨c, cs, htext, hspace, hbracket⟩ := (h j (.head _)).head
  have hread : items? fuel (separated ws ((j :: items).map text)
      ++ (ws' ++ ']' :: rest)) = some (j :: items, rest) :=
    items?_separated hws hws' hne h (by omega)
  obtain ⟨cs', hcs⟩ : ∃ cs', separated ws ((j :: items).map text)
      ++ (ws' ++ ']' :: rest) = c :: cs' := by
    cases items with
    | nil => simp [separated_singleton, htext]
    | cons k items => simp [separated_cons_cons, htext]
  simp only [value?, skipSpace_cons (show isSpace '[' = false from rfl),
    List.append_assoc, List.singleton_append, skipSpace_blank hws]
  rw [hcs] at hread ⊢
  rw [skipSpace_cons hspace]
  split
  · rename_i heq
    exact absurd (List.cons.inj heq).1 hbracket
  · rw [hread]
    rfl

/-- An object is read member by member, if the value of each is read. -/
theorem reads_object {members : List (Option String × Json)}
    {text : Json → List Char} {ws ws' : List Char} (hne : members ≠ [])
    (hws : Blank ws) (hws' : Blank ws')
    (h : ∀ m ∈ members, Reads m.2 (text m.2)) :
    Reads (.object members) ('\x7b' :: (ws
      ++ (separated ws (members.map (memberChars text))
      ++ (ws' ++ ['\x7d'])))) := by
  refine reads_cons (by decide) (by decide) fun fuel rest hfuel _ => ?_
  simp only [List.length_append] at hfuel
  obtain ⟨m, members, rfl⟩ := List.exists_cons_of_ne_nil hne
  have hread : members? fuel (separated ws
      ((m :: members).map (memberChars text)) ++ (ws' ++ '\x7d' :: rest)) =
      some (m :: members, rest) :=
    members?_separated hws hws' hne h (by omega)
  obtain ⟨cs, hcs⟩ : ∃ cs, separated ws
      ((m :: members).map (memberChars text)) ++ (ws' ++ '\x7d' :: rest) =
      '\x22' :: cs := by
    cases members with
    | nil => simp [separated_singleton, memberChars]
    | cons k members => simp [separated_cons_cons, memberChars]
  simp only [value?, skipSpace_cons (show isSpace '\x7b' = false from rfl),
    List.append_assoc, List.singleton_append, skipSpace_blank hws]
  rw [hcs] at hread ⊢
  rw [skipSpace_cons (show isSpace '\x22' = false from rfl)]
  exact congrArg (Option.map _) hread

/-- Every well-formed value is read back from its text at every level of
indentation. -/
theorem reads_prettyAt {j : Json} (h : WellFormed j) (level : Nat) :
    Reads j (j.prettyAt level).toList := by
  induction h generalizing level with
  | null =>
      have htext : (prettyAt level .null).toList = ['n', 'u', 'l', 'l'] := by
        rw [prettyAt]
        rfl
      rw [htext]
      exact reads_cons (by decide) (by decide) fun fuel rest _ _ => rfl
  | bool b =>
      have htext : (prettyAt level (.bool b)).toList =
          if b then ['t', 'r', 'u', 'e'] else ['f', 'a', 'l', 's', 'e'] := by
        rw [prettyAt]
        cases b <;> rfl
      rw [htext]
      cases b with
      | true => exact reads_cons (by decide) (by decide) fun _ _ _ _ => rfl
      | false => exact reads_cons (by decide) (by decide) fun _ _ _ _ => rfl
  | number hn => exact reads_number hn
  | string s =>
      rw [prettyAt, toList_stringText]
      refine reads_cons (by decide) (by decide) fun fuel rest _ _ => ?_
      simp only [value?, skipSpace_cons (show isSpace '\x22' = false from rfl),
        string?_stringTail, Option.map_some]
  | @array items h ih =>
      rw [prettyAt, prettyItems_eq_map]
      -- without items there are no lines between the brackets
      cases items with
      | nil =>
          have htext : (block level "[" "]" []).toList = ['[', ']'] := by
            simp [block]
          rw [List.map_nil, htext]
          exact reads_cons (by decide) (by decide) fun fuel rest _ _ => rfl
      | cons j items =>
          rw [toList_block level "[" "]" (by simp), List.map_map]
          exact reads_array (List.cons_ne_nil j items) (blank_newline _)
            (blank_newline _) fun i hi => ih i hi (level + 1)
  | @object members h ih =>
      rw [prettyAt, prettyMembers_eq_map]
      cases members with
      | nil =>
          have htext : (block level "\x7b" "\x7d" []).toList =
              ['\x7b', '\x7d'] := by
            simp [block]
          rw [List.map_nil, htext]
          exact reads_cons (by decide) (by decide) fun fuel rest _ _ => rfl
      | cons m members =>
          have htexts : ((m :: members).map fun m => stringText m.1 ++ ": "
              ++ m.2.prettyAt (level + 1)).map String.toList =
              (m :: members).map
                (memberChars fun j => (j.prettyAt (level + 1)).toList) := by
            rw [List.map_map]
            refine List.map_congr_left fun m _ => ?_
            simp [toList_stringText, memberChars]
          rw [toList_block level "\x7b" "\x7d" (by simp), htexts]
          exact reads_object (List.cons_ne_nil m members) (blank_newline _)
            (blank_newline _) fun i hi => ih i hi (level + 1)

/-- The text of a well-formed value is parsed as the value. -/
theorem parse?_pretty {j : Json} (h : WellFormed j) :
    parse? j.pretty = some j := by
  have hread := (reads_prettyAt h 0).value
    (2 * (prettyAt 0 j).toList.length + 2) [] (by omega) stops_nil
  rw [List.append_nil] at hread
  simp only [parse?, pretty, hread, Option.bind_eq_bind, Option.bind_some]
  rfl

end FilterCriteria.Json
