/-
How the reader goes through the operators of a text. A criterion counts as
read back if the reader gets it from its text whatever operators stand
behind it, as long as they do not bind more strongly (`Reads`). For each
operator it is shown that what it is written with is read back if its operands
are, with brackets or without.

# What stands behind

An operand ends at a blank, a closing bracket, a comma or the end of the text,
and the next operator, if there is one, binds no more strongly than the
operand (`Follows`). That is the invariant of precedence climbing: the reader
goes on with the operators behind an operand (`tails`) exactly as it would
have if the operand had been read in any other way.

# Brackets

An operand has brackets exactly if it binds too weakly, and between brackets
the reader starts anew (`criterion_bracketed`). A single value between
brackets would be an array, but what needs brackets binds more weakly than a
sign and is no value (`value?_of_level_lt`). The right operand of a chain stands without brackets
at the level of the chain itself, where the reader would take it as a part of
the chain; in a normal form it never is one (`bracketed_right`).
-/
import FilterCriteria.Proofs.Criterion.Grouping
import FilterCriteria.Proofs.Criterion.Reader.Tokens

namespace FilterCriteria.Criterion.Reader

variable {rest : List Char}

-- ============================================================= lengths

theorem length_lt_append {cs : List Char} (hcs : cs ≠ [])
    (rest : List Char) : rest.length < (cs ++ rest).length := by
  rw [List.length_append]
  exact Nat.lt_add_of_pos_left (List.length_pos_iff.mpr hcs)

theorem length_lt_append_cons (cs : List Char) (c : Char)
    (rest : List Char) : rest.length < (cs ++ c :: rest).length := by
  rw [List.length_append, List.length_cons]
  omega

-- ============================================== what stands behind

/-- What can stand behind an operand. -/
def isEnd (c : Char) : Bool :=
  [' ', ')', ']', ','].contains c

/-- A text behind an operand at this level: it begins with no operator that
binds more strongly. -/
structure Follows (level : Nat) (rest : List Char) : Prop where
  ends : Stops (!isEnd ·) rest
  weaker : ∀ t cs, next? Tail.text Tail.all rest = some (t, cs) →
    t.level ≤ level

/-- What may stand behind a weaker operand may stand behind a stronger one. -/
theorem Follows.mono {m n : Nat} (hmn : m ≤ n) (h : Follows m rest) :
    Follows n rest :=
  ⟨h.ends, fun t cs ht => Nat.le_trans (h.weaker t cs ht) hmn⟩

/-- Behind an operand comes a blank, a closing bracket or a comma, so whatever
goes on with other characters ends there. -/
theorem Follows.stops {level : Nat} (h : Follows level rest)
    {p : Char → Bool} (hp : [' ', ')', ']', ','].all (!p ·) = true) :
    Stops p rest := by
  intro c hc
  have hend : isEnd c = true := by simpa using h.ends c hc
  simpa using List.all_eq_true.mp hp c (List.contains_iff_mem.mp hend)

/-- Where no blank comes next there is no operator, and nothing binds more
strongly than none. -/
theorem follows_of_stops (level : Nat) (hends : Stops (!isEnd ·) rest)
    (hblank : Stops (· == ' ') rest) : Follows level rest :=
  ⟨hends, fun t cs ht => by
    rw [tail_next?_eq_none hblank] at ht
    contradiction⟩

theorem head?_tail (t : Tail) : t.text.toList.head? = some ' ' := by
  cases t with
  | binary op => cases op <;> rfl
  | _ => rfl

/-- An operator may stand behind an operand of its own level. -/
theorem follows_tail (t : Tail) (rest : List Char) :
    Follows t.level (t.text.toList ++ rest) := by
  refine ⟨?_, fun u cs hu => ?_⟩
  · intro c hc
    rw [List.head?_append, head?_tail] at hc
    cases hc
    rfl
  · rw [tail_next?_append] at hu
    cases hu
    exact Nat.le_refl _

/-- Where every operator that follows binds too weakly, reading ends. -/
theorem tails_of_follows {level least : Nat} (h : Follows level rest)
    (hlevel : level < least) (c : Criterion) :
    tails least c rest = some (c, rest) := by
  rw [tails]
  split
  · rfl
  · rename_i t cs _ ht
    rw [if_pos (Nat.lt_of_le_of_lt (h.weaker t cs (eq_of_shorter ht)) hlevel)]

/-- Where no blank follows, no operator does. -/
theorem tails_of_stops (h : Stops (· == ' ') rest) (least : Nat)
    (c : Criterion) : tails least c rest = some (c, rest) := by
  rw [tails, tail_next?_eq_none h]
  rfl

/-- An operator that binds strongly enough joins what is read behind it, and
the reader goes on with the result. -/
theorem tails_tail {least : Nat} {t : Tail} (h : least ≤ t.level)
    {c d : Criterion} {cs : List Char}
    (hjoined : joined c t cs = some (d, rest))
    (hrest : rest.length ≤ cs.length) :
    tails least c (t.text.toList ++ cs) = tails least d rest := by
  have hcs : cs.length < (t.text.toList ++ cs).length :=
    length_lt_append (fun htext => by simpa [htext] using head?_tail t) cs
  rw [tails, tail_next?_append, shorter_some _ hcs]
  simp only [if_neg (Nat.not_lt.mpr h), hjoined,
    shorter_some _ (Nat.lt_of_le_of_lt hrest hcs)]
  rfl

-- ============================================================ operands

/-- The reader gets a criterion back from its text. -/
def Reads (c : Criterion) : Prop :=
  ∀ least rest, least ≤ c.precedence.level →
    Follows c.precedence.level rest →
    criterion least (c.text.toList ++ rest) = tails least c rest

/-- A criterion begins with an operand. -/
theorem criterion_of_operand {least : Nat} {cs : List Char} {c : Criterion}
    (h : operand cs = some (c, rest)) (hrest : rest.length < cs.length) :
    criterion least cs = tails least c rest := by
  rw [criterion, h, shorter_some _ hrest]
  rfl

/-- What is read as an operand, whatever follows, is read back. -/
theorem reads_of_operand {c : Criterion} (htext : c.text.toList ≠ [])
    (h : ∀ rest, Follows c.precedence.level rest →
      operand (c.text.toList ++ rest) = some (c, rest)) : Reads c :=
  fun _ rest _ hrest =>
    criterion_of_operand (h rest hrest) (length_lt_append htext rest)

/-- A criterion is read up to a mark that closes it. -/
theorem Reads.closed {c : Criterion} (h : Reads c) {mark : Char}
    (hmark : mark ∈ [')', ']', ',']) (rest : List Char) :
    criterion 0 (c.text.toList ++ mark :: rest) = some (c, mark :: rest) := by
  have hmarks : [')', ']', ','].all (fun c => isEnd c && c != ' ') = true := rfl
  have hstop := List.all_eq_true.mp hmarks mark hmark
  rw [Bool.and_eq_true, bne_iff_ne] at hstop
  have hends : Stops (!isEnd ·) (mark :: rest) :=
    stops_cons _ (by simp [hstop.1])
  have hblank : Stops (· == ' ') (mark :: rest) :=
    stops_cons _ (by simp [hstop.2])
  rw [h 0 _ (Nat.zero_le _) (follows_of_stops _ hends hblank),
    tails_of_stops hblank]

theorem operand_word {c : Char} {cs : List Char}
    (hsign : next? signText signs (c :: cs) = none)
    (hdigit : isDigit c = false)
    (hc : c ∉ ['[', '(', '\x27', '#', '-']) :
    operand (c :: cs) = word ((c :: cs).takeWhile (!isMark ·))
      ((c :: cs).dropWhile (!isMark ·)) := by
  simp only [List.mem_cons, List.not_mem_nil, or_false, not_or] at hc
  obtain ⟨hbracket, hgroup, hquote, hspan, hminus⟩ := hc
  rw [operand, hsign]
  simp only [shorter_none, if_neg hbracket, if_neg hgroup, if_neg hquote, if_neg hspan,
    if_neg hminus, hdigit, Bool.false_eq_true, if_false]

/-- No criterion begins with a closing mark. -/
theorem criterion_mark {mark : Char} (hmark : mark ∈ [')', ']'])
    (least : Nat) (cs : List Char) : criterion least (mark :: cs) = none := by
  have hoperand : operand (mark :: cs) = none := by
    simp only [List.mem_cons, List.not_mem_nil, or_false] at hmark
    rcases hmark with rfl | rfl
    all_goals
      rw [operand_word (sign_next?_eq_none (stops_cons _ (by decide)))
        (by decide) (by decide)]
      unfold word
      rfl
  rw [criterion, hoperand]
  rfl

/-- What is read back has a text, or it would begin with what closes it. -/
theorem Reads.text_ne_nil {c : Criterion} (h : Reads c) :
    c.text.toList ≠ [] := by
  intro htext
  have hread := h.closed (.head _) []
  rw [htext, List.nil_append, criterion_mark (.head _)] at hread
  contradiction

/-- A group stands for what is made of its items. -/
theorem operand_group {cs : List Char} {ds : List Criterion} {d : Criterion}
    (hitems : items cs = some (ds, rest)) (hd : grouping? ds = some d) :
    operand ('(' :: cs) = some (d, rest) := by
  rw [operand, sign_next?_eq_none (stops_cons _ (by decide))]
  show ((items cs).bind _) = _
  rw [hitems, Option.bind_some]
  show ((grouping? ds).bind _) = _
  rw [hd]
  rfl

-- =============================================================== lists

/-- A criterion that may be missing is read up to the mark behind it. -/
theorem optional_text {c : Option Criterion} (h : ∀ d ∈ c, Reads d)
    {mark : Char} (hmark : mark ∈ [')', ']']) (rest : List Char) :
    optional mark (((c.map text).getD "").toList ++ mark :: rest) =
      some (c, rest) := by
  cases c with
  | none =>
      show optional mark (mark :: rest) = _
      rw [optional]
      exact if_pos rfl
  | some d =>
      have hread := (h d rfl).closed (List.mem_append_left [','] hmark) rest
      rw [Option.map_some, Option.getD_some]
      cases htext : d.text.toList ++ mark :: rest with
      | nil => exact absurd htext (by simp)
      | cons c cs =>
          rw [htext] at hread
          have hc : c ≠ mark := by
            rintro rfl
            rw [criterion_mark hmark] at hread
            contradiction
          rw [optional]
          simp only [if_neg hc, hread]
          exact if_pos rfl

/-- Criteria in a list are read one after the other, each up to its comma and
the last one up to the bracket. -/
theorem someItems_texts {c : Criterion} {cs : List Criterion}
    (h : ∀ d ∈ c :: cs, Reads d) (rest : List Char) :
    someItems ((String.intercalate ", " ((c :: cs).map text)).toList ++
      ')' :: rest) = some (c :: cs, rest) := by
  induction cs generalizing c with
  | nil =>
      have hc := h c (.head _)
      rw [List.map_singleton, String.intercalate_singleton, someItems,
        hc.closed (by decide), shorter_some _ (length_lt_append hc.text_ne_nil _)]
      show moreItems c (')' :: rest) = _
      rw [moreItems]
      rfl
  | cons d cs ih =>
      have htext : (String.intercalate ", " ((c :: d :: cs).map text)).toList ++
          ')' :: rest = c.text.toList ++ ',' :: ' ' ::
            ((String.intercalate ", " ((d :: cs).map text)).toList ++
              ')' :: rest) := by
        rw [List.map_cons, List.map_cons, String.intercalate_cons_cons]
        simp
      have hc := h c (.head _)
      rw [htext, someItems, hc.closed (by decide),
        shorter_some _ (length_lt_append hc.text_ne_nil _)]
      simp only [Option.bind_eq_bind, Option.bind_some, moreItems,
        ih fun e he => h e (.tail _ he)]
      rfl

/-- A list may be empty. -/
theorem items_texts {cs : List Criterion} (h : ∀ d ∈ cs, Reads d)
    (rest : List Char) :
    items ((String.intercalate ", " (cs.map text)).toList ++ ')' :: rest) =
      some (cs, rest) := by
  cases cs with
  | nil =>
      show items (')' :: rest) = _
      rw [items]
  | cons c cs =>
      have hread := someItems_texts h rest
      rw [items]
      · exact hread
      · -- no item begins with the closing bracket
        intro cs' htext
        rw [htext, someItems, criterion_mark (by decide)] at hread
        contradiction

-- ============================================================ brackets

theorem grouping?_of_not_literal {c : Criterion} (h : c.value? = none) :
    grouping? [c] = some c := by
  cases c with
  | literal v => contradiction
  | _ => rfl

/-- A value binds at least as strongly as a sign. -/
theorem value?_of_level_lt {c : Criterion}
    (h : c.precedence.level < Precedence.sign.level) : c.value? = none := by
  cases c with
  | literal v =>
      rw [precedence] at h
      split at h <;> exact absurd h (by decide)
  | _ => rfl

/-- Brackets or not, an operand is read as far as its level allows. -/
theorem criterion_bracketed {c : Criterion} (h : Reads c)
    {least printed : Nat} (hleast : least ≤ printed)
    (hprinted : printed ≤ Precedence.sign.level)
    (hrest : Follows printed rest) :
    criterion least ((bracketed printed c c.text).toList ++ rest) =
      tails least c rest := by
  rw [bracketed]
  split
  · -- in brackets: read as a group of one, which gives its member back
    -- because a literal is never bracketed
    rename_i hlevel
    have hvalue := value?_of_level_lt (Nat.lt_of_lt_of_le hlevel hprinted)
    have htext : ("(" ++ c.text ++ ")").toList ++ rest =
        '(' :: (c.text.toList ++ ')' :: rest) := by
      simp
    have hitems : items (c.text.toList ++ ')' :: rest) = some ([c], rest) := by
      have hlist : ∀ d ∈ [c], Reads d := by simpa using h
      have hread := items_texts hlist rest
      rwa [List.map_singleton, String.intercalate_singleton] at hread
    rw [htext]
    exact criterion_of_operand
      (operand_group hitems (grouping?_of_not_literal hvalue))
      (Nat.lt_succ_of_lt (length_lt_append_cons _ _ _))
  · rename_i hlevel
    have hle := Nat.not_lt.mp hlevel
    exact h least rest (Nat.le_trans hleast hle) (hrest.mono hle)

/-- An operand that nothing can be added to is read as it is. -/
theorem criterion_operand {c : Criterion} (h : Reads c) {level least : Nat}
    (hlevel : level < least) (hleast : least ≤ Precedence.sign.level)
    (hrest : Follows level rest) :
    criterion least ((bracketed least c c.text).toList ++ rest) =
      some (c, rest) := by
  rw [criterion_bracketed h (Nat.le_refl _) hleast
    (hrest.mono (Nat.le_of_lt hlevel)), tails_of_follows hrest hlevel]

-- ============================================================== infix

variable {l r : Criterion}

/-- An operator behind its first operand. -/
theorem reads_of_tail {c : Criterion} (t : Tail) (printed : Nat)
    (behind : List Char) (hl : Reads l)
    (hlevel : t.level = c.precedence.level)
    (hle : t.level ≤ printed) (hprinted : printed ≤ Precedence.sign.level)
    (htext : c.text.toList = (bracketed printed l l.text).toList ++
      (t.text.toList ++ behind))
    (hjoined : ∀ rest, Follows t.level rest →
      joined l t (behind ++ rest) = some (c, rest)) : Reads c := by
  intro least rest hleast hrest
  rw [← hlevel] at hleast hrest
  rw [htext, List.append_assoc, List.append_assoc,
    criterion_bracketed hl (Nat.le_trans hleast hle) hprinted
      ((follows_tail t _).mono hle),
    tails_tail hleast (hjoined rest hrest) (by simp)]

/-- The test for null is read back behind its operand. -/
theorem reads_isNull (hl : Reads l) : Reads (.unary .isNull l) := by
  refine reads_of_tail .isNull comparedLevel [] hl rfl (by decide)
    (by decide) ?_ fun rest _ => ?_
  · simp [text, unaryText, Tail.text]
  · rw [joined]
    rfl

theorem reads_like (hl : Reads l) (hr : Reads r) :
    Reads (.function (.custom likeName) [l, r]) := by
  refine reads_of_tail .like comparedLevel
    (bracketed comparedLevel r r.text).toList hl rfl (by decide)
    (by decide) ?_ fun rest hrest => ?_
  · simp [text_like, Tail.text]
  · rw [joined, criterion_operand hr (by decide) (by decide) hrest]
    rfl

/-- The test for an element is read back with its list of values. -/
theorem reads_within {values : List Criterion} (hl : Reads l)
    (hvalues : ∀ d ∈ values, Reads d) : Reads (.within l values) := by
  refine reads_of_tail .within comparedLevel
    ((String.intercalate ", " (values.map text)).toList ++ [')']) hl rfl
    (by decide) (by decide) ?_ fun rest _ => ?_
  · simp [text_within, Tail.text]
  · rw [joined, List.append_assoc, List.singleton_append,
      items_texts hvalues]
    rfl

/-- What no operator with two operands is at the root of binds at least as
strongly as `Not`, and so more strongly than `And` and `Or`. -/
theorem le_level_of_rootOp? {c : Criterion} (h : c.rootOp? = none) :
    Precedence.not.level ≤ c.precedence.level := by
  cases c with
  | binary op left right => contradiction
  | property path => exact Nat.le_of_ble_eq_true rfl
  | literal v =>
      rw [precedence]
      split <;> decide
  | unary op operand =>
      rw [precedence]
      cases op <;> decide
  | function f operands =>
      rw [precedence]
      split <;> decide
  | aggregate => exact Nat.le_of_ble_eq_true rfl
  | within => exact Nat.le_of_ble_eq_true rfl

/-- `And` and `Or` have their levels to themselves. -/
theorem rootOp?_of_level {op : BinaryOp} (hop : op.isChain)
    {c : Criterion} (h : c.precedence.level = op.precedence.level) :
    c.rootOp? = some op := by
  have hlevels : ∀ a ∈ BinaryOp.all, ∀ b ∈ BinaryOp.all, a.isChain →
      b.precedence.level = a.precedence.level → b = a := by
    decide
  cases hroot : c.rootOp? with
  | none =>
      have hle := le_level_of_rootOp? hroot
      rw [h] at hle
      cases op <;> contradiction
  | some inner =>
      cases c with
      | binary inner left right =>
          cases Option.some.inj hroot
          exact congrArg some (hlevels op op.mem_all inner inner.mem_all hop h)
      | _ => contradiction

/-- Behind an operator there is no equal one without brackets: for `And`
and `Or` since the chain does not go on there. -/
theorem bracketed_right {op : BinaryOp} (hflat : (binary op l r).Flat) :
    bracketed op.rightLevel r r.text =
      bracketed (op.precedence.level + 1) r r.text := by
  cases hop : op.isChain with
  | false => cases op <;> first | rfl | contradiction
  | true =>
      have hne : r.precedence.level ≠ op.precedence.level := fun h =>
        hflat hop (rootOp?_of_level hop h)
      have hiff : r.precedence.level < op.precedence.level ↔
          r.precedence.level < op.precedence.level + 1 := by
        omega
      simp only [bracketed, rightLevel_of_isChain hop, hiff]

/-- An operator is read back between its operands, if its right operand goes on
with no chain of it. -/
theorem reads_binary {op : BinaryOp} (hl : Reads l) (hr : Reads r)
    (hflat : (binary op l r).Flat) : Reads (.binary op l r) := by
  have hlevel : op.precedence.level < Precedence.sign.level := by
    cases op <;> decide
  refine reads_of_tail (.binary op) op.precedence.level
    (bracketed (op.precedence.level + 1) r r.text).toList hl rfl
    (Nat.le_refl _) (Nat.le_of_lt hlevel) ?_ fun rest hrest => ?_
  · rw [text_binary, bracketed_right hflat]
    simp [Tail.text]
  · rw [joined, criterion_operand hr (Nat.lt_succ_self _) hlevel hrest]
    rfl

-- ============================================================= prefix

theorem toList_text_sign {op : UnaryOp} (hop : op ∈ signs) (c : Criterion) :
    (unary op c).text.toList = (signText op).toList ++
      (bracketed op.precedence.level c c.text).toList := by
  rw [text, ← String.toList_append]
  cases op with
  | isNull => exact absurd hop (by decide)
  | _ => rfl

/-- No operator behind an operand has the level of one in front. -/
theorem follows_sign {op : UnaryOp} (hop : op ∈ signs)
    (h : Follows op.precedence.level rest) :
    Follows (op.precedence.level - 1) rest := by
  have hlevels : ∀ op ∈ signs, ∀ t ∈ Tail.all,
      t.level ≠ op.precedence.level := by
    decide
  refine ⟨h.ends, fun t cs ht => ?_⟩
  have hne := hlevels op hop t (mem_tails t)
  have hle := h.weaker t cs ht
  omega

/-- An operator in front is read back with its operand behind it. -/
theorem reads_sign {op : UnaryOp} (hop : op ∈ signs) (hl : Reads l) :
    Reads (.unary op l) := by
  have hlevel : op.precedence.level - 1 < op.precedence.level := by
    cases op <;> decide
  have hsign : op.precedence.level ≤ Precedence.sign.level := by
    cases op <;> decide
  have htexts : ∀ op ∈ signs, (signText op).toList ≠ [] := by
    decide
  have htext := htexts op hop
  refine reads_of_operand ?_ fun rest hrest => ?_
  · rw [toList_text_sign hop]
    exact List.append_ne_nil_of_left_ne_nil htext _
  · unfold operand
    rw [toList_text_sign hop, List.append_assoc, sign_next?_append hop,
      shorter_some _ (length_lt_append htext _)]
    simp only [criterion_operand hl hlevel hsign (follows_sign hop hrest)]
    rfl

end FilterCriteria.Criterion.Reader
