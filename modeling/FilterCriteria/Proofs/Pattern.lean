/-
What a pattern stands for, said without marks: a text that can be cut into
pieces, one for each character of the pattern, where `%` takes any piece,
`_` a single character and every other character itself.

The matcher keeps a mark for every prefix of the text. It writes them over a
row that has old marks in it, but every place of that row is written, so the
marks are those of a fresh row (`Rows.step_eq`) and what the row held before
is never read. After each character of the pattern the marks are right for
the part of the pattern that has been read (`marked_step`), so after the last
one they are right for all of it (`marked_marks`), and the mark of the longest
prefix is the answer.
-/
import Mathlib.Data.List.Forall2
import Mathlib.Data.List.Infix
import FilterCriteria.Registry

namespace FilterCriteria

namespace Pattern

-- ============================================================== pieces

/-- The pieces of text that a character of a pattern can take. -/
inductive Takes : Char → List Char → Prop where
  | run (piece : List Char) : Takes '%' piece
  | one (c : Char) : Takes '_' [c]
  | itself {p : Char} (hrun : p ≠ '%') (hone : p ≠ '_') : Takes p [p]

/-- The text is made of pieces, one for each character of the pattern and
in their order. -/
def StandsFor (pattern text : List Char) : Prop :=
  ∃ pieces, List.Forall₂ Takes pattern pieces ∧ pieces.flatten = text

/-- Every character but `%` takes one character, the one that the matcher
compares it with. -/
theorem takes_of_ne {p : Char} (hp : p ≠ '%') {piece : List Char} :
    Takes p piece ↔ ∃ c, piece = [c] ∧ (p == '_' || p == c) = true := by
  simp only [Bool.or_eq_true, beq_iff_eq]
  constructor
  · intro h
    cases h with
    | run => exact absurd rfl hp
    | one c => exact ⟨c, rfl, Or.inl rfl⟩
    | itself => exact ⟨p, rfl, Or.inr rfl⟩
  · rintro ⟨c, rfl, rfl | rfl⟩
    · exact .one c
    · by_cases hone : p = '_'
      · subst hone
        exact .one _
      · exact .itself hp hone

theorem standsFor_nil {text : List Char} :
    StandsFor [] text ↔ text = [] := by
  simp [StandsFor, eq_comm]

/-- The first character of a pattern takes the start of the text. -/
theorem standsFor_cons {p : Char} {pattern text : List Char} :
    StandsFor (p :: pattern) text
      ↔ ∃ piece rest, text = piece ++ rest ∧ Takes p piece
        ∧ StandsFor pattern rest := by
  constructor
  · rintro ⟨pieces, hpieces, rfl⟩
    obtain ⟨piece, others, hp, hothers, rfl⟩ :=
      List.forall₂_cons_left_iff.mp hpieces
    exact ⟨piece, others.flatten, rfl, hp, others, hothers, rfl⟩
  · rintro ⟨piece, rest, rfl, hp, others, hothers, rfl⟩
    exact ⟨piece :: others, .cons hp hothers, rfl⟩

/-- The last character of a pattern takes the end of the text. -/
theorem standsFor_concat {p : Char} {pattern text : List Char} :
    StandsFor (pattern ++ [p]) text
      ↔ ∃ start piece, text = start ++ piece ∧ StandsFor pattern start
        ∧ Takes p piece := by
  induction pattern generalizing text with
  | nil => simp [standsFor_cons, standsFor_nil]
  | cons q pattern ih =>
      rw [List.cons_append, standsFor_cons]
      constructor
      · rintro ⟨first, rest, rfl, hq, hrest⟩
        obtain ⟨start, piece, rfl, hstart, hp⟩ := ih.mp hrest
        exact ⟨first ++ start, piece, (List.append_assoc ..).symm,
          standsFor_cons.mpr ⟨first, start, rfl, hq, hstart⟩, hp⟩
      · rintro ⟨start, piece, rfl, hstart, hp⟩
        obtain ⟨first, start, rfl, hq, hstart⟩ := standsFor_cons.mp hstart
        exact ⟨first, start ++ piece, List.append_assoc .., hq,
          ih.mpr ⟨start, piece, rfl, hstart, hp⟩⟩

/-- With `%` at its end, a pattern goes on to stand for whatever follows. -/
theorem standsFor_concat_run {pattern text : List Char} :
    StandsFor (pattern ++ ['%']) text
      ↔ ∃ start, start <+: text ∧ StandsFor pattern start := by
  rw [standsFor_concat]
  constructor
  · rintro ⟨start, piece, rfl, hstart, -⟩
    exact ⟨start, List.prefix_append .., hstart⟩
  · rintro ⟨start, ⟨piece, rfl⟩, hstart⟩
    exact ⟨start, piece, rfl, hstart, .run piece⟩

/-- With any other character at its end, one more character follows. -/
theorem standsFor_concat_one {p : Char} (hp : p ≠ '%')
    {pattern text : List Char} :
    StandsFor (pattern ++ [p]) text
      ↔ ∃ start c, text = start ++ [c] ∧ StandsFor pattern start
        ∧ (p == '_' || p == c) = true := by
  rw [standsFor_concat]
  constructor
  · rintro ⟨start, piece, rfl, hstart, hpiece⟩
    obtain ⟨c, rfl, hc⟩ := (takes_of_ne hp).mp hpiece
    exact ⟨start, c, rfl, hstart, hc⟩
  · rintro ⟨start, c, rfl, hstart, hc⟩
    exact ⟨start, [c], rfl, hstart, (takes_of_ne hp).mpr ⟨c, rfl, hc⟩⟩

-- ========================================================== fresh rows

/-- For every prefix of the text, from the empty one on, whether one that is
no longer is marked. -/
def anyBefore (seen : Bool) : List Bool → List Bool
  | [] => []
  | b :: rest => (seen || b) :: anyBefore (seen || b) rest

/-- For every prefix of the text but the empty one, whether it is a marked
prefix and one more character that `p` stands for. -/
def oneMore (p : Char) : (text : List Char) → (marks : List Bool) → List Bool
  | c :: text, b :: marks => (b && (p == '_' || p == c)) :: oneMore p text marks
  | _, _ => []

/-- The marks after one more character of the pattern. -/
def step (text : List Char) (marks : List Bool) (p : Char) : List Bool :=
  if p = '%' then anyBefore false marks else false :: oneMore p text marks

/-- Marks the prefixes of the text, from the empty one on, that the pattern
stands for. -/
def marks (text pattern : List Char) : List Bool :=
  pattern.foldl (step text) (true :: text.map fun _ => false)

theorem length_anyBefore (seen : Bool) (marks : List Bool) :
    (anyBefore seen marks).length = marks.length := by
  induction marks generalizing seen with
  | nil => rfl
  | cons b marks ih => exact congrArg (· + 1) (ih _)

/-- With the mark of the empty prefix in front, a fresh row has a mark for each
prefix. -/
theorem length_oneMore (p : Char) {text : List Char} {marks : List Bool}
    (h : marks.length = text.length + 1) :
    (oneMore p text marks).length = text.length := by
  induction text generalizing marks with
  | nil => rfl
  | cons c text ih =>
      obtain ⟨b, marks, rfl⟩ := List.exists_cons_of_length_eq_add_one h
      exact congrArg (· + 1) (ih (Nat.succ.inj h))

/-- A row as long as the marks is written over from end to end. -/
theorem writeAnyBefore_eq (seen : Bool) {marks row : List Bool}
    (h : row.length = marks.length) :
    writeAnyBefore seen marks row = anyBefore seen marks := by
  induction marks generalizing seen row with
  | nil => exact List.length_eq_zero_iff.mp h
  | cons b marks ih =>
      obtain ⟨old, row, rfl⟩ := List.exists_cons_of_length_eq_add_one h
      exact congrArg (_ :: ·) (ih _ (Nat.succ.inj h))

/-- A row as long as the text is written over from end to end. -/
theorem writeOneMore_eq (p : Char) {text : List Char} {marks row : List Bool}
    (hmarks : marks.length = text.length + 1)
    (hrow : row.length = text.length) :
    writeOneMore p text marks row = oneMore p text marks := by
  induction text generalizing marks row with
  | nil =>
      rw [List.length_eq_zero_iff.mp hrow]
      rfl
  | cons c text ih =>
      obtain ⟨b, marks, rfl⟩ := List.exists_cons_of_length_eq_add_one hmarks
      obtain ⟨old, row, rfl⟩ := List.exists_cons_of_length_eq_add_one hrow
      exact congrArg (_ :: ·) (ih (Nat.succ.inj hmarks) (Nat.succ.inj hrow))

/-- Both rows have a mark for each prefix of the text. -/
structure Rows.Fit (text : List Char) (rows : Rows) : Prop where
  marks : rows.marks.length = text.length + 1
  spare : rows.spare.length = text.length + 1

/-- What a character of the pattern writes does not depend on what stood in
the row before: it is the fresh row. -/
theorem Rows.step_eq {text : List Char} {rows : Rows} (p : Char)
    (h : rows.Fit text) :
    rows.step text p = ⟨Pattern.step text rows.marks p, rows.marks⟩ := by
  unfold Rows.step Pattern.step
  congr 1
  split
  · exact writeAnyBefore_eq false (h.spare.trans h.marks.symm)
  · obtain ⟨old, row, hspare⟩ := List.exists_cons_of_length_eq_add_one h.spare
    have hrow : row.length = text.length := by
      have hlength := h.spare
      rw [hspare] at hlength
      exact Nat.succ.inj hlength
    rw [hspare]
    exact congrArg (false :: ·) (writeOneMore_eq p h.marks hrow)

/-- The rows keep their lengths, so a row that is written later is written over
from end to end as well. -/
theorem Rows.Fit.step {text : List Char} {rows : Rows} (h : rows.Fit text)
    (p : Char) : (rows.step text p).Fit text := by
  rw [Rows.step_eq p h]
  refine ⟨?_, h.marks⟩
  unfold Pattern.step
  split
  · exact (length_anyBefore false rows.marks).trans h.marks
  · exact congrArg (· + 1) (length_oneMore p h.marks)

/-- The loop over the pattern, with its two rows, leaves the marks that the
loop with a fresh row for every character leaves. -/
theorem Rows.marks_foldl {text : List Char} (pattern : List Char)
    {rows : Rows} (h : rows.Fit text) :
    (pattern.foldl (Rows.step text) rows).marks
      = pattern.foldl (Pattern.step text) rows.marks := by
  induction pattern generalizing rows with
  | nil => rfl
  | cons p pattern ih =>
      rw [List.foldl_cons, List.foldl_cons, ih (h.step p), Rows.step_eq p h]

/-- The matcher reads its answer off the last of the fresh rows. -/
theorem isMatch_eq (text pattern : String) :
    isMatch text pattern
      = (marks text.toList pattern.toList).getLastD false := by
  have hstart : (Rows.start text.toList).Fit text.toList :=
    ⟨congrArg (· + 1) (List.length_map _), congrArg (· + 1) (List.length_map _)⟩
  exact congrArg (·.getLastD false) (Rows.marks_foldl pattern.toList hstart)

-- =============================================================== marks

/-- A mark for what has been read of the text and for every longer prefix,
which says whether it is one of the texts in question. -/
inductive Marked (P : List Char → Prop) :
    (read unread : List Char) → List Bool → Prop where
  | last {read : List Char} {b : Bool} (h : b = true ↔ P read) :
    Marked P read [] [b]
  | more {read unread : List Char} {c : Char} {b : Bool} {marks : List Bool}
      (h : b = true ↔ P read)
      (hmarks : Marked P (read ++ [c]) unread marks) :
    Marked P read (c :: unread) (b :: marks)

variable {P : List Char → Prop} {read unread : List Char} {marks : List Bool}

theorem Marked.congr {Q : List Char → Prop} (hPQ : ∀ t, P t ↔ Q t)
    (h : Marked P read unread marks) : Marked Q read unread marks := by
  induction h with
  | last h => exact .last (h.trans (hPQ _))
  | more h _ ih => exact .more (h.trans (hPQ _)) ih

/-- The last mark is about the whole text. -/
theorem Marked.getLastD (h : Marked P read unread marks) :
    marks.getLastD false = true ↔ P (read ++ unread) := by
  induction h with
  | last h => simpa using h
  | @more read unread c b marks _ hmarks ih =>
      have hcons : (b :: marks).getLastD false = marks.getLastD false := by
        cases hmarks <;> rfl
      rw [hcons, ih, List.append_assoc]
      rfl

/-- No prefix but the empty one is empty. -/
theorem marked_none (hread : read ≠ []) :
    Marked (· = []) read unread (false :: unread.map fun _ => false) := by
  induction unread generalizing read with
  | nil => exact .last (by simpa using hread)
  | cons c unread ih =>
      exact .more (by simpa using hread) (ih (by simp))

/-- The marks that the matcher starts with. -/
theorem marked_start (text : List Char) :
    Marked (· = []) [] text (true :: text.map fun _ => false) := by
  cases text with
  | nil => exact .last (by simp)
  | cons c text => exact .more (by simp) (marked_none (by simp))

/-- With its own mark, a prefix knows of all marked prefixes in it. -/
theorem seen_or_marked {seen b : Bool}
    (hseen : seen = true ↔ ∃ t, t <+: read ∧ t ≠ read ∧ P t)
    (hb : b = true ↔ P read) :
    (seen || b) = true ↔ ∃ t, t <+: read ∧ P t := by
  rw [Bool.or_eq_true, hseen, hb]
  constructor
  · rintro (⟨t, ht, -, hP⟩ | hP)
    · exact ⟨t, ht, hP⟩
    · exact ⟨read, List.prefix_rfl, hP⟩
  · rintro ⟨t, ht, hP⟩
    by_cases heq : t = read
    · exact Or.inr (heq ▸ hP)
    · exact Or.inl ⟨t, ht, heq, hP⟩

/-- The marks after `%`: of the prefixes that begin with a marked one. What
has been seen are the marks of the shorter prefixes. -/
theorem Marked.anyBefore {seen : Bool} (h : Marked P read unread marks)
    (hseen : seen = true ↔ ∃ t, t <+: read ∧ t ≠ read ∧ P t) :
    Marked (fun text => ∃ t, t <+: text ∧ P t) read unread
      (Pattern.anyBefore seen marks) := by
  induction h generalizing seen with
  | last hb => exact .last (seen_or_marked hseen hb)
  | @more read unread c b marks hb _ ih =>
      have hnow := seen_or_marked hseen hb
      refine .more hnow (ih (hnow.trans ?_))
      -- a proper prefix of one character more is a prefix of what was read
      constructor
      · rintro ⟨t, ht, hP⟩
        refine ⟨t, ht.trans (List.prefix_append ..), ?_, hP⟩
        rintro rfl
        have hlength := ht.length_le
        rw [List.length_append, List.length_singleton] at hlength
        omega
      · rintro ⟨t, ht, hne, hP⟩
        exact ⟨t, (List.prefix_concat_iff.mp ht).resolve_left hne, hP⟩

/-- The marks after any other character: of the prefixes that end with a
character it takes, behind a marked one. -/
theorem Marked.oneMore {p c : Char}
    (h : Marked P read (c :: unread) marks) :
    Marked (fun text => ∃ t x, text = t ++ [x] ∧ P t
        ∧ (p == '_' || p == x) = true) (read ++ [c]) unread
      (Pattern.oneMore p (c :: unread) marks) := by
  induction unread generalizing read c marks with
  | nil =>
      obtain _ | ⟨hb, hmarks⟩ := h
      obtain ⟨-⟩ := hmarks
      refine .last ?_
      simp [hb]
  | cons d unread ih =>
      obtain _ | ⟨hb, hmarks⟩ := h
      refine .more ?_ (ih hmarks)
      simp [hb]

/-- One character of the pattern keeps the marks right. -/
theorem marked_step {text pattern : List Char} (p : Char)
    (h : Marked (StandsFor pattern) [] text marks) :
    Marked (StandsFor (pattern ++ [p])) [] text (step text marks p) := by
  unfold step
  by_cases hp : p = '%'
  · rw [if_pos hp]
    subst hp
    -- nothing is in front of the empty prefix, so nothing has been seen
    have hseen : false = true
        ↔ ∃ t, t <+: [] ∧ t ≠ [] ∧ StandsFor pattern t := by simp
    exact (h.anyBefore hseen).congr fun _ => standsFor_concat_run.symm
  · rw [if_neg hp]
    have hempty : false = true ↔ StandsFor (pattern ++ [p]) [] := by
      simp [standsFor_concat_one hp]
    cases text with
    | nil =>
        have hnone : Pattern.oneMore p [] marks = [] := by
          unfold Pattern.oneMore
          rfl
        rw [hnone]
        exact .last hempty
    | cons c text =>
        exact .more hempty
          (h.oneMore.congr fun _ => (standsFor_concat_one hp).symm)

/-- The marks of the matcher are right: the invariant of the loop, from any
part of the pattern that has been read. -/
theorem marked_foldl {text done : List Char} (pattern : List Char)
    (h : Marked (StandsFor done) [] text marks) :
    Marked (StandsFor (done ++ pattern)) [] text
      (pattern.foldl (step text) marks) := by
  induction pattern generalizing done marks with
  | nil => simpa using h
  | cons p pattern ih => simpa using ih (marked_step p h)

theorem marked_marks (text pattern : List Char) :
    Marked (StandsFor pattern) [] text (Pattern.marks text pattern) := by
  have hstart : Marked (StandsFor []) [] text
      (true :: text.map fun _ => false) :=
    (marked_start text).congr fun _ => standsFor_nil.symm
  exact marked_foldl pattern hstart

/-- The matcher says whether the pattern stands for the text. -/
theorem isMatch_iff (text pattern : String) :
    isMatch text pattern = true
      ↔ StandsFor pattern.toList text.toList := by
  rw [isMatch_eq]
  exact (marked_marks text.toList pattern.toList).getLastD

end Pattern

/-- The function of the operator `Like` has a truth value for every text and
every pattern: whether the text can be cut into pieces, one for each
character of the pattern, that the characters take. -/
theorem CustomFunction.evaluate_like (text pattern : String) :
    ∃ b, CustomFunction.like.evaluate [.string text, .string pattern]
        = .ok (.bool b)
      ∧ (b = true ↔ ∃ pieces : List (List Char),
          List.Forall₂ Pattern.Takes pattern.toList pieces
            ∧ pieces.flatten = text.toList) :=
  ⟨Pattern.isMatch text pattern, rfl, Pattern.isMatch_iff text pattern⟩

end FilterCriteria
