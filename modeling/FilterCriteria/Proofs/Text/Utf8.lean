/-
Texts as bytes in UTF-8. Bytes compare as characters do, and the bytes of a
text occur among those of another exactly where its characters do: at the
start, at the end or anywhere.

# Order

A character with a higher code has a higher byte at the first place where the
two differ, and this place is in both (`lowerAt_encodeChar`): a longer code
begins with a higher byte, and codes of one length have their bits in order.
So what follows the characters does not matter, and texts compare by their
first different character.

# Search

The first byte of a character is never one of the later bytes of another, so
bytes that begin with a character begin between two characters of the text
they are in (`exists_suffix_of_encoded`). The characters there are the same,
since no character's bytes go on to be those of another
(`eq_of_encodeChar_append`).
-/
namespace FilterCriteria

open String (utf8EncodeChar)

/-- The bytes of characters in UTF-8, those of one character behind those of
the other. -/
def encoded (cs : List Char) : List UInt8 :=
  cs.flatMap utf8EncodeChar

/-- The bytes of a text in UTF-8. -/
def utf8 (s : String) : List UInt8 :=
  s.toUTF8.data.toList

theorem utf8_eq_encoded (s : String) : utf8 s = encoded s.toList := by
  unfold utf8 encoded
  rw [String.toUTF8_eq_toByteArray, ← String.utf8Encode_toList]
  exact List.toList_data_toByteArray

variable {c d : Char} {cs ds p : List Char} {xs ys : List UInt8}

theorem encoded_cons : encoded (c :: cs) = utf8EncodeChar c ++ encoded cs :=
  List.flatMap_cons

/-- The bytes of a text are those of its parts in a row. -/
theorem encoded_append : encoded (cs ++ ds) = encoded cs ++ encoded ds :=
  List.flatMap_append

theorem encodeChar_ne_nil (c : Char) : utf8EncodeChar c ≠ [] := by
  intro h
  have hlength := congrArg List.length h
  rw [String.length_utf8EncodeChar] at hlength
  exact absurd hlength (Nat.ne_of_gt c.utf8Size_pos)

-- =============================================================== order

/-- The first bytes in which the two differ are there in both, and the first
has the lesser one. -/
inductive LowerAt : List UInt8 → List UInt8 → Prop where
  | here {x y : UInt8} {xs ys : List UInt8} (h : x < y) :
    LowerAt (x :: xs) (y :: ys)
  | later {x : UInt8} {xs ys : List UInt8} (h : LowerAt xs ys) :
    LowerAt (x :: xs) (x :: ys)

/-- Whatever follows the bytes that differ does not matter. -/
theorem LowerAt.append_lt (h : LowerAt xs ys) (more more' : List UInt8) :
    xs ++ more < ys ++ more' := by
  induction h with
  | here h => exact List.Lex.rel h
  | later _ ih => exact List.Lex.cons ih

/-- Bytes are lower by their numbers. -/
theorem lowerAt_ofNat {a b : Nat} (hb : b < 256) (h : a < b) :
    LowerAt (UInt8.ofNat a :: xs) (UInt8.ofNat b :: ys) := by
  refine .here (UInt8.lt_iff_toNat_lt.mpr ?_)
  rw [UInt8.toNat_ofNat_of_lt' (Nat.lt_trans h hb),
    UInt8.toNat_ofNat_of_lt' hb]
  exact h

theorem lowerAt_ofNat_or {a b : Nat} (hb : b < 256) (hle : a ≤ b)
    (h : a = b → LowerAt xs ys) :
    LowerAt (UInt8.ofNat a :: xs) (UInt8.ofNat b :: ys) := by
  rcases Nat.lt_or_eq_of_le hle with hlt | rfl
  · exact lowerAt_ofNat hb hlt
  · exact .later (h rfl)

/-- The bytes of characters compare as their code points do. Where one has
more bytes, its first one is greater; where both have as many, these are the
digits of the code points to the base 64, from the highest one on. -/
theorem lowerAt_encodeChar (h : c < d) :
    LowerAt (utf8EncodeChar c) (utf8EncodeChar d) := by
  have hcode : c.val.toNat < d.val.toNat := UInt32.lt_iff_toNat_lt.mp h
  have hmax : d.val.toNat < 0x110000 := d.valid.elim (by omega) (by omega)
  unfold utf8EncodeChar
  dsimp only
  generalize c.val.toNat = v at hcode
  generalize d.val.toNat = w at hcode hmax
  split
  · -- the lesser character has one byte
    split
    · exact lowerAt_ofNat (by omega) hcode
    split
    · exact lowerAt_ofNat (by omega) (by omega)
    split
    · exact lowerAt_ofNat (by omega) (by omega)
    · exact lowerAt_ofNat (by omega) (by omega)
  rw [if_neg (show ¬ w ≤ 0x7f by omega)]
  split
  · -- two bytes
    split
    · exact lowerAt_ofNat_or (by omega) (by omega) fun _ =>
        lowerAt_ofNat (by omega) (by omega)
    split
    · exact lowerAt_ofNat (by omega) (by omega)
    · exact lowerAt_ofNat (by omega) (by omega)
  rw [if_neg (show ¬ w ≤ 0x7ff by omega)]
  split
  · -- three bytes
    split
    · exact lowerAt_ofNat_or (by omega) (by omega) fun _ =>
        lowerAt_ofNat_or (by omega) (by omega) fun _ =>
          lowerAt_ofNat (by omega) (by omega)
    · exact lowerAt_ofNat (by omega) (by omega)
  rw [if_neg (show ¬ w ≤ 0xffff by omega)]
  exact lowerAt_ofNat_or (by omega) (by omega) fun _ =>
    lowerAt_ofNat_or (by omega) (by omega) fun _ =>
      lowerAt_ofNat_or (by omega) (by omega) fun _ =>
        lowerAt_ofNat (by omega) (by omega)

/-- Texts in order have their bytes in order. -/
theorem encoded_lt (h : cs < ds) : encoded cs < encoded ds := by
  induction h with
  | @nil d ds =>
      rw [encoded_cons]
      cases hd : utf8EncodeChar d with
      | nil => exact absurd hd (encodeChar_ne_nil d)
      | cons x xs => exact List.Lex.nil
  | rel h =>
      rw [encoded_cons, encoded_cons]
      exact (lowerAt_encodeChar h).append_lt _ _
  | @cons c cs ds _ ih =>
      rw [encoded_cons, encoded_cons]
      exact List.append_left_lt ih

/-- Texts in the order of their characters are in the order of their bytes. -/
theorem utf8_lt_of_lt {s t : String} (h : s < t) : utf8 s < utf8 t := by
  rw [utf8_eq_encoded, utf8_eq_encoded]
  exact encoded_lt h

-- ============================================================== search

/-- No character's bytes go on to be those of another. -/
theorem eq_of_encodeChar_append
    (h : utf8EncodeChar c ++ xs = utf8EncodeChar d ++ ys) : c = d := by
  have hc : ((utf8EncodeChar c).toByteArray ++ xs.toByteArray).utf8DecodeChar?
      0 = some c := ByteArray.utf8DecodeChar?_utf8EncodeChar_append
  have hd : ((utf8EncodeChar d).toByteArray ++ ys.toByteArray).utf8DecodeChar?
      0 = some d := ByteArray.utf8DecodeChar?_utf8EncodeChar_append
  rw [← List.toByteArray_append, h, List.toByteArray_append, hd] at hc
  exact (Option.some.inj hc).symm

/-- Bytes at the start are those of characters at the start. -/
theorem isPrefix_of_encoded (h : encoded p <+: encoded cs) : p <+: cs := by
  obtain ⟨rest, h⟩ := h
  induction p generalizing cs with
  | nil => exact List.nil_prefix
  | cons c p ih =>
      rw [encoded_cons, List.append_assoc] at h
      cases cs with
      | nil =>
          have hnil := (List.append_eq_nil_iff.mp h).1
          exact absurd hnil (encodeChar_ne_nil c)
      | cons d cs =>
          rw [encoded_cons] at h
          have hcd := eq_of_encodeChar_append h
          subst hcd
          have hrest := ih (List.append_cancel_left h)
          exact List.cons_prefix_cons.mpr ⟨rfl, hrest⟩

theorem encoded_isPrefix_iff : encoded p <+: encoded cs ↔ p <+: cs := by
  constructor
  · exact isPrefix_of_encoded
  · intro h
    obtain ⟨rest, rfl⟩ := h
    rw [encoded_append]
    exact List.prefix_append ..

/-- Bytes that begin with the first byte of a character, if with any, are the
bytes of characters at the end of the text that they end. -/
theorem exists_suffix_of_encoded (h : encoded cs = xs ++ ys)
    (hfirst : ∀ y ∈ ys.head?, y.IsUTF8FirstByte) :
    ∃ rest, rest <:+ cs ∧ encoded rest = ys := by
  induction cs generalizing xs with
  | nil =>
      obtain ⟨-, rfl⟩ := List.append_eq_nil_iff.mp h.symm
      exact ⟨[], List.suffix_rfl, rfl⟩
  | cons c cs ih =>
      rw [encoded_cons] at h
      rcases List.append_eq_append_iff.mp h with
        ⟨more, -, hrest⟩ | ⟨more, hc, hys⟩
      · obtain ⟨rest, hsuffix, hrest⟩ := ih hrest
        exact ⟨rest, hsuffix.trans (List.suffix_cons c cs), hrest⟩
      · -- they begin among the bytes of the first character
        cases more with
        | nil => exact ⟨cs, List.suffix_cons c cs, hys.symm⟩
        | cons y more =>
            subst hys
            have hy : y.IsUTF8FirstByte := hfirst y rfl
            have hlt : xs.length < (utf8EncodeChar c).length := by
              rw [hc, List.length_append, List.length_cons]
              omega
            have hget : (utf8EncodeChar c)[xs.length] = y := by
              simp only [hc, List.getElem_append_right (Nat.le_refl _),
                Nat.sub_self, List.getElem_cons_zero]
            rw [← hget, UInt8.isUTF8FirstByte_getElem_utf8EncodeChar,
              List.length_eq_zero_iff] at hy
            subst hy
            refine ⟨c :: cs, List.suffix_rfl, ?_⟩
            rw [encoded_cons, hc]
            rfl

/-- Bytes that begin with a character begin with its first byte. -/
theorem isUTF8FirstByte_head?_encoded :
    ∀ y ∈ (encoded (c :: p) ++ xs).head?, y.IsUTF8FirstByte := by
  intro y hy
  cases hc : utf8EncodeChar c with
  | nil => exact absurd hc (encodeChar_ne_nil c)
  | cons x more =>
      rw [encoded_cons, hc] at hy
      obtain rfl : x = y := Option.some.inj hy
      have hget : (utf8EncodeChar c)[0]? = some x := by
        rw [hc]
        rfl
      obtain ⟨_, rfl⟩ := List.getElem?_eq_some_iff.mp hget
      exact UInt8.isUTF8FirstByte_getElem_utf8EncodeChar.mpr rfl

/-- The bytes of a text are among those of another exactly if the text is in
the other. -/
theorem encoded_isInfix_iff : encoded p <:+: encoded cs ↔ p <:+: cs := by
  constructor
  · intro h
    obtain ⟨before, after, h⟩ := h
    cases p with
    | nil => exact List.nil_infix
    | cons c p =>
        rw [List.append_assoc] at h
        obtain ⟨rest, hsuffix, hrest⟩ :=
          exists_suffix_of_encoded h.symm isUTF8FirstByte_head?_encoded
        have hlead : c :: p <+: rest :=
          isPrefix_of_encoded ⟨after, hrest.symm⟩
        exact hlead.isInfix.trans hsuffix.isInfix
  · intro h
    obtain ⟨before, after, rfl⟩ := h
    rw [encoded_append, encoded_append]
    exact List.infix_append ..

/-- The bytes of a text end those of another exactly if the text ends the
other. -/
theorem encoded_isSuffix_iff : encoded p <:+ encoded cs ↔ p <:+ cs := by
  constructor
  · intro h
    obtain ⟨before, h⟩ := h
    cases p with
    | nil => exact List.nil_suffix
    | cons c p =>
        rw [← List.append_nil (encoded (c :: p))] at h
        obtain ⟨rest, hsuffix, hrest⟩ :=
          exists_suffix_of_encoded h.symm isUTF8FirstByte_head?_encoded
        rw [List.append_nil] at hrest
        -- the same bytes are those of the same characters
        have hlead : c :: p <+: rest :=
          isPrefix_of_encoded (hrest ▸ List.prefix_rfl)
        have hback : rest <+: c :: p :=
          isPrefix_of_encoded (hrest ▸ List.prefix_rfl)
        rwa [hlead.eq_of_length_le hback.length_le]
  · intro h
    obtain ⟨before, rfl⟩ := h
    rw [encoded_append]
    exact List.suffix_append ..

end FilterCriteria
