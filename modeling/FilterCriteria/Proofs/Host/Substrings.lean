/-
Parts of a text. What `Substring` cuts out is what stands behind so many
characters and has so many of its own (`substring?_eq_some_iff`). `StartsWith`,
`EndsWith` and `Contains` tell whether such a part is there, at the start, at
the end or anywhere, and they tell the same of bytes as of characters.

# Characters and bytes

An index counts characters, while the text itself may be held as bytes, of
which a character takes up to four. The tests work on bytes, and a run of
bytes might begin in the middle of a character; that it does not, as long as
it is the text of a string, is shown in `Text.Utf8`. So the main statement
(`callString_substring_agrees`) has the tests in terms of `Substring`, and in
terms of bytes as well.

What a call tells is said by a condition (`Tells`): it succeeds, and its truth
value is that of the condition.
-/
import FilterCriteria.Host.Strings
import FilterCriteria.Proofs.Number.Digits
import FilterCriteria.Proofs.Text.Utf8

namespace FilterCriteria

/-- The value is an integer argument for the number. -/
def Value.IsInteger (v : Value) (n : Int) : Prop :=
  ∃ k, v.toInt? = some k ∧ k.toInt = n

namespace Host

variable {s p part : String} {i l : Int} {x y : Value}

-- =============================================================== parts

/-- The search tries every place, from the start on. -/
theorem occursIn_iff {part text : List Char} :
    occursIn part text = true ↔ part <:+: text := by
  induction text with
  | nil =>
      show part.isEmpty = true ↔ _
      rw [List.isEmpty_iff, List.infix_nil]
  | cons c text ih =>
      unfold occursIn
      rw [Bool.or_eq_true, ih, List.isPrefixOf_iff_prefix,
        List.infix_cons_iff]

theorem length_parts {before after : List Char}
    (h : before ++ p.toList ++ after = s.toList) :
    before.length + p.length + after.length = s.length := by
  rw [← p.length_toList, ← s.length_toList, ← h, List.length_append,
    List.length_append]

/-- A part is what stands behind its start and has its length. -/
theorem substring?_eq_some_iff :
    substring? s i l = some part
      ↔ ∃ before after, before ++ part.toList ++ after = s.toList
        ∧ (before.length : Int) = i ∧ (part.length : Int) = l := by
  unfold substring?
  dsimp only
  constructor
  · intro h
    split at h
    · next hrange =>
      cases h
      refine ⟨s.toList.take i.toNat, (s.toList.drop i.toNat).drop l.toNat,
        ?_, ?_, ?_⟩
      · rw [String.toList_ofList, List.append_assoc, List.take_append_drop,
          List.take_append_drop]
      · rw [List.length_take]
        omega
      · rw [String.length_ofList, List.length_take, List.length_drop]
        omega
    · cases h
  · intro h
    obtain ⟨before, after, hs, rfl, rfl⟩ := h
    have hlength := length_parts hs
    rw [String.length_toList, if_pos (by omega), Int.toNat_natCast,
      Int.toNat_natCast, ← hs, List.append_assoc, List.drop_left,
      ← String.length_toList, List.take_left, String.ofList_toList]

/-- There is such a part exactly if the text is long enough. -/
theorem exists_substring?_iff :
    (∃ part, substring? s i l = some part)
      ↔ 0 ≤ i ∧ 0 ≤ l ∧ i + l ≤ s.length := by
  unfold substring?
  dsimp only
  rw [String.length_toList]
  split
  · next hrange => exact ⟨fun _ => hrange, fun _ => ⟨_, rfl⟩⟩
  · next hrange => exact ⟨nofun, fun h => absurd h hrange⟩

/-- The part at the start is the beginning of the text. -/
theorem substring?_zero_iff :
    substring? s 0 p.length = some p ↔ p.toList <+: s.toList := by
  rw [substring?_eq_some_iff]
  constructor
  · intro h
    obtain ⟨before, after, hs, hbefore, -⟩ := h
    obtain rfl : before = [] := List.length_eq_zero_iff.mp (by omega)
    exact ⟨after, hs⟩
  · intro h
    obtain ⟨after, hs⟩ := h
    exact ⟨[], after, hs, rfl, rfl⟩

/-- The end of a text stands behind all that is in front of it. -/
theorem substring?_last_iff :
    substring? s (s.length - p.length) p.length = some p
      ↔ p.toList <:+ s.toList := by
  rw [substring?_eq_some_iff]
  constructor
  · intro h
    obtain ⟨before, after, hs, hbefore, -⟩ := h
    have hlength := length_parts hs
    obtain rfl : after = [] := List.length_eq_zero_iff.mp (by omega)
    exact ⟨before, List.append_nil (before ++ p.toList) ▸ hs⟩
  · intro h
    obtain ⟨before, hs⟩ := h
    have hlength := length_parts ((List.append_nil _).trans hs)
    rw [List.length_nil] at hlength
    exact ⟨before, [], (List.append_nil _).trans hs, by omega, rfl⟩

-- =============================================================== calls

/-- A number of either width serves as an index or a length. -/
theorem integer_eq_ok {args : List Value} {index : Nat}
    (hx : x.IsInteger i) (hindex : args[index]? = some x) :
    integer args index = .ok i := by
  obtain ⟨k, hk, rfl⟩ := hx
  unfold integer argument
  rw [hindex, Option.bind_eq_bind, Option.bind_some, hk]
  rfl

/-- The calls that give a part give what is found, if anything is. -/
theorem map_orFail_eq_ok {failure : Failure} {found : Option String}
    {r : Value} :
    (orFail failure found).map .string = .ok r
      ↔ ∃ part, found = some part ∧ .string part = r := by
  cases found with
  | none => exact ⟨nofun, nofun⟩
  | some part =>
      show Except.ok (Value.string part) = .ok r ↔ _
      simp only [Except.ok.injEq, Option.some.injEq, exists_eq_left']

theorem callString_substring_eq_ok (hx : x.IsInteger i) (hy : y.IsInteger l)
    {r : Value} :
    callString s "Substring" [x, y] = .ok r
      ↔ ∃ part, substring? s i l = some part ∧ .string part = r := by
  show (integer [x, y] 0 >>= fun start => integer [x, y] 1 >>= fun length =>
    (orFail .substringRange (substring? s start length)).map Value.string)
      = _ ↔ _
  rw [integer_eq_ok hx rfl, integer_eq_ok hy rfl]
  exact map_orFail_eq_ok

/-- The call has the part for its result, if there is one. -/
theorem callString_substring_eq_string (hx : x.IsInteger i)
    (hy : y.IsInteger l) :
    callString s "Substring" [x, y] = .ok (.string part)
      ↔ substring? s i l = some part := by
  simp only [callString_substring_eq_ok hx hy, Value.string.injEq,
    exists_eq_right]

/-- With a start alone, the part reaches to the end. -/
theorem callString_substringFrom_eq_string (hx : x.IsInteger i) :
    callString s "Substring" [x] = .ok (.string part)
      ↔ substring? s i (s.length - i) = some part := by
  show (integer [x] 0 >>= fun start => (orFail .substringRange
    (substring? s start (s.length - start))).map Value.string) = _ ↔ _
  rw [integer_eq_ok hx rfl]
  show (orFail .substringRange _).map Value.string = _ ↔ _
  simp only [map_orFail_eq_ok, Value.string.injEq, exists_eq_right]

/-- The call tells whether it is so. -/
def Tells (outcome : Except EvalError Value) (P : Prop) : Prop :=
  ∃ b, outcome = .ok (.bool b) ∧ (b = true ↔ P)

/-- What a call tells may be said in other words. -/
theorem Tells.congr {outcome : Except EvalError Value} {P Q : Prop}
    (h : Tells outcome P) (hPQ : P ↔ Q) : Tells outcome Q := by
  obtain ⟨b, hb, hP⟩ := h
  exact ⟨b, hb, hP.trans hPQ⟩

theorem Tells.eq_true {outcome : Except EvalError Value} {P : Prop}
    (h : Tells outcome P) (hP : P) : outcome = .ok (.bool true) := by
  obtain ⟨b, hb, hiff⟩ := h
  rw [hb, hiff.mpr hP]

theorem tells_startsWith : Tells (callString s "StartsWith" [.string p])
    (p.toList <+: s.toList) :=
  ⟨_, rfl, List.isPrefixOf_iff_prefix⟩

theorem tells_endsWith : Tells (callString s "EndsWith" [.string p])
    (p.toList <:+ s.toList) :=
  ⟨_, rfl, List.isSuffixOf_iff_suffix⟩

/-- `Contains` tells whether the one text is in the other. -/
theorem tells_contains : Tells (callString s "Contains" [.string p])
    (p.toList <:+: s.toList) :=
  ⟨_, rfl, occursIn_iff⟩

-- ================================================================ laws

/-- A part that is cut out occurs in the text, and with what is in front of it
and behind it, it makes up the text. -/
theorem callString_concat_parts {z o : Value} (hx : x.IsInteger i)
    (hz : z.IsInteger (i + l)) (ho : o.IsInteger 0)
    (h : substring? s i l = some part) :
    callString s "Contains" [.string part] = .ok (.bool true)
      ∧ ∃ before after,
        callString s "Substring" [o, x] = .ok (.string before)
        ∧ callString s "Substring" [z] = .ok (.string after)
        ∧ callStringType "Concat" [.string before, .string part, .string after]
          = .ok (.string s) := by
  obtain ⟨before, after, hs, rfl, rfl⟩ := substring?_eq_some_iff.mp h
  refine ⟨tells_contains.eq_true ⟨before, after, hs⟩, .ofList before,
    .ofList after, ?_, ?_, ?_⟩
  · rw [callString_substring_eq_string ho hx, substring?_eq_some_iff,
      String.toList_ofList, String.length_ofList]
    exact ⟨[], part.toList ++ after, (List.append_assoc ..).symm.trans hs, rfl,
      rfl⟩
  · rw [callString_substringFrom_eq_string hz, substring?_eq_some_iff,
      String.toList_ofList, String.length_ofList]
    have hlength := length_parts hs
    refine ⟨before ++ part.toList, [], (List.append_nil _).trans hs, ?_, ?_⟩
    · rw [List.length_append, String.length_toList]
      omega
    · omega
  · show Except.ok (Value.string
      (String.ofList before ++ (part ++ (String.ofList after ++ "")))) = _
    rw [Except.ok.injEq, Value.string.injEq, ← String.toList_inj, ← hs]
    simp only [String.append_empty, String.toList_append, String.toList_ofList,
      List.append_assoc]

/-- A part that occurs in a text can be cut out, if there are numbers for where
it can begin. -/
theorem isInfix_iff_callString_substring {m k : Value}
    (hm : m.IsInteger p.length) (hk : k.IsInteger (s.length - p.length)) :
    p.toList <:+: s.toList
      ↔ ∃ j : Int64, callString s "Substring" [.long j, m]
        = .ok (.string p) := by
  constructor
  · intro h
    obtain ⟨before, after, hs⟩ := h
    have hlength := length_parts hs
    obtain ⟨last, -, hlast⟩ := hk
    have hmax := last.toInt_lt
    obtain ⟨j, hj⟩ := exists_toInt_eq (n := before.length) (by omega) (by omega)
    refine ⟨j, (callString_substring_eq_string ⟨j, rfl, hj⟩ hm).mpr ?_⟩
    exact substring?_eq_some_iff.mpr ⟨before, after, hs, rfl, rfl⟩
  · intro h
    obtain ⟨j, hj⟩ := h
    rw [callString_substring_eq_string ⟨j, rfl, rfl⟩ hm,
      substring?_eq_some_iff] at hj
    obtain ⟨before, after, hs, -⟩ := hj
    exact ⟨before, after, hs⟩

/-- The call succeeds exactly where the text is long enough, and fails
otherwise. -/
theorem exists_callString_substring (hx : x.IsInteger i)
    (hy : y.IsInteger l) :
    (∃ r, callString s "Substring" [x, y] = .ok r)
      ↔ 0 ≤ i ∧ 0 ≤ l ∧ i + l ≤ s.length := by
  rw [← exists_substring?_iff]
  constructor
  · intro h
    obtain ⟨r, hr⟩ := h
    obtain ⟨part, hpart, -⟩ := (callString_substring_eq_ok hx hy).mp hr
    exact ⟨part, hpart⟩
  · intro h
    obtain ⟨part, hpart⟩ := h
    exact ⟨_, (callString_substring_eq_string hx hy).mpr hpart⟩

/-- `Substring`, `Contains`, `StartsWith`, `EndsWith` and `Concat` agree about
the parts of a text. With a start and a length whose sum is a number too,
`Substring` succeeds exactly within the text; the part has the length asked
for, occurs in the text, and gives the text again with what is in front of it
and behind it. `StartsWith` and `EndsWith` tell whether the part of a length at
the start and at the end is the one asked for, and `Contains` whether some part
is. Each of the three is a question about bytes just as well. -/
theorem callString_substring_agrees (s : String) :
    (∀ {i l : Int} {o x y z : Value}, o.IsInteger 0 → x.IsInteger i →
      y.IsInteger l → z.IsInteger (i + l) →
      ((∃ r, callString s "Substring" [x, y] = .ok r)
        ↔ 0 ≤ i ∧ 0 ≤ l ∧ i + l ≤ s.length)
      ∧ ∀ r, callString s "Substring" [x, y] = .ok r →
        ∃ part : String, .string part = r ∧ (part.length : Int) = l
          ∧ callString s "Contains" [r] = .ok (.bool true)
          ∧ ∃ before after,
            callString s "Substring" [o, x] = .ok (.string before)
            ∧ callString s "Substring" [z] = .ok (.string after)
            ∧ callStringType "Concat" [.string before, r, .string after]
              = .ok (.string s))
    ∧ (∀ {p : String} {o m k : Value}, o.IsInteger 0 →
      m.IsInteger p.length → k.IsInteger (s.length - p.length) →
      Tells (callString s "StartsWith" [.string p]) (p.length ≤ s.length
        ∧ callString s "Substring" [o, m] = .ok (.string p))
      ∧ Tells (callString s "EndsWith" [.string p]) (p.length ≤ s.length
        ∧ callString s "Substring" [k] = .ok (.string p))
      ∧ Tells (callString s "Contains" [.string p])
        (∃ j, callString s "Substring" [.long j, m] = .ok (.string p)))
    ∧ ∀ p, Tells (callString s "StartsWith" [.string p]) (utf8 p <+: utf8 s)
      ∧ Tells (callString s "EndsWith" [.string p]) (utf8 p <:+ utf8 s)
      ∧ Tells (callString s "Contains" [.string p]) (utf8 p <:+: utf8 s) := by
  refine ⟨?_, ?_, ?_⟩
  · intro i l o x y z ho hx hy hz
    refine ⟨exists_callString_substring hx hy, fun r hr => ?_⟩
    obtain ⟨part, hpart, rfl⟩ := (callString_substring_eq_ok hx hy).mp hr
    obtain ⟨-, -, -, -, hlength⟩ := substring?_eq_some_iff.mp hpart
    exact ⟨part, rfl, hlength, callString_concat_parts hx hz ho hpart⟩
  · intro p o m k ho hm hk
    have hrest : (s.length : Int) - (s.length - p.length) = p.length := by
      omega
    rw [callString_substring_eq_string ho hm, substring?_zero_iff,
      callString_substringFrom_eq_string hk, hrest, substring?_last_iff]
    refine ⟨tells_startsWith.congr ?_, tells_endsWith.congr ?_,
      tells_contains.congr (isInfix_iff_callString_substring hm hk)⟩
    · exact ⟨fun h => ⟨h.length_le, h⟩, And.right⟩
    · exact ⟨fun h => ⟨h.length_le, h⟩, And.right⟩
  · intro p
    rw [utf8_eq_encoded, utf8_eq_encoded, encoded_isPrefix_iff,
      encoded_isSuffix_iff, encoded_isInfix_iff]
    exact ⟨tells_startsWith, tells_endsWith, tells_contains⟩

/-- Characters of one to four bytes. The part of three of them behind the first
one is found in the text, the two at its end are its end and are found too, and
nothing is cut out beyond it. -/
theorem callString_substring_agrees_multibyte :
    let s := "aé€😀b"
    (∃ r, callString s "Substring" [.int 1, .long 3] = .ok r
      ∧ callString s "Contains" [r] = .ok (.bool true))
    ∧ callString s "EndsWith" [.string "😀b"] = .ok (.bool true)
    ∧ callString s "Contains" [.string "😀b"] = .ok (.bool true)
    ∧ ¬ ∃ r, callString s "Substring" [.int 4, .int 2] = .ok r := by
  intro s
  obtain ⟨hparts, htells, -⟩ := callString_substring_agrees s
  have hzero : (Value.char '\x00').IsInteger 0 := ⟨0, rfl, rfl⟩
  obtain ⟨hwithin, hpart⟩ := hparts (i := 1) (l := 3) (x := .int 1)
    (y := .long 3) (z := .int 4) hzero ⟨1, rfl, rfl⟩ ⟨3, rfl, rfl⟩
    ⟨4, rfl, rfl⟩
  obtain ⟨hbeyond, -⟩ := hparts (i := 4) (l := 2) (x := .int 4) (y := .int 2)
    (z := .long 6) hzero ⟨4, rfl, rfl⟩ ⟨2, rfl, rfl⟩ ⟨6, rfl, rfl⟩
  obtain ⟨-, hends, hcontains⟩ := htells (p := "😀b") (m := .long 2)
    (k := .int 3) hzero ⟨2, rfl, by decide⟩ ⟨3, rfl, by decide⟩
  obtain ⟨r, hr⟩ := hwithin.mpr (by decide)
  obtain ⟨_, -, -, hoccurs, -⟩ := hpart r hr
  refine ⟨⟨r, hr, hoccurs⟩, hends.eq_true ⟨by decide, ?_⟩,
    hcontains.eq_true ⟨3, ?_⟩, mt hbeyond.mp (by decide)⟩
  · exact (callString_substringFrom_eq_string ⟨3, rfl, rfl⟩).mpr (by decide)
  · exact (callString_substring_eq_string ⟨3, rfl, rfl⟩ ⟨2, rfl, rfl⟩).mpr
      (by decide)

end Host

end FilterCriteria
