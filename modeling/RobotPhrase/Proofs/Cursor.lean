import RobotPhrase.Suggestion

/-!
# The text before a cursor

A cursor is an offset into the bytes of a text, and it may point into a character.  The way back to where the character
starts has only the bytes to go by, and nothing in it forbids a step below offset 0.  No such step is taken: a text that
is not empty begins with the first byte of a character, and no other byte of a character can be taken for a first one.
So the way back stops at the offsets between characters and nowhere else (`isBoundary_utf8_iff`).  It ends at the last of
them, which is the end of the longest beginning of the text that fits before the cursor (`lastBoundary?_utf8`).
-/

namespace RobotPhrase

namespace Text

/-! ### Offsets between characters -/

/-- The byte offset of a character of a text, or of its end. -/
def IsCharOffset (cs : List Char) (n : Nat) : Prop := ∃ front, front <+: cs ∧ byteSize front = n

theorem isCharOffset_cons_iff {c : Char} {cs : List Char} {n : Nat} :
    IsCharOffset (c :: cs) n ↔ n = 0 ∨ c.utf8Size ≤ n ∧ IsCharOffset cs (n - c.utf8Size) := by
  constructor
  · rintro ⟨front, hfront, rfl⟩
    cases front with
    | nil => exact .inl rfl
    | cons d front =>
      obtain ⟨rfl, hrest⟩ := List.cons_prefix_cons.1 hfront
      rw [byteSize]
      exact .inr ⟨by omega, front, hrest, by omega⟩
  · rintro (rfl | ⟨hle, front, hfront, hsize⟩)
    · exact ⟨[], List.nil_prefix, rfl⟩
    · exact ⟨c :: front, List.cons_prefix_cons.2 ⟨rfl, hfront⟩, by rw [byteSize]; omega⟩

theorem utf8_cons (c : Char) (cs : List Char) : utf8 (c :: cs) = String.utf8EncodeChar c ++ utf8 cs := List.flatMap_cons

theorem utf8_append (cs ds : List Char) : utf8 (cs ++ ds) = utf8 cs ++ utf8 ds := List.flatMap_append

theorem length_utf8 (cs : List Char) : (utf8 cs).length = byteSize cs := by
  induction cs with
  | nil => rfl
  | cons c cs ih => rw [utf8_cons, List.length_append, String.length_utf8EncodeChar, ih, byteSize]

theorem utf8ByteSize_eq (s : String) : s.utf8ByteSize = byteSize s.toList := by
  rw [← length_utf8, utf8, ← List.size_toByteArray, ← List.utf8Encode, String.utf8Encode_toList]
  rfl

theorem take_utf8 {front cs : List Char} (h : front <+: cs) : (utf8 cs).take (byteSize front) = utf8 front := by
  obtain ⟨rest, rfl⟩ := h
  rw [utf8_append, ← length_utf8, List.take_left]

private theorem isBoundary_append_left {xs : List UInt8} {n : Nat} (h : n < xs.length) (ys : List UInt8) :
    isBoundary (xs ++ ys) n = true ↔ xs[n].IsUTF8FirstByte := by
  unfold isBoundary
  rw [List.getElem?_append_left h, List.getElem?_eq_getElem h]
  exact decide_eq_true_iff

private theorem isBoundary_append_right {xs : List UInt8} {n : Nat} (h : xs.length ≤ n) (ys : List UInt8) :
    isBoundary (xs ++ ys) n = isBoundary ys (n - xs.length) := by
  have hend : (n == (xs ++ ys).length) = (n - xs.length == ys.length) := by
    rw [Bool.eq_iff_iff, beq_iff_eq, beq_iff_eq, List.length_append]
    omega
  unfold isBoundary
  rw [List.getElem?_append_right h, hend]

/-- In the bytes of a text a character seems to start exactly where one does. -/
theorem isBoundary_utf8_iff {cs : List Char} {n : Nat} : isBoundary (utf8 cs) n = true ↔ IsCharOffset cs n := by
  induction cs generalizing n with
  | nil =>
    have hnil : IsCharOffset [] n ↔ n = 0 := by
      simp [IsCharOffset, byteSize, eq_comm]
    rw [hnil]
    simp [utf8, isBoundary]
  | cons c cs ih =>
    have hsize : (String.utf8EncodeChar c).length = c.utf8Size := String.length_utf8EncodeChar c
    rw [utf8_cons, isCharOffset_cons_iff]
    by_cases h : n < c.utf8Size
    · -- of the bytes of `c` only the first one is that of a character
      rw [isBoundary_append_left (hsize ▸ h), UInt8.isUTF8FirstByte_getElem_utf8EncodeChar]
      omega
    · have hpos : 0 < c.utf8Size := c.utf8Size_pos
      rw [isBoundary_append_right (by omega), hsize, ih]
      exact ⟨fun hrest => .inr ⟨by omega, hrest⟩, fun hn => (hn.resolve_left (by omega)).2⟩

/-! ### The way back to a boundary -/

/-- The way back passes offsets that are no boundaries, and so it ends at the last boundary or goes on below offset 0. -/
theorem lastBoundary?_eq_some_iff {bytes : List UInt8} {n m : Nat} :
    lastBoundary? bytes n = some m ↔
      isBoundary bytes m = true ∧ m ≤ n ∧ ∀ k, isBoundary bytes k = true → k ≤ n → k ≤ m := by
  -- at a boundary the way back is over
  have hstop {n : Nat} (h : isBoundary bytes n = true) :
      some n = some m ↔ isBoundary bytes m = true ∧ m ≤ n ∧ ∀ k, isBoundary bytes k = true → k ≤ n → k ≤ m := by
    rw [Option.some.injEq]
    constructor
    · rintro rfl
      exact ⟨h, Nat.le_refl n, fun k _ hk => hk⟩
    · rintro ⟨-, hle, hlast⟩
      exact Nat.le_antisymm (hlast n h (Nat.le_refl n)) hle
  induction n with
  | zero =>
    rw [lastBoundary?]
    split
    · rename_i h
      exact hstop h
    · rename_i h
      refine iff_of_false (by simp) ?_
      rintro ⟨hm, hle, -⟩
      obtain rfl := Nat.le_zero.1 hle
      exact h hm
  | succ n ih =>
    rw [lastBoundary?]
    split
    · rename_i h
      exact hstop h
    · rename_i h
      have hpassed {k : Nat} (hk : isBoundary bytes k = true) : k ≤ n ↔ k ≤ n + 1 := by
        have hne : k ≠ n + 1 := fun he => h (he ▸ hk)
        omega
      refine ih.trans ⟨?_, ?_⟩
      · rintro ⟨hm, hle, hlast⟩
        exact ⟨hm, (hpassed hm).1 hle, fun k hk hkn => hlast k hk ((hpassed hk).2 hkn)⟩
      · rintro ⟨hm, hle, hlast⟩
        exact ⟨hm, (hpassed hm).2 hle, fun k hk hkn => hlast k hk ((hpassed hk).1 hkn)⟩

/-! ### The longest beginning that fits -/

/-- The longest beginning of a text of at most `n` bytes. -/
def takeBytes (n : Nat) : List Char → List Char
  | [] => []
  | c :: cs => if c.utf8Size ≤ n then c :: takeBytes (n - c.utf8Size) cs else []

theorem byteSize_takeBytes_le (n : Nat) (cs : List Char) : byteSize (takeBytes n cs) ≤ n := by
  induction cs generalizing n with
  | nil => simp [takeBytes, byteSize]
  | cons c cs ih =>
    unfold takeBytes
    split
    · have := ih (n - c.utf8Size)
      rw [byteSize]
      omega
    · exact Nat.zero_le n

theorem takeBytes_isPrefix (n : Nat) (cs : List Char) : takeBytes n cs <+: cs := by
  induction cs generalizing n with
  | nil => exact List.nil_prefix
  | cons c cs ih =>
    unfold takeBytes
    split
    · exact List.cons_prefix_cons.2 ⟨rfl, ih _⟩
    · exact List.nil_prefix

theorem byteSize_le_of_isPrefix {front cs : List Char} (h : front <+: cs) : byteSize front ≤ byteSize cs := by
  obtain ⟨rest, rfl⟩ := h
  rw [byteSize_append]
  omega

theorem byteSize_le_takeBytes {n : Nat} {front cs : List Char} (h : front <+: cs) (hn : byteSize front ≤ n) :
    byteSize front ≤ byteSize (takeBytes n cs) := by
  induction cs generalizing n front with
  | nil =>
    rw [List.prefix_nil.1 h]
    exact Nat.zero_le _
  | cons c cs ih =>
    cases front with
    | nil => exact Nat.zero_le _
    | cons d front =>
      obtain ⟨rfl, hrest⟩ := List.cons_prefix_cons.1 h
      rw [byteSize] at hn
      have := ih hrest (show byteSize front ≤ n - d.utf8Size by omega)
      rw [takeBytes, if_pos (by omega), byteSize, byteSize]
      omega

theorem takeBytes_append_of_le {n : Nat} {cs : List Char} (h : byteSize cs ≤ n) (ds : List Char) :
    takeBytes n (cs ++ ds) = cs ++ takeBytes (n - byteSize cs) ds := by
  induction cs generalizing n with
  | nil => rfl
  | cons c cs ih =>
    rw [byteSize] at h ⊢
    rw [List.cons_append, takeBytes, if_pos (by omega), ih (by omega), Nat.sub_sub, List.cons_append]

theorem takeBytes_append_of_ge {n : Nat} {cs : List Char} (h : n ≤ byteSize cs) (ds : List Char) :
    takeBytes n (cs ++ ds) = takeBytes n cs := by
  induction cs generalizing n with
  | nil =>
    obtain rfl : n = 0 := Nat.le_zero.1 h
    cases ds with
    | nil => rfl
    | cons d ds => exact if_neg (Nat.not_le.2 d.utf8Size_pos)
  | cons c cs ih =>
    rw [byteSize] at h
    rw [List.cons_append, takeBytes, takeBytes]
    split
    · rw [ih (by omega)]
    · rfl

theorem takeBytes_eq_self {n : Nat} {cs : List Char} (h : byteSize cs ≤ n) : takeBytes n cs = cs := by
  have hnil := takeBytes_append_of_le h []
  rwa [List.append_nil, takeBytes, List.append_nil] at hnil

/-- The way back from an offset in a text, or from its end, leads to the end of what fits before the offset. -/
theorem lastBoundary?_utf8 (n : Nat) (cs : List Char) :
    lastBoundary? (utf8 cs) (min n (byteSize cs)) = some (byteSize (takeBytes n cs)) := by
  have hfront := takeBytes_isPrefix n cs
  refine lastBoundary?_eq_some_iff.2 ⟨isBoundary_utf8_iff.2 ⟨_, hfront, rfl⟩, ?_, ?_⟩
  · exact Nat.le_min.2 ⟨byteSize_takeBytes_le n cs, byteSize_le_of_isPrefix hfront⟩
  · intro k hk hle
    obtain ⟨front, hbegins, rfl⟩ := isBoundary_utf8_iff.1 hk
    exact byteSize_le_takeBytes hbegins (Nat.le_min.1 hle).1

end Text

open Text

theorem textBefore?_eq (text : String) (cursor : Nat) :
    textBefore? text cursor = some (takeBytes cursor (lower text.toList)) := by
  unfold textBefore?
  simp only [lastBoundary?_utf8, Option.bind_some]
  exact takeBytes?_eq_some_iff.2 ⟨takeBytes_isPrefix _ _, rfl⟩

/-- The way back from a cursor ends, without a step below offset 0, at the last offset between characters of the text
in lowercase that is neither behind the cursor nor behind the text.  What stands before it is a text again, of the
same bytes, and a beginning of the text in lowercase. -/
theorem textBefore?_ends_at_lastBoundary (text : String) (cursor : Nat) :
    ∃ stop before,
      lastBoundary? (utf8 (lower text.toList)) (min cursor (byteSize (lower text.toList))) = some stop ∧
      IsCharOffset (lower text.toList) stop ∧ stop ≤ min cursor (byteSize (lower text.toList)) ∧
      (∀ n, IsCharOffset (lower text.toList) n → n ≤ min cursor (byteSize (lower text.toList)) → n ≤ stop) ∧
      textBefore? text cursor = some before ∧ before <+: lower text.toList ∧
      utf8 before = (utf8 (lower text.toList)).take stop := by
  have hstop := lastBoundary?_utf8 cursor (lower text.toList)
  obtain ⟨hboundary, hle, hlast⟩ := lastBoundary?_eq_some_iff.1 hstop
  have hfront := takeBytes_isPrefix cursor (lower text.toList)
  refine ⟨_, _, hstop, isBoundary_utf8_iff.1 hboundary, hle, ?_, textBefore?_eq text cursor, hfront,
    (take_utf8 hfront).symm⟩
  intro n hn hbound
  exact hlast n (isBoundary_utf8_iff.2 hn) hbound

end RobotPhrase
