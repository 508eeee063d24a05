/-!
# Byte offsets

Positions in a text may be given as offsets into its UTF-8 form.  `dropBytes?` and `takeBytes?` answer only at an offset
between two characters; `lastBoundary?` goes back to such an offset, with nothing but the bytes to go by.
-/

namespace RobotPhrase.Text

/-- The number of bytes of a text in UTF-8. -/
def byteSize : List Char → Nat
  | [] => 0
  | c :: cs => c.utf8Size + byteSize cs

/-- The text from byte offset `n` on, if a character starts or the text ends there. -/
def dropBytes? (n : Nat) (cs : List Char) : Option (List Char) :=
  match n, cs with
  | 0, cs => some cs
  | _ + 1, [] => none
  | n + 1, c :: cs => if c.utf8Size ≤ n + 1 then dropBytes? (n + 1 - c.utf8Size) cs else none

/-- The text up to byte offset `n`, if a character starts or the text ends there. -/
def takeBytes? (n : Nat) (cs : List Char) : Option (List Char) :=
  match n, cs with
  | 0, _ => some []
  | _ + 1, [] => none
  | n + 1, c :: cs => if c.utf8Size ≤ n + 1 then (takeBytes? (n + 1 - c.utf8Size) cs).map (c :: ·) else none

/-- The bytes of a text in UTF-8. -/
def utf8 (cs : List Char) : List UInt8 := cs.flatMap String.utf8EncodeChar

/-- Whether the byte at offset `n` is the first one of a character, or `n` is the offset of the end. -/
def isBoundary (bytes : List UInt8) (n : Nat) : Bool :=
  match bytes[n]? with
  | some b => decide b.IsUTF8FirstByte
  | none => n == bytes.length

/-- The last boundary up to offset `n`, looked for by going back byte by byte.  There is none if the way back goes on
below the first byte. -/
def lastBoundary? (bytes : List UInt8) : Nat → Option Nat
  | 0 => if isBoundary bytes 0 then some 0 else none
  | n + 1 => if isBoundary bytes (n + 1) then some (n + 1) else lastBoundary? bytes n

theorem byteSize_append (cs ds : List Char) : byteSize (cs ++ ds) = byteSize cs + byteSize ds := by
  induction cs with
  | nil => simp [byteSize]
  | cons c cs ih =>
    simp only [List.cons_append, byteSize, ih]
    omega

theorem dropBytes?_append (cs ds : List Char) : dropBytes? (byteSize cs) (cs ++ ds) = some ds := by
  induction cs with
  | nil => simp [byteSize, dropBytes?]
  | cons c cs ih =>
    have hpos : 0 < c.utf8Size := c.utf8Size_pos
    obtain ⟨n, hn⟩ : ∃ n, c.utf8Size + byteSize cs = n + 1 := ⟨c.utf8Size + byteSize cs - 1, by omega⟩
    have hrest : n + 1 - c.utf8Size = byteSize cs := by omega
    rw [List.cons_append, byteSize, hn, dropBytes?, if_pos (by omega), hrest, ih]

theorem dropBytes?_eq_some_iff {n : Nat} {cs rest : List Char} :
    dropBytes? n cs = some rest ↔ ∃ front, cs = front ++ rest ∧ byteSize front = n := by
  constructor
  · intro h
    fun_induction dropBytes? n cs with
    | case1 cs =>
      obtain rfl := Option.some.inj h
      exact ⟨[], rfl, rfl⟩
    | case2 => simp at h
    | case3 n c cs hle ih =>
      obtain ⟨front, rfl, hsize⟩ := ih h
      exact ⟨c :: front, rfl, by rw [byteSize]; omega⟩
    | case4 => simp at h
  · rintro ⟨front, rfl, rfl⟩
    exact dropBytes?_append front rest

theorem takeBytes?_eq_some_iff {n : Nat} {cs front : List Char} :
    takeBytes? n cs = some front ↔ front <+: cs ∧ byteSize front = n := by
  constructor
  · intro h
    fun_induction takeBytes? n cs generalizing front with
    | case1 =>
      obtain rfl := Option.some.inj h
      exact ⟨List.nil_prefix, rfl⟩
    | case2 => simp at h
    | case3 n c cs hle ih =>
      obtain ⟨front, hfront, rfl⟩ := Option.map_eq_some_iff.1 h
      obtain ⟨hbegins, hsize⟩ := ih hfront
      exact ⟨List.cons_prefix_cons.2 ⟨rfl, hbegins⟩, by rw [byteSize]; omega⟩
    | case4 => simp at h
  · rintro ⟨⟨rest, rfl⟩, rfl⟩
    induction front with
    | nil => simp [byteSize, takeBytes?]
    | cons c front ih =>
      have hpos : 0 < c.utf8Size := c.utf8Size_pos
      obtain ⟨n, hn⟩ : ∃ n, c.utf8Size + byteSize front = n + 1 := ⟨c.utf8Size + byteSize front - 1, by omega⟩
      have hrest : n + 1 - c.utf8Size = byteSize front := by omega
      rw [List.cons_append, byteSize, hn, takeBytes?, if_pos (by omega), hrest, ih, Option.map_some]

end RobotPhrase.Text
