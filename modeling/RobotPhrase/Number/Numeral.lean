/-!
# Numerals

A numeral is an optional minus sign, digits, and optionally a point with more digits.  `read?` takes the longest
numeral at the front of a text, and `text` writes a numeral back: reading loses nothing (`eq_of_read?`).
`scan` lists the numerals of a text from left to right.
-/

namespace RobotPhrase

/-- A number as it is written.  An empty `fraction` means that there is no point. -/
structure Numeral where
  negative : Bool
  whole : List Char
  fraction : List Char
  deriving DecidableEq, Repr

namespace Numeral

def text (n : Numeral) : List Char :=
  (if n.negative then ['-'] else []) ++ n.whole ++ (if n.fraction.isEmpty then [] else '.' :: n.fraction)

/-- The number that a row of digits stands for. -/
def digitsValue (ds : List Char) : Nat := ds.foldl (fun v d => 10 * v + (d.toNat - '0'.toNat)) 0

/-- The double nearest to the number. -/
def value (n : Numeral) : Float :=
  let size := Float.ofScientific (digitsValue (n.whole ++ n.fraction)) true n.fraction.length
  if n.negative then -size else size

/-- The longest numeral without a sign at the front of a text, and the rest. -/
def readUnsigned? (cs : List Char) : Option (Numeral × List Char) :=
  let whole := cs.takeWhile Char.isDigit
  let rest := cs.dropWhile Char.isDigit
  if whole.isEmpty then none
  else match rest with
    | '.' :: more =>
      let fraction := more.takeWhile Char.isDigit
      if fraction.isEmpty then some (⟨false, whole, []⟩, rest)
      else some (⟨false, whole, fraction⟩, more.dropWhile Char.isDigit)
    | _ => some (⟨false, whole, []⟩, rest)

/-- The longest numeral at the front of a text, and the rest. -/
def read? (cs : List Char) : Option (Numeral × List Char) :=
  match cs with
  | '-' :: rest => (readUnsigned? rest).map fun (n, rest) => (⟨true, n.whole, n.fraction⟩, rest)
  | _ => readUnsigned? cs

theorem eq_of_readUnsigned? {cs rest : List Char} {n : Numeral} (h : readUnsigned? cs = some (n, rest)) :
    n.negative = false ∧ n.whole ≠ [] ∧ cs = n.text ++ rest := by
  have hcs : cs.takeWhile Char.isDigit ++ cs.dropWhile Char.isDigit = cs := List.takeWhile_append_dropWhile
  simp only [readUnsigned?] at h
  split at h
  · simp at h
  rename_i hw
  have hw' : cs.takeWhile Char.isDigit ≠ [] := fun he => hw (by rw [he]; rfl)
  split at h
  · rename_i more hr
    have hm : more.takeWhile Char.isDigit ++ more.dropWhile Char.isDigit = more := List.takeWhile_append_dropWhile
    split at h
    · obtain ⟨rfl, rfl⟩ := by simpa using h
      exact ⟨rfl, hw', by simp [text]⟩
    · rename_i hf
      obtain ⟨rfl, rfl⟩ := by simpa using h
      refine ⟨rfl, hw', ?_⟩
      have hf' : (more.takeWhile Char.isDigit).isEmpty = false := by simpa using hf
      simp only [text, hf']
      conv => lhs; rw [← hcs, hr, ← hm]
      simp
  · obtain ⟨rfl, rfl⟩ := by simpa using h
    exact ⟨rfl, hw', by simp [text]⟩

/-- A numeral and what is left make up the text that was read, and a numeral has a digit. -/
theorem eq_of_read? {cs rest : List Char} {n : Numeral} (h : read? cs = some (n, rest)) :
    n.whole ≠ [] ∧ cs = n.text ++ rest := by
  unfold read? at h
  split at h
  · obtain ⟨⟨m, r⟩, hm, he⟩ := Option.map_eq_some_iff.1 h
    obtain ⟨rfl, rfl⟩ := by simpa using he
    obtain ⟨hneg, hw, hcs⟩ := eq_of_readUnsigned? hm
    refine ⟨hw, ?_⟩
    simp only [hcs, text, hneg]
    simp
  · exact (eq_of_readUnsigned? h).2

theorem length_lt_of_read? {cs rest : List Char} {n : Numeral} (h : read? cs = some (n, rest)) :
    rest.length < cs.length := by
  obtain ⟨hw, rfl⟩ := eq_of_read? h
  have := List.length_pos_iff.2 hw
  simp only [text, List.length_append]
  omega

/-- The numerals of a text from left to right, each as long as possible. -/
def scan (cs : List Char) : List Numeral :=
  match cs with
  | [] => []
  | c :: rest =>
    match _hn : read? (c :: rest) with
    | some (n, later) => n :: scan later
    | none => scan rest
termination_by cs.length
decreasing_by
  · exact length_lt_of_read? (by assumption)
  · simp

end Numeral

end RobotPhrase
