/-!
# Searching a text for a phrase

A phrase is found at its leftmost place.  `cut` gives what stands before and after it, `without` removes every
occurrence from left to right.
-/

namespace RobotPhrase.Text

/-- What follows `phrase` in a text that starts with it. -/
def after? (phrase text : List Char) : Option (List Char) :=
  match phrase, text with
  | [], rest => some rest
  | _ :: _, [] => none
  | p :: ps, c :: cs => if p = c then after? ps cs else none

theorem after?_eq_some_iff {phrase text rest : List Char} : after? phrase text = some rest ↔ text = phrase ++ rest := by
  induction phrase generalizing text with
  | nil => simp [after?, eq_comm]
  | cons p ps ih =>
    cases text with
    | nil => simp [after?]
    | cons c cs =>
      simp only [after?, List.cons_append, List.cons.injEq]
      split
      · rename_i h; simp [ih, h]
      · rename_i h; simp [Ne.symm h]

/-- The texts before and after the leftmost occurrence of `phrase`. -/
def cut (phrase : List Char) : List Char → Option (List Char × List Char)
  | [] => if phrase.isEmpty then some ([], []) else none
  | c :: cs =>
    match after? phrase (c :: cs) with
    | some rest => some ([], rest)
    | none => (cut phrase cs).map fun (before, rest) => (c :: before, rest)

/-- Nothing is lost by a cut. -/
theorem eq_of_cut {phrase text before rest : List Char} (h : cut phrase text = some (before, rest)) :
    text = before ++ phrase ++ rest := by
  induction text generalizing before rest with
  | nil =>
    unfold cut at h
    split at h
    · rename_i hp
      obtain ⟨rfl, rfl⟩ := by simpa using h
      simpa using hp
    · simp at h
  | cons c cs ih =>
    unfold cut at h
    split at h
    · rename_i r hr
      obtain ⟨rfl, rfl⟩ := by simpa using h
      simpa using after?_eq_some_iff.1 hr
    · obtain ⟨⟨b, r⟩, hb, he⟩ := Option.map_eq_some_iff.1 h
      obtain ⟨rfl, rfl⟩ := by simpa using he
      simp [ih hb]

/-- Whether `phrase` occurs in a text. -/
def occurs (phrase text : List Char) : Bool := (cut phrase text).isSome

/-- A text without the occurrences of `phrase`, taken from left to right without overlap.  `skip` characters of the
text still belong to the occurrence found last. -/
def without (phrase : List Char) (skip : Nat) : List Char → List Char
  | [] => []
  | c :: cs =>
    match skip with
    | n + 1 => without phrase n cs
    | 0 =>
      if (after? phrase (c :: cs)).isSome then without phrase (phrase.length - 1) cs
      else c :: without phrase 0 cs

/-- Whether `phrase` occurs in a string. -/
def mentions (phrase text : String) : Bool := occurs phrase.toList text.toList

/-- Whether `text` starts with `phrase`. -/
def startsWith (phrase text : List Char) : Bool := (after? phrase text).isSome

end RobotPhrase.Text
