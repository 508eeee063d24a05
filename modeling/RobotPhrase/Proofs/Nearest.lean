import RobotPhrase.Proofs.EditDistance

/-!
# The nearest of a list of words

`closest?` finds the first of the nearest candidates (`closest?_eq_some_iff`), and nothing exactly if every candidate is
too far away (`closest?_eq_none_iff`).  The first one is told by what stands before it in the list (`isNearest_iff`).

Within one edit there is little to choose: two texts are equal or one edit apart, which shows by going through them once
(`distance_le_one_iff`), and if no candidate is spelled like the word, the nearest one is the first that is near enough
(`closest?_one`).
-/

namespace RobotPhrase.Text

/-! ### Distances -/

private theorem Edits.eq_of_zero {a b : List Char} (h : Edits a b 0) : a = b := by
  cases h
  rfl

theorem distance_eq_zero_iff {a b : String} : distance a b = 0 ↔ lower a.toList = lower b.toList := by
  constructor
  · intro h
    have hedits := edits_distance a b
    rw [h] at hedits
    exact hedits.eq_of_zero
  · intro h
    have hedits : Edits (lower a.toList) (lower b.toList) 0 := h ▸ Edits.refl _
    exact Nat.le_zero.1 (distance_le_of_edits hedits)

@[simp]
theorem distance_self (a : String) : distance a a = 0 := distance_eq_zero_iff.2 rfl

/-! ### The nearest candidate -/

/-- Of the candidates that are nearest to the word, `c` is the first, and it is within the limit. -/
structure IsNearest (word : String) (limit : Nat) (candidates : List String) (c : String) : Prop where
  within : distance word c ≤ limit
  first : ∃ before after, candidates = before ++ c :: after ∧
    (∀ x ∈ before, distance word c < distance word x) ∧ ∀ x ∈ after, distance word c ≤ distance word x

section

variable {word : String} {limit : Nat} {candidates : List String} {c : String}

theorem IsNearest.mem (h : IsNearest word limit candidates c) : c ∈ candidates := by
  obtain ⟨before, after, rfl, -⟩ := h.first
  simp

theorem IsNearest.le (h : IsNearest word limit candidates c) {x : String} (hx : x ∈ candidates) :
    distance word c ≤ distance word x := by
  obtain ⟨before, after, rfl, hbefore, hafter⟩ := h.first
  rcases List.mem_append.1 hx with hx | hx
  · exact Nat.le_of_lt (hbefore x hx)
  · rcases List.mem_cons.1 hx with rfl | hx
    · exact Nat.le_refl _
    · exact hafter x hx

theorem isNearest_cons_iff {x : String} :
    IsNearest word limit (x :: candidates) c ↔
      (c = x ∧ distance word x ≤ limit ∧ ∀ y ∈ candidates, distance word x ≤ distance word y) ∨
      (IsNearest word limit candidates c ∧ distance word c < distance word x) := by
  constructor
  · rintro ⟨hwithin, before, after, hsplit, hbefore, hafter⟩
    cases before with
    | nil =>
      obtain ⟨rfl, rfl⟩ := List.cons.inj hsplit
      exact .inl ⟨rfl, hwithin, hafter⟩
    | cons y before =>
      obtain ⟨rfl, rfl⟩ := List.cons.inj hsplit
      have hrest : ∀ z ∈ before, distance word c < distance word z := fun z hz => hbefore z (by simp [hz])
      exact .inr ⟨⟨hwithin, before, after, rfl, hrest, hafter⟩, hbefore x (by simp)⟩
  · rintro (⟨rfl, hwithin, hafter⟩ | ⟨⟨hwithin, before, after, rfl, hbefore, hafter⟩, hlt⟩)
    · exact ⟨hwithin, [], candidates, rfl, by simp, hafter⟩
    · refine ⟨hwithin, x :: before, after, rfl, ?_, hafter⟩
      intro y hy
      rcases List.mem_cons.1 hy with rfl | hy
      · exact hlt
      · exact hbefore y hy

theorem closest?_eq_none_iff : closest? word limit candidates = none ↔ ∀ c ∈ candidates, limit < distance word c := by
  induction candidates with
  | nil => simp [closest?]
  | cons x candidates ih =>
    rw [closest?, List.forall_mem_cons, ← ih]
    cases closest? word limit candidates with
    | none => simp
    | some found =>
      dsimp only
      split <;> simp

theorem closest?_eq_some_iff {d : Nat} :
    closest? word limit candidates = some (c, d) ↔ IsNearest word limit candidates c ∧ d = distance word c := by
  induction candidates generalizing c d with
  | nil =>
    constructor
    · intro h
      simp [closest?] at h
    · rintro ⟨h, -⟩
      simpa using h.mem
  | cons x candidates ih =>
    rw [closest?, isNearest_cons_iff]
    cases hrest : closest? word limit candidates with
    | none =>
      have hfar := closest?_eq_none_iff.1 hrest
      have hnone : ¬ IsNearest word limit candidates c := by
        intro h
        have hwithin := h.within
        have hc := hfar c h.mem
        omega
      simp only [hnone, false_and, or_false]
      constructor
      · intro h
        split at h
        · rename_i hwithin
          obtain ⟨rfl, rfl⟩ := by simpa using h
          refine ⟨⟨rfl, hwithin, fun y hy => ?_⟩, rfl⟩
          have hy' := hfar y hy
          omega
        · simp at h
      · rintro ⟨⟨rfl, hwithin, -⟩, rfl⟩
        simp [hwithin]
    | some found =>
      obtain ⟨other, e⟩ := found
      obtain ⟨hother, rfl⟩ := ih.1 hrest
      have hwithin := hother.within
      dsimp only
      split
      · -- the first candidate is as near as the best of the others
        rename_i hle
        constructor
        · intro h
          obtain ⟨rfl, rfl⟩ := by simpa using h
          exact ⟨.inl ⟨rfl, by omega, fun y hy => Nat.le_trans hle (hother.le hy)⟩, rfl⟩
        · rintro ⟨⟨rfl, -, -⟩ | ⟨hc, hlt⟩, rfl⟩
          · rfl
          · have hleast := hother.le hc.mem
            omega
      · rename_i hlt
        constructor
        · intro h
          obtain ⟨rfl, rfl⟩ := by simpa using h
          exact ⟨.inr ⟨hother, by omega⟩, rfl⟩
        · rintro ⟨⟨rfl, -, hleast⟩ | ⟨hc, -⟩, rfl⟩
          · exact absurd (hleast other hother.mem) hlt
          · rw [← hrest]
            exact ih.2 ⟨hc, rfl⟩

theorem isNearest_iff : IsNearest word limit candidates c ↔
    c ∈ candidates ∧ distance word c ≤ limit ∧ (∀ x ∈ candidates, distance word c ≤ distance word x) ∧
      ∀ x ∈ candidates.takeWhile (· != c), distance word c < distance word x := by
  have hfront {before : List String} (hbefore : c ∉ before) (after : List String) :
      (before ++ c :: after).takeWhile (· != c) = before := by
    have hall : ∀ x ∈ before, (x != c) = true := by
      intro x hx
      rw [bne_iff_ne]
      rintro rfl
      exact hbefore hx
    rw [List.takeWhile_append_of_pos hall, List.takeWhile_cons_of_neg (by simp), List.append_nil]
  constructor
  · intro h
    refine ⟨h.mem, h.within, fun x hx => h.le hx, ?_⟩
    obtain ⟨before, after, rfl, hbefore, -⟩ := h.first
    -- the candidates before this `c` are farther away, and so none of them is `c`
    have hc : c ∉ before := fun hmem => Nat.lt_irrefl _ (hbefore c hmem)
    rwa [hfront hc]
  · rintro ⟨hmem, hwithin, hleast, hfarther⟩
    obtain ⟨before, after, rfl, hc⟩ := List.eq_append_cons_of_mem hmem
    rw [hfront hc] at hfarther
    exact ⟨hwithin, before, after, rfl, hfarther, fun x hx => hleast x (by simp [hx])⟩

/-- There is no nearest candidate exactly if all are beyond the limit.  The one that is found is within the limit, none
is nearer, and those before its first occurrence are farther away. -/
theorem closest?_isFirst (word : String) (limit : Nat) (candidates : List String) :
    (closest? word limit candidates = none ↔ ∀ c ∈ candidates, limit < distance word c) ∧
    ∀ c d, closest? word limit candidates = some (c, d) ↔
      c ∈ candidates ∧ d = distance word c ∧ d ≤ limit ∧ (∀ x ∈ candidates, d ≤ distance word x) ∧
        ∀ x ∈ candidates.takeWhile (· != c), d < distance word x := by
  refine ⟨closest?_eq_none_iff, fun c d => ?_⟩
  rw [closest?_eq_some_iff, isNearest_iff]
  constructor
  · rintro ⟨⟨hmem, hwithin, hleast, hfarther⟩, rfl⟩
    exact ⟨hmem, rfl, hwithin, hleast, hfarther⟩
  · rintro ⟨hmem, rfl, hwithin, hleast, hfarther⟩
    exact ⟨⟨hmem, hwithin, hleast, hfarther⟩, rfl⟩

theorem IsNearest.unique (h : IsNearest word limit candidates c) {c' : String}
    (h' : IsNearest word limit candidates c') : c = c' := by
  have hfound := closest?_eq_some_iff.2 ⟨h, rfl⟩
  rw [closest?_eq_some_iff.2 ⟨h', rfl⟩] at hfound
  exact (Prod.mk.inj (Option.some.inj hfound)).1.symm

end

/-! ### Within one edit -/

/-- Whether two texts are at most one edit apart: behind the letters at their front that agree, one letter is left out
or stands for another. -/
def alike : List Char → List Char → Bool
  | c :: a, d :: b => if c = d then alike a b else a == b || a == d :: b || c :: a == b
  | a, b => a.tail == b.tail

private theorem alike_self (a : List Char) : alike a a = true := by
  induction a with
  | nil => rfl
  | cons c a ih => simpa [alike] using ih

private theorem alike_append (a : List Char) {b b' : List Char} (h : alike b b' = true) :
    alike (a ++ b) (a ++ b') = true := by
  induction a with
  | nil => exact h
  | cons c a ih => simpa [alike] using ih

private theorem alike_cons_right (c : Char) (a : List Char) : alike a (c :: a) = true := by
  induction a generalizing c with
  | nil => rfl
  | cons d a ih =>
    rw [alike]
    split
    · exact ih d
    · simp

private theorem alike_cons_left (c : Char) (a : List Char) : alike (c :: a) a = true := by
  induction a generalizing c with
  | nil => rfl
  | cons d a ih =>
    rw [alike]
    split
    · exact ih d
    · simp

private theorem Edit.alike {a b : List Char} (h : Edit a b) : alike a b = true := by
  cases h with
  | insertion a b c => exact alike_append a (alike_cons_right c b)
  | deletion a b c => exact alike_append a (alike_cons_left c b)
  | substitution a b c d =>
    refine alike_append a ?_
    rw [Text.alike]
    split
    · exact alike_self b
    · simp

private theorem eq_or_edit_of_alike {a b : List Char} (h : alike a b = true) : a = b ∨ Edit a b := by
  fun_induction Text.alike a b with
  | case1 a c b ih =>
    rcases ih h with rfl | hedit
    · exact .inl rfl
    · exact .inr (hedit.keep c)
  | case2 c a d b _ =>
    simp only [Bool.or_eq_true, beq_iff_eq] at h
    rcases h with (rfl | rfl) | rfl
    · exact .inr (Edit.substitution [] a c d)
    · exact .inr (Edit.deletion [] (d :: b) c)
    · exact .inr (Edit.insertion [] (c :: a) d)
  | case3 a b hnot =>
    -- one of the texts has no letters left, and so the other one has at most one
    cases a with
    | nil =>
      cases b with
      | nil => exact .inl rfl
      | cons d b =>
        obtain rfl : [] = b := by simpa using h
        exact .inr (Edit.insertion [] [] d)
    | cons c a =>
      cases b with
      | nil =>
        obtain rfl : a = [] := by simpa using h
        exact .inr (Edit.deletion [] [] c)
      | cons d b => exact absurd rfl (hnot c a d b rfl)

theorem alike_iff {a b : List Char} : alike a b = true ↔ a = b ∨ Edit a b := by
  constructor
  · exact eq_or_edit_of_alike
  · rintro (rfl | h)
    · exact alike_self a
    · exact h.alike

private theorem Edits.eq_or_edit {a b : List Char} {n : Nat} (h : Edits a b n) (hn : n ≤ 1) : a = b ∨ Edit a b := by
  cases h with
  | refl => exact .inl rfl
  | cons hedit hrest =>
    obtain rfl := Nat.le_zero.1 (Nat.le_of_succ_le_succ hn)
    obtain rfl := hrest.eq_of_zero
    exact .inr hedit

theorem distance_le_one_iff {a b : String} : distance a b ≤ 1 ↔ alike (lower a.toList) (lower b.toList) = true := by
  rw [alike_iff]
  constructor
  · exact (edits_distance a b).eq_or_edit
  · rintro (h | hedit)
    · exact Nat.le_trans (Nat.le_of_eq (distance_eq_zero_iff.2 h)) (Nat.zero_le 1)
    · exact distance_le_of_edits (.cons hedit (.refl _))

/-- If no candidate is spelled like the word, the nearest one within one edit is the first within one edit. -/
theorem closest?_one {word : String} {candidates : List String} (h : ∀ c ∈ candidates, distance word c ≠ 0) :
    closest? word 1 candidates = (candidates.find? fun c => distance word c ≤ 1).map fun c => (c, 1) := by
  induction candidates with
  | nil => rfl
  | cons c candidates ih =>
    have hc : distance word c ≠ 0 := h c (by simp)
    rw [closest?, ih fun x hx => h x (by simp [hx]), List.find?_cons]
    by_cases hnear : distance word c ≤ 1
    · have hone : distance word c = 1 := by omega
      cases candidates.find? fun c => distance word c ≤ 1 <;> simp [hone]
    · cases candidates.find? fun c => distance word c ≤ 1 <;> simp [hnear]

end RobotPhrase.Text
