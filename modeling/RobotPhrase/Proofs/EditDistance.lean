import RobotPhrase.Text.EditDistance

/-!
# Distances are least numbers of edits

`Edits a b n` says that `n` edits of one character, one after another, turn `a` into `b`.  The proof that the distance
is the least such `n` goes through `editCost`, the distance by recursion on both texts.

* An edit changes `editCost` by at most one (`Edit.editCost_le`), so no script is shorter; the recursion itself gives a
  script of that length (`edits_editCost`).
* The rows hold the values of `editCost`, texts read backwards: `nextRow_costs` is the step from the row of a text to
  the row of the text with one more character, `row_eq_costs` the whole run.
* A script can be read backwards (`Edits.symm`), so it does not matter which of the two texts has the rows
  (`editCost_comm`).
-/

namespace RobotPhrase.Text

/-! ### Scripts of edits -/

/-- One character is inserted, deleted or replaced. -/
inductive Edit : List Char → List Char → Prop
  | insertion (a b : List Char) (c : Char) : Edit (a ++ b) (a ++ c :: b)
  | deletion (a b : List Char) (c : Char) : Edit (a ++ c :: b) (a ++ b)
  | substitution (a b : List Char) (c d : Char) : Edit (a ++ c :: b) (a ++ d :: b)

/-- That many edits, one after another, turn the first text into the second. -/
inductive Edits : List Char → List Char → Nat → Prop
  | refl (a : List Char) : Edits a a 0
  | cons {a b c : List Char} {n : Nat} (h : Edit a b) (hs : Edits b c n) : Edits a c (n + 1)

theorem Edit.reverse {a b : List Char} (h : Edit a b) : Edit a.reverse b.reverse := by
  cases h with
  | insertion a b c => simpa using Edit.insertion b.reverse a.reverse c
  | deletion a b c => simpa using Edit.deletion b.reverse a.reverse c
  | substitution a b c d => simpa using Edit.substitution b.reverse a.reverse c d

theorem Edits.reverse {a b : List Char} {n : Nat} (h : Edits a b n) : Edits a.reverse b.reverse n := by
  induction h with
  | refl a => exact Edits.refl _
  | cons h _ ih => exact Edits.cons h.reverse ih

theorem Edit.symm {a b : List Char} (h : Edit a b) : Edit b a := by
  cases h with
  | insertion a b c => exact Edit.deletion a b c
  | deletion a b c => exact Edit.insertion a b c
  | substitution a b c d => exact Edit.substitution a b d c

theorem Edits.snoc {a b c : List Char} {n : Nat} (h : Edits a b n) (hlast : Edit b c) : Edits a c (n + 1) := by
  induction h with
  | refl a => exact Edits.cons hlast (Edits.refl _)
  | cons hedit _ ih => exact Edits.cons hedit (ih hlast)

theorem Edits.symm {a b : List Char} {n : Nat} (h : Edits a b n) : Edits b a n := by
  induction h with
  | refl a => exact Edits.refl a
  | cons hedit _ ih => exact ih.snoc hedit.symm

theorem Edit.keep {a b : List Char} (h : Edit a b) (c : Char) : Edit (c :: a) (c :: b) := by
  cases h with
  | insertion a b d => exact Edit.insertion (c :: a) b d
  | deletion a b d => exact Edit.deletion (c :: a) b d
  | substitution a b d e => exact Edit.substitution (c :: a) b d e

/-- The edits that a character in the place of another one costs. -/
def mismatch (c d : Char) : Nat := if c = d then 0 else 1

private theorem mismatch_self (c : Char) : mismatch c c = 0 := by
  simp [mismatch]

private theorem mismatch_triangle (c d e : Char) : mismatch c e ≤ mismatch c d + mismatch d e := by
  unfold mismatch
  by_cases hcd : c = d
  · subst hcd; simp
  · simp only [hcd, if_false]
    split <;> omega

namespace Edits

variable {a b : List Char} {n : Nat}

private theorem keep (h : Edits a b n) (c : Char) : Edits (c :: a) (c :: b) n := by
  induction h with
  | refl a => exact Edits.refl _
  | cons h _ ih => exact Edits.cons (h.keep c) ih

private theorem insert (h : Edits a b n) (d : Char) : Edits a (d :: b) (n + 1) :=
  Edits.cons (Edit.insertion [] a d) (h.keep d)

private theorem delete (h : Edits a b n) (c : Char) : Edits (c :: a) b (n + 1) :=
  Edits.cons (Edit.deletion [] a c) h

private theorem replace (h : Edits a b n) (c d : Char) : Edits (c :: a) (d :: b) (n + mismatch c d) := by
  by_cases hcd : c = d
  · subst hcd
    rw [mismatch_self]
    exact h.keep c
  · simp only [mismatch, hcd, if_false]
    exact Edits.cons (Edit.substitution [] a c d) (h.keep d)

end Edits

/-! ### The distance by recursion -/

/-- The distance of two texts, by what becomes of their first characters. -/
def editCost : List Char → List Char → Nat
  | [], b => b.length
  | c :: a, [] => (c :: a).length
  | c :: a, d :: b =>
    min (min (editCost a (d :: b) + 1) (editCost (c :: a) b + 1)) (editCost a b + mismatch c d)
termination_by a b => a.length + b.length

private theorem editCost_nil_left (b : List Char) : editCost [] b = b.length := by
  rw [editCost]

private theorem editCost_nil_right (a : List Char) : editCost a [] = a.length := by
  cases a <;> rw [editCost]

private theorem editCost_cons_cons (c d : Char) (a b : List Char) :
    editCost (c :: a) (d :: b) =
      min (min (editCost a (d :: b) + 1) (editCost (c :: a) b + 1)) (editCost a b + mismatch c d) := by
  rw [editCost]

private theorem editCost_self (a : List Char) : editCost a a = 0 := by
  induction a with
  | nil => exact editCost_nil_left []
  | cons c a ih =>
    rw [editCost_cons_cons, ih, mismatch_self]
    omega

private theorem editCost_cons_left_le (c : Char) (a b : List Char) : editCost (c :: a) b ≤ editCost a b + 1 := by
  cases b with
  | nil => simp [editCost_nil_right]
  | cons d b =>
    rw [editCost_cons_cons]
    omega

private theorem editCost_cons_right_le (d : Char) (a b : List Char) : editCost a (d :: b) ≤ editCost a b + 1 := by
  cases a with
  | nil => simp [editCost_nil_left]
  | cons c a =>
    rw [editCost_cons_cons]
    omega

private theorem editCost_le_cons_left (c : Char) (a b : List Char) : editCost a b ≤ editCost (c :: a) b + 1 := by
  induction b with
  | nil =>
    simp only [editCost_nil_right, List.length_cons]
    omega
  | cons d b ih =>
    have hright := editCost_cons_right_le d a b
    rw [editCost_cons_cons]
    omega

/-- Two texts whose rests are at distance at most one are at distance at most one themselves, if their first characters
do not add to it. -/
private theorem editCost_cons_le_cons {c d : Char} {a b : List Char}
    (h : ∀ e, editCost a e + mismatch c d ≤ editCost b e + 1) (e : List Char) :
    editCost (c :: a) e ≤ editCost (d :: b) e + 1 := by
  induction e with
  | nil =>
    have hlength := h []
    simp only [editCost_nil_right, List.length_cons] at hlength ⊢
    omega
  | cons x e ih =>
    have hlong := h (x :: e)
    have hshort := h e
    have htriangle := mismatch_triangle c d x
    rw [editCost_cons_cons, editCost_cons_cons]
    omega

private theorem editCost_append_le {a b : List Char} (h : ∀ e, editCost a e ≤ editCost b e + 1) (x e : List Char) :
    editCost (x ++ a) e ≤ editCost (x ++ b) e + 1 := by
  induction x generalizing e with
  | nil => exact h e
  | cons c x ih =>
    refine editCost_cons_le_cons (fun e => ?_) e
    rw [mismatch_self]
    exact ih e

/-- An edit changes the distance to any text by at most one. -/
theorem Edit.editCost_le {a b : List Char} (h : Edit a b) (e : List Char) : editCost a e ≤ editCost b e + 1 := by
  cases h with
  | insertion x a c => exact editCost_append_le (editCost_le_cons_left c a) x e
  | deletion x a c => exact editCost_append_le (editCost_cons_left_le c a) x e
  | substitution x a c d =>
    have hle : mismatch c d ≤ 1 := by
      unfold mismatch
      split <;> omega
    exact editCost_append_le (editCost_cons_le_cons fun e => by omega) x e

/-- No script is shorter. -/
theorem Edits.editCost_le {a b : List Char} {n : Nat} (h : Edits a b n) : editCost a b ≤ n := by
  induction h with
  | refl a => exact Nat.le_of_eq (editCost_self a)
  | @cons _ _ c _ h _ ih =>
    have hedit := h.editCost_le c
    omega

theorem edits_editCost (a b : List Char) : Edits a b (editCost a b) := by
  induction a generalizing b with
  | nil =>
    rw [editCost_nil_left]
    induction b with
    | nil => exact Edits.refl []
    | cons d b ih => exact ih.insert d
  | cons c a iha =>
    induction b with
    | nil =>
      have ha := iha []
      rw [editCost_nil_right] at ha ⊢
      exact ha.delete c
    | cons d b ihb =>
      -- the recursion takes the least of three values, and each of them has its script
      rw [editCost_cons_cons]
      rcases Nat.le_total (min (editCost a (d :: b) + 1) (editCost (c :: a) b + 1)) (editCost a b + mismatch c d)
        with hcorner | hcorner
      · rw [Nat.min_eq_left hcorner]
        rcases Nat.le_total (editCost a (d :: b) + 1) (editCost (c :: a) b + 1) with hup | hleft
        · rw [Nat.min_eq_left hup]
          exact (iha (d :: b)).delete c
        · rw [Nat.min_eq_right hleft]
          exact ihb.insert d
      · rw [Nat.min_eq_right hcorner]
        exact (iha b).replace c d

theorem editCost_comm (a b : List Char) : editCost a b = editCost b a :=
  Nat.le_antisymm (edits_editCost b a).symm.editCost_le (edits_editCost a b).symm.editCost_le

/-! ### The rows -/

/-- The distances from `x` to `before`, and to `before` with more and more characters of a text in front of it. -/
def costs (x : List Char) (before : List Char) : List Char → List Nat
  | [] => [editCost x before]
  | d :: b => editCost x before :: costs x (d :: before) b

private theorem costs_eq_cons (x before b : List Char) : ∃ rest, costs x before b = editCost x before :: rest := by
  cases b with
  | nil => exact ⟨[], rfl⟩
  | cons d b => exact ⟨costs x (d :: before) b, rfl⟩

private theorem costs_nil (before b : List Char) : costs [] before b = List.range' before.length (b.length + 1) := by
  induction b generalizing before with
  | nil => simp [costs, editCost_nil_left]
  | cons d b ih =>
    rw [costs, ih, editCost_nil_left, List.length_cons, List.length_cons, ← List.range'_succ]

private theorem getLastD_costs (x before b : List Char) (d : Nat) :
    (costs x before b).getLastD d = editCost x (b.reverse ++ before) := by
  induction b generalizing before d with
  | nil => rfl
  | cons e b ih =>
    rw [costs, List.getLastD_cons, ih]
    simp

private theorem rowFrom_costs (c : Char) (x before b : List Char) :
    editCost (c :: x) before :: rowFrom c (editCost (c :: x) before) b (costs x before b) = costs (c :: x) before b := by
  induction b generalizing before with
  | nil => rfl
  | cons d b ih =>
    obtain ⟨rest, hrest⟩ := costs_eq_cons x (d :: before) b
    have hhere : min (min (editCost x (d :: before) + 1) (editCost (c :: x) before + 1))
        (editCost x before + if c = d then 0 else 1) = editCost (c :: x) (d :: before) := by
      rw [editCost_cons_cons, mismatch]
    rw [costs, hrest, rowFrom, hhere, ← hrest, ih]
    rfl

/-- From the row of a text to the row of the text with one more character. -/
theorem nextRow_costs (c : Char) (x b : List Char) : nextRow b (costs x [] b) c = costs (c :: x) [] b := by
  obtain ⟨rest, hrest⟩ := costs_eq_cons x [] b
  have hfirst : editCost x [] + 1 = editCost (c :: x) [] := by
    rw [editCost_nil_right, editCost_nil_right, List.length_cons]
  have hrow := rowFrom_costs c x [] b
  rw [hrest] at hrow ⊢
  rw [nextRow, hfirst]
  exact hrow

theorem row_eq_costs (a b : List Char) : row a b = costs a.reverse [] b := by
  have hrun (x : List Char) : a.foldl (nextRow b) (costs x [] b) = costs (a.reverse ++ x) [] b := by
    induction a generalizing x with
    | nil => rfl
    | cons c a ih =>
      rw [List.foldl_cons, nextRow_costs, ih]
      simp
  have hstart : List.range (b.length + 1) = costs [] [] b := by
    rw [costs_nil, List.range_eq_range']
    rfl
  unfold row
  rw [hstart, hrun, List.append_nil]

private theorem getLastD_row (a b : List Char) : (row a b).getLastD 0 = editCost a.reverse b.reverse := by
  rw [row_eq_costs, getLastD_costs, List.append_nil]

theorem levenshtein_eq_editCost (a b : List Char) : levenshtein a b = editCost a.reverse b.reverse := by
  -- the rows of the longer text, unless the shorter one is empty
  have hrows (long short : List Char) : (if short.isEmpty then long.length else (row long short).getLastD 0) =
      editCost long.reverse short.reverse := by
    cases short with
    | nil => simp [editCost_nil_right]
    | cons d short => exact getLastD_row long (d :: short)
  unfold levenshtein
  by_cases hlength : a.length < b.length
  · rw [if_pos hlength, editCost_comm]
    exact hrows b a
  · rw [if_neg hlength]
    exact hrows a b

theorem levenshtein_comm (a b : List Char) : levenshtein a b = levenshtein b a := by
  rw [levenshtein_eq_editCost, levenshtein_eq_editCost, editCost_comm]

/-! ### The distance of words -/

theorem edits_distance (a b : String) : Edits (lower a.toList) (lower b.toList) (distance a b) := by
  unfold distance
  rw [levenshtein_eq_editCost]
  -- the rows are about the texts read backwards, and so are the scripts then
  simpa using (edits_editCost (lower a.toList).reverse (lower b.toList).reverse).reverse

theorem distance_le_of_edits {a b : String} {n : Nat} (h : Edits (lower a.toList) (lower b.toList) n) :
    distance a b ≤ n := by
  unfold distance
  rw [levenshtein_eq_editCost]
  exact h.reverse.editCost_le

/-- The distance of two words is the length of a shortest script that turns the one into the other, both in lowercase. -/
theorem distance_isLeast (a b : String) :
    Edits (lower a.toList) (lower b.toList) (distance a b) ∧
      ∀ n, Edits (lower a.toList) (lower b.toList) n → distance a b ≤ n :=
  ⟨edits_distance a b, fun _ h => distance_le_of_edits h⟩

end RobotPhrase.Text
