import Mathlib.Data.List.Chain
import Mathlib.Data.List.TakeWhile
import RobotPhrase.Proofs.CaseFolding

/-!
# Texts in lowercase

Lowercasing leaves a text alone that is in lowercase already (`lower_of_isLowercase`), and what it makes of any text is
such a text (`isLowercase_of_mem_lower`).  For letters beyond ASCII this is a fact about the table: no lowercase form
that a run gives is a capital of a run (`Run.avoids_of_mem_runs`).  Since the table is in increasing order, a run is
compared only with the runs around its lowercase forms.
-/

namespace RobotPhrase.Text

open LetterCase

/-! ### Capitals and their lowercase forms -/

namespace LetterCase

/-- The lowercase form of the last letter of a run. -/
def Run.lastLower (r : Run) : Nat := r.lower + (r.last - r.first)

/-- No lowercase form of a letter of `r` is a letter of `s`. -/
def Run.Avoids (r s : Run) : Prop := ∀ k, k ≤ r.last - r.first → k % r.step = 0 → s.apply? (r.lower + k) = none

/-- The letters of `s` and the lowercase forms of `r` alternate. -/
def Run.Alternates (r s : Run) : Prop :=
  s.step = 2 ∧ (r.step = 2 ∨ r.first = r.last) ∧ (r.lower + s.first) % 2 = 1

instance (r s : Run) : Decidable (r.Alternates s) := inferInstanceAs (Decidable (_ ∧ _ ∧ _))

theorem Run.apply?_eq_none_iff {s : Run} {n : Nat} :
    s.apply? n = none ↔ (s.first ≤ n → n ≤ s.last → (n - s.first) % s.step ≠ 0) := by
  unfold Run.apply?
  split
  · rename_i hrange
    simp only [Bool.and_eq_true, decide_eq_true_eq, beq_iff_eq] at hrange
    simp [hrange]
  · rename_i hrange
    simp only [Bool.and_eq_true, decide_eq_true_eq, beq_iff_eq] at hrange
    simp only [true_iff]
    exact fun hfirst hlast hstep => hrange ⟨⟨hfirst, hlast⟩, hstep⟩

theorem Run.avoids_of_lastLower_lt {r s : Run} (h : r.lastLower < s.first) : r.Avoids s := by
  intro k hk _
  rw [Run.apply?_eq_none_iff]
  unfold Run.lastLower at h
  omega

theorem Run.avoids_of_lt_lower {r s : Run} (h : s.last < r.lower) : r.Avoids s := by
  intro k hk _
  rw [Run.apply?_eq_none_iff]
  omega

theorem Run.Alternates.avoids {r s : Run} (h : r.Alternates s) : r.Avoids s := by
  obtain ⟨hs, hr, hodd⟩ := h
  intro k hk hstep
  have heven : k % 2 = 0 := by
    rcases hr with hr | hr
    · rwa [hr] at hstep
    · omega
  rw [Run.apply?_eq_none_iff, hs]
  omega

theorem pairwise_runs : runs.Pairwise (·.first < ·.first) := by
  have hchain : (runs.map Run.first).IsChain (· < ·) := by decide +kernel
  exact List.pairwise_map.1 (List.isChain_iff_pairwise.1 hchain)

/-- The runs that begin early stand in front. -/
theorem mem_takeWhile_first {rs : List Run} (hrs : rs.Pairwise (·.first < ·.first)) {s : Run} (hs : s ∈ rs) {n : Nat}
    (hfirst : s.first ≤ n) : s ∈ rs.takeWhile fun s => s.first.ble n := by
  induction rs with
  | nil => simp at hs
  | cons r rs ih =>
    obtain ⟨hbehind, hrs⟩ := List.pairwise_cons.1 hrs
    have hr : r.first ≤ n := by
      rcases List.mem_cons.1 hs with rfl | hs
      · exact hfirst
      · exact Nat.le_of_lt (Nat.lt_of_lt_of_le (hbehind s hs) hfirst)
    rw [List.takeWhile_cons_of_pos (Nat.ble_eq ▸ hr)]
    rcases List.mem_cons.1 hs with rfl | hs
    · exact List.mem_cons_self
    · exact List.mem_cons_of_mem r (ih hrs hs)

/-- No lowercase form of a letter is a letter that has a lowercase form. -/
theorem Run.avoids_of_mem_runs {r s : Run} (hr : r ∈ runs) (hs : s ∈ runs) : r.Avoids s := by
  have htable : ∀ r ∈ runs, ∀ s ∈ (runs.dropWhile fun s => s.last.blt r.lower).takeWhile fun s =>
      s.first.ble r.lastLower, r.Alternates s := by
    decide +kernel
  -- a run that lies neither below nor above the lowercase forms of `r` is one of those that alternate with them
  by_cases hlower : s.last < r.lower
  · exact Run.avoids_of_lt_lower hlower
  · by_cases hfirst : s.first ≤ r.lastLower
    · have hmem : s ∈ runs.dropWhile fun s => s.last.blt r.lower := by
        rw [← List.takeWhile_append_dropWhile (p := fun s : Run => s.last.blt r.lower) (l := runs),
          List.mem_append] at hs
        refine hs.resolve_left fun hfront => hlower ?_
        simpa using List.mem_takeWhile_imp hfront
      have hsorted := pairwise_runs.sublist (List.dropWhile_sublist fun s => s.last.blt r.lower)
      exact (htable r hr s (mem_takeWhile_first hsorted hmem hfirst)).avoids
    · exact Run.avoids_of_lastLower_lt (by omega)

theorem Run.avoids_dotted {r : Run} (hr : r ∈ runs) {k : Nat} (hk : k ≤ r.last - r.first) :
    r.lower + k ≠ 'İ'.toNat := by
  have htable : ∀ r ∈ runs, r.lastLower < 'İ'.toNat ∨ 'İ'.toNat < r.lower := by decide +kernel
  have := htable r hr
  unfold Run.lastLower at this
  omega

end LetterCase

/-! ### Characters in lowercase -/

/-- A character that lowercasing leaves alone. -/
def IsLowercase (c : Char) : Prop := lowerChar c = c ∧ c ≠ 'İ'

instance (c : Char) : Decidable (IsLowercase c) := inferInstanceAs (Decidable (_ ∧ _))

theorem lowerAt_of_isLowercase {c : Char} (hc : IsLowercase c) (before rest : List Char) :
    lowerAt before c rest = [c] := by
  have hsigma : c ≠ 'Σ' := by
    rintro rfl
    exact absurd hc.1 (by decide +kernel)
  rw [lowerAt, if_neg hsigma, if_neg hc.2, hc.1]

theorem lower_of_isLowercase {cs : List Char} (h : ∀ c ∈ cs, IsLowercase c) : lower cs = cs := by
  suffices ∀ before, lowerFrom before cs = cs from this []
  induction cs with
  | nil => exact fun _ => rfl
  | cons c cs ih =>
    intro before
    rw [lowerFrom, lowerAt_of_isLowercase (h c (by simp)), ih fun d hd => h d (by simp [hd])]
    rfl

private theorem isLowercase_toLower {c : Char} (hc : c.toNat < 128) : IsLowercase c.toLower := by
  rcases toLower_cases c with h | h
  · rw [h]
    refine ⟨?_, ?_⟩
    · rw [lowerChar, if_pos hc, h]
    · rintro rfl
      exact absurd hc (by decide)
  · exact of_codes (p := fun c => IsLowercase c.toLower) (by decide +kernel) h.1 h.2

/-- What a run gives is no capital. -/
private theorem isLowercase_ofNat {r : Run} (hr : r ∈ runs) {k : Nat} (hk : k ≤ r.last - r.first)
    (hstep : k % r.step = 0) (hlarge : ¬ (Char.ofNat (r.lower + k)).toNat < 128) :
    IsLowercase (Char.ofNat (r.lower + k)) := by
  have hcode : (Char.ofNat (r.lower + k)).toNat = r.lower + k := by
    rcases toNat_ofNat_cases (r.lower + k) with h | h
    · exact h
    · omega
  have hnone : (runs.findSome? fun s => s.apply? (r.lower + k)) = none :=
    List.findSome?_eq_none_iff.2 fun s hs => Run.avoids_of_mem_runs hr hs k hk hstep
  constructor
  · rw [lowerChar, if_neg hlarge, hcode, hnone]
  · intro hdotted
    rw [hdotted] at hcode
    exact Run.avoids_dotted hr hk hcode.symm

theorem isLowercase_lowerChar {c : Char} (hdotted : c ≠ 'İ') : IsLowercase (lowerChar c) := by
  by_cases hc : c.toNat < 128
  · rw [lowerChar, if_pos hc]
    exact isLowercase_toLower hc
  · by_cases hlarge : (lowerChar c).toNat < 128
    · rcases lowerChar_ascii hc hlarge with hk | hzero
      · rw [hk]
        decide
      · exact of_codes (p := IsLowercase) (by decide) (Nat.zero_le _) (Nat.le_of_eq hzero)
    · rcases lowerChar_cases hc with h | ⟨r, hr, k, hk, hstep, h⟩
      · rw [h]
        exact ⟨h, hdotted⟩
      · rw [h] at hlarge ⊢
        exact isLowercase_ofNat hr hk hstep hlarge

theorem isLowercase_of_mem_lowerAt {before rest : List Char} {c x : Char} (h : x ∈ lowerAt before c rest) :
    IsLowercase x := by
  unfold lowerAt at h
  by_cases hsigma : c = 'Σ'
  · rw [if_pos hsigma] at h
    obtain rfl := List.mem_singleton.1 h
    split <;> decide +kernel
  · rw [if_neg hsigma] at h
    by_cases hdotted : c = 'İ'
    · rw [if_pos hdotted] at h
      simp only [List.mem_cons, List.not_mem_nil, or_false] at h
      rcases h with rfl | rfl <;> decide +kernel
    · rw [if_neg hdotted] at h
      obtain rfl := List.mem_singleton.1 h
      exact isLowercase_lowerChar hdotted

theorem isLowercase_of_mem_lower {cs : List Char} {x : Char} (h : x ∈ lower cs) : IsLowercase x := by
  suffices ∀ before, x ∈ lowerFrom before cs → IsLowercase x from this [] h
  clear h
  induction cs with
  | nil =>
    intro before h
    simp [lowerFrom] at h
  | cons c cs ih =>
    intro before h
    rcases List.mem_append.1 h with h | h
    · exact isLowercase_of_mem_lowerAt h
    · exact ih (c :: before) h

end RobotPhrase.Text
