import RobotPhrase.Proofs.Search
import RobotPhrase.Text.Utf8

/-!
# Lowercasing character by character

Only the form of a small sigma depends on its place in the word.  If the two forms are taken as one, each character is
put in lowercase on its own (`map_plainSigma_lower`).  So a place in the text in lowercase is a place in the text itself,
unless it lies between the two characters of a dotted capital I (`exists_append_of_flatMap_foldCase`).

Lowercasing makes letters larger or smaller in bytes.  But it keeps blanks and makes no new ones, and of the letters of
ASCII only i and k have capitals beyond ASCII (`ascii_of_mem_foldCase`), so that characters can be counted in lowercase
(`countP_isVisible_le`, `count_colon_flatMap_foldCase`).
-/

namespace RobotPhrase.Text

open LetterCase

/-! ### ASCII letters -/

theorem toLower_cases (c : Char) : c.toLower = c ∨ (65 ≤ c.toNat ∧ c.toNat ≤ 90) := by
  unfold Char.toLower
  split
  · rename_i h
    exact .inr ⟨UInt32.le_iff_toNat_le.1 h.1, UInt32.le_iff_toNat_le.1 h.2⟩
  · exact .inl rfl

private theorem utf8Size_toLower (c : Char) : c.toLower.utf8Size = c.utf8Size := by
  rcases toLower_cases c with h | h
  · rw [h]
  · exact of_codes (p := fun c => c.toLower.utf8Size = c.utf8Size) (by decide) h.1 h.2

theorem isBlank_toLower (c : Char) : isBlank c.toLower = isBlank c := by
  rcases toLower_cases c with h | h
  · rw [h]
  · exact of_codes (p := fun c => isBlank c.toLower = isBlank c) (by decide) h.1 h.2

theorem byteSize_map_toLower (cs : List Char) : byteSize (cs.map Char.toLower) = byteSize cs := by
  induction cs with
  | nil => rfl
  | cons c cs ih => simp only [List.map_cons, byteSize, utf8Size_toLower, ih]

/-! ### Forms of sigma -/

/-- A character, with the final form of a small sigma replaced by the other one. -/
def plainSigma (c : Char) : Char := if c = 'ς' then 'σ' else c

/-- The lowercase form of a character wherever it stands, up to the form of a sigma. -/
def foldCase (c : Char) : List Char := (lowerAt [] c []).map plainSigma

theorem map_plainSigma_lowerAt (before : List Char) (c : Char) (rest : List Char) :
    (lowerAt before c rest).map plainSigma = foldCase c := by
  unfold foldCase lowerAt
  by_cases hsigma : c = 'Σ'
  · rw [if_pos hsigma, if_pos hsigma]
    split <;> rfl
  · rw [if_neg hsigma, if_neg hsigma]

theorem map_plainSigma_lower (cs : List Char) : (lower cs).map plainSigma = cs.flatMap foldCase := by
  suffices ∀ before, (lowerFrom before cs).map plainSigma = cs.flatMap foldCase from this []
  induction cs with
  | nil => intro before; rfl
  | cons c cs ih =>
    intro before
    rw [lowerFrom, List.map_append, map_plainSigma_lowerAt, ih, List.flatMap_cons]

theorem plainSigma_eq_self {c : Char} (h : plainSigma c ≠ 'σ') : plainSigma c = c := by
  unfold plainSigma at h ⊢
  split
  · rename_i hc
    exact absurd (if_pos hc) h
  · rfl

/-- A character that is no sigma is found as it is. -/
theorem eq_plainSigma_iff {mark : List Char} (hmark : 'σ' ∉ mark ∧ 'ς' ∉ mark) :
    ∀ m ∈ mark, ∀ c, m = plainSigma c ↔ m = c := by
  intro m hm c
  unfold plainSigma
  split
  · rename_i hc
    subst hc
    exact iff_of_false (fun he => hmark.1 (he ▸ hm)) (fun he => hmark.2 (he ▸ hm))
  · rfl

/-- What the two small sigmas have in common they share with what replaces them. -/
theorem apply_plainSigma {α : Type} {q : Char → α} (hq : q 'ς' = q 'σ') (c : Char) : q (plainSigma c) = q c := by
  unfold plainSigma
  split
  · rename_i hc
    rw [hc, hq]
  · rfl

theorem byteSize_map_plainSigma (cs : List Char) : byteSize (cs.map plainSigma) = byteSize cs := by
  induction cs with
  | nil => rfl
  | cons c cs ih => simp only [List.map_cons, byteSize, apply_plainSigma (q := Char.utf8Size) rfl, ih]

theorem byteSize_lower (cs : List Char) : byteSize (lower cs) = byteSize (cs.flatMap foldCase) := by
  rw [← map_plainSigma_lower, byteSize_map_plainSigma]

/-! ### Single characters -/

theorem foldCase_cases (c : Char) : foldCase c = ['i', '\u0307'] ∨ ∃ x, foldCase c = [x] := by
  unfold foldCase lowerAt
  by_cases hsigma : c = 'Σ'
  · rw [if_pos hsigma]
    exact .inr ⟨_, rfl⟩
  · rw [if_neg hsigma]
    by_cases hdotted : c = 'İ'
    · rw [if_pos hdotted]
      exact .inl rfl
    · rw [if_neg hdotted]
      exact .inr ⟨_, rfl⟩

theorem foldCase_ne_nil (c : Char) : foldCase c ≠ [] := by
  rcases foldCase_cases c with h | ⟨x, h⟩ <;> simp [h]

theorem eq_nil_of_flatMap_foldCase {cs : List Char} (h : cs.flatMap foldCase = []) : cs = [] := by
  cases cs with
  | nil => rfl
  | cons c cs => exact absurd (List.flatMap_eq_nil_iff.1 h c (by simp)) (foldCase_ne_nil c)

/-- A place between two characters of the lowercase text that do not come from one dotted capital I. -/
theorem exists_append_of_flatMap_foldCase {cs before after : List Char} (h : cs.flatMap foldCase = before ++ after)
    (hdot : before.getLast? = some 'i' → after.head? ≠ some '\u0307') :
    ∃ p q, cs = p ++ q ∧ p.flatMap foldCase = before ∧ q.flatMap foldCase = after := by
  induction cs generalizing before with
  | nil =>
    obtain ⟨rfl, rfl⟩ := List.append_eq_nil_iff.1 h.symm
    exact ⟨[], [], rfl, rfl, rfl⟩
  | cons c cs ih =>
    -- what is left of `before` behind the characters of `c`
    have hrest {xs bs : List Char} (hc : foldCase c = xs) (hbefore : before = xs ++ bs)
        (hbs : cs.flatMap foldCase = bs ++ after) :
        ∃ p q, c :: cs = p ++ q ∧ p.flatMap foldCase = before ∧ q.flatMap foldCase = after := by
      have hlast : bs.getLast? = some 'i' → after.head? ≠ some '\u0307' := by
        intro hi
        apply hdot
        rw [hbefore, List.getLast?_append, hi]
        rfl
      obtain ⟨p, q, rfl, hp, hq⟩ := ih hbs hlast
      exact ⟨c :: p, q, rfl, by rw [List.flatMap_cons, hc, hp, hbefore], hq⟩
    rw [List.flatMap_cons] at h
    cases before with
    | nil => exact ⟨[], c :: cs, rfl, rfl, by rw [List.flatMap_cons, h]; rfl⟩
    | cons b bs =>
      rcases foldCase_cases c with hc | ⟨x, hc⟩
      · simp only [hc, List.cons_append, List.nil_append, List.cons.injEq] at h
        obtain ⟨rfl, hbehind⟩ := h
        cases bs with
        | nil =>
          refine absurd ?_ (hdot rfl)
          rw [← List.nil_append after, ← hbehind]
          rfl
        | cons d bs =>
          rw [List.cons_append, List.cons.injEq] at hbehind
          obtain ⟨rfl, hbehind⟩ := hbehind
          exact hrest hc rfl hbehind
      · simp only [hc, List.cons_append, List.nil_append, List.cons.injEq] at h
        obtain ⟨rfl, hbehind⟩ := h
        exact hrest hc rfl hbehind

/-! ### What becomes of a character -/

theorem toNat_ofNat_cases (n : Nat) : (Char.ofNat n).toNat = n ∨ (Char.ofNat n).toNat = 0 := by
  by_cases h : n.isValidChar
  · have hchar : Char.ofNat n = Char.ofNatAux n h := dif_pos h
    exact .inl (congrArg Char.toNat hchar)
  · have hchar : Char.ofNat n = '\x00' := dif_neg h
    exact .inr (congrArg Char.toNat hchar)

/-- A letter beyond ASCII stays as it is, or one of the runs gives its lowercase form. -/
theorem lowerChar_cases {c : Char} (hc : ¬ c.toNat < 128) :
    lowerChar c = c ∨
      ∃ r ∈ runs, ∃ k, k ≤ r.last - r.first ∧ k % r.step = 0 ∧ lowerChar c = Char.ofNat (r.lower + k) := by
  unfold lowerChar
  rw [if_neg hc]
  cases h : runs.findSome? fun r => r.apply? c.toNat with
  | none => exact .inl rfl
  | some n =>
    obtain ⟨r, hr, happly⟩ := List.exists_of_findSome?_eq_some h
    unfold Run.apply? at happly
    split at happly
    · rename_i hrange
      simp only [Bool.and_eq_true, decide_eq_true_eq, beq_iff_eq] at hrange
      obtain rfl := Option.some.inj happly
      exact .inr ⟨r, hr, _, by omega, hrange.2, rfl⟩
    · simp at happly

/-- Beyond ASCII only the Kelvin sign has an ASCII letter as its lowercase form. -/
theorem lowerChar_ascii {c : Char} (hc : ¬ c.toNat < 128) (hlower : (lowerChar c).toNat < 128) :
    lowerChar c = 'k' ∨ (lowerChar c).toNat = 0 := by
  have hruns : ∀ r ∈ runs, 128 ≤ r.lower ∨ r.lower = 'k'.toNat ∧ r.last - r.first = 0 := by decide +kernel
  rcases lowerChar_cases hc with h | ⟨r, hr, k, hk, -, h⟩
  · rw [h] at hlower
    exact absurd hlower hc
  · rw [h] at hlower ⊢
    rcases hruns r hr with hlarge | ⟨hlarge, hsingle⟩
    · rcases toNat_ofNat_cases (r.lower + k) with hn | hn
      · omega
      · exact .inr hn
    · obtain rfl : k = 0 := by omega
      rw [hlarge]
      exact .inl rfl

theorem isBlank_lowerChar {c : Char} (hc : isBlank c = false) : isBlank (lowerChar c) = false := by
  by_cases hsmall : c.toNat < 128
  · unfold lowerChar
    rw [if_pos hsmall, isBlank_toLower, hc]
  · have hruns : ∀ r ∈ runs, ∀ n ∈ blankCodes, n < r.lower ∨ r.lower + (r.last - r.first) < n := by decide +kernel
    rcases lowerChar_cases hsmall with h | ⟨r, hr, k, hk, -, h⟩
    · rw [h, hc]
    · rw [h, Bool.eq_false_iff]
      intro hblank
      have hmem := toNat_mem_blankCodes hblank
      rcases toNat_ofNat_cases (r.lower + k) with hn | hn
      · rw [hn] at hmem
        have := hruns r hr _ hmem
        omega
      · rw [hn] at hmem
        exact absurd hmem (by decide)

theorem mem_foldCase {c x : Char} (h : x ∈ foldCase c) :
    (c = 'İ' ∧ (x = 'i' ∨ x = '\u0307')) ∨ x = 'σ' ∨ x = lowerChar c := by
  unfold foldCase lowerAt at h
  by_cases hsigma : c = 'Σ'
  · rw [if_pos hsigma] at h
    exact .inr (.inl (List.mem_singleton.1 h))
  · rw [if_neg hsigma] at h
    by_cases hdotted : c = 'İ'
    · rw [if_pos hdotted] at h
      exact .inl ⟨hdotted, by simpa [plainSigma] using h⟩
    · rw [if_neg hdotted] at h
      obtain rfl := List.mem_singleton.1 h
      by_cases hfinal : plainSigma (lowerChar c) = 'σ'
      · exact .inr (.inl hfinal)
      · exact .inr (.inr (plainSigma_eq_self hfinal))

/-- An ASCII character in lowercase comes from an ASCII character, unless it is one of two letters. -/
theorem ascii_of_mem_foldCase {c x : Char} (h : x ∈ foldCase c) (hx : x.toNat < 128) (hne : x.toNat ≠ 0)
    (hk : x ≠ 'k') (hi : c = 'İ' → x ≠ 'i') : c.toNat < 128 := by
  rcases mem_foldCase h with ⟨rfl, rfl | rfl⟩ | rfl | rfl
  · exact absurd rfl (hi rfl)
  · exact absurd hx (by decide)
  · exact absurd hx (by decide)
  · refine Decidable.byContradiction fun hc => ?_
    rcases lowerChar_ascii hc hx with hletter | hzero
    · exact hk hletter
    · exact hne hzero

theorem colon_mem_foldCase_iff {c : Char} : ':' ∈ foldCase c ↔ c = ':' := by
  constructor
  · intro h
    have hascii : c.toNat < 128 := ascii_of_mem_foldCase h (by decide) (by decide) (by decide) (fun _ => by decide)
    rcases mem_foldCase h with ⟨-, hi | hdot⟩ | hsigma | hlower
    · exact absurd hi (by decide)
    · exact absurd hdot (by decide)
    · exact absurd hsigma (by decide)
    · unfold lowerChar at hlower
      rw [if_pos hascii] at hlower
      rcases toLower_cases c with hself | hcapital
      · rw [hlower, hself]
      · exact absurd hlower (of_codes (p := fun c => ¬ ':' = c.toLower) (by decide) hcapital.1 hcapital.2)
  · rintro rfl
    decide

/-! ### Counting characters -/

/-- A character that is no blank. -/
def isVisible (c : Char) : Bool := !isBlank c

theorem countP_isVisible_eq_zero_iff {cs : List Char} : cs.countP isVisible = 0 ↔ AllBlank cs := by
  rw [List.countP_eq_zero]
  simp [AllBlank, isVisible]

/-- Trimming loses blanks only. -/
theorem countP_trim {q : Char → Bool} (hq : ∀ c, isBlank c = true → q c = false) (cs : List Char) :
    (trim cs).countP q = cs.countP q := by
  obtain ⟨before, after, hbefore, hafter, hcs⟩ := exists_append_trim_append cs
  have hnone {bs : List Char} (hbs : AllBlank bs) : bs.countP q = 0 := by
    rw [List.countP_eq_zero]
    intro b hb
    simp [hq b (hbs b hb)]
  conv => rhs; rw [hcs]
  rw [List.countP_append, List.countP_append, hnone hbefore, hnone hafter]
  omega

theorem count_colon_trim (cs : List Char) : (trim cs).count ':' = cs.count ':' := by
  refine countP_trim (fun c hc => beq_eq_false_iff_ne.2 ?_) cs
  rintro rfl
  exact absurd hc (by decide)

theorem countP_isVisible_trim (cs : List Char) : (trim cs).countP isVisible = cs.countP isVisible :=
  countP_trim (fun c hc => by simp [isVisible, hc]) cs

theorem countP_map_plainSigma {q : Char → Bool} (hq : q 'ς' = q 'σ') (cs : List Char) :
    (cs.map plainSigma).countP q = cs.countP q := by
  have hcomp : q ∘ plainSigma = q := funext (apply_plainSigma hq)
  rw [List.countP_map, hcomp]

theorem flatMap_foldCase_of_allBlank {cs : List Char} (h : AllBlank cs) : cs.flatMap foldCase = cs := by
  induction cs with
  | nil => rfl
  | cons c cs ih =>
    have hblank : isBlank c = true := h c (by simp)
    have hfinal : c ≠ 'ς' := by
      rintro rfl
      exact absurd hblank (by decide)
    have hc : foldCase c = [c] := by
      unfold foldCase
      rw [(caseless_of_isBlank hblank).2.2]
      simp [plainSigma, hfinal]
    rw [List.flatMap_cons, hc, ih fun d hd => h d (by simp [hd])]
    rfl

theorem isVisible_of_mem_foldCase {c x : Char} (hc : isVisible c = true) (h : x ∈ foldCase c) : isVisible x = true := by
  have hblank : isBlank c = false := by simpa [isVisible] using hc
  rcases mem_foldCase h with ⟨-, rfl | rfl⟩ | rfl | rfl
  · decide
  · decide
  · decide
  · simpa [isVisible] using isBlank_lowerChar hblank

theorem countP_isVisible_le (cs : List Char) : cs.countP isVisible ≤ (cs.flatMap foldCase).countP isVisible := by
  induction cs with
  | nil => exact Nat.le_refl _
  | cons c cs ih =>
    rw [List.flatMap_cons, List.countP_append]
    cases hc : isVisible c with
    | false =>
      rw [List.countP_cons_of_neg (by simp [hc])]
      omega
    | true =>
      obtain ⟨x, hx⟩ := List.exists_mem_of_ne_nil _ (foldCase_ne_nil c)
      have hpos : 0 < (foldCase c).countP isVisible := List.countP_pos_iff.2 ⟨x, hx, isVisible_of_mem_foldCase hc hx⟩
      rw [List.countP_cons_of_pos hc]
      omega

theorem count_colon_flatMap_foldCase (cs : List Char) : (cs.flatMap foldCase).count ':' = cs.count ':' := by
  induction cs with
  | nil => rfl
  | cons c cs ih =>
    have hc : (foldCase c).count ':' = [c].count ':' := by
      by_cases hcolon : c = ':'
      · subst hcolon
        decide
      · have hmem : ':' ∉ foldCase c := mt colon_mem_foldCase_iff.1 hcolon
        rw [List.count_eq_zero.2 hmem, List.count_eq_zero.2 (by simpa using Ne.symm hcolon)]
    rw [List.flatMap_cons, List.count_append, hc, ih, ← List.count_append]
    rfl

end RobotPhrase.Text
