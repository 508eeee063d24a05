import RobotPhrase.Proofs.Numeral

/-!
# The numerals of a text

A text is a row of literals with gaps between them in which there is no digit.  `Holds` says which literals these are,
and scanning finds just them (`scan_eq_iff`): a step of the scan either passes a character that belongs to no literal
(`Holds.cons`), or it takes a literal up to its end.
-/

namespace RobotPhrase.Numeral

/-- A text without digits. -/
def Digitless (cs : List Char) : Prop := ∀ c ∈ cs, c.isDigit = false

instance (cs : List Char) : Decidable (Digitless cs) :=
  decidable_of_iff (cs.all (fun c => !c.isDigit) = true) (by simp [Digitless])

/-- The literals `ns` stand in the text in this order, one behind another, and no digit stands outside of them.  Each of
them is complete: what follows it does not belong to it, and it has the minus sign if one stands before its digits. -/
inductive Holds : List Char → List Numeral → Prop
  | none {gap : List Char} (hgap : Digitless gap) : Holds gap []
  | next {gap rest : List Char} {n : Numeral} {ns : List Numeral} (hgap : Digitless gap)
      (hsign : gap.getLast? = some '-' → n.negative = true) (hn : n.IsLiteral) (hends : n.EndsBefore rest)
      (hrest : Holds rest ns) : Holds (gap ++ n.text ++ rest) (n :: ns)

/-! ### Steps of a scan -/

theorem scan_cons_of_none {c : Char} {cs : List Char} (h : read? (c :: cs) = none) : scan (c :: cs) = scan cs := by
  rw [scan]
  split
  · rename_i hread
    simp [h] at hread
  · rfl

theorem scan_text_append {n : Numeral} (hn : n.IsLiteral) {rest : List Char} (hends : n.EndsBefore rest) :
    scan (n.text ++ rest) = n :: scan rest := by
  have hread : read? (n.text ++ rest) = some (n, rest) := read?_eq_some_iff.2 ⟨hn, hends, rfl⟩
  cases htext : n.text ++ rest with
  | nil => exact absurd (List.append_eq_nil_iff.1 htext).1 (text_ne_nil hn)
  | cons c cs =>
    rw [htext] at hread
    rw [scan]
    split
    · rename_i m later hm
      obtain ⟨rfl, rfl⟩ : m = n ∧ later = rest := by simpa using hm.symm.trans hread
      rfl
    · rename_i hnone
      simp [hnone] at hread

/-- A literal starts with a digit, or with a minus sign. -/
theorem isDigit_head_text {n : Numeral} (hn : n.IsLiteral) {c : Char} (hc : n.text.head? = some c) :
    c.isDigit = !n.negative := by
  obtain ⟨negative, whole, fraction⟩ := n
  cases negative with
  | true =>
    obtain rfl : '-' = c := by simpa [text] using hc
    rfl
  | false =>
    cases whole with
    | nil => exact absurd rfl hn.whole_ne_nil
    | cons d ds =>
      obtain rfl : d = c := by simpa [text] using hc
      simpa using hn.whole_digits d (by simp)

/-- A gap is passed, unless it ends in the minus sign of what follows. -/
theorem scan_digitless_append {gap cs : List Char} (hgap : Digitless gap)
    (hsign : gap.getLast? = some '-' → ∀ c, cs.head? = some c → c.isDigit = false) :
    scan (gap ++ cs) = scan cs := by
  induction gap with
  | nil => rfl
  | cons c gap ih =>
    have hc : c.isDigit = false := hgap c (by simp)
    have hgap' : Digitless gap := fun d hd => hgap d (by simp [hd])
    have hnone : read? (c :: (gap ++ cs)) = none := by
      refine read?_cons_eq_none_iff.2 ⟨hc, ?_⟩
      rintro rfl d hd
      cases gap with
      | nil => exact hsign rfl d hd
      | cons e gap =>
        obtain rfl : e = d := by simpa using hd
        exact hgap' e (by simp)
    rw [List.cons_append, scan_cons_of_none hnone]
    refine ih hgap' fun hlast => hsign ?_
    rw [List.getLast?_cons, hlast]
    rfl

/-! ### What a scan finds -/

theorem Holds.scan_eq {cs : List Char} {ns : List Numeral} (h : Holds cs ns) : scan cs = ns := by
  induction h with
  | @none gap hgap =>
    have hscan : scan (gap ++ []) = scan [] := scan_digitless_append hgap (by simp)
    rwa [List.append_nil, scan] at hscan
  | @next gap rest n ns hgap hsign hn hends _ ih =>
    have hsign' : gap.getLast? = some '-' → ∀ c, (n.text ++ rest).head? = some c → c.isDigit = false := by
      intro hlast c hc
      obtain ⟨d, ds, htext⟩ := List.exists_cons_of_ne_nil (text_ne_nil hn)
      obtain rfl : d = c := by simpa [htext] using hc
      rw [isDigit_head_text hn (by rw [htext]; rfl), hsign hlast]
      rfl
    rw [List.append_assoc, scan_digitless_append hgap hsign', scan_text_append hn hends, ih]

/-- A character that belongs to no literal may stand before the text. -/
theorem Holds.cons {c : Char} {cs : List Char} {ns : List Numeral} (hc : c.isDigit = false)
    (hsign : c = '-' → ∀ d, cs.head? = some d → d.isDigit = false) (h : Holds cs ns) : Holds (c :: cs) ns := by
  cases h with
  | none hgap =>
    refine .none fun d hd => ?_
    rcases List.mem_cons.1 hd with rfl | hd
    · exact hc
    · exact hgap d hd
  | @next gap rest n ns hgap hsign' hn hends hrest =>
    have hgap' : Digitless (c :: gap) := by
      intro d hd
      rcases List.mem_cons.1 hd with rfl | hd
      · exact hc
      · exact hgap d hd
    have hlast : (c :: gap).getLast? = some '-' → n.negative = true := by
      intro hlast
      cases gap with
      | cons e gap => exact hsign' hlast
      | nil =>
        -- the sign stands right before the literal, which would start with a digit
        obtain rfl : c = '-' := by simpa using hlast
        obtain ⟨d, ds, htext⟩ := List.exists_cons_of_ne_nil (text_ne_nil hn)
        have hd : d.isDigit = false := hsign rfl d (by simp [htext])
        rw [isDigit_head_text hn (by rw [htext]; rfl)] at hd
        simpa using hd
    exact .next hgap' hlast hn hends hrest

theorem holds_scan (cs : List Char) : Holds cs (scan cs) := by
  fun_induction scan cs with
  | case1 => exact .none (by simp [Digitless])
  | case2 c cs n rest hread ih =>
    obtain ⟨hn, hends, htext⟩ := read?_eq_some_iff.1 hread
    have hgap : Digitless [] := by simp [Digitless]
    rw [htext]
    exact .next hgap (by simp) hn hends ih
  | case3 c cs hnone ih =>
    obtain ⟨hc, hsign⟩ := read?_cons_eq_none_iff.1 hnone
    exact ih.cons hc hsign

/-- A scan finds the literals of a text: those that have all its digits, each as long as it can be. -/
theorem scan_eq_iff {cs : List Char} {ns : List Numeral} : scan cs = ns ↔ Holds cs ns := by
  constructor
  · rintro rfl
    exact holds_scan cs
  · exact Holds.scan_eq

/-! ### Texts put together -/

theorem EndsBefore.append_digitless {n : Numeral} {rest bs : List Char} (h : n.EndsBefore rest) (hbs : Digitless bs) :
    n.EndsBefore (rest ++ bs) where
  no_digit c hc := by
    cases rest with
    | nil => exact hbs c (List.mem_of_head? hc)
    | cons d rest => exact h.no_digit c hc
  no_fraction hfraction c more hrest := by
    cases rest with
    | nil =>
      obtain rfl : bs = '.' :: c :: more := hrest
      exact hbs c (by simp)
    | cons d rest =>
      cases rest with
      | nil =>
        obtain rfl : bs = c :: more := (List.cons.inj hrest).2
        exact hbs c (by simp)
      | cons e rest =>
        obtain ⟨rfl, htail⟩ := List.cons.inj hrest
        obtain ⟨rfl, -⟩ := List.cons.inj htail
        exact h.no_fraction hfraction e rest rfl

private theorem Holds.append_digitless {cs bs : List Char} {ns : List Numeral} (h : Holds cs ns) (hbs : Digitless bs) :
    Holds (cs ++ bs) ns := by
  induction h with
  | none hgap =>
    refine .none fun c hc => ?_
    rcases List.mem_append.1 hc with hc | hc
    · exact hgap c hc
    · exact hbs c hc
  | next hgap hsign hn hends _ ih =>
    rw [List.append_assoc]
    exact .next hgap hsign hn (hends.append_digitless hbs) ih

/-- What stands around a text without digits, and without a minus sign before it, changes nothing. -/
theorem scan_around {before after : List Char} (hbefore : Digitless before) (hminus : '-' ∉ before)
    (hafter : Digitless after) (cs : List Char) : scan (before ++ cs ++ after) = scan cs := by
  have hlast : before.getLast? ≠ some '-' := fun h => hminus (List.mem_of_getLast? h)
  rw [List.append_assoc, scan_digitless_append hbefore fun h => absurd h hlast]
  exact ((holds_scan cs).append_digitless hafter).scan_eq

/-- Literals behind blanks are found as they are. -/
theorem scan_spaced {ns : List Numeral} (h : ∀ n ∈ ns, n.IsLiteral) :
    scan (ns.flatMap fun n => ' ' :: n.text) = ns := by
  induction ns with
  | nil => rw [List.flatMap_nil, scan]
  | cons n ns ih =>
    have hends : n.EndsBefore (ns.flatMap fun n => ' ' :: n.text) := by
      apply Stops.endsBefore
      intro c hc
      cases ns with
      | nil => simp at hc
      | cons m ns =>
        obtain rfl : ' ' = c := by simpa using hc
        decide
    have hblank : read? (' ' :: (n.text ++ ns.flatMap fun n => ' ' :: n.text)) = none :=
      read?_cons_eq_none_iff.2 ⟨by decide, by simp⟩
    rw [List.flatMap_cons, List.cons_append, scan_cons_of_none hblank, scan_text_append (h n (by simp)) hends,
      ih fun m hm => h m (by simp [hm])]

end RobotPhrase.Numeral
