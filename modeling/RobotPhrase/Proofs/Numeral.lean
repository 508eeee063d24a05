import RobotPhrase.Number.Numeral

/-!
# Literals

A literal is a numeral as people write one: an optional minus sign, at least one digit, and perhaps a point with at
least one more digit.  Reading gives the literal that stands at the front of a text, up to where it ends
(`read?_eq_some_iff`).  A whole number in decimal is such a literal, and its value is that of the number (`text_ofInt`,
`value_ofInt`).
-/

namespace RobotPhrase.Numeral

/-- A numeral made of digits, at least one of them before the point.  The texts of such numerals are those of the form
`-?[0-9]+(\.[0-9]+)?`. -/
structure IsLiteral (n : Numeral) : Prop where
  whole_ne_nil : n.whole ≠ []
  whole_digits : ∀ c ∈ n.whole, c.isDigit = true
  fraction_digits : ∀ c ∈ n.fraction, c.isDigit = true

instance (n : Numeral) : Decidable n.IsLiteral :=
  decidable_of_iff (n.whole ≠ [] ∧ n.whole.all Char.isDigit = true ∧ n.fraction.all Char.isDigit = true)
    ⟨fun ⟨h₁, h₂, h₃⟩ => ⟨h₁, List.all_eq_true.1 h₂, List.all_eq_true.1 h₃⟩,
      fun h => ⟨h.1, List.all_eq_true.2 h.2, List.all_eq_true.2 h.3⟩⟩

/-- What follows a literal does not belong to it: no digit, and no point with a digit behind it unless the literal has
a fraction already. -/
structure EndsBefore (n : Numeral) (rest : List Char) : Prop where
  no_digit : ∀ c, rest.head? = some c → c.isDigit = false
  no_fraction : n.fraction = [] → ∀ c more, rest = '.' :: c :: more → c.isDigit = false

/-- A text that cannot continue any literal. -/
def Stops (rest : List Char) : Prop := ∀ c, rest.head? = some c → c.isDigit = false ∧ c ≠ '.'

theorem stops_nil : Stops [] := by
  intro c hc
  simp at hc

theorem Stops.endsBefore {rest : List Char} (h : Stops rest) (n : Numeral) : n.EndsBefore rest where
  no_digit c hc := (h c hc).1
  no_fraction := by
    rintro - c more rfl
    exact absurd rfl (h '.' rfl).2

/-! ### Reading a literal -/

/-- The digits in front of something else are found as they are. -/
private theorem span_digits {ds rest : List Char} (hds : ∀ c ∈ ds, c.isDigit = true)
    (hrest : ∀ c, rest.head? = some c → c.isDigit = false) :
    (ds ++ rest).takeWhile Char.isDigit = ds ∧ (ds ++ rest).dropWhile Char.isDigit = rest := by
  rw [List.takeWhile_append_of_pos hds, List.dropWhile_append_of_pos hds]
  cases rest with
  | nil => simp
  | cons c rest => simp [hrest c rfl]

private theorem readUnsigned?_whole {ds rest : List Char} (hne : ds ≠ []) (hds : ∀ c ∈ ds, c.isDigit = true)
    (hrest : EndsBefore ⟨false, ds, []⟩ rest) : readUnsigned? (ds ++ rest) = some (⟨false, ds, []⟩, rest) := by
  obtain ⟨htake, hdrop⟩ := span_digits hds hrest.no_digit
  simp only [readUnsigned?, htake, hdrop, List.isEmpty_iff, hne, if_false]
  split
  · rename_i more
    have hmore : more.takeWhile Char.isDigit = [] := by
      cases more with
      | nil => rfl
      | cons c more => simp [hrest.no_fraction rfl c more rfl]
    simp [hmore]
  · rfl

private theorem readUnsigned?_point {ds es rest : List Char} (hne : ds ≠ []) (hds : ∀ c ∈ ds, c.isDigit = true)
    (hne' : es ≠ []) (hes : ∀ c ∈ es, c.isDigit = true) (hrest : ∀ c, rest.head? = some c → c.isDigit = false) :
    readUnsigned? (ds ++ '.' :: (es ++ rest)) = some (⟨false, ds, es⟩, rest) := by
  have hpoint : ∀ c, ('.' :: (es ++ rest)).head? = some c → c.isDigit = false := by
    intro c hc
    obtain rfl : '.' = c := by simpa using hc
    decide
  obtain ⟨htake, hdrop⟩ := span_digits hds hpoint
  obtain ⟨htake', hdrop'⟩ := span_digits hes hrest
  simp [readUnsigned?, htake, hdrop, htake', hdrop', hne, hne']

private theorem readUnsigned?_append {n : Numeral} (hn : n.IsLiteral) (hsign : n.negative = false) {rest : List Char}
    (hrest : n.EndsBefore rest) : readUnsigned? (n.text ++ rest) = some (n, rest) := by
  obtain ⟨negative, whole, fraction⟩ := n
  obtain rfl : negative = false := hsign
  cases fraction with
  | nil => simpa [text] using readUnsigned?_whole hn.whole_ne_nil hn.whole_digits hrest
  | cons d ds =>
    have := readUnsigned?_point hn.whole_ne_nil hn.whole_digits (by simp) hn.fraction_digits hrest.no_digit
    simpa [text] using this

/-- A literal is read as it is, up to its end. -/
private theorem read?_append {n : Numeral} (hn : n.IsLiteral) {rest : List Char} (hrest : n.EndsBefore rest) :
    read? (n.text ++ rest) = some (n, rest) := by
  obtain ⟨negative, whole, fraction⟩ := n
  have hplain : Numeral.IsLiteral ⟨false, whole, fraction⟩ := ⟨hn.1, hn.2, hn.3⟩
  have hends : EndsBefore ⟨false, whole, fraction⟩ rest := ⟨hrest.1, hrest.2⟩
  have hread := readUnsigned?_append hplain rfl hends
  cases negative with
  | true =>
    have htext : (Numeral.mk true whole fraction).text = '-' :: (Numeral.mk false whole fraction).text := by
      simp [text]
    rw [htext, List.cons_append, read?, hread]
    rfl
  | false =>
    -- the first character is a digit, hence no sign
    cases whole with
    | nil => exact absurd rfl hn.whole_ne_nil
    | cons d ds =>
      have hd : d ≠ '-' := by
        rintro rfl
        exact absurd (hn.whole_digits '-' (by simp)) (by decide)
      rw [← hread]
      simp only [text, Bool.false_eq_true, if_false, List.nil_append, List.cons_append]
      rw [read?]
      intro rest' he
      exact hd (List.cons.inj he).1

/-- A literal is read as it is. -/
theorem read?_text_append {n : Numeral} (hn : n.IsLiteral) {rest : List Char} (hrest : Stops rest) :
    read? (n.text ++ rest) = some (n, rest) :=
  read?_append hn (hrest.endsBefore n)

private theorem isDigit_of_mem_takeWhile {c : Char} {cs : List Char} (h : c ∈ cs.takeWhile Char.isDigit) :
    c.isDigit = true :=
  List.all_eq_true.1 List.all_takeWhile c h

private theorem isDigit_of_head?_dropWhile {c : Char} {cs : List Char}
    (h : (cs.dropWhile Char.isDigit).head? = some c) : c.isDigit = false := by
  have hhead := List.head?_dropWhile_not Char.isDigit cs
  rwa [h] at hhead

private theorem endsBefore_of_readUnsigned? {cs rest : List Char} {n : Numeral}
    (h : readUnsigned? cs = some (n, rest)) : n.IsLiteral ∧ n.EndsBefore rest := by
  have hwhole : n.whole ≠ [] := (eq_of_readUnsigned? h).2.1
  simp only [readUnsigned?] at h
  split at h
  · simp at h
  split at h
  · rename_i more hpoint
    split at h
    · -- a point without a digit behind it is left in the rest
      rename_i hnone
      obtain ⟨rfl, rfl⟩ := by simpa using h
      refine ⟨⟨hwhole, fun c => isDigit_of_mem_takeWhile, by simp⟩, fun c => isDigit_of_head?_dropWhile, ?_⟩
      intro _ c rest hrest
      obtain rfl : more = c :: rest := (List.cons.inj (hpoint.symm.trans hrest)).2
      rw [Bool.eq_false_iff]
      intro hc
      simp [hc] at hnone
    · rename_i hsome
      obtain ⟨rfl, rfl⟩ := by simpa using h
      refine ⟨⟨hwhole, fun c => isDigit_of_mem_takeWhile, fun c => isDigit_of_mem_takeWhile⟩,
        fun c => isDigit_of_head?_dropWhile, ?_⟩
      intro hfraction
      exact absurd (List.isEmpty_iff.2 hfraction) hsome
  · rename_i hpoint
    obtain ⟨rfl, rfl⟩ := by simpa using h
    refine ⟨⟨hwhole, fun c => isDigit_of_mem_takeWhile, by simp⟩, fun c => isDigit_of_head?_dropWhile, ?_⟩
    intro _ c rest hrest
    exact absurd hrest (hpoint (c :: rest))

theorem readUnsigned?_eq_some_iff {cs rest : List Char} {n : Numeral} :
    readUnsigned? cs = some (n, rest) ↔
      n.IsLiteral ∧ n.negative = false ∧ n.EndsBefore rest ∧ cs = n.text ++ rest := by
  constructor
  · intro h
    obtain ⟨hsign, -, hcs⟩ := eq_of_readUnsigned? h
    obtain ⟨hliteral, hends⟩ := endsBefore_of_readUnsigned? h
    exact ⟨hliteral, hsign, hends, hcs⟩
  · rintro ⟨hliteral, hsign, hends, rfl⟩
    exact readUnsigned?_append hliteral hsign hends

/-- What is read is the literal at the front of the text, up to its end. -/
theorem read?_eq_some_iff {cs rest : List Char} {n : Numeral} :
    read? cs = some (n, rest) ↔ n.IsLiteral ∧ n.EndsBefore rest ∧ cs = n.text ++ rest := by
  constructor
  · intro h
    have hcs := (eq_of_read? h).2
    unfold read? at h
    split at h
    · obtain ⟨⟨m, r⟩, hm, he⟩ := Option.map_eq_some_iff.1 h
      obtain ⟨rfl, rfl⟩ := by simpa using he
      obtain ⟨hliteral, hends⟩ := endsBefore_of_readUnsigned? hm
      exact ⟨⟨hliteral.1, hliteral.2, hliteral.3⟩, ⟨hends.1, hends.2⟩, hcs⟩
    · obtain ⟨hliteral, hends⟩ := endsBefore_of_readUnsigned? h
      exact ⟨hliteral, hends, hcs⟩
  · rintro ⟨hliteral, hends, rfl⟩
    exact read?_append hliteral hends

private theorem readUnsigned?_eq_none_iff {cs : List Char} :
    readUnsigned? cs = none ↔ ∀ c, cs.head? = some c → c.isDigit = false := by
  cases cs with
  | nil => simp [readUnsigned?]
  | cons c cs =>
    cases hc : c.isDigit with
    | false => simp [readUnsigned?, hc]
    | true =>
      have hsome : readUnsigned? (c :: cs) ≠ none := by
        simp only [readUnsigned?, List.takeWhile_cons, hc, if_true, List.isEmpty_cons, Bool.false_eq_true, if_false]
        split
        · split <;> simp
        · simp
      simp [hsome, hc]

/-- Nothing is read where neither a digit stands nor a minus sign with a digit behind it. -/
theorem read?_cons_eq_none_iff {c : Char} {cs : List Char} :
    read? (c :: cs) = none ↔ c.isDigit = false ∧ (c = '-' → ∀ d, cs.head? = some d → d.isDigit = false) := by
  by_cases hc : c = '-'
  · subst hc
    simp [read?, readUnsigned?_eq_none_iff]
  · have hread : read? (c :: cs) = readUnsigned? (c :: cs) := by
      unfold read?
      split
      · rename_i heq
        exact absurd (List.cons.inj heq).1 hc
      · rfl
    simp [hread, readUnsigned?_eq_none_iff, hc]

/-- The characters of a literal. -/
theorem mem_text {n : Numeral} (hn : n.IsLiteral) {c : Char} (hc : c ∈ n.text) :
    c = '-' ∨ c = '.' ∨ c.isDigit = true := by
  obtain ⟨negative, whole, fraction⟩ := n
  simp only [text, List.mem_append] at hc
  rcases hc with (hc | hc) | hc
  · cases negative <;> simp_all
  · exact .inr (.inr (hn.whole_digits c hc))
  · cases fraction with
    | nil => simp at hc
    | cons d ds =>
      have hc' : c ∈ '.' :: d :: ds := by simpa using hc
      rcases List.mem_cons.1 hc' with rfl | hc'
      · exact .inr (.inl rfl)
      · exact .inr (.inr (hn.fraction_digits c hc'))

theorem text_ne_nil {n : Numeral} (hn : n.IsLiteral) : n.text ≠ [] := by
  have := hn.whole_ne_nil
  simp [text, this]

/-! ### Whole numbers -/

/-- The double nearest to a whole number. -/
def wholeValue (n : Int) : Float :=
  let size := Float.ofScientific n.natAbs true 0
  if n < 0 then -size else size

/-- A whole number in decimal. -/
def ofInt (n : Int) : Numeral := ⟨decide (n < 0), Nat.toDigits 10 n.natAbs, []⟩

theorem isLiteral_ofInt (n : Int) : (ofInt n).IsLiteral where
  whole_ne_nil := Nat.toDigits_ne_nil
  whole_digits c hc := Nat.isDigit_of_mem_toDigits (by decide) (by decide) hc
  fraction_digits := by simp [ofInt]

theorem text_ofInt (n : Int) : (ofInt n).text = (toString n).toList := by
  rw [Int.toString_eq_repr, Int.repr_eq_if]
  unfold text ofInt
  by_cases h : n < 0
  · have habs : (-n).toNat = n.natAbs := by omega
    simp [h, Int.not_le.2 h, habs, Nat.toList_repr]
  · have habs : n.toNat = n.natAbs := by omega
    simp [h, Int.not_lt.1 h, habs, Nat.toList_repr]

theorem value_ofInt (n : Int) : (ofInt n).value = wholeValue n := by
  have hdigits : digitsValue (Nat.toDigits 10 n.natAbs) = n.natAbs :=
    Nat.ofDigitChars_toDigits (by decide) (by decide)
  unfold value wholeValue ofInt
  rw [List.append_nil, hdigits]
  simp

theorem mem_toString {n : Int} {c : Char} (hc : c ∈ (toString n).toList) : c = '-' ∨ c.isDigit = true := by
  rw [← text_ofInt] at hc
  rcases List.mem_append.1 hc with hc | hc
  · rcases List.mem_append.1 hc with hc | hc
    · simp_all
    · exact .inr ((isLiteral_ofInt n).whole_digits c hc)
  · simp [ofInt] at hc

theorem not_mem_toString {c : Char} (hsign : c ≠ '-') (hdigit : c.isDigit = false) (n : Int) :
    c ∉ (toString n).toList := by
  intro hc
  rcases mem_toString hc with rfl | h
  · exact hsign rfl
  · simp [hdigit] at h

end RobotPhrase.Numeral
