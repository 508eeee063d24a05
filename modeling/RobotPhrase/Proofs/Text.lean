import RobotPhrase.Text.Blank
import RobotPhrase.Text.LetterCase

/-!
# Texts put together

What the operations on texts make of a text that is put together from parts.  A blank separates: lowercasing, cutting
into pieces and cutting into words treat the texts on its two sides apart (`lower_append_cons`, `words_append_cons`).
So blanks around a text are left alone by lowercasing and lost by the others (`lower_around`, `words_around`,
`trim_around`).  A line feed separates lines in the same way, if the text before it ends plainly
(`lines_append_lineFeed`), so that texts written one under another have the lines of each of them (`linesOf_joinLines`).
-/

namespace RobotPhrase.Text

theorem not_mem_append {c : Char} {a b : String} (ha : c ∉ a.toList) (hb : c ∉ b.toList) : c ∉ (a ++ b).toList := by
  simp [ha, hb]

/-! ### Lowercasing -/

/-- What holds for the characters with all codes between two bounds holds for each character there. -/
theorem of_codes {p : Char → Prop} {low high : Nat} (h : ∀ k, k ≤ high → low ≤ k → p (Char.ofNat k)) {c : Char}
    (hlow : low ≤ c.toNat) (hhigh : c.toNat ≤ high) : p c := by
  have hc := h c.toNat hhigh hlow
  rwa [Char.ofNat_toNat] at hc

/-- The code points of the blanks. -/
def blankCodes : List Nat :=
  [9, 10, 11, 12, 13, 0x20, 0x85, 0xA0, 0x1680, 0x2000, 0x2001, 0x2002, 0x2003, 0x2004, 0x2005, 0x2006, 0x2007, 0x2008,
    0x2009, 0x200A, 0x2028, 0x2029, 0x202F, 0x205F, 0x3000]

theorem toNat_mem_blankCodes {c : Char} (h : isBlank c = true) : c.toNat ∈ blankCodes := by
  have hrange {low size : Nat} (hall : ∀ i < size, low + i ∈ blankCodes) {n : Nat} (hlow : low ≤ n)
      (hhigh : n < low + size) : n ∈ blankCodes := by
    have hn := hall (n - low) (by omega)
    rwa [Nat.add_sub_cancel' hlow] at hn
  simp only [isBlank, Bool.or_eq_true, Bool.and_eq_true, decide_eq_true_eq, beq_iff_eq] at h
  rcases h with ((((((((((⟨hlow, hhigh⟩ | h) | h) | h) | h) | ⟨hlow, hhigh⟩) | h) | h) | h) | h) | h)
  · exact hrange (by decide : ∀ i < 5, 9 + i ∈ blankCodes) hlow (by omega)
  · rw [h]; decide
  · rw [h]; decide
  · rw [h]; decide
  · rw [h]; decide
  · exact hrange (by decide : ∀ i < 11, 0x2000 + i ∈ blankCodes) hlow (by omega)
  · rw [h]; decide
  · rw [h]; decide
  · rw [h]; decide
  · rw [h]; decide
  · rw [h]; decide

/-- A blank is neither cased nor ignored for case, and stays as it is. -/
theorem caseless_of_isBlank {c : Char} (h : isBlank c = true) :
    isCaseIgnorable c = false ∧ isCased c = false ∧ ∀ before rest, lowerAt before c rest = [c] := by
  have hall : ∀ k ∈ blankCodes, isCaseIgnorable (Char.ofNat k) = false ∧ isCased (Char.ofNat k) = false ∧
      Char.ofNat k ≠ 'Σ' ∧ Char.ofNat k ≠ 'İ' ∧ lowerChar (Char.ofNat k) = Char.ofNat k := by
    decide +kernel
  obtain ⟨hi, hc, hsigma, hdotted, hlower⟩ := hall c.toNat (toNat_mem_blankCodes h)
  rw [Char.ofNat_toNat] at hi hc hsigma hdotted hlower
  refine ⟨hi, hc, fun before rest => ?_⟩
  rw [lowerAt, if_neg hsigma, if_neg hdotted, hlower]

section

variable {b : Char} (hb : isBlank b = true)

include hb

/-- What lies behind a blank does not tell whether a text starts with a cased letter. -/
private theorem startsCased_append_cons (cs ds : List Char) : startsCased (cs ++ b :: ds) = startsCased cs := by
  obtain ⟨hi, hc, -⟩ := caseless_of_isBlank hb
  unfold startsCased
  rw [List.dropWhile_append]
  cases h : cs.dropWhile isCaseIgnorable with
  -- all of `cs` is ignored, and the search ends at the blank
  | nil => simp [hi, hc]
  | cons c rest => simp

/-- What stands before a blank does not matter for the letters behind it. -/
private theorem lowerFrom_append_cons (near far cs : List Char) :
    lowerFrom (near ++ b :: far) cs = lowerFrom near cs := by
  induction cs generalizing near with
  | nil => rfl
  | cons c cs ih =>
    have hrest : lowerFrom (c :: (near ++ b :: far)) cs = lowerFrom (c :: near) cs := ih (c :: near)
    simp only [lowerFrom, lowerAt, startsCased_append_cons hb, hrest]

private theorem lowerFrom_cons (before cs : List Char) : lowerFrom before (b :: cs) = b :: lower cs := by
  have hat : lowerAt before b cs = [b] := (caseless_of_isBlank hb).2.2 before cs
  have hrest : lowerFrom (b :: before) cs = lower cs := lowerFrom_append_cons hb [] before cs
  rw [lowerFrom, hat, hrest]
  rfl

private theorem lowerFrom_append (before cs ds : List Char) :
    lowerFrom before (cs ++ b :: ds) = lowerFrom before cs ++ b :: lower ds := by
  induction cs generalizing before with
  | nil => exact lowerFrom_cons hb before ds
  | cons c cs ih =>
    have hat : lowerAt before c (cs ++ b :: ds) = lowerAt before c cs := by
      simp only [lowerAt, startsCased_append_cons hb]
    rw [List.cons_append, lowerFrom, hat, ih, lowerFrom, List.append_assoc]

/-- Lowercasing does not look past a blank, not even for the form of a sigma. -/
theorem lower_append_cons (cs ds : List Char) : lower (cs ++ b :: ds) = lower cs ++ b :: lower ds :=
  lowerFrom_append hb [] cs ds

end

@[inherit_doc lower_append_cons]
theorem lower_append_blank (cs ds : List Char) : lower (cs ++ ' ' :: ds) = lower cs ++ ' ' :: lower ds :=
  lower_append_cons (by decide) cs ds

/-- A text of ASCII characters. -/
def IsAscii (cs : List Char) : Prop := ∀ c ∈ cs, c.toNat < 128

instance (cs : List Char) : Decidable (IsAscii cs) :=
  decidable_of_iff (cs.all (fun c => c.toNat < 128) = true) (by simp [IsAscii])

/-- In a text of ASCII characters each letter is put in lowercase on its own. -/
theorem lower_eq_map {cs : List Char} (h : IsAscii cs) : lower cs = cs.map Char.toLower := by
  suffices ∀ before, lowerFrom before cs = cs.map Char.toLower from this []
  induction cs with
  | nil => intro before; rfl
  | cons c cs ih =>
    intro before
    have hsmall : c.toNat < 128 := h c (by simp)
    have hsigma : c ≠ 'Σ' := by rintro rfl; revert hsmall; decide
    have hdotted : c ≠ 'İ' := by rintro rfl; revert hsmall; decide
    have hat : lowerAt before c cs = [c.toLower] := by
      simp [lowerAt, lowerChar, hsigma, hdotted, hsmall]
    rw [lowerFrom, hat, ih (fun d hd => h d (by simp [hd]))]
    rfl

/-- A text of ASCII characters that are no capitals is in lowercase. -/
theorem lower_eq_self {cs : List Char} (h : ∀ c ∈ cs, c.toNat < 128 ∧ c.toLower = c) : lower cs = cs := by
  have hascii : IsAscii cs := fun c hc => (h c hc).1
  rw [lower_eq_map hascii]
  exact (List.map_congr_left fun c hc => (h c hc).2).trans (List.map_id cs)

/-! ### Pieces and words -/

theorem pieces_append {p : Char → Bool} {c : Char} (hc : p c = true) (cs ds : List Char) :
    pieces p (cs ++ c :: ds) = pieces p cs ++ pieces p ds := by
  induction cs with
  | nil => simp [pieces, hc]
  | cons a cs ih =>
    simp only [List.cons_append, pieces, ih]
    split
    · rfl
    · cases h : pieces p cs with
      | nil => exact absurd h (pieces_ne_nil p cs)
      | cons w ws => rfl

theorem pieces_eq_singleton {p : Char → Bool} {cs : List Char} (h : ∀ c ∈ cs, p c = false) : pieces p cs = [cs] := by
  induction cs with
  | nil => rfl
  | cons c cs ih =>
    have ih' := ih (fun d hd => h d (by simp [hd]))
    simp [pieces, h c (by simp), ih']

theorem words_append_cons {b : Char} (hb : isBlank b = true) (cs ds : List Char) :
    words (cs ++ b :: ds) = words cs ++ words ds := by
  unfold words
  rw [pieces_append hb, List.filter_append]

theorem words_append_blank (cs ds : List Char) : words (cs ++ ' ' :: ds) = words cs ++ words ds :=
  words_append_cons (by decide) cs ds

theorem pieces_map {p : Char → Bool} {f : Char → Char} (hf : ∀ c, p (f c) = p c) (cs : List Char) :
    pieces p (cs.map f) = (pieces p cs).map (List.map f) := by
  induction cs with
  | nil => rfl
  | cons c cs ih =>
    rw [List.map_cons, pieces, pieces, ih, hf]
    split
    · rfl
    · cases pieces p cs <;> rfl

theorem words_map {f : Char → Char} (hf : ∀ c, isBlank (f c) = isBlank c) (cs : List Char) :
    words (cs.map f) = (words cs).map (List.map f) := by
  have hempty : (fun w : List Char => !w.isEmpty) ∘ List.map f = fun w => !w.isEmpty := by
    funext w
    cases w <;> rfl
  unfold words
  rw [pieces_map hf, List.filter_map, hempty]

/-- A text without blanks is one word. -/
theorem words_eq_singleton {cs : List Char} (hne : cs ≠ []) (h : ∀ c ∈ cs, isBlank c = false) : words cs = [cs] := by
  unfold words
  rw [pieces_eq_singleton h]
  simp [hne]

/-! ### Trimming -/

@[simp]
theorem trim_nil : trim [] = [] := rfl

private theorem trimEnd_concat {b : Char} (hb : isBlank b = true) (cs : List Char) :
    trimEnd (cs ++ [b]) = trimEnd cs := by
  simp [trimEnd, hb]

/-- A blank behind a text is trimmed too. -/
theorem trim_concat {b : Char} (hb : isBlank b = true) (cs : List Char) : trim (cs ++ [b]) = trim cs := by
  unfold trim trimStart
  rw [List.dropWhile_append]
  cases h : cs.dropWhile isBlank with
  | nil => simp [hb]
  | cons c rest => simpa using trimEnd_concat hb (c :: rest)

/-- A text of blanks. -/
def AllBlank (cs : List Char) : Prop := ∀ c ∈ cs, isBlank c = true

theorem AllBlank.of_append_left {cs ds : List Char} (h : AllBlank (cs ++ ds)) : AllBlank cs :=
  fun c hc => h c (List.mem_append_left ds hc)

theorem AllBlank.of_append_right {cs ds : List Char} (h : AllBlank (cs ++ ds)) : AllBlank ds :=
  fun c hc => h c (List.mem_append_right cs hc)

/-- Trimming takes off blanks only. -/
theorem exists_append_trim_append (cs : List Char) :
    ∃ before after, AllBlank before ∧ AllBlank after ∧ cs = before ++ trim cs ++ after := by
  refine ⟨cs.takeWhile isBlank, ((trimStart cs).reverse.takeWhile isBlank).reverse, ?_, ?_, ?_⟩
  · exact List.all_eq_true.1 List.all_takeWhile
  · intro b hb
    exact List.all_eq_true.1 List.all_takeWhile b (List.mem_reverse.1 hb)
  · have hend : trim cs ++ ((trimStart cs).reverse.takeWhile isBlank).reverse = trimStart cs := by
      unfold trim trimEnd
      rw [← List.reverse_append, List.takeWhile_append_dropWhile, List.reverse_reverse]
    rw [List.append_assoc, hend]
    exact List.takeWhile_append_dropWhile.symm

/-- Characters are replaced in a trimmed text as before it is trimmed, if blanks stay blanks and no others are made. -/
theorem trim_map {f : Char → Char} (hf : ∀ c, isBlank (f c) = isBlank c) (cs : List Char) :
    trim (cs.map f) = (trim cs).map f := by
  have hblank : isBlank ∘ f = isBlank := funext hf
  unfold trim trimEnd trimStart
  rw [List.dropWhile_map, hblank, ← List.map_reverse, List.dropWhile_map, hblank, List.map_reverse]

/-! ### Blanks around a text -/

section

variable {before after : List Char} (hbefore : AllBlank before) (hafter : AllBlank after)

include hbefore in
private theorem lower_blanks_append (cs : List Char) : lower (before ++ cs) = before ++ lower cs := by
  induction before with
  | nil => rfl
  | cons b before ih =>
    have hb : isBlank b = true := hbefore b (by simp)
    have hlower : lower (b :: (before ++ cs)) = b :: lower (before ++ cs) := lower_append_cons hb [] (before ++ cs)
    rw [List.cons_append, hlower, ih fun c hc => hbefore c (by simp [hc])]
    rfl

include hafter in
private theorem lower_append_blanks (cs : List Char) : lower (cs ++ after) = lower cs ++ after := by
  cases after with
  | nil => simp
  | cons b after =>
    have hrest : lower after = after := by
      have h := lower_blanks_append (fun c hc => hafter c (List.mem_cons_of_mem b hc)) []
      rwa [List.append_nil, show lower [] = [] from rfl, List.append_nil] at h
    rw [lower_append_cons (hafter b (by simp)), hrest]

include hbefore hafter

/-- Blanks around a text stay as they are in lowercase. -/
theorem lower_around (cs : List Char) : lower (before ++ cs ++ after) = before ++ lower cs ++ after := by
  rw [lower_append_blanks hafter, lower_blanks_append hbefore]

/-- Blanks around a text give it no more words. -/
theorem words_around (cs : List Char) : words (before ++ cs ++ after) = words cs := by
  have hfront {bs : List Char} (hbs : AllBlank bs) (ds : List Char) : words (bs ++ ds) = words ds := by
    induction bs with
    | nil => rfl
    | cons b bs ih =>
      have hcut : words (b :: (bs ++ ds)) = words [] ++ words (bs ++ ds) :=
        words_append_cons (hbs b (by simp)) [] (bs ++ ds)
      rw [List.cons_append, hcut, ih fun c hc => hbs c (by simp [hc])]
      rfl
  rw [List.append_assoc, hfront hbefore]
  cases after with
  | nil => rw [List.append_nil]
  | cons b after =>
    have hrest := hfront (fun c hc => hafter c (List.mem_cons_of_mem b hc)) []
    rw [List.append_nil] at hrest
    rw [words_append_cons (hafter b (by simp)), hrest]
    exact List.append_nil _

/-- Blanks around a text are trimmed. -/
theorem trim_around (cs : List Char) : trim (before ++ cs ++ after) = trim cs := by
  have hback : trim (cs ++ after) = trim cs := by
    induction after generalizing cs with
    | nil => rw [List.append_nil]
    | cons b after ih =>
      rw [List.append_cons, ih fun c hc => hafter c (by simp [hc])]
      exact trim_concat (hafter b (by simp)) cs
  rw [← hback, List.append_assoc]
  unfold trim trimStart
  rw [List.dropWhile_append_of_pos hbefore]

end

theorem trim_eq_nil_iff {cs : List Char} : trim cs = [] ↔ AllBlank cs := by
  constructor
  · intro h
    obtain ⟨before, after, hbefore, hafter, hcs⟩ := exists_append_trim_append cs
    rw [h, List.append_nil] at hcs
    intro c hc
    rw [hcs, List.mem_append] at hc
    rcases hc with hc | hc
    · exact hbefore c hc
    · exact hafter c hc
  · intro h
    simpa using trim_around h (show AllBlank [] by simp [AllBlank]) []

/-- A text without blanks at its two ends is trimmed. -/
theorem trim_eq_self {cs : List Char} (hfirst : ∀ c, cs.head? = some c → isBlank c = false)
    (hlast : ∀ c, cs.getLast? = some c → isBlank c = false) : trim cs = cs := by
  have hdrop {ds : List Char} (hds : ∀ c, ds.head? = some c → isBlank c = false) : ds.dropWhile isBlank = ds := by
    cases ds with
    | nil => rfl
    | cons d ds => simp [hds d rfl]
  unfold trim trimEnd trimStart
  rw [hdrop hfirst, hdrop (by rwa [List.head?_reverse]), List.reverse_reverse]

theorem trim_trim (cs : List Char) : trim (trim cs) = trim cs := by
  obtain ⟨before, after, hbefore, hafter, hcs⟩ := exists_append_trim_append cs
  conv => rhs; rw [hcs]
  rw [trim_around hbefore hafter]

/-- A text has the same words without the blanks around it. -/
theorem words_trim (cs : List Char) : words (trim cs) = words cs := by
  obtain ⟨before, after, hbefore, hafter, hcs⟩ := exists_append_trim_append cs
  conv => rhs; rw [hcs]
  rw [words_around hbefore hafter]

@[inherit_doc words_trim]
theorem words_lower_trim (cs : List Char) : words (lower (trim cs)) = words (lower cs) := by
  obtain ⟨before, after, hbefore, hafter, hcs⟩ := exists_append_trim_append cs
  conv => rhs; rw [hcs]
  rw [lower_around hbefore hafter, words_around hbefore hafter]

/-! ### Lines -/

theorem trim_dropReturn (line : List Char) : trim (dropReturn line) = trim line := by
  unfold dropReturn
  split
  · rename_i h
    obtain ⟨cs, rfl⟩ := List.getLast?_eq_some_iff.1 h
    rw [List.dropLast_concat, trim_concat (by decide)]
  · rfl

/-- A text that ends in a character that is no part of a line break. -/
def EndsPlainly (cs : List Char) : Prop := ∃ c ∈ cs.getLast?, c ≠ '\n' ∧ c ≠ '\r'

instance (cs : List Char) : Decidable (EndsPlainly cs) :=
  decidable_of_iff (cs.getLast?.any (fun c => c ≠ '\n' && c ≠ '\r') = true) (by simp [EndsPlainly, Option.any_eq_true])

theorem EndsPlainly.ne_nil {cs : List Char} (h : EndsPlainly cs) : cs ≠ [] := by
  rintro rfl
  obtain ⟨c, hc, -⟩ := h
  simp at hc

theorem EndsPlainly.append_left {ds : List Char} (h : EndsPlainly ds) (cs : List Char) : EndsPlainly (cs ++ ds) := by
  obtain ⟨c, hc, hplain⟩ := h
  exact ⟨c, by rw [List.getLast?_append, hc]; rfl, hplain⟩

private theorem endLines_append {ls rest : List (List Char)} (hrest : rest ≠ []) :
    endLines (ls ++ rest) = ls.map dropReturn ++ endLines rest := by
  induction ls with
  | nil => rfl
  | cons l ls ih =>
    rw [List.cons_append, List.map_cons, List.cons_append, ← ih]
    cases h : ls ++ rest with
    | nil => exact absurd (List.append_eq_nil_iff.1 h).2 hrest
    | cons m ms => rfl

/-- The last piece of a text that ends plainly ends like the text. -/
private theorem getLast?_pieces {cs : List Char} (h : EndsPlainly cs) :
    ∃ ls l, pieces (· == '\n') cs = ls ++ [l] ∧ EndsPlainly l := by
  induction cs with
  | nil => exact absurd rfl h.ne_nil
  | cons c cs ih =>
    by_cases hcs : cs = []
    · subst hcs
      obtain ⟨d, hd, hfeed, hreturn⟩ := h
      obtain rfl : c = d := by simpa using hd
      exact ⟨[], [c], by simp [pieces, hfeed], c, rfl, hfeed, hreturn⟩
    · have hend : EndsPlainly cs := by
        obtain ⟨d, hd, hplain⟩ := h
        exact ⟨d, by rwa [List.getLast?_cons_of_ne_nil hcs] at hd, hplain⟩
      obtain ⟨ls, l, hls, hl⟩ := ih hend
      unfold pieces
      split
      · exact ⟨[] :: ls, l, by rw [hls]; rfl, hl⟩
      -- `c` goes to the front of the first piece, which may be the last one too
      · rw [hls]
        cases ls with
        | nil => exact ⟨[], c :: l, rfl, hl.append_left [c]⟩
        | cons m ls => exact ⟨(c :: m) :: ls, l, rfl, hl⟩

/-- In a text that ends plainly every piece between line feeds is a line. -/
private theorem lines_of_endsPlainly {cs : List Char} (h : EndsPlainly cs) :
    lines cs = (pieces (· == '\n') cs).map dropReturn := by
  obtain ⟨ls, l, hls, hl⟩ := getLast?_pieces h
  have hlast : endLines [l] = [l] := by simp [endLines, hl.ne_nil]
  have hreturn : dropReturn l = l := by
    obtain ⟨c, hc, -, hr⟩ := hl
    simp [dropReturn, Option.mem_def.1 hc, hr]
  rw [lines, hls, endLines_append (by simp), hlast, List.map_append]
  simp [hreturn]

/-- A line feed behind a plain end separates lines. -/
theorem lines_append_lineFeed {cs : List Char} (h : EndsPlainly cs) (ds : List Char) :
    lines (cs ++ '\n' :: ds) = lines cs ++ lines ds := by
  rw [lines_of_endsPlainly h, lines, pieces_append (by decide), endLines_append (pieces_ne_nil _ _)]
  rfl

theorem toList_joinLines_cons_cons (l m : String) (ls : List String) :
    (joinLines (l :: m :: ls)).toList = l.toList ++ '\n' :: (joinLines (m :: ls)).toList := by
  unfold joinLines
  rw [String.intercalate_cons_cons]
  simp

/-- Texts written one under another end like the last of them. -/
theorem endsPlainly_joinLines {ls : List String} {l : String} (h : ls.getLast? = some l) (hl : EndsPlainly l.toList) :
    EndsPlainly (joinLines ls).toList := by
  induction ls with
  | nil => simp at h
  | cons a ls ih =>
    cases ls with
    | nil =>
      obtain rfl : a = l := by simpa using h
      simpa [joinLines] using hl
    | cons b ls =>
      rw [toList_joinLines_cons_cons]
      exact ((ih (by simpa using h)).append_left ['\n']).append_left _

/-- Texts that end plainly, written one under another, have the lines of each of them in order. -/
theorem linesOf_joinLines {ls : List String} (h : ∀ l ∈ ls, EndsPlainly l.toList) :
    linesOf (joinLines ls) = ls.flatMap linesOf := by
  induction ls with
  | nil => rfl
  | cons a ls ih =>
    cases ls with
    | nil => simp [joinLines]
    | cons b ls =>
      have ha : EndsPlainly a.toList := h a (by simp)
      have ih' := ih (fun l hl => h l (List.mem_cons_of_mem _ hl))
      rw [List.flatMap_cons, ← ih', linesOf, toList_joinLines_cons_cons, lines_append_lineFeed ha, List.map_append]
      rfl

end RobotPhrase.Text
