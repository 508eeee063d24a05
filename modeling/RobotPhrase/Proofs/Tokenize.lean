import RobotPhrase.Proofs.Numeral
import RobotPhrase.Proofs.Search
import RobotPhrase.Token.Scan

/-!
# Tokens of sentences put together

Behind a blank a sentence starts anew: the tokens of two sentences with a blank between them are the tokens of the one
and then those of the other (`tokenize_append_blank`), and so with any white space between them.  A literal on its own
is one number (`tokenize_literal`), and with letters right behind it a number and a word (`wordTokens_literal_append`).
Blanks around a sentence give it no tokens (`tokenize_trimmed`).
-/

namespace RobotPhrase

/-- Lowercasing does not look past a blank, and so the words before it and behind it are found apart. -/
theorem sentenceWords_append_cons {b : Char} (hb : Text.isBlank b = true) (cs ds : List Char) :
    sentenceWords (cs ++ b :: ds) = sentenceWords cs ++ sentenceWords ds := by
  have hblank : Text.isBlank (if isPunctuation b then ' ' else b) = true := by
    split
    · decide
    · exact hb
  unfold sentenceWords
  rw [Text.lower_append_cons hb, List.map_append, List.map_cons, Text.words_append_cons hblank]

theorem tokenize_append_blank (a b : String) : tokenize (a ++ " " ++ b) = tokenize a ++ tokenize b := by
  have htext : (a ++ " " ++ b).toList = a.toList ++ ' ' :: b.toList := by simp
  unfold tokenize
  rw [htext, sentenceWords_append_cons (by decide), List.flatMap_append]

/-- Blanks in front of a sentence give it no words. -/
private theorem sentenceWords_blanks_append {gap : List Char} (hgap : Text.AllBlank gap) (ds : List Char) :
    sentenceWords (gap ++ ds) = sentenceWords ds := by
  induction gap with
  | nil => rfl
  | cons b gap ih =>
    have hfirst : sentenceWords (b :: (gap ++ ds)) = sentenceWords [] ++ sentenceWords (gap ++ ds) :=
      sentenceWords_append_cons (hgap b (by simp)) [] (gap ++ ds)
    rw [List.cons_append, hfirst, ih fun c hc => hgap c (by simp [hc])]
    rfl

/-- A sentence starts anew behind a space, and behind any white space. -/
theorem tokenize_append_gap (a b : String) :
    tokenize (a ++ " " ++ b) = tokenize a ++ tokenize b ∧
      ∀ gap : String, gap ≠ "" → Text.AllBlank gap.toList → tokenize (a ++ gap ++ b) = tokenize a ++ tokenize b := by
  refine ⟨tokenize_append_blank a b, fun gap hne hgap => ?_⟩
  obtain ⟨c, rest, hsplit⟩ := List.exists_cons_of_ne_nil (l := gap.toList) (by simpa using hne)
  rw [hsplit] at hgap
  have htext : (a ++ gap ++ b).toList = a.toList ++ c :: (rest ++ b.toList) := by simp [hsplit]
  have hrest : Text.AllBlank rest := fun d hd => hgap d (by simp [hd])
  unfold tokenize
  rw [htext, sentenceWords_append_cons (hgap c (by simp)), sentenceWords_blanks_append hrest, List.flatMap_append]

/-- The sigma before the gap is the last letter of its word, also if a cased letter stands behind the gap. -/
theorem tokenize_append_gap_sigma :
    ("\u2003\t" ≠ "" ∧ Text.AllBlank "\u2003\t".toList) ∧
      tokenize ("GO ΤΕΛΟΣ" ++ "\u2003\t" ++ "Α 5cm") = tokenize "GO ΤΕΛΟΣ" ++ tokenize "Α 5cm" := by
  have hne : "\u2003\t" ≠ "" := by decide
  have hblank : Text.AllBlank "\u2003\t".toList := List.all_eq_true.1 (by decide)
  exact ⟨⟨hne, hblank⟩, (tokenize_append_gap "GO ΤΕΛΟΣ" "Α 5cm").2 _ hne hblank⟩

/-- A character that reading a sentence leaves alone. -/
def IsKept (c : Char) : Prop :=
  (c.toNat < 128 ∧ c.toLower = c) ∧ isPunctuation c = false ∧ Text.isBlank c = false

theorem isKept_digit {c : Char} (hc : c.isDigit = true) : IsKept c := by
  have hall : ∀ k, k ≤ 57 → 48 ≤ k → IsKept (Char.ofNat k) := by
    unfold IsKept
    decide
  simp only [Char.isDigit, Bool.and_eq_true, decide_eq_true_eq] at hc
  exact Text.of_codes hall (UInt32.le_iff_toNat_le.1 hc.1) (UInt32.le_iff_toNat_le.1 hc.2)

private theorem toNat_of_isSmallLetter {c : Char} (h : isSmallLetter c = true) : 97 ≤ c.toNat ∧ c.toNat ≤ 122 := by
  simp only [isSmallLetter, Bool.and_eq_true, decide_eq_true_eq] at h
  exact ⟨UInt32.le_iff_toNat_le.1 h.1, UInt32.le_iff_toNat_le.1 h.2⟩

theorem isDigit_of_isSmallLetter {c : Char} (h : isSmallLetter c = true) : c.isDigit = false := by
  have hletter := toNat_of_isSmallLetter h
  rw [Bool.eq_false_iff]
  intro hdigit
  simp only [Char.isDigit, Bool.and_eq_true, decide_eq_true_eq] at hdigit
  have hhigh : c.toNat ≤ 57 := UInt32.le_iff_toNat_le.1 hdigit.2
  omega

theorem isKept_of_isSmallLetter {c : Char} (h : isSmallLetter c = true) : IsKept c := by
  have hall : ∀ k, k ≤ 122 → 97 ≤ k → IsKept (Char.ofNat k) := by
    unfold IsKept
    decide
  obtain ⟨hlow, hhigh⟩ := toNat_of_isSmallLetter h
  exact Text.of_codes hall hlow hhigh

theorem isKept_of_letters {cs : List Char} (h : cs.all isSmallLetter = true) : ∀ c ∈ cs, IsKept c :=
  fun c hc => isKept_of_isSmallLetter (List.all_eq_true.1 h c hc)

theorem isKept_literal {n : Numeral} (hn : n.IsLiteral) {c : Char} (hc : c ∈ n.text) : IsKept c := by
  rcases Numeral.mem_text hn hc with rfl | rfl | hdigit
  · unfold IsKept; decide
  · unfold IsKept; decide
  · exact isKept_digit hdigit

theorem sentenceWords_literal {n : Numeral} (hn : n.IsLiteral) : sentenceWords n.text = [n.text] := by
  have hlower : Text.lower n.text = n.text := Text.lower_eq_self fun c hc => (isKept_literal hn hc).1
  have hmap : n.text.map (fun c => if isPunctuation c then ' ' else c) = n.text := by
    refine (List.map_congr_left fun c hc => ?_).trans (List.map_id _)
    simp [(isKept_literal hn hc).2.1]
  unfold sentenceWords
  rw [hlower, hmap]
  exact Text.words_eq_singleton (Numeral.text_ne_nil hn) fun c hc => (isKept_literal hn hc).2.2

theorem wordTokens_literal {n : Numeral} (hn : n.IsLiteral) : wordTokens n.text = [.number n] := by
  have hread := Numeral.read?_text_append hn Numeral.stops_nil
  rw [List.append_nil] at hread
  simp [wordTokens, hread]

/-- Letters right behind a literal do not belong to it. -/
private theorem stops_of_letters {cs : List Char} (h : cs.all isSmallLetter = true) : Numeral.Stops cs := by
  intro c hc
  have hletter := List.all_eq_true.1 h c (List.mem_of_head? hc)
  refine ⟨isDigit_of_isSmallLetter hletter, ?_⟩
  rintro rfl
  exact absurd hletter (by decide)

/-- A word of letters is one token. -/
theorem wordTokens_letters {cs : List Char} (h : cs.all isSmallLetter = true) :
    wordTokens cs = [classify (String.ofList cs)] := by
  have hread : Numeral.read? cs = none := by
    cases cs with
    | nil => rfl
    | cons c cs =>
      have hc : isSmallLetter c = true := List.all_eq_true.1 h c (by simp)
      refine Numeral.read?_cons_eq_none_iff.2 ⟨isDigit_of_isSmallLetter hc, ?_⟩
      rintro rfl
      exact absurd hc (by decide)
  simp [wordTokens, hread]

theorem wordTokens_literal_append {n : Numeral} (hn : n.IsLiteral) {cs : List Char} (hne : cs ≠ [])
    (hcs : cs.all isSmallLetter = true) : wordTokens (n.text ++ cs) = [.number n, classify (String.ofList cs)] := by
  have hread := Numeral.read?_text_append hn (stops_of_letters hcs)
  rw [wordTokens, hread]
  simp [hcs, hne]

/-- A literal is one number. -/
theorem tokenize_literal {n : Numeral} (hn : n.IsLiteral) : tokenize (String.ofList n.text) = [.number n] := by
  unfold tokenize
  rw [String.toList_ofList, sentenceWords_literal hn, List.flatMap_cons, wordTokens_literal hn]
  rfl

/-! ### Blanks around a sentence -/

theorem sentenceWords_trim (cs : List Char) : sentenceWords (Text.trim cs) = sentenceWords cs := by
  obtain ⟨before, after, hbefore, hafter, hcs⟩ := Text.exists_append_trim_append cs
  have hblanks {bs : List Char} (hbs : Text.AllBlank bs) :
      Text.AllBlank (bs.map fun c => if isPunctuation c then ' ' else c) := by
    intro c hc
    obtain ⟨b, hb, rfl⟩ := List.mem_map.1 hc
    split
    · decide
    · exact hbs b hb
  conv => rhs; rw [hcs]
  unfold sentenceWords
  rw [Text.lower_around hbefore hafter, List.map_append, List.map_append,
    Text.words_around (hblanks hbefore) (hblanks hafter)]

theorem tokenize_trimmed (text : String) : tokenize (Text.trimmed text) = tokenize text := by
  unfold tokenize Text.trimmed
  rw [String.toList_ofList, sentenceWords_trim]

/-- A sentence is not empty if a character in it belongs to a word. -/
theorem tokenize_ne_nil {text : String} {c : Char} (hkept : IsKept c) (hc : c ∈ Text.lower text.toList) :
    tokenize text ≠ [] := by
  obtain ⟨-, hpunctuation, hblank⟩ := hkept
  have hmem : c ∈ (Text.lower text.toList).map fun c => if isPunctuation c then ' ' else c :=
    List.mem_map.2 ⟨c, hc, by simp [hpunctuation]⟩
  obtain ⟨w, hw, -⟩ := Text.exists_mem_words_of_mem hmem hblank
  have hne : wordTokens w ≠ [] := by
    unfold wordTokens
    split
    · split <;> simp
    · simp
  intro hnil
  exact hne (List.flatMap_eq_nil_iff.1 hnil w hw)

/-! ### Sentences made of words -/

/-- Without punctuation the tokens of a sentence are those of its words. -/
theorem tokenize_eq_flatMap {text : String}
    (h : ∀ w ∈ Text.words (Text.lower text.toList), ∀ c ∈ w, isPunctuation c = false) :
    tokenize text = (Text.words (Text.lower text.toList)).flatMap wordTokens := by
  have hnone : ∀ c ∈ Text.lower text.toList, isPunctuation c = false := by
    intro c hc
    rw [Bool.eq_false_iff]
    intro hpunctuation
    have hblank : Text.isBlank c = false := by
      simp only [isPunctuation, List.contains_eq_mem, List.mem_cons, List.not_mem_nil, or_false,
        decide_eq_true_eq] at hpunctuation
      rcases hpunctuation with rfl | rfl | rfl | rfl | rfl <;> decide
    -- a punctuation mark is no blank, so it would stand in a word
    obtain ⟨w, hw, hcw⟩ := Text.exists_mem_words_of_mem hc hblank
    rw [h w hw c hcw] at hpunctuation
    simp at hpunctuation
  have hmap : (Text.lower text.toList).map (fun c => if isPunctuation c then ' ' else c) = Text.lower text.toList := by
    refine (List.map_congr_left fun c hc => ?_).trans (List.map_id _)
    simp [hnone c hc]
  unfold tokenize sentenceWords
  rw [hmap]

/-- Words with blanks between them are the words of the sentence. -/
theorem wordsOf_lowercase_intercalate {ws : List String} (h : ∀ w ∈ ws, w ≠ "" ∧ ∀ c ∈ w.toList, IsKept c) :
    Text.wordsOf (Text.lowercase (" ".intercalate ws)) = ws := by
  have hsingle : ∀ w ∈ ws, Text.words (Text.lower w.toList) = [w.toList] := by
    intro w hw
    obtain ⟨hne, hkept⟩ := h w hw
    rw [Text.lower_eq_self fun c hc => (hkept c hc).1]
    exact Text.words_eq_singleton (by simpa using hne) fun c hc => (hkept c hc).2.2
  have hwords : Text.words (Text.lower (" ".intercalate ws).toList) = ws.map String.toList := by
    induction ws with
    | nil => rfl
    | cons a ws ih =>
      cases ws with
      | nil => simpa using hsingle a (by simp)
      | cons b ws =>
        have htext : (" ".intercalate (a :: b :: ws)).toList = a.toList ++ ' ' :: (" ".intercalate (b :: ws)).toList := by
          rw [String.intercalate_cons_cons]
          simp
        have ih' := ih (fun w hw => h w (List.mem_cons_of_mem a hw)) fun w hw => hsingle w (List.mem_cons_of_mem a hw)
        rw [htext, Text.lower_append_blank, Text.words_append_blank, hsingle a (by simp), ih']
        rfl
  unfold Text.wordsOf Text.lowercase
  rw [String.toList_ofList, hwords, List.map_map]
  simp

end RobotPhrase
