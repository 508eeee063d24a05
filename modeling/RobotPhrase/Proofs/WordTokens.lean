import RobotPhrase.Proofs.Lexicon
import RobotPhrase.Proofs.Tokenize

/-!
# Words and their tokens

The words of a sentence are what stands between its blanks and punctuation marks (`sentenceWords_eq`).  A word becomes
a number, perhaps with a word of letters behind it, exactly if it is a literal with letters behind it, and otherwise one
word (`wordTokens_cases`).  The tokens keep the spelling of the word, so the tokens of a sentence spell the sentence
without what separates its words.
-/

namespace RobotPhrase

open Text

/-! ### The words of a sentence -/

/-- A character that separates words. -/
def isSeparator (c : Char) : Bool := isBlank c || isPunctuation c

/-- The texts between the separators of a sentence in lowercase. -/
def separatedWords (text : List Char) : List (List Char) :=
  (pieces isSeparator (lower text)).filter fun w => !w.isEmpty

/-- A punctuation mark counts as a blank. -/
private theorem pieces_map_punctuation (cs : List Char) :
    pieces isBlank (cs.map fun c => if isPunctuation c then ' ' else c) = pieces isSeparator cs := by
  have hblank : isBlank ' ' = true := by decide
  induction cs with
  | nil => rfl
  | cons c cs ih =>
    rw [List.map_cons, pieces, pieces, ih]
    cases hc : isPunctuation c with
    | true => simp [isSeparator, hc, hblank]
    | false => simp [isSeparator, hc]

theorem sentenceWords_eq (text : List Char) : sentenceWords text = separatedWords text := by
  unfold sentenceWords words separatedWords
  rw [pieces_map_punctuation]

/-- Cutting a text into pieces loses the separators only. -/
theorem flatten_pieces (p : Char → Bool) (cs : List Char) : (pieces p cs).flatten = cs.filter fun c => !p c := by
  have hkept {w : List Char} (hw : ∀ c ∈ w, p c = false) : (w.filter fun c => !p c) = w := by
    rw [List.filter_eq_self]
    intro c hc
    simp [hw c hc]
  induction cs using pieces_induction (p := p) with
  | piece w hw => rw [pieces_eq_singleton hw, List.flatten_singleton, hkept hw]
  | separator w c cs hw hc ih =>
    rw [pieces_append hc, pieces_eq_singleton hw, List.flatten_append, List.flatten_singleton, ih, List.filter_append,
      hkept hw, List.filter_cons_of_neg (by simp [hc])]

theorem flatten_separatedWords (text : List Char) :
    (separatedWords text).flatten = (lower text).filter fun c => !isSeparator c := by
  unfold separatedWords
  rw [List.flatten_filter_not_isEmpty, flatten_pieces]

/-! ### The tokens of a word -/

theorem raw_classify (word : String) : (classify word).raw = word := by
  obtain ⟨kind, canonical, h⟩ := (classified_classify word).exists_eq
  rw [h]
  rfl

theorem isNumber_classify (word : String) : (classify word).isNumber = false := by
  obtain ⟨kind, canonical, h⟩ := (classified_classify word).exists_eq
  rw [h]
  rfl

/-- No class of words has the name of the numbers. -/
theorem Token.kindName_eq_number_iff (t : Token) : t.kindName = "number" ↔ t.isNumber = true := by
  cases t with
  | number n => simp [kindName, isNumber]
  | word kind raw canonical =>
    have hkind : kind.name ≠ "number" := by cases kind <;> decide
    simp [kindName, isNumber, hkind]

/-- A literal with letters behind it, as in `-?[0-9]+(\.[0-9]+)?[a-z]*`. -/
def IsNumberWord (w : List Char) : Prop :=
  ∃ (n : Numeral) (letters : List Char), n.IsLiteral ∧ letters.all isSmallLetter = true ∧ w = n.text ++ letters

/-- The tokens of a literal and the letters behind it. -/
def numberTokens (n : Numeral) (letters : List Char) : List Token :=
  .number n :: (if letters = [] then [] else [classify (String.ofList letters)])

theorem wordTokens_number {n : Numeral} (hn : n.IsLiteral) {letters : List Char}
    (hletters : letters.all isSmallLetter = true) : wordTokens (n.text ++ letters) = numberTokens n letters := by
  by_cases hnil : letters = []
  · subst hnil
    rw [List.append_nil, wordTokens_literal hn]
    rfl
  · rw [wordTokens_literal_append hn hnil hletters, numberTokens, if_neg hnil]

theorem wordTokens_of_not_isNumberWord {w : List Char} (h : ¬ IsNumberWord w) :
    wordTokens w = [classify (String.ofList w)] := by
  unfold wordTokens
  split
  · rename_i n rest hread
    obtain ⟨hn, -, hw⟩ := Numeral.read?_eq_some_iff.1 hread
    rw [if_neg]
    intro hrest
    exact h ⟨n, rest, hn, hrest, hw⟩
  · rfl

/-- A word is a literal with letters behind it and becomes a number, or it becomes one word. -/
theorem wordTokens_cases (w : List Char) :
    (∃ n letters, n.IsLiteral ∧ letters.all isSmallLetter = true ∧ w = n.text ++ letters ∧
      wordTokens w = numberTokens n letters) ∨
    ¬ IsNumberWord w ∧ wordTokens w = [classify (String.ofList w)] := by
  by_cases h : IsNumberWord w
  · obtain ⟨n, letters, hn, hletters, rfl⟩ := h
    exact .inl ⟨n, letters, hn, hletters, rfl, wordTokens_number hn hletters⟩
  · exact .inr ⟨h, wordTokens_of_not_isNumberWord h⟩

/-- A literal at the front of a word does not reach into the letters behind its number. -/
theorem Numeral.isPrefix_of_letters {m n : Numeral} (hm : m.IsLiteral) {letters : List Char}
    (hletters : letters.all isSmallLetter = true) (h : m.text <+: n.text ++ letters) : m.text <+: n.text := by
  by_cases hlength : m.text.length ≤ n.text.length
  · exact List.prefix_of_prefix_length_le h (List.prefix_append n.text letters) hlength
  · -- otherwise the first of the letters would belong to the literal
    obtain ⟨more, hmore⟩ := List.prefix_of_prefix_length_le (List.prefix_append n.text letters) h (by omega)
    obtain ⟨c, cs, rfl⟩ : ∃ c cs, more = c :: cs := by
      apply List.exists_cons_of_ne_nil
      rintro rfl
      rw [← hmore] at hlength
      simp at hlength
    have hc : c ∈ letters := by
      rw [← hmore, List.prefix_append_right_inj] at h
      exact h.subset (by simp)
    have hletter : isSmallLetter c = true := List.all_eq_true.1 hletters c hc
    rcases Numeral.mem_text hm (c := c) (by simp [← hmore]) with rfl | rfl | hdigit
    · exact absurd hletter (by decide)
    · exact absurd hletter (by decide)
    · rw [isDigit_of_isSmallLetter hletter] at hdigit
      simp at hdigit

/-! ### The spelling of a sentence -/

/-- The tokens of a word spell the word. -/
theorem flatMap_raw_wordTokens (w : List Char) : (wordTokens w).flatMap (fun t => t.raw.toList) = w := by
  rcases wordTokens_cases w with ⟨n, letters, -, -, rfl, htokens⟩ | ⟨-, htokens⟩
  · have hnumber : (Token.number n).raw.toList = n.text := String.toList_ofList
    rw [htokens, numberTokens, List.flatMap_cons, hnumber]
    by_cases hnil : letters = []
    · simp [hnil]
    · simp [hnil, raw_classify]
  · rw [htokens]
    simp [raw_classify]

theorem raw_ne_empty {w : List Char} (hw : w ≠ []) {t : Token} (ht : t ∈ wordTokens w) : t.raw ≠ "" := by
  have hlist {cs : List Char} (hcs : cs ≠ []) : String.ofList cs ≠ "" := by simpa using hcs
  rcases wordTokens_cases w with ⟨n, letters, hn, -, -, htokens⟩ | ⟨-, htokens⟩
  · rw [htokens, numberTokens] at ht
    rcases List.mem_cons.1 ht with rfl | ht
    · exact hlist (Numeral.text_ne_nil hn)
    · split at ht
      · simp at ht
      · rename_i hnil
        obtain rfl := List.mem_singleton.1 ht
        rw [raw_classify]
        exact hlist hnil
  · rw [htokens] at ht
    obtain rfl := List.mem_singleton.1 ht
    rw [raw_classify]
    exact hlist hw

theorem tokenize_eq_separatedWords (text : String) :
    tokenize text = (separatedWords text.toList).flatMap wordTokens := by
  rw [← sentenceWords_eq]
  rfl

theorem isSeparator_of_mem_raw {text : String} {t : Token} (ht : t ∈ tokenize text) {c : Char} (hc : c ∈ t.raw.toList) :
    isSeparator c = false := by
  rw [tokenize_eq_separatedWords] at ht
  obtain ⟨w, hw, ht⟩ := List.mem_flatMap.1 ht
  have hmem : c ∈ w := by
    rw [← flatMap_raw_wordTokens w]
    exact List.mem_flatMap.2 ⟨t, ht, hc⟩
  exact not_of_mem_pieces (List.mem_filter.1 hw).1 c hmem

/-- The tokens of a sentence spell what is left of it in lowercase without blanks and punctuation marks. -/
theorem join_raw_tokenize (text : String) :
    String.join ((tokenize text).map Token.raw) =
        String.ofList ((lower text.toList).filter fun c => !(isBlank c || isPunctuation c)) ∧
      ∀ t ∈ tokenize text, t.raw ≠ "" := by
  constructor
  · have hspelled : ((tokenize text).map Token.raw).flatMap String.toList = (separatedWords text.toList).flatten := by
      rw [tokenize_eq_separatedWords, List.flatMap_map, List.flatMap_assoc]
      simp only [flatMap_raw_wordTokens, List.flatMap_id']
    rw [← String.ofList_toList (s := String.join _), String.toList_join, hspelled, flatten_separatedWords]
    rfl
  · intro t ht
    rw [tokenize_eq_separatedWords] at ht
    obtain ⟨w, hw, ht⟩ := List.mem_flatMap.1 ht
    have hne : w ≠ [] := by simpa using (List.mem_filter.1 hw).2
    exact raw_ne_empty hne ht

/-! ### The numbers of a sentence -/

private theorem exists_number_wordTokens_iff (w : List Char) :
    (∃ t ∈ wordTokens w, t.kindName = "number") ↔ IsNumberWord w := by
  simp only [Token.kindName_eq_number_iff]
  rcases wordTokens_cases w with ⟨n, letters, hn, hletters, hw, htokens⟩ | ⟨hnot, htokens⟩
  · rw [htokens]
    exact iff_of_true ⟨.number n, by simp [numberTokens], rfl⟩ ⟨n, letters, hn, hletters, hw⟩
  · rw [htokens]
    refine iff_of_false ?_ hnot
    rintro ⟨t, ht, hnumber⟩
    obtain rfl := List.mem_singleton.1 ht
    simp [isNumber_classify] at hnumber

/-- Just the words that are a literal with letters behind it give a number: the longest literal at their front. -/
theorem tokenize_numbers (text : String) :
    (∀ t ∈ tokenize text, t.value?.isSome = true ↔ t.kindName = "number") ∧
    tokenize text = (separatedWords text.toList).flatMap wordTokens ∧
    ∀ w ∈ separatedWords text.toList,
      ((∃ t ∈ wordTokens w, t.kindName = "number") ↔ IsNumberWord w) ∧
      (IsNumberWord w → ∃ n letters, w = n.text ++ letters ∧ letters.all isSmallLetter = true ∧ n.IsLiteral ∧
        (∀ m : Numeral, m.IsLiteral → m.text <+: w → m.text <+: n.text) ∧
        wordTokens w = .number n :: (if letters = [] then [] else [classify (String.ofList letters)])) ∧
      (¬ IsNumberWord w → ∃ t, wordTokens w = [t] ∧ t.kindName ≠ "number") := by
  refine ⟨?_, tokenize_eq_separatedWords text, fun w _ => ⟨exists_number_wordTokens_iff w, ?_, ?_⟩⟩
  · intro t _
    rw [Token.kindName_eq_number_iff]
    cases t <;> simp [Token.value?, Token.isNumber]
  · rintro ⟨n, letters, hn, hletters, rfl⟩
    refine ⟨n, letters, rfl, hletters, hn, ?_, wordTokens_number hn hletters⟩
    intro m hm hfront
    exact Numeral.isPrefix_of_letters hm hletters hfront
  · intro hnot
    refine ⟨_, wordTokens_of_not_isNumberWord hnot, ?_⟩
    rw [Ne, Token.kindName_eq_number_iff, isNumber_classify]
    simp

end RobotPhrase
