import RobotPhrase.Proofs.Lowercase
import RobotPhrase.Proofs.WordTokens

/-!
# Reading tokens again

The tokens of a sentence, written out with spaces between them, are read as the same tokens.  A word of a sentence is in
lowercase and has no separators, so that it is one word also where it stands alone (`tokenize_plainWord`).  It remains
to see that a token is such a word and is read as itself (`tokenize_raw`): a number ends where its literal ends, the
letters behind it are no number, and a word that is no number has only one token.
-/

namespace RobotPhrase

open Text

/-- A word as it stands in a sentence: in lowercase and without separators. -/
structure IsPlainWord (w : List Char) : Prop where
  ne_nil : w ≠ []
  lowercase : ∀ c ∈ w, IsLowercase c
  unseparated : ∀ c ∈ w, isSeparator c = false

theorem isPlainWord_of_mem_separatedWords {text w : List Char} (hw : w ∈ separatedWords text) : IsPlainWord w := by
  obtain ⟨hpiece, hne⟩ := List.mem_filter.1 hw
  exact {
    ne_nil := by simpa using hne
    lowercase := fun c hc => isLowercase_of_mem_lower ((infix_of_mem_pieces hpiece).subset hc)
    unseparated := not_of_mem_pieces hpiece }

theorem tokenize_plainWord {w : List Char} (hw : IsPlainWord w) : tokenize (String.ofList w) = wordTokens w := by
  have hwords : separatedWords w = [w] := by
    unfold separatedWords
    rw [lower_of_isLowercase hw.lowercase, pieces_eq_singleton hw.unseparated]
    simp [hw.ne_nil]
  rw [tokenize_eq_separatedWords, String.toList_ofList, hwords, List.flatMap_singleton]

/-- The letters behind a number are a word of their own. -/
theorem tokenize_classify_letters {n : Numeral} {letters : List Char} (hw : IsPlainWord (n.text ++ letters))
    (hne : letters ≠ []) (hletters : letters.all isSmallLetter = true) :
    tokenize (classify (String.ofList letters)).raw = [classify (String.ofList letters)] := by
  have hplain : IsPlainWord letters := {
    ne_nil := hne
    lowercase := fun c hc => hw.lowercase c (List.mem_append_right n.text hc)
    unseparated := fun c hc => hw.unseparated c (List.mem_append_right n.text hc) }
  rw [raw_classify, tokenize_plainWord hplain, wordTokens_letters hletters]

/-- A token of a sentence is read as itself where it stands alone. -/
theorem tokenize_raw {text : String} {t : Token} (ht : t ∈ tokenize text) : tokenize t.raw = [t] := by
  rw [tokenize_eq_separatedWords] at ht
  obtain ⟨w, hmem, ht⟩ := List.mem_flatMap.1 ht
  have hw := isPlainWord_of_mem_separatedWords hmem
  rcases wordTokens_cases w with ⟨n, letters, hn, hletters, rfl, htokens⟩ | ⟨-, htokens⟩
  · rw [htokens, numberTokens, List.mem_cons] at ht
    rcases ht with rfl | ht
    · exact tokenize_literal hn
    · split at ht
      · simp at ht
      · rename_i hne
        obtain rfl := List.mem_singleton.1 ht
        exact tokenize_classify_letters hw hne hletters
  · rw [htokens, List.mem_singleton] at ht
    rw [ht, raw_classify, tokenize_plainWord hw, htokens]

theorem tokenize_intercalate (ws : List String) : tokenize (" ".intercalate ws) = ws.flatMap tokenize := by
  induction ws with
  | nil => rfl
  | cons a ws ih =>
    cases ws with
    | nil => simp
    | cons b ws => rw [List.flatMap_cons, ← ih, String.intercalate_cons_cons, tokenize_append_blank]

/-- The spellings of the tokens are a normal form of the sentence. -/
theorem tokenize_intercalate_raw (text : String) :
    tokenize (" ".intercalate ((tokenize text).map Token.raw)) = tokenize text := by
  rw [tokenize_intercalate, List.flatMap_map]
  calc (tokenize text).flatMap (fun t => tokenize t.raw)
    _ = (tokenize text).flatMap fun t => [t] := List.flatMap_congr fun t ht => tokenize_raw ht
    _ = tokenize text := List.flatMap_singleton' _

end RobotPhrase
