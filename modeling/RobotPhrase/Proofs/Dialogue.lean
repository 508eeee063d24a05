import RobotPhrase.Proofs.CheckedReading
import RobotPhrase.Proofs.Tokenize

/-!
# Asking once is enough

A question is asked only about a sentence without numbers, and the sentence with any number behind it is understood
(`understood_of_asked`).  The number may bring an earlier rule to answer, but rules ask for nothing in a sentence that
has a number, and the rule that asked does not decline, so the answer is a command.

In checked arithmetic the same question is asked, and there is the same answer to the sentence with the number, unless
that overflows.
-/

namespace RobotPhrase

/-- Behind a blank, a literal adds one number to a sentence. -/
private theorem adds_literal (text : String) {n : Numeral} (hn : n.IsLiteral) :
    (Sentence.ofText text).Adds n (.ofText (text ++ " " ++ String.ofList n.text)) := by
  unfold Sentence.Adds Sentence.ofText
  rw [tokenize_append_blank, tokenize_literal hn]

/-- The rule that asks about a sentence. -/
private theorem exists_rule_of_asked {read : String → Answer} {scene : Scene} {text : String}
    (h : (answerWith (some read) scene text).status = .needsClarification) :
    ∃ rule ∈ rules (some read), (rule scene (.ofText text)).isSome ∧ Persists rule ∧
      (Sentence.ofText text).numerals = [] := by
  rcases answerWith_cases (some read) scene text with ⟨-, he⟩ | ⟨-, rule, hrule, a, ha, he⟩ | ⟨-, -, he⟩
  · simp [he] at h
  · rw [he] at h
    obtain ⟨kinds, hgives⟩ := gives_of_mem_rules hrule ha
    cases hgives with
    | understood => simp at h
    | asked _ _ hnone hpersists => exact ⟨rule, hrule, by rw [ha]; rfl, hpersists, hnone⟩
    | nested hread => simp at hread
  · simp [he] at h

/-- A sentence with a number is understood if any rule answers it. -/
private theorem status_eq_parsed {read : String → Answer} {scene : Scene} {text : String}
    (hnumber : (Sentence.ofText text).numerals ≠ [])
    (hrule : ∃ rule ∈ rules (some read), (rule scene (.ofText text)).isSome) :
    (answerWith (some read) scene text).status = .parsed := by
  rcases answerWith_cases (some read) scene text with ⟨hempty, -⟩ | ⟨-, rule, hmem, a, ha, he⟩ | ⟨-, hnone, -⟩
  · exact absurd (Sentence.numerals_eq_nil_iff.2 (by simp [Sentence.ofText, hempty])) hnumber
  · rw [he]
    -- which rule answers does not matter: none of them can ask
    obtain ⟨kinds, hgives⟩ := gives_of_mem_rules hmem ha
    cases hgives with
    | understood => rfl
    | asked _ _ hnone => exact absurd hnone hnumber
    | nested hread => simp at hread
  · obtain ⟨rule, hmem, hsome⟩ := hrule
    simp [hnone rule hmem] at hsome

/-- A question does not overflow. -/
private theorem overflows_of_asked {scene : Scene} {text : String}
    (h : (interpret scene text).status = .needsClarification) (hnone : (Sentence.ofText text).numerals = []) :
    overflows scene text = false := by
  have hturn : turnsByLeast scene text = false := by
    simp [turnsByLeast, Sentence.negatesLeast, Sentence.firstNumeral?_eq_none_iff.2 hnone]
  have hphrases : (interpret scene text).phrases text = [] := by
    obtain ⟨c, he⟩ | ⟨v, he⟩ | ⟨r, he⟩ := isRegular_interpret scene text
    · simp [he] at h
    · rw [he]
      rfl
    · rw [he]
      rfl
  rw [overflows, hturn, hphrases]
  rfl

/-- A sentence about which a question is asked has no number, and with any number behind it, it is understood.  This
holds in wrapping arithmetic; checked arithmetic asks the same question, and it has the same answer to the sentence with
the number, unless there is none since the least whole number would be negated. -/
theorem understood_of_asked (scene : Scene) (text : String)
    (h : (interpret scene text).status = .needsClarification) :
    (∀ t ∈ tokenize text, t.isNumber = false) ∧ interpretChecked scene text = some (interpret scene text) ∧
      ∀ n : Numeral, n.IsLiteral →
        (interpret scene (text ++ " " ++ String.ofList n.text)).status = .parsed ∧
        interpretChecked scene (text ++ " " ++ String.ofList n.text) =
          if overflows scene (text ++ " " ++ String.ofList n.text) then none
          else some (interpret scene (text ++ " " ++ String.ofList n.text)) := by
  have hasked := h
  rw [interpret_eq_answerWith] at hasked
  obtain ⟨rule, hmem, hsome, hpersists, hnone⟩ := exists_rule_of_asked hasked
  have hchecked : interpretChecked scene text = some (interpret scene text) := by
    rw [interpretChecked_eq, overflows_of_asked h hnone]
    rfl
  refine ⟨Sentence.numerals_eq_nil_iff.1 hnone, hchecked, ?_⟩
  intro n hn
  have hadds := adds_literal text hn
  refine ⟨?_, interpretChecked_eq scene _⟩
  rw [interpret_eq_answerWith]
  exact status_eq_parsed hadds.numerals_ne_nil ⟨rule, hmem, hpersists hadds hsome⟩

/-- The "and" joins nothing as long as nothing stands behind it. -/
theorem understood_move_forward_and :
    (interpret ⟨{ }, ["attachment1"], ["square"]⟩ "move forward and").status = .needsClarification ∧
      Numeral.IsLiteral ⟨true, ['1', '2'], ['5']⟩ ∧
      (interpret ⟨{ }, ["attachment1"], ["square"]⟩ "move forward and -12.5").status = .parsed ∧
      (interpretChecked ⟨{ }, ["attachment1"], ["square"]⟩ "move forward and -12.5").isSome = true := by
  have hasked : (interpret ⟨{ }, ["attachment1"], ["square"]⟩ "move forward and").status = .needsClarification := by
    decide +kernel
  have hliteral : Numeral.IsLiteral ⟨true, ['1', '2'], ['5']⟩ := by decide
  have htext : "move forward and" ++ " " ++ String.ofList (Numeral.text ⟨true, ['1', '2'], ['5']⟩) =
      "move forward and -12.5" := by decide
  have hfits : overflows ⟨{ }, ["attachment1"], ["square"]⟩ "move forward and -12.5" = false := by decide +kernel
  obtain ⟨hparsed, hchecked⟩ := (understood_of_asked _ _ hasked).2.2 _ hliteral
  rw [htext] at hparsed hchecked
  rw [hfits] at hchecked
  exact ⟨hasked, hliteral, hparsed, by rw [hchecked]; rfl⟩

end RobotPhrase
