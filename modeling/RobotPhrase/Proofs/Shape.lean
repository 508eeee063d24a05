import Mathlib.Logic.ExistsUnique
import RobotPhrase.Proofs.CheckedReading
import RobotPhrase.Proofs.Code

/-!
# The shapes of an answer

An answer is a success, a clarification or an error, and in each of these shapes its parts fit together: the kind of a
command fixes its confidence, a question belongs to the kind of command that lacks the value, and an error tells an
empty sentence from one that is not recognised.  Each rule sets the parts of its answers by itself; that they fit
together is known rule by rule (`gives_of_mem_rules`).  No other answer reaches the outside (`interpret_hasShape`);
above all the refusal of a nested command stays inside the compound command.
-/

namespace RobotPhrase

/-- The degrees of confidence in a command of a kind. -/
def CommandKind.confidences : CommandKind → List Confidence
  | move | turn | routineCall => [⟨95⟩]
  | preciseTurn | wait | setSpeed | sensorMove => [⟨90⟩]
  | motor | sensor | multitask => [⟨85⟩]
  | stop => [⟨90⟩, ⟨85⟩]
  | loop => [⟨90⟩, ⟨75⟩, ⟨70⟩]
  | lineFollow => [⟨75⟩]
  | parallel => [⟨70⟩]
  | completed => []

/-- The kinds of commands that may lack a value, with the name and the sort of the value. -/
def askable : List (CommandKind × String × ValueSort) := [
  (.loop, "count", .distance), (.setSpeed, "speed", .distance), (.motor, "angle", .angle),
  (.preciseTurn, "angle", .angle), (.turn, "angle", .angle), (.move, "distance", .distance),
  (.wait, "duration", .duration)]

namespace Answer

structure IsSuccess (a : Answer) : Prop where
  status : a.status = .parsed
  code : ∃ code, a.code? = some code ∧ code ≠ ""
  kind : ∃ kind, a.kind? = some kind ∧ kind ≠ .completed ∧ a.confidence ∈ kind.confidences ∧
    (a.needsModel = true ↔ kind = .parallel)

structure IsClarification (a : Answer) : Prop where
  status : a.status = .needsClarification
  question : ∃ kind c, a.kind? = some kind ∧ a.clarification? = some c ∧
    (kind, c.question.field, c.question.sort) ∈ askable
  confidence : a.confidence = ⟨70⟩
  needsModel : a.needsModel = false

/-- An error about a sentence with the given tokens. -/
structure IsError (a : Answer) (tokens : List Token) : Prop where
  status : a.status = if tokens = [] then .error else .needsModel
  message : a.errorMessage? = some (if tokens = [] then "Empty command" else "Could not parse command")
  needsModel : a.needsModel = true ↔ tokens ≠ []
  confidence : a.confidence = ⟨0⟩
  kind : a.kind? = none

end Answer

inductive Shape
  | success | clarification | error

/-- An answer to a sentence with the given tokens is of a shape. -/
def Answer.HasShape (a : Answer) (tokens : List Token) : Shape → Prop
  | .success => a.IsSuccess
  | .clarification => a.IsClarification
  | .error => a.IsError tokens

/-- The status tells the shapes apart. -/
private theorem Answer.HasShape.unique {a : Answer} {tokens : List Token} {x y : Shape} (hx : a.HasShape tokens x)
    (hy : a.HasShape tokens y) : x = y := by
  cases x <;> cases y <;> try rfl
  all_goals
    have := hx.status.symm.trans hy.status
    by_cases h : tokens = [] <;> simp [h] at this

private theorem Command.confidence_mem {c : Command} (h : c.kind ≠ .completed) :
    c.confidence ∈ c.kind.confidences := by
  cases c with
  | stop motor => cases motor <;> simp [confidence, kind, CommandKind.confidences]
  | watch condition driving => cases driving <;> simp [confidence, kind, CommandKind.confidences]
  | loop count body =>
    rcases body with _ | _ | _ <;> simp [confidence, kind, CommandKind.confidences]
  | completed code => exact absurd rfl h
  | _ => simp [confidence, kind, CommandKind.confidences]

private theorem Command.needsModel_iff (c : Command) : c.needsModel = true ↔ c.kind = .parallel := by
  cases c with
  | watch condition driving => cases driving <;> simp [needsModel, kind]
  | _ => simp [needsModel, kind]

private theorem Command.BuiltBy.kind_ne_completed {inner : Option (String → Answer)} {c : Command}
    (h : c.BuiltBy inner) : c.kind ≠ .completed := by
  cases h with
  | simple h =>
    cases c with
    | watch condition driving => cases driving <;> simp [kind]
    | completed code => simp [isSimple] at h
    | _ => simp [kind]
  | loop | tasks => simp [kind]

private theorem isSuccess_understood {c : Command} (hkind : c.kind ≠ .completed) (hend : c.HasPlainEnd) :
    (Answer.understood c).IsSuccess where
  status := rfl
  code := ⟨c.code, rfl, code_ne_empty hend⟩
  kind := ⟨c.kind, rfl, hkind, Command.confidence_mem hkind, Command.needsModel_iff c⟩

private theorem isClarification_ask (v : MissingValue) : (Answer.ask v).IsClarification where
  status := rfl
  question := by
    refine ⟨v.kind, ⟨v.question, v.wording⟩, rfl, rfl, ?_⟩
    cases v <;> simp [askable, MissingValue.kind, MissingValue.question]
  confidence := rfl
  needsModel := rfl

private theorem isError_empty : (Answer.refused .empty).IsError [] where
  status := rfl
  message := rfl
  needsModel := by decide
  confidence := rfl
  kind := rfl

private theorem isError_unrecognized {tokens : List Token} (h : tokens ≠ []) :
    (Answer.refused .unrecognized).IsError tokens where
  status := by rw [if_neg h]; rfl
  message := by rw [if_neg h]; rfl
  needsModel := iff_of_true rfl h
  confidence := rfl
  kind := rfl

/-- The answers that reach the outside. -/
private theorem interpret_cases (scene : Scene) (text : String) :
    (tokenize text = [] ∧ interpret scene text = .refused .empty) ∨
    (tokenize text ≠ [] ∧ ((∃ c, interpret scene text = .understood c ∧ c.kind ≠ .completed ∧ c.HasPlainEnd) ∨
      (∃ v, interpret scene text = .ask v) ∨ interpret scene text = .refused .unrecognized)) := by
  have hinterpret := interpret_eq_answerWith scene text
  rcases answerWith_cases _ scene text with ⟨hempty, he⟩ | ⟨hne, rule, hrule, a, ha, he⟩ | ⟨hne, -, he⟩
  · exact .inl ⟨hempty, hinterpret.trans he⟩
  · refine .inr ⟨hne, ?_⟩
    replace he : interpret scene text = a := hinterpret.trans he
    obtain ⟨kinds, hgives⟩ := gives_of_mem_rules hrule ha
    cases hgives with
    | @understood c hc => exact .inl ⟨c, he, hc.kind_ne_completed, hasPlainEnd_of_interpretWithin he⟩
    | asked v => exact .inr (.inl ⟨v, he⟩)
    -- a nested command is refused only by rules that may read no phrases
    | nested h => simp at h
  · exact .inr ⟨hne, .inr (.inr (hinterpret.trans he))⟩

private theorem exists_hasShape (scene : Scene) (text : String) :
    ∃ shape, (interpret scene text).HasShape (tokenize text) shape := by
  rcases interpret_cases scene text with ⟨hempty, he⟩ | ⟨hne, ⟨c, he, hkind, hend⟩ | ⟨v, he⟩ | he⟩
  · rw [he, hempty]
    exact ⟨.error, isError_empty⟩
  · rw [he]
    exact ⟨.success, isSuccess_understood hkind hend⟩
  · rw [he]
    exact ⟨.clarification, isClarification_ask v⟩
  · rw [he]
    exact ⟨.error, isError_unrecognized hne⟩

/-- Every answer has exactly one of the three shapes.  The error of an empty sentence is given to sentences without
tokens and to no others, and the error of a nested command is never given.  Checked arithmetic gives the same answers,
except that there is none where the least whole number would be negated. -/
theorem interpret_hasShape (scene : Scene) (text : String) :
    (∃! shape, (interpret scene text).HasShape (tokenize text) shape) ∧
      ((interpret scene text).errorMessage? = some "Empty command" ↔ tokenize text = []) ∧
      (interpret scene text).errorMessage? ≠ some "Nested compound commands are not supported" ∧
      interpretChecked scene text = if overflows scene text then none else some (interpret scene text) := by
  obtain ⟨shape, hshape⟩ := exists_hasShape scene text
  have hmessage : ((interpret scene text).errorMessage? = some "Empty command" ↔ tokenize text = []) ∧
      (interpret scene text).errorMessage? ≠ some "Nested compound commands are not supported" := by
    rcases interpret_cases scene text with ⟨hempty, he⟩ | ⟨hne, ⟨c, he, -, -⟩ | ⟨v, he⟩ | he⟩
    · simp [he, hempty, Answer.errorMessage?, Refusal.message]
    · simp [he, hne, Answer.errorMessage?]
    · simp [he, hne, Answer.errorMessage?]
    · simp [he, hne, Answer.errorMessage?, Refusal.message]
  exact ⟨⟨shape, hshape, fun y hy => hy.unique hshape⟩, hmessage.1, hmessage.2, interpretChecked_eq scene text⟩

end RobotPhrase
