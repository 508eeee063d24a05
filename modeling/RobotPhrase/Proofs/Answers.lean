import RobotPhrase.Answer

/-!
# Regular answers

Each rule sets the parts of its answers by itself.  They are meant to fit together: the kind of a command and the
confidence in it depend on the command only, and each value that may be missing is asked for in one way.  This module
says how they fit together, as three families of answers: `Answer.understood`, `Answer.ask` and `Answer.refused`.
-/

namespace RobotPhrase

namespace Command

def kind : Command → CommandKind
  | move .. => .move
  | turn .. => .turn
  | preciseTurn _ => .preciseTurn
  | wait _ => .wait
  | runMotor .. => .motor
  | stop _ => .stop
  | set .. => .setSpeed
  | watch _ (some _) => .sensorMove
  | watch _ none => .sensor
  | followLine _ => .lineFollow
  | loop .. => .loop
  | tasks .. => .multitask
  | taskOutline => .parallel
  | call .. => .routineCall
  | completed _ => .completed

def confidence : Command → Confidence
  | move .. | turn .. | call .. => ⟨95⟩
  | preciseTurn _ | wait _ | set .. | watch _ (some _) | stop (some _) | loop _ (some (.code _)) => ⟨90⟩
  | runMotor .. | watch _ none | tasks .. | stop none | completed _ => ⟨85⟩
  | followLine _ | loop _ (some (.remark _)) => ⟨75⟩
  | loop _ none | taskOutline => ⟨70⟩

/-- Whether a completer should refine the code. -/
def needsModel : Command → Bool
  | taskOutline => true
  | _ => false

end Command

/-- The values that a sentence may leave out. -/
inductive MissingValue
  | loopCount
  | speed
  | motorAngle (motor : String)
  | preciseAngle
  | turnAngle
  | moveDistance
  | waitDuration
  deriving DecidableEq, Repr

namespace MissingValue

/-- The kind of the command that lacks the value. -/
def kind : MissingValue → CommandKind
  | loopCount => .loop
  | speed => .setSpeed
  | motorAngle _ => .motor
  | preciseAngle => .preciseTurn
  | turnAngle => .turn
  | moveDistance => .move
  | waitDuration => .wait

def question : MissingValue → Question
  | loopCount => ⟨"count", .distance⟩
  | speed => ⟨"speed", .distance⟩
  | motorAngle _ | preciseAngle | turnAngle => ⟨"angle", .angle⟩
  | moveDistance => ⟨"distance", .distance⟩
  | waitDuration => ⟨"duration", .duration⟩

def wording : MissingValue → String
  | loopCount => "How many times should the action repeat?"
  | speed => "What speed should be set? (mm/s)"
  | motorAngle motor => "How many degrees should the " ++ motor ++ " motor run?"
  | preciseAngle => "What angle should the robot turn precisely?"
  | turnAngle => "What angle should the robot turn?"
  | moveDistance => "How far should the robot move?"
  | waitDuration => "How long should the robot wait?"

end MissingValue

/-- Why a sentence is refused. -/
inductive Refusal
  | empty
  /-- A compound command inside a compound command. -/
  | nested
  | unrecognized
  deriving DecidableEq, Repr

def Refusal.message : Refusal → String
  | empty => "Empty command"
  | nested => "Nested compound commands are not supported"
  | unrecognized => "Could not parse command"

namespace Answer

/-- The regular answer to a sentence that gives a command. -/
def understood (c : Command) : Answer := ⟨.success c, c.confidence, some c.kind, c.needsModel⟩

/-- The regular answer to a sentence that lacks a value. -/
def ask (v : MissingValue) : Answer := ⟨.needsClarification ⟨v.question, v.wording⟩, ⟨70⟩, some v.kind, false⟩

/-- The regular answer to a sentence that is refused; only what is not recognised is left to a completer. -/
def refused (r : Refusal) : Answer := ⟨.error r.message, ⟨0⟩, none, r == .unrecognized⟩

section

variable (c : Command) (v : MissingValue) (r : Refusal)

@[simp] theorem outcome_understood : (understood c).outcome = .success c := rfl
@[simp] theorem outcome_ask : (ask v).outcome = .needsClarification ⟨v.question, v.wording⟩ := rfl
@[simp] theorem outcome_refused : (refused r).outcome = .error r.message := rfl

@[simp] theorem kind?_understood : (understood c).kind? = some c.kind := rfl
@[simp] theorem kind?_ask : (ask v).kind? = some v.kind := rfl
@[simp] theorem kind?_refused : (refused r).kind? = none := rfl

@[simp] theorem confidence_understood : (understood c).confidence = c.confidence := rfl
@[simp] theorem needsModel_understood : (understood c).needsModel = c.needsModel := rfl

@[simp] theorem command?_understood : (understood c).command? = some c := rfl
@[simp] theorem command?_ask : (ask v).command? = none := rfl
@[simp] theorem command?_refused : (refused r).command? = none := rfl

@[simp] theorem isUnderstood_understood : (understood c).isUnderstood = true := rfl
@[simp] theorem isUnderstood_ask : (ask v).isUnderstood = false := rfl
@[simp] theorem isUnderstood_refused : (refused r).isUnderstood = false := rfl

@[simp] theorem status_understood : (understood c).status = .parsed := rfl
@[simp] theorem status_ask : (ask v).status = .needsClarification := rfl
@[simp] theorem status_refused : (refused r).status = if r = .unrecognized then .needsModel else .error := by
  cases r <;> rfl

end

theorem understood.inj {c d : Command} (h : understood c = understood d) : c = d :=
  Outcome.success.inj (congrArg outcome h)

@[simp]
theorem understood_inj {c d : Command} : understood c = understood d ↔ c = d :=
  ⟨understood.inj, congrArg understood⟩

@[simp]
theorem ask_ne_understood (v : MissingValue) (c : Command) : ask v ≠ understood c := by
  intro h
  simpa using congrArg outcome h

@[simp]
theorem refused_ne_understood (r : Refusal) (c : Command) : refused r ≠ understood c := by
  intro h
  simpa using congrArg outcome h

/-- The parts of the answer fit together. -/
def IsRegular (a : Answer) : Prop := (∃ c, a = understood c) ∨ (∃ v, a = ask v) ∨ ∃ r, a = refused r

theorem IsRegular.eq_understood {a : Answer} (ha : a.IsRegular) {c : Command} (h : a.command? = some c) :
    a = understood c := by
  obtain ⟨d, rfl⟩ | ⟨v, rfl⟩ | ⟨r, rfl⟩ := ha
  · rw [Option.some.inj h]
  · simp at h
  · simp at h

end Answer

end RobotPhrase
