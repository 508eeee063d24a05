import RobotPhrase.Proofs.Rules

/-!
# The kinds of answers

A rule gives commands of its own kind and asks about no others, so the kind of an answer tells which rule gave it.  Only
the rules for loops and for two tasks give compound commands (`twoTasks_of_kind?`, `loop_of_kind?`).  They and the rule
for routines look at the text of a sentence, and come first (`answerWith_eq`); the plain rules look at its tokens only
(`eq_of_mem_plainRules`).
-/

namespace RobotPhrase

open Vocabulary Grammar

section

variable {scene : Scene} {s : Sentence} {a : Answer}

theorem Gives.exists_kind {inner : Option (String → Answer)} {rule : Rule} {kinds : List CommandKind}
    (h : Gives inner rule kinds s a) (hinner : inner ≠ none) : ∃ kind ∈ kinds, a.kind? = some kind := by
  cases h with
  | understood _ hkind => exact ⟨_, hkind, rfl⟩
  | asked _ hkind => exact ⟨_, hkind, rfl⟩
  | nested hnone => exact absurd hnone hinner

theorem Gives.kind?_eq {inner : Option (String → Answer)} {rule : Rule} {kind : CommandKind}
    (h : Gives inner rule [kind] s a) (hinner : inner ≠ none) : a.kind? = some kind := by
  obtain ⟨k, hk, ha⟩ := h.exists_kind hinner
  rw [ha, List.mem_singleton.1 hk]

-- for the rules that read no phrase it does not matter how phrases are read
private theorem readsPhrases : some (fun _ : String => Answer.refused .empty) ≠ none := Option.some_ne_none _

theorem kind?_of_routineCall (h : routineCall scene s = some a) : a.kind? = some .routineCall :=
  (routineCall_gives h).kind?_eq readsPhrases

theorem kind?_of_twoTasks {read : String → Answer} (h : twoTasks (some read) scene s = some a) :
    a.kind? = some .multitask :=
  (twoTasks_gives h).kind?_eq (Option.some_ne_none read)

theorem kind?_of_loop {read : String → Answer} (h : loop (some read) scene s = some a) : a.kind? = some .loop :=
  (loop_gives h).kind?_eq (Option.some_ne_none read)

theorem kind?_of_watch (h : watch scene s = some a) : a.kind? = some .sensor ∨ a.kind? = some .sensorMove := by
  obtain ⟨kind, hkind, ha⟩ := (watch_gives h).exists_kind readsPhrases
  simp only [List.mem_cons, List.not_mem_nil, or_false] at hkind
  rw [ha]
  exact hkind.imp (congrArg some) (congrArg some)

theorem kind?_of_followLine (h : followLine scene s = some a) : a.kind? = some .lineFollow :=
  (followLine_gives h).kind?_eq readsPhrases

theorem kind?_of_taskOutline (h : taskOutline scene s = some a) : a.kind? = some .parallel :=
  (taskOutline_gives h).kind?_eq readsPhrases

theorem kind?_of_stop (h : stop scene s = some a) : a.kind? = some .stop :=
  (stop_gives h).kind?_eq readsPhrases

theorem kind?_of_setSpeed (h : setSpeed scene s = some a) : a.kind? = some .setSpeed :=
  (setSpeed_gives h).kind?_eq readsPhrases

theorem kind?_of_runMotor (h : runMotor scene s = some a) : a.kind? = some .motor :=
  (runMotor_gives h).kind?_eq readsPhrases

theorem kind?_of_preciseTurn (h : preciseTurn scene s = some a) : a.kind? = some .preciseTurn :=
  (preciseTurn_gives h).kind?_eq readsPhrases

theorem kind?_of_turn (h : turn scene s = some a) : a.kind? = some .turn :=
  (turn_gives h).kind?_eq readsPhrases

theorem kind?_of_move (h : move scene s = some a) : a.kind? = some .move :=
  (move_gives h).kind?_eq readsPhrases

theorem kind?_of_wait (h : wait scene s = some a) : a.kind? = some .wait :=
  (wait_gives h).kind?_eq readsPhrases

/-! ### Compound commands -/

/-- Whether an answer is about a loop or about two tasks. -/
def Answer.isCompound (a : Answer) : Bool := a.kind? == some .loop || a.kind? == some .multitask

theorem Answer.isCompound_iff (a : Answer) :
    a.isCompound = true ↔ a.kind? = some .loop ∨ a.kind? = some .multitask := by
  simp [isCompound]

/-- The rules behind those for routines, two tasks and loops. -/
def plainRules : List Rule :=
  [watch, followLine, taskOutline, stop, setSpeed, runMotor, preciseTurn, turn, move, wait]

theorem rules_eq (inner : Option (String → Answer)) :
    rules inner = routineCall :: twoTasks inner :: loop inner :: plainRules :=
  rfl

/-- These rules look at the tokens of a sentence only. -/
theorem eq_of_mem_plainRules {rule : Rule} (hrule : rule ∈ plainRules) {t : Sentence} (h : s.tokens = t.tokens) :
    rule scene s = rule scene t := by
  obtain ⟨text, tokens⟩ := s
  obtain ⟨text', tokens'⟩ := t
  obtain rfl : tokens = tokens' := h
  simp only [plainRules, List.mem_cons, List.not_mem_nil, or_false] at hrule
  rcases hrule with rfl | rfl | rfl | rfl | rfl | rfl | rfl | rfl | rfl | rfl <;> rfl

/-- The answer of these rules to a sentence. -/
def plainAnswer? (scene : Scene) (s : Sentence) : Option Answer := plainRules.findSome? fun rule => rule scene s

theorem plainAnswer?_eq_of_tokens {t : Sentence} (h : s.tokens = t.tokens) :
    plainAnswer? scene s = plainAnswer? scene t := by
  have hrules : ∀ rule ∈ plainRules, rule scene s = rule scene t := fun rule hrule => eq_of_mem_plainRules hrule h
  unfold plainAnswer?
  generalize plainRules = l at hrules ⊢
  induction l with
  | nil => rfl
  | cons rule rest ih =>
    rw [List.findSome?_cons, List.findSome?_cons, hrules rule (by simp), ih fun r hr => hrules r (by simp [hr])]

/-- Whether a routine is called shows in the tokens and in the trimmed sentence in lowercase. -/
theorem routineCall_eq_of_tokens {t : Sentence} (htokens : s.tokens = t.tokens)
    (htext : Text.lower (Text.trim s.text.toList) = Text.lower (Text.trim t.text.toList)) :
    routineCall scene s = routineCall scene t := by
  obtain ⟨text, tokens⟩ := s
  obtain ⟨text', tokens'⟩ := t
  obtain rfl : tokens = tokens' := htokens
  simp only [routineCall] at htext ⊢
  rw [htext]
  rfl

/-- The rules for routines, two tasks and loops come before the others, in this order. -/
theorem answerWith_eq (inner : Option (String → Answer)) (scene : Scene) (text : String) :
    answerWith inner scene text =
      if tokenize text = [] then .refused .empty
      else ((routineCall scene (.ofText text)).or ((twoTasks inner scene (.ofText text)).or
        ((loop inner scene (.ofText text)).or (plainAnswer? scene (.ofText text))))).getD (.refused .unrecognized) := by
  have hfirst : ((rules inner).findSome? fun rule => rule scene (.ofText text)) =
      (routineCall scene (.ofText text)).or ((twoTasks inner scene (.ofText text)).or
        ((loop inner scene (.ofText text)).or (plainAnswer? scene (.ofText text)))) := by
    rw [rules_eq]
    simp only [List.findSome?_cons, plainAnswer?]
    cases routineCall scene (.ofText text) <;> cases twoTasks inner scene (.ofText text) <;>
      cases loop inner scene (.ofText text) <;> rfl
  rw [answerWith_eq_findSome?, hfirst]

/-- The kinds of answers that the plain rules give. -/
def plainKinds : List CommandKind :=
  [.sensor, .sensorMove, .lineFollow, .parallel, .stop, .setSpeed, .motor, .preciseTurn, .turn, .move, .wait]

theorem exists_plainKind {rule : Rule} (hrule : rule ∈ plainRules) (h : rule scene s = some a) :
    ∃ kind ∈ plainKinds, a.kind? = some kind := by
  simp only [plainRules, List.mem_cons, List.not_mem_nil, or_false] at hrule
  rcases hrule with rfl | rfl | rfl | rfl | rfl | rfl | rfl | rfl | rfl | rfl
  · rcases kind?_of_watch h with hkind | hkind
    · exact ⟨_, by decide, hkind⟩
    · exact ⟨_, by decide, hkind⟩
  · exact ⟨_, by decide, kind?_of_followLine h⟩
  · exact ⟨_, by decide, kind?_of_taskOutline h⟩
  · exact ⟨_, by decide, kind?_of_stop h⟩
  · exact ⟨_, by decide, kind?_of_setSpeed h⟩
  · exact ⟨_, by decide, kind?_of_runMotor h⟩
  · exact ⟨_, by decide, kind?_of_preciseTurn h⟩
  · exact ⟨_, by decide, kind?_of_turn h⟩
  · exact ⟨_, by decide, kind?_of_move h⟩
  · exact ⟨_, by decide, kind?_of_wait h⟩

theorem isCompound_of_mem_plainRules {rule : Rule} (hrule : rule ∈ plainRules) (h : rule scene s = some a) :
    a.isCompound = false := by
  have hkinds : ∀ kind ∈ plainKinds, kind ≠ .loop ∧ kind ≠ .multitask := by decide
  obtain ⟨kind, hkind, ha⟩ := exists_plainKind hrule h
  simp [Answer.isCompound, ha, hkinds kind hkind]

theorem isCompound_of_routineCall (h : routineCall scene s = some a) : a.isCompound = false := by
  unfold Answer.isCompound
  rw [kind?_of_routineCall h]
  rfl

/-- A compound command comes from the rule for two tasks or from the one for loops. -/
theorem compound_cases {read : String → Answer} {text : String}
    (h : (answerWith (some read) scene text).isCompound = true) :
    twoTasks (some read) scene (.ofText text) = some (answerWith (some read) scene text) ∨
      loop (some read) scene (.ofText text) = some (answerWith (some read) scene text) := by
  rcases answerWith_cases (some read) scene text with ⟨-, he⟩ | ⟨-, rule, hrule, a, ha, he⟩ | ⟨-, -, he⟩
  · rw [he] at h
    simp [Answer.isCompound] at h
  · rw [he] at h ⊢
    rw [rules_eq, List.mem_cons, List.mem_cons, List.mem_cons] at hrule
    rcases hrule with rfl | rfl | rfl | hplain
    · rw [isCompound_of_routineCall ha] at h
      simp at h
    · exact .inl ha
    · exact .inr ha
    · rw [isCompound_of_mem_plainRules hplain ha] at h
      simp at h
  · rw [he] at h
    simp [Answer.isCompound] at h

theorem twoTasks_of_kind? {read : String → Answer} {text : String}
    (h : (answerWith (some read) scene text).kind? = some .multitask) :
    twoTasks (some read) scene (.ofText text) = some (answerWith (some read) scene text) := by
  have hcompound : (answerWith (some read) scene text).isCompound = true := by simp [Answer.isCompound, h]
  rcases compound_cases hcompound with htasks | hloop
  · exact htasks
  · simp [kind?_of_loop hloop] at h

theorem loop_of_kind? {read : String → Answer} {text : String}
    (h : (answerWith (some read) scene text).kind? = some .loop) :
    loop (some read) scene (.ofText text) = some (answerWith (some read) scene text) := by
  have hcompound : (answerWith (some read) scene text).isCompound = true := by simp [Answer.isCompound, h]
  rcases compound_cases hcompound with htasks | hloop
  · simp [kind?_of_twoTasks htasks] at h
  · exact hloop

/-- A call comes from the rule for routines. -/
theorem routineCall_of_kind? {read : String → Answer} {text : String}
    (h : (answerWith (some read) scene text).kind? = some .routineCall) :
    routineCall scene (.ofText text) = some (answerWith (some read) scene text) := by
  rcases answerWith_cases (some read) scene text with ⟨-, he⟩ | ⟨-, rule, hrule, a, ha, he⟩ | ⟨-, -, he⟩
  · rw [he] at h
    simp at h
  · rw [he] at h ⊢
    rw [rules_eq, List.mem_cons, List.mem_cons, List.mem_cons] at hrule
    rcases hrule with rfl | rfl | rfl | hplain
    · exact ha
    · simp [kind?_of_twoTasks ha] at h
    · simp [kind?_of_loop ha] at h
    · obtain ⟨kind, hkind, hsome⟩ := exists_plainKind hplain ha
      obtain rfl : kind = .routineCall := Option.some.inj (hsome.symm.trans h)
      exact absurd hkind (by decide)
  · rw [he] at h
    simp at h

end

end RobotPhrase
