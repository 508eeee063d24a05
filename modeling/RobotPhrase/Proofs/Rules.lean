import RobotPhrase.Proofs.Driving

/-!
# What the rules can answer

A rule that does not decline gives a command, or asks for a value that the sentence leaves out, or refuses a compound
command inside another one; `Gives` says under which conditions, and `gives_of_mem_rules` says that it covers all rules.
Everything known about answers is derived from it: `answerWith_cases` carries it over to the rules tried in order.

A rule asks only if the sentence has no number, and it would not decline if a number were added at the end.
-/

namespace RobotPhrase

open Vocabulary Grammar

/-! ### One more number at the end of a sentence -/

namespace Sentence

variable {s t : Sentence} {n : Numeral}

theorem numerals_eq_nil_iff : s.numerals = [] ↔ ∀ t ∈ s.tokens, t.isNumber = false := by
  unfold numerals
  rw [List.filterMap_eq_nil_iff]
  constructor
  · intro h t ht
    obtain ⟨i, hi⟩ := List.mem_iff_getElem?.1 ht
    cases t with
    | number n => simpa using h _ (List.mk_mem_zipIdx_iff_getElem?.2 hi)
    | word => rfl
  · rintro h ⟨t, i⟩ hi
    have ht := h t (List.fst_mem_of_mem_zipIdx hi)
    cases t with
    | number n => cases ht
    | word => rfl

theorem firstNumeral?_eq_none_iff : s.firstNumeral? = none ↔ s.numerals = [] := by
  simp [firstNumeral?]

/-- The tokens of `t` are those of `s` and the number `n`. -/
def Adds (s : Sentence) (n : Numeral) (t : Sentence) : Prop := t.tokens = s.tokens ++ [.number n]

namespace Adds

theorem numerals (h : s.Adds n t) : t.numerals = s.numerals ++ [(n, s.tokens.length)] := by
  unfold Sentence.numerals
  rw [h, List.zipIdx_append, List.filterMap_append]
  simp

theorem numerals_ne_nil (h : s.Adds n t) : t.numerals ≠ [] := by
  simp [h.numerals]

theorem has (h : s.Adds n t) (kind : WordClass) : t.has kind = s.has kind := by
  simp only [Sentence.has, show t.tokens = _ from h, List.any_append]
  simp [Token.is]

theorem first? (h : s.Adds n t) (kind : WordClass) : t.first? kind = s.first? kind := by
  simp only [Sentence.first?, show t.tokens = _ from h, List.find?_append]
  simp [Token.is]

theorem hasVerb (h : s.Adds n t) (verbs : List String) : t.hasVerb verbs = s.hasVerb verbs := by
  simp only [Sentence.hasVerb, show t.tokens = _ from h, List.any_append]
  simp [Token.is]

theorem direction? (h : s.Adds n t) : t.direction? = s.direction? := by
  simp only [Sentence.direction?, h.first?]

/-- A motor that is named stays named. -/
theorem isSome_motor? (h : s.Adds n t) {motors : List String} (hs : (s.motor? motors).isSome) :
    (t.motor? motors).isSome := by
  unfold Sentence.motor? at hs ⊢
  rw [h.first?]
  split at hs
  · rfl
  · rw [show t.tokens = _ from h, List.findSome?_append]
    simp [hs]

end Adds

end Sentence

/-! ### Answers of a rule -/

/-- A command of one sentence, without phrases that are read on their own. -/
def Command.isSimple : Command → Bool
  | loop .. | tasks .. | completed _ => false
  | _ => true

/-- The commands that rules build if phrases are read by `inner`. -/
inductive Command.BuiltBy (inner : Option (String → Answer)) : Command → Prop
  | simple {c : Command} (h : c.isSimple = true) : BuiltBy inner c
  | loop {read : String → Answer} (h : inner = some read) (count : Int) (phrase : Option String) :
    BuiltBy inner (.loop count (phrase.map (blockOf read)))
  | tasks {read : String → Answer} (h : inner = some read) (first second : String) :
    BuiltBy inner (.tasks first second (blockOf read first) (blockOf read second))

/-- A rule that is not put off by a number at the end of a sentence. -/
def Persists (rule : Rule) : Prop :=
  ∀ {scene : Scene} {s t : Sentence} {n : Numeral}, s.Adds n t → (rule scene s).isSome → (rule scene t).isSome

/-- The answers that a rule for commands of certain kinds can give to a sentence. -/
inductive Gives (inner : Option (String → Answer)) (rule : Rule) (kinds : List CommandKind) (s : Sentence) :
    Answer → Prop
  | understood {c : Command} (h : c.BuiltBy inner) (hkind : c.kind ∈ kinds) : Gives inner rule kinds s (.understood c)
  /-- Only a sentence without a number is asked about, and by a rule that a number does not put off. -/
  | asked (v : MissingValue) (hkind : v.kind ∈ kinds) (hnone : s.numerals = []) (hrule : Persists rule) :
    Gives inner rule kinds s (.ask v)
  | nested (h : inner = none) : Gives inner rule kinds s (.refused .nested)

section

variable {inner : Option (String → Answer)} {scene : Scene} {s : Sentence} {a : Answer}

private theorem gives_simple {rule : Rule} {kinds : List CommandKind} {c : Command} (h : c.isSimple = true)
    (hkind : c.kind ∈ kinds) : Gives inner rule kinds s (.understood c) :=
  .understood (.simple h) hkind

theorem routineCall_gives (h : routineCall scene s = some a) : Gives inner routineCall [.routineCall] s a := by
  obtain ⟨⟨routine, rest⟩, -, rfl⟩ := Option.map_eq_some_iff.1 h
  exact gives_simple rfl (List.mem_singleton.2 rfl)

theorem twoTasks_gives (h : twoTasks inner scene s = some a) : Gives inner (twoTasks inner) [.multitask] s a := by
  obtain ⟨⟨first, second⟩, -, rfl⟩ := Option.map_eq_some_iff.1 h
  cases inner with
  | none => exact .nested rfl
  | some read => exact .understood (.tasks rfl first second) (List.mem_singleton.2 rfl)

theorem watch_eq_some (h : watch scene s = some a) :
    ∃ w, watched? s = some w ∧ a = .understood (.watch w (drivingSpeed? s)) := by
  unfold watch at h
  split at h
  · obtain ⟨w, hw, rfl⟩ := Option.map_eq_some_iff.1 h
    refine ⟨w, hw, ?_⟩
    cases drivingSpeed? s <;> rfl
  · simp at h

theorem watch_gives (h : watch scene s = some a) : Gives inner watch [.sensor, .sensorMove] s a := by
  obtain ⟨w, -, rfl⟩ := watch_eq_some h
  refine gives_simple rfl ?_
  cases drivingSpeed? s <;> simp [Command.kind]

theorem followLine_gives (h : followLine scene s = some a) : Gives inner followLine [.lineFollow] s a := by
  unfold followLine at h
  split at h
  · obtain rfl := Option.some.inj h
    exact gives_simple rfl (List.mem_singleton.2 rfl)
  · simp at h

theorem taskOutline_gives (h : taskOutline scene s = some a) : Gives inner taskOutline [.parallel] s a := by
  unfold taskOutline at h
  split at h
  · obtain rfl := Option.some.inj h
    exact gives_simple rfl (List.mem_singleton.2 rfl)
  · simp at h

theorem stop_eq_some (h : stop scene s = some a) : a = .understood (.stop (s.motor? scene.motors)) := by
  unfold stop at h
  split at h
  · obtain rfl := Option.some.inj h
    cases s.motor? scene.motors <;> rfl
  · simp at h

theorem stop_gives (h : stop scene s = some a) : Gives inner stop [.stop] s a := by
  rw [stop_eq_some h]
  exact gives_simple rfl (List.mem_singleton.2 rfl)

/-! ### The rules that ask -/

theorem isSome_loop : (loop inner scene s).isSome = s.has .repetition := by
  unfold loop
  cases s.has .repetition with
  | false => rfl
  | true =>
    cases inner with
    | none => rfl
    | some read => cases s.firstNumeral? <;> rfl

private theorem loop_persists : Persists (loop inner) := by
  intro scene s t n ht hs
  rw [isSome_loop] at hs ⊢
  rwa [ht.has]

theorem loop_gives (h : loop inner scene s = some a) : Gives inner (loop inner) [.loop] s a := by
  unfold loop at h
  split at h
  · cases inner with
    | none =>
      obtain rfl := Option.some.inj h
      exact .nested rfl
    | some read =>
      simp only at h
      split at h
      · rename_i hn
        obtain rfl := Option.some.inj h
        exact .asked .loopCount (List.mem_singleton.2 rfl) (Sentence.firstNumeral?_eq_none_iff.1 hn) loop_persists
      · rename_i n hn
        obtain rfl := Option.some.inj h
        by_cases hempty : (loopBody s.text.toList).isEmpty = true
        · rw [if_pos hempty]
          exact .understood (.loop rfl (wholeOr n 1) none) (List.mem_singleton.2 rfl)
        · rw [if_neg hempty]
          exact .understood (.loop rfl (wholeOr n 1) (some _)) (List.mem_singleton.2 rfl)
  · simp at h

theorem isSome_setSpeed :
    (setSpeed scene s).isSome =
      (s.has .speed && !s.hasVerb moveVerbs && !(s.hasVerb turnVerbs && s.has .direction && !s.hasVerb setVerbs)) := by
  unfold setSpeed
  cases s.has .speed <;> cases s.hasVerb moveVerbs <;> try rfl
  cases s.hasVerb turnVerbs && s.has .direction && !s.hasVerb setVerbs with
  | true => rfl
  | false => cases s.firstNumeral? <;> rfl

private theorem setSpeed_persists : Persists setSpeed := by
  intro scene s t n ht hs
  rw [isSome_setSpeed] at hs ⊢
  simpa only [ht.has, ht.hasVerb] using hs

theorem setSpeed_gives (h : setSpeed scene s = some a) : Gives inner setSpeed [.setSpeed] s a := by
  unfold setSpeed at h
  split at h
  · simp at h
  split at h
  · simp at h
  split at h
  · rename_i hn
    obtain rfl := Option.some.inj h
    exact .asked .speed (List.mem_singleton.2 rfl) (Sentence.firstNumeral?_eq_none_iff.1 hn) setSpeed_persists
  · obtain rfl := Option.some.inj h
    exact gives_simple rfl (List.mem_singleton.2 rfl)

theorem isSome_runMotor :
    (runMotor scene s).isSome = (s.hasVerb runVerbs && (s.motor? scene.motors).isSome) := by
  unfold runMotor
  cases s.hasVerb runVerbs <;> simp

private theorem runMotor_persists : Persists runMotor := by
  intro scene s t n ht hs
  rw [isSome_runMotor, Bool.and_eq_true] at hs ⊢
  exact ⟨by rw [ht.hasVerb, hs.1], ht.isSome_motor? hs.2⟩

theorem runMotor_eq_some (h : runMotor scene s = some a) :
    ∃ motor, s.motor? scene.motors = some motor ∧
      ((s.firstNumeral? = none ∧ a = .ask (.motorAngle motor)) ∨
        ∃ n, s.firstNumeral? = some n ∧
          a = .understood (.runMotor motor (truncate scene.robot.motorSpeed) (truncate n.value))) := by
  unfold runMotor at h
  split at h
  · obtain ⟨motor, hmotor, rfl⟩ := Option.map_eq_some_iff.1 h
    refine ⟨motor, hmotor, ?_⟩
    split
    · rename_i hn
      exact .inl ⟨hn, rfl⟩
    · rename_i n hn
      exact .inr ⟨n, hn, rfl⟩
  · simp at h

theorem runMotor_gives (h : runMotor scene s = some a) : Gives inner runMotor [.motor] s a := by
  obtain ⟨motor, -, ⟨hn, rfl⟩ | ⟨n, -, rfl⟩⟩ := runMotor_eq_some h
  · exact .asked _ (List.mem_singleton.2 rfl) (Sentence.firstNumeral?_eq_none_iff.1 hn) runMotor_persists
  · exact gives_simple rfl (List.mem_singleton.2 rfl)

theorem isSome_wait : (wait scene s).isSome = s.hasVerb waitVerbs := by
  unfold wait
  cases s.hasVerb waitVerbs with
  | false => rfl
  | true => cases s.firstNumeral? <;> rfl

private theorem wait_persists : Persists wait := by
  intro scene s t n ht hs
  rw [isSome_wait] at hs ⊢
  rwa [ht.hasVerb]

theorem wait_eq_some (h : wait scene s = some a) :
    (s.firstNumeral? = none ∧ a = .ask .waitDuration) ∨
      ∃ n, s.firstNumeral? = some n ∧ a = .understood (.wait
        (truncate (n.value * ((s.first? .unit).bind fun unit => timeFactor? unit.text).getD 1000))) := by
  unfold wait at h
  split at h
  · split at h
    · rename_i hn
      exact .inl ⟨hn, (Option.some.inj h).symm⟩
    · rename_i n hn
      exact .inr ⟨n, hn, (Option.some.inj h).symm⟩
  · simp at h

theorem wait_gives (h : wait scene s = some a) : Gives inner wait [.wait] s a := by
  obtain ⟨hn, rfl⟩ | ⟨n, -, rfl⟩ := wait_eq_some h
  · exact .asked _ (List.mem_singleton.2 rfl) (Sentence.firstNumeral?_eq_none_iff.1 hn) wait_persists
  · exact gives_simple rfl (List.mem_singleton.2 rfl)

theorem isSome_preciseTurn :
    (preciseTurn scene s).isSome =
      (s.hasVerb turnVerbs && s.has .precise && !s.direction?.any fun d => d ≠ "left" && d ≠ "right") := by
  unfold preciseTurn
  dsimp only
  cases s.hasVerb turnVerbs <;> cases s.has .precise <;> try rfl
  cases s.direction?.any fun d => d ≠ "left" && d ≠ "right" with
  | true => rfl
  | false => cases s.firstNumeral? <;> rfl

private theorem preciseTurn_persists : Persists preciseTurn := by
  intro scene s t n ht hs
  rw [isSome_preciseTurn] at hs ⊢
  rwa [ht.hasVerb, ht.has, ht.direction?]

theorem preciseTurn_gives (h : preciseTurn scene s = some a) : Gives inner preciseTurn [.preciseTurn] s a := by
  unfold preciseTurn at h
  simp only at h
  split at h
  · simp at h
  split at h
  · simp at h
  split at h
  · rename_i hn
    obtain rfl := Option.some.inj h
    exact .asked .preciseAngle (List.mem_singleton.2 rfl) (Sentence.firstNumeral?_eq_none_iff.1 hn) preciseTurn_persists
  · obtain rfl := Option.some.inj h
    exact gives_simple rfl (List.mem_singleton.2 rfl)

theorem isSome_turn :
    (turn scene s).isSome =
      ((s.hasVerb turnVerbs || s.direction?.isSome) && !s.direction?.any fun d => d ≠ "left" && d ≠ "right") := by
  unfold turn
  simp only [← Option.not_isSome]
  cases s.hasVerb turnVerbs <;> cases s.direction?.isSome <;> try rfl
  all_goals
    cases s.direction?.any fun d => d ≠ "left" && d ≠ "right" with
    | true => rfl
    | false => cases s.numerals.head? <;> rfl

private theorem turn_persists : Persists turn := by
  intro scene s t n ht hs
  rw [isSome_turn] at hs ⊢
  rwa [ht.hasVerb, ht.direction?]

theorem turn_gives (h : turn scene s = some a) : Gives inner turn [.turn] s a := by
  have hrule : Drive.turn.rule scene s = some a := h
  obtain ⟨hn, rfl⟩ | ⟨n, i, -, rfl⟩ := Drive.turn.answer_of_rule hrule
  · exact .asked .turnAngle (List.mem_singleton.2 rfl) (List.head?_eq_none_iff.1 hn) turn_persists
  · exact gives_simple rfl (List.mem_singleton.2 rfl)

theorem isSome_move :
    (move scene s).isSome =
      ((s.hasVerb moveVerbs || s.direction?.isSome) && !s.direction?.any fun d => d ≠ "forward" && d ≠ "backward") := by
  unfold move
  simp only [← Option.not_isSome]
  cases s.hasVerb moveVerbs <;> cases s.direction?.isSome <;> try rfl
  all_goals
    cases s.direction?.any fun d => d ≠ "forward" && d ≠ "backward" with
    | true => rfl
    | false => cases distanceNumeral? s <;> rfl

private theorem move_persists : Persists move := by
  intro scene s t n ht hs
  rw [isSome_move] at hs ⊢
  rwa [ht.hasVerb, ht.direction?]

private theorem numerals_eq_nil_of_distanceNumeral? (h : distanceNumeral? s = none) : s.numerals = [] := by
  unfold distanceNumeral? at h
  rw [Option.or_eq_none_iff] at h
  exact List.head?_eq_none_iff.1 h.2

theorem move_gives (h : move scene s = some a) : Gives inner move [.move] s a := by
  have hrule : Drive.straight.rule scene s = some a := h
  obtain ⟨hn, rfl⟩ | ⟨n, i, -, rfl⟩ := Drive.straight.answer_of_rule hrule
  · exact .asked .moveDistance (List.mem_singleton.2 rfl) (numerals_eq_nil_of_distanceNumeral? hn) move_persists
  · exact gives_simple rfl (List.mem_singleton.2 rfl)

/-! ### The rules in order -/

/-- Every rule gives one of the known answers or declines. -/
theorem gives_of_mem_rules {rule : Rule} (hrule : rule ∈ rules inner) (h : rule scene s = some a) :
    ∃ kinds, Gives inner rule kinds s a := by
  simp only [rules, List.mem_cons, List.not_mem_nil, or_false] at hrule
  rcases hrule with rfl | rfl | rfl | rfl | rfl | rfl | rfl | rfl | rfl | rfl | rfl | rfl | rfl
  · exact ⟨_, routineCall_gives h⟩
  · exact ⟨_, twoTasks_gives h⟩
  · exact ⟨_, loop_gives h⟩
  · exact ⟨_, watch_gives h⟩
  · exact ⟨_, followLine_gives h⟩
  · exact ⟨_, taskOutline_gives h⟩
  · exact ⟨_, stop_gives h⟩
  · exact ⟨_, setSpeed_gives h⟩
  · exact ⟨_, runMotor_gives h⟩
  · exact ⟨_, preciseTurn_gives h⟩
  · exact ⟨_, turn_gives h⟩
  · exact ⟨_, move_gives h⟩
  · exact ⟨_, wait_gives h⟩

/-- An answer comes from the first rule that does not decline; there is none for an empty sentence. -/
theorem answerWith_cases (inner : Option (String → Answer)) (scene : Scene) (text : String) :
    (tokenize text = [] ∧ answerWith inner scene text = .refused .empty) ∨
    (tokenize text ≠ [] ∧ ∃ rule ∈ rules inner, ∃ a, rule scene (.ofText text) = some a ∧
      answerWith inner scene text = a) ∨
    (tokenize text ≠ [] ∧ (∀ rule ∈ rules inner, rule scene (.ofText text) = none) ∧
      answerWith inner scene text = .refused .unrecognized) := by
  rw [answerWith_eq_findSome?]
  by_cases hempty : tokenize text = []
  · left
    exact ⟨hempty, if_pos hempty⟩
  · right
    rw [if_neg hempty]
    cases hfind : (rules inner).findSome? fun rule => rule scene (.ofText text) with
    | none => exact .inr ⟨hempty, List.findSome?_eq_none_iff.1 hfind, rfl⟩
    | some a =>
      obtain ⟨rule, hrule, ha⟩ := List.exists_of_findSome?_eq_some hfind
      exact .inl ⟨hempty, rule, hrule, a, ha, rfl⟩

/-- Every answer is regular. -/
theorem isRegular_answerWith (inner : Option (String → Answer)) (scene : Scene) (text : String) :
    (answerWith inner scene text).IsRegular := by
  rcases answerWith_cases inner scene text with ⟨-, he⟩ | ⟨-, rule, hrule, a, ha, he⟩ | ⟨-, -, he⟩
  · exact .inr (.inr ⟨.empty, he⟩)
  · rw [he]
    obtain ⟨kinds, hgives⟩ := gives_of_mem_rules hrule ha
    cases hgives with
    | @understood c => exact .inl ⟨c, rfl⟩
    | asked v => exact .inr (.inl ⟨v, rfl⟩)
    | nested => exact .inr (.inr ⟨.nested, rfl⟩)
  · exact .inr (.inr ⟨.unrecognized, he⟩)

theorem isRegular_interpretWithin (budget : Nat) (scene : Scene) (text : String) :
    (interpretWithin budget scene text).IsRegular := by
  obtain ⟨inner, he⟩ := exists_interpretWithin_eq budget scene text
  rw [he]
  exact isRegular_answerWith inner scene text

theorem isRegular_interpret (scene : Scene) (text : String) : (interpret scene text).IsRegular :=
  isRegular_answerWith _ scene text

theorem builtBy_of_answerWith {text : String} {c : Command} (h : answerWith inner scene text = .understood c) :
    c.BuiltBy inner := by
  rcases answerWith_cases inner scene text with ⟨-, he⟩ | ⟨-, rule, hrule, a, ha, he⟩ | ⟨-, -, he⟩
  · simp [he] at h
  · obtain rfl : a = .understood c := he.symm.trans h
    obtain ⟨kinds, hgives⟩ := gives_of_mem_rules hrule ha
    cases hgives with
    | understood hc => exact hc
  · simp [he] at h

end

end RobotPhrase
