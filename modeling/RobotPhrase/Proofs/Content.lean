import RobotPhrase.Proofs.Kinds

/-!
# The content of a sentence

The plain words of a sentence do not matter to the rules that look at tokens: what these rules see of a sentence depends
on its content only, up to the places of numbers.  If the content is a verb, perhaps a direction, one number and perhaps
a unit, then only the rules for turning, moving and waiting can answer (`findSome?_plainRules`), and the direction and
the verb tell which of them does (`basicAnswer?_turn`, `basicAnswer?_move`, `basicAnswer?_wait`).
-/

namespace RobotPhrase

open Vocabulary Grammar

/-- The numeral that a token is. -/
def Token.numeral? : Token → Option Numeral
  | number n => some n
  | word .. => none

namespace Sentence

/-- The tokens of a sentence that are not plain words. -/
def content (s : Sentence) : List Token := s.tokens.filter fun t => !t.is .plain

variable {s : Sentence}

/-- Looking for a class of words, the plain ones can be left out. -/
private theorem any_content {kind : WordClass} (hkind : kind ≠ .plain) (p : Token → Bool) :
    (s.content.any fun t => t.is kind && p t) = s.tokens.any fun t => t.is kind && p t := by
  unfold content
  rw [List.any_filter]
  congr 1
  funext t
  cases t with
  | number n => rfl
  | word k raw canonical => by_cases hk : k = kind <;> simp [Token.is, hk, hkind]

theorem has_eq_any_content {kind : WordClass} (hkind : kind ≠ .plain) :
    s.has kind = s.content.any (Token.is kind) := by
  unfold has
  simpa using (any_content hkind fun _ => true).symm

theorem hasVerb_eq_any_content (verbs : List String) :
    s.hasVerb verbs = s.content.any fun t => t.is .verb && verbs.contains t.text :=
  (any_content (by decide) _).symm

theorem first?_eq_find?_content {kind : WordClass} (hkind : kind ≠ .plain) :
    s.first? kind = s.content.find? (Token.is kind) := by
  unfold first? content
  rw [List.find?_filter]
  congr 1
  funext t
  cases t with
  | number n => rfl
  | word k raw canonical => by_cases hk : k = kind <;> simp [Token.is, hk, hkind]

theorem map_fst_numerals : s.numerals.map Prod.fst = s.content.filterMap Token.numeral? := by
  have hcontent : s.content.filterMap Token.numeral? = s.tokens.filterMap Token.numeral? := by
    unfold content
    rw [List.filterMap_filter]
    congr 1
    funext t
    cases t <;> simp [Token.numeral?, Token.is]
  rw [hcontent]
  unfold numerals
  generalize 0 = start
  induction s.tokens generalizing start with
  | nil => rfl
  | cons t ts ih =>
    rw [List.zipIdx_cons]
    cases t with
    | number n => simpa [Token.numeral?] using ih (start + 1)
    | word => simpa [Token.numeral?, List.filterMap_cons] using ih (start + 1)

/-! ### A verb, a direction, a number and a unit -/

/-- The content of a command in its plainest form, in the order of its words. -/
def plainContent (verb : String) (direction : Option String) (n : Numeral) (unit : Option String) : List Token :=
  .word .verb verb (some verb) :: direction.toList.map (fun d => .word .direction d (some (canonicalDirection d)))
    ++ .number n :: unit.toList.map fun u => .word .unit u (some u)

section

variable {verb : String} {direction unit : Option String} {n : Numeral}

/-- A sentence of such a content has no other classes of words. -/
theorem has_plainContent (h : s.content = plainContent verb direction n unit) (kind : WordClass)
    (hkind : kind ∉ [.plain, .verb, .direction, .unit]) : s.has kind = false := by
  simp only [List.mem_cons, List.not_mem_nil, or_false, not_or] at hkind
  obtain ⟨hplain, hverb, hdirection, hunit⟩ := hkind
  rw [has_eq_any_content hplain, h]
  cases direction <;> cases unit <;>
    simp [plainContent, Token.is, Ne.symm hverb, Ne.symm hdirection, Ne.symm hunit]

theorem hasVerb_plainContent (h : s.content = plainContent verb direction n unit) (verbs : List String) :
    s.hasVerb verbs = verbs.contains verb := by
  rw [hasVerb_eq_any_content, h]
  cases direction <;> cases unit <;> simp [plainContent, Token.is, Token.text, Token.canonical?]

theorem direction?_plainContent (h : s.content = plainContent verb direction n unit) :
    s.direction? = direction.map canonicalDirection := by
  unfold direction?
  rw [first?_eq_find?_content (by decide), h]
  cases direction <;> cases unit <;> simp [plainContent, Token.is, Token.text, Token.canonical?]

theorem unit_plainContent (h : s.content = plainContent verb direction n unit) :
    (s.first? .unit).map Token.text = unit := by
  rw [first?_eq_find?_content (by decide), h]
  cases direction <;> cases unit <;> simp [plainContent, Token.is, Token.text, Token.canonical?]

theorem numerals_plainContent (h : s.content = plainContent verb direction n unit) : ∃ i, s.numerals = [(n, i)] := by
  have hfst : s.numerals.map Prod.fst = [n] := by
    rw [map_fst_numerals, h]
    cases direction <;> cases unit <;> rfl
  obtain ⟨⟨m, i⟩, hnumerals, rfl⟩ := List.map_eq_singleton_iff.1 hfst
  exact ⟨i, hnumerals⟩

theorem motor?_plainContent (h : s.content = plainContent verb direction n unit) : s.motor? [] = none := by
  have hfirst : s.first? .motor = none := by
    rw [first?_eq_find?_content (by decide), h]
    cases direction <;> cases unit <;> simp [plainContent, Token.is]
  unfold motor?
  rw [hfirst]
  simp

end

end Sentence

/-! ### Rules on such a content -/

section

variable {scene : Scene} {s : Sentence} {n : Numeral}

/-- A single number is no rate. -/
private theorem rate?_eq_none {i : Nat} (h : s.numerals = [(n, i)]) (used : Option Nat) : rate? s used = none := by
  simp [rate?, h]

/-- A single number is the distance, wherever it stands. -/
private theorem distanceNumeral?_eq {i : Nat} (h : s.numerals = [(n, i)]) : distanceNumeral? s = some (n, i) := by
  unfold distanceNumeral?
  rw [h]
  cases s.place? .unit with
  | none => rfl
  | some place => by_cases hi : i < place <;> simp [hi]

variable {verb d u : String} {direction unit : Option String}

open Sentence

/-- The answer of the rules for turning, moving and waiting. -/
def basicAnswer? (scene : Scene) (s : Sentence) : Option Answer :=
  (turn scene s).or ((move scene s).or (wait scene s))

/-- The other rules decline such a content. -/
theorem findSome?_plainRules (h : s.content = plainContent verb direction n unit) (hmotors : scene.motors = [])
    (hverb : verb ∉ stopVerbs) : (plainRules.findSome? fun rule => rule scene s) = basicAnswer? scene s := by
  have hwatch : watch scene s = none := by
    simp [watch, has_plainContent h .untilMark (by decide), has_plainContent h .whileMark (by decide)]
  have hfollow : followLine scene s = none := by
    simp [followLine, has_plainContent h .follow (by decide)]
  have houtline : taskOutline scene s = none := by
    simp [taskOutline, has_plainContent h .parallel (by decide)]
  have hstop : stop scene s = none := by
    simp [stop, hasVerb_plainContent h, hverb]
  have hspeed : setSpeed scene s = none := by
    simp [setSpeed, has_plainContent h .speed (by decide)]
  have hmotor : runMotor scene s = none := by
    simp [runMotor, hmotors, motor?_plainContent h]
  have hprecise : preciseTurn scene s = none := by
    simp [preciseTurn, has_plainContent h .precise (by decide)]
  simp only [plainRules, List.findSome?_cons, List.findSome?_nil, hwatch, hfollow, houtline, hstop, hspeed, hmotor,
    hprecise, basicAnswer?]
  cases turn scene s <;> cases move scene s <;> cases wait scene s <;> rfl

/-- A word for left or right makes the robot turn. -/
theorem basicAnswer?_turn (h : s.content = plainContent verb (some d) n unit) (hd : d ∈ leftWords ++ rightWords) :
    basicAnswer? scene s =
      some (.understood (.turn none (truncate (if d ∈ leftWords then -n.value else n.value)))) := by
  obtain ⟨i, hi⟩ := numerals_plainContent h
  have hcanonical : ∀ d ∈ leftWords ++ rightWords,
      canonicalDirection d = if d ∈ leftWords then "left" else "right" := by decide
  have hdirection : s.direction? = some (if d ∈ leftWords then "left" else "right") := by
    rw [direction?_plainContent h, Option.map_some, hcanonical d hd]
  have hturn : turn scene s =
      some (.understood (.turn none (truncate (if d ∈ leftWords then -n.value else n.value)))) := by
    unfold turn
    simp only [hdirection, hi, List.head?_cons, rate?_eq_none hi]
    by_cases hleft : d ∈ leftWords <;> simp [hleft] <;> rfl
  unfold basicAnswer?
  rw [hturn]
  rfl

/-- A word for forward or backward makes it move. -/
theorem basicAnswer?_move (h : s.content = plainContent verb (some d) n (some u))
    (hd : d ∈ forwardWords ++ backwardWords) {factor : Float} (hu : distanceFactor? u = some factor) :
    basicAnswer? scene s = some (.understood (.move none
      (truncate (if d ∈ backwardWords then -(n.value * factor) else n.value * factor)))) := by
  obtain ⟨i, hi⟩ := numerals_plainContent h
  obtain ⟨t, ht, htext⟩ := Option.map_eq_some_iff.1 (unit_plainContent h)
  have hcanonical : ∀ d ∈ forwardWords ++ backwardWords,
      canonicalDirection d = if d ∈ backwardWords then "backward" else "forward" := by decide
  have hdirection : s.direction? = some (if d ∈ backwardWords then "backward" else "forward") := by
    rw [direction?_plainContent h, Option.map_some, hcanonical d hd]
  have hturn : turn scene s = none := by
    unfold turn
    simp only [hdirection]
    by_cases hback : d ∈ backwardWords <;> simp [hback]
  have hmove : move scene s = some (.understood (.move none
      (truncate (if d ∈ backwardWords then -(n.value * factor) else n.value * factor)))) := by
    unfold move
    simp only [hdirection, distanceNumeral?_eq hi, rate?_eq_none hi, ht, Option.map_some, htext, hu]
    by_cases hback : d ∈ backwardWords <;> simp [hback] <;> rfl
  unfold basicAnswer?
  rw [hturn, hmove]
  rfl

/-- Without a direction the verb decides. -/
theorem basicAnswer?_wait (h : s.content = plainContent verb none n unit) (hturn : verb ∉ turnVerbs)
    (hmove : verb ∉ moveVerbs) (hwait : verb ∈ waitVerbs) :
    basicAnswer? scene s =
      some (.understood (.wait (truncate (n.value * (unit.bind timeFactor?).getD 1000)))) := by
  obtain ⟨i, hi⟩ := numerals_plainContent h
  have hdirection : s.direction? = none := direction?_plainContent h
  have hfirst : s.firstNumeral? = some n := by simp [firstNumeral?, hi]
  have hfactor : ((s.first? .unit).bind fun t => timeFactor? t.text) = unit.bind timeFactor? := by
    rw [← unit_plainContent h, Option.bind_map]
    rfl
  simp [basicAnswer?, turn, move, wait, hasVerb_plainContent h, hdirection, hturn, hmove, hwait, hfirst, hfactor]
  rfl

end

end RobotPhrase
