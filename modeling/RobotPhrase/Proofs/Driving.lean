import RobotPhrase.Proofs.PlainReading

/-!
# The numbers of a drive

Going straight and turning take one number of the sentence as their amount, and perhaps another one as a rate.  Which
number is taken is a matter of places: numerals are listed with their places, from left to right (`mem_numerals`,
`numerals_pairwise`), and everything else is read off from that and from the places of the first unit and of the first
word for speed.

* A distance is measured in the first unit of the sentence, which is the one behind its number unless some unit stands
  before all numbers.
* The number behind a word for speed is taken as the rate also if it is the amount already.
-/

namespace RobotPhrase

open Vocabulary Grammar

/-! ### Places -/

namespace Sentence

variable {s : Sentence} {kind : WordClass} {n : Numeral} {t : Token} {i k : Nat}

theorem mem_numerals : (n, i) ∈ s.numerals ↔ s.tokens[i]? = some (.number n) := by
  unfold numerals
  rw [← List.mk_mem_zipIdx_iff_getElem?, List.mem_filterMap]
  constructor
  · rintro ⟨⟨t, k⟩, hmem, heq⟩
    cases t with
    | number m =>
      obtain ⟨rfl, rfl⟩ := by simpa using heq
      exact hmem
    | word => simp at heq
  · intro hmem
    exact ⟨_, hmem, rfl⟩

theorem numerals_pairwise (s : Sentence) : s.numerals.Pairwise fun p q => p.2 < q.2 := by
  have hplaces : s.tokens.zipIdx.Pairwise fun p q => p.2 < q.2 := by
    apply List.pairwise_map.1
    rw [List.zipIdx_map_snd]
    exact List.pairwise_lt_range'
  unfold numerals
  refine List.Pairwise.filterMap _ ?_ hplaces
  rintro ⟨t, k⟩ ⟨u, l⟩ hlt p hp q hq
  cases t with
  | word => simp at hp
  | number n =>
    cases u with
    | word => simp at hq
    | number m =>
      obtain rfl := Option.some.inj hp
      obtain rfl := Option.some.inj hq
      exact hlt

/-- A numeral that is found stands before all others that could have been. -/
theorem le_of_find?_numerals {p : Numeral × Nat → Bool} {q r : Numeral × Nat} (hq : s.numerals.find? p = some q)
    (hr : r ∈ s.numerals) (hp : p r = true) : q.2 ≤ r.2 := by
  obtain ⟨-, before, after, hsplit, hbefore⟩ := List.find?_eq_some_iff_append.1 hq
  have hordered := s.numerals_pairwise
  rw [hsplit] at hr hordered
  rcases List.mem_append.1 hr with hr | hr
  · have hnot := hbefore r hr
    simp [hp] at hnot
  · rcases List.mem_cons.1 hr with rfl | hr
    · exact Nat.le_refl _
    · exact Nat.le_of_lt (List.rel_of_pairwise_cons (List.pairwise_append.1 hordered).2.1 hr)

theorem place?_eq_some (h : s.place? kind = some k) : ∃ t, s.tokens[k]? = some t ∧ t.is kind = true := by
  obtain ⟨hk, hkind, -⟩ := List.findIdx?_eq_some_iff_getElem.1 h
  exact ⟨s.tokens[k], List.getElem?_eq_getElem hk, hkind⟩

theorem le_of_place? (h : s.place? kind = some k) (hi : s.tokens[i]? = some t) (ht : t.is kind = true) : k ≤ i := by
  obtain ⟨hk, -, hbefore⟩ := List.findIdx?_eq_some_iff_getElem.1 h
  obtain ⟨hi', rfl⟩ := List.getElem?_eq_some_iff.1 hi
  rcases Nat.lt_or_ge i k with hlt | hge
  · exact absurd ht (hbefore i hlt)
  · exact hge

theorem exists_place? (hi : s.tokens[i]? = some t) (ht : t.is kind = true) : ∃ k, s.place? kind = some k := by
  cases h : s.place? kind with
  | some k => exact ⟨k, rfl⟩
  | none =>
    have hnone := List.findIdx?_eq_none_iff.1 h t (List.mem_of_getElem? hi)
    simp [ht] at hnone

theorem first?_of_place? (h : s.place? kind = some k) (hk : s.tokens[k]? = some t) : s.first? kind = some t := by
  obtain ⟨hlt, hkind, hbefore⟩ := List.findIdx?_eq_some_iff_getElem.1 h
  obtain ⟨_, rfl⟩ := List.getElem?_eq_some_iff.1 hk
  exact List.find?_eq_some_iff_getElem.2 ⟨hkind, k, hlt, rfl, fun j hj => by simpa using hbefore j hj⟩

/-- No word stands where a numeral stands. -/
theorem ne_of_mem_numerals (hn : (n, i) ∈ s.numerals) (hk : s.tokens[k]? = some t) (ht : t.is kind = true) : k ≠ i := by
  rintro rfl
  obtain rfl : t = .number n := Option.some.inj (hk.symm.trans (mem_numerals.1 hn))
  simp [Token.is] at ht

end Sentence

/-! ### The two rules -/

/-- Going straight and turning. -/
inductive Drive
  | straight
  | turn

namespace Drive

def rule : Drive → Rule
  | straight => Grammar.move
  | turn => Grammar.turn

/-- The numeral of the amount, with its place. -/
def amount? : Drive → Sentence → Option (Numeral × Nat)
  | straight, s => distanceNumeral? s
  | turn, s => s.numerals.head?

/-- The number of millimetres or degrees that a value stands for.  A distance is measured in the first unit. -/
def size : Drive → Sentence → Float → Float
  | straight, s, x =>
    match s.first? .unit with
    | some unit => x * (distanceFactor? unit.text).getD 1
    | none => x
  | turn, _, x => x

/-- The direction in which amounts are counted as negative. -/
def reverse : Drive → String
  | straight => "backward"
  | turn => "left"

def signed (drive : Drive) (s : Sentence) (x : Float) : Float :=
  if s.direction? = some drive.reverse then -x else x

def setting : Drive → Setting
  | straight => .straightSpeed
  | turn => .turnRate

def line : Drive → Int → String
  | straight => straightLine
  | turn => turnLine

def command : Drive → Option Int → Int → Command
  | straight => .move
  | turn => .turn

/-- The value that is asked for if the sentence has no number. -/
def missing : Drive → MissingValue
  | straight => .moveDistance
  | turn => .turnAngle

variable {scene : Scene} {s : Sentence} {a : Answer} {c : Command}

theorem lines_command (drive : Drive) (rate : Option Int) (amount : Int) :
    (drive.command rate amount).lines = withRate drive.setting rate (drive.line amount) := by
  cases drive <;> rfl

/-- The amount of a drive comes from one numeral, and its rate is looked for with the place of that numeral used. -/
theorem answer_of_rule (drive : Drive) (h : drive.rule scene s = some a) :
    (drive.amount? s = none ∧ a = .ask drive.missing) ∨
      ∃ n i, drive.amount? s = some (n, i) ∧ a = .understood
        (drive.command ((rate? s (some i)).map truncate) (truncate (drive.signed s (drive.size s n.value)))) := by
  cases drive with
  | straight =>
    change Grammar.move scene s = _ at h
    unfold Grammar.move at h
    simp only at h
    split at h
    · simp at h
    split at h
    · simp at h
    split at h
    · rename_i hn
      exact .inl ⟨hn, (Option.some.inj h).symm⟩
    · rename_i n i hn
      obtain rfl := Option.some.inj h
      refine .inr ⟨n, i, hn, ?_⟩
      cases hunit : s.first? .unit with
      | none => simp only [size, hunit]; rfl
      | some unit => simp only [size, hunit]; rfl
  | turn =>
    change Grammar.turn scene s = _ at h
    unfold Grammar.turn at h
    simp only at h
    split at h
    · simp at h
    split at h
    · simp at h
    split at h
    · rename_i hn
      exact .inl ⟨hn, (Option.some.inj h).symm⟩
    · rename_i n i hn
      exact .inr ⟨n, i, hn, (Option.some.inj h).symm⟩

theorem command_of_rule (drive : Drive) (h : drive.rule scene s = some (.understood c)) :
    ∃ n i, drive.amount? s = some (n, i) ∧
      c = drive.command ((rate? s (some i)).map truncate) (truncate (drive.signed s (drive.size s n.value))) := by
  rcases drive.answer_of_rule h with ⟨-, ha⟩ | ⟨n, i, hn, ha⟩
  · exact absurd ha.symm (Answer.ask_ne_understood _ c)
  · exact ⟨n, i, hn, Answer.understood.inj ha⟩

theorem mem_numerals_of_amount? (drive : Drive) {p : Numeral × Nat} (h : drive.amount? s = some p) :
    p ∈ s.numerals := by
  cases drive with
  | straight =>
    rcases Option.or_eq_some_iff.1 h with h | ⟨-, h⟩
    · obtain ⟨k, -, hk⟩ := Option.bind_eq_some_iff.1 h
      exact (List.mem_filter.1 (List.mem_of_getLast? hk)).1
    · exact List.mem_of_head? h
  | turn => exact List.mem_of_head? h

end Drive

/-! ### The unit of a distance -/

section

variable {s : Sentence} {n : Numeral} {i k : Nat}

/-- Some unit stands before all numbers. -/
def Sentence.UnitLeads (s : Sentence) : Prop :=
  ∃ k t, s.tokens[k]? = some t ∧ t.is .unit = true ∧ ∀ p ∈ s.numerals, k < p.2

/-- The numeral of a distance stands before the first unit, unless all numerals stand behind it. -/
theorem distanceNumeral?_cases (hk : s.place? .unit = some k) (h : distanceNumeral? s = some (n, i)) :
    i < k ∨ ∀ p ∈ s.numerals, k ≤ p.2 := by
  unfold distanceNumeral? at h
  rw [hk] at h
  rcases Option.or_eq_some_iff.1 h with h | ⟨h, -⟩
  · left
    simpa using (List.mem_filter.1 (List.mem_of_getLast? h)).2
  · right
    intro p hp
    have hnot := List.filter_eq_nil_iff.1 (List.getLast?_eq_none_iff.1 h) p hp
    simpa using hnot

/-- The first unit stands right behind the numeral of the distance exactly if no unit stands before all numbers. -/
theorem place?_unit_eq_iff {t : Token} (hk : s.place? .unit = some k) (hn : distanceNumeral? s = some (n, i))
    (ht : s.tokens[i + 1]? = some t) (hunit : t.is .unit = true) : k = i + 1 ↔ ¬ s.UnitLeads := by
  have hmem : (n, i) ∈ s.numerals := Drive.straight.mem_numerals_of_amount? hn
  obtain ⟨u, hu, hkind⟩ := Sentence.place?_eq_some hk
  constructor
  · rintro rfl ⟨l, v, hl, hv, hleads⟩
    have hfirst := Sentence.le_of_place? hk hl hv
    have hlast := hleads (n, i) hmem
    omega
  · intro hleads
    rcases distanceNumeral?_cases hk hn with hbefore | hbehind
    · have hfirst := Sentence.le_of_place? hk ht hunit
      omega
    · refine absurd ⟨k, u, hu, hkind, ?_⟩ hleads
      rintro ⟨m, j⟩ hj
      have hle := hbehind (m, j) hj
      have hne := Sentence.ne_of_mem_numerals hj hu hkind
      omega

/-- A distance whose number has a unit right behind it is measured in that unit exactly if no unit stands before all
numbers; it is measured in the first unit in any case. -/
theorem unit_behind_distance_iff (scene : Scene) (s : Sentence) (c : Command) (n : Numeral) (i : Nat) (t : Token)
    (hmove : move scene s = some (.understood c)) (hn : distanceNumeral? s = some (n, i))
    (ht : s.tokens[i + 1]? = some t) (hunit : t.is .unit = true) :
    ∃ k u speed, s.place? .unit = some k ∧ s.tokens[k]? = some u ∧
      c = .move speed (truncate (Drive.straight.signed s (n.value * (distanceFactor? u.text).getD 1))) ∧
      (k = i + 1 ↔ ¬ s.UnitLeads) := by
  obtain ⟨k, hk⟩ := Sentence.exists_place? ht hunit
  obtain ⟨u, hu, -⟩ := Sentence.place?_eq_some hk
  have hrule : Drive.straight.rule scene s = some (.understood c) := hmove
  obtain ⟨m, j, hm, rfl⟩ := Drive.straight.command_of_rule hrule
  obtain ⟨rfl, rfl⟩ : m = n ∧ j = i := by
    have heq := Option.some.inj (hm.symm.trans hn)
    simpa using heq
  have hsize : Drive.straight.size s m.value = m.value * (distanceFactor? u.text).getD 1 := by
    simp only [Drive.size, Sentence.first?_of_place? hk hu]
  rw [hsize]
  exact ⟨k, u, _, hk, hu, rfl, place?_unit_eq_iff hk hn ht hunit⟩

/-- Ten centimetres. -/
theorem unit_behind_distance_go_ten :
    move ⟨{ }, [], []⟩ (.ofText "go 10 cm") = some (.understood (.move none 100)) ∧
      (Sentence.ofText "go 10 cm").place? .unit = some 2 ∧ ¬ (Sentence.ofText "go 10 cm").UnitLeads := by
  have hsentence : Sentence.ofText "go 10 cm" = ⟨"go 10 cm",
      [.word .verb "go" (some "go"), .number ⟨false, ['1', '0'], []⟩, .word .unit "cm" (some "cm")]⟩ :=
    congrArg (Sentence.mk _) (by decide +kernel)
  have hmove : move ⟨{ }, [], []⟩ (.ofText "go 10 cm") = some (.understood (.move none 100)) := by
    rw [hsentence]
    decide +kernel
  have hplace : (Sentence.ofText "go 10 cm").place? .unit = some 2 := by rw [hsentence]; rfl
  obtain ⟨k, u, speed, hk, -, -, hiff⟩ := unit_behind_distance_iff _ _ _ ⟨false, ['1', '0'], []⟩ 1
    (.word .unit "cm" (some "cm")) hmove (by rw [hsentence]; rfl) (by rw [hsentence]; rfl) rfl
  obtain rfl : k = 2 := Option.some.inj (hk.symm.trans hplace)
  exact ⟨hmove, hplace, hiff.1 rfl⟩

/-- "up" is taken for a unit of one millimetre, and ten centimetres are measured in it. -/
theorem not_unit_behind_go_up_ten :
    distanceNumeral? (.ofText "go up 10 cm") = some (⟨false, ['1', '0'], []⟩, 2) ∧
      (Sentence.ofText "go up 10 cm").tokens[3]? = some (.word .unit "cm" (some "cm")) ∧
      "cm" ∈ distanceUnits.map Prod.fst ∧
      (Sentence.ofText "go up 10 cm").first? .unit = some (.word .unit "up" (some "mm")) ∧
      (Sentence.ofText "go up 10 cm").place? .unit = some 1 ∧
      move ⟨{ }, [], []⟩ (.ofText "go up 10 cm") = some (.understood (.move none 10)) := by
  have hsentence : Sentence.ofText "go up 10 cm" = ⟨"go up 10 cm",
      [.word .verb "go" (some "go"), .word .unit "up" (some "mm"), .number ⟨false, ['1', '0'], []⟩,
        .word .unit "cm" (some "cm")]⟩ :=
    congrArg (Sentence.mk _) (by decide +kernel)
  rw [hsentence]
  exact ⟨by decide +kernel, rfl, by decide, rfl, rfl, by decide +kernel⟩

end

/-! ### The rate -/

section

variable {s : Sentence} {n m : Numeral} {used : Option Nat} {i j : Nat}

/-- The numeral that would be the rate of a sentence with several numerals, with its place. -/
def rateCandidate? (s : Sentence) (used : Option Nat) : Option (Numeral × Nat) :=
  match s.place? .speed with
  | some place => s.numerals.find? fun p => place ≤ p.2
  | none =>
    (s.tokens.findIdx? fun t => t.raw == "at").bind fun place =>
      s.numerals.find? fun p => place ≤ p.2 && used ≠ some p.2

/-- The numeral of the rate, with its place. -/
def rateNumeral? (s : Sentence) (used : Option Nat) : Option (Numeral × Nat) :=
  if s.numerals.length < 2 then none else (rateCandidate? s used).filter fun p => p.1.value != 0

theorem rate?_eq_map (s : Sentence) (used : Option Nat) :
    rate? s used = (rateNumeral? s used).map fun p => p.1.value := by
  unfold rate? rateNumeral?
  split
  · rfl
  · exact Option.filter_map

/-- The number at a place is the first one behind the first word for speed. -/
def Sentence.SpeedLeadsTo (s : Sentence) (i : Nat) : Prop :=
  ∃ place, s.place? .speed = some place ∧ place ≤ i ∧ ∀ p ∈ s.numerals, place ≤ p.2 → i ≤ p.2

/-- Behind a word for speed nothing is passed over, so that the rate is the amount again exactly if its number comes
first there. -/
theorem eq_iff_speedLeadsTo (hi : (n, i) ∈ s.numerals) (h : rateNumeral? s (some i) = some (m, j)) :
    j = i ↔ s.SpeedLeadsTo i := by
  unfold rateNumeral? at h
  split at h
  · simp at h
  obtain ⟨hcandidate, -⟩ := Option.filter_eq_some_iff.1 h
  unfold rateCandidate? at hcandidate
  split at hcandidate
  · rename_i place hplace
    have hfound : place ≤ j := by simpa using List.find?_some hcandidate
    have hfirst : ∀ p ∈ s.numerals, place ≤ p.2 → j ≤ p.2 := fun p hp hle =>
      Sentence.le_of_find?_numerals hcandidate hp (by simpa using hle)
    constructor
    · rintro rfl
      exact ⟨place, hplace, hfound, hfirst⟩
    · rintro ⟨other, hother, hle, hleads⟩
      obtain rfl : other = place := Option.some.inj (hother.symm.trans hplace)
      have hji := hfirst (n, i) hi hle
      have hij := hleads (m, j) (List.mem_of_find?_eq_some hcandidate) hfound
      exact Nat.le_antisymm hji hij
  · rename_i hnone
    obtain ⟨place, -, hfind⟩ := Option.bind_eq_some_iff.1 hcandidate
    have hfound := List.find?_some hfind
    simp only [Bool.and_eq_true, decide_eq_true_eq] at hfound
    have hunused : j ≠ i := fun heq => hfound.2 (by rw [heq])
    constructor
    · intro heq
      exact absurd heq hunused
    · rintro ⟨other, hother, -⟩
      simp [hnone] at hother

-- with a variable for the opening, the unifier has no reason to evaluate it
private theorem opening_of_append (a b c : String) : a.toList <+: (a ++ b ++ c).toList := by
  simp

/-- A line that drives sets nothing. -/
private theorem settingsLine_ne_line (drive : Drive) (setting : Setting) (value amount : Int) :
    settingsLine setting value ≠ drive.line amount := by
  intro heq
  have hsetting : "robot.settings(".toList <+: (settingsLine setting value).toList :=
    (opening_of_append _ setting.name "=").trans (opening_of_append _ (toString value) ")")
  cases drive with
  | straight =>
    have hline : "robot.straight(".toList <+: (straightLine amount).toList := opening_of_append _ _ _
    exact absurd (List.prefix_of_prefix_length_le hline (heq ▸ hsetting) (by decide)) (by decide)
  | turn =>
    have hline : "robot.turn(".toList <+: (turnLine amount).toList := opening_of_append _ _ _
    exact absurd (List.prefix_of_prefix_length_le hline (heq ▸ hsetting) (by decide)) (by decide)

/-- A drive that sets a rate takes it from one numeral and its amount from one.  They are the same numeral exactly if
this is the first one behind a word for speed. -/
theorem Drive.rate_at_amount_iff (drive : Drive) (scene : Scene) (s : Sentence) (c : Command)
    (h : drive.rule scene s = some (.understood c)) (hset : ∃ setting value, settingsLine setting value ∈ c.lines) :
    ∃ n i m j, drive.amount? s = some (n, i) ∧ rateNumeral? s (some i) = some (m, j) ∧
      c.lines = [settingsLine drive.setting (truncate m.value),
        drive.line (truncate (drive.signed s (drive.size s n.value)))] ∧
      (j = i ↔ s.SpeedLeadsTo i) := by
  obtain ⟨n, i, hn, rfl⟩ := drive.command_of_rule h
  rw [drive.lines_command, rate?_eq_map] at hset ⊢
  cases hrate : rateNumeral? s (some i) with
  | none =>
    obtain ⟨setting, value, hmem⟩ := hset
    rw [hrate] at hmem
    exact absurd (List.mem_singleton.1 hmem) (settingsLine_ne_line drive setting value _)
  | some p =>
    obtain ⟨m, j⟩ := p
    exact ⟨n, i, m, j, hn, hrate, rfl, eq_iff_speedLeadsTo (drive.mem_numerals_of_amount? hn) hrate⟩

/-- Two numbers for two purposes. -/
theorem Drive.rate_at_amount_turn_left :
    Drive.turn.rule ⟨{ }, [], []⟩ (.ofText "turn left 90 at 50") = some (.understood (.turn (some 50) (-90))) ∧
      ¬ (Sentence.ofText "turn left 90 at 50").SpeedLeadsTo 2 := by
  have hsentence : Sentence.ofText "turn left 90 at 50" = ⟨"turn left 90 at 50",
      [.word .verb "turn" (some "turn"), .word .direction "left" (some "left"), .number ⟨false, ['9', '0'], []⟩,
        .word .plain "at" none, .number ⟨false, ['5', '0'], []⟩]⟩ :=
    congrArg (Sentence.mk _) (by decide +kernel)
  have hturn : Drive.turn.rule ⟨{ }, [], []⟩ (.ofText "turn left 90 at 50") =
      some (.understood (.turn (some 50) (-90))) := by
    rw [hsentence]
    decide +kernel
  have hamount : Drive.turn.amount? (.ofText "turn left 90 at 50") = some (⟨false, ['9', '0'], []⟩, 2) := by
    rw [hsentence]
    rfl
  have hrate : rateNumeral? (.ofText "turn left 90 at 50") (some 2) = some (⟨false, ['5', '0'], []⟩, 4) := by
    rw [hsentence]
    decide +kernel
  obtain ⟨n, i, m, j, hn, hm, -, hiff⟩ := Drive.rate_at_amount_iff .turn _ _ _ hturn
    ⟨.turnRate, 50, by decide +kernel⟩
  obtain ⟨-, rfl⟩ := Prod.mk.inj (Option.some.inj (hn.symm.trans hamount))
  obtain ⟨-, rfl⟩ := Prod.mk.inj (Option.some.inj (hm.symm.trans hrate))
  exact ⟨hturn, fun hleads => absurd (hiff.2 hleads) (by decide)⟩

/-- The number behind "fast" is the distance, and it is the speed as well, though another one follows "at". -/
theorem Drive.rate_at_amount_move_fast :
    Drive.straight.rule ⟨{ }, [], []⟩ (.ofText "move fast 10 cm at 300") =
        some (.understood (.move (some 10) 100)) ∧
      (Command.move (some 10) 100).lines = ["robot.settings(straight_speed=10)", "robot.straight(100)"] ∧
      Drive.straight.amount? (.ofText "move fast 10 cm at 300") = some (⟨false, ['1', '0'], []⟩, 2) ∧
      rateNumeral? (.ofText "move fast 10 cm at 300") (some 2) = some (⟨false, ['1', '0'], []⟩, 2) := by
  have hsentence : Sentence.ofText "move fast 10 cm at 300" = ⟨"move fast 10 cm at 300",
      [.word .verb "move" (some "move"), .word .speed "fast" (some "speed"), .number ⟨false, ['1', '0'], []⟩,
        .word .unit "cm" (some "cm"), .word .plain "at" none, .number ⟨false, ['3', '0', '0'], []⟩]⟩ :=
    congrArg (Sentence.mk _) (by decide +kernel)
  rw [hsentence]
  exact ⟨by decide +kernel, by decide, by decide +kernel, by decide +kernel⟩

end

end RobotPhrase
