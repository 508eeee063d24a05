import RobotPhrase.Proofs.Content
import RobotPhrase.Proofs.Tokenize

/-!
# Canonical sentences

The sentences "verb direction amount" for moving and turning and "verb amount" for waiting, where an amount is a number
with its unit, are understood as what they say, in any case of letters and with any fillers between their words
(`interpret_of_canonical`).  Their words open no call and join no phrases (`IsOrdinary`), so the rules that look at the
text decline; the other rules see only the content of a sentence, and fillers are no part of it.
-/

namespace RobotPhrase

open Text Vocabulary Grammar Sentence

/-! ### Words that join nothing -/

/-- The words that open the call of a routine, and words of the marks that join two phrases. -/
def joiningWords : List String := ["run", "call", "execute", "start", "while", "same", "and"]

/-- A word that reading leaves as it is, and that neither opens a call nor joins two phrases. -/
structure IsOrdinary (w : String) : Prop where
  ne_empty : w ≠ ""
  kept : ∀ c ∈ w.toList, IsKept c
  not_joining : w ∉ joiningWords
  not_simultaneous : occurs "simultaneously".toList w.toList = false

private theorem joining_letters : ∀ w ∈ joiningWords, w.toList ≠ [] ∧ w.toList.all isSmallLetter = true := by
  decide

private theorem isBlank_of_letters {cs : List Char} (h : cs.all isSmallLetter = true) : ∀ c ∈ cs, isBlank c = false :=
  fun c hc => (isKept_of_letters h c hc).2.2

section

variable {cs : List Char} (h : ∀ w ∈ words cs, IsOrdinary (String.ofList w))

include h

private theorem afterOpening?_eq_none : afterOpening? cs = none := by
  have hopenings : ∀ opening ∈ callOpenings, ∃ w ∈ joiningWords, opening.toList = w.toList ++ [' '] := by decide
  unfold afterOpening?
  rw [List.findSome?_eq_none_iff]
  intro opening hopening
  obtain ⟨w, hw, hspelled⟩ := hopenings opening hopening
  obtain ⟨hne, hletters⟩ := joining_letters w hw
  cases hafter : after? opening.toList cs with
  | none => rfl
  | some rest =>
    have hcs : cs = w.toList ++ ' ' :: rest := by
      rw [after?_eq_some_iff.1 hafter, hspelled, List.append_assoc]
      rfl
    have hmem : w.toList ∈ words cs := by
      rw [hcs, words_append_blank, words_eq_singleton hne (isBlank_of_letters hletters)]
      simp
    have hjoining := (h _ hmem).not_joining
    rw [String.ofList_toList] at hjoining
    exact absurd hw hjoining

private theorem not_infix_joining {w : String} (hw : w ∈ joiningWords) : ¬ ' ' :: (w.toList ++ [' ']) <:+: cs := by
  intro hfound
  obtain ⟨hne, hletters⟩ := joining_letters w hw
  have hjoining := (h _ (mem_words_of_spaced hne (isBlank_of_letters hletters) hfound)).not_joining
  rw [String.ofList_toList] at hjoining
  exact hjoining hw

private theorem halves?_eq_none : halves? cs = none := by
  have hwhile : ¬ " while ".toList <:+: cs := not_infix_joining h (w := "while") (by decide)
  have hand : ¬ " and ".toList <:+: cs := not_infix_joining h (w := "and") (by decide)
  have hsame : ¬ "at the same time".toList <:+: cs := by
    intro hfound
    have hmark : ' ' :: ("same".toList ++ [' ']) <:+: "at the same time".toList :=
      ⟨"at the".toList, "time".toList, by decide⟩
    exact not_infix_joining h (w := "same") (by decide) (hmark.trans hfound)
  have hsimultaneous : ¬ "simultaneously".toList <:+: cs := by
    intro hfound
    have hblank := isBlank_of_letters (by decide : "simultaneously".toList.all isSmallLetter = true)
    obtain ⟨w, hw, hword⟩ := exists_mem_words_of_infix (by decide) hblank hfound
    have hnot := (h w hw).not_simultaneous
    rw [String.toList_ofList (l := w), occurs_iff.2 hword] at hnot
    simp at hnot
  have hraw : rawHalves? cs = none := by
    unfold rawHalves?
    split
    · exact absurd (occurs_iff.1 ‹_›) hwhile
    split
    · exact absurd (occurs_iff.1 ‹_›) hsimultaneous
    split
    · exact absurd (occurs_iff.1 ‹_›) hsame
    split
    · rename_i hjoined
      exact absurd (occurs_iff.1 (Bool.and_eq_true_iff.1 hjoined).1) hand
    · rfl
  unfold halves?
  rw [hraw]
  rfl

end

/-- Only the rules for turning, moving and waiting answer a sentence of ordinary words with such a content. -/
theorem interpret_of_plainContent {robot : Robot} {text verb : String} {direction unit : Option String} {n : Numeral}
    (hwords : ∀ w ∈ words (lower text.toList), IsOrdinary (String.ofList w))
    (hcontent : (Sentence.ofText text).content = plainContent verb direction n unit) (hverb : verb ∉ stopVerbs) :
    interpret ⟨robot, [], []⟩ text =
      (basicAnswer? ⟨robot, [], []⟩ (.ofText text)).getD (.refused .unrecognized) := by
  have htrimmed : ∀ w ∈ words (lower (trim text.toList)), IsOrdinary (String.ofList w) := by
    rwa [words_lower_trim]
  have hroutine : routineCall ⟨robot, [], []⟩ (.ofText text) = none := by
    simp [routineCall, knownCall?, unknownCall?, Sentence.ofText, afterOpening?_eq_none htrimmed]
  have htasks (inner : Option (String → Answer)) : twoTasks inner ⟨robot, [], []⟩ (.ofText text) = none := by
    simp [twoTasks, Sentence.ofText, halves?_eq_none hwords]
  have hloop (inner : Option (String → Answer)) : loop inner ⟨robot, [], []⟩ (.ofText text) = none := by
    simp [loop, has_plainContent hcontent .repetition (by decide)]
  have htokens : tokenize text ≠ [] := by
    intro hempty
    simp [Sentence.ofText, content, hempty, plainContent] at hcontent
  rw [interpret_eq_answerWith, answerWith_eq, if_neg htokens, hroutine, htasks, hloop]
  unfold plainAnswer?
  rw [findSome?_plainRules hcontent rfl hverb]
  rfl

/-! ### Words of canonical sentences -/

/-- The verbs that mean waiting and nothing else. -/
def pauseVerbs : List String := ["wait", "pause", "delay", "sleep"]

/-- The words of canonical sentences besides their numbers. -/
def canonicalWords : List String :=
  moveVerbs ++ turnVerbs ++ pauseVerbs ++ allDirections ++ allUnits ++ fillerWords.erase "and"

private theorem mem_canonicalWords {w : String} : w ∈ canonicalWords ↔
    w ∈ moveVerbs ++ turnVerbs ++ pauseVerbs ∨ w ∈ allDirections ∨ w ∈ allUnits ∨ w ∈ fillerWords.erase "and" := by
  unfold canonicalWords
  rw [List.mem_append, List.mem_append, List.mem_append, or_assoc, or_assoc]

private theorem mem_canonicalWords_of_filler {f : String} (hf : f ∈ fillerWords) (hand : f ≠ "and") :
    f ∈ canonicalWords :=
  mem_canonicalWords.2 (.inr (.inr (.inr ((List.mem_erase_of_ne hand).2 hf))))

private theorem canonicalWords_letters : ∀ w ∈ canonicalWords, w ≠ "" ∧ w.toList.all isSmallLetter = true ∧
    w ∉ joiningWords ∧ occurs "simultaneously".toList w.toList = false := by
  decide +kernel

private theorem isOrdinary_of_mem {w : String} (h : w ∈ canonicalWords) : IsOrdinary w := by
  obtain ⟨hne, hletters, hjoining, hsimultaneous⟩ := canonicalWords_letters w h
  exact ⟨hne, isKept_of_letters hletters, hjoining, hsimultaneous⟩

/-- A literal is an ordinary word, also with a unit attached. -/
private theorem isOrdinary_literal_append {n : Numeral} (hn : n.IsLiteral) {u : String} (hu : u = "" ∨ u ∈ allUnits) :
    IsOrdinary (String.ofList n.text ++ u) := by
  have hunit : u.toList.all isSmallLetter = true ∧ 'y' ∉ u.toList := by
    have hall : ∀ u ∈ "" :: allUnits, u.toList.all isSmallLetter = true ∧ 'y' ∉ u.toList := by decide +kernel
    exact hall u (List.mem_cons.2 hu)
  have hletter : ∀ c ∈ n.text, isSmallLetter c = false := by
    intro c hc
    rw [Bool.eq_false_iff]
    intro hsmall
    rcases Numeral.mem_text hn hc with rfl | rfl | hdigit
    · exact absurd hsmall (by decide)
    · exact absurd hsmall (by decide)
    · simp [isDigit_of_isSmallLetter hsmall] at hdigit
  have htext : (String.ofList n.text ++ u).toList = n.text ++ u.toList := by simp
  refine ⟨?_, ?_, ?_, ?_⟩
  · intro hempty
    rw [hempty] at htext
    exact Numeral.text_ne_nil hn (List.append_eq_nil_iff.1 htext.symm).1
  · intro c hc
    rw [htext, List.mem_append] at hc
    rcases hc with hc | hc
    · exact isKept_literal hn hc
    · exact isKept_of_letters hunit.1 c hc
  · -- a joining word has letters only, and a literal has a character that is none
    intro hjoining
    obtain ⟨c, hc⟩ := List.exists_mem_of_ne_nil _ (Numeral.text_ne_nil hn)
    have hletters := List.all_eq_true.1 (joining_letters _ hjoining).2
    rw [htext] at hletters
    have hsmall := hletters c (List.mem_append_left _ hc)
    rw [hletter c hc] at hsmall
    simp at hsmall
  · rw [Bool.eq_false_iff, ne_eq, occurs_iff, htext]
    intro hfound
    have hy : 'y' ∈ n.text ++ u.toList := hfound.subset (by decide)
    rcases List.mem_append.1 hy with hy | hy
    · exact absurd (hletter 'y' hy) (by decide)
    · exact hunit.2 hy

/-! ### Their content -/

/-- The content of a sentence with the given words. -/
def contentOf (ws : List String) : List Token :=
  (ws.flatMap fun w => wordTokens w.toList).filter fun t => !t.is .plain

theorem contentOf_append (ws vs : List String) : contentOf (ws ++ vs) = contentOf ws ++ contentOf vs := by
  unfold contentOf
  rw [List.flatMap_append, List.filter_append]

theorem contentOf_cons (w : String) (ws : List String) : contentOf (w :: ws) = contentOf [w] ++ contentOf ws :=
  contentOf_append [w] ws

theorem content_ofText {text : String} (hwords : ∀ w ∈ words (lower text.toList), IsOrdinary (String.ofList w)) :
    (Sentence.ofText text).content = contentOf (wordsOf (lowercase text)) := by
  have hpunctuation : ∀ w ∈ words (lower text.toList), ∀ c ∈ w, isPunctuation c = false := by
    intro w hw c hc
    exact ((hwords w hw).kept c (by simpa using hc)).2.1
  unfold content contentOf Sentence.ofText wordsOf lowercase
  rw [tokenize_eq_flatMap hpunctuation, String.toList_ofList, List.flatMap_map]
  simp

private theorem classify_verb : ∀ v ∈ moveVerbs ++ turnVerbs ++ pauseVerbs,
    classify v = .word .verb v (some v) := by
  decide +kernel

private theorem classify_direction : ∀ d ∈ allDirections,
    classify d = .word .direction d (some (canonicalDirection d)) := by
  decide +kernel

private theorem classify_unit : ∀ u ∈ allUnits, classify u = .word .unit u (some u) := by
  decide +kernel

private theorem classify_filler : ∀ f ∈ fillerWords, f ≠ "and" → classify f = .word .plain f none := by
  decide +kernel

private theorem contentOf_word {w : String} (h : w ∈ canonicalWords) :
    contentOf [w] = [classify w].filter fun t => !t.is .plain := by
  simp [contentOf, wordTokens_letters (canonicalWords_letters w h).2.1]

private theorem contentOf_literal {n : Numeral} (hn : n.IsLiteral) :
    contentOf [String.ofList n.text] = [.number n] := by
  simp [contentOf, wordTokens_literal hn, Token.is]

private theorem contentOf_attached {n : Numeral} (hn : n.IsLiteral) {u : String} (hu : u ∈ allUnits) :
    contentOf [String.ofList n.text ++ u] = [.number n, .word .unit u (some u)] := by
  obtain ⟨hne, hletters, -⟩ := canonicalWords_letters u (mem_canonicalWords.2 (.inr (.inr (.inl hu))))
  have hne' : u.toList ≠ [] := by simpa using hne
  simp [contentOf, wordTokens_literal_append hn hne' hletters, classify_unit u hu, Token.is]

/-! ### Fillers -/

/-- The second sentence is the first with fillers put in, at any places.  The filler "and" is left out, since it joins
phrases. -/
inductive Padded : List String → List String → Prop
  | nil : Padded [] []
  | keep (w : String) {core ws : List String} (h : Padded core ws) : Padded (w :: core) (w :: ws)
  | fill {f : String} (hf : f ∈ fillerWords) (hand : f ≠ "and") {core ws : List String} (h : Padded core ws) :
    Padded core (f :: ws)

namespace Padded

variable {core ws : List String}

/-- Fillers add no content. -/
theorem contentOf_eq (h : Padded core ws) : contentOf ws = contentOf core := by
  induction h with
  | nil => rfl
  | @keep w core ws _ ih => rw [contentOf_cons, contentOf_cons w core, ih]
  | @fill f hf hand core ws _ ih =>
    have hfiller := contentOf_word (mem_canonicalWords_of_filler hf hand)
    rw [classify_filler f hf hand] at hfiller
    rw [contentOf_cons, hfiller, ih]
    rfl

theorem isOrdinary (h : Padded core ws) (hcore : ∀ w ∈ core, IsOrdinary w) : ∀ w ∈ ws, IsOrdinary w := by
  induction h with
  | nil => simp
  | @keep w core ws _ ih =>
    rw [List.forall_mem_cons] at hcore ⊢
    exact ⟨hcore.1, ih hcore.2⟩
  | @fill f hf hand core ws _ ih =>
    rw [List.forall_mem_cons]
    exact ⟨isOrdinary_of_mem (mem_canonicalWords_of_filler hf hand), ih hcore⟩

end Padded

/-! ### Canonical sentences -/

/-- A number and its unit, if any, in words: the unit may be attached to the number or stand behind it. -/
inductive Amount (n : Numeral) : Option String → List String → Prop
  | bare : Amount n none [String.ofList n.text]
  | attached (u : String) : Amount n (some u) [String.ofList n.text ++ u]
  | apart (u : String) : Amount n (some u) [String.ofList n.text, u]

namespace Amount

variable {n : Numeral} {unit : Option String} {amount : List String}

theorem contentOf_eq (h : Amount n unit amount) (hn : n.IsLiteral) (hunit : ∀ u ∈ unit, u ∈ allUnits) :
    contentOf amount = .number n :: unit.toList.map fun u => .word .unit u (some u) := by
  cases h with
  | bare => exact contentOf_literal hn
  | attached u => exact contentOf_attached hn (hunit u rfl)
  | apart u =>
    have hu := contentOf_word (mem_canonicalWords.2 (.inr (.inr (.inl (hunit u rfl)))))
    rw [classify_unit u (hunit u rfl)] at hu
    rw [contentOf_cons, contentOf_literal hn, hu]
    rfl

theorem isOrdinary (h : Amount n unit amount) (hn : n.IsLiteral) (hunit : ∀ u ∈ unit, u ∈ allUnits) :
    ∀ w ∈ amount, IsOrdinary w := by
  have hbare : IsOrdinary (String.ofList n.text) := by
    simpa using isOrdinary_literal_append hn (.inl rfl)
  cases h with
  | bare => simpa using hbare
  | attached u => simpa using isOrdinary_literal_append hn (.inr (hunit u rfl))
  | apart u =>
    have hu : IsOrdinary u := isOrdinary_of_mem (mem_canonicalWords.2 (.inr (.inr (.inl (hunit u rfl)))))
    simpa using ⟨hbare, hu⟩

end Amount

/-- A command in its plainest form: the words of the sentence, the kind of the command and its code. -/
inductive Canonical (n : Numeral) : List String → CommandKind → String → Prop
  /-- A distance has a unit; it is negative for a backward word. -/
  | move {v d u : String} {factor : Float} {amount : List String} (hv : v ∈ moveVerbs)
    (hd : d ∈ forwardWords ++ backwardWords) (hu : distanceFactor? u = some factor) (h : Amount n (some u) amount) :
    Canonical n (v :: d :: amount) .move
      ("robot.straight(" ++ toString (truncate (if d ∈ backwardWords then -(n.value * factor) else n.value * factor))
        ++ ")")
  /-- An angle is negative for a word that means left. -/
  | turn {v d : String} {unit : Option String} {amount : List String} (hv : v ∈ turnVerbs)
    (hd : d ∈ leftWords ++ rightWords) (hu : ∀ u ∈ unit, u ∈ angleUnits) (h : Amount n unit amount) :
    Canonical n (v :: d :: amount) .turn
      ("robot.turn(" ++ toString (truncate (if d ∈ leftWords then -n.value else n.value)) ++ ")")
  | wait {v u : String} {factor : Float} {amount : List String} (hv : v ∈ pauseVerbs)
    (hu : timeFactor? u = some factor) (h : Amount n (some u) amount) :
    Canonical n (v :: amount) .wait ("wait(" ++ toString (truncate (n.value * factor)) ++ ")")
  /-- Without a unit a time is in seconds. -/
  | waitSeconds {v : String} {amount : List String} (hv : v ∈ pauseVerbs) (h : Amount n none amount) :
    Canonical n (v :: amount) .wait ("wait(" ++ toString (truncate (n.value * 1000)) ++ ")")

section

variable {n : Numeral} {v : String} {direction unit : Option String} {amount ws : List String}

/-- Verbs, directions and units from the vocabulary. -/
private structure Chosen (v : String) (direction unit : Option String) : Prop where
  verb : v ∈ moveVerbs ++ turnVerbs ++ pauseVerbs
  direction : ∀ d ∈ direction, d ∈ allDirections
  unit : ∀ u ∈ unit, u ∈ allUnits

private theorem contentOf_core (hc : Chosen v direction unit) (hn : n.IsLiteral) (h : Amount n unit amount) :
    contentOf (v :: (direction.toList ++ amount)) = plainContent v direction n unit := by
  have hv := contentOf_word (mem_canonicalWords.2 (.inl hc.verb))
  rw [classify_verb v hc.verb] at hv
  rw [contentOf_cons, contentOf_append, hv, h.contentOf_eq hn hc.unit]
  cases direction with
  | none => rfl
  | some d =>
    have hd := contentOf_word (mem_canonicalWords.2 (.inr (.inl (hc.direction d rfl))))
    rw [classify_direction d (hc.direction d rfl)] at hd
    rw [Option.toList_some, hd]
    rfl

private theorem isOrdinary_core (hc : Chosen v direction unit) (hn : n.IsLiteral) (h : Amount n unit amount) :
    ∀ w ∈ v :: (direction.toList ++ amount), IsOrdinary w := by
  intro w hw
  rcases List.mem_cons.1 hw with rfl | hw
  · exact isOrdinary_of_mem (mem_canonicalWords.2 (.inl hc.verb))
  rcases List.mem_append.1 hw with hw | hw
  · have hd := hc.direction w (by simpa using hw)
    exact isOrdinary_of_mem (mem_canonicalWords.2 (.inr (.inl hd)))
  · exact h.isOrdinary hn hc.unit w hw

private theorem mem_map_fst_of_lookup {table : List (String × Float)} {u : String} {factor : Float}
    (h : table.lookup u = some factor) : u ∈ table.map Prod.fst := by
  obtain ⟨before, after, rfl, -⟩ := List.lookup_eq_some_iff.1 h
  simp

/-- Words with fillers between them are understood as the command that the rules make of their content. -/
private theorem understood_of_padded (hc : Chosen v direction unit) (hn : n.IsLiteral) (h : Amount n unit amount)
    (hws : Padded (v :: (direction.toList ++ amount)) ws) {c : Command}
    (hanswer : ∀ {scene : Scene} {s : Sentence}, s.content = plainContent v direction n unit →
      basicAnswer? scene s = some (.understood c)) {code : String} (hcode : c.code = code) :
    wordsOf (lowercase (" ".intercalate ws)) = ws ∧
      ∀ (robot : Robot) (text : String), wordsOf (lowercase text) = ws →
        (interpret ⟨robot, [], []⟩ text).status = .parsed ∧
        (interpret ⟨robot, [], []⟩ text).kind? = some c.kind ∧
        (interpret ⟨robot, [], []⟩ text).code? = some code := by
  have hordinary := hws.isOrdinary (isOrdinary_core hc hn h)
  refine ⟨wordsOf_lowercase_intercalate fun w hw => ⟨(hordinary w hw).ne_empty, (hordinary w hw).kept⟩, ?_⟩
  intro robot text htext
  have hwords : ∀ w ∈ words (lower text.toList), IsOrdinary (String.ofList w) := by
    intro w hw
    apply hordinary
    rw [← htext, wordsOf, lowercase, String.toList_ofList]
    exact List.mem_map_of_mem hw
  have hcontent : (Sentence.ofText text).content = plainContent v direction n unit := by
    rw [content_ofText hwords, htext, hws.contentOf_eq, contentOf_core hc hn h]
  have hstop : ∀ v ∈ moveVerbs ++ turnVerbs ++ pauseVerbs, v ∉ stopVerbs := by decide
  rw [interpret_of_plainContent hwords hcontent (hstop v hc.verb), hanswer hcontent, ← hcode]
  exact ⟨rfl, rfl, rfl⟩

end

/-- A canonical sentence, with fillers anywhere, is a sentence with these words, and every sentence with these words, in
any case of letters, is understood as the command it stands for. -/
theorem interpret_of_canonical {n : Numeral} (hn : n.IsLiteral) {core ws : List String} {kind : CommandKind}
    {code : String} (hcore : Canonical n core kind code) (hws : Padded core ws) :
    wordsOf (lowercase (" ".intercalate ws)) = ws ∧
      ∀ (robot : Robot) (text : String), wordsOf (lowercase text) = ws →
        (interpret ⟨robot, [], []⟩ text).status = .parsed ∧
        (interpret ⟨robot, [], []⟩ text).kind? = some kind ∧
        (interpret ⟨robot, [], []⟩ text).code? = some code := by
  have hcode (line : String) : joinLines [line] = line := String.intercalate_singleton
  have hpause : ∀ v ∈ pauseVerbs, v ∉ turnVerbs ∧ v ∉ moveVerbs ∧ v ∈ waitVerbs := by decide
  cases hcore with
  | @move v d u factor amount hv hd hu h =>
    have hd' : d ∈ allDirections := List.mem_append_left _ (List.mem_append_left _ hd)
    have hu' : u ∈ allUnits := by simp [allUnits, mem_map_fst_of_lookup hu]
    have hc : Chosen v (some d) (some u) := ⟨by simp [hv], by simpa using hd', by simpa using hu'⟩
    exact understood_of_padded hc hn h hws (fun hs => basicAnswer?_move hs hd hu) (hcode (straightLine _))
  | @turn v d unit amount hv hd hu h =>
    have hd' : d ∈ allDirections := by
      rw [allDirections, List.append_assoc]
      exact List.mem_append_right _ hd
    have hu' : ∀ u ∈ unit, u ∈ allUnits := fun u hmem => List.mem_append_right _ (hu u hmem)
    have hc : Chosen v (some d) unit := ⟨by simp [hv], by simpa using hd', hu'⟩
    exact understood_of_padded hc hn h hws (fun hs => basicAnswer?_turn hs hd) (hcode (turnLine _))
  | @wait v u factor amount hv hu h =>
    obtain ⟨hturn, hmove, hwait⟩ := hpause v hv
    have hu' : u ∈ allUnits := by simp [allUnits, mem_map_fst_of_lookup hu]
    have hc : Chosen v none (some u) := ⟨by simp [hv], by simp, by simpa using hu'⟩
    have hanswer {scene : Scene} {s : Sentence} (hs : s.content = plainContent v none n (some u)) :
        basicAnswer? scene s = some (.understood (.wait (truncate (n.value * factor)))) := by
      rw [basicAnswer?_wait hs hturn hmove hwait, Option.bind_some, hu]
      rfl
    exact understood_of_padded hc hn h hws hanswer (hcode (waitLine _))
  | @waitSeconds v amount hv h =>
    obtain ⟨hturn, hmove, hwait⟩ := hpause v hv
    have hc : Chosen v none none := ⟨by simp [hv], by simp, by simp⟩
    exact understood_of_padded hc hn h hws (fun hs => basicAnswer?_wait hs hturn hmove hwait)
      (hcode (waitLine _))

/-- The minus sign and the backward word cancel, and the distance of 27.5 millimetres is truncated. -/
theorem interpret_go_to_the_back :
    Numeral.IsLiteral ⟨true, ['2'], ['7', '5']⟩ ∧
    Canonical ⟨true, ['2'], ['7', '5']⟩ ["go", "back", "-2.75", "cm"] .move "robot.straight(27)" ∧
    Padded ["go", "back", "-2.75", "cm"] ["then", "go", "to", "the", "back", "by", "-2.75", "of", "cm"] ∧
    (interpret ⟨{ }, [], []⟩ "Then GO to the  Back by -2.75 of CM").status = .parsed ∧
    (interpret ⟨{ }, [], []⟩ "Then GO to the  Back by -2.75 of CM").kind? = some .move ∧
    (interpret ⟨{ }, [], []⟩ "Then GO to the  Back by -2.75 of CM").code? = some "robot.straight(27)" := by
  have hliteral : Numeral.IsLiteral ⟨true, ['2'], ['7', '5']⟩ := by decide
  have hamount : Amount ⟨true, ['2'], ['7', '5']⟩ (some "cm") ["-2.75", "cm"] := .apart "cm"
  have hcore : Canonical ⟨true, ['2'], ['7', '5']⟩ ["go", "back", "-2.75", "cm"] .move "robot.straight(27)" :=
    .move (by decide) (by decide) (rfl : distanceFactor? "cm" = some 10.0) hamount
  have hws : Padded ["go", "back", "-2.75", "cm"] ["then", "go", "to", "the", "back", "by", "-2.75", "of", "cm"] :=
    .fill (by decide) (by decide) <| .keep "go" <| .fill (by decide) (by decide) <| .fill (by decide) (by decide) <|
      .keep "back" <| .fill (by decide) (by decide) <| .keep "-2.75" <| .fill (by decide) (by decide) <| .keep "cm" .nil
  have hwords : wordsOf (lowercase "Then GO to the  Back by -2.75 of CM") =
      ["then", "go", "to", "the", "back", "by", "-2.75", "of", "cm"] := by
    decide +kernel
  exact ⟨hliteral, hcore, hws, (interpret_of_canonical hliteral hcore hws).2 { } _ hwords⟩

end RobotPhrase
