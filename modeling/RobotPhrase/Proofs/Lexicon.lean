import RobotPhrase.Proofs.Nearest
import RobotPhrase.Token.Scan

/-!
# Classes of words

A word is a filler, or it stands in the lexicon, or it is taken for a verb, a direction, a unit or a colour that is
spelled almost like it, or it is like none of these.  `Classified` says under which conditions, and
`classified_classify` says that it covers all words; everything known about the class of a token is derived from it.

* Classes that do not forgive typing errors have only words of their own list (`raw_mem_words`).
* The class of every token is borne out by its spelling (`Token.SoundlyClassed`).
-/

namespace RobotPhrase

open Vocabulary Text

/-! ### The lexicon -/

/-- The words that are listed in a class. -/
def WordClass.words : WordClass → List String
  | verb => allVerbs | direction => allDirections | unit => allUnits | color => colors | motor => motorWords
  | speed => speedWords | plain => fillerWords | repetition => repeatVerbs | times => timesWords
  | definition => defineVerbs | mission => missionWords | sensor => sensorWords | condition => conditionWords
  | comparison => comparisonWords | untilMark => untilWords | whileMark => whileWords | parallel => parallelWords
  | precise => preciseWords | ifMark => ifWords | thenMark => thenWords | elseMark => elseWords | line => lineWords
  | follow => followVerbs | call => callVerbs | arc => arcVerbs | beep => beepVerbs | display => displayVerbs
  | reset => resetWords | hold => holdWords | heading => headingWords | on => onWords | off => offWords
  | hub => hubWords | light => lightVerbs

/-- How the words of a class are spelled canonically: as they stand, by what they mean, or by the name of the class. -/
def WordClass.canonical : WordClass → String → String
  | sensor | condition | verb | unit | motor | plain => id
  | comparison => comparisonOperator
  | direction => canonicalDirection
  | color => canonicalColor
  | kind => fun _ => kind.name

/-- The classes of the lexicon in order of precedence. -/
def listedClasses : List WordClass := lexicon.map LexiconEntry.kind

/-- An entry of the lexicon is determined by its class. -/
theorem lexicon_eq : lexicon = listedClasses.map fun kind => ⟨kind, kind.words, kind.canonical⟩ := rfl

theorem mem_lexicon_iff {entry : LexiconEntry} :
    entry ∈ lexicon ↔ ∃ kind ∈ listedClasses, entry = ⟨kind, kind.words, kind.canonical⟩ := by
  conv => lhs; rw [lexicon_eq]
  simp [eq_comm]

/-- A word that stands in no list of the lexicon and is no filler. -/
def Unlisted (word : String) : Prop := word ∉ fillerWords ∧ ∀ entry ∈ lexicon, word ∉ entry.words

instance (word : String) : Decidable (Unlisted word) := inferInstanceAs (Decidable (_ ∧ _))

theorem Unlisted.not_mem {word : String} (h : Unlisted word) (kind : WordClass) (hkind : kind ∈ listedClasses) :
    word ∉ kind.words :=
  h.2 _ (mem_lexicon_iff.2 ⟨kind, hkind, rfl⟩)

/-! ### Typing errors -/

/-- The classes of words that may be mistyped. -/
def forgivingClasses : List WordClass := [.verb, .direction, .unit, .color]

/-- A word that may be a mistyped verb or direction. -/
def MayBeMistyped (word : String) : Prop := 4 ≤ word.length ∧ word ∉ neverMistyped

instance (word : String) : Decidable (MayBeMistyped word) := inferInstanceAs (Decidable (_ ∧ _))

/-- The tokens that a mistyped word can become. -/
inductive Mistyped (word : String) : Token → Prop
  | verb {v : String} (hword : MayBeMistyped word) (hnear : IsNearest word 1 allVerbs v)
    (hfirst : v.toList.head? = word.toList.head?) : Mistyped word (.word .verb word (some v))
  | direction {d : String} (hword : MayBeMistyped word) (hnear : IsNearest word 2 allDirections d) :
    Mistyped word (.word .direction word (some (canonicalDirection d)))
  | unit {u : String} (hnear : IsNearest word 2 allUnits u) : Mistyped word (.word .unit word (some u))
  | color {c : String} (hnear : IsNearest word 2 colors c) : Mistyped word (.word .color word (some c))

/-- A word that is near to no unit and no colour and not taken for a direction. -/
structure IsUnlike (word : String) : Prop where
  units : ∀ u ∈ allUnits, 2 < distance word u
  colors : ∀ c ∈ colors, 2 < distance word c
  directions : MayBeMistyped word → ∀ d ∈ allDirections, 2 < distance word d

section

variable {word : String} {t : Token}

theorem mistyped?_eq (word : String) :
    mistyped? word =
      if MayBeMistyped word then (mistypedVerb? word).or ((mistypedDirection? word).or (mistypedNoun? word))
      else mistypedNoun? word := by
  have hword : (leastMistypedLength ≤ word.length && !neverMistyped.contains word) = true ↔ MayBeMistyped word := by
    rw [Bool.and_eq_true, decide_eq_true_eq]
    exact and_congr Iff.rfl (by simp)
  unfold mistyped?
  simp only [hword]

theorem mistypedVerb?_eq (word : String) :
    mistypedVerb? word = (closest? word 1 allVerbs).bind fun found =>
      if found.1.toList.head? = word.toList.head? then some (.word .verb word (some found.1)) else none := by
  unfold mistypedVerb? verbLimit
  cases closest? word 1 allVerbs <;> rfl

private theorem mistyped_of_noun (h : mistypedNoun? word = some t) : Mistyped word t := by
  rcases Option.or_eq_some_iff.1 h with h | ⟨-, h⟩
  · obtain ⟨⟨u, d⟩, hclosest, rfl⟩ := Option.map_eq_some_iff.1 h
    exact .unit (closest?_eq_some_iff.1 hclosest).1
  · obtain ⟨⟨c, d⟩, hclosest, rfl⟩ := Option.map_eq_some_iff.1 h
    exact .color (closest?_eq_some_iff.1 hclosest).1

theorem mistyped_of_mistyped? (h : mistyped? word = some t) : Mistyped word t := by
  rw [mistyped?_eq] at h
  split at h
  · rename_i hword
    rcases Option.or_eq_some_iff.1 h with h | ⟨-, h⟩
    · rw [mistypedVerb?_eq] at h
      obtain ⟨⟨v, d⟩, hclosest, h⟩ := Option.bind_eq_some_iff.1 h
      split at h
      · rename_i hfirst
        obtain rfl := Option.some.inj h
        exact .verb hword (closest?_eq_some_iff.1 hclosest).1 hfirst
      · simp at h
    · rcases Option.or_eq_some_iff.1 h with h | ⟨-, h⟩
      · obtain ⟨⟨d, n⟩, hclosest, rfl⟩ := Option.map_eq_some_iff.1 h
        exact .direction hword (closest?_eq_some_iff.1 hclosest).1
      · exact mistyped_of_noun h
  · exact mistyped_of_noun h

private theorem far_of_closest? {limit : Nat} {candidates : List String} {f : String × Nat → Token}
    (h : (closest? word limit candidates).map f = none) : ∀ c ∈ candidates, limit < distance word c :=
  closest?_eq_none_iff.1 (Option.map_eq_none_iff.1 h)

theorem isUnlike_of_mistyped? (h : mistyped? word = none) : IsUnlike word := by
  have hnoun : mistypedNoun? word = none := by
    rw [mistyped?_eq] at h
    split at h
    · exact (Option.or_eq_none_iff.1 (Option.or_eq_none_iff.1 h).2).2
    · exact h
  obtain ⟨hunit, hcolor⟩ := Option.or_eq_none_iff.1 hnoun
  refine ⟨far_of_closest? hunit, far_of_closest? hcolor, fun hword => ?_⟩
  rw [mistyped?_eq, if_pos hword] at h
  exact far_of_closest? (Option.or_eq_none_iff.1 (Option.or_eq_none_iff.1 h).2).1

end

/-! ### The class of a word -/

/-- The tokens that a word can become. -/
inductive Classified (word : String) : Token → Prop
  | filler (h : word ∈ fillerWords) (canonical : Option String) : Classified word (.word .plain word canonical)
  | listed {kind : WordClass} (hkind : kind ∈ listedClasses) (hword : word ∈ kind.words) :
    Classified word (.word kind word (some (kind.canonical word)))
  | mistyped {t : Token} (hword : Unlisted word) (h : Mistyped word t) : Classified word t
  | unlike (hword : Unlisted word) (h : IsUnlike word) : Classified word (.word .plain word none)

private theorem ne_and_of_not_filler {word : String} (h : word ∉ fillerWords) : word ≠ "and" := by
  rintro rfl
  exact h (by decide)

theorem classify_of_unlisted {word : String} (h : Unlisted word) :
    classify word = (mistyped? word).getD (.word .plain word none) := by
  have hnone : lexicon.find? (fun entry => entry.words.contains word) = none := by
    simpa using h.2
  rw [classify, if_neg (ne_and_of_not_filler h.1), if_neg (by simpa using h.1), hnone]

theorem classified_classify (word : String) : Classified word (classify word) := by
  by_cases hfiller : word ∈ fillerWords
  · unfold classify
    split
    · exact .filler hfiller _
    · rw [if_pos (by simpa using hfiller)]
      exact .filler hfiller _
  · cases hfind : lexicon.find? fun entry => entry.words.contains word with
    | some entry =>
      obtain ⟨kind, hkind, rfl⟩ := mem_lexicon_iff.1 (List.mem_of_find?_eq_some hfind)
      have hword : word ∈ kind.words := by simpa using List.find?_some hfind
      rw [classify, if_neg (ne_and_of_not_filler hfiller), if_neg (by simpa using hfiller), hfind]
      exact .listed hkind hword
    | none =>
      have hunlisted : Unlisted word := ⟨hfiller, by simpa using hfind⟩
      rw [classify_of_unlisted hunlisted]
      cases h : mistyped? word with
      | some t => exact .mistyped hunlisted (mistyped_of_mistyped? h)
      | none => exact .unlike hunlisted (isUnlike_of_mistyped? h)

/-- A mistyped word is a word of a class that forgives. -/
theorem Mistyped.exists_eq {word : String} {t : Token} (h : Mistyped word t) :
    ∃ kind ∈ forgivingClasses, ∃ canonical, t = .word kind word (some canonical) := by
  cases h with
  | verb => exact ⟨.verb, by decide, _, rfl⟩
  | direction => exact ⟨.direction, by decide, _, rfl⟩
  | unit => exact ⟨.unit, by decide, _, rfl⟩
  | color => exact ⟨.color, by decide, _, rfl⟩

theorem Classified.exists_eq {word : String} {t : Token} (h : Classified word t) :
    ∃ kind canonical, t = .word kind word canonical := by
  cases h with
  | filler _ canonical => exact ⟨_, _, rfl⟩
  | listed => exact ⟨_, _, rfl⟩
  | mistyped _ h =>
    obtain ⟨kind, -, canonical, rfl⟩ := h.exists_eq
    exact ⟨_, _, rfl⟩
  | unlike => exact ⟨_, _, rfl⟩

/-- A token is a number, or a word with its class. -/
theorem mem_tokenize {text : String} {t : Token} (h : t ∈ tokenize text) :
    t.isNumber = true ∨ Classified t.raw t := by
  have hword (word : String) : Classified (classify word).raw (classify word) := by
    have hclass := classified_classify word
    obtain ⟨kind, canonical, heq⟩ := hclass.exists_eq
    rw [heq] at hclass ⊢
    exact hclass
  obtain ⟨word, -, ht⟩ := List.mem_flatMap.1 h
  unfold wordTokens at ht
  split at ht
  · split at ht
    · rcases List.mem_cons.1 ht with rfl | ht
      · exact .inl rfl
      · split at ht
        · simp at ht
        · obtain rfl := List.mem_singleton.1 ht
          exact .inr (hword _)
    · obtain rfl := List.mem_singleton.1 ht
      exact .inr (hword _)
  · obtain rfl := List.mem_singleton.1 ht
    exact .inr (hword _)

/-- A token of a class is a word of its list or a mistyped one. -/
theorem listed_or_mistyped {text : String} {t : Token} (ht : t ∈ tokenize text) {kind : WordClass}
    (hkind : t.is kind = true) (hplain : kind ≠ .plain) :
    (t.raw ∈ kind.words ∧ t.text = kind.canonical t.raw) ∨ (Unlisted t.raw ∧ Mistyped t.raw t) := by
  rcases mem_tokenize ht with hnumber | hclass
  · cases t with
    | number n => simp [Token.is] at hkind
    | word => simp [Token.isNumber] at hnumber
  · generalize t.raw = word at hclass ⊢
    cases hclass with
    | filler => exact absurd (by simpa [Token.is] using hkind) hplain.symm
    | listed _ hword =>
      obtain rfl := by simpa [Token.is] using hkind
      exact .inl ⟨hword, rfl⟩
    | mistyped hword h => exact .inr ⟨hword, h⟩
    | unlike => exact absurd (by simpa [Token.is] using hkind) hplain.symm

/-- A class that does not forgive typing errors has only words of its list. -/
theorem raw_mem_words {text : String} {t : Token} (ht : t ∈ tokenize text) {kind : WordClass}
    (hkind : t.is kind = true) (hplain : kind ≠ .plain) (hforgiving : kind ∉ forgivingClasses) :
    t.raw ∈ kind.words := by
  rcases listed_or_mistyped ht hkind hplain with ⟨hword, -⟩ | ⟨-, hmistyped⟩
  · exact hword
  · obtain ⟨k, hk, canonical, heq⟩ := hmistyped.exists_eq
    rw [heq] at hkind
    obtain rfl : k = kind := by simpa [Token.is] using hkind
    exact absurd hk hforgiving

/-- A word for a motor is one of the list. -/
theorem raw_mem_motorWords {text : String} {t : Token} (ht : t ∈ tokenize text) (h : t.is .motor = true) :
    t.raw ∈ motorWords :=
  raw_mem_words ht h (by decide) (by decide)

/-! ### Soundness -/

/-- The class of a token is borne out by its spelling. -/
structure Token.SoundlyClassed (t : Token) : Prop where
  verb : t.is .verb = true →
    t.text ∈ allVerbs ∧ distance t.raw t.text ≤ 1 ∧ t.text.toList.head? = t.raw.toList.head?
  direction : t.is .direction = true →
    t.text ∈ ["forward", "backward", "left", "right"] ∧
      ∃ word ∈ allDirections, distance t.raw word ≤ 2 ∧ t.text = canonicalDirection word
  unit : t.is .unit = true → t.text ∈ allUnits ∧ distance t.raw t.text ≤ 2
  color : t.is .color = true → t.text ∈ colors ∧ distance t.raw t.text ≤ 2
  /-- Only long words that are not excluded are taken for a verb or a direction of another spelling. -/
  mistyped : ∀ kind, kind = .verb ∨ kind = .direction → t.is kind = true → t.raw ∉ kind.words → MayBeMistyped t.raw
  listed : ∀ kind, kind ≠ .plain → kind ∉ forgivingClasses → t.is kind = true → t.raw ∈ kind.words
  /-- A word without a class is a filler or near to nothing that it could stand for. -/
  unlike : t.is .plain = true → t.raw ∉ fillerWords → IsUnlike t.raw

section

variable {text : String} {t : Token} (ht : t ∈ tokenize text)

include ht

private theorem verb_sound (h : t.is .verb = true) :
    (t.text ∈ allVerbs ∧ distance t.raw t.text ≤ 1 ∧ t.text.toList.head? = t.raw.toList.head?) ∧
      (t.raw ∉ allVerbs → MayBeMistyped t.raw) := by
  rcases listed_or_mistyped ht h (by decide) with ⟨hword, htext⟩ | ⟨-, hmistyped⟩
  · have hself : t.text = t.raw := htext
    rw [hself]
    exact ⟨⟨hword, by simp, rfl⟩, fun hnot => absurd hword hnot⟩
  · generalize t.raw = word at hmistyped ⊢
    cases hmistyped with
    | verb hword hnear hfirst => exact ⟨⟨hnear.mem, hnear.within, hfirst⟩, fun _ => hword⟩
    | direction | unit | color => simp [Token.is] at h

private theorem direction_sound (h : t.is .direction = true) :
    (t.text ∈ ["forward", "backward", "left", "right"] ∧
      ∃ word ∈ allDirections, distance t.raw word ≤ 2 ∧ t.text = canonicalDirection word) ∧
      (t.raw ∉ allDirections → MayBeMistyped t.raw) := by
  have hfour : ∀ word ∈ allDirections, canonicalDirection word ∈ ["forward", "backward", "left", "right"] := by decide
  rcases listed_or_mistyped ht h (by decide) with ⟨hword, htext⟩ | ⟨-, hmistyped⟩
  · refine ⟨⟨?_, t.raw, hword, by simp, htext⟩, fun hnot => absurd hword hnot⟩
    rw [htext]
    exact hfour t.raw hword
  · generalize t.raw = word at hmistyped ⊢
    cases hmistyped with
    | direction hword hnear =>
      exact ⟨⟨hfour _ hnear.mem, _, hnear.mem, hnear.within, rfl⟩, fun _ => hword⟩
    | verb | unit | color => simp [Token.is] at h

private theorem unit_sound (h : t.is .unit = true) : t.text ∈ allUnits ∧ distance t.raw t.text ≤ 2 := by
  rcases listed_or_mistyped ht h (by decide) with ⟨hword, htext⟩ | ⟨-, hmistyped⟩
  · have hself : t.text = t.raw := htext
    rw [hself]
    exact ⟨hword, by simp⟩
  · generalize t.raw = word at hmistyped ⊢
    cases hmistyped with
    | unit hnear => exact ⟨hnear.mem, hnear.within⟩
    | verb | direction | color => simp [Token.is] at h

theorem color_cases (h : t.is .color = true) :
    (t.raw ∈ colors ∧ t.text = canonicalColor t.raw) ∨ (t.raw ∉ colors ∧ IsNearest t.raw 2 colors t.text) := by
  rcases listed_or_mistyped ht h (by decide) with hlisted | ⟨hunlisted, hmistyped⟩
  · exact .inl hlisted
  · refine .inr ⟨hunlisted.not_mem .color (by decide), ?_⟩
    generalize t.raw = word at hmistyped ⊢
    cases hmistyped with
    | color hnear => exact hnear
    | verb | direction | unit => simp [Token.is] at h

theorem color_sound (h : t.is .color = true) : t.text ∈ colors ∧ distance t.raw t.text ≤ 2 := by
  rcases color_cases ht h with ⟨hword, htext⟩ | ⟨-, hnear⟩
  · rw [htext]
    unfold canonicalColor
    split
    · rename_i hgrey
      rw [hgrey]
      decide +kernel
    · exact ⟨hword, by simp⟩
  · exact ⟨hnear.mem, hnear.within⟩

private theorem plain_sound (h : t.is .plain = true) (hfiller : t.raw ∉ fillerWords) : IsUnlike t.raw := by
  rcases mem_tokenize ht with hnumber | hclass
  · cases t with
    | number n => simp [Token.is] at h
    | word => simp [Token.isNumber] at hnumber
  · generalize t.raw = word at hclass hfiller ⊢
    cases hclass with
    | filler hword => exact absurd hword hfiller
    | listed hkind _ =>
      obtain rfl := by simpa [Token.is] using h
      exact absurd hkind (by decide)
    | mistyped _ hmistyped =>
      obtain ⟨kind, hkind, canonical, rfl⟩ := hmistyped.exists_eq
      obtain rfl := by simpa [Token.is] using h
      exact absurd hkind (by decide)
    | unlike _ hunlike => exact hunlike

/-- Every token is classed soundly. -/
theorem soundlyClassed_of_mem_tokenize : t.SoundlyClassed where
  verb h := (verb_sound ht h).1
  direction h := (direction_sound ht h).1
  unit := unit_sound ht
  color := color_sound ht
  mistyped := by
    rintro kind (rfl | rfl) h
    · exact (verb_sound ht h).2
    · exact (direction_sound ht h).2
  listed kind hplain hforgiving h := raw_mem_words ht h hplain hforgiving
  unlike := plain_sound ht

end

/-- Of the two units that are one edit away the first is taken. -/
theorem soundlyClassed_cmm :
    Token.word .unit "cmm" (some "mm") ∈ tokenize "go 5cmm" ∧ (Token.word .unit "cmm" (some "mm")).SoundlyClassed := by
  have hmem : Token.word .unit "cmm" (some "mm") ∈ tokenize "go 5cmm" := by decide +kernel
  exact ⟨hmem, soundlyClassed_of_mem_tokenize hmem⟩

end RobotPhrase
