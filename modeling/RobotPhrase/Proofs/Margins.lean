import RobotPhrase.Program.Compile
import RobotPhrase.Proofs.Kinds
import RobotPhrase.Proofs.Tokenize

/-!
# Blanks around a sentence

A program is compiled from sentences without the blanks around them, but a sentence is validated as it is.  The blanks
give it no words, and hide nothing from the rules, with one exception: the marks that join two phrases begin and end
with a blank, so a blank before a sentence may turn its first word into a mark that joins nothing, and a blank behind it
the last one (`JoinsNothing`).  Such a mark can keep the two phrases of a sentence from being found.  Nothing else goes
wrong, and a valid sentence always compiles (`isComplete_iff_valid_or`).
-/

namespace RobotPhrase

open Text Vocabulary Grammar

/-! ### Phrases inside margins -/

namespace Text

/-- Whether a phrase begins and ends with characters that are no blanks. -/
def isSolid (phrase : List Char) : Bool :=
  phrase.head?.any (fun c => !isBlank c) && phrase.getLast?.any fun c => !isBlank c

section

variable {phrase : List Char} (hsolid : isSolid phrase = true)

include hsolid

private theorem exists_cons_of_isSolid : ∃ c rest, phrase = c :: rest ∧ isBlank c = false := by
  unfold isSolid at hsolid
  cases phrase with
  | nil => simp at hsolid
  | cons c rest => exact ⟨c, rest, rfl, by simp_all⟩

private theorem not_prefix_of_isBlank {b : Char} (hb : isBlank b = true) (cs : List Char) : ¬ phrase <+: b :: cs := by
  obtain ⟨c, rest, rfl, hc⟩ := exists_cons_of_isSolid hsolid
  intro h
  obtain rfl : c = b := (List.cons_prefix_cons.1 h).1
  simp [hb] at hc

/-- A solid phrase at the front of a text does not reach into the blanks behind it. -/
private theorem prefix_append_iff {after : List Char} (hafter : AllBlank after) (cs : List Char) :
    phrase <+: cs ++ after ↔ phrase <+: cs := by
  constructor
  · rintro ⟨rest, h⟩
    rw [List.append_eq_append_iff] at h
    rcases h with ⟨x, rfl, -⟩ | ⟨x, rfl, hx⟩
    · exact ⟨x, rfl⟩
    · -- `x` is the part of the phrase behind the text, and its last character would be a blank
      cases hlast : x.getLast? with
      | none => exact ⟨[], by simp [List.getLast?_eq_none_iff.1 hlast]⟩
      | some d =>
        have hblank : isBlank d = true := hafter d (by rw [hx]; simp [List.mem_of_getLast? hlast])
        unfold isSolid at hsolid
        simp [List.getLast?_append, hlast, hblank] at hsolid
  · intro h
    exact h.trans (List.prefix_append cs after)

private theorem infix_append_iff {after : List Char} (hafter : AllBlank after) (cs : List Char) :
    phrase <:+: cs ++ after ↔ phrase <:+: cs := by
  induction cs with
  | nil =>
    have hnone {ds : List Char} (hds : AllBlank ds) : ¬ phrase <:+: ds := by
      obtain ⟨c, rest, rfl, hc⟩ := exists_cons_of_isSolid hsolid
      intro hfound
      simp [hds c (hfound.subset (by simp))] at hc
    exact iff_of_false (hnone hafter) (hnone (by simp [AllBlank]))
  | cons c cs ih =>
    rw [List.cons_append, List.infix_cons_iff, List.infix_cons_iff, ih, ← List.cons_append,
      prefix_append_iff hsolid hafter]

/-- Blanks around a text do not matter for the solid phrases in it. -/
theorem occurs_around {before after : List Char} (hbefore : AllBlank before) (hafter : AllBlank after)
    (cs : List Char) : occurs phrase (before ++ cs ++ after) = occurs phrase cs := by
  rw [Bool.eq_iff_iff, occurs_iff, occurs_iff, infix_append_iff hsolid hafter]
  induction before with
  | nil => rfl
  | cons b before ih =>
    rw [List.cons_append, List.infix_cons_iff, ih fun c hc => hbefore c (by simp [hc])]
    exact or_iff_right (not_prefix_of_isBlank hsolid (hbefore b (by simp)) _)

private theorem without_blanks_append {before : List Char} (hbefore : AllBlank before) (cs : List Char) :
    without phrase 0 (before ++ cs) = before ++ without phrase 0 cs := by
  induction before with
  | nil => rfl
  | cons b before ih =>
    have hnone : ¬ (after? phrase (b :: (before ++ cs))).isSome = true := fun h =>
      not_prefix_of_isBlank hsolid (hbefore b (by simp)) _ (startsWith_iff.1 h)
    rw [List.cons_append, without, if_neg hnone, ih fun c hc => hbefore c (by simp [hc])]
    rfl

/-- What belongs to the occurrence found last, `skip` characters, does not reach into the blanks either. -/
private theorem without_append {after : List Char} (hafter : AllBlank after) {cs : List Char} {skip : Nat}
    (hskip : skip ≤ cs.length) : without phrase skip (cs ++ after) = without phrase skip cs ++ after := by
  induction cs generalizing skip with
  | nil =>
    obtain rfl : skip = 0 := Nat.le_zero.1 hskip
    have hblanks := without_blanks_append hsolid hafter []
    rw [List.append_nil] at hblanks
    rw [List.nil_append, hblanks, without, List.append_nil]
    rfl
  | cons c cs ih =>
    cases skip with
    | succ n => exact ih (Nat.le_of_succ_le_succ hskip)
    | zero =>
      have hsome : (after? phrase (c :: (cs ++ after))).isSome = (after? phrase (c :: cs)).isSome := by
        rw [Bool.eq_iff_iff]
        exact startsWith_iff.trans ((prefix_append_iff hsolid hafter (c :: cs)).trans startsWith_iff.symm)
      rw [List.cons_append, without, without, hsome]
      split
      · rename_i hfound
        have hlength := (startsWith_iff.1 hfound).length_le
        simp only [List.length_cons] at hlength
        exact ih (by omega)
      · rw [ih (Nat.zero_le _)]
        rfl

theorem trim_without_around {before after : List Char} (hbefore : AllBlank before) (hafter : AllBlank after)
    (cs : List Char) : trim (without phrase 0 (before ++ cs ++ after)) = trim (without phrase 0 cs) := by
  rw [List.append_assoc, without_blanks_append hsolid hbefore, without_append hsolid hafter (Nat.zero_le _),
    ← List.append_assoc, trim_around hbefore hafter]

end

section

variable {before after : List Char} (hbefore : AllBlank before) (hafter : AllBlank after)

include hbefore hafter

/-- A phrase that has more than blanks on its two sides lies inside the margins. -/
private theorem exists_of_not_allBlank {cs phrase f r : List Char} (h : before ++ cs ++ after = f ++ phrase ++ r)
    (hf : ¬ AllBlank f) (hr : ¬ AllBlank r) :
    ∃ f' r', f = before ++ f' ∧ r = r' ++ after ∧ cs = f' ++ phrase ++ r' := by
  rw [List.append_assoc, List.append_assoc, List.append_eq_append_iff] at h
  rcases h with ⟨f', rfl, h⟩ | ⟨x, rfl, -⟩
  · rw [← List.append_assoc, List.append_eq_append_iff] at h
    rcases h with ⟨x, -, rfl⟩ | ⟨r', rfl, rfl⟩
    · exact absurd hafter.of_append_right hr
    · exact ⟨f', r', rfl, rfl, rfl⟩
  · exact absurd hbefore.of_append_left hf

/-- A cut that leaves more than blanks on its two sides is made inside the margins. -/
private theorem cut_of_around {cs phrase f r : List Char} (h : cut phrase (before ++ cs ++ after) = some (f, r))
    (hf : ¬ AllBlank f) (hr : ¬ AllBlank r) :
    ∃ f' r', f = before ++ f' ∧ r = r' ++ after ∧ cut phrase cs = some (f', r') := by
  obtain ⟨htext, hleast⟩ := cut_eq_some_iff.1 h
  obtain ⟨f', r', rfl, rfl, hcs⟩ := exists_of_not_allBlank hbefore hafter htext hf hr
  refine ⟨f', r', rfl, rfl, cut_eq_some_iff.2 ⟨hcs, ?_⟩⟩
  intro x y hxy
  have hlength := hleast (before ++ x) (y ++ after) (by simp [hxy])
  simp only [List.length_append] at hlength
  omega

end

/-- A mark dangles if it stands at an end of the text, up to blanks. -/
def Dangles (mark text : List Char) : Prop :=
  ∃ before after, text = before ++ mark ++ after ∧ (AllBlank before ∨ AllBlank after)

private theorem cutOnce_eq_some_iff {mark text f r : List Char} :
    cutOnce mark text = some (f, r) ↔ cut mark text = some (f, r) ∧ ¬ mark <:+: r := by
  unfold cutOnce
  rw [Option.filter_eq_some_iff, Bool.not_eq_true', Bool.eq_false_iff, ne_eq, occurs_iff]

section

variable {before after cs mark : List Char} (hbefore : AllBlank before) (hafter : AllBlank after)
  (hmark : ¬ Dangles mark (before ++ cs ++ after))

include hbefore hafter hmark

/-- A mark that does not dangle lies inside the margins. -/
private theorem exists_of_not_dangles {f r : List Char} (h : before ++ cs ++ after = f ++ mark ++ r) :
    ∃ f' r', f = before ++ f' ∧ r = r' ++ after ∧ cs = f' ++ mark ++ r' :=
  exists_of_not_allBlank hbefore hafter h (fun hf => hmark ⟨f, r, h, .inl hf⟩) fun hr => hmark ⟨f, r, h, .inr hr⟩

private theorem occurs_of_not_dangles : occurs mark (before ++ cs ++ after) = occurs mark cs := by
  rw [Bool.eq_iff_iff, occurs_iff, occurs_iff]
  constructor
  · rintro ⟨f, r, h⟩
    obtain ⟨f', r', -, -, hcs⟩ := exists_of_not_dangles hbefore hafter hmark h.symm
    exact ⟨f', r', hcs.symm⟩
  · intro h
    exact h.trans ⟨before, after, rfl⟩

private theorem cut_of_not_dangles {f r : List Char} (h : cut mark cs = some (f, r)) :
    cut mark (before ++ cs ++ after) = some (before ++ f, r ++ after) := by
  obtain ⟨hcs, hleast⟩ := cut_eq_some_iff.1 h
  refine cut_eq_some_iff.2 ⟨by simp [hcs], ?_⟩
  intro x y hxy
  obtain ⟨x', y', rfl, rfl, hinside⟩ := exists_of_not_dangles hbefore hafter hmark hxy
  have hlength := hleast x' y' hinside
  simp only [List.length_append]
  omega

/-- A mark that occurs once in a text occurs once with the margins, too. -/
private theorem cutOnce_of_not_dangles {f r : List Char} (h : cutOnce mark cs = some (f, r)) :
    cutOnce mark (before ++ cs ++ after) = some (before ++ f, r ++ after) := by
  obtain ⟨hcut, honce⟩ := cutOnce_eq_some_iff.1 h
  refine cutOnce_eq_some_iff.2 ⟨cut_of_not_dangles hbefore hafter hmark hcut, ?_⟩
  rintro ⟨x, y, hxy⟩
  -- a second occurrence would lie behind the first one, inside the margins
  have htext : before ++ cs ++ after = (before ++ f ++ mark ++ x) ++ mark ++ y := by
    rw [eq_of_cut hcut]
    simp only [List.append_assoc] at hxy ⊢
    rw [hxy]
  obtain ⟨f', y', -, rfl, -⟩ := exists_of_not_dangles hbefore hafter hmark htext
  have hrest : x ++ mark ++ y' ++ after = r ++ after := by simpa using hxy
  exact honce ⟨x, y', List.append_cancel_right hrest⟩

end

end Text

/-! ### Two phrases inside margins -/

/-- The words that join two phrases, with the blanks around them. -/
def joiningMarks : List String := [" while ", " and "]

/-- A mark that joins two phrases stands at an end of the sentence, where it joins nothing. -/
def JoinsNothing (text : String) : Prop := ∃ mark ∈ joiningMarks, Dangles mark.toList (lower text.toList)

private theorem exists_rawHalves? {text : List Char} {p : String × String} (h : halves? text = some p) :
    ∃ f r, rawHalves? text = some (f, r) ∧ ¬ AllBlank f ∧ ¬ AllBlank r := by
  unfold halves? at h
  obtain ⟨⟨f, r⟩, hraw, hhalves⟩ := Option.bind_eq_some_iff.1 h
  dsimp only at hhalves
  split at hhalves
  · simp at hhalves
  · rename_i hblank
    rw [Bool.or_eq_true, List.isEmpty_iff, List.isEmpty_iff, trim_eq_nil_iff, trim_eq_nil_iff] at hblank
    exact ⟨f, r, hraw, not_or.1 hblank⟩

private theorem halves?_eq_of_trim_eq {a b f r f' r' : List Char} (ha : rawHalves? a = some (f, r))
    (hb : rawHalves? b = some (f', r')) (hf : trim f = trim f') (hr : trim r = trim r') : halves? a = halves? b := by
  unfold halves?
  rw [ha, hb]
  simp only [Option.bind_eq_bind, Option.bind_some, hf, hr]

private theorem rawHalves?_eq (text : List Char) :
    rawHalves? text =
      if occurs " while ".toList text then cutOnce " while ".toList text
      else if occurs "simultaneously".toList text then
        cut " and ".toList (trim (without "simultaneously".toList 0 text))
      else if occurs "at the same time".toList text then
        cut " and ".toList (trim (without "at the same time".toList 0 text))
      else if occurs " and ".toList text && actionHints.any fun hint => occurs hint.toList text then
        cut " and ".toList text
      else none :=
  rfl

section

variable {before after cs : List Char} (hbefore : AllBlank before) (hafter : AllBlank after)

include hbefore hafter

private theorem any_actionHints_around :
    (actionHints.any fun hint => occurs hint.toList (before ++ cs ++ after)) =
      actionHints.any fun hint => occurs hint.toList cs := by
  have hsolid : ∀ hint ∈ actionHints, isSolid hint.toList = true := by decide
  rw [Bool.eq_iff_iff, List.any_eq_true, List.any_eq_true]
  constructor
  · rintro ⟨hint, hmem, h⟩
    exact ⟨hint, hmem, by rwa [occurs_around (hsolid hint hmem) hbefore hafter] at h⟩
  · rintro ⟨hint, hmem, h⟩
    exact ⟨hint, hmem, by rwa [occurs_around (hsolid hint hmem) hbefore hafter]⟩

/-- The margins matter for the two marks only. -/
private theorem rawHalves?_around :
    rawHalves? (before ++ cs ++ after) =
      if occurs " while ".toList (before ++ cs ++ after) then cutOnce " while ".toList (before ++ cs ++ after)
      else if occurs "simultaneously".toList cs then
        cut " and ".toList (trim (without "simultaneously".toList 0 cs))
      else if occurs "at the same time".toList cs then
        cut " and ".toList (trim (without "at the same time".toList 0 cs))
      else if occurs " and ".toList (before ++ cs ++ after) && actionHints.any fun hint => occurs hint.toList cs then
        cut " and ".toList (before ++ cs ++ after)
      else none := by
  have hsimultaneously : isSolid "simultaneously".toList = true := by decide
  have hsame : isSolid "at the same time".toList = true := by decide
  rw [rawHalves?_eq, occurs_around hsimultaneously hbefore hafter, trim_without_around hsimultaneously hbefore hafter,
    occurs_around hsame hbefore hafter, trim_without_around hsame hbefore hafter,
    any_actionHints_around hbefore hafter]

private theorem trim_margins (f r : List Char) : trim (before ++ f) = trim f ∧ trim (r ++ after) = trim r := by
  have hempty : AllBlank [] := by simp [AllBlank]
  exact ⟨by simpa using trim_around hbefore hempty f, by simpa using trim_around hempty hafter r⟩

private theorem rawHalves?_of_around {f r : List Char} (h : rawHalves? (before ++ cs ++ after) = some (f, r))
    (hf : ¬ AllBlank f) (hr : ¬ AllBlank r) :
    ∃ f' r', rawHalves? cs = some (f', r') ∧ trim f = trim f' ∧ trim r = trim r' := by
  have hinside {mark : List Char} (hmark : ¬ occurs mark (before ++ cs ++ after) = true) : ¬ occurs mark cs = true := by
    rw [occurs_iff] at hmark ⊢
    exact fun hfound => hmark (hfound.trans ⟨before, after, rfl⟩)
  rw [rawHalves?_around hbefore hafter] at h
  rw [rawHalves?_eq]
  by_cases hwhile : occurs " while ".toList (before ++ cs ++ after) = true
  · rw [if_pos hwhile] at h
    obtain ⟨hcut, honce⟩ := cutOnce_eq_some_iff.1 h
    obtain ⟨f', r', rfl, rfl, hcut'⟩ := cut_of_around hbefore hafter hcut hf hr
    have hmark : occurs " while ".toList cs = true := by rw [occurs, hcut']; rfl
    have honce' : ¬ " while ".toList <:+: r' := fun hfound =>
      honce (hfound.trans (List.prefix_append r' after).isInfix)
    rw [if_pos hmark]
    exact ⟨f', r', cutOnce_eq_some_iff.2 ⟨hcut', honce'⟩, trim_margins hbefore hafter f' r'⟩
  rw [if_neg hwhile] at h
  rw [if_neg (hinside hwhile)]
  by_cases hsimultaneously : occurs "simultaneously".toList cs = true
  · rw [if_pos hsimultaneously] at h ⊢
    exact ⟨f, r, h, rfl, rfl⟩
  rw [if_neg hsimultaneously] at h ⊢
  by_cases hsame : occurs "at the same time".toList cs = true
  · rw [if_pos hsame] at h ⊢
    exact ⟨f, r, h, rfl, rfl⟩
  rw [if_neg hsame] at h ⊢
  split at h
  · rename_i hjoined
    obtain ⟨f', r', rfl, rfl, hcut'⟩ := cut_of_around hbefore hafter h hf hr
    have hmark : occurs " and ".toList cs = true := by rw [occurs, hcut']; rfl
    rw [hmark, (Bool.and_eq_true_iff.1 hjoined).2]
    exact ⟨f', r', hcut', trim_margins hbefore hafter f' r'⟩
  · simp at h

/-- Two phrases found in spite of the margins are found without them. -/
theorem halves?_of_around {p : String × String} (h : halves? (before ++ cs ++ after) = some p) :
    halves? cs = some p := by
  obtain ⟨f, r, hraw, hf, hr⟩ := exists_rawHalves? h
  obtain ⟨f', r', hraw', hf', hr'⟩ := rawHalves?_of_around hbefore hafter hraw hf hr
  rw [← h, halves?_eq_of_trim_eq hraw hraw' hf' hr']

private theorem rawHalves?_of_not_dangles
    (hmarks : ∀ mark ∈ joiningMarks, ¬ Dangles mark.toList (before ++ cs ++ after)) {f r : List Char}
    (h : rawHalves? cs = some (f, r)) :
    ∃ f' r', rawHalves? (before ++ cs ++ after) = some (f', r') ∧ trim f' = trim f ∧ trim r' = trim r := by
  have hwhile := hmarks " while " (by decide)
  have hand := hmarks " and " (by decide)
  have htrims := trim_margins hbefore hafter f r
  rw [rawHalves?_around hbefore hafter, occurs_of_not_dangles hbefore hafter hwhile,
    occurs_of_not_dangles hbefore hafter hand]
  rw [rawHalves?_eq] at h
  by_cases hmark : occurs " while ".toList cs = true
  · rw [if_pos hmark] at h ⊢
    exact ⟨_, _, cutOnce_of_not_dangles hbefore hafter hwhile h, htrims⟩
  rw [if_neg hmark] at h ⊢
  by_cases hsimultaneously : occurs "simultaneously".toList cs = true
  · rw [if_pos hsimultaneously] at h ⊢
    exact ⟨f, r, h, rfl, rfl⟩
  rw [if_neg hsimultaneously] at h ⊢
  by_cases hsame : occurs "at the same time".toList cs = true
  · rw [if_pos hsame] at h ⊢
    exact ⟨f, r, h, rfl, rfl⟩
  rw [if_neg hsame] at h ⊢
  split at h
  · rename_i hjoined
    rw [if_pos hjoined]
    exact ⟨_, _, cut_of_not_dangles hbefore hafter hand h, htrims⟩
  · simp at h

/-- If no mark joins nothing, the margins change nothing. -/
theorem halves?_of_not_dangles
    (hmarks : ∀ mark ∈ joiningMarks, ¬ Dangles mark.toList (before ++ cs ++ after)) {p : String × String}
    (h : halves? cs = some p) : halves? (before ++ cs ++ after) = some p := by
  obtain ⟨f, r, hraw, -, -⟩ := exists_rawHalves? h
  obtain ⟨f', r', hraw', hf, hr⟩ := rawHalves?_of_not_dangles hbefore hafter hmarks hraw
  rw [← h, halves?_eq_of_trim_eq hraw' hraw hf hr]

end

/-! ### Validation and compilation -/

/-- A sentence of two phrases has a token. -/
private theorem tokenize_ne_nil_of_halves? {text : String} (h : (halves? (lower text.toList)).isSome = true) :
    tokenize text ≠ [] := by
  obtain ⟨p, hp⟩ := Option.isSome_iff_exists.1 h
  obtain ⟨f, r, hraw, -, -⟩ := exists_rawHalves? hp
  have hletter {phrase : List Char} {c : Char} (hphrase : occurs phrase (lower text.toList) = true) (hc : c ∈ phrase)
      (hsmall : isSmallLetter c = true) : tokenize text ≠ [] :=
    tokenize_ne_nil (isKept_of_isSmallLetter hsmall) ((occurs_iff.1 hphrase).subset hc)
  rw [rawHalves?_eq] at hraw
  split at hraw
  · rename_i hwhile
    exact hletter (c := 'w') hwhile (by decide) (by decide)
  split at hraw
  · rename_i hsimultaneously
    exact hletter (c := 's') hsimultaneously (by decide) (by decide)
  split at hraw
  · rename_i hsame
    exact hletter (c := 's') hsame (by decide) (by decide)
  split at hraw
  · rename_i hjoined
    exact hletter (c := 'a') (Bool.and_eq_true_iff.1 hjoined).1 (by decide) (by decide)
  · simp at hraw

section

variable {scene : Scene} {read : String → Answer}

/-- Whether a loop or a plain command is understood shows in the tokens. -/
private theorem any_isUnderstood_eq_of_tokens {s t : Sentence} (h : s.tokens = t.tokens) :
    ((loop (some read) scene s).or (plainAnswer? scene s)).any Answer.isUnderstood =
      ((loop (some read) scene t).or (plainAnswer? scene t)).any Answer.isUnderstood := by
  have hhas : s.has .repetition = t.has .repetition := by simp only [Sentence.has, h]
  have hfirst : s.firstNumeral? = t.firstNumeral? := by simp only [Sentence.firstNumeral?, Sentence.numerals, h]
  rw [plainAnswer?_eq_of_tokens h]
  unfold loop
  rw [hhas, hfirst]
  by_cases hloop : t.has .repetition = true
  · rw [if_pos hloop, if_pos hloop]
    cases t.firstNumeral? <;> rfl
  · rw [if_neg hloop, if_neg hloop]

/-- A call of a routine and two phrases are understood in any case, other sentences by their tokens. -/
private theorem isUnderstood_answerWith (text : String) :
    (answerWith (some read) scene text).isUnderstood = true ↔
      tokenize text ≠ [] ∧ ((routineCall scene (.ofText text)).isSome = true ∨
        (halves? (lower text.toList)).isSome = true ∨
        ((loop (some read) scene (.ofText text)).or (plainAnswer? scene (.ofText text))).any
          Answer.isUnderstood = true) := by
  have htasks : twoTasks (some read) scene (.ofText text) = (halves? (lower text.toList)).map fun p =>
      .understood (.tasks p.1 p.2 (blockOf read p.1) (blockOf read p.2)) := rfl
  rw [answerWith_eq, htasks]
  generalize (loop (some read) scene (.ofText text)).or (plainAnswer? scene (.ofText text)) = rest
  by_cases htokens : tokenize text = []
  · simp [htokens]
  rw [if_neg htokens]
  cases hroutine : routineCall scene (.ofText text) with
  | some a =>
    have ha : a.isUnderstood = true := by
      obtain ⟨⟨routine, arguments⟩, -, rfl⟩ := Option.map_eq_some_iff.1 hroutine
      rfl
    simp [htokens, ha]
  | none =>
    cases halves? (lower text.toList) with
    | some p => simp [htokens]
    | none => cases rest <;> simp [htokens]

end

private theorem isComplete_singleton (text : String) :
    ({ commands := [text] } : ProgramSpec).compile.isComplete = true ↔
      trimmed text = "" ∨ (interpret ⟨{ }, [], []⟩ (trimmed text)).isUnderstood = true := by
  have hscene : ({ commands := [text] } : ProgramSpec).scene = ⟨{ }, [], []⟩ := rfl
  have hspoken : ({ commands := [text] } : ProgramSpec).spoken = if trimmed text = "" then [] else [trimmed text] := by
    unfold ProgramSpec.spoken
    by_cases h : trimmed text = "" <;> simp [h]
  have hstatus (a : Answer) : (a.status == .parsed) = a.isUnderstood := by
    unfold Answer.status Answer.isUnderstood
    cases a.outcome with
    | error => cases a.needsModel <;> rfl
    | _ => rfl
  unfold Compiled.isComplete ProgramSpec.compile ProgramSpec.assemble ProgramSpec.reports
  simp only [hscene, hspoken, hstatus]
  by_cases h : trimmed text = "" <;> simp [h]

/-- Without the blanks around it, a sentence is understood if it is understood with them, and else exactly if two
phrases are found in it while with the blanks a mark joins nothing. -/
private theorem isUnderstood_trimmed_iff (scene : Scene) (read : String → Answer) (text : String) :
    (answerWith (some read) scene (trimmed text)).isUnderstood = true ↔
      (answerWith (some read) scene text).isUnderstood = true ∨
        ((halves? (lower (trim text.toList))).isSome = true ∧ JoinsNothing text) := by
  obtain ⟨before, after, hbefore, hafter, htext⟩ := exists_append_trim_append text.toList
  have hlower : lower text.toList = before ++ lower (trim text.toList) ++ after := by
    conv => lhs; rw [htext]
    exact lower_around hbefore hafter _
  have hlist : (trimmed text).toList = trim text.toList := String.toList_ofList
  have htokens : (Sentence.ofText (trimmed text)).tokens = (Sentence.ofText text).tokens := by
    simp only [Sentence.ofText, tokenize_trimmed]
  have hroutine : routineCall scene (.ofText (trimmed text)) = routineCall scene (.ofText text) := by
    refine routineCall_eq_of_tokens htokens ?_
    simp only [Sentence.ofText, hlist, trim_trim]
  rw [isUnderstood_answerWith, isUnderstood_answerWith, tokenize_trimmed, hroutine,
    any_isUnderstood_eq_of_tokens htokens, hlist]
  constructor
  · rintro ⟨hne, hcall | htasks | hother⟩
    · exact .inl ⟨hne, .inl hcall⟩
    · by_cases hnothing : JoinsNothing text
      · exact .inr ⟨htasks, hnothing⟩
      · obtain ⟨p, hp⟩ := Option.isSome_iff_exists.1 htasks
        have hmarks : ∀ mark ∈ joiningMarks, ¬ Dangles mark.toList (before ++ lower (trim text.toList) ++ after) := by
          intro mark hmark hdangles
          exact hnothing ⟨mark, hmark, hlower ▸ hdangles⟩
        have hhalves := halves?_of_not_dangles hbefore hafter hmarks hp
        rw [← hlower] at hhalves
        exact .inl ⟨hne, .inr (.inl (by rw [hhalves]; rfl))⟩
    · exact .inl ⟨hne, .inr (.inr hother)⟩
  · rintro (⟨hne, hcall | htasks | hother⟩ | ⟨htasks, -⟩)
    · exact ⟨hne, .inl hcall⟩
    · obtain ⟨p, hp⟩ := Option.isSome_iff_exists.1 htasks
      rw [hlower] at hp
      exact ⟨hne, .inr (.inl (by rw [halves?_of_around hbefore hafter hp]; rfl))⟩
    · exact ⟨hne, .inr (.inr hother)⟩
    · have hne : tokenize (trimmed text) ≠ [] := tokenize_ne_nil_of_halves? (by rwa [hlist])
      rw [tokenize_trimmed] at hne
      exact ⟨hne, .inr (.inl htasks)⟩

/-- A sentence of its own compiles if it is blank or valid, and else exactly if two phrases are found in it once the
blanks around it are taken off, while with them a mark at one of its ends joins nothing. -/
theorem isComplete_iff_valid_or (text : String) :
    ({ commands := [text] } : ProgramSpec).compile.isComplete = true ↔
      trimmed text = "" ∨ (validate text).valid = true ∨
        ((halves? (lower (trim text.toList))).isSome = true ∧ JoinsNothing text) := by
  unfold validate interpretPlain
  rw [isComplete_singleton, interpret_eq_answerWith, interpret_eq_answerWith, isUnderstood_trimmed_iff]

/-- With the blank before it, the word "while" is a mark that joins nothing, and the two phrases are not found. -/
theorem not_valid_while_move_and_go :
    trimmed " while move and go" ≠ "" ∧ (validate " while move and go").valid = false ∧
      ({ commands := [" while move and go"] } : ProgramSpec).compile.isComplete = true := by
  exact ⟨by decide +kernel, by decide +kernel, by decide +kernel⟩

end RobotPhrase
