import RobotPhrase.Proofs.Text
import RobotPhrase.Text.Search

/-!
# Phrases in texts

`occurs` finds a phrase exactly if it stands somewhere in the text (`occurs_iff`), and `cut` cuts at its leftmost place
(`cut_eq_some_iff`).  A phrase does not reach across a character that is not in it (`infix_append_cons_iff`), so a
phrase in a text stands within one of its pieces: a phrase without blanks within a word, a phrase without a line feed
within a line.  A section written line by line has these lines (`linesOf_joinLines_eq_self`).
-/

namespace RobotPhrase.Text

/-! ### Searching -/

theorem startsWith_iff {phrase text : List Char} : startsWith phrase text = true ↔ phrase <+: text := by
  unfold startsWith
  rw [Option.isSome_iff_exists]
  constructor
  · rintro ⟨rest, h⟩
    exact ⟨rest, (after?_eq_some_iff.1 h).symm⟩
  · rintro ⟨rest, h⟩
    exact ⟨rest, after?_eq_some_iff.2 h.symm⟩

theorem after?_eq_none_iff {phrase text : List Char} : after? phrase text = none ↔ ¬ phrase <+: text := by
  rw [← startsWith_iff, startsWith, Option.not_isSome_iff_eq_none]

theorem occurs_iff {phrase text : List Char} : occurs phrase text = true ↔ phrase <:+: text := by
  unfold occurs
  induction text with
  | nil =>
    rw [cut]
    split <;> simp_all
  | cons c cs ih =>
    rw [cut, List.infix_cons_iff, ← startsWith_iff, startsWith]
    cases h : after? phrase (c :: cs) with
    | some rest => simp
    | none => simpa using ih

private theorem length_le_of_cut {phrase text before rest : List Char} (h : cut phrase text = some (before, rest))
    {b r : List Char} (hb : text = b ++ phrase ++ r) : before.length ≤ b.length := by
  induction text generalizing before rest b with
  | nil =>
    have hempty : before = [] := by
      have hnil := (eq_of_cut h).symm
      simp only [List.append_eq_nil_iff] at hnil
      exact hnil.1.1
    simp [hempty]
  | cons c cs ih =>
    unfold cut at h
    split at h
    · obtain ⟨rfl, -⟩ := by simpa using h
      simp
    · rename_i hnone
      obtain ⟨⟨x, y⟩, hx, he⟩ := Option.map_eq_some_iff.1 h
      obtain ⟨rfl, rfl⟩ := by simpa using he
      cases b with
      | nil =>
        have hafter : after? phrase (c :: cs) = some r := after?_eq_some_iff.2 (by simpa using hb)
        simp [hafter] at hnone
      | cons d b =>
        have hcs : cs = b ++ phrase ++ r := (List.cons.inj hb).2
        have := ih hx hcs
        simp only [List.length_cons]
        omega

/-- A cut is made at the leftmost occurrence. -/
theorem cut_eq_some_iff {phrase text before rest : List Char} :
    cut phrase text = some (before, rest) ↔
      text = before ++ phrase ++ rest ∧ ∀ b r, text = b ++ phrase ++ r → before.length ≤ b.length := by
  constructor
  · intro h
    exact ⟨eq_of_cut h, fun b r hb => length_le_of_cut h hb⟩
  · rintro ⟨htext, hleast⟩
    have hoccurs : occurs phrase text = true := occurs_iff.2 ⟨before, rest, htext.symm⟩
    obtain ⟨⟨b, r⟩, hcut⟩ := Option.isSome_iff_exists.1 hoccurs
    have hlength : b.length = before.length :=
      Nat.le_antisymm (length_le_of_cut hcut htext) (hleast b r (eq_of_cut hcut))
    have hsame : b ++ (phrase ++ r) = before ++ (phrase ++ rest) := by
      rw [← List.append_assoc, ← List.append_assoc, ← eq_of_cut hcut, htext]
    obtain ⟨rfl, hrest⟩ := List.append_inj hsame hlength
    obtain rfl := List.append_cancel_left hrest
    exact hcut

theorem not_infix_of_cut {phrase text before rest : List Char} (hne : phrase ≠ [])
    (h : cut phrase text = some (before, rest)) : ¬ phrase <:+: before := by
  rintro ⟨a, b, rfl⟩
  have hleast := (cut_eq_some_iff.1 h).2 a (b ++ phrase ++ rest) (by rw [eq_of_cut h]; simp)
  have hpos : 0 < phrase.length := List.length_pos_iff.2 hne
  simp only [List.length_append] at hleast
  omega

/-- A phrase does not reach across a character that is not in it. -/
theorem infix_append_cons_iff {phrase a b : List Char} {c : Char} (hc : c ∉ phrase) :
    phrase <:+: a ++ c :: b ↔ phrase <:+: a ∨ phrase <:+: b := by
  constructor
  · rintro ⟨s, t, h⟩
    rw [List.append_assoc, List.append_eq_append_iff] at h
    rcases h with ⟨a', rfl, h⟩ | ⟨d, rfl, h⟩
    · -- the phrase begins before the character, hence ends before it
      rw [List.append_eq_append_iff] at h
      rcases h with ⟨a'', rfl, -⟩ | ⟨d, rfl, h⟩
      · exact .inl ⟨s, a'', by simp⟩
      · cases d with
        | nil => exact .inl ⟨s, [], by simp⟩
        | cons x d =>
          obtain rfl : c = x := (List.cons.inj h).1
          simp at hc
    · cases d with
      | nil =>
        cases phrase with
        | nil => exact .inl (List.nil_infix)
        | cons x phrase =>
          obtain rfl : c = x := (List.cons.inj h).1
          simp at hc
      | cons x d =>
        obtain rfl : b = d ++ (phrase ++ t) := (List.cons.inj h).2
        exact .inr ⟨d, t, by simp⟩
  · rintro (h | h)
    · exact h.trans (List.prefix_append a _).isInfix
    · exact h.trans ((List.suffix_cons c b).trans (List.suffix_append a _)).isInfix

theorem after?_append_cons {phrase : List Char} {c : Char} (hc : c ∉ phrase) (a b : List Char) :
    after? phrase (a ++ c :: b) = (after? phrase a).map (· ++ c :: b) := by
  induction phrase generalizing a with
  | nil => rfl
  | cons p ps ih =>
    rw [List.mem_cons, not_or] at hc
    cases a with
    | nil => simp [after?, Ne.symm hc.1]
    | cons x a =>
      rw [List.cons_append, after?, after?]
      split
      · exact ih hc.2 a
      · rfl

theorem prefix_append_cons_iff {phrase : List Char} {c : Char} (hc : c ∉ phrase) {a b : List Char} :
    phrase <+: a ++ c :: b ↔ phrase <+: a := by
  rw [← startsWith_iff, ← startsWith_iff, startsWith, startsWith, after?_append_cons hc, Option.isSome_map]

/-- Behind a character that is not in the phrase the search starts anew. -/
theorem cut_append_cons {phrase : List Char} {c : Char} (hc : c ∉ phrase) {a : List Char} (ha : ¬ phrase <:+: a)
    (b : List Char) : cut phrase (a ++ c :: b) = (cut phrase b).map fun parts => (a ++ c :: parts.1, parts.2) := by
  induction a with
  | nil =>
    have hafter : after? phrase (c :: b) = none :=
      after?_eq_none_iff.2 fun h => ha ((prefix_append_cons_iff hc (a := [])).1 h).isInfix
    rw [List.nil_append, cut, hafter]
    rfl
  | cons x a ih =>
    rw [List.infix_cons_iff, not_or] at ha
    have hafter : after? phrase (x :: (a ++ c :: b)) = none :=
      after?_eq_none_iff.2 fun h => ha.1 ((prefix_append_cons_iff hc (a := x :: a)).1 h)
    rw [List.cons_append, cut, hafter, ih ha.2]
    cases cut phrase b <;> rfl

theorem cut_append_self {phrase : List Char} (hne : phrase ≠ []) (rest : List Char) :
    cut phrase (phrase ++ rest) = some ([], rest) := by
  have hafter : after? phrase (phrase ++ rest) = some rest := after?_eq_some_iff.2 rfl
  cases htext : phrase ++ rest with
  | nil => exact absurd (List.append_eq_nil_iff.1 htext).1 hne
  | cons c cs =>
    rw [htext] at hafter
    rw [cut, hafter]

/-- The leftmost occurrence of a phrase whose first character does not come again in it. -/
theorem cut_append_append {p : Char} {ps : List Char} (hp : p ∉ ps) {a : List Char} (ha : ¬ p :: ps <:+: a)
    (b : List Char) : cut (p :: ps) (a ++ p :: ps ++ b) = some (a, b) := by
  refine cut_eq_some_iff.2 ⟨rfl, fun before rest h => ?_⟩
  rw [List.append_assoc, List.append_assoc, List.append_eq_append_iff] at h
  rcases h with ⟨d, rfl, -⟩ | ⟨d, rfl, h⟩
  · rw [List.length_append]
    omega
  · -- `d` is what an earlier occurrence would have of the text before the first one
    cases d with
    | nil => simp
    | cons x d =>
      rw [List.cons_append, List.cons_append, List.cons.injEq] at h
      obtain ⟨rfl, h⟩ := h
      rw [List.append_eq_append_iff] at h
      rcases h with ⟨e, rfl, -⟩ | ⟨e, rfl, h⟩
      · exact absurd ⟨before, e, by simp⟩ ha
      · cases e with
        | nil => exact absurd ⟨before, [], by simp⟩ ha
        | cons y e =>
          obtain rfl := (List.cons.inj h).1
          simp at hp

section

/-! A phrase is found at the same places if the characters that are changed are none of its own. -/

variable {f : Char → Char} {phrase : List Char} (hf : ∀ p ∈ phrase, ∀ c, p = f c ↔ p = c)

include hf

private theorem after?_map (cs : List Char) : after? phrase (cs.map f) = (after? phrase cs).map (List.map f) := by
  induction phrase generalizing cs with
  | nil => simp [after?]
  | cons p ps ih =>
    cases cs with
    | nil => rfl
    | cons c cs =>
      simp only [List.map_cons, after?, hf p (by simp) c]
      split
      · exact ih (fun q hq => hf q (by simp [hq])) cs
      · rfl

theorem cut_map (cs : List Char) :
    cut phrase (cs.map f) = (cut phrase cs).map fun parts => (parts.1.map f, parts.2.map f) := by
  induction cs with
  | nil => cases hempty : phrase.isEmpty <;> simp [cut, hempty]
  | cons c cs ih =>
    have hafter := after?_map hf (c :: cs)
    rw [List.map_cons] at hafter ⊢
    rw [cut, cut, hafter, ih]
    cases after? phrase (c :: cs) with
    | some rest => rfl
    | none => cases cut phrase cs <;> rfl

theorem infix_map_iff {cs : List Char} : phrase <:+: cs.map f ↔ phrase <:+: cs := by
  rw [← occurs_iff, ← occurs_iff, occurs, occurs, cut_map hf, Option.isSome_map]

theorem map_eq_phrase_iff {cs : List Char} : cs.map f = phrase ↔ cs = phrase := by
  have hwhole {text : List Char} : text = phrase ↔ after? phrase text = some [] := by
    rw [after?_eq_some_iff, List.append_nil]
  rw [hwhole, hwhole, after?_map hf, Option.map_eq_some_iff]
  simp

theorem map_isPrefix_iff {cs : List Char} : cs.map f <+: phrase ↔ cs <+: phrase := by
  rw [List.prefix_iff_eq_take, List.prefix_iff_eq_take, List.length_map]
  exact map_eq_phrase_iff fun p hp => hf p (List.mem_of_mem_take hp)

end

/-! ### Pieces and words -/

/-- A text is one piece, or it is a piece, a separator and another text. -/
theorem pieces_induction {p : Char → Bool} {motive : List Char → Prop}
    (piece : ∀ w, (∀ c ∈ w, p c = false) → motive w)
    (separator : ∀ w c cs, (∀ d ∈ w, p d = false) → p c = true → motive cs → motive (w ++ c :: cs))
    (cs : List Char) : motive cs := by
  suffices ∀ w, (∀ c ∈ w, p c = false) → motive (w ++ cs) from this [] (by simp)
  -- `w` is the part of the first piece that has been passed
  induction cs with
  | nil =>
    intro w hw
    rw [List.append_nil]
    exact piece w hw
  | cons c cs ih =>
    intro w hw
    by_cases hc : p c = true
    · exact separator w c cs hw hc (ih [] (by simp))
    · have hw' : ∀ d ∈ w ++ [c], p d = false := by
        intro d hd
        rcases List.mem_append.1 hd with hd | hd
        · exact hw d hd
        · obtain rfl : d = c := by simpa using hd
          simpa using hc
      simpa using ih (w ++ [c]) hw'

/-- A piece stands in the text. -/
theorem infix_of_mem_pieces {p : Char → Bool} {w cs : List Char} (h : w ∈ pieces p cs) : w <:+: cs := by
  induction cs using pieces_induction (p := p) with
  | piece v hv =>
    rw [pieces_eq_singleton hv, List.mem_singleton] at h
    subst h
    exact List.infix_rfl
  | separator v c cs hv hc ih =>
    rw [pieces_append hc, pieces_eq_singleton hv, List.mem_append, List.mem_singleton] at h
    rcases h with rfl | h
    · exact (List.prefix_append w _).isInfix
    · exact (ih h).trans ((List.suffix_cons c cs).trans (List.suffix_append v _)).isInfix

theorem not_of_mem_pieces {p : Char → Bool} {w cs : List Char} (h : w ∈ pieces p cs) : ∀ c ∈ w, p c = false := by
  induction cs using pieces_induction (p := p) with
  | piece v hv =>
    rw [pieces_eq_singleton hv, List.mem_singleton] at h
    subst h
    exact hv
  | separator v c cs hv hc ih =>
    rw [pieces_append hc, pieces_eq_singleton hv, List.mem_append, List.mem_singleton] at h
    rcases h with rfl | h
    · exact hv
    · exact ih h

/-- A phrase without a separator stands within one piece. -/
theorem exists_mem_pieces_of_infix {p : Char → Bool} {phrase cs : List Char} (hp : ∀ c ∈ phrase, p c = false)
    (h : phrase <:+: cs) : ∃ w ∈ pieces p cs, phrase <:+: w := by
  induction cs using pieces_induction (p := p) with
  | piece w hw => exact ⟨w, by simp [pieces_eq_singleton hw], h⟩
  | separator v c cs hv hc ih =>
    have hphrase : c ∉ phrase := fun hmem => by simp [hp c hmem] at hc
    rw [pieces_append hc, pieces_eq_singleton hv]
    rcases (infix_append_cons_iff hphrase).1 h with h | h
    · exact ⟨v, by simp, h⟩
    · obtain ⟨w, hw, hfound⟩ := ih h
      exact ⟨w, by simp [hw], hfound⟩

/-- A phrase without blanks stands within one word. -/
theorem exists_mem_words_of_infix {phrase cs : List Char} (hne : phrase ≠ []) (hp : ∀ c ∈ phrase, isBlank c = false)
    (h : phrase <:+: cs) : ∃ w ∈ words cs, phrase <:+: w := by
  obtain ⟨w, hw, hfound⟩ := exists_mem_pieces_of_infix hp h
  have hw' : w ≠ [] := by
    rintro rfl
    exact hne (List.infix_nil.1 hfound)
  exact ⟨w, List.mem_filter.2 ⟨hw, by simpa using hw'⟩, hfound⟩

theorem exists_mem_words_of_mem {c : Char} {cs : List Char} (hc : c ∈ cs) (hblank : isBlank c = false) :
    ∃ w ∈ words cs, c ∈ w := by
  obtain ⟨before, after, rfl⟩ := List.append_of_mem hc
  have hfound : [c] <:+: before ++ c :: after := ⟨before, after, by simp⟩
  obtain ⟨w, hw, hcw⟩ := exists_mem_words_of_infix (by simp) (by simpa using hblank) hfound
  exact ⟨w, hw, hcw.subset (by simp)⟩

/-- A word between two blanks is a word of the text. -/
theorem mem_words_of_spaced {w cs : List Char} (hne : w ≠ []) (hw : ∀ c ∈ w, isBlank c = false)
    (h : ' ' :: (w ++ [' ']) <:+: cs) : w ∈ words cs := by
  obtain ⟨before, after, rfl⟩ := h
  have hcut : before ++ ' ' :: (w ++ [' ']) ++ after = before ++ ' ' :: (w ++ ' ' :: after) := by simp
  rw [hcut, words_append_blank, words_append_blank, words_eq_singleton hne hw]
  simp

/-! ### Lines -/

/-- The lines are the pieces between line feeds, perhaps without a carriage return. -/
theorem mem_endLines {line : List Char} {ws : List (List Char)} (h : line ∈ endLines ws) :
    ∃ w ∈ ws, line = w ∨ line = dropReturn w := by
  fun_induction endLines ws with
  | case1 => simp at h
  | case2 => simp at h
  | case3 w hw =>
    obtain rfl : line = w := by simpa using h
    exact ⟨line, by simp, .inl rfl⟩
  | case4 w ws hws ih =>
    rcases List.mem_cons.1 h with rfl | h
    · exact ⟨w, by simp, .inr rfl⟩
    · obtain ⟨v, hv, heq⟩ := ih h
      exact ⟨v, by simp [hv], heq⟩

private theorem isPrefix_dropReturn (w : List Char) : dropReturn w <+: w := by
  unfold dropReturn
  split
  · exact List.dropLast_prefix w
  · exact List.prefix_rfl

theorem infix_of_mem_lines {line cs : List Char} (h : line ∈ lines cs) : line <:+: cs := by
  obtain ⟨w, hw, rfl | rfl⟩ := mem_endLines h
  · exact infix_of_mem_pieces hw
  · exact (isPrefix_dropReturn w).isInfix.trans (infix_of_mem_pieces hw)

/-- A phrase without a line feed stands within one of the texts that are written one under another. -/
theorem infix_joinLines_iff {phrase : List Char} (hne : phrase ≠ []) (hfeed : '\n' ∉ phrase) {ls : List String} :
    phrase <:+: (joinLines ls).toList ↔ ∃ l ∈ ls, phrase <:+: l.toList := by
  induction ls with
  | nil => simp [joinLines, hne]
  | cons a ls ih =>
    cases ls with
    | nil => simp [joinLines]
    | cons b ls =>
      rw [toList_joinLines_cons_cons, infix_append_cons_iff hfeed, ih]
      simp

/-! ### Sections made of lines -/

/-- A text that is one line. -/
def IsLine (l : String) : Prop := '\n' ∉ l.toList ∧ EndsPlainly l.toList

instance (l : String) : Decidable (IsLine l) := inferInstanceAs (Decidable (_ ∧ _))

theorem IsLine.append {a b : String} (ha : '\n' ∉ a.toList) (hb : IsLine b) : IsLine (a ++ b) := by
  unfold IsLine
  rw [String.toList_append]
  exact ⟨by simp [ha, hb.1], hb.2.append_left _⟩

theorem isLine_intercalate {separator : String} (hseparator : '\n' ∉ separator.toList) {ls : List String}
    (hne : ls ≠ []) (h : ∀ l ∈ ls, IsLine l) : IsLine (separator.intercalate ls) := by
  induction ls with
  | nil => exact absurd rfl hne
  | cons a ls ih =>
    cases ls with
    | nil => simpa using h a (by simp)
    | cons b ls =>
      have hrest := ih (by simp) fun l hl => h l (by simp [hl])
      have ha : '\n' ∉ (a ++ separator).toList := by
        simp [hseparator, (h a (by simp)).1]
      rw [String.intercalate_cons_cons]
      exact hrest.append ha

private theorem linesOf_eq_singleton {l : String} (h : IsLine l) : linesOf l = [l] := by
  have hpieces : pieces (· == '\n') l.toList = [l.toList] := by
    apply pieces_eq_singleton
    intro c hc
    have hfeed : c ≠ '\n' := by
      rintro rfl
      exact h.1 hc
    simpa using hfeed
  have hne : l.toList.isEmpty ≠ true := fun he => h.2.ne_nil (List.isEmpty_iff.1 he)
  unfold linesOf lines
  rw [hpieces, endLines, if_neg hne, List.map_singleton, String.ofList_toList]

theorem linesOf_joinLines_eq_self {ls : List String} (h : ∀ l ∈ ls, IsLine l) : linesOf (joinLines ls) = ls := by
  rw [linesOf_joinLines fun l hl => (h l hl).2]
  induction ls with
  | nil => rfl
  | cons l ls ih =>
    rw [List.flatMap_cons, linesOf_eq_singleton (h l (by simp)), ih fun m hm => h m (by simp [hm])]
    rfl

/-- Trimmed, the pieces that are not blank are the lines that are not blank. -/
theorem exists_endLines_iff {q : List Char → Prop} (hq : ¬ q []) (ws : List (List Char)) :
    (∃ line ∈ endLines ws, q (trim line)) ↔ ∃ w ∈ ws, q (trim w) := by
  fun_induction endLines ws with
  | case1 => simp
  | case2 w hw =>
    obtain rfl := List.isEmpty_iff.1 hw
    simpa using hq
  | case3 w hw => simp
  | case4 w ws hws ih => simp [trim_dropReturn, ih]

/-- A line of texts written one under another is, up to the blanks around it, a line of one of them. -/
theorem exists_line_joinLines_iff {q : List Char → Prop} (hq : ¬ q []) (ls : List String) :
    (∃ line ∈ lines (joinLines ls).toList, q (trim line)) ↔ ∃ l ∈ ls, ∃ line ∈ lines l.toList, q (trim line) := by
  unfold lines
  simp only [exists_endLines_iff hq]
  induction ls with
  | nil => simpa [joinLines, pieces] using hq
  | cons a ls ih =>
    cases ls with
    | nil => simp [joinLines]
    | cons b ls =>
      rw [toList_joinLines_cons_cons, pieces_append (by decide)]
      simp only [List.mem_append, or_and_right, exists_or, ih]
      simp

end RobotPhrase.Text
