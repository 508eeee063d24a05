import RobotPhrase.Proofs.CaseFolding
import RobotPhrase.Proofs.Loops

/-!
# Where the phrase of a loop begins

The phrase of a loop stands behind the first mark "times:" of the sentence.  The mark is looked for in the sentence in
lowercase; if this text has as many bytes as the sentence itself, the place behind the mark, counted in bytes, is taken
over to the sentence.  It is the same place there as long as the letters before the mark keep their size.  Letters that
grow before the mark and letters that shrink behind it hide each other from the comparison of the two sizes, and then
the phrase loses its beginning, or all of it if the place lies within a character.

`isCutAtMark_loopBody_iff` says for which sentences the phrase is what stands behind the mark: a place too far left
would leave the colon of the mark in the phrase, and a place too far right does no harm only if it passes blanks.
-/

namespace RobotPhrase

open Text Grammar

/-- The mark in front of the phrase of a loop. -/
def loopMark : List Char := "times:".toList

/-- A sentence split at its first mark, in whatever letters the mark is written. -/
structure IsMarkSplit (text before mark rest : List Char) : Prop where
  text_eq : text = before ++ mark ++ rest
  mark_eq : lower mark = loopMark
  leftmost : ¬ loopMark <:+: lower before

/-- What stands behind the first mark of a sentence, as it was typed or in lowercase, without the blanks around it. -/
def IsCutAtMark (text body : List Char) : Prop :=
  (∃ before mark rest, IsMarkSplit text before mark rest ∧ body = trim rest) ∨
    ∃ before rest, cut loopMark (lower text) = some (before, rest) ∧ body = trim rest

/-! ### Splits at the mark -/

private theorem eq_plainSigma_iff_loopMark : ∀ m ∈ loopMark, ∀ c, m = plainSigma c ↔ m = c :=
  eq_plainSigma_iff (by decide)

theorem exists_isMarkSplit {text : List Char} (h : loopMark <:+: lower text) :
    ∃ before mark rest, IsMarkSplit text before mark rest := by
  obtain ⟨⟨b, a⟩, hcut⟩ := Option.isSome_iff_exists.1 (occurs_iff.2 h)
  have hfold : text.flatMap foldCase = b.map plainSigma ++ (loopMark ++ a.map plainSigma) := by
    have hmark : loopMark.map plainSigma = loopMark := by decide
    rw [← map_plainSigma_lower, eq_of_cut hcut, List.map_append, List.map_append, hmark, List.append_assoc]
  have hhead : (loopMark ++ a.map plainSigma).head? = some 't' := rfl
  -- the two ends of the mark are places in the sentence, since no dotted capital I stands across them
  obtain ⟨before, behind, rfl, hbefore, hbehind⟩ :=
    exists_append_of_flatMap_foldCase hfold fun _ => by rw [hhead]; decide
  obtain ⟨mark, rest, rfl, hmark, -⟩ := exists_append_of_flatMap_foldCase hbehind fun hi => absurd hi (by decide)
  refine ⟨before, mark, rest, by simp, ?_, ?_⟩
  · rwa [← map_plainSigma_lower, map_eq_phrase_iff eq_plainSigma_iff_loopMark] at hmark
  · rw [← infix_map_iff eq_plainSigma_iff_loopMark, map_plainSigma_lower, hbefore,
      infix_map_iff eq_plainSigma_iff_loopMark]
    exact not_infix_of_cut (by decide) hcut

namespace IsMarkSplit

variable {text before mark rest : List Char} (h : IsMarkSplit text before mark rest)

include h

theorem flatMap_mark : mark.flatMap foldCase = loopMark := by
  rw [← map_plainSigma_lower, h.mark_eq]
  decide

theorem cut_flatMap : cut loopMark (text.flatMap foldCase) = some (before.flatMap foldCase, rest.flatMap foldCase) := by
  have hleft : ¬ loopMark <:+: before.flatMap foldCase := by
    rw [← map_plainSigma_lower, infix_map_iff eq_plainSigma_iff_loopMark]
    exact h.leftmost
  rw [h.text_eq, List.flatMap_append, List.flatMap_append, h.flatMap_mark]
  exact cut_append_append (by decide) hleft _

/-- The sentence in lowercase is cut at the same mark. -/
theorem cut_lower :
    ∃ b a, cut loopMark (lower text) = some (b, a) ∧
      b.map plainSigma = before.flatMap foldCase ∧ a.map plainSigma = rest.flatMap foldCase := by
  have hcut := h.cut_flatMap
  rw [← map_plainSigma_lower, cut_map eq_plainSigma_iff_loopMark, Option.map_eq_some_iff] at hcut
  obtain ⟨⟨b, a⟩, hcut, hparts⟩ := hcut
  exact ⟨b, a, hcut, congrArg Prod.fst hparts, congrArg Prod.snd hparts⟩

/-- A sentence has one text behind its first mark. -/
theorem rest_unique {before' mark' rest' : List Char} (h' : IsMarkSplit text before' mark' rest') : rest' = rest := by
  have hfold : rest'.flatMap foldCase = rest.flatMap foldCase :=
    congrArg Prod.snd (Option.some.inj (h'.cut_flatMap.symm.trans h.cut_flatMap))
  have hsuffix : rest <:+ text := ⟨before ++ mark, h.text_eq.symm⟩
  have hsuffix' : rest' <:+ text := ⟨before' ++ mark', h'.text_eq.symm⟩
  rcases List.suffix_or_suffix_of_suffix hsuffix hsuffix' with ⟨d, rfl⟩ | ⟨d, rfl⟩
  · rw [List.flatMap_append, List.append_left_eq_self] at hfold
    rw [eq_nil_of_flatMap_foldCase hfold, List.nil_append]
  · rw [List.flatMap_append, eq_comm, List.append_left_eq_self] at hfold
    rw [eq_nil_of_flatMap_foldCase hfold, List.nil_append]

theorem isAscii_mark : IsAscii mark := by
  intro c hc
  have hmem {x : Char} (hx : x ∈ foldCase c) : x ∈ loopMark := by
    rw [← h.flatMap_mark]
    exact List.mem_flatMap.2 ⟨c, hc, hx⟩
  have hplain : loopMark.all (fun x => x.toNat < 128 && x.toNat ≠ 0 && x ≠ 'k') = true := by decide
  obtain ⟨x, hx⟩ := List.exists_mem_of_ne_nil _ (foldCase_ne_nil c)
  have hascii := List.all_eq_true.1 hplain x (hmem hx)
  simp only [Bool.and_eq_true, decide_eq_true_eq] at hascii
  refine ascii_of_mem_foldCase hx hascii.1.1 hascii.1.2 hascii.2 ?_
  rintro rfl
  exact absurd (hmem (by decide : '\u0307' ∈ foldCase 'İ')) (by decide)

theorem byteSize_mark : byteSize mark = byteSize loopMark := by
  rw [← h.mark_eq, lower_eq_map h.isAscii_mark, byteSize_map_toLower]

/-- The mark ends in a colon as it was typed. -/
theorem exists_mark_eq : ∃ word, mark = word ++ [':'] := by
  have hfold : mark.flatMap foldCase = "times".toList ++ [':'] := h.flatMap_mark
  obtain ⟨word, colon, rfl, -, hcolon⟩ := exists_append_of_flatMap_foldCase hfold fun hi => absurd hi (by decide)
  refine ⟨word, congrArg (word ++ ·) ?_⟩
  cases colon with
  | nil => simp at hcolon
  | cons c cs =>
    rw [List.flatMap_cons, List.append_eq_singleton_iff] at hcolon
    rcases hcolon with ⟨hnil, -⟩ | ⟨hc, hcs⟩
    · exact absurd hnil (foldCase_ne_nil c)
    · rw [eq_nil_of_flatMap_foldCase hcs, colon_mem_foldCase_iff.1 (by simp [hc] : ':' ∈ foldCase c)]

/-! ### The phrase of a loop -/

theorem loopBody_eq (hsize : byteSize (lower text) = byteSize text) :
    loopBody text = trim ((dropBytes? (byteSize (lower before) + byteSize loopMark) text).getD []) := by
  obtain ⟨b, a, hcut, hb, -⟩ := h.cut_lower
  have hoffset : bodyOffset? (lower text) text = some (byteSize (lower before) + byteSize loopMark) := by
    rw [byteSize_lower, ← hb, byteSize_map_plainSigma]
    exact bodyOffset?_of_cut hcut
  unfold loopBody
  simp only [hsize, if_true, hoffset]

end IsMarkSplit

theorem loopBody_of_byteSize_ne {text b a : List Char} (hsize : byteSize (lower text) ≠ byteSize text)
    (hcut : cut loopMark (lower text) = some (b, a)) : loopBody text = trim a := by
  have hoffset : bodyOffset? (lower text) (lower text) = some (byteSize b + byteSize loopMark) :=
    bodyOffset?_of_cut hcut
  have hdrop : dropBytes? (byteSize b + byteSize loopMark) (lower text) = some a :=
    dropBytes?_eq_some_iff.2 ⟨b ++ loopMark, eq_of_cut hcut, byteSize_append b loopMark⟩
  unfold loopBody
  simp only [if_neg hsize, hoffset, hdrop, Option.getD_some]

/-! ### What a cut at the mark keeps -/

section

variable {text before mark rest body : List Char} (hsplit : IsMarkSplit text before mark rest)

include hsplit

private theorem IsCutAtMark.exists_source (h : IsCutAtMark text body) :
    ∃ source, body = trim source ∧ (source = rest ∨ source.map plainSigma = rest.flatMap foldCase) := by
  rcases h with ⟨before', mark', rest', h, rfl⟩ | ⟨b, a, hcut, rfl⟩
  · exact ⟨rest', rfl, .inl (hsplit.rest_unique h)⟩
  · obtain ⟨b', a', hcut', -, ha⟩ := hsplit.cut_lower
    obtain rfl : a = a' := congrArg Prod.snd (Option.some.inj (hcut.symm.trans hcut'))
    exact ⟨a, rfl, .inr ha⟩

/-- A cut at the mark keeps the colons behind it, and no fewer characters that are no blanks. -/
theorem IsCutAtMark.count (h : IsCutAtMark text body) :
    body.count ':' = rest.count ':' ∧ rest.countP isVisible ≤ body.countP isVisible := by
  obtain ⟨source, rfl, hsource⟩ := h.exists_source hsplit
  rw [count_colon_trim, countP_isVisible_trim]
  rcases hsource with rfl | hfold
  · exact ⟨rfl, Nat.le_refl _⟩
  · constructor
    · rw [← count_colon_flatMap_foldCase rest, ← hfold]
      exact (countP_map_plainSigma (by decide) source).symm
    · rw [← countP_map_plainSigma (by decide) source, hfold]
      exact countP_isVisible_le rest

theorem IsCutAtMark.eq_nil_iff (h : IsCutAtMark text body) : body = [] ↔ AllBlank rest := by
  constructor
  · rintro rfl
    have hvisible := (h.count hsplit).2
    exact countP_isVisible_eq_zero_iff.1 (Nat.le_zero.1 hvisible)
  · intro hrest
    obtain ⟨source, rfl, hsource⟩ := h.exists_source hsplit
    rw [trim_eq_nil_iff]
    rcases hsource with rfl | hfold
    · exact hrest
    · rw [flatMap_foldCase_of_allBlank hrest] at hfold
      rw [← countP_isVisible_eq_zero_iff, ← countP_map_plainSigma (by decide), hfold]
      exact countP_isVisible_eq_zero_iff.2 hrest

/-! ### Sentences of the same size in lowercase -/

variable (hsize : byteSize (lower text) = byteSize text)

include hsize

/-- In front of blanks the letters before the mark keep their size together. -/
private theorem byteSize_lower_before (hrest : AllBlank rest) : byteSize (lower before) = byteSize before := by
  rw [byteSize_lower, hsplit.text_eq] at hsize
  simp only [List.flatMap_append, byteSize_append, hsplit.flatMap_mark, hsplit.byteSize_mark,
    flatMap_foldCase_of_allBlank hrest] at hsize
  rw [byteSize_lower]
  omega

theorem isCutAtMark_of_blanks {blanks : List Char} (hblanks : AllBlank blanks) (hfront : blanks <+: rest)
    (hbefore : byteSize (lower before) = byteSize before + byteSize blanks) : IsCutAtMark text (loopBody text) := by
  obtain ⟨phrase, rfl⟩ := hfront
  have hdrop : dropBytes? (byteSize (lower before) + byteSize loopMark) text = some phrase := by
    refine dropBytes?_eq_some_iff.2 ⟨before ++ mark ++ blanks, by rw [hsplit.text_eq]; simp, ?_⟩
    rw [byteSize_append, byteSize_append, hsplit.byteSize_mark]
    omega
  have htrim : trim (blanks ++ phrase) = trim phrase := by
    simpa using trim_around hblanks (by simp [AllBlank] : AllBlank []) phrase
  refine .inl ⟨before, mark, blanks ++ phrase, hsplit, ?_⟩
  rw [hsplit.loopBody_eq hsize, hdrop, htrim]
  rfl

/-- If the phrase is cut at the mark, its place in lowercase passes blanks only. -/
theorem IsCutAtMark.exists_blanks (h : IsCutAtMark text (loopBody text)) :
    ∃ blanks, AllBlank blanks ∧ blanks <+: rest ∧
      byteSize (lower before) = byteSize before + byteSize blanks := by
  have hnone : AllBlank [] := by simp [AllBlank]
  obtain ⟨hcolon, hvisible⟩ := h.count hsplit
  have hempty := h.eq_nil_iff hsplit
  rw [hsplit.loopBody_eq hsize] at hcolon hvisible hempty
  cases hdrop : dropBytes? (byteSize (lower before) + byteSize loopMark) text with
  | none =>
    rw [hdrop] at hempty
    exact ⟨[], hnone, List.nil_prefix, byteSize_lower_before hsplit hsize (hempty.1 rfl)⟩
  | some phrase =>
    rw [hdrop, Option.getD_some, count_colon_trim] at hcolon
    rw [hdrop, Option.getD_some, countP_isVisible_trim] at hvisible
    obtain ⟨front, htext, hfront⟩ := dropBytes?_eq_some_iff.1 hdrop
    rw [hsplit.text_eq, List.append_eq_append_iff] at htext
    rcases htext with ⟨passed, rfl, rfl⟩ | ⟨kept, hkept, rfl⟩
    · -- the place lies behind the mark, and what it passes is not in the phrase
      rw [List.countP_append] at hvisible
      rw [byteSize_append, byteSize_append, hsplit.byteSize_mark] at hfront
      refine ⟨passed, countP_isVisible_eq_zero_iff.1 (by omega), List.prefix_append _ _, by omega⟩
    · rcases List.eq_nil_or_concat kept with rfl | ⟨kept, c, rfl⟩
      · rw [List.append_nil] at hkept
        rw [← hkept, byteSize_append, hsplit.byteSize_mark] at hfront
        exact ⟨[], hnone, List.nil_prefix, by rw [byteSize]; omega⟩
      · -- the place lies before the end of the mark, so the phrase has its colon
        obtain ⟨word, hword⟩ := hsplit.exists_mark_eq
        rw [hword, ← List.append_assoc, List.concat_eq_append, ← List.append_assoc] at hkept
        obtain rfl : ':' = c := by simpa using (List.append_inj' hkept rfl).2
        rw [List.concat_eq_append, List.count_append, List.count_append, List.count_singleton_self] at hcolon
        omega

end

/-- The phrase of a loop is what stands behind the first mark exactly if the sentence has another size in lowercase, or
what stands before the mark grows by the size of blanks that stand behind it, be it none.  Such a phrase is empty only
if nothing but blanks stands behind the mark. -/
theorem isCutAtMark_loopBody_iff (text : List Char) (hmark : loopMark <:+: lower text) :
    (∃ before mark rest, IsMarkSplit text before mark rest) ∧
      ∀ before mark rest, IsMarkSplit text before mark rest →
        (IsCutAtMark text (loopBody text) ↔
          byteSize (lower text) ≠ byteSize text ∨
            ∃ blanks, AllBlank blanks ∧ blanks <+: rest ∧
              byteSize (lower before) = byteSize before + byteSize blanks) ∧
        (IsCutAtMark text (loopBody text) → (loopBody text = [] ↔ AllBlank rest)) := by
  refine ⟨exists_isMarkSplit hmark, fun before mark rest hsplit => ⟨?_, fun h => h.eq_nil_iff hsplit⟩⟩
  by_cases hsize : byteSize (lower text) = byteSize text
  · constructor
    · intro h
      exact .inr (h.exists_blanks hsplit hsize)
    · rintro (hne | ⟨blanks, hblanks, hfront, hbefore⟩)
      · exact absurd hsize hne
      · exact isCutAtMark_of_blanks hsplit hsize hblanks hfront hbefore
  · obtain ⟨b, a, hcut, -⟩ := hsplit.cut_lower
    exact iff_of_true (.inr ⟨b, a, hcut, loopBody_of_byteSize_ne hsize hcut⟩) (.inl hsize)

/-- One letter grows before the mark, one shrinks behind it, and the blank behind the mark makes up for them. -/
theorem isCutAtMark_keep_straight :
    loopMark <:+: lower "İ repeat 2 times: keep ẞtraight".toList ∧
      byteSize (lower "İ repeat 2 times: keep ẞtraight".toList) = byteSize "İ repeat 2 times: keep ẞtraight".toList ∧
      IsCutAtMark "İ repeat 2 times: keep ẞtraight".toList (loopBody "İ repeat 2 times: keep ẞtraight".toList) ∧
      loopBody "İ repeat 2 times: keep ẞtraight".toList ≠ [] := by
  have hmark : loopMark <:+: lower "İ repeat 2 times: keep ẞtraight".toList := occurs_iff.1 (by decide +kernel)
  have hsplit : IsMarkSplit "İ repeat 2 times: keep ẞtraight".toList "İ repeat 2 ".toList loopMark
      " keep ẞtraight".toList :=
    ⟨by decide, by decide, fun h => absurd (occurs_iff.2 h) (by decide +kernel)⟩
  obtain ⟨hiff, hempty⟩ := (isCutAtMark_loopBody_iff "İ repeat 2 times: keep ẞtraight".toList hmark).2 _ _ _ hsplit
  have hcut := hiff.2 (.inr ⟨[' '], List.all_eq_true.1 (by decide), by decide, by decide +kernel⟩)
  refine ⟨hmark, by decide +kernel, hcut, fun h => ?_⟩
  exact absurd ((hempty hcut).1 h 'k' (by decide)) (by decide)

/-- Two letters grow before the mark and the first letter behind it shrinks by as much: the place behind the mark lies
within that letter, and the phrase is lost. -/
theorem not_isCutAtMark_keep_back :
    loopMark <:+: lower "İİ repeat 2 times:\u212Aeep back 5".toList ∧
      loopBody "İİ repeat 2 times:\u212Aeep back 5".toList = [] ∧
      ¬ IsCutAtMark "İİ repeat 2 times:\u212Aeep back 5".toList (loopBody "İİ repeat 2 times:\u212Aeep back 5".toList) ∧
      (interpret ⟨{}, [], []⟩ "İİ repeat 2 times:\u212Aeep back 5").code? =
        some "for i in range(2):\n    # Add commands here\n    pass" := by
  have hsplit : IsMarkSplit "İİ repeat 2 times:\u212Aeep back 5".toList "İİ repeat 2 ".toList loopMark
      "\u212Aeep back 5".toList :=
    ⟨by decide, by decide, fun h => absurd (occurs_iff.2 h) (by decide +kernel)⟩
  have hbody : loopBody "İİ repeat 2 times:\u212Aeep back 5".toList = [] := by decide +kernel
  have hanswer : interpret ⟨{}, [], []⟩ "İİ repeat 2 times:\u212Aeep back 5" = .understood (.loop 2 none) := by
    decide +kernel
  refine ⟨occurs_iff.1 (by decide +kernel), hbody, fun h => ?_, by rw [hanswer]; decide +kernel⟩
  exact absurd ((h.eq_nil_iff hsplit).1 hbody 'e' (by decide)) (by decide)

end RobotPhrase
