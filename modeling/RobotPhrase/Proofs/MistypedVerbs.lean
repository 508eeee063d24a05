import RobotPhrase.Proofs.Lexicon
import RobotPhrase.Proofs.Tokenize

/-!
# Mistyped verbs

A word that is no verb but within one edit of one is compared with the first such verb of the list only, and it is a
mistyped verb if it begins like that one (`mistypedVerb?_eq`).  So a verb is overlooked in a word that an earlier verb
is near to with another letter at its front.  Such a word differs from the earlier verb in its first letter alone
(`Edit.mem_frontTypos`), which leaves few spellings for each pair of verbs; going through them shows that six words are
overlooked and no others.
-/

namespace RobotPhrase

open Vocabulary Text

/-- A verb within one edit of a word and with the same first letter. -/
def IsVerbFor (word v : String) : Prop :=
  v ∈ allVerbs ∧ distance word v ≤ 1 ∧ v.toList.head? = word.toList.head?

instance (word v : String) : Decidable (IsVerbFor word v) := inferInstanceAs (Decidable (_ ∧ _ ∧ _))

/-! ### The first verb within one edit -/

private theorem lower_verb {v : String} (h : v ∈ allVerbs) : lower v.toList = v.toList := by
  have hletters : (allVerbs.all fun v => v.toList.all isSmallLetter) = true := by decide +kernel
  exact lower_eq_self fun c hc => (isKept_of_letters (List.all_eq_true.1 hletters v h) c hc).1

section

variable {word : String} (hlower : lowercase word = word) (hunlisted : Unlisted word)

include hlower

private theorem lower_word : lower word.toList = word.toList := by
  rw [← String.toList_ofList (l := lower word.toList)]
  exact congrArg String.toList hlower

private theorem near_verb_iff {v : String} (hv : v ∈ allVerbs) :
    distance word v ≤ 1 ↔ alike word.toList v.toList = true := by
  rw [distance_le_one_iff, lower_word hlower, lower_verb hv]

include hunlisted

private theorem distance_verb_ne_zero {v : String} (hv : v ∈ allVerbs) : distance word v ≠ 0 := by
  intro h
  rw [distance_eq_zero_iff, lower_word hlower, lower_verb hv] at h
  obtain rfl := String.toList_injective h
  exact hunlisted.not_mem .verb (by decide) hv

/-- The nearest verb is the first within one edit. -/
theorem closest?_allVerbs :
    closest? word 1 allVerbs = (allVerbs.find? fun v => distance word v ≤ 1).map fun v => (v, 1) :=
  closest?_one fun _ hv => distance_verb_ne_zero hlower hunlisted hv

end

/-! ### Verbs that take a spelling from others -/

/-- What one edit at the front makes of `u`: the first letter is left out, `c` is put before it, or `c` stands for it. -/
def Text.frontTypos (c : Char) (u : List Char) : List (List Char) := [u.tail, c :: u, c :: u.tail]

/-- An edit that changes the first letter changes nothing else. -/
theorem Text.Edit.mem_frontTypos {w u : List Char} {c : Char} (h : Edit w u) (hw : w.head? = some c)
    (hu : u.head? ≠ some c) : w ∈ frontTypos c u := by
  cases h with
  | insertion a b d =>
    cases a with
    | nil => simp [frontTypos]
    | cons e a => exact absurd hw hu
  | deletion a b d =>
    cases a with
    | nil =>
      obtain rfl : d = c := by simpa using hw
      simp [frontTypos]
    | cons e a => exact absurd hw hu
  | substitution a b d e =>
    cases a with
    | nil =>
      obtain rfl : d = c := by simpa using hw
      simp [frontTypos]
    | cons e a => exact absurd hw hu

/-- The words of at least four letters that begin like the verb `v` and are near to it, and near to the verb `u`, which
begins otherwise. -/
def contested (u v : List Char) : List (List Char) :=
  match v with
  | [] => []
  | c :: _ =>
    if u.head? = some c then []
    else (frontTypos c u).filter fun w => w.head? = some c && alike w v && 4 ≤ w.length

theorem mem_contested {w u v : List Char} (hv : v ≠ []) (hhead : v.head? = w.head?) (hne : u.head? ≠ w.head?)
    (hu : alike w u = true) (hnear : alike w v = true) (hlength : 4 ≤ w.length) : w ∈ contested u v := by
  cases v with
  | nil => exact absurd rfl hv
  | cons c v =>
    have hc : w.head? = some c := hhead.symm
    have hnot : u.head? ≠ some c := hc ▸ hne
    have hedit : Edit w u := by
      rcases alike_iff.1 hu with rfl | hedit
      · exact absurd hc hnot
      · exact hedit
    rw [contested, if_neg hnot, List.mem_filter]
    exact ⟨hedit.mem_frontTypos hc hnot, by simp [hc, hnear, hlength]⟩

/-- The words in which a verb is overlooked: "run", "halt", "use", "make", "trace" and "call". -/
def overlooked : List String := ["rurn", "hait", "uset", "mrake", "trake", "calt"]

theorem contested_verbs :
    (allVerbs.map String.toList).Pairwise fun u v =>
      ((contested u v).all fun w => (overlooked.map String.toList).contains w) = true := by
  decide +kernel

/-- The first verb that is near to an overlooked word begins otherwise. -/
theorem find?_overlooked :
    (overlooked.all fun word => (allVerbs.find? fun v => alike word.toList v.toList).all fun u =>
      u.toList.head? != word.toList.head?) = true := by
  decide +kernel

/-! ### Which verbs are recognised -/

section

variable {word : String} (hlower : lowercase word = word) (hunlisted : Unlisted word) (hword : MayBeMistyped word)

include hlower hunlisted hword

/-- The first verb within one edit tells whether a word is a mistyped verb. -/
theorem classify_verb_iff {u : String} (hfind : allVerbs.find? (fun v => distance word v ≤ 1) = some u) :
    (∃ v, IsVerbFor word v ∧ classify word = .word .verb word (some v)) ↔ u.toList.head? = word.toList.head? := by
  have hclosest := closest?_allVerbs hlower hunlisted
  rw [hfind, Option.map_some] at hclosest
  constructor
  · rintro ⟨v, hv, hclass⟩
    have hclassified := classified_classify word
    rw [hclass] at hclassified
    cases hclassified with
    | listed _ hmem => exact absurd hmem (hunlisted.not_mem .verb (by decide))
    | mistyped _ h =>
      cases h with
      | verb _ hnear hfirst =>
        have hsame := closest?_eq_some_iff.2 ⟨hnear, rfl⟩
        rw [hclosest] at hsame
        obtain rfl := (Prod.mk.inj (Option.some.inj hsame)).1
        exact hfirst
  · intro hfirst
    have hverb : mistypedVerb? word = some (.word .verb word (some u)) := by
      rw [mistypedVerb?_eq, hclosest, Option.bind_some, if_pos hfirst]
    have hmistyped : mistyped? word = some (.word .verb word (some u)) := by
      rw [mistyped?_eq, if_pos hword, hverb, Option.some_or]
    refine ⟨u, ⟨List.mem_of_find?_eq_some hfind, by simpa using List.find?_some hfind, hfirst⟩, ?_⟩
    rw [classify_of_unlisted hunlisted, hmistyped, Option.getD_some]

end

/-- A word with a verb whose first near verb begins otherwise is an overlooked one. -/
private theorem mem_overlooked {word u v : String} (hlower : lowercase word = word) (hword : MayBeMistyped word)
    (hfind : allVerbs.find? (fun v => distance word v ≤ 1) = some u)
    (hfirst : u.toList.head? ≠ word.toList.head?) (hv : IsVerbFor word v) : word ∈ overlooked := by
  obtain ⟨hmem, hnear, hhead⟩ := hv
  obtain ⟨hu, before, after, hsplit, hbefore⟩ := List.find?_eq_some_iff_append.1 hfind
  have hverbs : ∀ x ∈ allVerbs, x ≠ "" := by decide
  have hin : word.toList ∈ contested u.toList v.toList := by
    apply mem_contested (by simpa using hverbs v hmem) hhead hfirst
    · exact (near_verb_iff hlower (List.mem_of_find?_eq_some hfind)).1 (by simpa using hu)
    · exact (near_verb_iff hlower hmem).1 hnear
    · exact hword.1
  -- the verb stands behind the one that was found
  have hafter : v ∈ after := by
    rw [hsplit] at hmem
    rcases List.mem_append.1 hmem with hmem | hmem
    · have hfar := hbefore v hmem
      simp [hnear] at hfar
    · rcases List.mem_cons.1 hmem with rfl | hmem
      · exact absurd hhead hfirst
      · exact hmem
  have hpairs := List.pairwise_map.1 contested_verbs
  rw [hsplit] at hpairs
  have hpair := List.rel_of_pairwise_cons (List.pairwise_append.1 hpairs).2.1 hafter
  have hlisted : word.toList ∈ overlooked.map String.toList := by
    simpa using List.all_eq_true.1 hpair word.toList hin
  obtain ⟨w, hw, heq⟩ := List.mem_map.1 hlisted
  exact String.toList_injective heq ▸ hw

/-- The first verb near to an overlooked word begins otherwise. -/
private theorem head?_ne_of_mem_overlooked {word u : String} (hlower : lowercase word = word)
    (hword : word ∈ overlooked)
    (hfind : allVerbs.find? (fun v => distance word v ≤ 1) = some u) : u.toList.head? ≠ word.toList.head? := by
  have hsame : allVerbs.find? (fun v => alike word.toList v.toList) = some u := by
    have hnear : ∀ v ∈ allVerbs, alike word.toList v.toList = decide (distance word v ≤ 1) := by
      intro v hv
      rw [Bool.eq_iff_iff, decide_eq_true_eq, near_verb_iff hlower hv]
    rw [← hfind, ← List.head?_filter, ← List.head?_filter, List.filter_congr hnear]
  have hall := List.all_eq_true.1 find?_overlooked word hword
  rw [hsame] at hall
  simpa using hall

/-- A word with a typing error is recognised as a verb that it begins like, unless it is one of six words. -/
theorem verb_recognised_iff {word : String} (hlower : lowercase word = word) (hunlisted : Unlisted word)
    (hword : MayBeMistyped word) (hverb : ∃ v, IsVerbFor word v) :
    (∃ v, IsVerbFor word v ∧ classify word = .word .verb word (some v)) ↔ word ∉ overlooked := by
  obtain ⟨v, hv⟩ := hverb
  cases hfind : allVerbs.find? fun v => distance word v ≤ 1 with
  | none =>
    have hfar := List.find?_eq_none.1 hfind v hv.1
    simp [hv.2.1] at hfar
  | some u =>
    rw [classify_verb_iff hlower hunlisted hword hfind]
    constructor
    · intro hfirst hmem
      exact head?_ne_of_mem_overlooked hlower hmem hfind hfirst
    · intro hmem
      apply Classical.byContradiction
      intro hfirst
      exact hmem (mem_overlooked hlower hword hfind hfirst hv)

theorem verb_recognised_moove :
    (lowercase "moove" = "moove" ∧ Unlisted "moove" ∧ MayBeMistyped "moove" ∧ IsVerbFor "moove" "move") ∧
      ∃ v, IsVerbFor "moove" v ∧ classify "moove" = .word .verb "moove" (some v) := by
  have hlower : lowercase "moove" = "moove" := by decide +kernel
  have hunlisted : Unlisted "moove" := by decide +kernel
  have hword : MayBeMistyped "moove" := by decide +kernel
  have hverb : IsVerbFor "moove" "move" := by decide +kernel
  exact ⟨⟨hlower, hunlisted, hword, hverb⟩, (verb_recognised_iff hlower hunlisted hword ⟨_, hverb⟩).2 (by decide)⟩

/-- In "hait" the verb "wait" is found first, and so "halt" is overlooked. -/
theorem not_verb_recognised_hait :
    (lowercase "hait" = "hait" ∧ Unlisted "hait" ∧ MayBeMistyped "hait" ∧ IsVerbFor "hait" "halt") ∧
      ¬ ∃ v, IsVerbFor "hait" v ∧ classify "hait" = .word .verb "hait" (some v) := by
  have hlower : lowercase "hait" = "hait" := by decide +kernel
  have hunlisted : Unlisted "hait" := by decide +kernel
  have hword : MayBeMistyped "hait" := by decide +kernel
  have hverb : IsVerbFor "hait" "halt" := by decide +kernel
  have hfind : allVerbs.find? (fun v => distance "hait" v ≤ 1) = some "wait" := by decide +kernel
  refine ⟨⟨hlower, hunlisted, hword, hverb⟩, ?_⟩
  rw [classify_verb_iff hlower hunlisted hword hfind]
  decide

end RobotPhrase
