import RobotPhrase.Proofs.Cursor
import RobotPhrase.Proofs.Suggestions

/-!
# Text behind the cursor

Suggestions are made for the text before the cursor.  But the cursor, an offset into the text as it was typed, is looked
up in the text in lowercase.  If the text before the cursor is not smaller there, nothing behind it is read
(`suggest_append_of_ge`).  If it is smaller, as many bytes of the text behind the cursor are read as it has lost
(`suggest_append_of_le`), and they have no influence only if nothing of their size would have any
(`suggest_ignores_rest_iff`).  The form of a sigma before the cursor depends on the text behind it too, but no suggestion
depends on the form of a sigma.
-/

namespace RobotPhrase

open Text Suggestion

namespace Text

theorem takeBytes_map_plainSigma (n : Nat) (cs : List Char) :
    takeBytes n (cs.map plainSigma) = (takeBytes n cs).map plainSigma := by
  induction cs generalizing n with
  | nil => rfl
  | cons c cs ih =>
    rw [List.map_cons, takeBytes, takeBytes, apply_plainSigma (q := Char.utf8Size) rfl]
    split
    · rw [ih, List.map_cons]
    · rfl

/-- A text that is smaller in lowercase has letters. -/
theorem not_allBlank_of_byteSize_lt {cs : List Char} (h : byteSize (lower cs) < byteSize cs) : ¬ AllBlank (lower cs) := by
  intro hblank
  have hcount : (cs.flatMap foldCase).countP isVisible = 0 := by
    rw [← map_plainSigma_lower, countP_map_plainSigma (by decide), countP_isVisible_eq_zero_iff]
    exact hblank
  have hcs : AllBlank cs := countP_isVisible_eq_zero_iff.1 (Nat.le_zero.1 (hcount ▸ countP_isVisible_le cs))
  rw [byteSize_lower, flatMap_foldCase_of_allBlank hcs] at h
  exact Nat.lt_irrefl _ h

end Text

theorem suggest_eq (text : String) (cursor : Nat) :
    suggest text cursor = offered (takeBytes cursor (text.toList.flatMap foldCase)) := by
  rw [← map_plainSigma_lower, takeBytes_map_plainSigma, offered_map_plainSigma, suggest, textBefore?_eq]
  rfl

section

variable {a : String}

theorem suggest_append_of_ge (h : byteSize a.toList ≤ byteSize (lower a.toList)) (b : String) :
    suggest (a ++ b) (byteSize a.toList) = suggest a (byteSize a.toList) := by
  rw [byteSize_lower] at h
  rw [suggest_eq, suggest_eq, String.toList_append, List.flatMap_append, takeBytes_append_of_ge h]

theorem suggest_append_of_le (h : byteSize (lower a.toList) ≤ byteSize a.toList) (b : String) :
    suggest (a ++ b) (byteSize a.toList) =
      offered (lower a.toList ++ takeBytes (byteSize a.toList - byteSize (lower a.toList)) (lower b.toList)) := by
  rw [byteSize_lower] at h ⊢
  rw [suggest_eq, String.toList_append, List.flatMap_append, takeBytes_append_of_le h,
    ← offered_map_plainSigma (lower _ ++ _), List.map_append, ← takeBytes_map_plainSigma, map_plainSigma_lower,
    map_plainSigma_lower]

end

/-- The text behind the cursor has no influence on the suggestions exactly if the text before it does not become smaller
in lowercase, or nothing of the size that it loses would change the suggestions behind it. -/
theorem suggest_ignores_rest_iff (a : String) :
    (∀ b c : String, suggest (a ++ b) a.utf8ByteSize = suggest (a ++ c) a.utf8ByteSize) ↔
      byteSize a.toList ≤ byteSize (lower a.toList) ∨
        isSettled (byteSize a.toList - byteSize (lower a.toList)) (lower a.toList) = true := by
  rw [utf8ByteSize_eq]
  by_cases hsize : byteSize a.toList ≤ byteSize (lower a.toList)
  · refine iff_of_true (fun b c => ?_) (.inl hsize)
    rw [suggest_append_of_ge hsize, suggest_append_of_ge hsize]
  · have hlt : byteSize (lower a.toList) < byteSize a.toList := Nat.lt_of_not_le hsize
    have hrest := suggest_append_of_le (Nat.le_of_lt hlt)
    rw [or_iff_right hsize, isSettled_iff (Nat.sub_pos_of_lt hlt) (not_allBlank_of_byteSize_lt hlt)]
    constructor
    · intro hsame d hd
      have hempty := hsame (String.ofList d) ""
      rw [hrest, hrest, String.toList_ofList, lower_of_isLowercase hd.isLowercase,
        takeBytes_eq_self hd.byteSize_le] at hempty
      rw [hempty]
      exact congrArg offered (List.append_nil _)
    · intro hsame b c
      have hfits (b : String) :
          Fits (byteSize a.toList - byteSize (lower a.toList))
            (takeBytes (byteSize a.toList - byteSize (lower a.toList)) (lower b.toList)) :=
        ⟨fun x hx => isLowercase_of_mem_lower ((takeBytes_isPrefix _ _).subset hx), byteSize_takeBytes_le _ _⟩
      rw [hrest, hrest, hsame _ (hfits b), hsame _ (hfits c)]

-- an Ångström sign loses one byte, too little to begin a word
example : isSettled 1 "5 å".toList = true := by decide +kernel

-- behind the Kelvin sign the two bytes that it loses may be a blank and the beginning of a command
example : isSettled 2 "5 k".toList = false := by decide +kernel

/-- Two Kelvin signs make room for a word about moving that stands behind the cursor. -/
theorem suggest_reads_on_wait_kelvin :
    suggest ("wait \u212A\u212A" ++ "move") "wait \u212A\u212A".utf8ByteSize = distances ∧
      suggest ("wait \u212A\u212A" ++ "") "wait \u212A\u212A".utf8ByteSize = durations ∧
      ¬ ∀ b c : String, suggest ("wait \u212A\u212A" ++ b) "wait \u212A\u212A".utf8ByteSize =
        suggest ("wait \u212A\u212A" ++ c) "wait \u212A\u212A".utf8ByteSize := by
  have hmove : suggest ("wait \u212A\u212A" ++ "move") "wait \u212A\u212A".utf8ByteSize = distances := by decide +kernel
  have hwait : suggest ("wait \u212A\u212A" ++ "") "wait \u212A\u212A".utf8ByteSize = durations := by decide +kernel
  refine ⟨hmove, hwait, fun h => ?_⟩
  have hsame := h "move" ""
  rw [hmove, hwait] at hsame
  exact absurd hsame (by decide)

end RobotPhrase
