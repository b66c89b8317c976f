import Mathlib
import GridServe.Metadata.Basic

namespace GridServe

namespace AttrValue

theorem boundaryAtOrBelow_le (s : String) (i : Nat) :
    (boundaryAtOrBelow s i).offset.byteIdx ≤ i := by
  fun_induction boundaryAtOrBelow s i with
  | case1 => exact le_refl _
  | case2 i invalid ih => omega

theorem le_boundaryAtOrBelow {s : String} {i k : Nat} (valid : (String.Pos.Raw.mk k).IsValid s)
    (below : k ≤ i) : k ≤ (boundaryAtOrBelow s i).offset.byteIdx := by
  fun_induction boundaryAtOrBelow s i with
  | case1 => exact below
  | case2 i invalid ih =>
    -- `k` is a boundary and `i` is not, so the walk passes `i` before it can pass `k`.
    have differ : k ≠ i := by
      rintro rfl
      exact invalid valid
    exact ih (by omega)

theorem boundaryAtOrBelow_isGreatest (s : String) (i : Nat) :
    IsGreatest {k | k ≤ i ∧ (String.Pos.Raw.mk k).IsValid s}
      (boundaryAtOrBelow s i).offset.byteIdx :=
  ⟨⟨boundaryAtOrBelow_le s i, (boundaryAtOrBelow s i).isValid⟩,
    fun _ ⟨below, valid⟩ => le_boundaryAtOrBelow valid below⟩

/-- Every byte offset of a text lies at most three bytes past a character boundary, since a
character takes at most four bytes. -/
theorem exists_split_near (cs : List Char) {i : Nat}
    (within : i ≤ (String.ofList cs).utf8ByteSize) :
    ∃ front back, String.ofList cs = front ++ back ∧ front.utf8ByteSize ≤ i ∧
      i ≤ front.utf8ByteSize + 3 := by
  induction cs generalizing i with
  | nil =>
    refine ⟨"", "", by simp, by simp, ?_⟩
    simp at within
    omega
  | cons c cs ih =>
    have wide := c.utf8Size_le_four
    simp only [String.ofList_cons, String.utf8ByteSize_append,
      String.utf8ByteSize_singleton] at within ⊢
    by_cases inside : i < c.utf8Size
    · exact ⟨"", String.singleton c ++ String.ofList cs, by simp, by simp, by simp; omega⟩
    · obtain ⟨front, back, split, fits, near⟩ := ih (i := i - c.utf8Size) (by omega)
      refine ⟨String.singleton c ++ front, back, ?_, ?_, ?_⟩
      · rw [split, String.append_assoc]
      · simp only [String.utf8ByteSize_append, String.utf8ByteSize_singleton]
        omega
      · simp only [String.utf8ByteSize_append, String.utf8ByteSize_singleton]
        omega

theorem exists_boundary_near (s : String) {i : Nat} (within : i ≤ s.utf8ByteSize) :
    ∃ k, (String.Pos.Raw.mk k).IsValid s ∧ k ≤ i ∧ i ≤ k + 3 := by
  rw [← String.ofList_toList (s := s)] at within ⊢
  obtain ⟨front, back, split, fits, near⟩ := exists_split_near s.toList within
  refine ⟨front.utf8ByteSize, ?_, fits, near⟩
  exact String.Pos.Raw.isValid_iff_exists_append.mpr ⟨front, back, split, rfl⟩

theorem beforeNul_prefix (s : String) : ∃ rest, s = beforeNul s ++ rest := by
  refine ⟨String.ofList (s.toList.dropWhile (· ≠ '\x00')), ?_⟩
  rw [beforeNul, ← String.ofList_append, List.takeWhile_append_dropWhile, String.ofList_toList]

theorem nul_not_mem_beforeNul (s : String) : '\x00' ∉ (beforeNul s).toList := by
  intro member
  rw [beforeNul, String.toList_ofList] at member
  simpa using List.mem_takeWhile_imp member

theorem truncateText_splits (s : String) :
    (boundaryAtOrBelow (beforeNul s) (min (beforeNul s).utf8ByteSize textBudget)).Splits
      (truncateText s)
      ((beforeNul s).sliceFrom
        (boundaryAtOrBelow (beforeNul s) (min (beforeNul s).utf8ByteSize textBudget))).copy :=
  String.Pos.splits _

theorem truncateText_prefix (s : String) : ∃ rest, beforeNul s = truncateText s ++ rest :=
  ⟨_, (truncateText_splits s).eq_append⟩

theorem utf8ByteSize_truncateText (s : String) :
    (truncateText s).utf8ByteSize =
      (boundaryAtOrBelow (beforeNul s) (min (beforeNul s).utf8ByteSize textBudget)).offset.byteIdx := by
  rw [(truncateText_splits s).offset_eq_rawEndPos, String.byteIdx_rawEndPos]

theorem truncateText_isGreatest (s : String) :
    IsGreatest {k | k ≤ textBudget ∧ (String.Pos.Raw.mk k).IsValid (beforeNul s)}
      (truncateText s).utf8ByteSize := by
  obtain ⟨⟨below, valid⟩, greatest⟩ :=
    boundaryAtOrBelow_isGreatest (beforeNul s) (min (beforeNul s).utf8ByteSize textBudget)
  rw [utf8ByteSize_truncateText]
  refine ⟨⟨by omega, valid⟩, fun k ⟨fits, boundary⟩ => greatest ⟨?_, boundary⟩⟩
  -- A boundary never lies past the end of the text.
  have inText : k ≤ (beforeNul s).utf8ByteSize := boundary.le_utf8ByteSize
  omega

theorem truncateText_of_fits {s : String} (fits : (beforeNul s).utf8ByteSize ≤ textBudget) :
    truncateText s = beforeNul s := by
  obtain ⟨rest, split⟩ := truncateText_prefix s
  have whole : (beforeNul s).utf8ByteSize ≤ (truncateText s).utf8ByteSize := by
    rw [utf8ByteSize_truncateText]
    exact le_boundaryAtOrBelow String.Pos.Raw.isValid_rawEndPos (by omega)
  have sizes := congrArg String.utf8ByteSize split
  rw [String.utf8ByteSize_append] at sizes
  have empty : rest = "" := String.utf8ByteSize_eq_zero_iff.mp (by omega)
  rw [split, empty, String.append_empty]

theorem truncateText_near_budget (s : String) :
    min (beforeNul s).utf8ByteSize textBudget ≤ (truncateText s).utf8ByteSize + 3 := by
  obtain ⟨k, valid, below, near⟩ :=
    exists_boundary_near (beforeNul s) (i := min (beforeNul s).utf8ByteSize textBudget)
      (by omega)
  rw [utf8ByteSize_truncateText]
  have reached := le_boundaryAtOrBelow valid below
  omega

/-- The metadata text of a text value is the longest prefix of its part before the first NUL that
fits the byte budget and ends on a character boundary. It is valid UTF-8 without a NUL, a prefix
of the whole text, all of the part before the NUL when that fits, and at most three bytes short of
the budget or of that part. The walk that finds the cut stops, from every start, at the greatest
boundary at or below it. -/
theorem text_metadata_longest_prefix (s : String) :
    (AttrValue.text s).stringify = truncateText s ∧
      (∃ rest, beforeNul s = truncateText s ++ rest) ∧
      IsGreatest {k | k ≤ textBudget ∧ (String.Pos.Raw.mk k).IsValid (beforeNul s)}
        (truncateText s).utf8ByteSize ∧
      (truncateText s).toByteArray.IsValidUTF8 ∧
      '\x00' ∉ (truncateText s).toList ∧
      (∃ rest, s = truncateText s ++ rest) ∧
      ((beforeNul s).utf8ByteSize ≤ textBudget → truncateText s = beforeNul s) ∧
      min (beforeNul s).utf8ByteSize textBudget ≤ (truncateText s).utf8ByteSize + 3 ∧
      ∀ i, IsGreatest {k | k ≤ i ∧ (String.Pos.Raw.mk k).IsValid (beforeNul s)}
        (boundaryAtOrBelow (beforeNul s) i).offset.byteIdx := by
  obtain ⟨tail, inText⟩ := truncateText_prefix s
  obtain ⟨after, inWhole⟩ := beforeNul_prefix s
  have noNul : '\x00' ∉ (truncateText s).toList := by
    intro member
    apply nul_not_mem_beforeNul s
    rw [inText, String.toList_append]
    exact List.mem_append_left _ member
  refine ⟨rfl, ⟨tail, inText⟩, truncateText_isGreatest s, (truncateText s).isValidUTF8, noNul,
    ⟨tail ++ after, ?_⟩, truncateText_of_fits, truncateText_near_budget s,
    boundaryAtOrBelow_isGreatest (beforeNul s)⟩
  rw [← String.append_assoc, ← inText]
  exact inWhole

end AttrValue

end GridServe
