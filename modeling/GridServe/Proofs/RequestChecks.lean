import GridServe.Proofs.Agreement

namespace GridServe

def decimalValue (ds : List Char) : Nat :=
  Nat.ofDigits 10 (ds.reverse.map fun c => c.toNat - '0'.toNat)

@[simp] theorem decimalValue_nil : decimalValue [] = 0 := rfl

theorem decimalValue_append_single (ds : List Char) (c : Char) :
    decimalValue (ds ++ [c]) = decimalValue ds * 10 + (c.toNat - '0'.toNat) := by
  simp only [decimalValue, List.reverse_append, List.reverse_singleton, List.singleton_append,
    List.map_cons, Nat.ofDigits_cons]
  ring

theorem decimalValue_le_append (ds rest : List Char) :
    decimalValue ds ≤ decimalValue (ds ++ rest) := by
  induction rest using List.reverseRecOn with
  | nil => simp
  | append_singleton rest c ih =>
    rw [← List.append_assoc, decimalValue_append_single]
    omega

def PassesAt (limit : Nat) (read rest : List Char) : Prop :=
  ∃ q, q <+: rest ∧ (∀ c ∈ q, c.isDigit) ∧ limit < decimalValue (read ++ q)

theorem passesAt_nil {limit : Nat} {read : List Char} (bounded : decimalValue read ≤ limit) :
    ¬ PassesAt limit read [] := by
  rintro ⟨q, front, -, above⟩
  rw [List.prefix_nil.mp front, List.append_nil] at above
  omega

theorem passesAt_cons_iff {limit : Nat} {read rest : List Char} {c : Char}
    (bounded : decimalValue read ≤ limit) :
    PassesAt limit read (c :: rest) ↔ c.isDigit ∧ PassesAt limit (read ++ [c]) rest := by
  constructor
  · rintro ⟨q, front, digits, above⟩
    rcases List.prefix_cons_iff.mp front with rfl | ⟨t, rfl, tailFront⟩
    · simp at above
      omega
    · exact ⟨digits c (by simp), t, tailFront, fun x member => digits x (by simp [member]),
        by simpa using above⟩
  · rintro ⟨digit, q, front, digits, above⟩
    refine ⟨c :: q, List.cons_prefix_cons.mpr ⟨rfl, front⟩, ?_, by simpa using above⟩
    intro x member
    rcases List.mem_cons.mp member with rfl | member
    · exact digit
    · exact digits x member

namespace Index

open Classical in
/-- Digits read after `read` give the value of all of them, unless some leading ones already pass
the limit or a character that is not a digit comes first. -/
theorem digits_eq (limit : Nat) (overflow : IndexError) (read rest : List Char)
    (bounded : decimalValue read ≤ limit) :
    digits limit overflow (decimalValue read) rest =
      if PassesAt limit read rest then .error overflow
      else if ∀ c ∈ rest, c.isDigit then .ok (decimalValue (read ++ rest))
      else .error .invalidDigit := by
  induction rest generalizing read with
  | nil => simp [digits, passesAt_nil bounded]
  | cons c rest ih =>
    by_cases digit : c.isDigit
    · by_cases past : limit < decimalValue (read ++ [c])
      · have passes : PassesAt limit read (c :: rest) :=
          ⟨[c], by simp, by simp [digit], past⟩
        rw [digits, if_pos digit, ← decimalValue_append_single, if_pos past, if_pos passes]
      · rw [digits, if_pos digit, ← decimalValue_append_single, if_neg past,
          ih (read ++ [c]) (by omega), passesAt_cons_iff bounded]
        simp [digit]
    · have stopped : ¬ PassesAt limit read (c :: rest) := fun passes =>
        digit ((passesAt_cons_iff bounded).mp passes).1
      simp [digits, digit, stopped]

def body (text : String) : List Char :=
  match text.toList with
  | '+' :: c :: rest => c :: rest
  | cs => cs

theorem body_eq_nil_iff {text : String} : body text = [] ↔ text = "" := by
  rw [← String.toList_eq_nil_iff]
  unfold body
  split <;> simp_all

theorem parse_eq_digits {text : String} (nonempty : text ≠ "") :
    parse text = digits max .tooLarge 0 (body text) := by
  unfold parse body
  cases chars : text.toList with
  | nil => simp_all
  | cons c rest =>
    by_cases plus : c = '+'
    · subst plus
      cases rest <;> rfl
    · by_cases minus : c = '-'
      · subst minus
        cases rest <;> rfl
      · cases rest <;> simp [plus, minus]

def Denotes (text : String) (n : Nat) : Prop :=
  body text ≠ [] ∧ (∀ c ∈ body text, c.isDigit) ∧ decimalValue (body text) = n ∧ n ≤ max

def Overflows (text : String) : Prop := PassesAt max [] (body text)

inductive Reads (text : String) : Except IndexError Nat → Prop
  | value {n : Nat} (denotes : Denotes text n) : Reads text (.ok n)
  | empty (blank : text = "") : Reads text (.error .empty)
  | tooLarge (overflows : Overflows text) : Reads text (.error .tooLarge)
  | invalidDigit (fits : ¬ Overflows text) (stray : ∃ c ∈ body text, c.isDigit = false) :
      Reads text (.error .invalidDigit)

open Classical in
theorem parse_eq_of_nonempty {text : String} (nonempty : text ≠ "") :
    parse text =
      if Overflows text then .error .tooLarge
      else if ∀ c ∈ body text, c.isDigit then .ok (decimalValue (body text))
      else .error .invalidDigit := by
  rw [parse_eq_digits nonempty, ← decimalValue_nil, digits_eq max .tooLarge [] (body text)
    (Nat.zero_le _)]
  rfl

theorem Reads.parse_eq {text : String} {answer : Except IndexError Nat}
    (h : Reads text answer) : parse text = answer := by
  cases h with
  | @value n denotes =>
    obtain ⟨nonempty, digits, value, bounded⟩ := denotes
    have fits : ¬ Overflows text := by
      rintro ⟨q, ⟨rest, whole⟩, -, above⟩
      have := decimalValue_le_append q rest
      rw [whole] at this
      simp only [List.nil_append] at above
      omega
    rw [parse_eq_of_nonempty (mt body_eq_nil_iff.mpr nonempty), if_neg fits, if_pos digits, value]
  | empty blank => subst blank; rfl
  | tooLarge overflows =>
    have nonempty : text ≠ "" := by
      rintro rfl
      exact passesAt_nil (Nat.zero_le _) overflows
    rw [parse_eq_of_nonempty nonempty, if_pos overflows]
  | invalidDigit fits stray =>
    obtain ⟨c, member, notDigit⟩ := stray
    have nonempty : text ≠ "" := by
      rintro rfl
      simp [body] at member
    have notAll : ¬ ∀ c ∈ body text, c.isDigit := fun all => by simp_all
    rw [parse_eq_of_nonempty nonempty, if_neg fits, if_neg notAll]

theorem reads_parse (text : String) : Reads text (parse text) := by
  by_cases blank : text = ""
  · subst blank
    exact .empty rfl
  rw [parse_eq_of_nonempty blank]
  by_cases overflows : Overflows text
  · rw [if_pos overflows]
    exact .tooLarge overflows
  rw [if_neg overflows]
  by_cases digits : ∀ c ∈ body text, c.isDigit
  · rw [if_pos digits]
    -- the whole body is one of the runs that must stay within the bound
    have bounded : decimalValue (body text) ≤ max :=
      Nat.not_lt.mp fun above => overflows ⟨body text, List.prefix_refl _, digits, by simpa⟩
    exact .value ⟨mt body_eq_nil_iff.mp blank, digits, rfl, bounded⟩
  · rw [if_neg digits]
    push Not at digits
    obtain ⟨c, member, notDigit⟩ := digits
    exact .invalidDigit overflows ⟨c, member, by simpa using notDigit⟩

theorem parse_eq_iff_reads {text : String} {answer : Except IndexError Nat} :
    parse text = answer ↔ Reads text answer :=
  ⟨fun h => h ▸ reads_parse text, Reads.parse_eq⟩

end Index

namespace Utf8

theorem encode_eq_flatMap (s : String) : encode s = s.toList.flatMap String.utf8EncodeChar := by
  rw [encode, String.toUTF8_eq_toByteArray, ← String.utf8Encode_toList, List.utf8Encode,
    byteArray_toList]
  simp

/-- The UTF-8 form of a character orders as its code point, and no form is a prefix of another,
so whatever follows cannot change the order. -/
theorem encodeChar_append_lt {a b : Char} (lt : a < b) (x y : List UInt8) :
    String.utf8EncodeChar a ++ x < String.utf8EncodeChar b ++ y := by
  have order : a.val.toNat < b.val.toNat := lt
  have va := a.valid
  have vb := b.valid
  simp only [Nat.isValidChar, UInt32.isValidChar] at va vb
  unfold String.utf8EncodeChar
  dsimp only
  generalize a.val.toNat = n at *
  generalize b.val.toNat = m at *
  -- the fields of a code point are its base-64 digits; omega sees them as one chain of divisions
  have chain (k : Nat) : k / 4096 = k / 64 / 64 ∧ k / 262144 = k / 64 / 64 / 64 :=
    ⟨by rw [Nat.div_div_eq_div_mul], by rw [Nat.div_div_eq_div_mul, Nat.div_div_eq_div_mul]⟩
  split_ifs <;>
    simp only [List.cons_append, List.nil_append, List.cons_lt_cons_iff, UInt8.lt_iff_toNat_lt,
      UInt8.toNat_ofNat', ← UInt8.toNat_inj, (chain n).1, (chain n).2, (chain m).1, (chain m).2] <;>
    omega

theorem append_lt_append_iff {p x y : List UInt8} : p ++ x < p ++ y ↔ x < y := by
  induction p with
  | nil => rfl
  | cons b p ih => simp [ih]

theorem flatMap_encodeChar_lt_iff (l m : List Char) :
    l.flatMap String.utf8EncodeChar < m.flatMap String.utf8EncodeChar ↔ l < m := by
  induction l generalizing m with
  | nil =>
    cases m with
    | nil => simp
    | cons b m =>
      obtain ⟨first, rest, encoded⟩ := List.exists_cons_of_ne_nil (@String.utf8EncodeChar_ne_nil b)
      simp [encoded, List.nil_lt_cons]
  | cons a l ih =>
    cases m with
    | nil => simp [List.not_lt_nil]
    | cons b m =>
      simp only [List.flatMap_cons, List.cons_lt_cons_iff]
      rcases lt_trichotomy a b with lt | rfl | gt
      · simp [encodeChar_append_lt lt, lt]
      · simp [append_lt_append_iff, ih]
      · exact iff_of_false (List.lt_asymm (encodeChar_append_lt gt _ _))
          (by simp [not_lt_of_gt gt, gt.ne'])

theorem encode_lt_encode_iff {s t : String} : encode s < encode t ↔ s < t := by
  rw [encode_eq_flatMap, encode_eq_flatMap, flatMap_encodeChar_lt_iff, String.lt_iff_toList_lt]

theorem encode_le_encode_iff {s t : String} : encode s ≤ encode t ↔ s ≤ t :=
  not_congr encode_lt_encode_iff

end Utf8

namespace SliceRequest

theorem least_eq_none_iff {keys : List String} : least keys = none ↔ keys = [] := by
  cases keys with
  | nil => simp [least]
  | cons k rest => cases found : least rest <;> simp [least, found]

theorem least_mem_le {keys : List String} {key : String} (found : least keys = some key) :
    key ∈ keys ∧ ∀ k ∈ keys, key ≤ k := by
  induction keys generalizing key with
  | nil => simp [least] at found
  | cons k rest ih =>
    cases restLeast : least rest with
    | none =>
      simp only [least, restLeast, Option.some.injEq] at found
      subst found
      simp [least_eq_none_iff.mp restLeast]
    | some m =>
      simp only [least, restLeast, Option.some.injEq] at found
      obtain ⟨member, lower⟩ := ih restLeast
      -- the smaller of the head and the least of the rest is below both
      have head : key ≤ k := by split at found <;> simp_all [le_of_not_gt]
      have tail : key ≤ m := by split at found <;> simp_all [le_of_lt]
      refine ⟨by split at found <;> simp_all, ?_⟩
      intro x inside
      rcases List.mem_cons.mp inside with rfl | inside
      · exact head
      · exact le_trans tail (lower x inside)

theorem least_eq_some_iff {keys : List String} {key : String} :
    least keys = some key ↔ key ∈ keys ∧ ∀ k ∈ keys, key ≤ k := by
  refine ⟨least_mem_le, fun ⟨member, lower⟩ => ?_⟩
  cases found : least keys with
  | none => simp [least_eq_none_iff.mp found] at member
  | some m =>
    obtain ⟨inside, below⟩ := least_mem_le found
    exact congrArg some (le_antisymm (below key member) (lower m inside))

theorem mem_unknown {params : NameMap String} {key : String} :
    key ∈ params.keys.filter (fun k => k != "time" && k != "z") ↔
      key ∈ params.keys ∧ key ≠ "time" ∧ key ≠ "z" := by
  simp [List.mem_filter]

theorem least_unknown_eq_none_iff {params : NameMap String} :
    least (params.keys.filter fun k => k != "time" && k != "z") = none ↔
      ∀ k ∈ params.keys, k = "time" ∨ k = "z" := by
  rw [least_eq_none_iff, List.filter_eq_nil_iff]
  refine forall₂_congr fun k _ => ?_
  by_cases time : k = "time" <;> simp [time]

theorem least_unknown_eq_some_iff {params : NameMap String} {key : String} :
    least (params.keys.filter fun k => k != "time" && k != "z") = some key ↔
      key ∈ params.keys ∧ (key ≠ "time" ∧ key ≠ "z") ∧
        ∀ k ∈ params.keys, k ≠ "time" → k ≠ "z" → Utf8.encode key ≤ Utf8.encode k := by
  rw [least_eq_some_iff, mem_unknown, and_assoc]
  refine and_congr_right fun _ => and_congr_right fun _ => ?_
  simp only [Utf8.encode_le_encode_iff]
  exact ⟨fun lower k member time z => lower k (mem_unknown.mpr ⟨member, time, z⟩),
    fun lower k inside => (fun ⟨member, time, z⟩ => lower k member time z) (mem_unknown.mp inside)⟩

inductive RangeFailure (d : Dataset) (dimension : String) (index : Nat) : ServerError → Prop
  | notFound (missing : d.dimension? dimension = none) :
      RangeFailure d dimension index (.dimensionNotFound dimension)
  | empty {entry : Dimension} (found : d.dimension? dimension = some entry)
      (zero : entry.size = 0) :
      RangeFailure d dimension index (.emptyDimension dimension)
  | outside {entry : Dimension} (found : d.dimension? dimension = some entry)
      (nonempty : 0 < entry.size) (beyond : entry.size ≤ index) :
      RangeFailure d dimension index (.indexOutOfRange dimension (entry.size - 1))

theorem checkRange_eq_error_iff {d : Dataset} {dimension : String} {index : Nat}
    {e : ServerError} : checkRange d dimension index = .error e ↔ RangeFailure d dimension index e := by
  constructor
  · intro failed
    unfold checkRange at failed
    cases found : d.dimension? dimension with
    | none =>
      rw [found] at failed
      cases failed
      exact .notFound found
    | some entry =>
      simp only [found] at failed
      by_cases zero : entry.size = 0
      · rw [if_pos zero] at failed
        cases failed
        exact .empty found zero
      · rw [if_neg zero] at failed
        split at failed
        · cases failed
          exact .outside found (Nat.pos_of_ne_zero zero) (by omega)
        · cases failed
  · intro failure
    cases failure with
    | notFound missing => simp [checkRange, missing]
    | empty found zero => simp [checkRange, found, zero]
    | outside found nonempty beyond =>
      simp [checkRange, found, Nat.pos_iff_ne_zero.mp nonempty, beyond]

structure Indexed (params : NameMap String) (time z : Nat) : Prop where
  time : ∃ text, params.get? "time" = some text ∧ Index.Reads text (.ok time)
  z : ∃ text, params.get? "z" = some text ∧ Index.Reads text (.ok z)

/-- What checking the parameters of a slice request answers: the first check that fails, or the
request. -/
inductive ValidateAnswer (params : NameMap String) (d : Dataset) (timeDim zDim : String) :
    Except ServerError SliceRequest → Prop
  | missing (absent : params.get? "time" = none ∨ params.get? "z" = none) :
      ValidateAnswer params d timeDim zDim (.error .missingParameters)
  | malformedTime {timeText zText : String} {cause : IndexError}
      (timeGiven : params.get? "time" = some timeText) (zGiven : params.get? "z" = some zText)
      (bad : Index.Reads timeText (.error cause)) :
      ValidateAnswer params d timeDim zDim (.error (.malformedParameter "time" timeText cause))
  | malformedZ {timeText zText : String} {time : Nat} {cause : IndexError}
      (timeGiven : params.get? "time" = some timeText) (zGiven : params.get? "z" = some zText)
      (timeRead : Index.Reads timeText (.ok time)) (bad : Index.Reads zText (.error cause)) :
      ValidateAnswer params d timeDim zDim (.error (.malformedParameter "z" zText cause))
  | unknown {time z : Nat} {key : String} (indexed : Indexed params time z)
      (member : key ∈ params.keys) (other : key ≠ "time" ∧ key ≠ "z")
      (least : ∀ k ∈ params.keys, k ≠ "time" → k ≠ "z" → Utf8.encode key ≤ Utf8.encode k) :
      ValidateAnswer params d timeDim zDim (.error (.unknownParameter key))
  | timeRange {time z : Nat} {e : ServerError} (indexed : Indexed params time z)
      (known : ∀ k ∈ params.keys, k = "time" ∨ k = "z") (failed : RangeFailure d timeDim time e) :
      ValidateAnswer params d timeDim zDim (.error e)
  | zRange {time z : Nat} {e : ServerError} {timeEntry : Dimension}
      (indexed : Indexed params time z) (known : ∀ k ∈ params.keys, k = "time" ∨ k = "z")
      (timeFound : d.dimension? timeDim = some timeEntry) (timeInside : time < timeEntry.size)
      (failed : RangeFailure d zDim z e) :
      ValidateAnswer params d timeDim zDim (.error e)
  | accepted {time z : Nat} {timeEntry zEntry : Dimension} (indexed : Indexed params time z)
      (known : ∀ k ∈ params.keys, k = "time" ∨ k = "z")
      (timeFound : d.dimension? timeDim = some timeEntry) (timeInside : time < timeEntry.size)
      (zFound : d.dimension? zDim = some zEntry) (zInside : z < zEntry.size) :
      ValidateAnswer params d timeDim zDim (.ok ⟨time, z⟩)

namespace ValidateAnswer

variable {params : NameMap String} {d : Dataset} {timeDim zDim : String}
  {answer : Except ServerError SliceRequest}

theorem validate_eq (h : ValidateAnswer params d timeDim zDim answer) :
    validate params d timeDim zDim = answer := by
  cases h with
  | missing absent => rcases absent with absent | absent <;> simp [validate, absent]
  | malformedTime timeGiven zGiven bad =>
    simp [validate, timeGiven, zGiven, parseParameter, Index.parse_eq_iff_reads.mpr bad]
  | malformedZ timeGiven zGiven timeRead bad =>
    simp [validate, timeGiven, zGiven, parseParameter, Index.parse_eq_iff_reads.mpr timeRead,
      Index.parse_eq_iff_reads.mpr bad]
  | unknown indexed member other least =>
    obtain ⟨⟨timeText, timeGiven, timeRead⟩, ⟨zText, zGiven, zRead⟩⟩ := indexed
    have found := least_unknown_eq_some_iff.mpr ⟨member, other, least⟩
    simp [validate, timeGiven, zGiven, parseParameter, Index.parse_eq_iff_reads.mpr timeRead,
      Index.parse_eq_iff_reads.mpr zRead, found]
  | timeRange indexed known failed =>
    obtain ⟨⟨timeText, timeGiven, timeRead⟩, ⟨zText, zGiven, zRead⟩⟩ := indexed
    simp [validate, timeGiven, zGiven, parseParameter, Index.parse_eq_iff_reads.mpr timeRead,
      Index.parse_eq_iff_reads.mpr zRead, least_unknown_eq_none_iff.mpr known,
      checkRange_eq_error_iff.mpr failed]
  | zRange indexed known timeFound timeInside failed =>
    obtain ⟨⟨timeText, timeGiven, timeRead⟩, ⟨zText, zGiven, zRead⟩⟩ := indexed
    simp [validate, timeGiven, zGiven, parseParameter, Index.parse_eq_iff_reads.mpr timeRead,
      Index.parse_eq_iff_reads.mpr zRead, least_unknown_eq_none_iff.mpr known,
      checkRange_eq_ok_iff.mpr ⟨_, timeFound, timeInside⟩, checkRange_eq_error_iff.mpr failed]
  | accepted indexed known timeFound timeInside zFound zInside =>
    obtain ⟨⟨timeText, timeGiven, timeRead⟩, ⟨zText, zGiven, zRead⟩⟩ := indexed
    simp [validate, timeGiven, zGiven, parseParameter, Index.parse_eq_iff_reads.mpr timeRead,
      Index.parse_eq_iff_reads.mpr zRead, least_unknown_eq_none_iff.mpr known,
      checkRange_eq_ok_iff.mpr ⟨_, timeFound, timeInside⟩,
      checkRange_eq_ok_iff.mpr ⟨_, zFound, zInside⟩]

theorem self (h : ValidateAnswer params d timeDim zDim answer) :
    ValidateAnswer params d timeDim zDim (validate params d timeDim zDim) :=
  h.validate_eq ▸ h

end ValidateAnswer

theorem validateAnswer (params : NameMap String) (d : Dataset) (timeDim zDim : String) :
    ValidateAnswer params d timeDim zDim (validate params d timeDim zDim) := by
  cases timeGiven : params.get? "time" with
  | none => exact (ValidateAnswer.missing (.inl timeGiven)).self
  | some timeText =>
  cases zGiven : params.get? "z" with
  | none => exact (ValidateAnswer.missing (.inr zGiven)).self
  | some zText =>
  cases timeRead : Index.parse timeText with
  | error cause =>
    exact (ValidateAnswer.malformedTime timeGiven zGiven (Index.parse_eq_iff_reads.mp timeRead)).self
  | ok time =>
  cases zRead : Index.parse zText with
  | error cause =>
    exact (ValidateAnswer.malformedZ timeGiven zGiven (Index.parse_eq_iff_reads.mp timeRead)
      (Index.parse_eq_iff_reads.mp zRead)).self
  | ok z =>
  have indexed : Indexed params time z :=
    ⟨⟨timeText, timeGiven, Index.parse_eq_iff_reads.mp timeRead⟩,
      ⟨zText, zGiven, Index.parse_eq_iff_reads.mp zRead⟩⟩
  cases unknown : least (params.keys.filter fun k => k != "time" && k != "z") with
  | some key =>
    obtain ⟨member, other, lower⟩ := least_unknown_eq_some_iff.mp unknown
    exact (ValidateAnswer.unknown indexed member other lower).self
  | none =>
  have known := least_unknown_eq_none_iff.mp unknown
  cases timeChecked : checkRange d timeDim time with
  | error e => exact (ValidateAnswer.timeRange indexed known (checkRange_eq_error_iff.mp timeChecked)).self
  | ok _ =>
  obtain ⟨timeEntry, timeFound, timeInside⟩ := checkRange_eq_ok_iff.mp timeChecked
  cases zChecked : checkRange d zDim z with
  | error e =>
    exact (ValidateAnswer.zRange indexed known timeFound timeInside
      (checkRange_eq_error_iff.mp zChecked)).self
  | ok _ =>
  obtain ⟨zEntry, zFound, zInside⟩ := checkRange_eq_ok_iff.mp zChecked
  exact (ValidateAnswer.accepted indexed known timeFound timeInside zFound zInside).self

/-- Checking a request's parameters answers exactly what the fixed order of checks gives: the
request when every check passes, and otherwise the error of the first that fails. -/
theorem validate_answers (params : NameMap String) (d : Dataset) (timeDim zDim : String)
    (answer : Except ServerError SliceRequest) :
    validate params d timeDim zDim = answer ↔ ValidateAnswer params d timeDim zDim answer :=
  ⟨fun h => h ▸ validateAnswer params d timeDim zDim, ValidateAnswer.validate_eq⟩

end SliceRequest

end GridServe
