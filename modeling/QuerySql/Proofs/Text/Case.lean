import QuerySql.Text.Case

namespace QuerySql.Text

def upperRanges : List CaseRange :=
  ⟨0x41, 0x5A, 1, 32⟩ :: ⟨0x130, 0x130, 1, 0⟩ :: lowerRanges

def hasLower (code : Nat) : Bool :=
  upperRanges.any (·.contains code)

/-- Whether no form of a range's characters is in another range: the forms are all below or above
it, or every other character is in it and they are those between. -/
def CaseRange.misses (range other : CaseRange) : Bool :=
  Nat.blt (range.apply range.last) other.first || Nat.blt other.last (range.apply range.first)
    || (Nat.beq other.step 2 && (Nat.beq range.step 2 || Nat.beq range.first range.last)
      && Nat.blt 0 (range.apply range.first)
      && Nat.beq ((range.apply range.first + other.first) % 2) 1)

theorem CaseRange.not_contains_apply {range other : CaseRange} (apart : range.misses other)
    {code : Nat} (contained : range.contains code) :
    other.contains (range.apply code) = false := by
  rw [Bool.eq_false_iff]
  intro isForm
  simp only [contains, Bool.and_eq_true, decide_eq_true_eq, beq_iff_eq] at contained isForm
  simp only [misses, Bool.or_eq_true, Bool.and_eq_true, Nat.blt_eq, Nat.beq_eq] at apart
  simp only [apply] at apart isForm
  rcases apart with (below | above) | ⟨⟨⟨otherStep, step | single⟩, positive⟩, parity⟩
  · omega
  · omega
  · rw [otherStep] at isForm
    rw [step] at contained
    omega
  · rw [otherStep] at isForm
    omega

theorem hasLower_apply {range : CaseRange} (isRange : range ∈ lowerRanges) {code : Nat}
    (contained : range.contains code) : hasLower (range.apply code) = false := by
  have apart : (lowerRanges.all fun range => upperRanges.all range.misses) = true := by
    decide +kernel
  have missesAll := List.all_eq_true.mp apart range isRange
  rw [hasLower, List.any_eq_false]
  intro other isOther
  rw [CaseRange.not_contains_apply (List.all_eq_true.mp missesAll other isOther) contained]
  exact Bool.false_ne_true

theorem hasLower_ofNat {code : Nat} (isForm : hasLower code = false) :
    hasLower (Char.ofNat code).toNat = false := by
  by_cases valid : code.isValidChar
  · have sameCode : (Char.ofNat code).toNat = code := by
      rw [Char.ofNat, dif_pos valid]
      rfl
    rw [sameCode, isForm]
  · rw [Char.ofNat, dif_neg valid]
    decide +kernel

theorem lowerChar_eq_self {char : Char} (isForm : hasLower char.toNat = false) :
    lowerChar char = [char] := by
  simp only [hasLower, upperRanges, List.any_cons, Bool.or_eq_false_iff] at isForm
  obtain ⟨notBasic, notDotted, notBeyond⟩ := isForm
  have notFound : lowerRanges.find? (·.contains char.toNat) = none :=
    List.find?_eq_none.mpr (List.any_eq_false.mp notBeyond)
  have isOther : char.toNat ≠ 0x130 := by
    intro isDotted
    rw [isDotted] at notDotted
    cases notDotted
  have isLower : char.toLower = char := by
    refine dif_neg fun isUpper => Bool.eq_false_iff.mp notBasic ?_
    simpa [CaseRange.contains, UInt32.le_iff_toNat_le, Nat.mod_one] using isUpper
  rw [lowerChar, notFound, isLower, if_neg isOther, ite_self]

theorem hasLower_toLower {char : Char} (isBasic : char.toNat < 0x80) :
    hasLower char.toLower.toNat = false := by
  have beyond : ∀ range ∈ upperRanges.tail, 0x80 ≤ range.first := by decide +kernel
  have basic : ∀ code < 0x80, (Char.ofNat code).toLower.toNat < 0x80 ∧
      (CaseRange.mk 0x41 0x5A 1 32).contains (Char.ofNat code).toLower.toNat = false := by
    decide
  obtain ⟨staysBasic, notUpper⟩ := basic char.toNat isBasic
  rw [Char.ofNat_toNat] at staysBasic notUpper
  have notBeyond : upperRanges.tail.any (·.contains char.toLower.toNat) = false := by
    refine List.any_eq_false.mpr fun range isRange => ?_
    have above := beyond range isRange
    simp only [CaseRange.contains, Bool.and_eq_true, decide_eq_true_eq]
    omega
  exact Bool.or_eq_false_iff.mpr ⟨notUpper, notBeyond⟩

theorem hasLower_of_mem_lowerChar {char form : Char} (isForm : form ∈ lowerChar char) :
    hasLower form.toNat = false := by
  unfold lowerChar at isForm
  split at isForm
  · rename_i isBasic
    rw [List.mem_singleton.mp isForm]
    exact hasLower_toLower isBasic
  · rename_i notBasic
    split at isForm
    · have dotted : hasLower 'i'.toNat = false ∧ hasLower (Char.ofNat 0x307).toNat = false := by
        decide +kernel
      simp only [List.mem_cons, List.not_mem_nil, or_false] at isForm
      rcases isForm with rfl | rfl
      · exact dotted.1
      · exact dotted.2
    · rename_i notDotted
      split at isForm <;> rw [List.mem_singleton.mp isForm]
      · rename_i range found
        have contained : range.contains char.toNat := by
          simpa using List.find?_some found
        exact hasLower_ofNat (hasLower_apply (List.mem_of_find?_eq_some found) contained)
      · rename_i notFound
        have notBeyond := List.any_eq_false.mpr (List.find?_eq_none.mp notFound)
        rw [hasLower, upperRanges, List.any_cons, List.any_cons, notBeyond, Bool.or_false,
          Bool.or_eq_false_iff]
        simp only [CaseRange.contains, Bool.and_eq_false_iff, decide_eq_false_iff_not]
        omega

theorem hasLower_of_mem_lowerFrom {before chars : List Char} {form : Char}
    (isForm : form ∈ lowerFrom before chars) : hasLower form.toNat = false := by
  induction chars generalizing before with
  | nil => cases isForm
  | cons char rest ih =>
      have sigmas : hasLower finalSigma.toNat = false ∧ hasLower smallSigma.toNat = false := by
        decide +kernel
      rw [lowerFrom, List.mem_append] at isForm
      rcases isForm with isFirst | isLater
      · split at isFirst
        · rw [List.mem_singleton.mp isFirst]
          split
          · exact sigmas.1
          · exact sigmas.2
        · exact hasLower_of_mem_lowerChar isFirst
      · exact ih isLater

theorem lowerFrom_eq_self {chars : List Char} (before : List Char)
    (areForms : ∀ char ∈ chars, hasLower char.toNat = false) : lowerFrom before chars = chars := by
  induction chars generalizing before with
  | nil => rfl
  | cons char rest ih =>
      obtain ⟨isForm, others⟩ := List.forall_mem_cons.mp areForms
      have notSigma : char ≠ capitalSigma := by
        rintro rfl
        have hasForm : hasLower capitalSigma.toNat = true := by decide +kernel
        rw [hasForm] at isForm
        cases isForm
      rw [lowerFrom, if_neg notSigma, lowerChar_eq_self isForm, ih _ others]
      rfl

@[simp] theorem lower_lower (text : String) : lower (lower text) = lower text := by
  have areForms : ∀ form ∈ (lower text).toList, hasLower form.toNat = false := fun form isForm => by
    rw [lower, String.toList_ofList] at isForm
    exact hasLower_of_mem_lowerFrom isForm
  rw [lower, lowerFrom_eq_self [] areForms, String.ofList_toList]

end QuerySql.Text
