import OrmMapping.Proofs.Text.Blank
import OrmMapping.Proofs.Text.Casing
import OrmMapping.Proofs.Text.WordChar

/-!
# Lower case in parts

A text is lowered part by part, each in sight of what stands around it: only a capital sigma depends
on that. Space and the marks below the letters of ASCII stay as they are, and nothing else becomes
space or one of these marks.

* `not_blank_of_mem_lowerAt`, `isLowered_of_blank`: space and what is none;
* `eq_of_mem_lowerAt`, `toNat_lt_of_mem_lowerAt`: marks and ASCII;
* `lowerWithin`, `lowerWithin_append`: a part of a text;
* `exists_of_mem_lowerWithin`, `exists_lowerAt_subset`: what is in it;
* `isBlank_lower`: a text that is more than space is so in lower case;
* `lowerWithin_of_isLowered`, `lowerWithin_of_no_sigma`: parts that do not depend on what is around
  them.
-/

namespace OrmMapping.Text

variable {c d : Char} {n : Nat} {run : CaseRun} {cs ds before after front back : List Char}
  {s : String}

/-! ## Characters -/

/-- Whether a run leads past all space. -/
def CaseRun.isInked (run : CaseRun) : Bool :=
  let last := run.target + (run.last - run.first)
  (0x5A).blt run.target && (last.blt 0x85 || (0xA0).blt run.target) &&
    (last.blt 0x1680 || (0x1680).blt run.target) && (last.blt 0x2000 || (0x205F).blt run.target) &&
    (last.blt 0x3000 || (0x3000).blt run.target)

/-- No run leads to space, and beyond ASCII none has space in it. -/
theorem lowerRuns_inked : ∀ run ∈ lowerRuns, run.isInked = true ∧
    (run.last.blt 0x80 || isInkedRange (run.first, run.last)) = true := by
  decide +kernel

/-- The partner that a run of the table gives is not space. -/
theorem CaseRun.not_blank_of_lower? (hrun : run ∈ lowerRuns)
    (h : run.lower? n = some d.toNat) : isBlankChar d = false := by
  have hinked := (lowerRuns_inked run hrun).1
  simp only [CaseRun.isInked, Bool.or_eq_true, Bool.and_eq_true, Nat.blt_eq] at hinked
  obtain ⟨hfirst, hlast, -, hm⟩ := CaseRun.lower?_eq_some h
  simp only [isBlankChar, Bool.or_eq_false_iff, Bool.and_eq_false_iff, decide_eq_false_iff_not,
    beq_eq_false_iff_ne]
  omega

/-- If `c` is no space, then neither is its partner. -/
theorem not_blank_lowerChar (hc : isBlankChar c = false) : isBlankChar (lowerChar c) = false := by
  rcases lowerChar_cases c with hself | ⟨hfirst, hlast, hsmall⟩ | ⟨-, run, hrun, hpartner⟩
  · rw [hself]
    exact hc
  · simp only [isBlankChar, Bool.or_eq_false_iff, Bool.and_eq_false_iff, decide_eq_false_iff_not,
      beq_eq_false_iff_ne]
    omega
  · exact CaseRun.not_blank_of_lower? hrun hpartner

/-- If the partner of `c` is a mark below the letters of ASCII, then `c` is that mark. -/
theorem lowerChar_of_mark (hmark : (lowerChar c).toNat < 0x41) : lowerChar c = c := by
  rcases lowerChar_cases c with hself | ⟨hfirst, hlast, hsmall⟩ | ⟨-, run, hrun, hpartner⟩
  · exact hself
  · omega
  · have hinked := (lowerRuns_inked run hrun).1
    simp only [CaseRun.isInked, Bool.and_eq_true, Nat.blt_eq] at hinked
    obtain ⟨-, -, -, hm⟩ := CaseRun.lower?_eq_some hpartner
    omega

/-- If `lowerAt` gives a mark `d` below the letters of ASCII, then it comes from `d` itself. -/
theorem eq_of_mem_lowerAt (hmark : d.toNat < 0x41) (h : d ∈ lowerAt front c back) : c = d := by
  rcases lowerAt_cases h with ⟨-, -, rfl⟩ | ⟨-, hspecial⟩
  · exact (lowerChar_of_mark hmark).symm
  · rcases hspecial with rfl | rfl | rfl | rfl
    all_goals exact absurd hmark (by decide)

/-- Space is lowered already: no run has space in it. -/
theorem isLowered_of_blank (h : isBlankChar c = true) : IsLowered c := by
  by_cases hascii : c.toNat < 0x80
  · refine isLowered_of_lt hascii fun hcapital => ?_
    simp only [isBlankChar, Bool.or_eq_true, Bool.and_eq_true, decide_eq_true_eq, beq_iff_eq] at h
    omega
  · refine ⟨?_, ?_, ?_⟩
    · -- beyond ASCII a partner would come from a run, and no run has space in it
      have hnone : lowerRuns.findSome? (·.lower? c.toNat) = none := by
        refine List.findSome?_eq_none_iff.mpr fun run hrun => ?_
        cases hm : run.lower? c.toNat with
        | none => rfl
        | some m =>
          obtain ⟨hfirst, hlast, -, -⟩ := CaseRun.lower?_eq_some hm
          have hinked := (lowerRuns_inked run hrun).2
          simp only [isInkedRange, Bool.or_eq_true, Bool.and_eq_true, Nat.blt_eq] at hinked
          simp only [isBlankChar, Bool.or_eq_true, Bool.and_eq_true, decide_eq_true_eq,
            beq_iff_eq] at h
          omega
      simp [lowerChar, hascii, hnone]
    · rintro rfl
      exact absurd h (by decide)
    · rintro rfl
      exact absurd h (by decide)

/-- If `c` is no space, then nothing that it becomes is space. -/
theorem not_blank_of_mem_lowerAt (hc : isBlankChar c = false) (h : d ∈ lowerAt front c back) :
    isBlankChar d = false := by
  rcases lowerAt_cases h with ⟨-, -, rfl⟩ | ⟨-, hspecial⟩
  · exact not_blank_lowerChar hc
  · rcases hspecial with rfl | rfl | rfl | rfl
    all_goals decide

/-- If `c` is in ASCII, then so is all that it becomes. -/
theorem toNat_lt_of_mem_lowerAt (hc : c.toNat < 0x80) (h : d ∈ lowerAt front c back) :
    d.toNat < 0x80 := by
  rcases lowerAt_cases h with ⟨-, -, rfl⟩ | ⟨rfl | rfl, -⟩
  · rcases lowerChar_cases c with hself | ⟨hfirst, hlast, hsmall⟩ | ⟨hbeyond, -⟩
    · rw [hself]
      exact hc
    · omega
    · omega
  · exact absurd hc (by decide)
  · exact absurd hc (by decide)

/-- Every character becomes at least one. -/
theorem lowerAt_ne_nil (front : List Char) (c : Char) (back : List Char) :
    lowerAt front c back ≠ [] := by
  unfold lowerAt
  split
  · split <;> exact List.cons_ne_nil _ _
  · split <;> exact List.cons_ne_nil _ _

/-! ## Parts -/

/-- The lower-case form of a part of a text between what stands before it, nearest first, and what
stands after it. -/
def lowerWithin (before : List Char) : List Char → List Char → List Char
  | [], _ => []
  | c :: rest, after => lowerAt before c (rest ++ after) ++ lowerWithin (c :: before) rest after

/-- A whole text is a part with nothing after it. -/
theorem lowerFrom_eq_lowerWithin (before cs : List Char) :
    lowerFrom before cs = lowerWithin before cs [] := by
  induction cs generalizing before with
  | nil => rfl
  | cons c rest ih => rw [lowerFrom, lowerWithin, ih, List.append_nil]

/-- A text that is not empty is not empty in lower case. -/
theorem lowerFrom_ne_nil (before : List Char) (hne : cs ≠ []) : lowerFrom before cs ≠ [] := by
  cases cs with
  | nil => exact absurd rfl hne
  | cons c rest => exact List.append_ne_nil_of_left_ne_nil (lowerAt_ne_nil _ _ _) _

/-- A part is lowered in two pieces, each in sight of the other one. -/
theorem lowerWithin_append (before cs ds after : List Char) :
    lowerWithin before (cs ++ ds) after =
      lowerWithin before cs (ds ++ after) ++ lowerWithin (cs.reverse ++ before) ds after := by
  -- on the first piece, which goes over to what stands before the second
  induction cs generalizing before with
  | nil => rfl
  | cons c rest ih =>
    rw [List.cons_append, lowerWithin, lowerWithin, ih, List.append_assoc, List.append_assoc,
      List.reverse_cons, List.append_assoc, List.singleton_append]

/-- What is in the lower-case form of `cs` comes from a character of `cs`. -/
theorem exists_of_mem_lowerWithin (h : d ∈ lowerWithin before cs after) :
    ∃ c ∈ cs, ∃ front back, d ∈ lowerAt front c back := by
  induction cs generalizing before with
  | nil => cases h
  | cons c rest ih =>
    rcases List.mem_append.mp h with hfirst | hrest
    · exact ⟨c, List.mem_cons_self, before, rest ++ after, hfirst⟩
    · obtain ⟨c', hc', hbecomes⟩ := ih hrest
      exact ⟨c', List.mem_cons_of_mem c hc', hbecomes⟩

/-- A mark `d` below the letters of ASCII is in the lower-case form of `cs` only if it is in
`cs`. -/
theorem mem_of_mem_lowerWithin (hmark : d.toNat < 0x41) (h : d ∈ lowerWithin before cs after) :
    d ∈ cs := by
  obtain ⟨c, hc, front, back, hbecomes⟩ := exists_of_mem_lowerWithin h
  exact eq_of_mem_lowerAt hmark hbecomes ▸ hc

/-- If `c` is in `cs`, then all that it becomes is in the lower-case form of `cs`. -/
theorem exists_lowerAt_subset (before after : List Char) (h : c ∈ cs) :
    ∃ front back, lowerAt front c back ⊆ lowerWithin before cs after := by
  induction cs generalizing before with
  | nil => cases h
  | cons first rest ih =>
    rcases List.mem_cons.mp h with rfl | hrest
    · exact ⟨before, rest ++ after, List.subset_append_left _ _⟩
    · obtain ⟨front, back, hsubset⟩ := ih (first :: before) hrest
      exact ⟨front, back, fun d hd => List.mem_append_right _ (hsubset hd)⟩

/-- A lowered character becomes itself, whatever stands around it. -/
theorem lowerAt_of_isLowered (h : IsLowered c) (front back : List Char) :
    lowerAt front c back = [c] := by
  simp [lowerAt, h.notSigma, h.notDotted, h.partner]

/-- A text that is more than space is so in lower case. -/
theorem isBlank_lower (h : isBlank s = false) : isBlank (lower s) = false := by
  obtain ⟨c, hmem, hc⟩ := isBlank_eq_false_iff.mp h
  obtain ⟨front, back, hsubset⟩ := exists_lowerAt_subset [] [] hmem
  obtain ⟨d, hd⟩ := List.exists_mem_of_ne_nil _ (lowerAt_ne_nil front c back)
  refine isBlank_eq_false_iff.mpr ⟨d, ?_, not_blank_of_mem_lowerAt hc hd⟩
  rw [toList_lower, lowerFrom_eq_lowerWithin]
  exact hsubset hd

/-- If the lower-case form of `cs` has no space, then neither has `cs`. -/
theorem not_blank_of_lowerFrom (h : ∀ d ∈ lowerFrom before cs, isBlankChar d = false)
    (hc : c ∈ cs) : isBlankChar c = false := by
  cases hblank : isBlankChar c with
  | false => rfl
  | true =>
    obtain ⟨front, back, hsubset⟩ := exists_lowerAt_subset before [] hc
    rw [← lowerFrom_eq_lowerWithin, lowerAt_of_isLowered (isLowered_of_blank hblank)] at hsubset
    rw [← hblank, h c (hsubset List.mem_cons_self)]

/-- If the lower-case form of `cs` is in ASCII, then `cs` has no `Σ`, the only letter that looks
around. -/
theorem no_sigma_of_lowerFrom (h : ∀ d ∈ lowerFrom before cs, d.toNat < 0x80) : 'Σ' ∉ cs := by
  intro hsigma
  obtain ⟨front, back, hsubset⟩ := exists_lowerAt_subset before [] hsigma
  rw [← lowerFrom_eq_lowerWithin, lowerAt, if_pos (beq_self_eq_true _)] at hsubset
  split at hsubset
  · exact absurd (h 'ς' (hsubset List.mem_cons_self)) (by decide)
  · exact absurd (h 'σ' (hsubset List.mem_cons_self)) (by decide)

/-- A part of lowered characters stays as it is. -/
theorem lowerWithin_of_isLowered (h : ∀ c ∈ cs, IsLowered c) (before after : List Char) :
    lowerWithin before cs after = cs := by
  induction cs generalizing before with
  | nil => rfl
  | cons c rest ih =>
    rw [lowerWithin, lowerAt_of_isLowered (h c List.mem_cons_self),
      ih fun d hd => h d (List.mem_cons_of_mem c hd)]
    rfl

/-- A part without `Σ` is lowered as if it stood alone. -/
theorem lowerWithin_of_no_sigma (h : 'Σ' ∉ cs) (before after : List Char) :
    lowerWithin before cs after = lowerFrom [] cs := by
  rw [lowerFrom_eq_lowerWithin]
  -- nothing of `before` and `after` is looked at, so any others do as well
  have hapart : ∀ before' after',
      lowerWithin before cs after = lowerWithin before' cs after' := by
    induction cs generalizing before with
    | nil => exact fun _ _ => rfl
    | cons c rest ih =>
      intro before' after'
      have hsigma : ¬ c = 'Σ' := fun heq => h (heq ▸ List.mem_cons_self)
      have hrest : 'Σ' ∉ rest := fun hmem => h (List.mem_cons_of_mem c hmem)
      rw [lowerWithin, lowerWithin, ih hrest (c :: before) (c :: before') after']
      simp [lowerAt, hsigma]
  exact hapart [] []

end OrmMapping.Text
