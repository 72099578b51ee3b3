import OrmMapping.Text.Casing

/-!
# Lower case twice

A text in lower case stays as it is when it is lowered again: no run of letters leads to a letter of
a run, and the two letters that need more than a partner do not come out of lower-casing.

* `CaseRun.misses`, `lowerRuns_miss`: what the runs lead to is in none of them;
* `IsLowered`: characters that lower-casing leaves as they are;
* `lower_lower`: lower-casing twice.
-/

namespace OrmMapping.Text

variable {c d : Char} {n m : Nat} {run other : CaseRun}

/-! ## Runs -/

/-- Whether one run leads past another: above it, below it, or to the letters between those of a run
that takes every second one. -/
def CaseRun.misses (run other : CaseRun) : Bool :=
  (run.target + (run.last - run.first)).blt other.first || other.last.blt run.target ||
    (other.step.beq 2 && (run.step.beq 2 || run.first.beq run.last) &&
      ((run.target + other.first) % 2).beq 1)

/-- Whether what a run leads to are characters that lower-casing has no further rule for. -/
def CaseRun.isSettled (run : CaseRun) : Bool :=
  let last := run.target + (run.last - run.first)
  (0x5A).blt run.target && (last.blt 0xD800 || (0xDFFF).blt run.target) && last.blt 0x110000 &&
    (last.blt 0x130 || (0x130).blt run.target) && (last.blt 0x3A3 || (0x3A3).blt run.target)

/-- No run of the table leads into a run of the table, checked for all pairs. -/
theorem lowerRuns_miss : ∀ run ∈ lowerRuns, ∀ other ∈ lowerRuns, run.misses other = true := by
  have hall : (lowerRuns.all fun run => lowerRuns.all run.misses) = true := by decide +kernel
  simpa only [List.all_eq_true] using hall

/-- What the runs lead to is a valid code point, no capital of ASCII, and neither `Σ` nor `İ`. -/
theorem lowerRuns_settled : ∀ run ∈ lowerRuns, run.isSettled = true := by
  decide +kernel

/-- If `run` gives `n` the partner `m`, then `n` is a letter of the run, and `m` stands at the same
distance from `run.target`. -/
theorem CaseRun.lower?_eq_some (h : run.lower? n = some m) :
    run.first ≤ n ∧ n ≤ run.last ∧ (n - run.first) % run.step = 0 ∧
      m = run.target + (n - run.first) := by
  unfold CaseRun.lower? at h
  split at h
  · next hin =>
    cases h
    simpa [and_assoc] using hin
  · cases h

/-- If `run` misses `other`, then `other` has no partner for what `run` leads to. -/
theorem CaseRun.lower?_of_misses (hmisses : run.misses other = true) (h : run.lower? n = some m) :
    other.lower? m = none := by
  obtain ⟨hfirst, hlast, hstep, rfl⟩ := CaseRun.lower?_eq_some h
  cases hother : other.lower? (run.target + (n - run.first)) with
  | none => rfl
  | some k =>
    obtain ⟨hfirst', hlast', hstep', -⟩ := CaseRun.lower?_eq_some hother
    simp only [CaseRun.misses, Bool.or_eq_true, Bool.and_eq_true, Nat.blt_eq, Nat.beq_eq] at hmisses
    rcases hmisses with (habove | hbelow) | ⟨⟨htwo, hsecond⟩, hodd⟩
    · omega
    · omega
    · -- both take every second letter, and they differ by an odd number
      rw [htwo] at hstep'
      rcases hsecond with htwo' | hsingle
      · rw [htwo'] at hstep
        omega
      · omega

/-! ## Characters -/

/-- A character that lower-casing leaves as it is, whatever stands around it. -/
structure IsLowered (c : Char) : Prop where
  partner : lowerChar c = c
  notSigma : c ≠ 'Σ'
  notDotted : c ≠ 'İ'

/-- A code point that is no surrogate is the number of its character. -/
theorem toNat_ofNat (h : n < 0xD800 ∨ 0xDFFF < n ∧ n < 0x110000) : (Char.ofNat n).toNat = n := by
  have hvalid : n.isValidChar := h
  rw [Char.ofNat, dif_pos hvalid]
  rfl

/-- In ASCII, everything but the capital letters is lowered already. -/
theorem isLowered_of_lt (hascii : c.toNat < 0x80) (hnot : ¬ (0x41 ≤ c.toNat ∧ c.toNat ≤ 0x5A)) :
    IsLowered c := by
  refine ⟨?_, ?_, ?_⟩
  · simp [lowerChar, hascii]
    omega
  · rintro rfl
    exact absurd hascii (by decide)
  · rintro rfl
    exact absurd hascii (by decide)

/-- The partner of `c` is `c` itself, or the small letter of a capital one in ASCII, or what a run
gives beyond ASCII. -/
theorem lowerChar_cases (c : Char) :
    lowerChar c = c ∨
      (0x41 ≤ c.toNat ∧ c.toNat ≤ 0x5A ∧ (lowerChar c).toNat = c.toNat + 0x20) ∨
      (0x80 ≤ c.toNat ∧ ∃ run ∈ lowerRuns, run.lower? c.toNat = some (lowerChar c).toNat) := by
  unfold lowerChar
  split
  · split
    · next hcapital =>
      simp only [Bool.and_eq_true, decide_eq_true_eq] at hcapital
      exact Or.inr (Or.inl ⟨hcapital.1, hcapital.2, toNat_ofNat (Or.inl (by omega))⟩)
    · exact Or.inl rfl
  · next hascii =>
    split
    · next m hpartner =>
      obtain ⟨run, hrun, hm⟩ := List.exists_of_findSome?_eq_some hpartner
      have hsettled := lowerRuns_settled run hrun
      simp only [CaseRun.isSettled, Bool.or_eq_true, Bool.and_eq_true, Nat.blt_eq] at hsettled
      obtain ⟨hfirst, hlast, -, hat⟩ := CaseRun.lower?_eq_some hm
      have hnat : (Char.ofNat m).toNat = m := toNat_ofNat (by omega)
      rw [hnat]
      exact Or.inr (Or.inr ⟨by omega, run, hrun, hm⟩)
    · exact Or.inl rfl

/-- If `c` is neither `Σ` nor `İ`, then its partner is lowered: runs do not lead to letters of
runs. -/
theorem isLowered_lowerChar (hsigma : c ≠ 'Σ') (hdotted : c ≠ 'İ') : IsLowered (lowerChar c) := by
  by_cases hascii : c.toNat < 0x80
  · by_cases hcapital : 0x41 ≤ c.toNat ∧ c.toNat ≤ 0x5A
    · have hlower : (Char.ofNat (c.toNat + 0x20)).toNat = c.toNat + 0x20 :=
        toNat_ofNat (Or.inl (by omega))
      have hpartner : lowerChar c = Char.ofNat (c.toNat + 0x20) := by
        simp [lowerChar, hascii, hcapital]
      rw [hpartner]
      exact isLowered_of_lt (by omega) (by omega)
    · have hlowered := isLowered_of_lt hascii hcapital
      rw [hlowered.partner]
      exact hlowered
  · cases hpartner : lowerRuns.findSome? (·.lower? c.toNat) with
    | none =>
      have hself : lowerChar c = c := by simp [lowerChar, hascii, hpartner]
      rw [hself]
      exact ⟨hself, hsigma, hdotted⟩
    | some m =>
      have hself : lowerChar c = Char.ofNat m := by simp [lowerChar, hascii, hpartner]
      obtain ⟨run, hrun, hm⟩ := List.exists_of_findSome?_eq_some hpartner
      have hsettled := lowerRuns_settled run hrun
      simp only [CaseRun.isSettled, Bool.or_eq_true, Bool.and_eq_true, Nat.blt_eq] at hsettled
      obtain ⟨hfirst, hlast, -, hat⟩ := CaseRun.lower?_eq_some hm
      have hnat : (Char.ofNat m).toNat = m := toNat_ofNat (by omega)
      -- no run has a rule for `m`, as no run leads into another
      have hnext : lowerRuns.findSome? (·.lower? m) = none :=
        List.findSome?_eq_none_iff.mpr fun other hother =>
          CaseRun.lower?_of_misses (lowerRuns_miss run hrun other hother) hm
      rw [hself]
      by_cases hascii' : m < 0x80
      · exact isLowered_of_lt (by omega) (by omega)
      · refine ⟨?_, ?_, ?_⟩
        · simp [lowerChar, hnat, hascii', hnext]
        · intro heq
          have hcode : 'Σ'.toNat = 0x3A3 := by decide
          rw [heq, hcode] at hnat
          omega
        · intro heq
          have hcode : 'İ'.toNat = 0x130 := by decide
          rw [heq, hcode] at hnat
          omega

/-- What `lowerAt` gives is the partner of `c`, unless `c` is one of the two letters with a rule of
their own. -/
theorem lowerAt_cases {before after : List Char} (h : d ∈ lowerAt before c after) :
    (c ≠ 'Σ' ∧ c ≠ 'İ' ∧ d = lowerChar c) ∨
      ((c = 'Σ' ∨ c = 'İ') ∧ (d = 'σ' ∨ d = 'ς' ∨ d = 'i' ∨ d = '\u0307')) := by
  unfold lowerAt at h
  split at h
  · next hsigma =>
    refine Or.inr ⟨Or.inl (beq_iff_eq.mp hsigma), ?_⟩
    split at h
    · exact Or.inr (Or.inl (List.mem_singleton.mp h))
    · exact Or.inl (List.mem_singleton.mp h)
  · next hsigma =>
    split at h
    · next hdotted =>
      rw [List.mem_cons, List.mem_singleton] at h
      exact Or.inr ⟨Or.inr (beq_iff_eq.mp hdotted), Or.inr (Or.inr h)⟩
    · next hdotted =>
      exact Or.inl ⟨by simpa using hsigma, by simpa using hdotted, List.mem_singleton.mp h⟩

/-- What `Σ` and `İ` become is lowered. -/
theorem isLowered_of_special (h : d = 'σ' ∨ d = 'ς' ∨ d = 'i' ∨ d = '\u0307') : IsLowered d := by
  rcases h with rfl | rfl | rfl | rfl
  all_goals exact ⟨by decide, by decide, by decide⟩

/-- Every character that `lowerAt` gives is lowered, whatever stands around `c`. -/
theorem isLowered_of_mem_lowerAt {before after : List Char} (h : d ∈ lowerAt before c after) :
    IsLowered d := by
  rcases lowerAt_cases h with ⟨hsigma, hdotted, rfl⟩ | ⟨-, hspecial⟩
  · exact isLowered_lowerChar hsigma hdotted
  · exact isLowered_of_special hspecial

/-! ## Texts -/

/-- Every character that `lowerFrom` gives is lowered. -/
theorem isLowered_of_mem_lowerFrom {before cs : List Char} (h : d ∈ lowerFrom before cs) :
    IsLowered d := by
  -- on the text; what stands before grows by a character at each step
  induction cs generalizing before with
  | nil => cases h
  | cons c after ih =>
    rcases List.mem_append.mp h with h | h
    · exact isLowered_of_mem_lowerAt h
    · exact ih h

/-- Lowered characters stay as they are, whatever stands before them. -/
theorem lowerFrom_of_isLowered {cs : List Char} (h : ∀ c ∈ cs, IsLowered c) (before : List Char) :
    lowerFrom before cs = cs := by
  induction cs generalizing before with
  | nil => rfl
  | cons c after ih =>
    obtain ⟨hpartner, hsigma, hdotted⟩ := h c List.mem_cons_self
    have hrest := ih (fun d hd => h d (List.mem_cons_of_mem c hd)) (c :: before)
    simp [lowerFrom, lowerAt, hsigma, hdotted, hpartner, hrest]

/-- Every character of a text in lower case is lowered. -/
theorem isLowered_of_mem_lower {s : String} (h : d ∈ (lower s).toList) : IsLowered d := by
  rw [toList_lower] at h
  exact isLowered_of_mem_lowerFrom h

/-- A text of lowered characters is its own lower-case form. -/
theorem lower_of_isLowered {s : String} (h : ∀ c ∈ s.toList, IsLowered c) : lower s = s := by
  rw [lower, lowerFrom_of_isLowered h, String.ofList_toList]

/-- **Lower-casing twice is lower-casing once**, for every text. -/
theorem lower_lower (s : String) : lower (lower s) = lower s :=
  lower_of_isLowered fun _ => isLowered_of_mem_lower

end OrmMapping.Text
