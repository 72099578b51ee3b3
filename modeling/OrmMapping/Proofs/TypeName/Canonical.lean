import OrmMapping.Proofs.Text.Lowering
import OrmMapping.Proofs.Text.Segments
import OrmMapping.Proofs.TypeName.Arguments

/-!
# Short names of short names

A short name stands for itself when no space is left around it. What stands after the last dot of a
declared type is not trimmed again: where it begins with space no alias is found, and the space goes
only when the name that comes out is brought down once more. After that nothing changes any more.

* `Bare`, `bare_bareName`: what is left of a declared type;
* `Bare.bareName_eq`: what is left of that;
* `isTypeChar`, `bareName_of_plain`: plain names, such as those of the table;
* `canonical_cases`: a short name is one of the table, or what is left of the declared type;
* `canonical_canonical_iff`: when short names stand for themselves.
-/

namespace OrmMapping.TypeName

variable {c : Char} {name raw : String}

/-! ## Plain names -/

/-- The characters of plain type names. -/
def isTypeChar (c : Char) : Bool :=
  c.isAlphanum || c == '_' || c == '-' || c == '[' || c == ']'

/-- The characters of plain names are in ASCII and no space. -/
theorem ascii_inked_of_isTypeChar (h : isTypeChar c = true) :
    c.toNat < 0x80 ∧ Text.isBlankChar c = false := by
  simp only [isTypeChar, Bool.or_eq_true, beq_iff_eq] at h
  rcases h with (((halphanum | rfl) | rfl) | rfl) | rfl
  · refine ⟨?_, Text.not_blank_of_isAlphanum halphanum⟩
    rw [Text.isAlphanum_iff, Text.isUpper_iff, Text.isLower_iff, Text.isDigit_iff] at halphanum
    omega
  all_goals decide

/-! ## What is left of a declared type -/

/-- A text in lower case without dots and argument lists. -/
structure Bare (name : String) : Prop where
  lowered : ∀ c ∈ name.toList, Text.IsLowered c
  undotted : '.' ∉ name.toList
  plain : NoArguments name.toList

/-- `bareName` as steps on characters: trim, lower, drop arguments, trim, and keep what follows the
last dot. -/
theorem toList_bareName (raw : String) :
    (bareName raw).toList = Text.lastSegmentChars (Text.trimChars
      (dropArguments false (Text.lowerFrom [] (Text.trimChars raw.toList)))) := by
  simp [bareName, Text.lastSegment]

/-- If `name` is bare, then so is every stretch of it. -/
theorem Bare.of_isInfix {part : String} (h : Bare name) (hpart : part.toList <:+: name.toList) :
    Bare part where
  lowered := fun c hc => h.lowered c (hpart.subset hc)
  undotted := fun hdot => h.undotted (hpart.subset hdot)
  plain := h.plain.of_isInfix hpart

/-- If `name` is bare, then so is what trimming leaves of it. -/
theorem Bare.trim (h : Bare name) : Bare (Text.trim name) := by
  refine h.of_isInfix ?_
  rw [Text.toList_trim]
  exact Text.trimChars_isInfix name.toList

/-- What is left of any declared type is bare. -/
theorem bare_bareName (raw : String) : Bare (bareName raw) := by
  -- each later step keeps a stretch of what was lowered and freed of arguments
  have hpart : (bareName raw).toList <:+:
      dropArguments false (Text.lowerFrom [] (Text.trimChars raw.toList)) := by
    rw [toList_bareName]
    exact (Text.lastSegmentChars_isSuffix _).isInfix.trans (Text.trimChars_isInfix _)
  refine ⟨fun c hc => ?_, ?_, (noArguments_dropArguments _ _).of_isInfix hpart⟩
  · exact Text.isLowered_of_mem_lowerFrom (mem_of_mem_dropArguments (hpart.subset hc))
  · rw [toList_bareName]
    exact Text.not_mem_lastSegmentChars _

/-- If `name` is bare, then all that `bareName` takes away from it is the space around it. -/
theorem Bare.bareName_eq (h : Bare name) : bareName name = Text.trim name := by
  have htrim := h.trim
  have htoList := Text.toList_trim name
  apply String.toList_inj.mp
  rw [toList_bareName, ← htoList, Text.lowerFrom_of_isLowered htrim.lowered,
    dropArguments_of_noArguments htrim.plain, htoList, Text.trimChars_trimChars, ← htoList,
    Text.lastSegmentChars_of_not_mem htrim.undotted]

/-- A name of plain characters without capitals is left as it is. -/
theorem bareName_of_plain
    (h : ∀ c ∈ name.toList, isTypeChar c = true ∧ c.isUpper = false) : bareName name = name := by
  -- a character that is no type character cannot be in the name
  have hmark {c : Char} (hout : isTypeChar c = false) : c ∉ name.toList := by
    intro hmem
    rw [(h c hmem).1] at hout
    cases hout
  have hbare : Bare name := by
    refine ⟨fun c hc => ?_, hmark (by decide), noArguments_of_not_mem (hmark (by decide))⟩
    obtain ⟨htype, hupper⟩ := h c hc
    refine Text.isLowered_of_lt (ascii_inked_of_isTypeChar htype).1 fun hcapital => ?_
    rw [Text.isUpper_iff.mpr hcapital] at hupper
    cases hupper
  apply String.toList_inj.mp
  rw [hbare.bareName_eq, Text.toList_trim,
    Text.trimChars_of_forall fun c hc => (ascii_inked_of_isTypeChar (h c hc).1).2]

/-! ## Short names -/

/-- The short names of the table, with the one that stands for no name. -/
def shortNames : List String :=
  standard :: aliases.map (·.2)

/-- The short name depends on what `bareName` leaves only. -/
theorem canonical_congr {raw raw' : String} (h : bareName raw = bareName raw') :
    canonical raw = canonical raw' := by
  simp only [canonical, h]

section Table

variable {table : List (String × String)} {short : String}

/-- What `lookup` finds is a right side of the table. -/
theorem mem_of_lookup (h : table.lookup name = some short) : short ∈ table.map (·.2) := by
  obtain ⟨front, back, rfl, -⟩ := List.lookup_eq_some_iff.mp h
  simp

/-- A name that is no left side of the table is not found. -/
theorem lookup_eq_none (h : name ∉ table.map (·.1)) : table.lookup name = none := by
  refine List.lookup_eq_none_iff.mpr fun entry hentry => ?_
  rw [bne_iff_ne]
  rintro rfl
  exact h (List.mem_map_of_mem hentry)

end Table

/-- A short name is one of the table, or what is left of the declared type. -/
theorem canonical_cases (raw : String) :
    canonical raw ∈ shortNames ∨ canonical raw = bareName raw := by
  cases hlookup : aliases.lookup (bareName raw) with
  | none =>
    simp only [canonical, hlookup, Option.getD_none]
    split
    · exact Or.inl List.mem_cons_self
    · exact Or.inr rfl
  | some short =>
    have hmem := mem_of_lookup hlookup
    simp only [canonical, hlookup, Option.getD_some]
    split
    · exact Or.inl List.mem_cons_self
    · exact Or.inl (List.mem_cons_of_mem _ hmem)

/-- Both sides of each entry of `aliases` are left as they are by `bareName`. -/
theorem bareName_of_mem_aliases {entry : String × String} (h : entry ∈ aliases) :
    bareName entry.1 = entry.1 ∧ bareName entry.2 = entry.2 := by
  have hall : (aliases.all fun entry => (entry.1.toList ++ entry.2.toList).all fun c =>
      isTypeChar c && !c.isUpper) = true := by
    decide +kernel
  have hplain := List.all_eq_true.mp hall entry h
  simp only [List.all_append, Bool.and_eq_true, List.all_eq_true, Bool.not_eq_true'] at hplain
  exact ⟨bareName_of_plain hplain.1, bareName_of_plain hplain.2⟩

/-- The short names of the table are left as they are by `bareName`. -/
theorem bareName_of_mem_shortNames {short : String} (h : short ∈ shortNames) :
    bareName short = short := by
  have hstandard : standard ∈ aliases.map (·.2) := by decide
  have hmem : short ∈ aliases.map (·.2) :=
    (List.mem_cons.mp h).elim (fun heq => heq ▸ hstandard) id
  obtain ⟨entry, hentry, rfl⟩ := List.mem_map.mp hmem
  exact (bareName_of_mem_aliases hentry).2

/-- A short name of the table is no alias of another one, and not empty. -/
theorem lookup_of_mem_shortNames {short : String} (h : short ∈ shortNames) :
    (aliases.lookup short).getD short = short ∧ short.isEmpty = false := by
  have hall : (shortNames.all fun short =>
      (aliases.lookup short).getD short == short && !short.isEmpty) = true := by
    decide +kernel
  simpa using List.all_eq_true.mp hall short h

/-- A short name of the table stands for itself. -/
theorem canonical_of_mem_shortNames {short : String} (h : short ∈ shortNames) :
    canonical short = short := by
  obtain ⟨hlookup, hne⟩ := lookup_of_mem_shortNames h
  simp [canonical, bareName_of_mem_shortNames h, hlookup, hne]

/-- If `bareName` leaves `name` as it is, then there is no space around it. -/
theorem trim_of_bareName (h : bareName name = name) : Text.trim name = name := by
  have hbare := bare_bareName name
  rw [h] at hbare
  rw [← hbare.bareName_eq, h]

/-- If what is left of `raw` has space around it, then it is no alias and comes out as it is. -/
theorem canonical_of_spaced (h : Text.trim (bareName raw) ≠ bareName raw) :
    canonical raw = bareName raw := by
  have hlookup : aliases.lookup (bareName raw) = none := by
    refine lookup_eq_none fun hknown => h ?_
    obtain ⟨entry, hentry, hname⟩ := List.mem_map.mp hknown
    rw [← hname]
    exact trim_of_bareName (bareName_of_mem_aliases hentry).1
  have hne : (bareName raw).isEmpty = false := by
    cases hempty : (bareName raw).isEmpty with
    | false => rfl
    | true =>
      rw [String.isEmpty_iff.mp hempty] at h
      exact absurd (by decide) h
  simp [canonical, hlookup, hne]

/-- A short name stands for itself exactly when the name that is left of the declared type has no
space around it. If it does not, its own short name does. -/
theorem canonical_canonical_iff (raw : String) :
    (canonical (canonical raw) = canonical raw ↔ Text.trim (bareName raw) = bareName raw) ∧
    canonical (canonical (canonical raw)) = canonical (canonical raw) := by
  have hiff : ∀ raw, canonical (canonical raw) = canonical raw ↔
      Text.trim (bareName raw) = bareName raw := by
    intro raw
    -- brought down a second time, what is left loses the space around it and nothing else
    have hagain : bareName (bareName raw) = Text.trim (bareName raw) :=
      (bare_bareName raw).bareName_eq
    constructor
    · -- spaced, it would come out unchanged the first time and trimmed the second
      intro hsame
      by_contra hspaced
      rw [canonical_of_spaced hspaced] at hsame
      rcases canonical_cases (bareName raw) with hshort | hbare
      · rw [hsame] at hshort
        exact hspaced (trim_of_bareName (bareName_of_mem_shortNames hshort))
      · rw [hsame, hagain] at hbare
        exact hspaced hbare.symm
    · intro htrim
      rcases canonical_cases raw with hshort | hbare
      · exact canonical_of_mem_shortNames hshort
      · rw [hbare, ← hbare]
        refine canonical_congr ?_
        rw [hbare, hagain, htrim]
  refine ⟨hiff raw, (hiff (canonical raw)).mpr ?_⟩
  rcases canonical_cases raw with hshort | hbare
  · have hname := bareName_of_mem_shortNames hshort
    rw [hname, trim_of_bareName hname]
  · rw [hbare, (bare_bareName raw).bareName_eq]
    apply String.toList_inj.mp
    simp only [Text.toList_trim, Text.trimChars_trimChars]

/-- The name left of `java.sql. Timestamp` begins with space. -/
theorem canonical_not_idempotent : ¬ ∀ raw, canonical (canonical raw) = canonical raw := by
  intro h
  have hspaced : canonical "java.sql. Timestamp" = " timestamp" := by decide
  have hagain : canonical " timestamp" = "timestamp" := by decide
  have hsame := h "java.sql. Timestamp"
  rw [hspaced, hagain] at hsame
  revert hsame
  decide

end OrmMapping.TypeName
