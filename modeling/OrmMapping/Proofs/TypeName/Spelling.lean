import OrmMapping.Proofs.TypeName.Canonical

/-!
# Ways to declare a type

A type may be declared in any letters, after a package, before an argument list and in space. Each
step to its short name takes away one of these: what stands before the name never opens an argument
list, and the dots of the arguments are gone before the last dot is looked for.

* `Spelling`: a way to declare a type;
* `IsPackage`, `IsArguments`: what may stand before and after a name, and what the steps make of it;
* `IsShort`, `isShort_lowerFrom`: what the name in lower case is like;
* `IsShort.eq_of_steps`: all steps together;
* `Spelling.bareName_text`: the name that is left;
* `Spelling.canonical_text`: all ways have one short name.
-/

namespace OrmMapping.TypeName

open Text

variable {c : Char} {cs name before after front : List Char}

/-- A way to declare the type `t`: in letters of any case, after a package, before an argument list
with space in front of it, and in space. -/
structure Spelling (t : String) where
  name : String
  package : Option String := none
  arguments : Option (String × String) := none
  before : String := ""
  after : String := ""
  same_name : lower name = lower t
  package_plain : ∀ p ∈ package, '(' ∉ p.toList
  arguments_plain : ∀ a ∈ arguments, isBlank a.1 = true ∧ ')' ∉ a.2.toList ∧ '\n' ∉ a.2.toList
  before_blank : isBlank before = true
  after_blank : isBlank after = true

namespace Spelling

variable {t : String}

/-- The package with the dot after it. -/
def packageText (w : Spelling t) : String :=
  w.package.elim "" (· ++ ".")

/-- The argument list in its parentheses, with the space in front. -/
def argumentsText (w : Spelling t) : String :=
  w.arguments.elim "" fun (space, written) => space ++ "(" ++ written ++ ")"

/-- The declared type as it is written. -/
def text (w : Spelling t) : String :=
  w.before ++ w.packageText ++ w.name ++ w.argumentsText ++ w.after

end Spelling

/-! ## Before a name -/

/-- What may stand before a name: nothing, or a text that ends with a dot and opens no argument
list. -/
structure IsPackage (cs : List Char) : Prop where
  ending : cs = [] ∨ ∃ front, cs = front ++ ['.']
  plain : '(' ∉ cs

/-- If `name` has no dot, then it is what follows the last dot after a package. -/
theorem IsPackage.lastSegmentChars (h : IsPackage cs) (hname : '.' ∉ name) :
    Text.lastSegmentChars (cs ++ name) = name := by
  rcases h.ending with rfl | ⟨front, rfl⟩
  · exact lastSegmentChars_of_not_mem hname
  · rw [List.append_assoc, List.singleton_append, lastSegmentChars_append hname]

/-- A package with space `front` before it is still one when that space is dropped, and space of its
own. -/
theorem IsPackage.dropWhile (h : IsPackage cs) (hfront : ∀ c ∈ front, isBlankChar c = true) :
    IsPackage ((front ++ cs).dropWhile isBlankChar) := by
  refine ⟨?_, fun hopen => ?_⟩
  · rcases h.ending with rfl | ⟨package, rfl⟩
    · refine Or.inl (List.dropWhile_eq_nil_iff.mpr ?_)
      rwa [List.append_nil]
    · refine Or.inr ⟨(front ++ package).dropWhile isBlankChar, ?_⟩
      rw [← List.append_assoc, List.dropWhile_append]
      split
      · next hempty =>
        rw [List.isEmpty_iff.mp hempty]
        rfl
      · rfl
  · rcases List.mem_append.mp ((List.dropWhile_sublist _).subset hopen) with hmem | hmem
    · exact absurd (hfront '(' hmem) (by decide)
    · exact h.plain hmem

/-- A package is still one in lower case: its dot stays and no parenthesis comes up. -/
theorem IsPackage.lowerWithin (h : IsPackage cs) (before after : List Char) :
    IsPackage (Text.lowerWithin before cs after) := by
  refine ⟨?_, fun hopen => h.plain (mem_of_mem_lowerWithin (by decide) hopen)⟩
  rcases h.ending with rfl | ⟨front, rfl⟩
  · exact Or.inl rfl
  · -- the dot at the end is lowered already, and what stands before it is a part of its own
    have hdot : ∀ c ∈ ['.'], IsLowered c :=
      List.forall_mem_singleton.mpr (isLowered_of_lt (by decide) (by decide))
    refine Or.inr ⟨Text.lowerWithin before front (['.'] ++ after), ?_⟩
    rw [lowerWithin_append, lowerWithin_of_isLowered hdot]

/-! ## After a name -/

/-- What may stand after a name: nothing, or space and an argument list on one line. -/
def IsArguments (cs : List Char) : Prop :=
  cs = [] ∨ ∃ space written, cs = space ++ ('(' :: (written ++ [')'])) ∧
    (∀ c ∈ space, isBlankChar c = true) ∧ ')' ∉ written ∧ '\n' ∉ written

/-- An argument list is still one in lower case, and on one line. -/
theorem IsArguments.lowerWithin (h : IsArguments cs) (before after : List Char) :
    IsArguments (Text.lowerWithin before cs after) := by
  rcases h with rfl | ⟨space, written, rfl, hspace, hclose, hline⟩
  · exact Or.inl rfl
  · have hopen : IsLowered '(' := isLowered_of_lt (by decide) (by decide)
    have hend : ∀ c ∈ [')'], IsLowered c :=
      List.forall_mem_singleton.mpr (isLowered_of_lt (by decide) (by decide))
    refine Or.inr ⟨space,
      Text.lowerWithin ('(' :: (space.reverse ++ before)) written ([')'] ++ after), ?_, hspace,
      fun hmem => hclose (mem_of_mem_lowerWithin (by decide) hmem),
      fun hmem => hline (mem_of_mem_lowerWithin (by decide) hmem)⟩
    rw [lowerWithin_append, lowerWithin_of_isLowered fun c hc => isLowered_of_blank (hspace c hc),
      Text.lowerWithin, lowerAt_of_isLowered hopen, lowerWithin_append,
      lowerWithin_of_isLowered hend, List.singleton_append]

/-- When argument lists are dropped, only the space in front of the list is left of it. -/
theorem IsArguments.dropArguments (h : IsArguments cs) :
    ∃ space, TypeName.dropArguments false cs = space ∧ ∀ c ∈ space, isBlankChar c = true := by
  rcases h with rfl | ⟨space, written, rfl, hspace, hclose, hline⟩
  · exact ⟨[], rfl, by simp⟩
  · have hopen : '(' ∉ space := fun hmem => absurd (hspace '(' hmem) (by decide)
    refine ⟨space, ?_, hspace⟩
    rw [dropArguments_append hopen, dropArguments_list hclose hline, dropArguments_nil,
      List.append_nil]

/-- A name with inked ends has them also with an argument list after it. -/
theorem IsArguments.hasInkedEnds (h : IsArguments cs) (hname : HasInkedEnds name) :
    HasInkedEnds (name ++ cs) := by
  rcases h with rfl | ⟨space, written, rfl, -⟩
  · rwa [List.append_nil]
  · have hend := hname.append_concat (c := ')') (by decide) (space ++ '(' :: written)
    simpa using hend

/-! ## The name -/

/-- A name in lower case that no step changes. -/
structure IsShort (cs : List Char) : Prop where
  nonempty : cs ≠ []
  ascii : ∀ c ∈ cs, c.toNat < 0x80
  inked : ∀ c ∈ cs, isBlankChar c = false
  undotted : '.' ∉ cs
  unopened : '(' ∉ cs

/-- A plain type name is short in lower case, unless it is empty. -/
theorem isShort_lowerFrom (hne : cs ≠ []) (hchars : ∀ c ∈ cs, isTypeChar c = true) :
    IsShort (lowerFrom [] cs) := by
  -- every character of the lower-case form comes from a type character
  have horigin {d : Char} (hd : d ∈ lowerFrom [] cs) :
      ∃ c, isTypeChar c = true ∧ ∃ front back, d ∈ lowerAt front c back := by
    rw [lowerFrom_eq_lowerWithin] at hd
    obtain ⟨c, hc, hbecomes⟩ := exists_of_mem_lowerWithin hd
    exact ⟨c, hchars c hc, hbecomes⟩
  -- marks come from themselves, so that those which are no type characters are not there
  have hmark {d : Char} (hd : d.toNat < 0x41) (hout : isTypeChar d = false) :
      d ∉ lowerFrom [] cs := by
    intro hmem
    obtain ⟨c, hc, front, back, hbecomes⟩ := horigin hmem
    rw [eq_of_mem_lowerAt hd hbecomes, hout] at hc
    cases hc
  refine ⟨lowerFrom_ne_nil [] hne, fun d hd => ?_, fun d hd => ?_, hmark (by decide) (by decide),
    hmark (by decide) (by decide)⟩
  · obtain ⟨c, hc, front, back, hbecomes⟩ := horigin hd
    exact toNat_lt_of_mem_lowerAt (ascii_inked_of_isTypeChar hc).1 hbecomes
  · obtain ⟨c, hc, front, back, hbecomes⟩ := horigin hd
    exact not_blank_of_mem_lowerAt (ascii_inked_of_isTypeChar hc).2 hbecomes

/-- If `name` is short in lower case, then it has no space at its ends in whatever letters it is
written. -/
theorem IsShort.hasInkedEnds (h : IsShort (lowerFrom [] name)) : HasInkedEnds name := by
  refine hasInkedEnds_of_forall ?_ fun c hc => not_blank_of_lowerFrom h.inked hc
  rintro rfl
  exact h.nonempty rfl

/-! ## All steps -/

/-- Of the whole only the name is left: each step leaves a package before it and space or an
argument list after it. -/
theorem IsShort.eq_of_steps {package arguments : List Char} (h : IsShort (lowerFrom [] name))
    (hbefore : ∀ c ∈ before, isBlankChar c = true) (hpackage : IsPackage package)
    (harguments : IsArguments arguments) (hafter : ∀ c ∈ after, isBlankChar c = true) :
    Text.lastSegmentChars (trimChars (TypeName.dropArguments false (lowerFrom []
      (trimChars (before ++ package ++ (name ++ arguments) ++ after))))) = lowerFrom [] name := by
  have hends := harguments.hasInkedEnds h.hasInkedEnds
  rw [hends.trimChars_append hafter (before ++ package)]
  have htrimmed := hpackage.dropWhile hbefore
  generalize (before ++ package).dropWhile isBlankChar = trimmed at htrimmed
  -- the name is lowered as if it stood alone
  have hname := lowerWithin_of_no_sigma (no_sigma_of_lowerFrom h.ascii) trimmed.reverse arguments
  rw [lowerFrom_eq_lowerWithin, lowerWithin_append, lowerWithin_append, List.append_nil,
    List.append_nil, List.append_nil, hname]
  -- the package, in lower case, is followed by the name and by what is left of the arguments
  have hlowered := htrimmed.lowerWithin [] (name ++ arguments)
  generalize Text.lowerWithin [] trimmed (name ++ arguments) = lowered at hlowered
  obtain ⟨space, hspace, hblank⟩ :=
    (harguments.lowerWithin (name.reverse ++ trimmed.reverse) []).dropArguments
  have hopen : '(' ∉ lowered ++ lowerFrom [] name := fun hmem =>
    (List.mem_append.mp hmem).elim hlowered.plain h.unopened
  have hink : HasInkedEnds (lowerFrom [] name) := hasInkedEnds_of_forall h.nonempty h.inked
  rw [← List.append_assoc, dropArguments_append hopen, hspace,
    hink.trimChars_append hblank lowered]
  have hnothing : ∀ c ∈ ([] : List Char), isBlankChar c = true := by simp
  exact (hlowered.dropWhile hnothing).lastSegmentChars h.undotted

/-! ## Spellings -/

namespace Spelling

variable {t : String}

/-- The parts of a written type, as characters. -/
theorem toList_text (w : Spelling t) : w.text.toList =
    w.before.toList ++ w.packageText.toList ++ (w.name.toList ++ w.argumentsText.toList) ++
      w.after.toList := by
  simp [text]

/-- The package of a spelling may stand before a name. -/
theorem isPackage (w : Spelling t) : IsPackage w.packageText.toList := by
  have hplain := w.package_plain
  unfold packageText
  cases hpackage : w.package with
  | none => exact ⟨Or.inl rfl, by simp⟩
  | some package =>
    have hopen : '(' ∉ package.toList := hplain package hpackage
    exact ⟨Or.inr ⟨package.toList, by simp⟩, by simpa using hopen⟩

/-- The arguments of a spelling may stand after a name. -/
theorem isArguments (w : Spelling t) : IsArguments w.argumentsText.toList := by
  have hplain := w.arguments_plain
  unfold argumentsText
  cases harguments : w.arguments with
  | none => exact Or.inl rfl
  | some arguments =>
    obtain ⟨hspace, hclose, hline⟩ := hplain arguments harguments
    exact Or.inr ⟨arguments.1.toList, arguments.2.toList, by simp, List.all_eq_true.mp hspace,
      hclose, hline⟩

/-- The type alone, as it is. -/
def plain (t : String) : Spelling t where
  name := t
  same_name := rfl
  package_plain := by simp
  arguments_plain := by simp
  before_blank := rfl
  after_blank := rfl

/-- Without a package, arguments and space, the type is written as it is. -/
theorem text_plain (t : String) : (plain t).text = t := by
  simp [text, packageText, argumentsText, plain]

/-- However `t` is declared, its name in lower case is left of it. -/
theorem bareName_text (w : Spelling t) (hne : t ≠ "")
    (hchars : ∀ c ∈ t.toList, isTypeChar c = true) : bareName w.text = lower t := by
  have hlist : t.toList ≠ [] := fun hnil => hne (String.toList_eq_nil_iff.mp hnil)
  have hshort := isShort_lowerFrom hlist hchars
  have hsame : lowerFrom [] w.name.toList = lowerFrom [] t.toList := by
    rw [← toList_lower, ← toList_lower, w.same_name]
  rw [← hsame] at hshort
  apply String.toList_inj.mp
  rw [toList_bareName, w.toList_text, toList_lower, ← hsame]
  exact hshort.eq_of_steps (List.all_eq_true.mp w.before_blank) w.isPackage w.isArguments
    (List.all_eq_true.mp w.after_blank)

/-- However a type is declared, it has the same short name: in letters of any case, in a package,
with arguments and in space. -/
theorem canonical_text (hne : t ≠ "") (hchars : ∀ c ∈ t.toList, isTypeChar c = true)
    (w : Spelling t) : canonical w.text = canonical t := by
  refine canonical_congr ?_
  rw [w.bareName_text hne hchars, ← (plain t).bareName_text hne hchars, text_plain]

/-- A decimal in a package and with arguments that have a dot, a comma and an open parenthesis. -/
def preciseDecimal : Spelling "big_decimal" where
  name := "BIG_Decimal"
  package := some " java . math"
  arguments := some ("\t ", "19, 4.(0")
  before := " \n"
  after := "  "
  same_name := by decide
  package_plain := by decide
  arguments_plain := by decide
  before_blank := by decide
  after_blank := by decide

theorem canonical_text_preciseDecimal :
    "big_decimal" ≠ "" ∧ (∀ c ∈ "big_decimal".toList, isTypeChar c = true) ∧
    preciseDecimal.text = " \n java . math.BIG_Decimal\t (19, 4.(0)  " ∧
    canonical preciseDecimal.text = canonical "big_decimal" :=
  have hchars : ∀ c ∈ "big_decimal".toList, isTypeChar c = true := List.all_eq_true.mp (by decide)
  ⟨by decide, hchars, by decide, canonical_text (by decide) hchars preciseDecimal⟩

end Spelling

end OrmMapping.TypeName
