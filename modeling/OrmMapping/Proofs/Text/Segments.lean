import Mathlib.Data.List.TakeWhile
import OrmMapping.Text.Segments

/-!
# Texts in parts

Joining parts and dividing texts undo one another, up to the separators that the parts have in them:
a joined text is divided at these as well. What follows the last dot of a text does not depend on
what stands before that dot.

* `splitOn_joinWith`, `joinWith_splitOn`, `splitOn_injective`: joining and dividing;
* `exists_append_lastSegmentChars`, `lastSegmentChars_append`: what follows the last dot.
-/

namespace OrmMapping.Text

variable {sep : Char} {cs ds : List Char}

/-! ## Dividing -/

/-- Dividing a text gives at least one part. -/
theorem splitChars_ne_nil (sep : Char) (cs : List Char) : splitChars sep cs ≠ [] := by
  have hnothing : sep ∉ ([] : List Char) := List.not_mem_nil
  obtain ⟨front, last, hsplit, -⟩ := splitChars_append_of_not_mem hnothing cs
  rw [hsplit]
  exact List.append_ne_nil_of_right_ne_nil _ (List.cons_ne_nil _ _)

/-- A separator divides a text whatever stands around it. -/
theorem splitChars_append_cons (sep : Char) (cs ds : List Char) :
    splitChars sep (cs ++ sep :: ds) = splitChars sep cs ++ splitChars sep ds := by
  induction cs with
  | nil => simp [splitChars]
  | cons c rest ih =>
    by_cases hc : c = sep
    · simp [splitChars, hc, ih]
    · cases hrest : splitChars sep rest with
      | nil => exact absurd hrest (splitChars_ne_nil sep rest)
      | cons part parts => simp [splitChars, hc, ih, hrest]

/-- If a separator stands between `s` and `s'`, then their parts follow one another. -/
theorem splitOn_append (s s' : String) :
    splitOn sep (s ++ String.singleton sep ++ s') = splitOn sep s ++ splitOn sep s' := by
  simp [splitOn, splitChars_append_cons]

/-- A text joined of `parts` is divided between the parts and within them. -/
theorem splitOn_joinWith {parts : List String} (h : parts ≠ []) :
    splitOn sep (joinWith (String.singleton sep) parts) = parts.flatMap (splitOn sep) := by
  induction parts with
  | nil => exact absurd rfl h
  | cons part rest ih =>
    cases rest with
    | nil => simp [joinWith]
    | cons next others =>
      have hjoin : joinWith (String.singleton sep) (part :: next :: others) =
          part ++ String.singleton sep ++ joinWith (String.singleton sep) (next :: others) := rfl
      rw [hjoin, splitOn_append, ih (List.cons_ne_nil _ _)]
      rfl

/-- If a text is divided at `sep` and joined again, then it is what it was. -/
theorem joinWith_splitOn (sep : Char) (s : String) :
    joinWith (String.singleton sep) (splitOn sep s) = s := by
  have hchars : ∀ cs, (joinWith (String.singleton sep)
      ((splitChars sep cs).map String.ofList)).toList = cs := by
    intro cs
    induction cs with
    | nil => rfl
    | cons c rest ih =>
      cases hrest : splitChars sep rest with
      | nil => exact absurd hrest (splitChars_ne_nil sep rest)
      | cons part parts =>
        rw [hrest, List.map_cons] at ih
        by_cases hc : c = sep
        · simp [splitChars, hc, hrest, joinWith, ih]
        · -- the character is put in front of the first part
          cases parts with
          | nil => simpa [splitChars, hc, hrest, joinWith] using ih
          | cons next others => simpa [splitChars, hc, hrest, joinWith] using ih
  exact String.toList_inj.mp (hchars s.toList)

/-- If `s` and `s'` have the same parts, then they are the same text. -/
theorem splitOn_injective (sep : Char) {s s' : String} (h : splitOn sep s = splitOn sep s') :
    s = s' := by
  rw [← joinWith_splitOn sep s, h, joinWith_splitOn]

/-! ## The last part -/

/-- There is no dot in what follows the last dot. -/
theorem not_mem_lastSegmentChars (cs : List Char) : '.' ∉ lastSegmentChars cs := by
  intro hmem
  have hdot := List.mem_takeWhile_imp (List.mem_reverse.mp hmem)
  simp at hdot

/-- What follows the last dot of `cs` is all of `cs`, or there is a dot in front of it. -/
theorem exists_append_lastSegmentChars (cs : List Char) :
    lastSegmentChars cs = cs ∨ ∃ front, cs = front ++ '.' :: lastSegmentChars cs := by
  have hwhole : (cs.reverse.dropWhile (· != '.')).reverse ++ lastSegmentChars cs = cs := by
    rw [lastSegmentChars, ← List.reverse_append, List.takeWhile_append_dropWhile,
      List.reverse_reverse]
  cases hfront : cs.reverse.dropWhile (· != '.') with
  | nil =>
    rw [hfront] at hwhole
    exact Or.inl hwhole
  | cons c rest =>
    -- what is left in front, read backwards, begins with the character that stopped the search
    have hdot : c = '.' := by
      have hhead := List.head?_dropWhile_not (· != '.') cs.reverse
      rw [hfront] at hhead
      simpa using hhead
    refine Or.inr ⟨rest.reverse, ?_⟩
    rw [hfront, hdot, List.reverse_cons, List.append_assoc, List.singleton_append] at hwhole
    exact hwhole.symm

/-- A text without a dot follows its last dot as a whole. -/
theorem lastSegmentChars_of_not_mem (h : '.' ∉ cs) : lastSegmentChars cs = cs := by
  rcases exists_append_lastSegmentChars cs with hall | ⟨front, hfront⟩
  · exact hall
  · have hmem : '.' ∈ cs := by
      rw [hfront]
      exact List.mem_append_right _ List.mem_cons_self
    exact absurd hmem h

/-- If `ds` has no dot, then it is what follows the last dot of `cs ++ '.' :: ds`, whatever `cs`
is. -/
theorem lastSegmentChars_append (h : '.' ∉ ds) (cs : List Char) :
    lastSegmentChars (cs ++ '.' :: ds) = ds := by
  have hds : ∀ c ∈ ds.reverse, (c != '.') = true := by
    intro c hc
    rw [bne_iff_ne]
    rintro rfl
    exact h (List.mem_reverse.mp hc)
  rw [lastSegmentChars, List.reverse_append, List.reverse_cons, List.append_assoc,
    List.takeWhile_append_of_pos hds]
  simp

/-- What follows the last dot stands at the end of the text. -/
theorem lastSegmentChars_isSuffix (cs : List Char) : lastSegmentChars cs <:+ cs := by
  rcases exists_append_lastSegmentChars cs with hall | ⟨front, hfront⟩
  · exact ⟨[], hall⟩
  · exact ⟨front ++ ['.'], by rw [List.append_assoc, List.singleton_append, ← hfront]⟩

end OrmMapping.Text
