import Mathlib.Data.List.Lex
import Mathlib.Data.String.Basic
import OrmMapping.Text.Order

/-!
# Sorted lists of names

The order of lists of texts is the linear order by code points, so that there is one way to sort.
What is dropped after sorting has no influence on the rest.

* `charsAtMost_iff`, `atMost_iff`, `allAtMost_iff`: the three orders;
* `filter_mergeSort_append`: sorted lists with further items that are dropped again.
-/

namespace OrmMapping.Text

/-- `charsAtMost` is the lexicographic order of character lists. -/
theorem charsAtMost_iff (cs ds : List Char) : charsAtMost cs ds = true ↔ cs ≤ ds := by
  rw [← not_lt]
  induction cs generalizing ds with
  | nil => simp [charsAtMost]
  | cons c cs ih =>
    cases ds with
    | nil => simp [charsAtMost]
    | cons d ds =>
      rw [charsAtMost, List.cons_lt_cons_iff]
      by_cases hc : c = d
      · subst hc
        simp [ih]
      · have hlt : c.toNat.blt d.toNat = true ↔ c < d := by
          rw [Nat.blt_eq]
          rfl
        simp [hc, Ne.symm hc, hlt, lt_iff_le_and_ne]

/-- `atMost` is the order of strings. -/
theorem atMost_iff (s t : String) : atMost s t = true ↔ s ≤ t := by
  rw [atMost, charsAtMost_iff, String.le_iff_toList_le]

/-- `allAtMost` is the lexicographic order of lists of texts. -/
theorem allAtMost_iff (ss ts : List String) : allAtMost ss ts = true ↔ ss ≤ ts := by
  rw [← not_lt]
  induction ss generalizing ts with
  | nil => simp [allAtMost]
  | cons s ss ih =>
    cases ts with
    | nil => simp [allAtMost]
    | cons t ts =>
      rw [allAtMost, List.cons_lt_cons_iff]
      by_cases hs : s = t
      · subst hs
        simp [ih]
      · have hne : ¬ t = s := Ne.symm hs
        rw [if_neg (by simpa using hs), atMost_iff, ← not_lt]
        simp only [hne, false_and, or_false]

/-- If `xs` and `ys` are sorted and have the same items, then they are the same list. -/
theorem eq_of_perm_of_pairwise {xs ys : List (List String)} (h : xs.Perm ys)
    (hx : xs.Pairwise (allAtMost · · = true)) (hy : ys.Pairwise (allAtMost · · = true)) :
    xs = ys := by
  refine h.eq_of_pairwise (fun a b _ _ hab hba => ?_) hx hy
  rw [allAtMost_iff] at hab hba
  exact le_antisymm hab hba

/-- What `mergeSort` gives is sorted, as `allAtMost` is transitive and total. -/
theorem pairwise_mergeSort (xs : List (List String)) :
    (xs.mergeSort allAtMost).Pairwise (allAtMost · · = true) := by
  refine List.pairwise_mergeSort ?_ ?_ xs
  · intro a b c hab hbc
    rw [allAtMost_iff] at hab hbc ⊢
    exact le_trans hab hbc
  · intro a b
    rw [Bool.or_eq_true, allAtMost_iff, allAtMost_iff]
    exact le_total a b

/-- Items `ys` that `q` drops after sorting do not count, where `q` keeps of `xs` what `p` keeps. -/
theorem filter_mergeSort_append (xs ys : List (List String)) {p q : List String → Bool}
    (hxs : ∀ x ∈ xs, q x = p x) (hys : ∀ y ∈ ys, q y = false) :
    ((xs ++ ys).mergeSort allAtMost).filter q = (xs.mergeSort allAtMost).filter p := by
  -- both sides are sorted and have the items of `xs` that `p` keeps
  have hleft : (((xs ++ ys).mergeSort allAtMost).filter q).Perm (xs.filter p) := by
    have hnone : ys.filter q = [] := List.filter_eq_nil_iff.mpr (by simpa using hys)
    have hfilter : (xs ++ ys).filter q = xs.filter p := by
      rw [List.filter_append, hnone, List.append_nil, List.filter_congr hxs]
    rw [← hfilter]
    exact (List.mergeSort_perm _ _).filter q
  have hright : ((xs.mergeSort allAtMost).filter p).Perm (xs.filter p) :=
    (List.mergeSort_perm _ _).filter p
  exact eq_of_perm_of_pairwise (hleft.trans hright.symm) ((pairwise_mergeSort _).filter _)
    ((pairwise_mergeSort _).filter _)

end OrmMapping.Text
