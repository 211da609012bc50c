import Backlog.Text.Split
import Mathlib.Data.List.Sort
import Mathlib.Data.String.Basic

/-! # Texts in ascending order

The order of texts is transitive and total, so different texts are sorted strictly (`ascending_mergeSort`). -/

namespace Backlog.Text

theorem atMost_trans (p q r : String) (hpq : atMost p q = true) (hqr : atMost q r = true) : atMost p r = true :=
  decide_eq_true (le_trans (of_decide_eq_true hpq) (of_decide_eq_true hqr))

theorem atMost_total (p q : String) : (atMost p q || atMost q p) = true := by
  rcases le_total p q with hle | hle <;> simp [atMost, hle]

/-- **Different texts are sorted strictly.** -/
theorem ascending_mergeSort {ps : List String} (hps : ps.Nodup) : (ps.mergeSort atMost).Pairwise (· < ·) := by
  have hsorted : (ps.mergeSort atMost).Pairwise fun p r => atMost p r = true :=
    List.pairwise_mergeSort atMost_trans atMost_total ps
  have hdistinct : (ps.mergeSort atMost).Nodup := (List.mergeSort_perm ps _).nodup_iff.mpr hps
  refine (hsorted.and hdistinct).imp fun hpq => ?_
  exact lt_of_le_of_ne (of_decide_eq_true hpq.1) hpq.2

end Backlog.Text
