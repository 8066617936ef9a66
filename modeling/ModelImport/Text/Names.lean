/-!
# Lists of names

Names are listed in increasing order of their code points, which is also the order of their UTF-8 bytes.
-/

namespace ModelImport.Text

/-- Names in increasing order. -/
def sortNames (names : List String) : List String := names.mergeSort fun a b => decide (a ≤ b)

theorem mem_sortNames {names : List String} {name : String} : name ∈ sortNames names ↔ name ∈ names :=
  List.mem_mergeSort

theorem sortNames_perm (names : List String) : (sortNames names).Perm names := List.mergeSort_perm _ _

theorem sortNames_sorted (names : List String) : (sortNames names).Pairwise (· ≤ ·) := by
  have hsorted : (sortNames names).Pairwise fun a b => decide (a ≤ b) = true :=
    List.pairwise_mergeSort (by simpa using fun _ _ _ => String.le_trans) (by simpa using String.le_total) names
  simpa using hsorted

/-- Different names stand in strictly increasing order. -/
theorem sortNames_strict {names : List String} (h : names.Nodup) : (sortNames names).Pairwise (· < ·) := by
  have hnodup : (sortNames names).Nodup := (sortNames_perm names).nodup_iff.2 h
  refine ((sortNames_sorted names).and hnodup).imp ?_
  rintro a b ⟨hle, hne⟩
  exact String.not_le.1 fun hge => hne (String.le_antisymm hle hge)

end ModelImport.Text
