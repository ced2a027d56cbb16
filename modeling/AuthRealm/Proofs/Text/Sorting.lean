/-!
# Names in order

Lists that are sorted by a name, where no name occurs twice: **each name is behind all smaller
ones** (`pairwise_mergeSort_lt`), and there is one such list of given names (`eq_of_pairwise_lt`).
-/

namespace AuthRealm.Text

/-- Sorting by a name that occurs once puts the elements in strictly ascending order. -/
theorem pairwise_mergeSort_lt {α : Type} (name : α → String) {l : List α}
    (distinct : (l.map name).Nodup) :
    (l.mergeSort fun a b ↦ decide (name a ≤ name b)).Pairwise fun a b ↦ name a < name b := by
  have ascending : (l.mergeSort fun a b ↦ decide (name a ≤ name b)).Pairwise fun a b ↦
      decide (name a ≤ name b) = true := by
    refine List.pairwise_mergeSort (fun a b c hab hbc ↦ ?_) (fun a b ↦ ?_) l
    · rw [decide_eq_true_eq] at hab hbc ⊢
      exact String.le_trans hab hbc
    · rw [Bool.or_eq_true, decide_eq_true_eq, decide_eq_true_eq]
      exact String.le_total _ _
  have distinct' : ((l.mergeSort fun a b ↦ decide (name a ≤ name b)).map name).Nodup :=
    ((List.mergeSort_perm l _).map name).nodup_iff.2 distinct
  refine (ascending.and (List.pairwise_map.1 distinct')).imp fun {a b} ordered ↦ ?_
  exact Std.lt_of_le_of_ne (of_decide_eq_true ordered.1) ordered.2

/-- **Names in strictly ascending order are determined by which they are.** -/
theorem eq_of_pairwise_lt {l l' : List String} (ordered : l.Pairwise (· < ·))
    (ordered' : l'.Pairwise (· < ·)) (same : ∀ u, u ∈ l ↔ u ∈ l') : l = l' := by
  have distinct {l : List String} (ordered : l.Pairwise (· < ·)) : l.Nodup :=
    ordered.imp fun less ↦ String.ne_of_lt less
  have perm : l.Perm l' :=
    (List.perm_ext_iff_of_nodup (distinct ordered) (distinct ordered')).2 same
  exact perm.eq_of_pairwise (fun a b _ _ less greater ↦ absurd greater (String.lt_asymm less))
    ordered ordered'

end AuthRealm.Text
