import Backlog.Proofs.Time.Order
import Backlog.Store.Basic

/-! # The order of tickets

Of two tickets one is listed before the other (`listedBefore_total`), and the order is transitive
(`listedBefore_trans`), so that the tickets that match a filter are sorted by it (`sorted_matching`); those that
have a rank are in the order of their ranks (`rank_le_of_listedBefore`). What is listed is a stretch of them
(`list_eq_take`). -/

namespace Backlog

variable {t u : Ticket}

/-! ### Of two tickets -/

theorem Ticket.listedBefore_total (t u : Ticket) : (t.listedBefore u || u.listedBefore t) = true := by
  have htime := Instant.atMost_total t.createdAt u.createdAt
  unfold listedBefore
  cases t.rank with
  | none => cases u.rank <;> simp_all
  | some i =>
    cases u.rank with
    | none => rfl
    | some j =>
      rcases Nat.lt_trichotomy i j with hlt | rfl | hlt
      · simp [hlt]
      · simpa using htime
      · simp [hlt]

theorem Ticket.listedBefore_trans (t u v : Ticket) (htu : t.listedBefore u = true) (huv : u.listedBefore v = true) :
    t.listedBefore v = true := by
  have htime := Instant.atMost_trans t.createdAt u.createdAt v.createdAt
  unfold listedBefore at *
  cases ht : t.rank with
  | none => cases hu : u.rank <;> cases hv : v.rank <;> simp_all
  | some i =>
    cases hu : u.rank with
    | none => cases hv : v.rank <;> simp_all
    | some j =>
      cases hv : v.rank with
      | none => rfl
      | some k =>
        simp only [ht, hu, hv, Bool.or_eq_true, Bool.and_eq_true, decide_eq_true_eq, beq_iff_eq] at htu huv ⊢
        rcases htu with hij | ⟨rfl, htu⟩
        · exact Or.inl (by omega)
        · exact huv.imp_right fun h => ⟨h.1, htime htu h.2⟩

/-- Tickets that all have a rank are listed by it. -/
theorem Ticket.rank_le_of_listedBefore {i j : ℕ} (ht : t.rank = some i) (hu : u.rank = some j)
    (h : t.listedBefore u = true) : i ≤ j := by
  unfold listedBefore at h
  simp only [ht, hu, Bool.or_eq_true, Bool.and_eq_true, decide_eq_true_eq, beq_iff_eq] at h
  omega

/-! ### All that match -/

namespace Store

theorem matching_perm (s : Store) (f : Filter) : (s.matching f).Perm (s.tickets.filter f.accepts) :=
  List.mergeSort_perm _ _

theorem sorted_matching (s : Store) (f : Filter) :
    (s.matching f).Pairwise fun t u => t.listedBefore u = true :=
  List.pairwise_mergeSort Ticket.listedBefore_trans Ticket.listedBefore_total _

theorem length_matching (s : Store) (f : Filter) : (s.matching f).length = s.count f :=
  (s.matching_perm f).length_eq

/-- What is listed is a stretch of the tickets that match, if the limit is one. -/
theorem list_eq_take (s : Store) {f : Filter} (hlimit : 0 ≤ f.limit) :
    s.list f = ((s.matching f).drop f.offset.toNat).take f.limit.toNat := by
  rw [list, page, if_neg (by omega)]

end Store

end Backlog
