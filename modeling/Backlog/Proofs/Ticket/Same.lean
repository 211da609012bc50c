import Backlog.Proofs.Store.Transaction

/-! # Tickets that are the same when they are compared

Tickets are compared field by field, and hours as numbers: the two zeros are the same, and what is no number is
not even the same as itself (`beq_self_of_number`). So a ticket with hours that are numbers is the same as
what is read back of it (`sameAs_stored`), though zero hours may have lost their sign there. -/

namespace Backlog

open Float.Model (UnpackedFloat)

variable {t u : Ticket} {h : Float} {now : Instant}

/-! ### Hours -/

theorem beq_self_of_number (hnumber : h.isNaN = false) : (h == h) = true := by
  change h.toModel.unpack.isNaN = false at hnumber
  change h.toModel.unpack.beq h.toModel.unpack = true
  cases hu : h.toModel.unpack with
  | notANumber => rw [hu] at hnumber; cases hnumber
  | infinity sign => cases sign <;> rfl
  | zero sign => rfl
  | finite sign m e hm =>
    have hexponent : compare e e = .eq := Std.ReflCmp.compare_self
    have hmantissa : compare m m = .eq := Std.ReflCmp.compare_self
    have hself : (compare e e).then (compare m m) = .eq := by rw [hexponent, hmantissa]; rfl
    cases sign with
    | positive =>
      change (some ((compare e e).then (compare m m)) == some .eq) = true
      rw [hself]
      rfl
    | negative =>
      change (some ((compare e e).then (compare m m)).swap == some .eq) = true
      rw [hself]
      rfl

/-- Whatever is the same as zero is a zero, with or without a sign. -/
theorem exists_zero_of_beq_zero (hzero : (h == 0) = true) : ∃ sign, h.toModel.unpack = .zero sign := by
  have hunpack : (0 : Float).toModel.unpack = .zero .positive := rfl
  change h.toModel.unpack.beq (0 : Float).toModel.unpack = true at hzero
  rw [hunpack] at hzero
  cases hu : h.toModel.unpack with
  | zero sign => exact ⟨sign, rfl⟩
  | notANumber => rw [hu] at hzero; cases hzero
  | infinity sign => rw [hu] at hzero; cases sign <;> cases hzero
  | finite sign m e hm => rw [hu] at hzero; cases sign <;> cases hzero

theorem zero_beq_of_beq_zero (hzero : (h == 0) = true) : ((0 : Float) == h) = true := by
  obtain ⟨sign, hsign⟩ := exists_zero_of_beq_zero hzero
  change (0 : Float).toModel.unpack.beq h.toModel.unpack = true
  rw [hsign]
  rfl

theorem isNaN_storedHours (h : Float) : (storedHours h).isNaN = h.isNaN := by
  unfold storedHours
  split_ifs with hzero
  · obtain ⟨sign, hsign⟩ := exists_zero_of_beq_zero hzero
    change (0 : Float).toModel.unpack.isNaN = h.toModel.unpack.isNaN
    rw [hsign]
    rfl
  · rfl

theorem storedHours_storedHours (h : Float) : storedHours (storedHours h) = storedHours h := by
  by_cases hzero : (h == 0) = true
  · have hstored : storedHours h = 0 := if_pos hzero
    rw [hstored, storedHours, ite_self]
  · have hstored : storedHours h = h := if_neg hzero
    rw [hstored, hstored]

/-- **Hours are read back as the same number.** -/
theorem storedHours_beq (hnumber : h.isNaN = false) : (storedHours h == h) = true := by
  unfold storedHours
  split_ifs with hzero
  · exact zero_beq_of_beq_zero hzero
  · exact beq_self_of_number hnumber

/-! ### Tickets -/

namespace Ticket

/-- A ticket without its hours. -/
def withoutHours (t : Ticket) : Ticket := { t with estimatedHours := 0, actualHours := none }

/-- **Tickets that are the same when they are compared.** -/
structure SameAs (t u : Ticket) : Prop where
  estimatedHours : (t.estimatedHours == u.estimatedHours) = true
  actualHours : (t.actualHours == u.actualHours) = true
  rest : t.withoutHours = u.withoutHours

/-- Hours that can be compared. -/
structure Measured (t : Ticket) : Prop where
  estimatedHours : t.estimatedHours.isNaN = false
  actualHours : ∀ h ∈ t.actualHours, h.isNaN = false

/-- **A ticket is the same as what is read back of it**, if its hours are numbers and its instants are kept. -/
theorem Measured.sameAs_stored (ht : t.Measured) (hcreated : t.createdAt.stored now = t.createdAt)
    (hupdated : t.updatedAt.stored now = t.updatedAt) : (t.stored now).SameAs t where
  estimatedHours := storedHours_beq ht.estimatedHours
  actualHours := by
    show ((t.actualHours.filter fun h => !h.isNaN).map storedHours == t.actualHours) = true
    cases hactual : t.actualHours with
    | none => rfl
    | some h =>
      have hnumber := ht.actualHours h hactual
      rw [Option.filter, if_pos (by simpa using hnumber), Option.map_some]
      exact storedHours_beq hnumber
  rest := by rw [stored, hcreated, hupdated]; rfl

end Ticket

theorem Instant.stored_self (now : Instant) : now.stored now = now := ite_self _

end Backlog
