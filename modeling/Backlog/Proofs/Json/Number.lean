import Backlog.Proofs.Json.Record

/-! # Doubles as literals

What is written for a double is a literal (`whole_ofFloat`): the digits of the shortest decimal that reads back are
not zero unless they stand behind the point (`Proper`), which the search for it and the removal of trailing zeros
keep. Hours that are read back from it survive being written and read (`sound_ofFloat`). -/

namespace Backlog

namespace Decimal

/-- **A decimal that has digits**, or is below one. -/
def Scaled.Proper (s : Scaled) : Prop := 0 < s.digits ∨ s.exponent < 0

theorem digits_pos_of_neighbour? {num den low high : ℕ} {closed : Bool} {e : ℤ} {s : Scaled}
    (h : neighbour? num den low high closed e = some s) : 0 < s.digits := by
  unfold neighbour? at h
  dsimp only at h
  split at h
  · next hbelow _ =>
    cases h
    have := of_decide_eq_true (Bool.and_eq_true_iff.mp hbelow).2
    dsimp only
    split_ifs <;> omega
  · next hbelow _ =>
    cases h
    exact of_decide_eq_true (Bool.and_eq_true_iff.mp hbelow).2
  · cases h
    exact Nat.succ_pos _
  · cases h

theorem proper_searchFrom (num den low high : ℕ) (closed : Bool) (lead : ℤ) (fuel : ℕ) :
    ∀ {n : ℕ}, 0 < n → (searchFrom num den low high closed lead fuel n).Proper := by
  induction fuel with
  | zero =>
    intro n hn
    right
    simp only [searchFrom]
    omega
  | succ fuel ih =>
    intro n hn
    rw [searchFrom]
    cases hs : neighbour? num den low high closed (lead - n + 1) with
    | some s => exact Or.inl (digits_pos_of_neighbour? hs)
    | none => exact ih (Nat.succ_pos n)

theorem Scaled.Proper.strip (fuel : ℕ) : ∀ {s : Scaled}, s.Proper → (Scaled.strip fuel s).Proper := by
  induction fuel with
  | zero => exact fun hs => hs
  | succ fuel ih =>
    intro s hs
    rw [Scaled.strip]
    split_ifs with h
    · refine ih (Or.inl ?_)
      dsimp only
      omega
    · exact hs

theorem proper_shortest (b : Binary) : b.shortest.Proper :=
  (proper_searchFrom _ _ _ _ _ _ _ (by decide)).strip 20

end Decimal

namespace Numeral

open Json (isDigit_of_mem_toDigits)

theorem isDigit_of_mem_zeros {k : ℕ} {d : Char} (hd : d ∈ List.replicate k '0') : d.isDigit = true := by
  rw [List.eq_of_mem_replicate hd]
  rfl

theorem isDigit_of_mem_zero (d : Char) (hd : d ∈ ['0']) : d.isDigit = true := by
  rw [List.mem_singleton.mp hd]
  rfl

theorem literal_ofScaled (negative : Bool) {s : Decimal.Scaled} (hs : s.Proper) :
    (ofScaled negative s).Literal := by
  have hne : Nat.toDigits 10 s.digits ≠ [] := Nat.toDigits_ne_nil
  have hdigit : ∀ d ∈ Nat.toDigits 10 s.digits, d.isDigit = true := fun d hd => isDigit_of_mem_toDigits hd
  have hzero := toDigits_eq_of_head? s.digits
  have hlength : 0 < (Nat.toDigits 10 s.digits).length := List.length_pos_of_ne_nil hne
  have htake {k : ℕ} (hk : 0 < k) : ((Nat.toDigits 10 s.digits).take k).head? =
      (Nat.toDigits 10 s.digits).head? := by
    rw [List.head?_take, if_neg (by omega)]
  unfold ofScaled
  dsimp only
  split_ifs with hwhole hpoint hsmall
  · refine ⟨fun d hd => ?_, by simp [hne], fun hhead => ?_, isDigit_of_mem_zero⟩
    · rcases List.mem_append.mp hd with hd | hd
      · exact hdigit d hd
      · exact isDigit_of_mem_zeros hd
    · -- a leading zero would be the only digit, but there are others then
      rw [List.head?_append_of_ne_nil _ hne] at hhead
      have hvalue := Text.digitsValue_toDigits s.digits
      rw [hzero hhead] at hvalue
      have : s.digits = 0 := hvalue.symm
      rcases hs with h | h <;> omega
  · refine ⟨fun d hd => hdigit d (List.mem_of_mem_take hd), ?_, fun hhead => ?_,
      fun d hd => hdigit d (List.mem_of_mem_drop hd)⟩
    · simp only [ne_eq, List.take_eq_nil_iff, hne, or_false]
      omega
    · rw [htake (by omega)] at hhead
      rw [hzero hhead] at hpoint ⊢
      exact List.take_of_length_le (by simp only [List.length_singleton] at hpoint ⊢; omega)
  · refine ⟨isDigit_of_mem_zero, List.cons_ne_nil _ _, fun _ => rfl, fun d hd => ?_⟩
    rcases List.mem_append.mp hd with hd | hd
    · exact isDigit_of_mem_zeros hd
    · exact hdigit d hd
  · refine ⟨fun d hd => hdigit d (List.mem_of_mem_take hd), by simp [hne], fun hhead => ?_,
      fun d hd => hdigit d (List.mem_of_mem_drop hd)⟩
    rw [htake (by decide)] at hhead
    rw [hzero hhead]
    rfl

end Numeral

namespace Json

/-- **A double is written as a literal**, or not at all. -/
theorem ofFloat_eq (x : Float) : ofFloat x = .null ∨ ∃ n : Numeral, n.Literal ∧ ofFloat x = .number n := by
  rw [ofFloat]
  rcases Decimal.ofDouble? x with _ | ⟨negative, _ | b⟩
  · exact Or.inl rfl
  · exact Or.inr ⟨_,
      ⟨Numeral.isDigit_of_mem_zero, List.cons_ne_nil _ _, fun _ => rfl, Numeral.isDigit_of_mem_zero⟩,
      rfl⟩
  · exact Or.inr ⟨_, Numeral.literal_ofScaled negative (Decimal.proper_shortest b), rfl⟩

theorem whole_ofFloat (x : Float) : (ofFloat x).Whole := by
  rcases ofFloat_eq x with h | ⟨n, hn, h⟩
  · rw [h]
    exact .null
  · rw [h]
    exact .number hn

/-- **A double that documents keep**: it is read back from what is written for it. -/
def Keeps (x : Float) : Prop := readFloat (ofFloat x) = .ok x

theorem sound_ofFloat {d : ℕ} {x : Float} (hx : Keeps x) : Sound d (ofFloat x) := by
  unfold Keeps at hx
  rcases ofFloat_eq x with h | ⟨n, hn, h⟩
  · rw [h] at hx
    cases hx
  · rw [h, readFloat] at hx
    have hrange : n.inRange = true := by
      rw [Numeral.inRange]
      unfold Numeral.toFloat? at hx
      cases hwhole : n.whole? with
      | some i => rfl
      | none =>
        cases hmagnitude : n.magnitude? with
        | some y => rfl
        | none => simp [hwhole, hmagnitude] at hx
    rw [h]
    exact ⟨.number hn, by cases d <;> exact hrange⟩

end Json

end Backlog
