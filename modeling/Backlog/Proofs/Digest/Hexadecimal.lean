import Backlog.Auth.Token
import Backlog.Digest.Sha256
import Mathlib.Data.List.Basic
import Mathlib.Tactic

/-! # Digests in hexadecimal

A digest that writes lower-case hexadecimal digits alone can stand at the end of a token (`Digest.IsHex`):
it has no dot. SHA-256 is one (`isHex_hex`). So is `spelled`, which writes out the code points of a text
and is injective (`spelled_injective`), so that what is shown of injective digests is shown of something. -/

namespace Backlog.Token

open Sha256 (hexWord)

/-- The lower-case hexadecimal digits. -/
def hexDigits : List Char := "0123456789abcdef".toList

/-- **A digest that writes lower-case hexadecimal digits.** -/
def Digest.IsHex (digest : Digest) : Prop := ∀ s, ∀ c ∈ (digest s).toList, c ∈ hexDigits

variable {digest : Digest}

theorem Digest.IsHex.dot_notMem (h : digest.IsHex) (s : String) : '.' ∉ (digest s).toList :=
  fun hdot => absurd (h s _ hdot) (by decide)

/-! ### Words -/

theorem digitChar_mem_hexDigits : ∀ n < 16, Nat.digitChar n ∈ hexDigits := by
  decide

theorem eq_of_digitChar_eq : ∀ m < 16, ∀ n < 16, Nat.digitChar m = Nat.digitChar n → m = n := by
  decide

theorem mem_hexDigits_of_mem_hexWord {w : UInt32} {c : Char} (hc : c ∈ hexWord w) : c ∈ hexDigits := by
  obtain ⟨i, -, rfl⟩ := List.mem_map.mp hc
  exact digitChar_mem_hexDigits _ (Nat.mod_lt _ (by decide))

theorem length_hexWord (w : UInt32) : (hexWord w).length = 8 := by simp [hexWord]

theorem eq_of_digits_eq : ∀ (k : ℕ) {m n : ℕ}, m < 16 ^ k → n < 16 ^ k →
    (∀ i < k, m / 16 ^ i % 16 = n / 16 ^ i % 16) → m = n
  | 0, m, n, hm, hn, _ => by
    rw [Nat.lt_one_iff.mp hm, Nat.lt_one_iff.mp hn]
  | k + 1, m, n, hm, hn, hdigits => by
    rw [pow_succ'] at hm hn
    have hlast : m % 16 = n % 16 := by simpa using hdigits 0 k.succ_pos
    have hrest : m / 16 = n / 16 :=
      eq_of_digits_eq k (Nat.div_lt_of_lt_mul hm) (Nat.div_lt_of_lt_mul hn) fun i hi => by
        rw [Nat.div_div_eq_div_mul, Nat.div_div_eq_div_mul, ← pow_succ']
        exact hdigits (i + 1) (Nat.succ_lt_succ hi)
    rw [← Nat.div_add_mod m 16, ← Nat.div_add_mod n 16, hrest, hlast]

theorem hexWord_injective : Function.Injective hexWord := by
  intro w v h
  refine UInt32.toNat_inj.mp (eq_of_digits_eq 8 w.toNat_lt v.toNat_lt fun i hi => ?_)
  have hplace : 7 - i < 8 := by omega
  have hchar := List.map_inj_left.mp h (7 - i) (List.mem_range.mpr hplace)
  rw [Nat.sub_sub_self (Nat.le_of_lt_succ hi)] at hchar
  exact eq_of_digitChar_eq _ (Nat.mod_lt _ (by decide)) _ (Nat.mod_lt _ (by decide)) hchar

/-! ### Digests -/

/-- **SHA-256 is written in lower-case hexadecimal digits.** -/
theorem isHex_hex : Digest.IsHex Sha256.hex := by
  intro s c hc
  rw [Sha256.hex, String.toList_ofList] at hc
  obtain ⟨w, -, hw⟩ := List.mem_flatMap.mp hc
  exact mem_hexDigits_of_mem_hexWord hw

/-- The code points of a text, eight digits for each. -/
def spelled : Digest := fun s => String.ofList (s.toList.flatMap fun c => hexWord c.val)

theorem isHex_spelled : spelled.IsHex := by
  intro s c hc
  rw [spelled, String.toList_ofList] at hc
  obtain ⟨d, -, hd⟩ := List.mem_flatMap.mp hc
  exact mem_hexDigits_of_mem_hexWord hd

theorem flatMap_hexWord_inj : ∀ {cs ds : List Char},
    (cs.flatMap fun c => hexWord c.val) = (ds.flatMap fun c => hexWord c.val) → cs = ds
  | [], [], _ => rfl
  | [], d :: ds, h | d :: ds, [], h => by
    have hlen := congrArg List.length h
    simp only [List.flatMap_nil, List.flatMap_cons, List.length_append, length_hexWord,
      List.length_nil] at hlen
    omega
  | c :: cs, d :: ds, h => by
    rw [List.flatMap_cons, List.flatMap_cons] at h
    obtain ⟨hword, hrest⟩ := List.append_inj h (by rw [length_hexWord, length_hexWord])
    rw [Char.ext (hexWord_injective hword), flatMap_hexWord_inj hrest]

theorem spelled_injective : Function.Injective spelled :=
  fun _ _ h => String.toList_inj.mp (flatMap_hexWord_inj (String.ofList_injective h))

end Backlog.Token
