import Backlog.Auth.Token
import Backlog.Proofs.Digest.Hexadecimal
import Backlog.Proofs.Text.Split

/-! # What signed tokens are worth

A token that was issued is accepted until it expires, whatever the name of its user looks like
(`verify_issue`). With an injective digest nothing else is accepted (`verify_unforgeable`): the parts of a
token can be told apart, because neither the expiry nor the signature has a dot (`verify_append`), and
what was signed can be read off the text that was digested, if either the secret or the rest is known.

The two sides of a comparison agree if no difference was gathered (`sameText_iff`), and a whole number is
read if and only if the text spells one (`wholeNumber?_eq_some`). -/

namespace Backlog.Token

open Backlog.Text

variable {digest : Digest} {secret user expiry signature token : String} {now e : ℤ} {ds : List Char}

/-! ### Comparing -/

theorem foldl_or_eq_zero : ∀ (ps : List (UInt8 × UInt8)) (found : UInt8),
    ps.foldl (fun found p => found ||| (p.1 ^^^ p.2)) found = 0 ↔ found = 0 ∧ ∀ p ∈ ps, p.1 = p.2
  | [], found => by simp
  | p :: ps, found => by
    rw [List.foldl_cons, foldl_or_eq_zero, UInt8.or_eq_zero_iff, UInt8.xor_eq_zero_iff, and_assoc,
      List.forall_mem_cons]

theorem eq_iff_zip {α : Type} : ∀ {a b : List α},
    a = b ↔ a.length = b.length ∧ ∀ p ∈ a.zip b, p.1 = p.2
  | [], [] => by simp
  | [], _ :: _ | _ :: _, [] => by simp
  | x :: a, y :: b => by
    rw [List.cons_eq_cons, eq_iff_zip (a := a), List.zip_cons_cons, List.forall_mem_cons,
      List.length_cons, List.length_cons, Nat.succ_inj]
    exact and_left_comm

theorem sameBytes_iff {a b : List UInt8} : sameBytes a b = true ↔ a = b := by
  rw [sameBytes, Bool.and_eq_true, beq_iff_eq, beq_iff_eq, foldl_or_eq_zero, eq_iff_zip (a := a)]
  simp only [true_and]

theorem sameText_iff {s t : String} : sameText s t = true ↔ s = t := by
  rw [sameText, sameBytes_iff, Array.toList_inj, ← ByteArray.ext_iff]
  exact String.toByteArray_inj

/-! ### Whole numbers -/

/-- **A text spells a whole number** in decimal digits, with or without a sign in front. -/
inductive Spells : List Char → ℤ → Prop where
  | unsigned {ds : List Char} : ds ≠ [] → (∀ d ∈ ds, d.isDigit = true) → Spells ds (digitsValue ds)
  | positive {ds : List Char} : ds ≠ [] → (∀ d ∈ ds, d.isDigit = true) → Spells ('+' :: ds) (digitsValue ds)
  | negative {ds : List Char} : ds ≠ [] → (∀ d ∈ ds, d.isDigit = true) → Spells ('-' :: ds) (-digitsValue ds)

theorem notMem_of_digits {c : Char} (hc : c.isDigit = false) (hds : ∀ d ∈ ds, d.isDigit = true) : c ∉ ds :=
  fun hmem => by rw [hds c hmem] at hc; cases hc

theorem Spells.dot_notMem (h : Spells ds e) : '.' ∉ ds := by
  cases h with
  | unsigned _ hds => exact notMem_of_digits rfl hds
  | positive _ hds | negative _ hds => simpa using notMem_of_digits rfl hds

theorem signedNumber?_eq_some {negative : Bool} : signedNumber? negative ds = some e ↔
    (ds ≠ [] ∧ ∀ d ∈ ds, d.isDigit = true) ∧
      e = (if negative then -(digitsValue ds : ℤ) else digitsValue ds) ∧ fitsSigned64 e = true := by
  have hdigits : (ds.isEmpty || !ds.all Char.isDigit) = true ↔ ¬ (ds ≠ [] ∧ ∀ d ∈ ds, d.isDigit = true) := by
    simp [imp_iff_not_or]
  unfold signedNumber?
  generalize hi : (if negative then -(digitsValue ds : ℤ) else digitsValue ds) = i
  by_cases hbad : (ds.isEmpty || !ds.all Char.isDigit) = true
  · rw [if_pos hbad]
    exact iff_of_false (by simp) fun h => hdigits.mp hbad h.1
  · have hgood := not_not.mp (hdigits.not.mp hbad)
    rw [if_neg hbad]
    by_cases hfits : fitsSigned64 i = true
    · rw [if_pos hfits, Option.some_inj]
      exact ⟨fun he => ⟨hgood, he.symm, he ▸ hfits⟩, fun h => h.2.1.symm⟩
    · rw [if_neg hfits]
      refine iff_of_false (by simp) ?_
      rintro ⟨-, rfl, hfits'⟩
      exact hfits hfits'

/-- **A whole number is read** if and only if the text spells it and it has 64 bits. -/
theorem wholeNumber?_eq_some :
    wholeNumber? expiry = some e ↔ Spells expiry.toList e ∧ fitsSigned64 e = true := by
  unfold wholeNumber?
  generalize expiry.toList = cs
  constructor
  · intro h
    split at h
    all_goals
      obtain ⟨⟨hne, hds⟩, he, hfits⟩ := signedNumber?_eq_some.mp h
      subst he
      refine ⟨?_, hfits⟩
    · exact .negative hne hds
    · exact .positive hne hds
    · exact .unsigned hne hds
  · rintro ⟨hspells, hfits⟩
    cases hspells with
    | unsigned hne hds =>
      -- The first digit is no sign.
      split
      · exact absurd (hds '-' List.mem_cons_self) (by decide)
      · exact absurd (hds '+' List.mem_cons_self) (by decide)
      · exact signedNumber?_eq_some.mpr ⟨⟨hne, hds⟩, rfl, hfits⟩
    | positive hne hds | negative hne hds => exact signedNumber?_eq_some.mpr ⟨⟨hne, hds⟩, rfl, hfits⟩

theorem spells_toString (e : ℤ) : Spells (toString e).toList e := by
  have hdigits : ∀ d ∈ Nat.toDigits 10 e.natAbs, d.isDigit = true := fun d hd =>
    Nat.isDigit_of_mem_toDigits (by decide) (by decide) hd
  rw [toList_toString]
  by_cases hneg : e < 0
  · have hspells := Spells.negative Nat.toDigits_ne_nil hdigits
    rw [digitsValue_toDigits, show -(e.natAbs : ℤ) = e by omega] at hspells
    rwa [if_pos hneg]
  · have hspells := Spells.unsigned Nat.toDigits_ne_nil hdigits
    rw [digitsValue_toDigits, show (e.natAbs : ℤ) = e by omega] at hspells
    rwa [if_neg hneg]

/-! ### Parts -/

theorem toList_dot (s t : String) : (s ++ "." ++ t).toList = s.toList ++ '.' :: t.toList := by
  rw [String.toList_append, String.toList_append, List.append_assoc]
  rfl

/-- **Two texts that are joined by a dot can be told apart** if the second has none. -/
theorem append_dot_inj {s t s' t' : String} (ht : '.' ∉ t.toList) (ht' : '.' ∉ t'.toList) :
    s ++ "." ++ t = s' ++ "." ++ t' ↔ s = s' ∧ t = t' := by
  rw [← String.toList_inj, toList_dot, toList_dot, append_sep_inj ht ht', String.toList_inj, String.toList_inj]

/-- **The parts of a token**: the last two have no dot. -/
theorem parts?_eq_some : parts? token = some (user, expiry, signature) ↔
    token = payload user expiry ++ "." ++ signature ∧ '.' ∉ expiry.toList ∧ '.' ∉ signature.toList := by
  have hjoined : token = payload user expiry ++ "." ++ signature ↔
      token.toList = (user.toList ++ '.' :: expiry.toList) ++ '.' :: signature.toList := by
    rw [← String.toList_inj, toList_dot, payload, toList_dot]
  rw [hjoined]
  unfold parts?
  constructor
  · intro h
    obtain ⟨⟨rest, last⟩, hlast, h⟩ := Option.bind_eq_some_iff.mp h
    obtain ⟨⟨front, middle⟩, hmiddle, h⟩ := Option.bind_eq_some_iff.mp h
    cases h
    obtain ⟨htoken, hnot⟩ := cutLast_eq_some.mp hlast
    obtain ⟨rfl, hnot'⟩ := cutLast_eq_some.mp hmiddle
    simp only [String.toList_ofList]
    exact ⟨htoken, hnot', hnot⟩
  · rintro ⟨htoken, hexpiry, hsignature⟩
    simp only [htoken, cutLast_append hsignature, cutLast_append hexpiry, Option.bind_eq_bind,
      Option.bind_some, String.ofList_toList]

/-- **How a token is judged** by its parts. -/
theorem verify_append (hexpiry : '.' ∉ expiry.toList) (hsignature : '.' ∉ signature.toList) :
    verify digest secret (payload user expiry ++ "." ++ signature) now =
      if user = "" then .error .malformedToken
      else if signature = sign digest secret (payload user expiry) then
        match wholeNumber? expiry with
        | none => .error .malformedExpiry
        | some e => if e ≤ now then .error .expired else .ok user
      else .error .invalidSignature := by
  rw [verify, parts?_eq_some.mpr ⟨rfl, hexpiry, hsignature⟩]
  dsimp only
  by_cases huser : user = ""
  · rw [if_pos huser, if_pos (String.isEmpty_iff.mpr huser)]
  rw [if_neg huser, if_neg (String.isEmpty_iff.not.mpr huser)]
  by_cases hsign : signature = sign digest secret (payload user expiry)
  · rw [if_pos hsign]
    exact if_neg (by simpa using sameText_iff.mpr hsign)
  · rw [if_neg hsign, if_pos (by simpa using sameText_iff.not.mpr hsign)]

theorem dot_notMem_sign (hhex : digest.IsHex) (secret payload : String) :
    '.' ∉ (sign digest secret payload).toList := hhex.dot_notMem _

/-- **What is accepted**: a signed token of a user with a name that is not over yet. -/
theorem verify_eq_ok (hhex : digest.IsHex) : verify digest secret token now = .ok user ↔
    user ≠ "" ∧ ∃ expiry e, Spells expiry.toList e ∧ fitsSigned64 e = true ∧ now < e ∧
      token = payload user expiry ++ "." ++ sign digest secret (payload user expiry) := by
  constructor
  · intro h
    cases hparts : parts? token with
    | none => rw [verify, hparts] at h; cases h
    | some parts =>
      obtain ⟨user', expiry, signature⟩ := parts
      obtain ⟨rfl, hexpiry, hsignature⟩ := parts?_eq_some.mp hparts
      rw [verify_append hexpiry hsignature] at h
      split_ifs at h with huser hsign
      cases hnumber : wholeNumber? expiry with
      | none => rw [hnumber] at h; cases h
      | some e =>
        rw [hnumber] at h
        dsimp only at h
        split_ifs at h with hover
        cases h
        obtain ⟨hspells, hfits⟩ := wholeNumber?_eq_some.mp hnumber
        exact ⟨huser, expiry, e, hspells, hfits, not_le.mp hover, by rw [hsign]⟩
  · rintro ⟨huser, expiry, e, hspells, hfits, hnow, rfl⟩
    rw [verify_append hspells.dot_notMem (dot_notMem_sign hhex _ _), if_neg huser, if_pos rfl,
      wholeNumber?_eq_some.mpr ⟨hspells, hfits⟩]
    exact if_neg (not_le.mpr hnow)

theorem fitsSigned64_toInt (e : Int64) : fitsSigned64 e.toInt = true := by
  have hlow := e.le_toInt
  have hhigh := e.toInt_lt
  rw [fitsSigned64, Bool.and_eq_true, decide_eq_true_eq, decide_eq_true_eq]
  omega

/-- **A token that was issued is accepted until it expires**, whatever the secret, the name of the user and the
digest, if this writes hexadecimal digits. A token for nobody is malformed. -/
theorem verify_issue (hhex : digest.IsHex) (secret user : String) (e : Int64) (now : ℤ) :
    verify digest secret (issue digest secret user e.toInt) now =
      if user = "" then .error .malformedToken
      else if now < e.toInt then .ok user
      else .error .expired := by
  have hspells := spells_toString e.toInt
  rw [issue, verify_append hspells.dot_notMem (dot_notMem_sign hhex _ _), if_pos rfl,
    wholeNumber?_eq_some.mpr ⟨hspells, fitsSigned64_toInt e⟩]
  dsimp only
  by_cases hnow : now < e.toInt
  · rw [if_pos hnow, if_neg (not_le.mpr hnow)]
  · rw [if_neg hnow, if_pos (not_lt.mp hnow)]

theorem verify_issue_dotted :
    Digest.IsHex Sha256.hex ∧
      verify Sha256.hex "k:1" (issue Sha256.hex "k:1" "jane.7.beef" (-5)) (-6) = .ok "jane.7.beef" ∧
      verify Sha256.hex "k:1" (issue Sha256.hex "k:1" "jane.7.beef" (-5)) (-5) = .error .expired :=
  ⟨isHex_hex, verify_issue isHex_hex "k:1" "jane.7.beef" (-5) (-6),
    verify_issue isHex_hex "k:1" "jane.7.beef" (-5) (-5)⟩

/-! ### Forgeries -/

/-- **A text carries a signature** if it ends with it, after a dot. -/
def Carries (token signature : String) : Prop := ∃ front, token = front ++ "." ++ signature

theorem sign_inj (hinj : Function.Injective digest) {p q : String} :
    sign digest secret p = sign digest secret q ↔ p = q := by
  rw [sign, sign, hinj.eq_iff, String.append_left_inj, String.append_left_inj, String.append_right_inj]

theorem eq_of_sign_eq (hinj : Function.Injective digest) {other p : String}
    (h : sign digest other p = sign digest secret p) : other = secret := by
  have htext := congrArg String.toList (hinj h)
  have hlen := congrArg List.length htext
  simp only [String.toList_append, List.append_assoc, List.length_append] at htext hlen
  -- Each secret stands at both ends, so both have the same length.
  exact String.toList_inj.mp (List.append_inj htext (by omega)).1

/-- **A text that is not signed is refused**: nothing in it is followed by its own signature. -/
theorem verify_of_not_signed (h : ∀ p, token ≠ p ++ "." ++ sign digest secret p) (now : ℤ) :
    verify digest secret token now = .error .malformedToken ∨
      verify digest secret token now = .error .invalidSignature := by
  cases hparts : parts? token with
  | none => exact Or.inl (by rw [verify, hparts])
  | some parts =>
    obtain ⟨user, expiry, signature⟩ := parts
    obtain ⟨rfl, hexpiry, hsignature⟩ := parts?_eq_some.mp hparts
    have hunsigned : ¬ signature = sign digest secret (payload user expiry) :=
      fun hsign => h (payload user expiry) (by rw [← hsign])
    rw [verify_append hexpiry hsignature, if_neg hunsigned]
    split_ifs <;> simp

/-- **Tokens cannot be forged**, if the digest is injective and writes hexadecimal digits. What is accepted is a
user with a name, an expiry that lies ahead, and their signature. A text that carries the signature of a token
which was issued and is not this token is refused, and so is a token that was issued under another secret. -/
theorem verify_unforgeable (hhex : digest.IsHex) (hinj : Function.Injective digest) (secret token : String)
    (now : ℤ) :
    (∀ user, verify digest secret token now = .ok user ↔
      user ≠ "" ∧ ∃ expiry e, Spells expiry.toList e ∧ fitsSigned64 e = true ∧ now < e ∧
        token = user ++ "." ++ expiry ++ "." ++
          digest (secret ++ ":" ++ (user ++ "." ++ expiry) ++ ":" ++ secret)) ∧
    (∀ user e, Carries token (sign digest secret (payload user (toString e))) →
      token ≠ issue digest secret user e →
        verify digest secret token now = .error .malformedToken ∨
          verify digest secret token now = .error .invalidSignature) ∧
    (∀ other user e, other ≠ secret → token = issue digest other user e →
      verify digest secret token now = .error .malformedToken ∨
        verify digest secret token now = .error .invalidSignature) := by
  refine ⟨fun user => verify_eq_ok hhex, ?_, ?_⟩
  · rintro user e ⟨front, rfl⟩ hdiffers
    refine verify_of_not_signed (fun p hp => hdiffers ?_) now
    obtain ⟨rfl, hsign⟩ := (append_dot_inj (dot_notMem_sign hhex _ _) (dot_notMem_sign hhex _ _)).mp hp
    rw [← (sign_inj hinj).mp hsign]
    rfl
  · rintro other user e hother rfl
    refine verify_of_not_signed (fun p hp => hother ?_) now
    obtain ⟨rfl, hsign⟩ := (append_dot_inj (dot_notMem_sign hhex _ _) (dot_notMem_sign hhex _ _)).mp hp
    exact eq_of_sign_eq hinj hsign

/-- Jane's token is accepted; it is worth nothing under another name or another secret. -/
theorem verify_unforgeable_jane :
    spelled.IsHex ∧ Function.Injective spelled ∧
      verify spelled "k" (issue spelled "k" "jane" 9) 8 = .ok "jane" ∧
      (verify spelled "k" ("admin.9." ++ sign spelled "k" (payload "jane" "9")) 8 = .error .malformedToken ∨
        verify spelled "k" ("admin.9." ++ sign spelled "k" (payload "jane" "9")) 8 =
          .error .invalidSignature) ∧
      (verify spelled "k" (issue spelled "k:" "jane" 9) 8 = .error .malformedToken ∨
        verify spelled "k" (issue spelled "k:" "jane" 9) 8 = .error .invalidSignature) := by
  refine ⟨isHex_spelled, spelled_injective, ?_, ?_, ?_⟩
  · refine ((verify_unforgeable isHex_spelled spelled_injective "k" _ 8).1 "jane").mpr
      ⟨by decide, "9", 9, spells_toString 9, by decide, by decide, rfl⟩
  · exact (verify_unforgeable isHex_spelled spelled_injective "k" _ 8).2.1 "jane" 9 ⟨"admin.9", rfl⟩
      (by decide +kernel)
  · exact (verify_unforgeable isHex_spelled spelled_injective "k" _ 8).2.2 "k:" "jane" 9 (by decide) rfl

end Backlog.Token
