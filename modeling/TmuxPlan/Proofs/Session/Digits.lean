import TmuxPlan.Proofs.Session.Addresses

/-!
The numbers of an address. Leading zeros do not change what a run of digits stands for, and without
them it is how the number is written. So a written number is read as itself.
-/

set_option autoImplicit false

namespace TmuxPlan.Text

/-- The digits without leading zeros; one of them is left if there is nothing else. -/
def bareDigits : List Char → List Char
  | [] => ['0']
  | c :: digits => if c = '0' then bareDigits digits else c :: digits

theorem toDigits_of_isDigit {c : Char} (digit : c.isDigit) :
    c.toNat - '0'.toNat < 10 ∧ Nat.toDigits 10 (c.toNat - '0'.toNat) = [c] := by
  obtain ⟨lower, upper⟩ := Char.isDigit_iff_toNat.mp digit
  have small : c.toNat - '0'.toNat < 10 := by
    have : '9'.toNat = '0'.toNat + 9 := rfl
    omega
  refine ⟨small, ?_⟩
  rw [Nat.toDigits_of_lt_base small, List.singleton_inj, ← Char.toNat_inj,
    Nat.toNat_digitChar_of_lt_ten small]
  exact Nat.add_sub_of_le lower

/-- Behind a positive number every digit stays, a zero as well. -/
theorem toDigits_ofDigitChars {digits : List Char} (all : ∀ c ∈ digits, c.isDigit) {n : Nat}
    (positive : 0 < n) :
    Nat.toDigits 10 (Nat.ofDigitChars 10 digits n) = Nat.toDigits 10 n ++ digits := by
  induction digits generalizing n with
  | nil => rw [Nat.ofDigitChars_nil, List.append_nil]
  | cons c digits inductionHypothesis =>
    obtain ⟨first, later⟩ := List.forall_mem_cons.mp all
    obtain ⟨small, written⟩ := toDigits_of_isDigit first
    have grown : 0 < 10 * n + (c.toNat - '0'.toNat) := by omega
    rw [Nat.ofDigitChars_cons, inductionHypothesis later grown,
      ← Nat.toDigits_append_toDigits (by decide) positive small, written, List.append_assoc,
      List.singleton_append]

theorem toDigits_digitsValue {digits : List Char} (all : ∀ c ∈ digits, c.isDigit) :
    Nat.toDigits 10 (digitsValue digits) = bareDigits digits := by
  induction digits with
  | nil => rfl
  | cons c digits inductionHypothesis =>
    obtain ⟨first, later⟩ := List.forall_mem_cons.mp all
    rw [digitsValue, Nat.ofDigitChars_cons, Nat.mul_zero, Nat.zero_add, bareDigits]
    by_cases zero : c = '0'
    · subst zero
      rw [if_pos rfl]
      exact inductionHypothesis later
    · have positive : 0 < c.toNat - '0'.toNat := by
        have lower := (Char.isDigit_iff_toNat.mp first).1
        have other : c.toNat ≠ '0'.toNat := fun same => zero (Char.toNat_inj.mp same)
        omega
      rw [if_neg zero, toDigits_ofDigitChars later positive, (toDigits_of_isDigit first).2,
        List.singleton_append]

theorem toList_word32Text (word : UInt32) :
    (word32Text word).toList = Nat.toDigits 10 word.toNat :=
  Nat.toList_repr

theorem denotes_word32Text (word : UInt32) : Denotes (word32Text word).toList word := by
  rw [toList_word32Text]
  exact ⟨Nat.toDigits_ne_nil, fun _ => Nat.isDigit_of_mem_toDigits (by decide) (by decide),
    Nat.ofDigitChars_ten_toDigits⟩

theorem Denotes.toList_word32Text {digits : List Char} {word : UInt32}
    (denotes : Denotes digits word) : (word32Text word).toList = bareDigits digits := by
  rw [Text.toList_word32Text, ← denotes.2.2, toDigits_digitsValue denotes.2.1]

end TmuxPlan.Text
