/-! Decimal numbers below 256 in text, with at most one plus sign in front. -/

namespace FabricArp.Text

def digits? (text : List Char) : Option Nat :=
  if text ≠ [] ∧ text.all Char.isDigit then some (Nat.ofDigitChars 10 text 0) else none

def unsigned : List Char → List Char
  | '+' :: rest => rest
  | text => text

def octet? (text : List Char) : Option UInt8 :=
  match digits? (unsigned text) with
  | some value => if value ≤ 255 then some (UInt8.ofNat value) else none
  | none => none

def ofOctet (octet : UInt8) : List Char :=
  Nat.toDigits 10 octet.toNat

theorem digits?_toDigits (value : Nat) : digits? (Nat.toDigits 10 value) = some value := by
  rw [digits?, if_pos, Nat.ofDigitChars_ten_toDigits]
  refine ⟨Nat.toDigits_ne_nil, ?_⟩
  rw [List.all_eq_true]
  intro digit hdigit
  exact Nat.isDigit_of_mem_toDigits (by decide) (by decide) hdigit

theorem unsigned_of_isDigit {head : Char} {rest : List Char} (h : head.isDigit) :
    unsigned (head :: rest) = head :: rest := by
  unfold unsigned
  split
  · rename_i hplus
    cases hplus
    exact absurd h (by decide)
  · rfl

@[simp] theorem octet?_ofOctet (octet : UInt8) : octet? (ofOctet octet) = some octet := by
  have hunsigned : unsigned (ofOctet octet) = ofOctet octet := by
    cases hdigits : ofOctet octet with
    | nil => exact absurd hdigits Nat.toDigits_ne_nil
    | cons head rest =>
        apply unsigned_of_isDigit
        apply Nat.isDigit_of_mem_toDigits (b := 10) (n := octet.toNat) (by decide) (by decide)
        rw [show Nat.toDigits 10 octet.toNat = head :: rest from hdigits]
        exact List.mem_cons_self
  have hbound := octet.toNat_lt
  rw [octet?, hunsigned, ofOctet, digits?_toDigits]
  simp only
  rw [if_pos (by omega), UInt8.ofNat_toNat]

end FabricArp.Text
