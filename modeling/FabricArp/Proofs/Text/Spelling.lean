import FabricArp.Text.Decimal
import FabricArp.Text.Fields
import Mathlib.Data.List.Induction

/-! Every text falls into the parts between its separators in one way only. -/

namespace FabricArp.Text

section Parts

variable {separator : Char} {text front back : List Char} {parts : List (List Char)}

theorem join_cons (separator : Char) (part : List Char) (hne : parts ≠ []) :
    join separator (part :: parts) = part ++ separator :: join separator parts := by
  cases parts with
  | nil => exact absurd rfl hne
  | cons next parts => rfl

theorem join_split (separator : Char) (text : List Char) :
    join separator (split separator text) = text := by
  induction text with
  | nil => rfl
  | cons head rest ih =>
      obtain ⟨part, parts, hparts⟩ := List.exists_cons_of_ne_nil (split_ne_nil separator rest)
      rw [hparts] at ih
      rw [split, hparts]
      split
      · rename_i hhead
        rw [join_cons separator [] (List.cons_ne_nil _ _), ih, hhead, List.nil_append]
      · rw [← ih]
        cases parts <;> rfl

theorem not_mem_of_mem_split {part : List Char} (h : part ∈ split separator text) :
    separator ∉ part := by
  induction text generalizing part with
  | nil =>
      rw [List.mem_singleton.mp h]
      exact List.not_mem_nil
  | cons head rest ih =>
      obtain ⟨first, parts, hparts⟩ := List.exists_cons_of_ne_nil (split_ne_nil separator rest)
      rw [hparts] at ih
      rw [split, hparts] at h
      split at h
      · rcases List.mem_cons.mp h with rfl | hpart
        · exact List.not_mem_nil
        · exact ih hpart
      · rename_i hhead
        rcases List.mem_cons.mp h with rfl | hpart
        · rw [List.mem_cons, not_or]
          exact ⟨Ne.symm hhead, ih List.mem_cons_self⟩
        · exact ih (List.mem_cons_of_mem _ hpart)

theorem split_eq_iff (hne : parts ≠ []) :
    split separator text = parts ↔
      text = join separator parts ∧ ∀ part ∈ parts, separator ∉ part := by
  constructor
  · rintro rfl
    exact ⟨(join_split separator text).symm, fun part => not_mem_of_mem_split⟩
  · rintro ⟨rfl, hparts⟩
    exact split_join hne hparts

theorem length_split (separator : Char) (text : List Char) :
    (split separator text).length = text.count separator + 1 := by
  induction text with
  | nil => rfl
  | cons head rest ih =>
      obtain ⟨part, parts, hparts⟩ := List.exists_cons_of_ne_nil (split_ne_nil separator rest)
      rw [hparts] at ih
      rw [split, hparts]
      split
      · rename_i hhead
        rw [hhead, List.count_cons_self, List.length_cons, ih]
      · rename_i hhead
        rw [List.count_cons_of_ne hhead, ← ih]
        rfl

theorem cut_eq_some_iff :
    cut separator text = (front, some back) ↔
      text = front ++ separator :: back ∧ separator ∉ front := by
  constructor
  · intro h
    induction text generalizing front with
    | nil => cases h
    | cons head rest ih =>
        rw [cut] at h
        split at h
        · rename_i hhead
          cases h
          exact ⟨congrArg (· :: _) hhead, List.not_mem_nil⟩
        · rename_i hhead
          obtain ⟨rfl, hback⟩ := Prod.mk.inj h
          obtain ⟨hrest, hfront⟩ := ih (Prod.ext rfl hback)
          refine ⟨congrArg (head :: ·) hrest, ?_⟩
          rw [List.mem_cons, not_or]
          exact ⟨Ne.symm hhead, hfront⟩
  · rintro ⟨rfl, hfront⟩
    exact cut_append hfront back

theorem fst_cut (separator : Char) (text : List Char) :
    (cut separator text).1 = text.takeWhile (· ≠ separator) := by
  induction text with
  | nil => rfl
  | cons head rest ih =>
      rw [cut, List.takeWhile_cons]
      by_cases hhead : head = separator
      · simp only [hhead, ne_eq, not_true_eq_false, decide_false, ite_true, Bool.false_eq_true,
          ite_false]
      · simp only [hhead, ne_eq, not_false_eq_true, decide_true, ite_false, ite_true, ih]

end Parts

/-- A text of decimal digits, at least one, and its value; leading zeros change nothing. -/
inductive Numeral : List Char → Nat → Prop where
  | digit {digit : Char} (h : digit.isDigit = true) :
      Numeral [digit] (digit.toNat - '0'.toNat)
  | next {text : List Char} {value : Nat} {digit : Char} (front : Numeral text value)
      (h : digit.isDigit = true) :
      Numeral (text ++ [digit]) (10 * value + (digit.toNat - '0'.toNat))

/-- A numeral as it may be written in a field, with a plus sign in front of it or without. -/
inductive Spells : List Char → Nat → Prop where
  | plain {text : List Char} {value : Nat} (numeral : Numeral text value) : Spells text value
  | signed {text : List Char} {value : Nat} (numeral : Numeral text value) :
      Spells ('+' :: text) value

variable {text : List Char} {value : Nat}

namespace Numeral

theorem ne_nil (h : Numeral text value) : text ≠ [] := by
  cases h with
  | digit h => exact List.cons_ne_nil _ _
  | next front h => exact List.append_ne_nil_of_right_ne_nil _ (List.cons_ne_nil _ _)

theorem isDigit_of_mem (h : Numeral text value) {digit : Char} (hmem : digit ∈ text) :
    digit.isDigit = true := by
  induction h with
  | digit h =>
      rw [List.mem_singleton.mp hmem]
      exact h
  | next front h ih =>
      rcases List.mem_append.mp hmem with hfront | hlast
      · exact ih hfront
      · rw [List.mem_singleton.mp hlast]
        exact h

theorem eq_ofDigitChars (h : Numeral text value) : value = Nat.ofDigitChars 10 text 0 := by
  induction h with
  | digit h => rw [Nat.ofDigitChars_cons, Nat.ofDigitChars_nil, Nat.mul_zero, Nat.zero_add]
  | next front h ih =>
      rw [Nat.ofDigitChars_append, ← ih, Nat.ofDigitChars_cons, Nat.ofDigitChars_nil]

theorem of_digits (hne : text ≠ []) (hdigits : ∀ digit ∈ text, digit.isDigit = true) :
    Numeral text (Nat.ofDigitChars 10 text 0) := by
  induction text using List.reverseRecOn with
  | nil => exact absurd rfl hne
  | append_singleton text digit ih =>
      have hdigit : digit.isDigit = true :=
        hdigits digit (List.mem_append_right _ List.mem_cons_self)
      rw [Nat.ofDigitChars_append, Nat.ofDigitChars_cons, Nat.ofDigitChars_nil]
      cases text with
      | nil =>
          rw [Nat.ofDigitChars_nil, Nat.mul_zero, Nat.zero_add]
          exact .digit hdigit
      | cons head rest =>
          exact .next (ih (List.cons_ne_nil _ _) fun other hother =>
            hdigits other (List.mem_append_left _ hother)) hdigit

end Numeral

theorem digits?_eq_some_iff : digits? text = some value ↔ Numeral text value := by
  rw [digits?]
  constructor
  · intro h
    split at h
    · rename_i hdigits
      cases h
      exact .of_digits hdigits.1 (List.all_eq_true.mp hdigits.2)
    · cases h
  · intro h
    have hdigits : text.all Char.isDigit = true :=
      List.all_eq_true.mpr fun digit => h.isDigit_of_mem
    rw [if_pos ⟨h.ne_nil, hdigits⟩, ← h.eq_ofDigitChars]

theorem digits?_unsigned_eq_some_iff :
    digits? (unsigned text) = some value ↔ Spells text value := by
  rw [digits?_eq_some_iff]
  unfold unsigned
  split
  · rename_i rest
    constructor
    · exact .signed
    · intro h
      cases h with
      | plain numeral => exact absurd (numeral.isDigit_of_mem List.mem_cons_self) (by decide)
      | signed numeral => exact numeral
  · rename_i hunsigned
    constructor
    · exact .plain
    · intro h
      cases h with
      | plain numeral => exact numeral
      | signed numeral => exact absurd rfl (hunsigned _)

theorem octet?_eq_some_iff {octet : UInt8} :
    octet? text = some octet ↔ Spells text octet.toNat := by
  have hbound := octet.toNat_lt
  rw [← digits?_unsigned_eq_some_iff, octet?]
  cases digits? (unsigned text) with
  | none => exact iff_of_false (Option.some_ne_none _).symm (Option.some_ne_none _).symm
  | some value =>
      simp only [Option.some.injEq]
      constructor
      · intro h
        split at h
        · rename_i hsmall
          cases h
          exact (UInt8.toNat_ofNat_of_lt' (Nat.lt_succ_of_le hsmall)).symm
        · cases h
      · rintro rfl
        rw [if_pos (by omega), UInt8.ofNat_toNat]

theorem octet?_eq_none_iff : octet? text = none ↔ ∀ octet : UInt8, ¬Spells text octet.toNat := by
  rw [Option.eq_none_iff_forall_ne_some]
  exact forall_congr' fun octet => not_congr octet?_eq_some_iff

theorem Spells.not_mem {other : Char} (h : Spells text value) (hdigit : other.isDigit = false)
    (hsign : other ≠ '+') : other ∉ text := by
  have hnumeral : ∀ {text}, Numeral text value → other ∉ text := by
    intro text numeral hmem
    rw [numeral.isDigit_of_mem hmem] at hdigit
    cases hdigit
  cases h with
  | plain numeral => exact hnumeral numeral
  | signed numeral =>
      rw [List.mem_cons, not_or]
      exact ⟨hsign, hnumeral numeral⟩

end FabricArp.Text
