/-! Byte lists with checked access; words are two bytes, high byte first. -/

namespace FabricArp

abbrev Bytes := List UInt8

namespace Bytes

def slice? (bytes : Bytes) (start count : Nat) : Option Bytes :=
  if start + count ≤ bytes.length then some ((bytes.drop start).take count) else none

def overwrite? (bytes : Bytes) (start : Nat) (patch : Bytes) : Option Bytes :=
  if start + patch.length ≤ bytes.length then
    some (bytes.take start ++ patch ++ bytes.drop (start + patch.length))
  else none

def zeros (count : Nat) : Bytes :=
  List.replicate count 0

def ofWord (word : UInt16) : Bytes :=
  [UInt8.ofNat (word.toNat / 256), UInt8.ofNat word.toNat]

def toWord? : Bytes → Option UInt16
  | [high, low] => some (UInt16.ofNat (high.toNat * 256 + low.toNat))
  | _ => none

def hexDigits (byte : UInt8) : List Char :=
  [Nat.digitChar (byte.toNat / 16), Nat.digitChar (byte.toNat % 16)]

@[simp] theorem length_ofWord (word : UInt16) : (ofWord word).length = 2 :=
  rfl

@[simp] theorem toWord?_ofWord (word : UInt16) : toWord? (ofWord word) = some word := by
  have hword := word.toNat_lt
  simp only [ofWord, toWord?, Option.some.injEq]
  apply UInt16.toNat_inj.mp
  simp only [UInt8.toNat_ofNat', UInt16.toNat_ofNat']
  omega

theorem slice?_append {before middle behind : Bytes} {start count : Nat}
    (hstart : before.length = start) (hcount : middle.length = count) :
    slice? (before ++ middle ++ behind) start count = some middle := by
  rw [slice?, if_pos, List.append_assoc, List.drop_left' hstart, List.take_left' hcount]
  simp only [List.length_append]
  omega

theorem slice?_two_iff {bytes : Bytes} {start : Nat} {first second : UInt8} :
    bytes.slice? start 2 = some [first, second] ↔
      bytes[start]? = some first ∧ bytes[start + 1]? = some second := by
  constructor
  · intro h
    have hpair : (bytes.drop start).take 2 = [first, second] := by
      unfold slice? at h
      split at h
      · exact Option.some.inj h
      · cases h
    have hget : ∀ index < 2, bytes[start + index]? = [first, second][index]? := by
      intro index hindex
      rw [← hpair, List.getElem?_take_of_lt hindex, List.getElem?_drop]
    exact ⟨hget 0 (by omega), hget 1 (by omega)⟩
  · rintro ⟨hfirst, hsecond⟩
    obtain ⟨hstart, rfl⟩ := List.getElem?_eq_some_iff.mp hfirst
    obtain ⟨hnext, rfl⟩ := List.getElem?_eq_some_iff.mp hsecond
    rw [slice?, if_pos (Nat.succ_le_of_lt hnext), List.drop_eq_getElem_cons hstart,
      List.drop_eq_getElem_cons hnext]
    rfl

theorem overwrite?_append {before middle behind patch : Bytes} {start : Nat}
    (hstart : before.length = start) (hpatch : patch.length = middle.length) :
    overwrite? (before ++ middle ++ behind) start patch = some (before ++ patch ++ behind) := by
  have hcut : (before ++ middle).length = start + patch.length := by
    rw [List.length_append, hstart, hpatch]
  have hfits : start + patch.length ≤ (before ++ middle ++ behind).length := by
    rw [List.length_append, hcut]
    omega
  have hfront : (before ++ middle ++ behind).take start = before := by
    rw [List.append_assoc, List.take_left' hstart]
  rw [overwrite?, if_pos hfits, List.drop_left' hcut, hfront]

theorem overwrite?_append_right (front rest patch : Bytes) (start : Nat) :
    overwrite? (front ++ rest) (front.length + start) patch =
      (overwrite? rest start patch).map (front ++ ·) := by
  unfold overwrite?
  by_cases hfits : start + patch.length ≤ rest.length
  · have hreach : front.length + start + patch.length ≤ (front ++ rest).length := by
      rw [List.length_append]
      omega
    rw [if_pos hfits, if_pos hreach, List.take_length_add_append, Nat.add_assoc,
      List.drop_length_add_append, Option.map_some, List.append_assoc, List.append_assoc,
      List.append_assoc]
  · have hreach : ¬front.length + start + patch.length ≤ (front ++ rest).length := by
      rw [List.length_append]
      omega
    rw [if_neg hfits, if_neg hreach, Option.map_none]

theorem exists_ofWord {bytes : Bytes} (h : bytes.length = 2) : ∃ word, ofWord word = bytes := by
  match bytes, h with
  | [high, low], _ =>
      have hhigh := high.toNat_lt
      have hlow := low.toNat_lt
      refine ⟨UInt16.ofNat (high.toNat * 256 + low.toNat), ?_⟩
      simp only [ofWord, UInt16.toNat_ofNat', List.cons.injEq, and_true]
      constructor
      · apply UInt8.toNat_inj.mp
        simp only [UInt8.toNat_ofNat']
        omega
      · apply UInt8.toNat_inj.mp
        simp only [UInt8.toNat_ofNat']
        omega

theorem ofWord_injective {left right : UInt16} (h : ofWord left = ofWord right) :
    left = right := by
  have hword := toWord?_ofWord left
  rw [h, toWord?_ofWord] at hword
  exact (Option.some.inj hword).symm

theorem exists_append {bytes : Bytes} {count : Nat} (h : count ≤ bytes.length) :
    ∃ front rest, bytes = front ++ rest ∧ front.length = count :=
  ⟨bytes.take count, bytes.drop count, (List.take_append_drop count bytes).symm,
    List.length_take_of_le h⟩

theorem exists_word {bytes : Bytes} (h : 2 ≤ bytes.length) :
    ∃ word rest, bytes = ofWord word ++ rest := by
  obtain ⟨front, rest, rfl, hfront⟩ := exists_append h
  obtain ⟨word, rfl⟩ := exists_ofWord hfront
  exact ⟨word, rest, rfl⟩

end Bytes

end FabricArp
