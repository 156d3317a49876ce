import FabricArp.Address.Ip
import FabricArp.Proofs.Text.Spelling

namespace FabricArp.Ip

/-- What a text says, or what is wrong with it. -/
inductive Reading : List Char → Except PacketError Ip → Prop where
  | address {a b c d : List Char} {ip : Ip} (first : Text.Spells a ip.a.toNat)
      (second : Text.Spells b ip.b.toNat) (third : Text.Spells c ip.c.toNat)
      (fourth : Text.Spells d ip.d.toNat) :
      Reading (a ++ '.' :: b ++ '.' :: c ++ '.' :: d) (.ok ip)
  | components {text : List Char} (other : text.count '.' ≠ 3) :
      Reading text (.error .addressComponents)
  | range {a b c d : List Char} (whole : ∀ part ∈ [a, b, c, d], '.' ∉ part)
      (bad : ∃ part ∈ [a, b, c, d], ∀ octet : UInt8, ¬Text.Spells part octet.toNat) :
      Reading (a ++ '.' :: b ++ '.' :: c ++ '.' :: d) (.error .octetRange)

variable {text a b c d : List Char} {ip : Ip} {outcome : Except PacketError Ip}

theorem split_eq_four_iff :
    Text.split '.' text = [a, b, c, d] ↔
      text = a ++ '.' :: b ++ '.' :: c ++ '.' :: d ∧ ∀ part ∈ [a, b, c, d], '.' ∉ part := by
  have hjoin : a ++ '.' :: b ++ '.' :: c ++ '.' :: d = Text.join '.' [a, b, c, d] := by
    simp only [Text.join, List.append_assoc, List.cons_append]
  rw [hjoin, Text.split_eq_iff (List.cons_ne_nil _ _)]

theorem exists_split_of_count (h : text.count '.' = 3) :
    ∃ a b c d, Text.split '.' text = [a, b, c, d] := by
  have hlength : (Text.split '.' text).length = 4 := by rw [Text.length_split, h]
  match Text.split '.' text, hlength with
  | [a, b, c, d], _ => exact ⟨a, b, c, d, rfl⟩

theorem ofChars_of_count_ne (h : text.count '.' ≠ 3) :
    ofChars text = .error .addressComponents := by
  rw [ofChars]
  split
  · rename_i hsplit
    have hlength := Text.length_split '.' text
    rw [hsplit] at hlength
    exact absurd (Nat.succ.inj hlength).symm h
  · rfl

section Parts

variable (hsplit : Text.split '.' text = [a, b, c, d])
include hsplit

theorem ofChars_of_octets (ha : Text.octet? a = some ip.a) (hb : Text.octet? b = some ip.b)
    (hc : Text.octet? c = some ip.c) (hd : Text.octet? d = some ip.d) :
    ofChars text = .ok ip := by
  rw [ofChars, hsplit]
  simp only [ha, hb, hc, hd]

theorem ofChars_of_none {part : List Char} (hpart : part ∈ [a, b, c, d])
    (hnone : Text.octet? part = none) : ofChars text = .error .octetRange := by
  rw [ofChars, hsplit]
  dsimp only
  split
  · rename_i ha hb hc hd
    have hsome : ∀ part ∈ [a, b, c, d], Text.octet? part ≠ none := by simp [ha, hb, hc, hd]
    exact absurd hnone (hsome part hpart)
  · rfl

theorem reading_of_split : Reading text (ofChars text) := by
  obtain ⟨htext, hwhole⟩ := split_eq_four_iff.mp hsplit
  rcases Decidable.em (∃ part ∈ [a, b, c, d], Text.octet? part = none) with hbad | hgood
  · obtain ⟨part, hpart, hnone⟩ := hbad
    rw [ofChars_of_none hsplit hpart hnone, htext]
    exact .range hwhole ⟨part, hpart, Text.octet?_eq_none_iff.mp hnone⟩
  · have hsome : ∀ part ∈ [a, b, c, d], ∃ octet, Text.octet? part = some octet := fun part hpart =>
      Option.ne_none_iff_exists'.mp fun hnone => hgood ⟨part, hpart, hnone⟩
    obtain ⟨first, ha⟩ := hsome a (by simp)
    obtain ⟨second, hb⟩ := hsome b (by simp)
    obtain ⟨third, hc⟩ := hsome c (by simp)
    obtain ⟨fourth, hd⟩ := hsome d (by simp)
    have hread : ofChars text = .ok ⟨first, second, third, fourth⟩ :=
      ofChars_of_octets hsplit ha hb hc hd
    rw [hread, htext]
    exact .address (Text.octet?_eq_some_iff.mp ha) (Text.octet?_eq_some_iff.mp hb)
      (Text.octet?_eq_some_iff.mp hc) (Text.octet?_eq_some_iff.mp hd)

end Parts

theorem reading_ofChars (text : List Char) : Reading text (ofChars text) := by
  rcases Decidable.em (text.count '.' = 3) with hthree | hother
  · obtain ⟨a, b, c, d, hsplit⟩ := exists_split_of_count hthree
    exact reading_of_split hsplit
  · rw [ofChars_of_count_ne hother]
    exact .components hother

theorem ofChars_of_reading (h : Reading text outcome) : ofChars text = outcome := by
  cases h with
  | address first second third fourth =>
      have hdot : ∀ {part : List Char} {octet : UInt8}, Text.Spells part octet.toNat →
          '.' ∉ part := fun hspells => hspells.not_mem (by decide) (by decide)
      refine ofChars_of_octets (split_eq_four_iff.mpr ⟨rfl, ?_⟩) (Text.octet?_eq_some_iff.mpr first)
        (Text.octet?_eq_some_iff.mpr second) (Text.octet?_eq_some_iff.mpr third)
        (Text.octet?_eq_some_iff.mpr fourth)
      simp only [List.forall_mem_cons]
      exact ⟨hdot first, hdot second, hdot third, hdot fourth, nofun⟩
  | components other => exact ofChars_of_count_ne other
  | range whole bad =>
      obtain ⟨part, hpart, hbad⟩ := bad
      exact ofChars_of_none (split_eq_four_iff.mpr ⟨rfl, whole⟩) hpart
        (Text.octet?_eq_none_iff.mpr hbad)

/-- A text is read as the address that its four parts between dots spell, or refused for the
number of its parts before any of them is looked at. -/
theorem ofText_eq_iff_reading (text : String) :
    (∀ outcome, ofText text = outcome ↔ Reading text.toList outcome) ∧
    (∀ ip : Ip, ofText ip.text = .ok ip) ∧
    ∀ ip, ofText text = .ok ip → ofText ip.text = ofText text := by
  have hwritten : ∀ ip : Ip, ofText ip.text = .ok ip := by
    intro ip
    rw [ofText, Ip.text, String.toList_ofList, ofChars_toChars]
  refine ⟨?_, hwritten, ?_⟩
  · intro outcome
    constructor
    · rintro rfl
      exact reading_ofChars text.toList
    · exact ofChars_of_reading
  · intro ip hread
    rw [hwritten, hread]

theorem ofText_eq_iff_reading_signed :
    ofText "+010.0.00.+7" = .ok ⟨10, 0, 0, 7⟩ ∧
      Reading "+010.0.00.+7".toList (.ok ⟨10, 0, 0, 7⟩) ∧
      ofText (Ip.text ⟨10, 0, 0, 7⟩) = ofText "+010.0.00.+7" :=
  have hread : ofText "+010.0.00.+7" = .ok ⟨10, 0, 0, 7⟩ := by decide
  ⟨hread, ((ofText_eq_iff_reading _).1 _).mp hread, (ofText_eq_iff_reading _).2.2 _ hread⟩

end FabricArp.Ip
