/-! Finite sets kept as strictly ascending lists. -/

namespace FabricArp

/-- Strictly ascending in the order of `compare`, hence without repetition. -/
def Ascending {α : Type} [Ord α] (elements : List α) : Prop :=
  elements.Pairwise fun left right => compare left right = .lt

theorem Ascending.nil {α : Type} [Ord α] : Ascending ([] : List α) :=
  List.Pairwise.nil

/-- An ascending list is determined by its members. -/
theorem Ascending.eq_of_mem_iff {α : Type} [Ord α] [Std.TransOrd α]
    {left right : List α} (hleft : Ascending left) (hright : Ascending right)
    (hmem : ∀ element, element ∈ left ↔ element ∈ right) : left = right := by
  have irreflexive : ∀ {first second : α}, compare first second = .lt → first ≠ second := by
    intro first second hlt heq
    subst heq
    rw [Std.ReflOrd.compare_self] at hlt
    cases hlt
  have antisymmetric : ∀ first second : α, first ∈ left → second ∈ right →
      compare first second = .lt → compare second first = .lt → first = second :=
    fun _ _ _ _ hfirst hsecond => absurd hsecond (Std.OrientedCmp.not_lt_of_lt hfirst)
  exact List.Perm.eq_of_pairwise antisymmetric hleft hright
    ((List.perm_ext_iff_of_nodup (hleft.imp irreflexive)
      (hright.imp irreflexive)).mpr hmem)

structure SortedSet (α : Type) [Ord α] where
  toList : List α
  ascending : Ascending toList
deriving DecidableEq

namespace SortedSet

variable {α : Type} [Ord α]

def empty : SortedSet α := ⟨[], .nil⟩

instance : Membership α (SortedSet α) where
  mem set element := element ∈ set.toList

instance [DecidableEq α] (element : α) (set : SortedSet α) : Decidable (element ∈ set) :=
  inferInstanceAs (Decidable (element ∈ set.toList))

theorem mem_def {element : α} {set : SortedSet α} :
    element ∈ set ↔ element ∈ set.toList :=
  Iff.rfl

def isEmpty (set : SortedSet α) : Bool :=
  set.toList.isEmpty

def insertInto (element : α) : List α → List α
  | [] => [element]
  | head :: rest =>
      match compare element head with
      | .lt => element :: head :: rest
      | .eq => head :: rest
      | .gt => head :: insertInto element rest

theorem mem_insertInto [Std.LawfulEqOrd α] {element candidate : α} {elements : List α} :
    candidate ∈ insertInto element elements ↔ candidate = element ∨ candidate ∈ elements := by
  induction elements with
  | nil => simp [insertInto]
  | cons head rest ih =>
      unfold insertInto
      split
      · simp
      · rename_i heq
        rw [Std.LawfulEqOrd.compare_eq_iff_eq] at heq
        subst heq
        simp
      · rw [List.mem_cons, ih, List.mem_cons]
        exact or_left_comm

theorem ascending_insertInto [Std.TransOrd α] [Std.LawfulEqOrd α] {elements : List α}
    (hascending : Ascending elements) (element : α) :
    Ascending (insertInto element elements) := by
  induction elements with
  | nil => simp [insertInto, Ascending]
  | cons head rest ih =>
      have hcons := List.pairwise_cons.mp hascending
      unfold insertInto
      split
      · rename_i hlt
        refine List.pairwise_cons.mpr ⟨?_, hascending⟩
        intro other hother
        rcases List.mem_cons.mp hother with rfl | hrest
        · exact hlt
        · exact Std.TransCmp.lt_trans hlt (hcons.1 other hrest)
      · exact hascending
      · rename_i hgt
        refine List.pairwise_cons.mpr ⟨?_, ih hcons.2⟩
        intro other hother
        rcases mem_insertInto.mp hother with rfl | hrest
        · exact Std.OrientedCmp.lt_of_gt hgt
        · exact hcons.1 other hrest

variable [Std.TransOrd α] [Std.LawfulEqOrd α]

def insert (set : SortedSet α) (element : α) : SortedSet α :=
  ⟨insertInto element set.toList, ascending_insertInto set.ascending element⟩

def ofList (elements : List α) : SortedSet α :=
  elements.foldl insert empty

@[simp] theorem mem_insert {set : SortedSet α} {element candidate : α} :
    candidate ∈ set.insert element ↔ candidate = element ∨ candidate ∈ set :=
  mem_insertInto

private theorem mem_foldl_insert {elements : List α} {set : SortedSet α} {candidate : α} :
    candidate ∈ elements.foldl insert set ↔ candidate ∈ elements ∨ candidate ∈ set := by
  induction elements generalizing set with
  | nil => simp
  | cons head rest ih =>
      rw [List.foldl_cons, ih, mem_insert, List.mem_cons]
      constructor
      · rintro (hrest | rfl | hset)
        · exact .inl (.inr hrest)
        · exact .inl (.inl rfl)
        · exact .inr hset
      · rintro ((rfl | hrest) | hset)
        · exact .inr (.inl rfl)
        · exact .inl hrest
        · exact .inr (.inr hset)

@[simp] theorem mem_ofList {elements : List α} {candidate : α} :
    candidate ∈ ofList elements ↔ candidate ∈ elements := by
  rw [ofList, mem_foldl_insert]
  simp [mem_def, empty]

omit [Std.LawfulEqOrd α] in
theorem ext_mem {left right : SortedSet α}
    (hmem : ∀ element, element ∈ left ↔ element ∈ right) : left = right := by
  cases left with
  | mk leftList hleft =>
      cases right with
      | mk rightList hright =>
          congr 1
          exact hleft.eq_of_mem_iff hright hmem

theorem toList_ofList_eq_iff {given stored : List α} :
    (ofList given).toList = stored ↔
      Ascending stored ∧ ∀ element, element ∈ stored ↔ element ∈ given := by
  constructor
  · rintro rfl
    exact ⟨(ofList given).ascending, fun _ => mem_ofList⟩
  · rintro ⟨hascending, hmem⟩
    exact (ofList given).ascending.eq_of_mem_iff hascending fun element =>
      mem_ofList.trans (hmem element).symm

theorem ofList_eq_ofList_iff {given others : List α} :
    ofList given = ofList others ↔ ∀ element, element ∈ given ↔ element ∈ others := by
  constructor
  · intro h element
    rw [← mem_ofList, h, mem_ofList]
  · intro hmem
    exact ext_mem fun element => mem_ofList.trans ((hmem element).trans mem_ofList.symm)

end SortedSet

end FabricArp
