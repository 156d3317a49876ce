import FabricArp.Collection.SortedSet

/-! Finite maps kept in strictly ascending order of their keys. -/

namespace FabricArp

structure SortedMap (κ ν : Type) [Ord κ] where
  entries : List (κ × ν)
  ascending : Ascending (entries.map Prod.fst)

namespace SortedMap

variable {κ ν : Type} [Ord κ]

def empty : SortedMap κ ν := ⟨[], .nil⟩

def isEmpty (map : SortedMap κ ν) : Bool :=
  map.entries.isEmpty

def size (map : SortedMap κ ν) : Nat :=
  map.entries.length

def lookupIn (key : κ) : List (κ × ν) → Option ν
  | [] => none
  | (head, value) :: rest => if compare key head = .eq then some value else lookupIn key rest

def get? (map : SortedMap κ ν) (key : κ) : Option ν :=
  lookupIn key map.entries

def insertInto (key : κ) (value : ν) : List (κ × ν) → List (κ × ν)
  | [] => [(key, value)]
  | (head, kept) :: rest =>
      match compare key head with
      | .lt => (key, value) :: (head, kept) :: rest
      | .eq => (head, value) :: rest
      | .gt => (head, kept) :: insertInto key value rest

def eraseFrom (key : κ) (entries : List (κ × ν)) : List (κ × ν) :=
  entries.filter fun entry => compare key entry.1 != .eq

theorem keys_insertInto (key : κ) (value : ν) (entries : List (κ × ν)) :
    (insertInto key value entries).map Prod.fst =
      SortedSet.insertInto key (entries.map Prod.fst) := by
  induction entries with
  | nil => rfl
  | cons entry rest ih =>
      rcases entry with ⟨head, kept⟩
      unfold insertInto SortedSet.insertInto
      cases hcompare : compare key head <;> simp [hcompare, ih]

theorem ascending_eraseFrom {entries : List (κ × ν)}
    (hascending : Ascending (entries.map Prod.fst)) (key : κ) :
    Ascending ((eraseFrom key entries).map Prod.fst) :=
  List.Pairwise.sublist (List.filter_sublist.map Prod.fst) hascending

def erase (map : SortedMap κ ν) (key : κ) : SortedMap κ ν :=
  ⟨eraseFrom key map.entries, ascending_eraseFrom map.ascending key⟩

@[simp] theorem get?_empty (key : κ) : (empty : SortedMap κ ν).get? key = none :=
  rfl

variable [Std.LawfulEqOrd κ]

private theorem lookupIn_insertInto_self (key : κ) (value : ν) (entries : List (κ × ν)) :
    lookupIn key (insertInto key value entries) = some value := by
  induction entries with
  | nil => simp [insertInto, lookupIn]
  | cons entry rest ih =>
      rcases entry with ⟨head, kept⟩
      unfold insertInto
      split
      · simp [lookupIn]
      · rename_i heq
        simp [lookupIn, heq]
      · rename_i hgt
        simp [lookupIn, hgt, ih]

private theorem lookupIn_insertInto_of_ne {key other : κ} (hne : other ≠ key) (value : ν)
    (entries : List (κ × ν)) :
    lookupIn other (insertInto key value entries) = lookupIn other entries := by
  induction entries with
  | nil => simp [insertInto, lookupIn, hne]
  | cons entry rest ih =>
      rcases entry with ⟨head, kept⟩
      unfold insertInto
      split
      · simp [lookupIn, hne]
      · rename_i heq
        rw [Std.LawfulEqOrd.compare_eq_iff_eq] at heq
        subst heq
        simp [lookupIn, hne]
      · simp [lookupIn, ih]

private theorem lookupIn_eraseFrom_self (key : κ) (entries : List (κ × ν)) :
    lookupIn key (eraseFrom key entries) = none := by
  induction entries with
  | nil => rfl
  | cons entry rest ih =>
      rcases entry with ⟨head, kept⟩
      unfold eraseFrom at ih ⊢
      by_cases heq : key = head
      · subst heq
        simpa using ih
      · simpa [lookupIn, heq] using ih

private theorem lookupIn_eraseFrom_of_ne {key other : κ} (hne : other ≠ key)
    (entries : List (κ × ν)) :
    lookupIn other (eraseFrom key entries) = lookupIn other entries := by
  induction entries with
  | nil => rfl
  | cons entry rest ih =>
      rcases entry with ⟨head, kept⟩
      unfold eraseFrom at ih ⊢
      by_cases heq : key = head
      · subst heq
        simpa [lookupIn, hne] using ih
      · simp [lookupIn, heq, ih]

private theorem lookupIn_eq_some_iff {key : κ} {value : ν} {entries : List (κ × ν)}
    (hascending : Ascending (entries.map Prod.fst)) :
    lookupIn key entries = some value ↔ (key, value) ∈ entries := by
  induction entries with
  | nil => simp [lookupIn]
  | cons entry rest ih =>
      rcases entry with ⟨head, kept⟩
      have hcons := List.pairwise_cons.mp hascending
      by_cases heq : key = head
      · subst heq
        have habsent : (key, value) ∉ rest := by
          intro hmem
          have hlt := hcons.1 key (List.mem_map_of_mem hmem)
          simp at hlt
        simp [lookupIn, habsent, eq_comm]
      · simp [lookupIn, heq, ih hcons.2]

@[simp] theorem get?_erase_self (map : SortedMap κ ν) (key : κ) :
    (map.erase key).get? key = none :=
  lookupIn_eraseFrom_self key map.entries

theorem get?_erase_of_ne (map : SortedMap κ ν) {key other : κ} (hne : other ≠ key) :
    (map.erase key).get? other = map.get? other :=
  lookupIn_eraseFrom_of_ne hne map.entries

theorem get?_eq_some_iff {map : SortedMap κ ν} {key : κ} {value : ν} :
    map.get? key = some value ↔ (key, value) ∈ map.entries :=
  lookupIn_eq_some_iff map.ascending

variable [Std.TransOrd κ]

def insert (map : SortedMap κ ν) (key : κ) (value : ν) : SortedMap κ ν :=
  ⟨insertInto key value map.entries, by
    rw [keys_insertInto]
    exact SortedSet.ascending_insertInto map.ascending key⟩

@[simp] theorem get?_insert_self (map : SortedMap κ ν) (key : κ) (value : ν) :
    (map.insert key value).get? key = some value :=
  lookupIn_insertInto_self key value map.entries

theorem get?_insert_of_ne (map : SortedMap κ ν) {key other : κ} (hne : other ≠ key)
    (value : ν) : (map.insert key value).get? other = map.get? other :=
  lookupIn_insertInto_of_ne hne value map.entries

theorem ext_get? {left right : SortedMap κ ν}
    (hget : ∀ key, left.get? key = right.get? key) : left = right := by
  have irreflexive : ∀ {first second : κ × ν},
      compare first.1 second.1 = .lt → first ≠ second := by
    intro first second hlt heq
    subst heq
    simp at hlt
  have antisymmetric : ∀ first second : κ × ν,
      first ∈ left.entries → second ∈ right.entries →
      compare first.1 second.1 = .lt → compare second.1 first.1 = .lt → first = second :=
    fun _ _ _ _ hfirst hsecond => absurd hsecond (Std.OrientedCmp.not_lt_of_lt hfirst)
  have hleft := List.pairwise_map.mp left.ascending
  have hright := List.pairwise_map.mp right.ascending
  have hmem : ∀ entry, entry ∈ left.entries ↔ entry ∈ right.entries := by
    rintro ⟨key, value⟩
    rw [← get?_eq_some_iff, ← get?_eq_some_iff, hget]
  have hentries : left.entries = right.entries :=
    List.Perm.eq_of_pairwise antisymmetric hleft hright
      ((List.perm_ext_iff_of_nodup (hleft.imp irreflexive)
        (hright.imp irreflexive)).mpr hmem)
  cases left
  cases right
  congr 1

end SortedMap

end FabricArp
