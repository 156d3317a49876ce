import FabricArp.Partition.Upkeep

namespace FabricArp

def Carries (links : List Link) (point : Point) : Prop :=
  ∃ link ∈ links, point ∈ link.endpoints

instance (links : List Link) (point : Point) : Decidable (Carries links point) :=
  inferInstanceAs (Decidable (∃ link ∈ links, point ∈ link.endpoints))

@[simp] theorem carries_cons {link : Link} {links : List Link} {point : Point} :
    Carries (link :: links) point ↔ point ∈ link.endpoints ∨ Carries links point := by
  simp [Carries]

theorem carries_of_mem {link : Link} {links : List Link} {point : Point}
    (hlink : link ∈ links) (hpoint : point ∈ link.endpoints) : Carries links point :=
  ⟨link, hlink, hpoint⟩

theorem carries_filter_of_not_mem {link : Link} {links : List Link} {point : Point}
    (hpoint : point ∉ link.endpoints) :
    Carries (links.filter (· ≠ link)) point ↔ Carries links point := by
  constructor
  · rintro ⟨other, hother, hends⟩
    exact ⟨other, (List.mem_filter.mp hother).1, hends⟩
  · rintro ⟨other, hother, hends⟩
    refine ⟨other, List.mem_filter.mpr ⟨hother, ?_⟩, hends⟩
    rw [decide_eq_true_eq]
    rintro rfl
    exact hpoint hends

namespace PortTable

theorem state?_promoteAll (table : PortTable) (targets : List Point) (point : Point) :
    (targets.foldl promote table).state? point =
      if point ∈ targets then (table.state? point).map fun _ => .internal
      else table.state? point := by
  induction targets generalizing table with
  | nil => simp
  | cons target rest ih =>
      rw [List.foldl_cons, ih, state?_promote]
      by_cases hrest : point ∈ rest
      · by_cases htarget : point = target
        · subst htarget
          simp [hrest, Function.comp_def]
        · simp [hrest, htarget]
      · by_cases htarget : point = target
        · subst htarget
          simp [hrest]
        · simp [hrest, htarget]

theorem state?_rebuild (points : List Point) (links : List Link) (point : Point) :
    (rebuild points links).state? point =
      if point ∈ points then
        some (if Carries links point then .internal else .external)
      else none := by
  have hcarries : point ∈ links.flatMap Link.endpoints ↔ Carries links point := by
    rw [List.mem_flatMap, Carries]
  rw [rebuild, state?_promoteAll, toExternal, state?_setAll, state?_empty]
  by_cases hknown : point ∈ points
  · by_cases hlinked : Carries links point
    · simp [hknown, hlinked, hcarries]
    · simp [hknown, hlinked, hcarries]
  · simp [hknown]

theorem state?_rebuild_of_carries {points : List Point} {links : List Link} {point : Point}
    (hknown : point ∈ points) (hlinked : Carries links point) :
    (rebuild points links).state? point = some .internal := by
  rw [state?_rebuild, if_pos hknown, if_pos hlinked]

theorem state?_rebuild_of_free {points : List Point} {links : List Link} {point : Point}
    (hknown : point ∈ points) (hfree : ¬Carries links point) :
    (rebuild points links).state? point = some .external := by
  rw [state?_rebuild, if_pos hknown, if_neg hfree]

theorem state?_rebuild_of_unknown {points : List Point} {links : List Link} {point : Point}
    (hunknown : point ∉ points) : (rebuild points links).state? point = none := by
  rw [state?_rebuild, if_neg hunknown]

theorem state?_rebuild_congr {points otherPoints : List Point} {links otherLinks : List Link}
    {point : Point} (hpoints : point ∈ points ↔ point ∈ otherPoints)
    (hlinks : Carries links point ↔ Carries otherLinks point) :
    (rebuild points links).state? point = (rebuild otherPoints otherLinks).state? point := by
  rw [state?_rebuild, state?_rebuild]
  simp only [hpoints, hlinks]

end PortTable

end FabricArp
