import FabricArp.Network.Inventory
import Mathlib.Data.List.Induction
import Mathlib.Data.List.Nodup

/-! What an inventory lists after any edits; its four lists are of one kind. -/

namespace FabricArp.Inventory

/-- One of the lists of an inventory, with what an edit drops from it and then adds to it. -/
structure Listing (κ α : Type) [DecidableEq κ] where
  entries : Inventory → List α
  key : α → κ
  dropped? : Edit → Option κ
  added? : Edit → Option α
  entries_empty : entries empty = []
  entries_apply : ∀ inventory edit, entries (inventory.apply edit) =
    (entries inventory).filter (fun entry => dropped? edit ≠ some (key entry)) ++
      (added? edit).toList

theorem applyAll_concat (inventory : Inventory) (edits : List Edit) (edit : Edit) :
    inventory.applyAll (edits ++ [edit]) = (inventory.applyAll edits).apply edit := by
  rw [applyAll, List.foldl_append]
  rfl

namespace Listing

variable {κ α : Type} [DecidableEq κ]

section History

variable (listing : Listing κ α)

def Spares (edit : Edit) (entry : α) : Prop :=
  listing.dropped? edit ≠ some (listing.key entry)

instance (edit : Edit) (entry : α) : Decidable (listing.Spares edit entry) :=
  inferInstanceAs (Decidable (listing.dropped? edit ≠ some (listing.key entry)))

def listed (edits : List Edit) : List α :=
  listing.entries (empty.applyAll edits)

/-- The additions that no later edit drops, in the order of the edits. -/
def standing : List Edit → List α
  | [] => []
  | edit :: later =>
      (listing.added? edit).toList.filter
        (fun entry => ∀ next ∈ later, listing.Spares next entry) ++ standing later

def last? (key : κ) (edits : List Edit) : Option Edit :=
  edits.reverse.find? fun edit => listing.dropped? edit = some key

/-- An addition takes the place of what has the same key. -/
def Replacing : Prop :=
  ∀ edit entry, listing.added? edit = some entry → listing.dropped? edit = some (listing.key entry)

theorem entries_applyAll (inventory : Inventory) (edits : List Edit) :
    listing.entries (inventory.applyAll edits) =
      (listing.entries inventory).filter (fun entry => ∀ edit ∈ edits, listing.Spares edit entry) ++
        listing.standing edits := by
  induction edits generalizing inventory with
  | nil => simp [applyAll, standing]
  | cons edit later ih =>
      have hstep : inventory.applyAll (edit :: later) = (inventory.apply edit).applyAll later := rfl
      have hspared : ∀ entry, (decide (∀ next ∈ later, listing.Spares next entry) &&
          decide (listing.dropped? edit ≠ some (listing.key entry))) =
            decide (∀ next ∈ edit :: later, listing.Spares next entry) := by
        intro entry
        rw [← Bool.decide_and, decide_eq_decide, List.forall_mem_cons]
        exact and_comm
      rw [hstep, ih, listing.entries_apply, List.filter_append, List.filter_filter,
        List.append_assoc, standing]
      simp only [hspared]

theorem listed_eq_standing (edits : List Edit) : listing.listed edits = listing.standing edits := by
  rw [listed, entries_applyAll, listing.entries_empty, List.filter_nil, List.nil_append]

end History

variable {listing : Listing κ α} {key : κ} {entry : α} {edit : Edit} {edits : List Edit}

theorem listed_nil : listing.listed [] = [] :=
  listing.entries_empty

theorem listed_concat (edits : List Edit) (edit : Edit) :
    listing.listed (edits ++ [edit]) =
      (listing.listed edits).filter (fun entry => listing.Spares edit entry) ++
        (listing.added? edit).toList := by
  rw [listed, applyAll_concat, listing.entries_apply]
  rfl

theorem last?_concat_of_drops (h : listing.dropped? edit = some key) :
    listing.last? key (edits ++ [edit]) = some edit := by
  rw [last?, List.reverse_concat]
  exact List.find?_cons_of_pos (decide_eq_true h)

theorem last?_concat_of_not_drops (h : listing.dropped? edit ≠ some key) :
    listing.last? key (edits ++ [edit]) = listing.last? key edits := by
  rw [last?, List.reverse_concat]
  exact List.find?_cons_of_neg (by rwa [decide_eq_true_eq])

theorem find?_spared (edit : Edit) (entries : List α) (key : κ) :
    (entries.filter fun entry => listing.Spares edit entry).find?
        (fun entry => listing.key entry = key) =
      if listing.dropped? edit = some key then none
      else entries.find? fun entry => listing.key entry = key := by
  rw [List.find?_filter]
  split
  · rename_i hdrops
    rw [List.find?_eq_none]
    intro entry _ hfound
    obtain ⟨hspared, hkey⟩ := of_decide_eq_true hfound
    exact of_decide_eq_true hspared (hdrops.trans (congrArg some (of_decide_eq_true hkey).symm))
  · rename_i hpasses
    congr 1
    funext entry
    rw [decide_eq_decide, decide_eq_true_eq, decide_eq_true_eq, and_iff_right_iff_imp]
    rintro rfl
    exact hpasses

section Replacing

variable (hreplacing : listing.Replacing)
include hreplacing

theorem find?_added (edit : Edit) (key : κ) :
    (listing.added? edit).toList.find? (fun entry => listing.key entry = key) =
      if listing.dropped? edit = some key then listing.added? edit else none := by
  cases hadded : listing.added? edit with
  | none => exact (ite_self _).symm
  | some entry =>
      rw [hreplacing edit entry hadded, Option.toList_some, List.find?_singleton]
      simp only [decide_eq_true_eq, Option.some.injEq]

theorem nodup_listed (edits : List Edit) : ((listing.listed edits).map listing.key).Nodup := by
  induction edits using List.reverseRecOn with
  | nil =>
      rw [listed_nil]
      exact List.nodup_nil
  | append_singleton edits edit ih =>
      rw [listed_concat, List.map_append]
      refine List.Nodup.append (ih.sublist (List.filter_sublist.map _)) ?_ ?_
      · cases listing.added? edit with
        | none => exact List.nodup_nil
        | some entry => exact List.nodup_singleton _
      · -- What has the key of the addition is dropped before it.
        intro key hleft hadded
        obtain ⟨entry, hentry, rfl⟩ := List.mem_map.mp hleft
        obtain ⟨other, hother, hkey⟩ := List.mem_map.mp hadded
        have hspared : listing.Spares edit entry :=
          of_decide_eq_true (List.mem_filter.mp hentry).2
        refine hspared ?_
        rw [hreplacing edit other (Option.mem_toList.mp hother), hkey]

theorem find?_listed (key : κ) (edits : List Edit) :
    (listing.listed edits).find? (fun entry => listing.key entry = key) =
      (listing.last? key edits).bind listing.added? := by
  induction edits using List.reverseRecOn with
  | nil =>
      rw [listed_nil]
      rfl
  | append_singleton edits edit ih =>
      rw [listed_concat, List.find?_append, find?_spared, find?_added hreplacing]
      by_cases hdrops : listing.dropped? edit = some key
      · rw [if_pos hdrops, if_pos hdrops, last?_concat_of_drops hdrops]
        rfl
      · rw [if_neg hdrops, if_neg hdrops, last?_concat_of_not_drops hdrops, Option.or_none, ih]

theorem find?_listed_iff :
    (listing.listed edits).find? (fun entry => listing.key entry = key) = some entry ↔
      entry ∈ listing.listed edits ∧ listing.key entry = key := by
  constructor
  · intro hfound
    have hkey := List.find?_some hfound
    exact ⟨List.mem_of_find?_eq_some hfound, of_decide_eq_true hkey⟩
  · rintro ⟨hlisted, hkey⟩
    have hsome : ((listing.listed edits).find? fun entry => listing.key entry = key).isSome :=
      List.find?_isSome.mpr ⟨entry, hlisted, decide_eq_true hkey⟩
    obtain ⟨other, hfound⟩ := Option.isSome_iff_exists.mp hsome
    have hother := List.find?_some hfound
    have hsame : listing.key other = listing.key entry :=
      (of_decide_eq_true hother).trans hkey.symm
    rw [hfound, List.inj_on_of_nodup_map (nodup_listed hreplacing edits)
      (List.mem_of_find?_eq_some hfound) hlisted hsame]

end Replacing

def devices : Listing DeviceId (DeviceId × List Port) where
  entries := Inventory.devices
  key := Prod.fst
  dropped?
    | .addDevice device _ | .removeDevice device => some device
    | _ => none
  added?
    | .addDevice device ports => some (device, ports)
    | _ => none
  entries_empty := rfl
  entries_apply := by
    intro inventory edit
    cases edit <;> simp [apply, eq_comm]

def hosts : Listing HostId Host where
  entries := Inventory.hosts
  key := Host.id
  dropped?
    | .addHost host => some host.id
    | _ => none
  added?
    | .addHost host => some host
    | _ => none
  entries_empty := rfl
  entries_apply := by
    intro inventory edit
    cases edit <;> simp [apply, eq_comm]

def bindings : Listing Point Binding where
  entries := Inventory.bindings
  key := Binding.point
  dropped?
    | .addBinding binding => some binding.point
    | _ => none
  added?
    | .addBinding binding => some binding
    | _ => none
  entries_empty := rfl
  entries_apply := by
    intro inventory edit
    cases edit <;> simp [apply, eq_comm]

def links : Listing Link Link where
  entries := Inventory.links
  key := id
  dropped?
    | .removeLink link => some link
    | _ => none
  added?
    | .addLink link => some link
    | _ => none
  entries_empty := rfl
  entries_apply := by
    intro inventory edit
    cases edit <;> simp [apply, eq_comm]

theorem devices_replacing : devices.Replacing := by
  intro edit entry hadded
  cases edit <;> cases hadded
  rfl

theorem hosts_replacing : hosts.Replacing := by
  intro edit entry hadded
  cases edit <;> cases hadded
  rfl

theorem bindings_replacing : bindings.Replacing := by
  intro edit entry hadded
  cases edit <;> cases hadded
  rfl

end Listing

structure Reflects (inventory : Inventory) (edits : List Edit) : Prop where
  devices : inventory.topology.devices = (Listing.devices.standing edits).map Prod.fst
  hosts : inventory.hosts = Listing.hosts.standing edits
  bindings : inventory.topology.bindings = Listing.bindings.standing edits
  links : inventory.topology.links = Listing.links.standing edits
  distinct_devices : inventory.topology.devices.Nodup
  distinct_hosts : (inventory.hosts.map Host.id).Nodup
  distinct_bindings : (inventory.topology.bindings.map Binding.point).Nodup
  ports : ∀ device, inventory.topology.ports device =
    (((Listing.devices.last? device edits).bind Listing.devices.added?).map Prod.snd).getD []
  host? : ∀ id, inventory.topology.host? id =
    (Listing.hosts.last? id edits).bind Listing.hosts.added?
  binding? : ∀ point, inventory.topology.binding? point =
    (Listing.bindings.last? point edits).bind Listing.bindings.added?
  host?_iff : ∀ id host, inventory.topology.host? id = some host ↔
    host ∈ inventory.hosts ∧ host.id = id
  binding?_iff : ∀ point binding, inventory.topology.binding? point = some binding ↔
    binding ∈ inventory.topology.bindings ∧ binding.point = point
  owners : ∀ ip, inventory.topology.hostsByIp ip =
    inventory.hosts.filter fun host => ip ∈ host.addresses
  knows : ∀ ip, inventory.topology.knows ip = true ↔
    ∃ id host, inventory.topology.host? id = some host ∧ ip ∈ host.addresses

theorem knows_iff (inventory : Inventory) (ip : Ip) :
    inventory.topology.knows ip = true ↔ ∃ host ∈ inventory.hosts, ip ∈ host.addresses := by
  rw [Topology.knows, Bool.not_eq_true', List.isEmpty_eq_false_iff_exists_mem]
  change (∃ host, host ∈ inventory.hosts.filter fun host => ip ∈ host.addresses) ↔ _
  simp only [List.mem_filter, decide_eq_true_eq]

/-- After any edits, an inventory lists the additions that still stand, no key twice, and answers
every look-up with what the last edit of the key has added. -/
theorem reflects_applyAll (edits : List Edit) : (empty.applyAll edits).Reflects edits := by
  have hhost?_iff : ∀ id host, (empty.applyAll edits).topology.host? id = some host ↔
      host ∈ (empty.applyAll edits).hosts ∧ host.id = id :=
    fun _ _ => Listing.find?_listed_iff Listing.hosts_replacing
  constructor
  case devices => exact congrArg (List.map Prod.fst) (Listing.devices.listed_eq_standing edits)
  case hosts => exact Listing.hosts.listed_eq_standing edits
  case bindings => exact Listing.bindings.listed_eq_standing edits
  case links => exact Listing.links.listed_eq_standing edits
  case distinct_devices => exact Listing.nodup_listed Listing.devices_replacing edits
  case distinct_hosts => exact Listing.nodup_listed Listing.hosts_replacing edits
  case distinct_bindings => exact Listing.nodup_listed Listing.bindings_replacing edits
  case ports =>
    intro device
    rw [← Listing.find?_listed Listing.devices_replacing device edits]
    rfl
  case host? => exact fun id => Listing.find?_listed Listing.hosts_replacing id edits
  case binding? => exact fun point => Listing.find?_listed Listing.bindings_replacing point edits
  case host?_iff => exact hhost?_iff
  case binding?_iff => exact fun _ _ => Listing.find?_listed_iff Listing.bindings_replacing
  case owners => exact fun _ => rfl
  case knows =>
    intro ip
    rw [knows_iff]
    simp only [hhost?_iff]
    constructor
    · rintro ⟨host, hlisted, howns⟩
      exact ⟨host.id, host, ⟨hlisted, rfl⟩, howns⟩
    · rintro ⟨id, host, ⟨hlisted, -⟩, howns⟩
      exact ⟨host, hlisted, howns⟩

end FabricArp.Inventory
