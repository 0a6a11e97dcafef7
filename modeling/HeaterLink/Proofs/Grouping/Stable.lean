import HeaterLink.Proofs.Grouping

/-!
# Groups in a row

One behind the other, in the order of their zones, the groups are a stable sort:
the heaters that name a zone, by zone, and those of one zone as they came. A
list in the order of its keys is determined by what it holds under each key, and
under a zone both hold the heaters of that zone.

## Main definitions

* `Heater.sortedByZone`, the stable sort by zone.
* `Heater.Partitions`, groups that lose, add and reorder nothing.

## Main statements

* `Heater.Ascending.eq_of_inZone_eq`, a list in the order of its zones is what it holds in each.
* `Heater.group_partitions`, the groups of any heaters.
-/

namespace HeaterLink.Heater

variable {hs l l' : List Heater} {zone : Int64}

theorem mem_inZone {h : Heater} : h ∈ inZone zone hs ↔ h ∈ hs ∧ h.zone = some zone := by
  simp [inZone]

/-! ## Lists in the order of their zones -/

/-- What a heater is sorted by. Zero stands for no zone, and only heaters with one are sorted. -/
def zoneId (h : Heater) : Int64 := h.zone.getD 0

theorem zone_eq_zoneId {h : Heater} (hz : h.zone.isSome) : h.zone = some h.zoneId := by
  obtain ⟨zone, hz⟩ := Option.isSome_iff_exists.mp hz
  rw [zoneId, hz, Option.getD_some]

theorem zoneId_of_mem_inZone {h : Heater} (hh : h ∈ inZone zone hs) : h.zoneId = zone := by
  rw [zoneId, (mem_inZone.mp hh).2, Option.getD_some]

/-- Heaters that all name a zone, in the order of their zones. -/
structure Ascending (l : List Heater) : Prop where
  named : ∀ h ∈ l, h.zone.isSome
  sorted : l.Pairwise fun a b => a.zoneId ≤ b.zoneId

theorem Ascending.tail {h : Heater} (hl : Ascending (h :: l)) : Ascending l where
  named other hm := hl.named other (List.mem_cons_of_mem _ hm)
  sorted := (List.pairwise_cons.mp hl.sorted).2

/-- The first of a list is in no later zone than anything that the list holds. -/
theorem Ascending.zoneId_le {h other : Heater} (hl : Ascending (h :: l)) (hm : other ∈ h :: l) :
    h.zoneId ≤ other.zoneId := by
  rcases List.mem_cons.mp hm with rfl | hm
  · exact Int64.le_refl _
  · exact (List.pairwise_cons.mp hl.sorted).1 other hm

theorem inZone_cons (h : Heater) (l : List Heater) (zone : Int64) :
    inZone zone (h :: l) = if h.zone = some zone then h :: inZone zone l else inZone zone l := by
  simp [inZone, List.filter_cons]

theorem mem_iff_of_inZone_eq (hz : ∀ zone, inZone zone l = inZone zone l') {h : Heater}
    (hs : h.zone.isSome) : h ∈ l ↔ h ∈ l' := by
  have hin : h ∈ inZone h.zoneId l ↔ h ∈ inZone h.zoneId l' := by rw [hz]
  simpa only [mem_inZone, ← zone_eq_zoneId hs, and_true] using hin

/-- A list in the order of its zones is determined by what it holds in each zone. -/
theorem Ascending.eq_of_inZone_eq (hl : Ascending l) (hl' : Ascending l')
    (hz : ∀ zone, inZone zone l = inZone zone l') : l = l' := by
  induction l generalizing l' with
  | nil =>
    refine (List.eq_nil_iff_forall_not_mem.mpr fun h hm => ?_).symm
    exact List.not_mem_nil ((mem_iff_of_inZone_eq hz (hl'.named h hm)).mpr hm)
  | cons a l ih =>
    have hsome := hl.named a List.mem_cons_self
    have ha : a ∈ l' := (mem_iff_of_inZone_eq hz hsome).mp List.mem_cons_self
    cases l' with
    | nil => exact absurd ha List.not_mem_nil
    | cons b l' =>
      have hsome' := hl'.named b List.mem_cons_self
      have hb : b ∈ a :: l := (mem_iff_of_inZone_eq hz hsome').mpr List.mem_cons_self
      -- both lists begin in the same zone, and there they are the same
      have hid : b.zoneId = a.zoneId := Int64.le_antisymm (hl'.zoneId_le ha) (hl.zoneId_le hb)
      have hfirst := hz a.zoneId
      rw [inZone_cons, inZone_cons, if_pos (zone_eq_zoneId hsome), ← hid,
        if_pos (zone_eq_zoneId hsome')] at hfirst
      obtain ⟨rfl, -⟩ := List.cons_eq_cons.mp hfirst
      refine congrArg (a :: ·) (ih hl.tail hl'.tail fun zone => ?_)
      have hzone := hz zone
      rw [inZone_cons, inZone_cons] at hzone
      split at hzone
      · exact (List.cons_eq_cons.mp hzone).2
      · exact hzone

/-! ## The stable sort -/

/-- The heaters that name a zone in the order of their zones; equal zones keep their order. -/
def sortedByZone (hs : List Heater) : List Heater :=
  (hs.filter fun h => h.zone.isSome).mergeSort fun a b => a.zoneId ≤ b.zoneId

theorem perm_sortedByZone (hs : List Heater) :
    (sortedByZone hs).Perm (hs.filter fun h => h.zone.isSome) := List.mergeSort_perm _ _

theorem zoneId_le_trans (a b c : Heater) (hab : decide (a.zoneId ≤ b.zoneId) = true)
    (hbc : decide (b.zoneId ≤ c.zoneId) = true) : decide (a.zoneId ≤ c.zoneId) = true := by
  simp only [decide_eq_true_eq] at hab hbc ⊢
  exact Int64.le_trans hab hbc

theorem zoneId_le_total (a b : Heater) :
    (decide (a.zoneId ≤ b.zoneId) || decide (b.zoneId ≤ a.zoneId)) = true := by
  simpa using Int64.le_total a.zoneId b.zoneId

theorem ascending_sortedByZone (hs : List Heater) : Ascending (sortedByZone hs) where
  named h hm := by simpa using (List.mem_filter.mp ((perm_sortedByZone hs).mem_iff.mp hm)).2
  sorted := by
    have hsorted := List.pairwise_mergeSort zoneId_le_trans zoneId_le_total
      (hs.filter fun h => h.zone.isSome)
    exact hsorted.imp of_decide_eq_true

/-- Heaters without a zone are in none. -/
theorem inZone_filter_isSome (hs : List Heater) (zone : Int64) :
    inZone zone (hs.filter fun h => h.zone.isSome) = inZone zone hs := by
  rw [inZone, inZone, List.filter_filter]
  refine List.filter_congr fun h _ => ?_
  by_cases hz : h.zone = some zone <;> simp [hz]

theorem inZone_inZone (hs : List Heater) (zone : Int64) :
    inZone zone (inZone zone hs) = inZone zone hs := by
  simp [inZone]

/-- Sorting leaves the heaters of one zone as they came. -/
theorem inZone_sortedByZone (hs : List Heater) (zone : Int64) :
    inZone zone (sortedByZone hs) = inZone zone hs := by
  have htied : (inZone zone hs).Pairwise fun a b => decide (a.zoneId ≤ b.zoneId) = true := by
    refine List.pairwise_iff_forall_sublist.mpr fun {a b} hab => ?_
    have ha := zoneId_of_mem_inZone (hab.subset List.mem_cons_self)
    have hb := zoneId_of_mem_inZone (hab.subset (List.mem_cons_of_mem _ List.mem_cons_self))
    simp [ha, hb]
  have hsub : (inZone zone hs).Sublist (hs.filter fun h => h.zone.isSome) := by
    rw [← inZone_filter_isSome]
    exact List.filter_sublist
  have hsorted : (inZone zone hs).Sublist (sortedByZone hs) :=
    List.sublist_mergeSort zoneId_le_trans zoneId_le_total htied hsub
  -- what is in the zone already stays when the sorted list is cut down to the zone
  have hcut : (inZone zone hs).Sublist (inZone zone (sortedByZone hs)) := by
    have hself := hsorted.filter fun h => h.zone = some zone
    rwa [← inZone, inZone_inZone] at hself
  have hperm := (perm_sortedByZone hs).filter fun h => h.zone = some zone
  have hlength : (inZone zone hs).length = (inZone zone (sortedByZone hs)).length := by
    rw [← inZone_filter_isSome]
    exact hperm.length_eq.symm
  exact (hcut.eq_of_length hlength).symm

/-! ## The groups in a row -/

/-- The groups, one behind the other. -/
def inRow (groups : List (Int64 × List Heater)) : List Heater := groups.flatMap Prod.snd

theorem mem_entries_group {g : Int64 × List Heater} (hg : g ∈ (group hs).entries) :
    g.2 = inZone g.1 hs ∧ inZone g.1 hs ≠ [] := by
  have hget : (group hs).get? g.1 = some g.2 := IdMap.get?_eq_some_iff.mpr hg
  rw [get?_group] at hget
  split at hget
  · cases hget
  · next hne => exact ⟨(Option.some.inj hget).symm, hne⟩

theorem zone_of_mem_group {g : Int64 × List Heater} (hg : g ∈ (group hs).entries) {h : Heater}
    (hh : h ∈ g.2) : h ∈ hs ∧ h.zone = some g.1 := by
  rw [(mem_entries_group hg).1] at hh
  exact mem_inZone.mp hh

theorem ascending_inRow_group (hs : List Heater) : Ascending (inRow (group hs).entries) where
  named h hm := by
    obtain ⟨g, hg, hh⟩ := List.mem_flatMap.mp hm
    rw [(zone_of_mem_group hg hh).2, Option.isSome_some]
  sorted := by
    have hid {g : Int64 × List Heater} (hg : g ∈ (group hs).entries) {h : Heater}
        (hh : h ∈ g.2) : h.zoneId = g.1 := by
      rw [zoneId, (zone_of_mem_group hg hh).2, Option.getD_some]
    refine List.pairwise_flatMap.mpr ⟨fun g hg => ?_, ?_⟩
    · refine List.pairwise_iff_forall_sublist.mpr fun {a b} hab => ?_
      have ha := hid hg (hab.subset List.mem_cons_self)
      have hb := hid hg (hab.subset (List.mem_cons_of_mem _ List.mem_cons_self))
      rw [ha, hb]
      exact Int64.le_refl _
    · refine (group hs).ascending.imp_of_mem fun {g g'} hg hg' less a ha b hb => ?_
      rw [hid hg ha, hid hg' hb]
      exact Int64.le_of_lt less

theorem inZone_inRow_group (hs : List Heater) (zone : Int64) :
    inZone zone (inRow (group hs).entries) = inZone zone hs := by
  have hcut : ∀ g ∈ (group hs).entries, inZone zone g.2 = if g.1 = zone then g.2 else [] := by
    intro g hg
    rw [(mem_entries_group hg).1]
    split
    · next same => rw [← same, inZone_inZone]
    · next differs =>
      refine List.filter_eq_nil_iff.mpr fun h hh => ?_
      simpa [(mem_inZone.mp hh).2] using differs
  calc inZone zone (inRow (group hs).entries)
    _ = (group hs).entries.flatMap fun g => inZone zone g.2 := List.filter_flatMap
    _ = (group hs).entries.flatMap fun g => if g.1 = zone then g.2 else [] :=
      List.flatMap_congr hcut
    _ = ((group hs).get? zone).getD [] := IdMap.flatMap_find (group hs).ascending zone
    _ = inZone zone hs := by
      rw [get?_group]
      split
      · next hnil => rw [hnil, Option.getD_none]
      · rfl

/-- In the order of their zones the groups are the heaters, stably sorted. -/
theorem inRow_group (hs : List Heater) : inRow (group hs).entries = sortedByZone hs := by
  refine (ascending_inRow_group hs).eq_of_inZone_eq (ascending_sortedByZone hs) fun zone => ?_
  rw [inZone_inRow_group, inZone_sortedByZone]

theorem count_sortedByZone {h : Heater} (hs : List Heater) (hz : h.zone.isSome) :
    (sortedByZone hs).count h = hs.count h :=
  ((perm_sortedByZone hs).count_eq h).trans (List.count_filter hz)

/-- Groups are determined by what the heaters of each zone are. -/
theorem group_congr {others : List Heater} (h : ∀ zone, inZone zone hs = inZone zone others) :
    group hs = group others :=
  IdMap.ext_get? fun zone => by rw [get?_group, get?_group, h zone]

theorem group_swap {a b : Heater} (hne : a.zone ≠ b.zone) (before after : List Heater) :
    group (before ++ b :: a :: after) = group (before ++ a :: b :: after) := by
  refine group_congr fun zone => ?_
  have hboth : ¬ (a.zone = some zone ∧ b.zone = some zone) := fun h => hne (h.1.trans h.2.symm)
  simp only [inZone, List.filter_append, List.filter_cons, decide_eq_true_eq]
  grind

/-- Groups of heaters by zone that lose, add and reorder nothing. -/
structure Partitions (hs : List Heater) (groups : List (Int64 × List Heater)) : Prop where
  ascending : groups.Pairwise fun g g' => g.1 < g'.1
  inRow_eq : inRow groups = sortedByZone hs
  /-- Every key is the zone of some heater, and none stands over an empty group. -/
  named : ∀ g ∈ groups, g.2 ≠ [] ∧ ∃ h ∈ hs, h.zone = some g.1
  own : ∀ g ∈ groups, ∀ h ∈ g.2, h.zone = some g.1
  count_eq (h : Heater) (hz : h.zone.isSome) : (inRow groups).count h = hs.count h

/-- The groups by zone are the heaters with a zone, stably sorted and cut where the zone changes.
Heaters of different zones can change places without any difference. -/
theorem group_partitions (hs : List Heater) :
    Partitions hs (group hs).entries ∧
      ∀ (before after : List Heater) (a b : Heater), hs = before ++ a :: b :: after →
        a.zone ≠ b.zone → group (before ++ b :: a :: after) = group hs := by
  refine ⟨⟨(group hs).ascending, inRow_group hs, fun g hg => ?_, fun g hg h hh => ?_,
    fun h hz => ?_⟩, ?_⟩
  · obtain ⟨heq, hne⟩ := mem_entries_group hg
    obtain ⟨h, hh⟩ := List.exists_mem_of_ne_nil _ hne
    exact ⟨heq ▸ hne, h, mem_inZone.mp hh⟩
  · exact (zone_of_mem_group hg hh).2
  · rw [inRow_group, count_sortedByZone hs hz]
  · rintro before after a b rfl hne
    exact group_swap hne before after

/-- A heater that reports a zone or none. -/
def reporting (id : Int64) (zone : Option Int64) : Heater where
  id := some id
  zone := zone
  reportingIntervalSecs := 60
  targetTemperature := ⟨2100⟩

/-- Heater 1 changes places with one of an earlier zone; then that zone's group still comes first,
and the two heaters of the later zone stand as they came. -/
theorem group_partitions_swapped :
    let hs := [reporting 1 (some 2), reporting 2 (some Int64.minValue), reporting 3 none,
      reporting 4 (some 2)]
    sortedByZone hs =
        [reporting 2 (some Int64.minValue), reporting 1 (some 2), reporting 4 (some 2)] ∧
      group [reporting 2 (some Int64.minValue), reporting 1 (some 2), reporting 3 none,
        reporting 4 (some 2)] = group hs := by
  intro hs
  have ⟨hpart, hswap⟩ := group_partitions hs
  have hrow : inRow (group hs).entries =
      [reporting 2 (some Int64.minValue), reporting 1 (some 2), reporting 4 (some 2)] := by
    decide +kernel
  exact ⟨hpart.inRow_eq.symm.trans hrow, hswap [] _ _ _ rfl (by decide)⟩

end HeaterLink.Heater
