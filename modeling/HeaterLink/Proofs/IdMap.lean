import HeaterLink.IdMap
import Mathlib.Data.List.Basic
import Mathlib.Data.List.Nodup

/-!
# Look-ups and entries of maps from ids

The entries of a map and its look-ups say the same, so that going through the
entries of one map and looking up the other can be done from either side.

## Main statements

* `IdMap.get?_eq_some_iff`, a look-up finds the entry.
* `IdMap.ext_get?`, maps with the same look-ups.
* `IdMap.filterMap_entries_comm`, what two maps have in common, from either side.
-/

namespace HeaterLink.IdMap

variable {α β γ : Type} {m : IdMap α} {id : Int64} {x : α}

theorem mem_of_find {entries : List (Int64 × α)} (h : find id entries = some x) :
    (id, x) ∈ entries := by
  induction entries with
  | nil => exact nomatch h
  | cons entry rest ih =>
    obtain ⟨key, y⟩ := entry
    rw [find] at h
    split at h
    · next same =>
      obtain rfl := Option.some.inj h
      exact same ▸ List.mem_cons_self
    · exact List.mem_cons_of_mem _ (ih h)

theorem find_of_mem {entries : List (Int64 × α)} (ha : entries.Pairwise fun a b => a.1 < b.1)
    (h : (id, x) ∈ entries) : find id entries = some x := by
  induction entries with
  | nil => exact nomatch h
  | cons entry rest ih =>
    have ⟨above, tail⟩ := List.pairwise_cons.1 ha
    rcases List.mem_cons.1 h with rfl | there
    · exact if_pos rfl
    · have less : entry.1 < id := above _ there
      rw [find, if_neg fun same => Int64.lt_irrefl (same ▸ less)]
      exact ih tail there

theorem get?_eq_some_iff : m.get? id = some x ↔ (id, x) ∈ m.entries :=
  ⟨mem_of_find, find_of_mem m.ascending⟩

/-- Lists in the order of their keys are determined by their members. -/
theorem eq_of_ascending {l l' : List (Int64 × α)} (h : l.Pairwise fun a b => a.1 < b.1)
    (h' : l'.Pairwise fun a b => a.1 < b.1) (hm : ∀ e, e ∈ l ↔ e ∈ l') : l = l' := by
  have nodup {l : List (Int64 × α)} (h : l.Pairwise fun a b => a.1 < b.1) : l.Nodup :=
    h.imp fun less => fun same => Int64.lt_irrefl (same ▸ less)
  have perm : l.Perm l' := (List.perm_ext_iff_of_nodup (nodup h) (nodup h')).mpr hm
  refine perm.eq_of_pairwise (fun a b _ _ less less' => ?_) h h'
  exact absurd (Int64.lt_trans less less') Int64.lt_irrefl

/-- Maps with the same look-ups are the same. -/
theorem ext_get? {a b : IdMap α} (h : ∀ id, a.get? id = b.get? id) : a = b := by
  have hentries : a.entries = b.entries := by
    refine eq_of_ascending a.ascending b.ascending fun ⟨id, x⟩ => ?_
    rw [← get?_eq_some_iff, ← get?_eq_some_iff, h]
  cases a
  cases b
  cases hentries
  rfl

/-- Of lists under keys, what stands under one key is the list under it. -/
theorem flatMap_find {entries : List (Int64 × List α)}
    (ha : entries.Pairwise fun a b => a.1 < b.1) (id : Int64) :
    (entries.flatMap fun e => if e.1 = id then e.2 else []) = (find id entries).getD [] := by
  induction entries with
  | nil => rfl
  | cons entry rest ih =>
    obtain ⟨key, xs⟩ := entry
    have ⟨above, tail⟩ := List.pairwise_cons.1 ha
    rw [List.flatMap_cons, ih tail, find]
    split
    · next same =>
      rw [find_eq_none_of_lt fun e there => same ▸ above e there, Option.getD_none,
        List.append_nil, Option.getD_some]
    · rfl

/-- The entries that two maps have in common. -/
def common (a : IdMap α) (b : IdMap β) : List (Int64 × α × β) :=
  a.entries.filterMap fun e => (b.get? e.1).map fun y => (e.1, e.2, y)

theorem mem_common {a : IdMap α} {b : IdMap β} {y : β} :
    (id, x, y) ∈ common a b ↔ a.get? id = some x ∧ b.get? id = some y := by
  simp [common, get?_eq_some_iff]

theorem ascending_common (a : IdMap α) (b : IdMap β) :
    (common a b).Pairwise fun e e' => e.1 < e'.1 := by
  refine List.pairwise_filterMap.mpr (a.ascending.imp fun less e he e' he' => ?_)
  obtain ⟨y, -, rfl⟩ := Option.map_eq_some_iff.mp he
  obtain ⟨y', -, rfl⟩ := Option.map_eq_some_iff.mp he'
  exact less

theorem common_swap (a : IdMap α) (b : IdMap β) :
    (common b a).map (fun e => (e.1, e.2.2, e.2.1)) = common a b := by
  refine eq_of_ascending ?_ (ascending_common a b) fun ⟨id, x, y⟩ => ?_
  · exact List.pairwise_map.mpr (ascending_common b a)
  · simp [mem_common, and_comm]

/-- Going through one map and looking up the other comes to the same from either side. -/
theorem filterMap_entries_comm (a : IdMap α) (b : IdMap β) (f : Int64 → α → β → γ) :
    (a.entries.filterMap fun e => (b.get? e.1).map (f e.1 e.2)) =
      b.entries.filterMap fun e => (a.get? e.1).map fun x => f e.1 x e.2 := by
  calc (a.entries.filterMap fun e => (b.get? e.1).map (f e.1 e.2))
    _ = (common a b).map fun e => f e.1 e.2.1 e.2.2 := by
      simp [common, List.map_filterMap, Function.comp_def]
    _ = (common b a).map fun e => f e.1 e.2.2 e.2.1 := by
      rw [← common_swap, List.map_map]
      rfl
    _ = b.entries.filterMap fun e => (a.get? e.1).map fun x => f e.1 x e.2 := by
      simp [common, List.map_filterMap, Function.comp_def]

end HeaterLink.IdMap
