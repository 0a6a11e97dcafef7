/-!
# Maps from ids

Entries by id, each id at most once and in ascending order, so that two maps
with the same look-ups are the same list.
-/

namespace HeaterLink

structure IdMap (α : Type) where
  entries : List (Int64 × α) := []
  ascending : entries.Pairwise fun a b => a.1 < b.1 := by exact .nil

namespace IdMap

variable {α : Type}

instance : Inhabited (IdMap α) := ⟨{}⟩

def find (id : Int64) : List (Int64 × α) → Option α
  | [] => none
  | (key, x) :: rest => if key = id then some x else find id rest

def get? (m : IdMap α) (id : Int64) : Option α := find id m.entries

def ids (m : IdMap α) : List Int64 := m.entries.map (·.1)

/-! ## Changes -/

/-- Puts `f` of the present value under an id. -/
def place (id : Int64) (f : Option α → α) : List (Int64 × α) → List (Int64 × α)
  | [] => [(id, f none)]
  | (key, x) :: rest =>
    if id < key then (id, f none) :: (key, x) :: rest
    else if key = id then (key, f (some x)) :: rest
    else (key, x) :: place id f rest

theorem key_of_mem_place {id : Int64} {f : Option α → α} {entries : List (Int64 × α)}
    {e : Int64 × α} (h : e ∈ place id f entries) : e.1 = id ∨ ∃ x, (e.1, x) ∈ entries := by
  induction entries with
  | nil => exact .inl (by simp [place] at h; simp [h])
  | cons entry rest ih =>
    obtain ⟨key, x⟩ := entry
    rw [place] at h
    split at h
    · rcases List.mem_cons.1 h with rfl | h
      · exact .inl rfl
      · exact .inr ⟨e.2, h⟩
    · split at h
      · next same =>
        rcases List.mem_cons.1 h with rfl | h
        · exact .inl same
        · exact .inr ⟨e.2, List.mem_cons_of_mem _ h⟩
      · rcases List.mem_cons.1 h with rfl | h
        · exact .inr ⟨x, List.mem_cons_self⟩
        · rcases ih h with same | ⟨y, there⟩
          · exact .inl same
          · exact .inr ⟨y, List.mem_cons_of_mem _ there⟩

theorem ascending_place (id : Int64) (f : Option α → α) {entries : List (Int64 × α)}
    (h : entries.Pairwise fun a b => a.1 < b.1) :
    (place id f entries).Pairwise fun a b => a.1 < b.1 := by
  induction entries with
  | nil => simp [place]
  | cons entry rest ih =>
    obtain ⟨key, x⟩ := entry
    have ⟨above, tail⟩ := List.pairwise_cons.1 h
    rw [place]
    split
    · next less =>
      refine List.pairwise_cons.2 ⟨?_, h⟩
      intro e there
      rcases List.mem_cons.1 there with rfl | there
      · exact less
      · exact Int64.lt_trans less (above e there)
    · next notLess =>
      split
      · exact List.pairwise_cons.2 ⟨above, tail⟩
      · next differs =>
        refine List.pairwise_cons.2 ⟨?_, ih tail⟩
        intro e there
        rcases key_of_mem_place there with same | ⟨y, there⟩
        · show key < e.1
          rw [same]
          exact Int64.lt_of_le_of_ne (Int64.not_lt.1 notLess) differs
        · exact above (e.1, y) there

def alter (m : IdMap α) (id : Int64) (f : Option α → α) : IdMap α :=
  ⟨place id f m.entries, ascending_place id f m.ascending⟩

def insert (m : IdMap α) (id : Int64) (x : α) : IdMap α := m.alter id fun _ => x

def erase (m : IdMap α) (id : Int64) : IdMap α :=
  ⟨m.entries.filter fun e => e.1 ≠ id, m.ascending.filter _⟩

/-! ## Look-ups after changes -/

theorem find_eq_none_of_lt {id : Int64} {entries : List (Int64 × α)}
    (h : ∀ e ∈ entries, id < e.1) : find id entries = none := by
  induction entries with
  | nil => rfl
  | cons entry rest ih =>
    obtain ⟨key, x⟩ := entry
    have less : id < key := h _ List.mem_cons_self
    rw [find, if_neg fun same => Int64.lt_irrefl (same ▸ less)]
    exact ih fun e there => h e (List.mem_cons_of_mem _ there)

theorem find_place (id other : Int64) (f : Option α → α) {entries : List (Int64 × α)}
    (h : entries.Pairwise fun a b => a.1 < b.1) :
    find other (place id f entries) =
      if id = other then some (f (find id entries)) else find other entries := by
  induction entries with
  | nil => rfl
  | cons entry rest ih =>
    obtain ⟨key, x⟩ := entry
    have ⟨above, tail⟩ := List.pairwise_cons.1 h
    rw [place]
    split
    · next less =>
      have absent : find id ((key, x) :: rest) = none :=
        find_eq_none_of_lt fun e there => by
          rcases List.mem_cons.1 there with rfl | there
          · exact less
          · exact Int64.lt_trans less (above e there)
      rw [find, absent]
    · split
      · next same =>
        subst same
        by_cases here : key = other <;> simp [find, here]
      · next differs =>
        simp only [find, if_neg differs, ih tail]
        by_cases here : key = other
        · subst here
          simp [Ne.symm differs]
        · simp [here]

@[simp] theorem get?_alter (m : IdMap α) (id other : Int64) (f : Option α → α) :
    (m.alter id f).get? other = if id = other then some (f (m.get? id)) else m.get? other :=
  find_place id other f m.ascending

@[simp] theorem get?_insert (m : IdMap α) (id other : Int64) (x : α) :
    (m.insert id x).get? other = if id = other then some x else m.get? other :=
  get?_alter m id other _

theorem find_filter_ne (id other : Int64) (entries : List (Int64 × α)) :
    find other (entries.filter fun e => e.1 ≠ id) =
      if id = other then none else find other entries := by
  induction entries with
  | nil => simp [find]
  | cons entry rest ih =>
    obtain ⟨key, x⟩ := entry
    by_cases here : key = id
    · subst here
      by_cases same : key = other <;> simp_all [find]
    · by_cases same : id = other
      · subst same
        simp_all [find]
      · by_cases found : key = other <;> simp_all [find]

@[simp] theorem get?_erase (m : IdMap α) (id other : Int64) :
    (m.erase id).get? other = if id = other then none else m.get? other :=
  find_filter_ne id other m.entries

end IdMap

end HeaterLink
