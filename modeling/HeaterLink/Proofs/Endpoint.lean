import HeaterLink.Endpoint
import HeaterLink.Proofs.Text

/-!
# The segments of a path

A path is split into the segments it goes through. A segment that is a number is read as that
number, and no word is.

## Main definitions

* `Endpoint.spelled`, the numbers among the segments of a path.

## Main statements

* `Endpoint.path_injective`, the segments of a path are those it was made of.
* `Endpoint.number_ne_of_word`, a number is not a word.
-/

namespace HeaterLink.Endpoint

/-! ## Segments -/

theorem splitOn_path {segments : List (List Char)} (h : ∀ s ∈ segments, '/' ∉ s) :
    (path segments).splitOn '/' = [] :: segments := by
  have joined : path segments = ['/'].intercalate ([] :: segments) :=
    (intercalate_cons '/' [] segments).symm
  have unmarked : ∀ s ∈ [] :: segments, '/' ∉ s := by
    simpa using h
  rw [joined, List.splitOn_intercalate _ unmarked (List.cons_ne_nil _ _)]

theorem path_injective {segments others : List (List Char)} (h : ∀ s ∈ segments, '/' ∉ s)
    (h' : ∀ s ∈ others, '/' ∉ s) (same : path segments = path others) : segments = others := by
  have split : [] :: segments = [] :: others := by
    rw [← splitOn_path h, same, splitOn_path h']
  exact List.tail_eq_of_cons_eq split

/-! ## Numbers -/

theorem slash_not_mem_int (n : Int) : '/' ∉ Decimal.int n := by
  intro h
  rcases Decimal.mem_int h with minus | digit
  · exact absurd minus (by decide)
  · exact absurd digit (by decide)

/-- The number that a segment is, if it is one. -/
def number? (segment : List Char) : Option Int :=
  if Decimal.int (Decimal.toInt segment) = segment then some (Decimal.toInt segment) else none

@[simp] theorem number?_int (n : Int) : number? (Decimal.int n) = some n := by
  simp [number?, Decimal.toInt_int]

@[simp] theorem number?_number (n : Int64) : number? (number n) = some n.toInt :=
  number?_int n.toInt

@[simp] theorem number_inj {m n : Int64} : number m = number n ↔ m = n :=
  Decimal.int_inj.trans Int64.toInt_inj

theorem number_ne_of_word {word : List Char} (h : number? word = none) (n : Int64) :
    number n ≠ word := by
  rintro rfl
  simp at h

/-- The numbers among the segments of a path, from the left. -/
def spelled (path : String) : List Int := (path.toList.splitOn '/').filterMap number?

end HeaterLink.Endpoint
