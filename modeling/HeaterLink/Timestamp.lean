/-!
# Timestamps

Moments in nanoseconds since the epoch, within the years -262143 to 262142. They
travel as whole milliseconds.
-/

namespace HeaterLink

namespace Timestamp

/-- The first and the last millisecond that a timestamp can name. -/
def first : Int := -8334601228800000
def last : Int := 8210266876799999

/-- How many nanoseconds make a millisecond. -/
def perMilli : Int := 1000000

end Timestamp

@[ext]
structure Timestamp where
  nanos : Int
  first_le : Timestamp.first * Timestamp.perMilli ≤ nanos
  lt_last : nanos < (Timestamp.last + 1) * Timestamp.perMilli
deriving DecidableEq, Repr

namespace Timestamp

/-- The millisecond that a moment lies in. -/
def millis (t : Timestamp) : Int64 := Int64.ofInt (t.nanos / perMilli)

/-- A moment with nothing below its milliseconds. -/
def IsWhole (t : Timestamp) : Prop := t.nanos % perMilli = 0

instance (t : Timestamp) : Decidable t.IsWhole := inferInstanceAs (Decidable (_ = _))

def ofMillis? (millis : Int64) : Option Timestamp :=
  if h : first ≤ millis.toInt ∧ millis.toInt ≤ last then
    some ⟨millis.toInt * perMilli, by simp only [perMilli]; omega, by simp only [perMilli]; omega⟩
  else none

theorem toInt_millis (t : Timestamp) : t.millis.toInt = t.nanos / perMilli := by
  have hlow := t.first_le
  have hhigh := t.lt_last
  simp only [first, last, perMilli] at hlow hhigh
  rw [millis, Int64.toInt_ofInt_of_le] <;> simp only [perMilli] <;> omega

theorem ofMillis?_eq_some_iff {millis : Int64} {t : Timestamp} :
    ofMillis? millis = some t ↔ t.nanos = millis.toInt * perMilli := by
  constructor
  · intro h
    unfold ofMillis? at h
    split at h
    · cases h; rfl
    · cases h
  · intro h
    have hlow := t.first_le
    have hhigh := t.lt_last
    rw [h] at hlow hhigh
    simp only [perMilli] at hlow hhigh
    rw [ofMillis?, dif_pos ⟨by omega, by omega⟩]
    exact congrArg some (Timestamp.ext h.symm)

theorem ofMillis?_millis {t : Timestamp} (h : t.IsWhole) : ofMillis? t.millis = some t := by
  rw [ofMillis?_eq_some_iff, toInt_millis]
  simp only [IsWhole, perMilli] at h ⊢
  omega

theorem isWhole_of_ofMillis? {millis : Int64} {t : Timestamp} (h : ofMillis? millis = some t) :
    t.IsWhole := by
  rw [IsWhole, ofMillis?_eq_some_iff.1 h]
  exact Int.mul_emod_left ..

end Timestamp

end HeaterLink
