import HeaterLink.Proofs.BigEndian
import HeaterLink.Signing.Packing

/-!
# Packing loses nothing but the shape

Packed arguments carry no marks between them, so what was packed can only be told if it is known
of which kinds the arguments are. Numbers and single bytes have the width of their kind, which
leaves to the one argument that has no width of its own what the others do not take.

## Main definitions

* `Signing.Part.Kind`, what an argument is, without its value.

## Main statements

* `Signing.units_injective`, texts told by their UTF-16 units.
* `Signing.Part.pack_injective`, an argument told by its bytes and its kind.
* `Signing.pack_lossless`, the same for lists, with the number of bytes of a list.
-/

namespace HeaterLink

theorem Bytes.bigEndian_injective {width m n : Nat} (hm : m < 256 ^ width) (hn : n < 256 ^ width)
    (h : bigEndian width m = bigEndian width n) : m = n := by
  rw [← Nat.mod_eq_of_lt hm, ← toNat_bigEndian, h, toNat_bigEndian, Nat.mod_eq_of_lt hn]

namespace Signing

/-! ## Text -/

/-- Values written one behind the other are told by the text if the first of any two is. -/
theorem flatMap_injective {α β : Type} {write : α → List β} {as bs : List α}
    (filled : ∀ a, write a ≠ [])
    (told : ∀ a ∈ as, ∀ b ∈ bs, ∀ rest rest', write a ++ rest = write b ++ rest' →
      a = b ∧ rest = rest')
    (h : as.flatMap write = bs.flatMap write) : as = bs := by
  induction as generalizing bs with
  | nil =>
    cases bs with
    | nil => rfl
    | cons b bs => simp [filled] at h
  | cons a as ih =>
    cases bs with
    | nil => simp [filled] at h
    | cons b bs =>
      obtain ⟨rfl, rest⟩ := told a List.mem_cons_self b List.mem_cons_self _ _ h
      rw [ih (fun a ha b hb => told a (List.mem_cons_of_mem _ ha) b (List.mem_cons_of_mem _ hb))
        rest]

theorem utf16_eq (c : Char) :
    utf16 c = if c.toNat < 0x10000 then [c.toNat]
      else [0xD800 + (c.toNat - 0x10000) / 0x400, 0xDC00 + (c.toNat - 0x10000) % 0x400] := rfl

theorem toNat_valid (c : Char) : c.toNat < 0xD800 ∨ 0xDFFF < c.toNat ∧ c.toNat < 0x110000 :=
  c.valid

theorem lt_of_mem_units {s : String} {n : Nat} (h : n ∈ units s) : n < 256 ^ 2 := by
  obtain ⟨c, -, hc⟩ := List.mem_flatMap.1 h
  have valid := toNat_valid c
  rw [utf16_eq] at hc
  split at hc <;> simp at hc <;> omega

/-- A character of one unit is no surrogate, so it is not taken for the first of a pair. -/
theorem utf16_append_injective {c d : Char} {rest rest' : List Nat}
    (h : utf16 c ++ rest = utf16 d ++ rest') : c = d ∧ rest = rest' := by
  have hc := toNat_valid c
  have hd := toNat_valid d
  rw [← Char.toNat_inj]
  rw [utf16_eq, utf16_eq] at h
  split at h <;> split at h <;>
    simp only [List.cons_append, List.nil_append, List.cons.injEq] at h
  · exact h
  · omega
  · omega
  · exact ⟨by omega, h.2.2⟩

theorem units_injective {s t : String} (h : units s = units t) : s = t := by
  have filled : ∀ c, utf16 c ≠ [] := by
    intro c
    rw [utf16_eq]
    split <;> simp
  exact String.toList_injective
    (flatMap_injective filled (fun _ _ _ _ _ _ => utf16_append_injective) h)

/-- Numbers of one width are told by their bytes in a row. -/
theorem flatMap_bigEndian_injective {width : Nat} {ms ns : List Nat} (pos : 0 < width)
    (hm : ∀ m ∈ ms, m < 256 ^ width) (hn : ∀ n ∈ ns, n < 256 ^ width)
    (h : ms.flatMap (Bytes.bigEndian width) = ns.flatMap (Bytes.bigEndian width)) : ms = ns := by
  have filled : ∀ n, Bytes.bigEndian width n ≠ [] := by
    intro n
    rw [← List.length_pos_iff, Bytes.length_bigEndian]
    exact pos
  refine flatMap_injective filled (fun m m_mem n n_mem rest rest' h => ?_) h
  obtain ⟨first, behind⟩ := List.append_inj h (by simp)
  exact ⟨Bytes.bigEndian_injective (hm m m_mem) (hn n n_mem) first, behind⟩

/-! ## One argument -/

namespace Part

/-- What an argument is, without its value. -/
inductive Kind where
  | long
  | int
  | text
  | byte
  | bytes
deriving DecidableEq, Repr

def kind : Part → Kind
  | long _ => .long
  | int _ => .int
  | text _ => .text
  | byte _ => .byte
  | bytes _ => .bytes

/-- How many bytes every argument of a kind takes, if that does not depend on the argument. -/
def Kind.width? : Kind → Option Nat
  | long => some 8
  | int => some 4
  | byte => some 1
  | text | bytes => none

/-- A kind whose arguments take as many bytes as they need. -/
def Kind.isOpen (k : Kind) : Bool := k.width?.isNone

variable {p q : Part}

theorem size_of_width? {w : Nat} (h : p.kind.width? = some w) : p.size = w := by
  cases p <;> simp_all [kind, Kind.width?, size]

theorem size_eq_of_kind (hk : p.kind = q.kind) (closed : p.kind.isOpen = false) :
    p.size = q.size := by
  obtain ⟨w, hw⟩ : ∃ w, p.kind.width? = some w := by
    simpa [Kind.isOpen, Option.isSome_iff_exists] using closed
  rw [size_of_width? hw, size_of_width? (hk ▸ hw)]

theorem pack_injective (hk : p.kind = q.kind) (h : p.pack = q.pack) : p = q := by
  cases p <;> cases q <;> try contradiction
  case long m n =>
    have code := Bytes.bigEndian_injective m.toUInt64.toNat_lt n.toUInt64.toNat_lt h
    exact congrArg (fun u => long (.ofUInt64 u)) (UInt64.toNat_inj.1 code)
  case int m n =>
    have code := Bytes.bigEndian_injective m.toUInt32.toNat_lt n.toUInt32.toNat_lt h
    exact congrArg (fun u => int (.ofUInt32 u)) (UInt32.toNat_inj.1 code)
  case text s t =>
    have same := flatMap_bigEndian_injective (by decide) (fun _ => lt_of_mem_units)
      (fun _ => lt_of_mem_units) h
    rw [units_injective same]
  case byte b c => rw [List.singleton_inj.1 h]
  case bytes bs cs => exact congrArg bytes h

end Part

/-! ## Lists of arguments -/

open Signing.Part

theorem length_pack (ps : List Part) : (pack ps).length = (ps.map size).sum := by
  induction ps with
  | nil => rfl
  | cons p ps ih => simp [Part.length_pack, ih]

theorem pack_append (ps qs : List Part) : pack (ps ++ qs) = pack ps ++ pack qs :=
  List.flatMap_append

variable {ps qs : List Part}

/-- Where every size is known, the cuts between the arguments are. -/
theorem pack_injective_of_sizes (hk : ps.map kind = qs.map kind) (hs : ps.map size = qs.map size)
    (h : pack ps = pack qs) : ps = qs := by
  induction ps generalizing qs with
  | nil => exact (List.map_eq_nil_iff.1 hk.symm).symm
  | cons p ps ih =>
    obtain ⟨q, qs, rfl⟩ : ∃ q qs', qs = q :: qs' := by
      cases qs with
      | nil => cases hk
      | cons q qs => exact ⟨q, qs, rfl⟩
    obtain ⟨kind_eq, kinds⟩ := List.cons.inj hk
    obtain ⟨size_eq, sizes⟩ := List.cons.inj hs
    obtain ⟨first, rest⟩ := List.append_inj h (by rw [p.length_pack, q.length_pack, size_eq])
    rw [Part.pack_injective kind_eq first, ih kinds sizes rest]

/-- Without open kinds the kinds settle the sizes. -/
theorem sizes_eq_of_closed (hk : ps.map kind = qs.map kind)
    (closed : ∀ k ∈ ps.map kind, k.isOpen = false) : ps.map size = qs.map size := by
  induction ps generalizing qs with
  | nil => rw [List.map_eq_nil_iff.1 hk.symm]
  | cons p ps ih =>
    cases qs with
    | nil => cases hk
    | cons q qs =>
      obtain ⟨kind_eq, kinds⟩ := List.cons.inj hk
      simp only [List.map_cons, List.forall_mem_cons] at closed
      rw [List.map_cons, List.map_cons, size_eq_of_kind kind_eq closed.1, ih kinds closed.2]

/-- One open kind leaves no choice either, as its argument takes what the others do not. -/
theorem sizes_eq (hk : ps.map kind = qs.map kind) (one : (ps.map kind).countP Kind.isOpen ≤ 1)
    (total : (ps.map size).sum = (qs.map size).sum) : ps.map size = qs.map size := by
  induction ps generalizing qs with
  | nil => rw [List.map_eq_nil_iff.1 hk.symm]
  | cons p ps ih =>
    cases qs with
    | nil => cases hk
    | cons q qs =>
      obtain ⟨kind_eq, kinds⟩ := List.cons.inj hk
      simp only [List.map_cons, List.countP_cons, List.sum_cons] at one total ⊢
      by_cases hp : p.kind.isOpen
      -- this is the open argument: the others have the sizes of their kinds, and it has the rest
      · have closed : ∀ k ∈ ps.map kind, k.isOpen = false := by
          rw [if_pos hp] at one
          have none := List.countP_eq_zero.1 (Nat.le_zero.1 (Nat.le_of_succ_le_succ one))
          simpa using none
        have sizes := sizes_eq_of_closed kinds closed
        have size_eq : p.size = q.size := by
          rw [sizes] at total
          exact Nat.add_right_cancel total
        rw [size_eq, sizes]
      · have size_eq := size_eq_of_kind kind_eq (by simpa using hp)
        rw [size_eq] at total
        rw [if_neg hp] at one
        rw [size_eq, ih kinds one (Nat.add_left_cancel total)]

/--
Lists of the same kinds, of which one at most is open, are the same if their bytes are. A list
takes the bytes of its arguments, and bytes of lists are put together as the lists are.
-/
theorem pack_lossless (ps qs : List Part) :
    (ps.map kind = qs.map kind → (ps.map kind).countP Kind.isOpen ≤ 1 → pack ps = pack qs →
      ps = qs) ∧
    (pack ps).length = (ps.map size).sum ∧
    pack (ps ++ qs) = pack ps ++ pack qs := by
  refine ⟨fun hk one h => ?_, length_pack ps, pack_append ps qs⟩
  have total : (ps.map size).sum = (qs.map size).sum := by
    rw [← length_pack, h, length_pack]
  exact pack_injective_of_sizes hk (sizes_eq hk one total) h

/-- A negative number, a text with a surrogate pair, and the same text put together from its
characters. -/
theorem pack_lossless_surrogates :
    pack [.long (-2), .text "a😀", .int 5] =
      [255, 255, 255, 255, 255, 255, 255, 254, 0, 97, 0xD8, 0x3D, 0xDE, 0, 0, 0, 0, 5] ∧
    ([.long (-2), .text "a😀", .int 5] : List Part) =
      [.long (-2), .text (String.ofList ['a', '😀']), .int 5] := by
  refine ⟨by decide, ?_⟩
  exact (pack_lossless _ _).1 rfl (by decide) (by decide)

/-- With two open kinds a byte may belong to either. -/
example : pack [.text "a", .bytes []] = pack [.text "", .bytes [0, 97]] := by decide

end Signing

end HeaterLink
