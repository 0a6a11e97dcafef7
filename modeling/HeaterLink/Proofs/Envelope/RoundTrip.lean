import HeaterLink.Envelope
import HeaterLink.Proofs.Record.RoundTrip

/-!
# Reading a written envelope

An envelope is read back from the bytes of its text: without an error as the
records that it carries, and with one as that error, whatever it carries.

## Main definitions

* `Envelope.bytes`, an envelope as it travels.
* `Envelope.RoundTrips`, what this means for a type of records.

## Main statements

* `Envelope.roundTrips`, for every type of records.
-/

namespace HeaterLink.Envelope

open Json

variable {R : Type} [Record R]

/-- The text of an envelope, as bytes. -/
def bytes (error : ErrorHolder) (content : List R) : ByteArray :=
  (encode error content).render.toUTF8

/-! ## Documents -/

theorem plain_encode [Dated R] [LawfulRecord R] (error : ErrorHolder) (rs : List R) :
    Plain 3 (encode error rs) := by
  refine .array fun x hx => ?_
  rcases List.mem_cons.1 hx with rfl | hx
  · exact error.plain_toNode
  · obtain rfl := List.mem_singleton.1 hx
    refine .array fun y hy => ?_
    obtain ⟨r, -, rfl⟩ := List.mem_map.1 hy
    exact LawfulRecord.plain_toNode r

theorem decode_bytes [Dated R] [LawfulRecord R] (inline : Bool) (error : ErrorHolder)
    (rs : List R) :
    decode inline (bytes error rs) =
      (resolve inline (encode error rs) : Except Error (List R)) := by
  have hread : readBytes (bytes error rs) = .ok (encode error rs) :=
    readBytes_render ((plain_encode error rs).mono (by decide))
  rw [decode, hread]

/-! ## Parts -/

theorem code?_toNode (h : ErrorHolder) :
    code? h.toNode = if h.isError then some h.code else none := by
  change (ErrorHolder.ofNode? h.toNode).bind _ = _
  rw [h.ofNode?_toNode, Option.bind_some]

theorem reported?_encode (inline : Bool) (error : ErrorHolder) (rs : List R) :
    reported? inline (encode error rs) = if error.isError then some error.code else none :=
  code?_toNode error

theorem content?_encode (inline : Bool) (error : ErrorHolder) (rs : List R) :
    (parts inline (encode error rs)).content? = some (.array (rs.map Record.toNode)) := rfl

theorem records?_map_toNode [Dated R] [LawfulRecord R] {rs : List R}
    (h : ∀ r ∈ rs, Dated.IsWhole r) : records? (.array (rs.map Record.toNode)) = some rs := by
  induction rs with
  | nil => rfl
  | cons r rs ih =>
    have hr : Record.ofNode? (Record.toNode r) = some r :=
      LawfulRecord.ofNode?_toNode (h r List.mem_cons_self)
    have hrs := ih fun k hk => h k (List.mem_cons_of_mem r hk)
    rw [records?] at hrs ⊢
    rw [List.map_cons, List.mapM_cons, hr, hrs]
    rfl

theorem isWhole_of_records? [Dated R] [LawfulRecord R] {node : Json} {rs : List R}
    (h : records? node = some rs) : ∀ r ∈ rs, Dated.IsWhole r := by
  cases node with
  | array items =>
    change items.mapM Record.ofNode? = some rs at h
    induction items generalizing rs with
    | nil => cases h; simp
    | cons x xs ih =>
      simp only [List.mapM_cons, Option.bind_eq_bind, Option.bind_eq_some_iff, Option.pure_def,
        Option.some.injEq] at h
      obtain ⟨r, hr, ks, hks, rfl⟩ := h
      exact List.forall_mem_cons.2 ⟨LawfulRecord.isWhole_of_ofNode? hr, ih hks⟩
  | _ =>
    obtain ⟨r, hr, rfl⟩ := Option.map_eq_some_iff.1 h
    exact List.forall_mem_singleton.2 (LawfulRecord.isWhole_of_ofNode? hr)

theorem records?_of_decode {inline : Bool} {body : ByteArray} {rs : List R}
    (h : decode inline body = .ok rs) : rs = [] ∨ ∃ node, records? node = some rs := by
  unfold decode at h
  split at h
  · unfold resolve at h
    split at h
    · cases h
    · split at h
      · cases h; exact .inl rfl
      · cases h; exact .inl rfl
      · split at h
        · cases h; exact .inr ⟨_, ‹_›⟩
        · cases h
  · cases h; exact .inl rfl

/-! ## Round trips -/

/-- What it means that a type of records travels in envelopes without loss. -/
structure RoundTrips (R : Type) [Record R] [Dated R] : Prop where
  /-- Without an error the records come back. -/
  records (inline : Bool) (rs : List R) (h : ∀ r ∈ rs, Dated.IsWhole r) :
    decode inline (bytes ⟨0⟩ rs) = .ok rs
  /-- With an error it comes back instead, under its name if it has one. -/
  error (inline : Bool) (rs : List R) (code : Int64) (h : code ≠ 0) :
    decode inline (bytes ⟨code⟩ rs) = (.error (.remote code) : Except Error (List R)) ∧
      (Error.remote code).errorType? = ErrorType.ofCode? code
  /-- Records from any body name whole milliseconds, so they come back once more. -/
  decoded (inline again : Bool) (body : ByteArray) (rs : List R)
    (h : decode inline body = .ok rs) :
    (∀ r ∈ rs, Dated.IsWhole r) ∧ decode again (bytes ⟨0⟩ rs) = .ok rs

theorem decode_bytes_of_isWhole [Dated R] [LawfulRecord R] (inline : Bool) {rs : List R}
    (h : ∀ r ∈ rs, Dated.IsWhole r) : decode inline (bytes ⟨0⟩ rs) = .ok rs := by
  rw [decode_bytes, resolve, reported?_encode]
  simp only [ErrorHolder.isError, bne_self_eq_false, Bool.false_eq_true, if_false,
    content?_encode, records?_map_toNode h]

theorem decode_bytes_of_ne_zero [Dated R] [LawfulRecord R] (inline : Bool) (rs : List R)
    {code : Int64} (h : code ≠ 0) :
    decode inline (bytes ⟨code⟩ rs) = (.error (.remote code) : Except Error (List R)) := by
  have herror : (ErrorHolder.mk code).isError = true := bne_iff_ne.2 h
  rw [decode_bytes, resolve, reported?_encode, if_pos herror]

theorem isWhole_of_decode [Dated R] [LawfulRecord R] {inline : Bool} {body : ByteArray}
    {rs : List R} (h : decode inline body = .ok rs) : ∀ r ∈ rs, Dated.IsWhole r := by
  rcases records?_of_decode h with rfl | ⟨node, hnode⟩
  · simp
  · exact isWhole_of_records? hnode

theorem roundTrips_of_lawful (R : Type) [Record R] [Dated R] [LawfulRecord R] : RoundTrips R where
  records inline _ h := decode_bytes_of_isWhole inline h
  error inline rs _ h := ⟨decode_bytes_of_ne_zero inline rs h, rfl⟩
  decoded _ again _ _ h :=
    ⟨isWhole_of_decode h, decode_bytes_of_isWhole again (isWhole_of_decode h)⟩

/-- Every type of records travels in envelopes without loss. -/
theorem roundTrips :
    RoundTrips Int64 ∧ RoundTrips Int32 ∧ RoundTrips Bool ∧ RoundTrips ErrorHolder ∧
      RoundTrips Login ∧ RoundTrips Heater ∧ RoundTrips Zone :=
  ⟨roundTrips_of_lawful _, roundTrips_of_lawful _, roundTrips_of_lawful _, roundTrips_of_lawful _,
    roundTrips_of_lawful _, roundTrips_of_lawful _, roundTrips_of_lawful _⟩

/-- A zone with an escaped name, the last moment and the lowest numbers. -/
def farZone : Zone where
  id := some Int64.minValue
  name := some "\"\\\x00\u2028😀"
  away := true
  awayTill := some ⟨Timestamp.last * Timestamp.perMilli, by decide, by decide⟩
  targetTemperature := some ⟨Int32.minValue⟩

theorem roundTrips_farZone :
    (∀ z ∈ [farZone, {}], Dated.IsWhole z) ∧
      decode true (bytes ⟨0⟩ [farZone, {}]) = .ok [farZone, {}] := by
  have h : ∀ z ∈ [farZone, {}], Dated.IsWhole z := by decide
  exact ⟨h, roundTrips.2.2.2.2.2.2.records true [farZone, {}] h⟩

end HeaterLink.Envelope
