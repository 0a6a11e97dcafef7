import HeaterLink.Proofs.Envelope.Resolution
import HeaterLink.Proofs.Json.Written

/-!
# Lists of texts that also stand alone

A text is decoded in the same way whether it is a body of its own, the content
of a pair, or one of a list of texts there. The list gives one record for each
text, in their order, or none at all.

## Main definitions

* `Envelope.Single`, the nodes that a bare body takes for one record.
* `Envelope.listBody` and `Envelope.pairBody`, the bodies around such texts.

## Main statements

* `Envelope.elementwise`, for every type of records.
-/

namespace HeaterLink.Envelope

open Json

variable {R : Type} [Record R]

/-! ## Bare documents -/

/-- A node that is no list, that is there, and that reports no error. -/
structure Single (node : Json) : Prop where
  not_array (items : List Json) : node ≠ .array items
  not_null : node ≠ .null
  quiet (code : Int64) (h : Names node code) : code = 0

/-- An object, unless it reports an error. -/
theorem Single.object {members : List (String × Json)}
    (h : ∀ code ∈ (last? "errorTypeId" members).bind int64?, code = 0) :
    Single (.object members) where
  not_array _ hnode := by cases hnode
  not_null hnode := by cases hnode
  quiet code := by
    rintro ⟨found, value, hnode, hl, hv⟩
    cases hnode
    exact h code (by rw [hl, Option.bind_some, hv]; rfl)

theorem Single.not_reports {node : Json} (h : Single node) (code : Int64) :
    ¬ Reports node code := by
  rintro (⟨-, -⟩ | ⟨hc, hn⟩)
  · exact h.not_array _ rfl
  · exact hc (h.quiet code hn)

/-- The outcome for content that is one node. -/
def lone (R : Type) [Record R] (node : Json) : Except Error (List R) :=
  match Record.ofNode? node with
  | some r => .ok [r]
  | none => .error .objectMapping

theorem lone_eq_ok_iff {node : Json} {r : R} :
    lone R node = .ok [r] ↔ Record.ofNode? node = some r := by
  rw [lone]
  cases Record.ofNode? (R := R) node <;> simp

theorem lone_eq_error_iff {node : Json} :
    lone R node = .error .objectMapping ↔ Record.ofNode? node = (none : Option R) := by
  rw [lone]
  cases Record.ofNode? (R := R) node <;> simp

/-- Where one node holds the records and nothing is reported, the outcome is that of the node. -/
theorem resolve_eq_lone {inline : Bool} {doc node : Json} (hr : ∀ code, ¬ Reports doc code)
    (hh : Holds inline doc node) (hs : ∀ items, node ≠ .array items) :
    resolve inline doc = lone R node := by
  have hrecords : records? node = (Record.ofNode? node).map fun r : R => [r] := by
    cases node with
    | array items => exact absurd rfl (hs items)
    | _ => rfl
  rw [resolve_of_holds hr hh, hrecords, lone]
  cases Record.ofNode? (R := R) node <;> rfl

theorem decode_eq_lone {body : ByteArray} {node : Json} (hb : readBytes body = .ok node)
    (h : Single node) : decode false body = lone R node := by
  rw [decode, hb]
  exact resolve_eq_lone h.not_reports (.bare rfl h.not_array h.not_null) h.not_array

/-! ## Bodies -/

/-- The head of a reply without an error. -/
def noError : List Char :=
  ['{', '"', 'e', 'r', 'r', 'o', 'r', 'T', 'y', 'p', 'e', 'I', 'd', '"', ':', '0', '}']

/-- The head, and a list of texts. -/
def listText (os : List (Written 125)) : List Char :=
  '[' :: (noError ++ ',' :: '[' :: (List.intercalate [','] (os.map Written.text) ++ [']', ']']))

/-- The head, and one text. -/
def pairText (o : Written 125) : List Char := '[' :: (noError ++ ',' :: (o.text ++ [']']))

/-- A text as a body of its own. -/
def bareBody (o : Written 125) : ByteArray := (String.ofList o.text).toUTF8

def listBody (os : List (Written 125)) : ByteArray := (String.ofList (listText os)).toUTF8

def pairBody (o : Written 125) : ByteArray := (String.ofList (pairText o)).toUTF8

theorem readBytes_bareBody (o : Written 125) : readBytes (bareBody o) = .ok o.value := by
  rw [bareBody, readBytes_toUTF8, o.reads]

/-- The head with its value. -/
def head (room : Nat) (h : room < Reader.maxDepth) : Written (room + 1) :=
  .ofPlain ((ErrorHolder.plain_toNode ⟨0⟩).mono (Nat.le_add_left 1 room)) h

theorem text_head {room : Nat} (h : room < Reader.maxDepth) : (head room h).text = noError := by
  show write (ErrorHolder.toNode ⟨0⟩) = noError
  decide +kernel

theorem readBytes_listBody (os : List (Written 125)) : readBytes (listBody os) =
    .ok (.array [ErrorHolder.toNode ⟨0⟩, .array (os.map Written.value)]) := by
  have htext : listText os =
      arrayText noBlanks [head 125 (by decide), .ofElements noBlanks os (by decide)] := by
    simp [listText, arrayText, noBlanks, text_head, Written.ofElements]
  rw [listBody, readBytes_toUTF8, htext]
  exact readChars_arrayText noBlanks _ (by decide)

theorem readBytes_pairBody (o : Written 125) :
    readBytes (pairBody o) = .ok (.array [ErrorHolder.toNode ⟨0⟩, o.value]) := by
  have htext : pairText o = arrayText noBlanks [head 124 (by decide), o] := by
    simp [pairText, arrayText, noBlanks, text_head]
  rw [pairBody, readBytes_toUTF8, htext]
  exact readChars_arrayText noBlanks _ (by decide)

/-- Behind the head nothing is reported. -/
theorem not_reports_head (rest : List Json) (code : Int64) :
    ¬ Reports (.array (ErrorHolder.toNode ⟨0⟩ :: rest)) code := by
  intro hr
  cases hr with
  | listed hc hn =>
    obtain ⟨members, value, hm, hl, hv⟩ := hn
    cases hm
    cases hl
    rw [int64?_ofInt64] at hv
    exact hc (Option.some.inj hv).symm
  | bare _ hn =>
    obtain ⟨members, value, hm, -⟩ := hn
    cases hm

/-! ## Outcomes -/

/-- How lists of texts are decoded to records of this type. -/
structure Elementwise (R : Type) [Record R] : Prop where
  /-- A body of its own is one record or refused. -/
  bare (o : Written 125) (h : Single o.value) :
    (∃ r : R, decode false (bareBody o) = .ok [r]) ∨
      decode false (bareBody o) = (.error .objectMapping : Except Error (List R))
  /-- If each text alone gives a record, the list gives these records. -/
  records (inline : Bool) (os : List (Written 125)) (h : ∀ o ∈ os, Single o.value) (rs : List R)
    (hrs : os.map (fun o => decode false (bareBody o)) = rs.map fun r => .ok [r]) :
    decode inline (listBody os) = .ok rs
  /-- If some text alone is refused, so is the list. -/
  refused (inline : Bool) (os : List (Written 125)) (h : ∀ o ∈ os, Single o.value)
    (o : Written 125) (ho : o ∈ os)
    (hrefused : decode false (bareBody o) = (.error .objectMapping : Except Error (List R))) :
    decode inline (listBody os) = (.error .objectMapping : Except Error (List R))
  /-- A pair with one text is decoded as the text alone. -/
  pair (inline : Bool) (o : Written 125) (h : Single o.value) :
    decode inline (pairBody o) = (decode false (bareBody o) : Except Error (List R))

theorem decode_bareBody {o : Written 125} (h : Single o.value) :
    decode false (bareBody o) = lone R o.value :=
  decode_eq_lone (readBytes_bareBody o) h

theorem decode_listBody (inline : Bool) (os : List (Written 125)) :
    decode inline (listBody os) =
      match os.mapM fun o => (Record.ofNode? o.value : Option R) with
      | some rs => .ok rs
      | none => .error .objectMapping := by
  have hrecords : records? (R := R) (.array (os.map Written.value)) =
      os.mapM fun o => Record.ofNode? o.value := by
    show (os.map Written.value).mapM Record.ofNode? = _
    rw [List.mapM_map]
    rfl
  rw [decode, readBytes_listBody]
  show resolve inline _ = _
  rewrite [resolve_of_holds (not_reports_head _) (.listed (by simp)), hrecords]
  rfl

theorem decode_pairBody (inline : Bool) {o : Written 125} (h : Single o.value) :
    decode inline (pairBody o) = lone R o.value := by
  rw [decode, readBytes_pairBody]
  exact resolve_eq_lone (not_reports_head _) (.listed h.not_null) h.not_array

theorem mapM_of_lone {os : List (Written 125)} {rs : List R}
    (h : os.map (fun o => lone R o.value) = rs.map fun r => .ok [r]) :
    os.mapM (fun o => Record.ofNode? o.value) = some rs := by
  rw [mapM_eq_some_iff]
  induction os generalizing rs with
  | nil =>
    cases rs with
    | nil => rfl
    | cons r rs => cases h
  | cons o os ih =>
    cases rs with
    | nil => cases h
    | cons r rs =>
      obtain ⟨hfirst, hothers⟩ := List.cons.inj h
      rw [List.map_cons, List.map_cons, lone_eq_ok_iff.mp hfirst, ih hothers]

theorem mapM_of_lone_error {os : List (Written 125)} {o : Written 125} (ho : o ∈ os)
    (h : lone R o.value = .error .objectMapping) :
    os.mapM (fun o => (Record.ofNode? o.value : Option R)) = none := by
  rw [Option.eq_none_iff_forall_ne_some]
  intro rs hrs
  have hmem : (none : Option R) ∈ rs.map some := by
    rw [← mapM_eq_some_iff.mp hrs, ← lone_eq_error_iff.mp h]
    exact List.mem_map_of_mem ho
  simp at hmem

/-- Lists of texts are decoded in this way to every type of records. -/
theorem elementwise (R : Type) [Record R] : Elementwise R where
  bare o h := by
    rw [decode_bareBody h, lone]
    cases Record.ofNode? (R := R) o.value with
    | none => exact .inr rfl
    | some r => exact .inl ⟨r, rfl⟩
  records inline os h rs hrs := by
    rw [List.map_congr_left fun o ho => decode_bareBody (h o ho)] at hrs
    rw [decode_listBody, mapM_of_lone hrs]
  refused inline os h o ho hrefused := by
    rw [decode_bareBody (h o ho)] at hrefused
    rw [decode_listBody, mapM_of_lone_error ho hrefused]
  pair inline o h := by rw [decode_pairBody inline h, decode_bareBody h]

/-- A zone with a number, and one with nothing but blanks. -/
def twoZones : List (Written 125) :=
  [.ofMembers noBlanks
      [.named "id" (.ofPlain (.integer 124 (n := 5) ⟨by decide, by decide⟩) (by decide))]
      (by decide),
    .ofMembers ⟨['\r', '\n'], by simp [Reader.isSpace]⟩ [] (by decide)]

theorem elementwise_twoZones :
    (∀ o ∈ twoZones, Single o.value) ∧
      decode true (listBody twoZones) = .ok [{ id := some 5 }, ({} : Zone)] := by
  have hsingle : ∀ o ∈ twoZones, Single o.value := by
    intro o ho
    simp only [twoZones, List.mem_cons, List.not_mem_nil, or_false] at ho
    -- neither object has an `errorTypeId`
    rcases ho with rfl | rfl
    all_goals
      refine .object fun code hcode => ?_
      cases hcode
  refine ⟨hsingle, (elementwise Zone).records true twoZones hsingle _ ?_⟩
  rw [List.map_congr_left fun o ho => decode_bareBody (hsingle o ho)]
  rfl

end HeaterLink.Envelope
