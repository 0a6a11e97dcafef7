import HeaterLink.Proofs.Envelope.RoundTrip

/-!
# What a body resolves to

The outcome of decoding a body, read off the document in it. An error that the
document reports comes first, whatever else is there; next comes content that
cannot be read; everything else is a list of records, empty where nothing holds
any. These are all the outcomes.

## Main definitions

* `Envelope.Reports`, the error that a document reports.
* `Envelope.Holds`, the node of a document that is to hold the records.
* `Envelope.Carries`, the records that a node carries.

## Main statements

* `Envelope.resolution`, when each outcome arises, for every type of records.
-/

namespace HeaterLink.Envelope

open Json

variable {R : Type} [Record R] {inline : Bool} {doc node : Json} {code : Int64} {rs : List R}

/-! ## Documents -/

/-- An object whose `errorTypeId` reads as this code. -/
def Names (node : Json) (code : Int64) : Prop :=
  ∃ members value, node = .object members ∧ last? "errorTypeId" members = some value ∧
    value.int64? = some code

/-- The document reports an error, at the head of a list or as a bare object. -/
inductive Reports : Json → Int64 → Prop where
  | listed {head : Json} {rest : List Json} {code : Int64} (hc : code ≠ 0)
      (hn : Names head code) : Reports (.array (head :: rest)) code
  | bare {doc : Json} {code : Int64} (hc : code ≠ 0) (hn : Names doc code) : Reports doc code

/-- The records are to be found in this node: the second of a list, or the document itself. -/
inductive Holds (inline : Bool) : Json → Json → Prop where
  | listed {head content : Json} {rest : List Json} (hn : content ≠ .null) :
      Holds inline (.array (head :: content :: rest)) content
  | bare {doc : Json} (hi : inline = false) (ha : ∀ items, doc ≠ .array items)
      (hn : doc ≠ .null) : Holds inline doc doc

/-- One record, or a list of them in their order. -/
inductive Carries : Json → List R → Prop where
  | one {node : Json} {r : R} (h : Record.ofNode? node = some r) : Carries node [r]
  | many {items : List Json} {rs : List R}
      (h : items.map Record.ofNode? = rs.map some) : Carries (.array items) rs

/-! ## Errors -/

theorem names_iff : Names node code ↔ node.field int64? "errorTypeId" = some code := by
  constructor
  · rintro ⟨members, value, rfl, hl, hv⟩
    rw [field_object, hl, Option.bind_some, hv]
  · intro h
    obtain ⟨value, hm, hv⟩ := Option.bind_eq_some_iff.mp h
    cases node with
    | object members => exact ⟨members, value, rfl, hm, hv⟩
    | _ => cases hm

theorem code?_eq_some_iff : code? node = some code ↔ code ≠ 0 ∧ Names node code := by
  rw [names_iff, code?, ErrorHolder.ofNode?]
  cases node.field int64? "errorTypeId" with
  | none => simp
  | some named =>
    by_cases hz : named = 0
    · subst hz
      exact ⟨fun h => absurd h.symm (Option.some_ne_none code),
        fun h => absurd (Option.some.inj h.2).symm h.1⟩
    · have herror : (ErrorHolder.mk named).isError = true := bne_iff_ne.mpr hz
      simp only [Option.map_some, Option.bind_some, herror, if_true, Option.some.injEq]
      exact ⟨fun h => ⟨h ▸ hz, h⟩, And.right⟩

theorem reported?_eq_some_iff : reported? inline doc = some code ↔ Reports doc code := by
  constructor
  · intro h
    obtain ⟨part, hp, hcode⟩ := Option.bind_eq_some_iff.mp h
    obtain ⟨hc, hn⟩ := code?_eq_some_iff.mp hcode
    cases doc with
    | null => cases hp
    | array items =>
      cases items with
      | nil => cases hp
      | cons head rest =>
        obtain rfl := Option.some.inj hp
        exact .listed hc hn
    | _ =>
      obtain rfl := Option.some.inj hp
      exact .bare hc hn
  · rintro (⟨hc, hn⟩ | ⟨hc, hn⟩)
    · exact code?_eq_some_iff.mpr ⟨hc, hn⟩
    · have hcode := code?_eq_some_iff.mpr ⟨hc, hn⟩
      obtain ⟨members, value, rfl, -⟩ := hn
      exact hcode

theorem reported?_eq_none_iff : reported? inline doc = none ↔ ∀ code, ¬ Reports doc code := by
  simp only [Option.eq_none_iff_forall_ne_some, ne_eq, reported?_eq_some_iff]

/-! ## Content -/

theorem content?_eq_some_iff :
    (parts inline doc).content? = some node ∧ node ≠ .null ↔ Holds inline doc node := by
  constructor
  · rintro ⟨h, hn⟩
    cases doc with
    | array items =>
      match items, h with
      | _ :: _ :: _, h =>
        obtain rfl := Option.some.inj h
        exact .listed hn
    | null => cases h
    | _ =>
      cases inline with
      | true => cases h
      | false =>
        obtain rfl := Option.some.inj h
        exact .bare rfl nofun nofun
  · rintro (hn | ⟨rfl, ha, hn⟩)
    · exact ⟨rfl, hn⟩
    · cases doc with
      | array items => exact absurd rfl (ha items)
      | null => exact absurd rfl hn
      | _ => exact ⟨rfl, hn⟩

/-- A type whose records are never read from a whole array. -/
class Unlisted (R : Type) [Record R] : Prop where
  ofNode?_array (items : List Json) : Record.ofNode? (.array items) = (none : Option R)

instance : Unlisted Int64 := ⟨fun _ => rfl⟩
instance : Unlisted Int32 := ⟨fun _ => rfl⟩
instance : Unlisted Bool := ⟨fun _ => rfl⟩
instance : Unlisted ErrorHolder := ⟨fun _ => rfl⟩
instance : Unlisted Login := ⟨fun _ => rfl⟩
instance : Unlisted Heater := ⟨fun _ => rfl⟩
instance : Unlisted Zone := ⟨fun _ => rfl⟩

theorem records?_eq_some_iff [Unlisted R] : records? node = some rs ↔ Carries node rs := by
  constructor
  · intro h
    cases node with
    | array items => exact .many (mapM_eq_some_iff.mp h)
    | _ =>
      obtain ⟨r, hr, rfl⟩ := Option.map_eq_some_iff.mp h
      exact .one hr
  · rintro (hr | hf)
    · cases node with
      | array items => simp [Unlisted.ofNode?_array] at hr
      | _ => exact Option.map_eq_some_iff.mpr ⟨_, hr, rfl⟩
    · exact mapM_eq_some_iff.mpr hf

theorem records?_eq_none_iff [Unlisted R] :
    records? (R := R) node = none ↔ ∀ rs : List R, ¬ Carries node rs := by
  simp only [Option.eq_none_iff_forall_ne_some, ne_eq, records?_eq_some_iff]

/-! ## Outcomes -/

/-- How bodies are decoded to lists of these records. -/
structure Resolves (R : Type) [Record R] : Prop where
  remote (inline : Bool) (body : ByteArray) (code : Int64) :
    decode inline body = (.error (.remote code) : Except Error (List R)) ↔
      ∃ doc, readBytes body = .ok doc ∧ Reports doc code
  objectMapping (inline : Bool) (body : ByteArray) :
    decode inline body = (.error .objectMapping : Except Error (List R)) ↔
      ∃ doc node, readBytes body = .ok doc ∧ (∀ code, ¬ Reports doc code) ∧
        Holds inline doc node ∧ ∀ rs : List R, ¬ Carries node rs
  records (inline : Bool) (body : ByteArray) (rs : List R) :
    decode inline body = .ok rs ↔
      (∃ fault, readBytes body = .error fault) ∧ rs = [] ∨
      ∃ doc, readBytes body = .ok doc ∧ (∀ code, ¬ Reports doc code) ∧
        ((∀ node, ¬ Holds inline doc node) ∧ rs = [] ∨
          ∃ node, Holds inline doc node ∧ Carries node rs)
  /-- There are no other errors. -/
  error (inline : Bool) (body : ByteArray) (e : Error)
    (h : decode inline body = (.error e : Except Error (List R))) :
    e = .objectMapping ∨ ∃ code, e = .remote code

theorem resolve_of_reports (h : Reports doc code) :
    resolve (R := R) inline doc = .error (.remote code) := by
  rw [resolve, reported?_eq_some_iff.mpr h]

theorem resolve_of_not_holds (hr : ∀ code, ¬ Reports doc code)
    (hh : ∀ node, ¬ Holds inline doc node) : resolve (R := R) inline doc = .ok [] := by
  rw [resolve, reported?_eq_none_iff.mpr hr]
  cases hc : (parts inline doc).content? with
  | none => rfl
  | some node =>
    by_cases hn : node = .null
    · rw [hn]
    · exact absurd (content?_eq_some_iff.mp ⟨hc, hn⟩) (hh node)

theorem resolve_of_holds (hr : ∀ code, ¬ Reports doc code) (hh : Holds inline doc node) :
    resolve (R := R) inline doc =
      match records? node with
      | some rs => .ok rs
      | none => .error .objectMapping := by
  obtain ⟨hc, hn⟩ := content?_eq_some_iff.mpr hh
  rw [resolve, reported?_eq_none_iff.mpr hr, hc]
  cases node with
  | null => exact absurd rfl hn
  | _ => rfl

/-- The four outcomes for a document, each with what leads to it. -/
theorem resolve_cases [Unlisted R] (inline : Bool) (doc : Json) :
    (∃ code, Reports doc code ∧ resolve (R := R) inline doc = .error (.remote code)) ∨
    (∀ code, ¬ Reports doc code) ∧
      ((∀ node, ¬ Holds inline doc node) ∧ resolve (R := R) inline doc = .ok [] ∨
        ∃ node, Holds inline doc node ∧
          ((∃ rs : List R, Carries node rs ∧ resolve inline doc = .ok rs) ∨
            (∀ rs : List R, ¬ Carries node rs) ∧
              resolve (R := R) inline doc = .error .objectMapping)) := by
  by_cases hr : ∃ code, Reports doc code
  · obtain ⟨code, hr⟩ := hr
    exact .inl ⟨code, hr, resolve_of_reports hr⟩
  rw [not_exists] at hr
  refine .inr ⟨hr, ?_⟩
  by_cases hh : ∃ node, Holds inline doc node
  · obtain ⟨node, hh⟩ := hh
    have hres := resolve_of_holds (R := R) hr hh
    cases hs : records? (R := R) node with
    | none => exact .inr ⟨node, hh, .inr ⟨records?_eq_none_iff.mp hs, by rw [hres, hs]⟩⟩
    | some rs => exact .inr ⟨node, hh, .inl ⟨rs, records?_eq_some_iff.mp hs, by rw [hres, hs]⟩⟩
  · rw [not_exists] at hh
    exact .inl ⟨hh, resolve_of_not_holds hr hh⟩

section Documents

variable [Unlisted R]

theorem resolve_eq_remote_iff :
    resolve (R := R) inline doc = .error (.remote code) ↔ Reports doc code := by
  refine ⟨fun h => ?_, resolve_of_reports⟩
  rcases resolve_cases (R := R) inline doc with
    ⟨c, hr, hres⟩ | ⟨-, ⟨-, hres⟩ | ⟨node, -, ⟨rs, -, hres⟩ | ⟨-, hres⟩⟩⟩
  all_goals rw [hres] at h; cases h
  exact hr

theorem resolve_eq_objectMapping_iff :
    resolve (R := R) inline doc = .error .objectMapping ↔
      (∀ code, ¬ Reports doc code) ∧
        ∃ node, Holds inline doc node ∧ ∀ rs : List R, ¬ Carries node rs := by
  constructor
  · intro h
    rcases resolve_cases (R := R) inline doc with
      ⟨c, -, hres⟩ | ⟨hr, ⟨-, hres⟩ | ⟨node, hh, ⟨rs, -, hres⟩ | ⟨hc, hres⟩⟩⟩
    all_goals rw [hres] at h; cases h
    exact ⟨hr, node, hh, hc⟩
  · rintro ⟨hr, node, hh, hc⟩
    rw [resolve_of_holds hr hh, records?_eq_none_iff.mpr hc]

theorem resolve_eq_ok_iff :
    resolve inline doc = .ok rs ↔
      (∀ code, ¬ Reports doc code) ∧
        ((∀ node, ¬ Holds inline doc node) ∧ rs = [] ∨
          ∃ node, Holds inline doc node ∧ Carries node rs) := by
  constructor
  · intro h
    rcases resolve_cases (R := R) inline doc with
      ⟨c, -, hres⟩ | ⟨hr, ⟨hh, hres⟩ | ⟨node, hh, ⟨rs, hc, hres⟩ | ⟨-, hres⟩⟩⟩
    all_goals rw [hres] at h; cases h
    · exact ⟨hr, .inl ⟨hh, rfl⟩⟩
    · exact ⟨hr, .inr ⟨node, hh, hc⟩⟩
  · rintro ⟨hr, ⟨hh, rfl⟩ | ⟨node, hh, hc⟩⟩
    · exact resolve_of_not_holds hr hh
    · rw [resolve_of_holds hr hh, records?_eq_some_iff.mpr hc]

end Documents

/-! ## Bodies -/

theorem resolves_of_unlisted (R : Type) [Record R] [Unlisted R] : Resolves R where
  remote inline body code := by
    cases hb : readBytes body with
    | error fault => simp [decode, hb]
    | ok doc => simp [decode, hb, resolve_eq_remote_iff]
  objectMapping inline body := by
    cases hb : readBytes body with
    | error fault => simp [decode, hb]
    | ok doc => simp [decode, hb, resolve_eq_objectMapping_iff]
  records inline body rs := by
    cases hb : readBytes body with
    | error fault => simp [decode, hb, eq_comm]
    | ok doc => simp [decode, hb, resolve_eq_ok_iff]
  error inline body e h := by
    unfold decode at h
    split at h
    · rename_i doc hb
      rcases resolve_cases (R := R) inline doc with
        ⟨c, -, hres⟩ | ⟨-, ⟨-, hres⟩ | ⟨node, -, ⟨rs, -, hres⟩ | ⟨-, hres⟩⟩⟩
      all_goals rw [hres] at h; cases h
      · exact .inr ⟨c, rfl⟩
      · exact .inl rfl
    · cases h

/-- Bodies are decoded in this way to every type of records. -/
theorem resolution :
    Resolves Int64 ∧ Resolves Int32 ∧ Resolves Bool ∧ Resolves ErrorHolder ∧ Resolves Login ∧
      Resolves Heater ∧ Resolves Zone :=
  ⟨resolves_of_unlisted _, resolves_of_unlisted _, resolves_of_unlisted _, resolves_of_unlisted _,
    resolves_of_unlisted _, resolves_of_unlisted _, resolves_of_unlisted _⟩

/-- A refusal next to content that is no zone. -/
def refusal : Json := .array [ErrorHolder.toNode ⟨10001⟩, .array [.bool true]]

theorem plain_refusal : Plain 2 refusal := by
  refine .array fun x hx => ?_
  simp only [List.mem_cons, List.not_mem_nil, or_false] at hx
  rcases hx with rfl | rfl
  · exact ErrorHolder.plain_toNode _
  · exact .array fun y hy => by simp_all

/-- The refusal is reported, and not that its content is unreadable. -/
theorem resolution_refusal :
    decode true refusal.render.toUTF8 = (.error (.remote 10001) : Except Error (List Zone)) := by
  have hread : readBytes refusal.render.toUTF8 = .ok refusal :=
    readBytes_render (plain_refusal.mono (by decide))
  have hnames : Names (ErrorHolder.toNode ⟨10001⟩) 10001 := ⟨_, _, rfl, rfl, int64?_ofInt64 _⟩
  exact (resolution.2.2.2.2.2.2.remote true _ 10001).mpr
    ⟨refusal, hread, .listed (by decide) hnames⟩

end HeaterLink.Envelope
