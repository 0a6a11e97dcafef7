import HeaterLink.Http

/-!
# Exchanges with a server

What is put behind an address reaches neither its host nor the user that it names, and a call whose
request goes to an address that is accepted sends that request and nothing else.

## Main definitions

* `Environment.Accepts`, an address that can be used with whatever stands behind it.
* `Http.authority`, the part of an address that names its host and its user.
* `Http.query?`, the query of an address.

## Main statements

* `Http.mem_authority_append` and `Http.query?_append`, addresses with more behind them.
* `Http.sent_perform` and `Http.receive_perform`, what a call sends and what it comes to.
-/

namespace HeaterLink

namespace Http

/-! ## Addresses -/

/-- A path or a query, which ends what stands before it. -/
def IsBeyond (more : String) : Prop := ∃ mark ∈ ['/', '?'], ∃ rest, more.toList = mark :: rest

/-- The part of an address that names its host, and the user in front of the host: what follows the
scheme and its slashes, as far as the path, the query or the fragment. -/
def authority (url : String) : List Char :=
  let hierarchy := (url.toList.dropWhile (· ≠ ':')).drop 1
  (hierarchy.dropWhile fun c => c = '/' ∨ c = '\\' ∨ c ≤ ' ').takeWhile
    fun c => c ≠ '/' ∧ c ≠ '?' ∧ c ≠ '#'

/-- The query of an address, as a server reads it: what follows the first question mark, as far as
the mark of a fragment. -/
def query? (url : String) : Option String :=
  match (url.toList.takeWhile (· ≠ '#')).dropWhile (· ≠ '?') with
  | [] => none
  | _ :: query => some (String.ofList query)

/-- The same text with characters of `more` behind it. -/
def Extends (more cs ds : List Char) : Prop := ∃ es ⊆ more, ds = cs ++ es

namespace Extends

variable {more cs ds : List Char}

theorem append (cs more : List Char) : Extends more cs (cs ++ more) :=
  ⟨more, List.Subset.refl _, rfl⟩

theorem drop (h : Extends more cs ds) (n : Nat) : Extends more (cs.drop n) (ds.drop n) := by
  obtain ⟨es, sub, rfl⟩ := h
  exact ⟨_, fun _ mem => sub (List.drop_subset _ es mem), List.drop_append⟩

theorem dropWhile (h : Extends more cs ds) (p : Char → Bool) :
    Extends more (cs.dropWhile p) (ds.dropWhile p) := by
  obtain ⟨es, sub, rfl⟩ := h
  rw [List.dropWhile_append]
  split
  · next none =>
    rw [List.isEmpty_iff.1 none]
    exact ⟨_, fun _ mem => sub ((List.dropWhile_sublist p).subset mem), rfl⟩
  · exact ⟨es, sub, rfl⟩

theorem takeWhile (h : Extends more cs ds) (p : Char → Bool) :
    Extends more (cs.takeWhile p) (ds.takeWhile p) := by
  obtain ⟨es, sub, rfl⟩ := h
  rw [List.takeWhile_append]
  split
  · next all =>
    rw [(List.takeWhile_prefix p).eq_of_length all]
    exact ⟨_, fun _ mem => sub ((List.takeWhile_sublist p).subset mem), rfl⟩
  · exact ⟨[], List.nil_subset _, (List.append_nil _).symm⟩

end Extends

/-- Nothing comes into the authority but what was in it or stands behind. -/
theorem mem_authority_append {base more : String} {c : Char}
    (h : c ∈ authority (base ++ more)) : c ∈ authority base ∨ c ∈ more.toList := by
  obtain ⟨es, sub, parts⟩ : Extends more.toList (authority base) (authority (base ++ more)) := by
    rw [authority, authority, String.toList_append]
    exact ((((Extends.append _ _).dropWhile _).drop _).dropWhile _).takeWhile _
  rw [parts, List.mem_append] at h
  exact h.imp_right fun mem => sub mem

theorem query?_append {base query : String} (hb : ∀ c ∈ base.toList, c ≠ '?' ∧ c ≠ '#')
    (hq : '#' ∉ query.toList) : query? (base ++ "?" ++ query) = some query := by
  have text : (base ++ "?" ++ query).toList = base.toList ++ '?' :: query.toList := by simp
  have unmarked : ∀ c ∈ base.toList ++ '?' :: query.toList, decide (c ≠ '#') = true := by
    simp only [List.mem_append, List.mem_cons, decide_eq_true_eq]
    rintro c (hc | rfl | hc)
    · exact (hb c hc).2
    · decide
    · rintro rfl
      exact hq hc
  have whole : (base.toList ++ '?' :: query.toList).takeWhile (fun c => decide (c ≠ '#')) =
      base.toList ++ '?' :: query.toList := by
    simpa using (List.takeWhile_append_of_pos unmarked : List.takeWhile _ (_ ++ []) = _)
  have front : ∀ c ∈ base.toList, decide (c ≠ '?') = true := fun c hc => decide_eq_true (hb c hc).1
  rw [query?, text, whole, List.dropWhile_append_of_pos front]
  simp

end Http

/-! ## Environments -/

namespace Environment

variable {environment : Environment} {base more : String}

/-- An address that can be used, whatever path or query stands behind it. -/
def Accepts (environment : Environment) (base : String) : Prop :=
  ∀ more, Http.IsBeyond more → environment.addressFault? (base ++ more) = none

/-- Headers are made of an address only for the user that it names. -/
def NamesUsers (environment : Environment) : Prop :=
  ∀ url, '@' ∉ Http.authority url → environment.addressHeaders url = []

theorem NamesUsers.addressHeaders_append (h : environment.NamesUsers)
    (hb : '@' ∉ Http.authority base) (hm : '@' ∉ more.toList) :
    environment.addressHeaders (base ++ more) = [] :=
  h _ fun mem => (Http.mem_authority_append mem).elim hb hm

end Environment

/-! ## Calls -/

namespace Http

variable {α : Type} {call : Call α} {n : Network}

/-- A server that can be reached gets the request of a call, once. -/
theorem sent_perform (h : n.environment.addressFault? call.request.url = none) :
    (call.perform n).2.sent = n.sent ++ [call.request.outgoing n.environment] := by
  simp [Call.perform, Network.send, h]

/-- The next outcome is what the call makes its result of. -/
theorem receive_perform {outcome : Outcome} {later : List Outcome}
    (h : n.environment.addressFault? call.request.url = none)
    (ho : n.outcomes = outcome :: later) : (call.perform n).1 = call.receive outcome := by
  simp [Call.perform, Network.send, h, ho]

end Http

end HeaterLink
