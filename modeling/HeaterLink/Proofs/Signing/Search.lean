import HeaterLink.Proofs.BigEndian
import HeaterLink.Proofs.Signing.Verification

/-!
# The search for a signing number

Nothing but a usable candidate ends the search, and a candidate has no more bytes than fit whole
into q. Below 128 that is none: every candidate is zero, and a key that was read without complaint
signs nothing. From 128 on there are usable numbers of the width, and the search ends if one of them
is drawn. The generator has `256 ^ 40` states, so it draws no new number after as many candidates,
and the bound of `SigningKey.sign` takes nothing away.

## Main definitions

* `Signature.Usable`, what a candidate must be.
* `SigningKey.EndsWith`, what a search that ends comes to.

## Main statements

* `Nonce.Generator.exists_after_lt`, all states of a generator among the first.
* `SigningKey.signing_ends_iff`, when the search ends.
* `SigningKey.not_every_signing_ends`, a key of four bits.
-/

namespace HeaterLink

/-! ## States that repeat -/

/-- As many steps as there are states reach every state that is ever reached. -/
theorem exists_lt_iterate {σ : Type} {step : σ → σ} {s : σ} {code : σ → Nat} {bound : Nat}
    (small : ∀ n, code (step^[n] s) < bound)
    (faithful : ∀ m n, code (step^[m] s) = code (step^[n] s) → step^[m] s = step^[n] s) (m : Nat) :
    ∃ n < bound, step^[n] s = step^[m] s := by
  -- a late state is an earlier one, since two of the first `bound + 1` are the same
  induction m using Nat.strong_induction_on with
  | _ m ih =>
    rcases lt_or_ge m bound with fits | beyond
    · exact ⟨m, fits, rfl⟩
    · obtain ⟨i, j, before, early, same⟩ : ∃ i j, i < j ∧ j ≤ bound ∧
          step^[i] s = step^[j] s := by
        obtain ⟨i, hi, j, hj, distinct, same⟩ :=
          Finset.exists_ne_map_eq_of_card_lt_of_maps_to (s := Finset.range (bound + 1))
            (t := Finset.range bound) (f := fun n => code (step^[n] s)) (by simp)
            (fun n _ => by simpa using small n)
        simp only [Finset.mem_range] at hi hj
        rcases lt_or_gt_of_ne distinct with order | order
        · exact ⟨i, j, order, by omega, faithful i j same⟩
        · exact ⟨j, i, order, by omega, faithful j i same.symm⟩
      have shorter : step^[m - j + i] s = step^[m] s := by
        rw [Function.iterate_add_apply, same, ← Function.iterate_add_apply]
        congr
        omega
      obtain ⟨n, hn, reached⟩ := ih (m - j + i) (by omega)
      exact ⟨n, hn, reached.trans shorter⟩

namespace Nonce.Generator

/-- Both parts are one digest long. -/
def Sized (s : Generator) : Prop := s.key.length = 20 ∧ s.value.length = 20

theorem sized_update (s : Generator) (bytes : List UInt8) : (s.update bytes).Sized :=
  ⟨Hmac.length_digest _ _, Hmac.length_digest _ _⟩

theorem sized_after {s : Generator} (hs : s.Sized) (width n : Nat) : (s.after width n).Sized := by
  induction n generalizing s with
  | zero => exact hs
  | succ n ih => exact ih (sized_update _ _)

theorem after_eq_iterate (width n : Nat) (s : Generator) :
    s.after width n = (fun s : Generator => (s.next width).2)^[n] s := by
  induction n generalizing s with
  | zero => rfl
  | succ n ih => exact ih _

/-- The number that both parts spell together. -/
def code (s : Generator) : Nat := Bytes.toNat (s.key ++ s.value)

theorem code_lt {s : Generator} (hs : s.Sized) : s.code < 256 ^ 40 := by
  have fits := Bytes.toNat_lt (s.key ++ s.value)
  rwa [List.length_append, hs.1, hs.2] at fits

theorem code_injective {s t : Generator} (hs : s.Sized) (ht : t.Sized) (h : s.code = t.code) :
    s = t := by
  have lengths : (s.key ++ s.value).length = (t.key ++ t.value).length := by
    rw [List.length_append, List.length_append, hs.1, hs.2, ht.1, ht.2]
  have bytes : s.key ++ s.value = t.key ++ t.value := by
    rw [← Bytes.bigEndian_toNat (s.key ++ s.value), ← Bytes.bigEndian_toNat (t.key ++ t.value),
      lengths]
    exact congrArg _ h
  obtain ⟨key, value⟩ := List.append_inj bytes (hs.1.trans ht.1.symm)
  cases s
  cases t
  simp_all

theorem exists_after_lt {s : Generator} (hs : s.Sized) (width m : Nat) :
    ∃ n < 256 ^ 40, s.after width n = s.after width m := by
  have sized (n : Nat) : ((fun s : Generator => (s.next width).2)^[n] s).Sized :=
    after_eq_iterate width n s ▸ sized_after hs width n
  simp only [after_eq_iterate]
  exact exists_lt_iterate (fun n => code_lt (sized n))
    (fun m n => code_injective (sized m) (sized n)) m

theorem next_lt (width : Nat) (s : Generator) : (s.next width).1 < 256 ^ width :=
  (Bytes.toNat_lt _).trans_le (Nat.pow_le_pow_right (by decide) (List.length_take_le _ _))

end Nonce.Generator

/-! ## Searches -/

theorem Nonce.firstOf_of_le {α : Type} {width limit more : Nat} {use? : Nat → Option α}
    {s : Generator} {a : α} (h : firstOf width use? limit s = some a) (hl : limit ≤ more) :
    firstOf width use? more s = some a := by
  induction limit generalizing s more with
  | zero => cases h
  | succ limit ih =>
    obtain ⟨more, rfl⟩ : ∃ n, more = n + 1 := ⟨more - 1, by omega⟩
    rw [firstOf] at h ⊢
    dsimp only at h ⊢
    split at h
    · exact h
    · exact ih h (by omega)

theorem Nonce.firstOf_eq_none_iff {α : Type} {width limit : Nat} {use? : Nat → Option α}
    {s : Generator} : firstOf width use? limit s = none ↔
      ∀ n < limit, use? ((s.after width n).next width).1 = none := by
  refine ⟨firstOf_eq_none, fun refused => ?_⟩
  induction limit generalizing s with
  | zero => rfl
  | succ limit ih =>
    rw [firstOf]
    dsimp only
    rw [show use? (s.next width).1 = none from refused 0 (by omega)]
    exact ih fun n hn => refused (n + 1) (by omega)

namespace Signature

/-- A signing number is positive, below q and invertible modulo q. -/
def Usable (q candidate : Nat) : Prop := 0 < candidate ∧ candidate < q ∧ candidate.Coprime q

theorem usable?_eq_none_iff {q candidate : Nat} :
    usable? q candidate = none ↔ ¬ Usable q candidate := by
  refine ⟨usable?_eq_none, fun h => ?_⟩
  rw [usable?]
  split
  · next range =>
    have unrelated : ¬ candidate.Coprime q := fun coprime => h ⟨range.1, range.2, coprime⟩
    rw [← Modular.isSome_inverse?_iff (range.1.trans range.2), Option.not_isSome_iff_eq_none]
      at unrelated
    rw [unrelated, Option.map_none]
  · rfl

variable {limit more : Nat} {k : SigningKey} {z : Nat} {message : List UInt8}

theorem nonceWithin?_eq_none_iff :
    nonceWithin? limit k z = none ↔ ∀ n < limit, ¬ Usable k.q (candidate k z n) := by
  simp only [nonceWithin?, Nonce.firstOf_eq_none_iff, usable?_eq_none_iff, candidate]

theorem makeWithin_eq_exhausted_iff : makeWithin limit k message = .error .exhausted ↔
    nonceWithin? limit k (hashed k.q message) = none := by
  rw [makeWithin]
  dsimp only
  split
  · next none => simp [none]
  · next drawn => split <;> simp [drawn]

theorem makeWithin_of_le (h : makeWithin limit k message ≠ .error .exhausted)
    (hl : limit ≤ more) : makeWithin more k message = makeWithin limit k message := by
  rw [Ne, makeWithin_eq_exhausted_iff] at h
  obtain ⟨drawn, hd⟩ := Option.ne_none_iff_exists'.1 h
  have later : nonceWithin? more k (hashed k.q message) = some drawn :=
    Nonce.firstOf_of_le hd hl
  simp only [makeWithin, hd, later]

/-! ## Candidates -/

theorem candidate_lt (k : SigningKey) (z n : Nat) : candidate k z n < 256 ^ width k.q :=
  Nonce.Generator.next_lt _ _

theorem exists_candidate_lt (k : SigningKey) (z m : Nat) :
    ∃ n < 256 ^ 40, candidate k z n = candidate k z m := by
  obtain ⟨n, hn, same⟩ := Nonce.Generator.exists_after_lt
    (s := Nonce.Generator.seeded (seed k z)) (Nonce.Generator.sized_update _ _) (width k.q) m
  exact ⟨n, hn, by rw [candidate, same, candidate]⟩

theorem width_pos_iff {q : Nat} : 0 < width q ↔ 128 ≤ q := by
  have bits : 7 ≤ q.log2 ↔ 128 ≤ q := by
    rcases eq_or_ne q 0 with rfl | pos
    · simp
    · exact Nat.le_log2 pos
  rw [← bits, width, bitLength]
  omega

/-- One is usable wherever a number of the width can be positive. -/
theorem exists_usable_iff {q : Nat} : (∃ c < 256 ^ width q, Usable q c) ↔ 128 ≤ q := by
  rw [← width_pos_iff]
  constructor
  · rintro ⟨c, fits, pos, -⟩
    by_contra zero
    rw [Nat.eq_zero_of_not_pos zero, Nat.pow_zero] at fits
    omega
  · intro pos
    have large := width_pos_iff.1 pos
    exact ⟨1, Nat.one_lt_pow pos.ne' (by decide), by decide, by omega, Nat.coprime_one_left q⟩

end Signature

/-! ## Signing -/

namespace SigningKey

variable {limit more : Nat} {k : SigningKey} {parts : List Signing.Part}
  {result : Except KeyFault String}

/-- The search ends, and signing comes to this result. -/
def EndsWith (k : SigningKey) (parts : List Signing.Part) (result : Except KeyFault String) :
    Prop := result ≠ .error .exhausted ∧ ∃ limit, k.signWithin limit parts = result

theorem signWithin_eq : k.signWithin limit parts =
    (Signature.makeWithin limit k (Signing.pack parts)).map fun made =>
      String.ofList (Hex.colons made.der) := by
  rw [signWithin]
  cases Signature.makeWithin limit k (Signing.pack parts) <;> rfl

theorem signWithin_eq_exhausted_iff : k.signWithin limit parts = .error .exhausted ↔
    ∀ n < limit, ¬ Signature.Usable k.q
      (Signature.candidate k (Signature.hashed k.q (Signing.pack parts)) n) := by
  rw [← Signature.nonceWithin?_eq_none_iff, ← Signature.makeWithin_eq_exhausted_iff, signWithin_eq]
  cases Signature.makeWithin limit k (Signing.pack parts) <;> simp [Except.map]

theorem EndsWith.signWithin_of_le (h : k.EndsWith parts result)
    (hl : k.signWithin limit parts ≠ .error .exhausted) : k.signWithin limit parts = result := by
  obtain ⟨ended, enough, rfl⟩ := h
  have made {n : Nat} (hn : k.signWithin n parts ≠ .error .exhausted) :
      Signature.makeWithin n k (Signing.pack parts) ≠ .error .exhausted := by
    intro exhausted
    exact hn (by rw [signWithin_eq, exhausted]; rfl)
  rw [signWithin_eq, signWithin_eq]
  rcases Nat.le_total limit enough with order | order
  · rw [Signature.makeWithin_of_le (made hl) order]
  · rw [Signature.makeWithin_of_le (made ended) order]

theorem signWithin_eq_error {fault : KeyFault} (h : k.signWithin limit parts = .error fault) :
    fault = .unsignable ∨ fault = .exhausted := by
  rw [signWithin_eq] at h
  cases made : Signature.makeWithin limit k (Signing.pack parts) with
  | ok made' => simp [made, Except.map] at h
  | error fault' =>
    obtain rfl : fault' = fault := by simpa [made, Except.map] using h
    exact (Signature.makeWithin_eq_error made).imp_right And.left

theorem sign_ne_exhausted {n : Nat} (h : Signature.Usable k.q
    (Signature.candidate k (Signature.hashed k.q (Signing.pack parts)) n)) :
    k.sign parts ≠ .error .exhausted := by
  obtain ⟨early, hearly, same⟩ := Signature.exists_candidate_lt k
    (Signature.hashed k.q (Signing.pack parts)) n
  intro exhausted
  exact signWithin_eq_exhausted_iff.1 exhausted early hearly (same ▸ h)

theorem exists_endsWith_iff : (∃ result, k.EndsWith parts result) ↔
    ∃ n, Signature.Usable k.q
      (Signature.candidate k (Signature.hashed k.q (Signing.pack parts)) n) := by
  constructor
  · rintro ⟨result, ended, limit, rfl⟩
    rw [Ne, signWithin_eq_exhausted_iff] at ended
    push Not at ended
    obtain ⟨n, -, usable⟩ := ended
    exact ⟨n, usable⟩
  · rintro ⟨n, usable⟩
    exact ⟨_, sign_ne_exhausted usable, attempts, rfl⟩

/--
The candidates have whole bytes of q, and a usable number has room there from 128 on. The search
ends if a candidate is usable, and then in a text or in the fault that a number of the signature is
zero, which is what `SigningKey.sign` returns. If none is, and always with a smaller q, it goes on
for good.
-/
theorem signing_ends_iff (k : SigningKey) (parts : List Signing.Part) :
    let candidate := Signature.candidate k (Signature.hashed k.q (Signing.pack parts))
    (∀ n, candidate n < 256 ^ Signature.width k.q) ∧
    ((∃ c < 256 ^ Signature.width k.q, Signature.Usable k.q c) ↔ 128 ≤ k.q) ∧
    ((∃ result, k.EndsWith parts result) ↔ ∃ n, Signature.Usable k.q (candidate n)) ∧
    (∀ result, k.EndsWith parts result → k.sign parts = result ∧
      ((∃ text, result = .ok text) ∨ result = .error .unsignable)) ∧
    ((¬ ∃ result, k.EndsWith parts result) ↔ k.sign parts = .error .exhausted) ∧
    (k.q < 128 → ¬ ∃ result, k.EndsWith parts result) := by
  refine ⟨Signature.candidate_lt k _, Signature.exists_usable_iff, exists_endsWith_iff,
    fun result ended => ⟨?_, ?_⟩, ?_, fun small ends => ?_⟩
  · obtain ⟨n, usable⟩ := exists_endsWith_iff.1 ⟨result, ended⟩
    exact ended.signWithin_of_le (sign_ne_exhausted usable)
  · obtain ⟨ended, limit, rfl⟩ := ended
    cases signed : k.signWithin limit parts with
    | ok text => exact .inl ⟨text, rfl⟩
    | error fault =>
      rcases signWithin_eq_error signed with rfl | rfl
      · exact .inr rfl
      · exact absurd signed ended
  · constructor
    · intro never
      by_contra ended
      exact never ⟨_, ended, attempts, rfl⟩
    · intro exhausted ends
      obtain ⟨n, usable⟩ := exists_endsWith_iff.1 ends
      exact sign_ne_exhausted usable exhausted
  · obtain ⟨n, usable⟩ := exists_endsWith_iff.1 ends
    have large := Signature.exists_usable_iff.1 ⟨_, Signature.candidate_lt k _ n, usable⟩
    omega

/-- With the prime 251 for q the search ends, and signing returns what it ends with. -/
theorem signing_ends_iff_eightBits :
    EndsWith ⟨503, 251, 4, 7, 288⟩ [.long 7] (.ok "30:07:02:02:00:BC:02:01:5C") ∧
    SigningKey.sign ⟨503, 251, 4, 7, 288⟩ [.long 7] = .ok "30:07:02:02:00:BC:02:01:5C" ∧
    ∃ n, Signature.Usable 251 (Signature.candidate ⟨503, 251, 4, 7, 288⟩
      (Signature.hashed 251 (Signing.pack [.long 7])) n) := by
  have early : SigningKey.signWithin 16 ⟨503, 251, 4, 7, 288⟩ [.long 7] =
      .ok "30:07:02:02:00:BC:02:01:5C" := by
    decide +kernel
  have ends : EndsWith ⟨503, 251, 4, 7, 288⟩ [.long 7] (.ok "30:07:02:02:00:BC:02:01:5C") :=
    ⟨nofun, 16, early⟩
  obtain ⟨-, -, ends_iff, result, -⟩ := signing_ends_iff ⟨503, 251, 4, 7, 288⟩ [.long 7]
  exact ⟨ends, (result _ ends).1, ends_iff.1 ⟨_, ends⟩⟩

/-- With the prime 11 for q a key is read, and its search never ends, whatever is to be signed. -/
theorem not_every_signing_ends :
    ¬ ∀ (environment : Environment) (key : String) (k : SigningKey) (parts : List Signing.Part),
      ofText environment key = .ok k → ∃ result, k.EndsWith parts result := by
  intro h
  have read : ofText .bare
      ("30:1E:02:01:00:30:14:06:07:2A:86:48:CE:38:04:01:30:09:02:01:17:02:01:0B:" ++
      "02:01:04:04:03:02:01:03") = .ok ⟨23, 11, 4, 3, 18⟩ := by
    decide +kernel
  obtain ⟨n, usable⟩ := exists_endsWith_iff.1 (h _ _ _ [.long 7] read)
  have large := Signature.exists_usable_iff.1 ⟨_, Signature.candidate_lt _ _ n, usable⟩
  exact absurd large (by decide)

end SigningKey

end HeaterLink
