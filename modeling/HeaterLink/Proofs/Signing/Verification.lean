import HeaterLink.Proofs.ModularInverse
import HeaterLink.Proofs.ModularPower
import HeaterLink.Proofs.Signing.Der
import HeaterLink.Proofs.Signing.KeyText
import HeaterLink.Signing.Verification

/-!
# Signatures verify

Modulo p the powers of g repeat after q, so the exponents that a receiver adds
up can be taken modulo q, where they give the signing number. The text of a
signature reads back as its two numbers, since neither takes more bytes than
the parameters that the key was read with.

## Main statements

* `Signature.ofNonce_verifies`, the equation that a receiver checks.
* `Signature.ofDer?_der`, the two numbers read back.
* `SigningKey.signatures_verify`, both for the text of every signature.
-/

namespace HeaterLink

/-! ## The numbers of a signature -/

theorem Nonce.firstOf_eq_some {α : Type} {width attempts : Nat} {use? : Nat → Option α}
    {s : Generator} {a : α} (h : firstOf width use? attempts s = some a) :
    ∃ candidate, use? candidate = some a := by
  induction attempts generalizing s with
  | zero => cases h
  | succ attempts ih =>
    rw [firstOf] at h
    dsimp only at h
    split at h
    · next taken => exact ⟨_, taken.trans h⟩
    · exact ih h

theorem Nonce.firstOf_eq_none {α : Type} {width attempts : Nat} {use? : Nat → Option α}
    {s : Generator} (h : firstOf width use? attempts s = none) :
    ∀ n < attempts, use? ((s.after width n).next width).1 = none := by
  induction attempts generalizing s with
  | zero => exact fun n hn => absurd hn (Nat.not_lt_zero n)
  | succ attempts ih =>
    rw [firstOf] at h
    dsimp only at h
    split at h
    · cases h
    · next refused =>
      intro n hn
      cases n with
      | zero => exact refused
      | succ n => exact ih h n (Nat.lt_of_succ_lt_succ hn)

namespace Signature

theorem usable?_eq_none {q candidate : Nat} (h : usable? q candidate = none) :
    ¬ (0 < candidate ∧ candidate < q ∧ candidate.Coprime q) := by
  rintro ⟨pos, small, coprime⟩
  rw [usable?, if_pos ⟨pos, small⟩, Option.map_eq_none_iff] at h
  have inverse := (Modular.isSome_inverse?_iff (pos.trans small)).2 coprime
  simp [h] at inverse

theorem usable?_eq_some {q candidate nonce inverse : Nat}
    (h : usable? q candidate = some (nonce, inverse)) :
    0 < nonce ∧ nonce < q ∧ nonce * inverse % q = 1 % q := by
  rw [usable?] at h
  split at h
  · next range =>
    obtain ⟨i, hi, same⟩ := Option.map_eq_some_iff.1 h
    obtain ⟨rfl, rfl⟩ := Prod.mk.inj same
    exact ⟨range.1, range.2, Modular.mul_inverse? (by omega) hi⟩
  · cases h

theorem pow_modEq {p q g a b : Nat} (hg : g ^ q ≡ 1 [MOD p]) (h : a ≡ b [MOD q]) :
    g ^ a ≡ g ^ b [MOD p] := by
  rw [← ZMod.natCast_eq_natCast_iff] at hg ⊢
  push_cast at hg ⊢
  exact pow_eq_pow_of_modEq h hg

/-- The exponents of a receiver, who knows `w`, add up to the signing number. -/
theorem exponents_modEq {q x z r s w nonce inverse : Nat} (hn : nonce * inverse ≡ 1 [MOD q])
    (hs : s ≡ inverse * (z + x * r) [MOD q]) (hw : s * w ≡ 1 [MOD q]) :
    z * w % q + x * (r * w % q) ≡ nonce [MOD q] :=
  calc z * w % q + x * (r * w % q)
    _ ≡ z * w + x * (r * w) [MOD q] := (Nat.mod_modEq _ _).add ((Nat.mod_modEq _ _).mul_left _)
    _ = 1 * (z + x * r) * w := by ring
    _ ≡ nonce * inverse * (z + x * r) * w [MOD q] := (hn.symm.mul_right _).mul_right _
    _ = nonce * (inverse * (z + x * r) * w) := by ring
    _ ≡ nonce * (s * w) [MOD q] := (hs.symm.mul_right _).mul_left _
    _ ≡ nonce * 1 [MOD q] := hw.mul_left _
    _ = nonce := Nat.mul_one _

variable {k : SigningKey} {z nonce inverse : Nat}

theorem ofNonce_verifies (hk : k.Sound) (hn : nonce * inverse % k.q = 1 % k.q)
    (hr : (ofNonce k z nonce inverse).r ≠ 0) (hs : (ofNonce k z nonce inverse).s ≠ 0) :
    (ofNonce k z nonce inverse).Verifies k.p k.q k.g k.y z := by
  have pos : 0 < k.q := hk.prime.pos
  obtain ⟨r, hr'⟩ : ∃ r, (ofNonce k z nonce inverse).r = r := ⟨_, rfl⟩
  obtain ⟨s, hs'⟩ : ∃ s, (ofNonce k z nonce inverse).s = s := ⟨_, rfl⟩
  have power : r = k.g ^ nonce % k.p % k.q := by rw [← hr', ofNonce, Modular.pow_eq]
  have share : s ≡ inverse * (z + k.x * r) [MOD k.q] := by
    rw [← hs', ← hr']
    exact Nat.mod_modEq _ _
  have small : s < k.q := hs' ▸ Nat.mod_lt _ pos
  have coprime : s.Coprime k.q := (Nat.coprime_of_lt_prime (hs' ▸ hs) small hk.prime).symm
  obtain ⟨w, -, hw⟩ := Nat.exists_mul_mod_eq_one_of_coprime coprime hk.prime.one_lt
  have undone : s * w ≡ 1 [MOD k.q] := hw.trans (Nat.mod_eq_of_lt hk.prime.one_lt).symm
  have exponents : z * w % k.q + k.x * (r * w % k.q) ≡ nonce [MOD k.q] :=
    exponents_modEq hn share undone
  have powers : k.g ^ (z * w % k.q) * k.y ^ (r * w % k.q) ≡ k.g ^ nonce [MOD k.p] :=
    calc k.g ^ (z * w % k.q) * k.y ^ (r * w % k.q)
      _ ≡ k.g ^ (z * w % k.q) * (k.g ^ k.x) ^ (r * w % k.q) [MOD k.p] :=
        (Nat.ModEq.pow _ hk.pair).mul_left _
      _ = k.g ^ (z * w % k.q + k.x * (r * w % k.q)) := by rw [← Nat.pow_mul, ← Nat.pow_add]
      _ ≡ k.g ^ nonce [MOD k.p] := pow_modEq hk.order exponents
  refine ⟨Nat.pos_of_ne_zero hr, Nat.mod_lt _ pos, Nat.pos_of_ne_zero hs, Nat.mod_lt _ pos,
    w, ?_, ?_⟩
  · rw [hs']
    exact undone
  · rw [hr', powers, ← power]

/-! ## The bytes of a signature -/

theorem ofDer?_der {made : Signature}
    (h : (Der.integer made.r).length + (Der.integer made.s).length < 256 ^ 4) :
    ofDer? made.der = some made := by
  have content : ∀ n, (Der.natural n).length ≤ (Der.integer n).length := by
    intro n
    simp only [Der.integer, Der.value, List.length_cons, List.length_append]
    omega
  have hr := content made.r
  have hs := content made.s
  have whole : (Der.integer made.r ++ Der.integer made.s).length < 256 ^ 4 := by simpa using h
  simp [ofDer?, der, Der.only?_value _ whole, Der.integer?_integer (hr.trans_lt (by omega)),
    Der.onlyInteger?_integer (hs.trans_lt (by omega))]

end Signature

namespace SigningKey

/-- The parameters are read from one sequence, whose length takes at most four bytes. -/
theorem parameters?_sizes {description : List UInt8} {p q g : Nat}
    (h : parameters? description = some (p, q, g)) :
    (Der.integer p).length + (Der.integer q).length < 256 ^ 4 := by
  simp only [parameters?, bind, Option.bind_eq_some_iff, Prod.exists] at h
  obtain ⟨name, rest, -, h⟩ := h
  split at h
  · cases h
  · simp only [Option.bind_eq_some_iff, Option.pure_def, Option.some.injEq, Prod.exists] at h
    obtain ⟨numbers, inner, p', behind, first, q', last, second, g', -, same⟩ := h
    obtain ⟨rfl, rfl, rfl⟩ : p' = p ∧ q' = q ∧ g' = g := by simpa using same
    have whole := (Der.only?_exact inner).2
    rw [Der.integer?_exact first, Der.integer?_exact second] at whole
    simp only [List.length_append] at whole
    omega

theorem ofDer?_sizes {der : List UInt8} {k : SigningKey} (h : ofDer? der = some k) :
    (Der.integer k.p).length + (Der.integer k.q).length < 256 ^ 4 := by
  obtain ⟨k', read, taken⟩ := Option.bind_eq_some_iff.1 h
  split at taken
  · obtain rfl := Option.some.inj taken
    simp only [numbers?, bind, Option.bind_eq_some_iff, Prod.exists, Option.pure_def,
      Option.some.injEq] at read
    obtain ⟨_, -, _, _, -, _, _, -, p, q, g, parameters, _, _, -, x, -, _, -, y, -, rfl⟩ := read
    exact parameters?_sizes parameters
  · cases taken

theorem exists_ofDer?_of_ofText {environment : Environment} {key : String} {k : SigningKey}
    (h : ofText environment key = .ok k) : ∃ der, ofDer? der = some k := by
  rw [ofText] at h
  cases decoded : KeyText.decode key with
  | error fault => simp [decoded, bind, Except.bind] at h
  | ok der =>
    refine ⟨der, ?_⟩
    cases read : ofDer? der with
    | none => simp [decoded, read, bind, Except.bind] at h
    | some k' => simpa [decoded, read, bind, Except.bind, pure, Except.pure] using h

end SigningKey

/-! ## Signing -/

namespace Signature

variable {limit : Nat} {k : SigningKey} {message : List UInt8}

theorem makeWithin_eq_ok {made : Signature} (h : makeWithin limit k message = .ok made) :
    ∃ nonce inverse, nonce * inverse % k.q = 1 % k.q ∧
      made = ofNonce k (hashed k.q message) nonce inverse ∧ made.r ≠ 0 ∧ made.s ≠ 0 := by
  rw [makeWithin] at h
  dsimp only at h
  split at h
  · cases h
  · next nonce inverse drawn =>
    split at h
    · cases h
    · next nonzero =>
      obtain rfl := Except.ok.inj h
      obtain ⟨candidate, used⟩ := Nonce.firstOf_eq_some drawn
      exact ⟨nonce, inverse, (usable?_eq_some used).2.2, rfl, not_or.1 nonzero⟩

theorem makeWithin_eq_error {fault : KeyFault} (h : makeWithin limit k message = .error fault) :
    fault = .unsignable ∨ fault = .exhausted ∧ ∀ n < limit,
      let c := candidate k (hashed k.q message) n
      ¬ (0 < c ∧ c < k.q ∧ c.Coprime k.q) := by
  rw [makeWithin] at h
  dsimp only at h
  split at h
  · next drawn =>
    exact .inr ⟨(Except.error.inj h).symm,
      fun n hn => usable?_eq_none (Nonce.firstOf_eq_none drawn n hn)⟩
  · split at h
    · exact .inl (Except.error.inj h).symm
    · cases h

theorem ofNonce_sizes (hp : 0 < k.p) (hq : 0 < k.q) (z nonce inverse : Nat) :
    (Der.integer (ofNonce k z nonce inverse).r).length +
        (Der.integer (ofNonce k z nonce inverse).s).length ≤
      (Der.integer k.p).length + (Der.integer k.q).length := by
  apply Nat.add_le_add <;> apply Der.length_integer_mono
  · rw [ofNonce, Modular.pow_eq]
    exact (Nat.mod_le _ _).trans (Nat.mod_lt _ hp).le
  · exact (Nat.mod_lt _ hq).le

end Signature

/--
With a sound key every text that is made is the encoding of two numbers that verify. What keeps a
text from being made is a signing fault: a number is zero, or no candidate that was tried is
positive, below q and invertible.
-/
theorem SigningKey.signatures_verify {environment : Environment} {key : String} {k : SigningKey}
    (hk : ofText environment key = .ok k) (sound : k.Sound) (limit : Nat)
    (parts : List Signing.Part) :
    (∀ text, k.signWithin limit parts = .ok text →
      ∃ made : Signature, KeyText.decode text = .ok made.der ∧
        Signature.ofDer? made.der = some made ∧
        made.Verifies k.p k.q k.g k.y (Signature.hashed k.q (Signing.pack parts))) ∧
    ∀ e, (k.signWithin limit parts).mapError Error.signing = .error e →
      e = .signing .unsignable ∨ e = .signing .exhausted ∧ ∀ n < limit,
        let c := Signature.candidate k (Signature.hashed k.q (Signing.pack parts)) n
        ¬ (0 < c ∧ c < k.q ∧ c.Coprime k.q) := by
  obtain ⟨der, read⟩ := exists_ofDer?_of_ofText hk
  obtain ⟨hp, hq, -⟩ := acceptable_of_ofDer? read
  rw [signWithin]
  cases outcome : Signature.makeWithin limit k (Signing.pack parts) with
  | error fault =>
    refine ⟨fun text h => (by cases h), fun e h => ?_⟩
    obtain rfl : Error.signing fault = e := Except.error.inj h
    exact (Signature.makeWithin_eq_error outcome).imp (congrArg _) (And.imp_left (congrArg _))
  | ok made =>
    refine ⟨fun text h => ?_, fun e h => by cases h⟩
    obtain rfl : String.ofList (Hex.colons made.der) = text := Except.ok.inj h
    obtain ⟨nonce, inverse, hn, rfl, hr, hs⟩ := Signature.makeWithin_eq_ok outcome
    have sizes := Signature.ofNonce_sizes (k := k) (by omega) (by omega)
      (Signature.hashed k.q (Signing.pack parts)) nonce inverse
    exact ⟨_, KeyText.decode_colons (List.cons_ne_nil _ _),
      Signature.ofDer?_der (sizes.trans_lt (ofDer?_sizes read)),
      Signature.ofNonce_verifies sound hn hr hs⟩

/-- With a key of eight bits a text is made, and both numbers need a byte for their sign. -/
theorem SigningKey.signatures_verify_eightBits :
    SigningKey.sign ⟨503, 251, 4, 7, 288⟩ [.text "heater"] = .ok "30:08:02:02:00:D6:02:02:00:F9" ∧
    ∃ made : Signature, KeyText.decode "30:08:02:02:00:D6:02:02:00:F9" = .ok made.der ∧
      Signature.ofDer? made.der = some made ∧
      made.Verifies 503 251 4 288 (Signature.hashed 251 (Signing.pack [.text "heater"])) := by
  have key : ofText .bare ("30:20:02:01:00:30:16:06:07:2A:86:48:CE:38:04:01:30:0B:02:02:01:F7:" ++
      "02:02:00:FB:02:01:04:04:03:02:01:07") = .ok ⟨503, 251, 4, 7, 288⟩ := by
    decide +kernel
  have sound : Sound ⟨503, 251, 4, 7, 288⟩ :=
    ⟨by norm_num, by norm_num, by norm_num⟩
  have text : SigningKey.sign ⟨503, 251, 4, 7, 288⟩ [.text "heater"] =
      .ok "30:08:02:02:00:D6:02:02:00:F9" := by
    decide +kernel
  exact ⟨text, (signatures_verify key sound attempts [.text "heater"]).1 _ text⟩

end HeaterLink
