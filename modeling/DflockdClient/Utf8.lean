import DflockdClient.Text

/-!
UTF-8: decoding inverts encoding, and whatever was decoded can be encoded.
-/

namespace DflockdClient

theorem toNat_ofNat {n : Nat} (small : n < 256) : (UInt8.ofNat n).toNat = n := by
  rw [UInt8.toNat_ofNat']
  exact Nat.mod_eq_of_lt small

theorem decodeChar_encodeChar {c : Nat} {bytes : Bytes} (encoded : encodeChar c = some bytes)
    (rest : Bytes) : decodeChar (bytes ++ rest) = some (c, rest) := by
  unfold encodeChar at encoded
  split at encoded
  · cases encoded
    have first := @toNat_ofNat c (by omega)
    simp only [List.cons_append, List.nil_append, decodeChar, first]
    rw [if_pos (by assumption)]
  · split at encoded
    · cases encoded
      have first := @toNat_ofNat (0xc0 + c / 64) (by omega)
      have second := @toNat_ofNat (0x80 + c % 64) (by omega)
      simp only [List.cons_append, List.nil_append, decodeChar, first, second, isContinuation,
        Bool.and_eq_true, decide_eq_true_eq]
      rw [if_neg (by omega), if_neg (by omega), if_pos (by omega), if_pos (by omega)]
      simp only [Option.some.injEq, Prod.mk.injEq, and_true]
      omega
    · split at encoded
      · cases encoded
      · split at encoded
        · cases encoded
          have first := @toNat_ofNat (0xe0 + c / 4096) (by omega)
          have second := @toNat_ofNat (0x80 + c / 64 % 64) (by omega)
          have third := @toNat_ofNat (0x80 + c % 64) (by omega)
          simp only [List.cons_append, List.nil_append, decodeChar, first, second, third,
            isContinuation, Bool.and_eq_true, Bool.not_eq_true', Bool.and_eq_false_iff,
            decide_eq_true_eq, decide_eq_false_iff_not]
          rw [if_neg (by omega), if_neg (by omega), if_neg (by omega), if_pos (by omega),
            if_pos (by omega)]
          simp only [Option.some.injEq, Prod.mk.injEq, and_true]
          omega
        · split at encoded
          · cases encoded
            have first := @toNat_ofNat (0xf0 + c / 262144) (by omega)
            have second := @toNat_ofNat (0x80 + c / 4096 % 64) (by omega)
            have third := @toNat_ofNat (0x80 + c / 64 % 64) (by omega)
            have fourth := @toNat_ofNat (0x80 + c % 64) (by omega)
            simp only [List.cons_append, List.nil_append, decodeChar, first, second, third, fourth,
              isContinuation, Bool.and_eq_true, decide_eq_true_eq]
            rw [if_neg (by omega), if_neg (by omega), if_neg (by omega), if_neg (by omega),
              if_pos (by omega)]
            simp only [Option.some.injEq, Prod.mk.injEq, and_true]
            omega
          · cases encoded

theorem encodeChar_ne_nil {c : Nat} {bytes : Bytes} (encoded : encodeChar c = some bytes) :
    bytes ≠ [] := by
  rintro rfl
  have empty := decodeChar_encodeChar encoded []
  simp [decodeChar] at empty

theorem decodeFrom_encode {text : Str} {bytes : Bytes} (encoded : encode text = some bytes)
    {fuel : Nat} (enough : bytes.length ≤ fuel) : decodeFrom fuel bytes = some text := by
  induction text generalizing bytes fuel with
  | nil =>
      cases encoded
      cases fuel <;> rfl
  | cons c rest ih =>
      simp only [encode, Option.bind_eq_bind, Option.bind_eq_some_iff, Option.pure_def,
        Option.some.injEq] at encoded
      obtain ⟨first, firstEq, later, laterEq, rfl⟩ := encoded
      have positive := List.length_pos_of_ne_nil (encodeChar_ne_nil firstEq)
      rw [List.length_append] at enough
      obtain ⟨fuel, rfl⟩ : ∃ less, fuel = less + 1 := ⟨fuel - 1, by omega⟩
      have nonempty : ∃ b tail, first ++ later = b :: tail := by
        cases first with
        | nil => simp at positive
        | cons b tail => exact ⟨b, tail ++ later, rfl⟩
      obtain ⟨b, tail, same⟩ := nonempty
      have read := decodeChar_encodeChar firstEq later
      rw [same] at read ⊢
      simp only [decodeFrom, read, Option.bind_eq_bind, Option.bind_some]
      rw [ih laterEq (by omega)]
      rfl

/-- `text.encode("utf-8").decode("utf-8")` is `text`. -/
theorem decode_encode {text : Str} {bytes : Bytes} (encoded : encode text = some bytes) :
    decode bytes = some text :=
  decodeFrom_encode encoded (Nat.le_refl _)

theorem encodable_iff {text : Str} :
    (∃ bytes, encode text = some bytes) ↔ ∀ c ∈ text, ∃ bytes, encodeChar c = some bytes := by
  induction text with
  | nil => simp [encode]
  | cons c rest ih =>
      simp only [List.mem_cons, forall_eq_or_imp, ← ih]
      simp only [encode, Option.bind_eq_bind, Option.bind_eq_some_iff, Option.pure_def,
        Option.some.injEq]
      constructor
      · rintro ⟨_, first, firstEq, later, laterEq, rfl⟩
        exact ⟨⟨first, firstEq⟩, later, laterEq⟩
      · rintro ⟨⟨first, firstEq⟩, later, laterEq⟩
        exact ⟨_, first, firstEq, later, laterEq, rfl⟩

theorem encodeChar_scalar {c : Nat} (scalar : c < 0xd800 ∨ (0xe000 ≤ c ∧ c < 0x110000)) :
    ∃ bytes, encodeChar c = some bytes := by
  unfold encodeChar
  split
  · exact ⟨_, rfl⟩
  · split
    · exact ⟨_, rfl⟩
    · split
      · omega
      · split
        · exact ⟨_, rfl⟩
        · rw [if_pos (by omega)]
          exact ⟨_, rfl⟩

theorem decodeChar_scalar {bytes rest : Bytes} {c : Nat}
    (decoded : decodeChar bytes = some (c, rest)) : ∃ encoded, encodeChar c = some encoded := by
  apply encodeChar_scalar
  unfold decodeChar at decoded
  split at decoded
  · cases decoded
  · split at decoded
    · cases decoded
      omega
    · split at decoded
      · cases decoded
      · split at decoded
        · split at decoded
          · split at decoded
            · rename_i continues
              simp only [Option.some.injEq, Prod.mk.injEq] at decoded
              simp only [isContinuation, Bool.and_eq_true, decide_eq_true_eq] at continues
              omega
            · cases decoded
          · cases decoded
        · split at decoded
          · split at decoded
            · simp only at decoded
              split at decoded
              · rename_i continues
                simp only [Option.some.injEq, Prod.mk.injEq] at decoded
                simp only [isContinuation, Bool.and_eq_true, Bool.not_eq_true',
                  Bool.and_eq_false_iff, decide_eq_true_eq, decide_eq_false_iff_not] at continues
                omega
              · cases decoded
            · cases decoded
          · split at decoded
            · simp only at decoded
              split at decoded
              · rename_i continues
                simp only [Option.some.injEq, Prod.mk.injEq] at decoded
                simp only [isContinuation, Bool.and_eq_true, decide_eq_true_eq] at continues
                omega
              · cases decoded
            · cases decoded

theorem decodeFrom_scalars {fuel : Nat} {bytes : Bytes} {text : Str}
    (decoded : decodeFrom fuel bytes = some text) :
    ∀ c ∈ text, ∃ encoded, encodeChar c = some encoded := by
  induction fuel generalizing bytes text with
  | zero =>
      cases bytes with
      | nil =>
          cases decoded
          simp
      | cons b rest => cases decoded
  | succ fuel ih =>
      cases bytes with
      | nil =>
          cases decoded
          simp
      | cons b rest =>
          simp only [decodeFrom, Option.bind_eq_bind, Option.bind_eq_some_iff, Option.pure_def,
            Option.some.injEq] at decoded
          obtain ⟨⟨c, tail⟩, first, later, laterEq, rfl⟩ := decoded
          simp only [List.mem_cons, forall_eq_or_imp]
          exact ⟨decodeChar_scalar first, ih laterEq⟩

end DflockdClient
