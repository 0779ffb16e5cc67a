import DflockdClient.Protocol

/-!
`fence_from_token`: the number in front of a grant token, and its order.
-/

namespace DflockdClient

def isHexDigit (c : Nat) : Bool :=
  (0x30 ≤ c && c ≤ 0x39) || (0x61 ≤ c && c ≤ 0x66) || (0x41 ≤ c && c ≤ 0x46)

def fenceFromToken (token : Str) : Except PyError Nat :=
  if token.length ≠ 32 then
    .error (valueError [.text (str "token must be 32 hex characters, got "),
      .text (decimalNat token.length)])
  else if !token.all isHexDigit then
    .error (valueError [.text (str "token is not hexadecimal: "), .repr token])
  else match parseHexInt (token.take 16) with
    | some fence => .ok fence.toNat
    | none => .error (valueError [.text (str "invalid literal for int() with base 16: "),
        .repr (token.take 16)])

def lower (text : Str) : Str := text.map fun c => if 0x41 ≤ c ∧ c ≤ 0x5a then c + 0x20 else c

def hexDigit (digit : Nat) : Nat := if digit < 10 then 0x30 + digit else 0x57 + digit

/-- `format(number, "016x")` for a number below `2 ^ 64`. -/
def fencePrefix (number : Nat) : Str := (Numerals.padded 16 16 number).map hexDigit

def digitOf (c : Nat) : Nat :=
  if c ≤ 0x39 then c - 0x30 else if c ≤ 0x46 then c - 0x37 else c - 0x57

theorem isHexDigit_iff {c : Nat} : isHexDigit c = true ↔
    (0x30 ≤ c ∧ c ≤ 0x39) ∨ (0x61 ≤ c ∧ c ≤ 0x66) ∨ (0x41 ≤ c ∧ c ≤ 0x46) := by
  simp [isHexDigit, or_assoc]

theorem digitOf_lt {c : Nat} (hex : isHexDigit c = true) : digitOf c < 16 := by
  rw [isHexDigit_iff] at hex
  unfold digitOf
  split
  · omega
  · split <;> omega

theorem hexValue_digitOf {c : Nat} (hex : isHexDigit c = true) : hexValue c = some (digitOf c) := by
  rw [isHexDigit_iff] at hex
  unfold hexValue digitOf
  rcases hex with decimal | small | capital
  · have ascii : digitValue c = some (c - 0x30) := by
      have here : 0x30 ≤ c ∧ c < 0x30 + 10 := by omega
      simp only [digitValue, decimalZeros, List.findSome?_cons, if_pos here]
    rw [if_neg (by omega), if_neg (by omega), if_pos decimal.2, ascii]
  · rw [if_pos small, if_neg (by omega), if_neg (by omega)]
  · rw [if_neg (by omega), if_pos capital, if_neg (by omega), if_pos capital.2]

theorem hexDigit_strictMono : StrictMono hexDigit := by
  intro small large less
  unfold hexDigit
  split <;> split <;> omega

theorem lower_digit {c : Nat} (hex : isHexDigit c = true) :
    (if 0x41 ≤ c ∧ c ≤ 0x5a then c + 0x20 else c) = hexDigit (digitOf c) := by
  rw [isHexDigit_iff] at hex
  unfold hexDigit digitOf
  split_ifs <;> omega

theorem lower_eq {text : Str} (hex : ∀ c ∈ text, isHexDigit c = true) :
    lower text = (text.map digitOf).map hexDigit := by
  unfold lower
  rw [List.map_map, List.map_inj_left]
  intro c member
  exact lower_digit (hex c member)

theorem isHexDigit_of_lower {c digit : Nat} (small : digit < 16)
    (lowered : (if 0x41 ≤ c ∧ c ≤ 0x5a then c + 0x20 else c) = hexDigit digit) :
    isHexDigit c = true := by
  rw [isHexDigit_iff]
  unfold hexDigit at lowered
  split at lowered <;> split at lowered <;> omega

theorem hexRun_digits {text : Str} (full : text ≠ []) (hex : ∀ c ∈ text, isHexDigit c = true) :
    hexRun text = some (text.map digitOf) := by
  induction text with
  | nil => exact absurd rfl full
  | cons c rest ih =>
      simp only [List.mem_cons, forall_eq_or_imp] at hex
      cases rest with
      | nil => simp [hexRun, hexValue_digitOf hex.1]
      | cons next rest =>
          have digit := hex.2 next List.mem_cons_self
          have plain : next ≠ 0x5f := by
            rw [isHexDigit_iff] at digit
            omega
          simp only [hexRun, hexValue_digitOf hex.1, if_neg plain]
          rw [ih (by simp) hex.2]
          rfl

theorem unsignedHexInt_digits {text : Str} (full : text ≠ [])
    (hex : ∀ c ∈ text, isHexDigit c = true) :
    unsignedHexInt text = some (Numerals.value 16 (text.map digitOf)) := by
  have unmarked : ∀ first marker rest, text = first :: marker :: rest →
      ¬(first = 0x30 ∧ (marker = 0x78 ∨ marker = 0x58)) := by
    rintro first marker rest rfl
    have digit := hex marker (by simp)
    rw [isHexDigit_iff] at digit
    omega
  unfold unsignedHexInt
  rcases text with _ | ⟨first, _ | ⟨marker, rest⟩⟩
  · exact absurd rfl full
  · simp only [hexRun_digits full hex, Option.map_some]
  · simp only [if_neg (unmarked first marker rest rfl), hexRun_digits full hex, Option.map_some]

theorem isIntSpace_hex {c : Nat} (hex : isHexDigit c = true) : isIntSpace c = false := by
  rw [isHexDigit_iff] at hex
  simp only [isIntSpace, Bool.or_eq_false_iff, Bool.and_eq_false_iff, decide_eq_false_iff_not,
    beq_eq_false_iff_ne]
  omega

theorem parseHexInt_digits {text : Str} (full : text ≠ [])
    (hex : ∀ c ∈ text, isHexDigit c = true) :
    parseHexInt text = some (.ofNat (Numerals.value 16 (text.map digitOf))) := by
  have front : text.dropWhile isIntSpace = text := by
    rw [List.dropWhile_eq_self_iff]
    intro bound
    simp [isIntSpace_hex (hex _ (List.getElem_mem bound))]
  have back : text.rdropWhile isIntSpace = text := by
    rw [List.rdropWhile_eq_self_iff]
    intro bound
    simp [isIntSpace_hex (hex _ (List.getLast_mem bound))]
  unfold parseHexInt
  rw [front, back]
  cases text with
  | nil => exact absurd rfl full
  | cons sign rest =>
      have digit := hex sign List.mem_cons_self
      rw [isHexDigit_iff] at digit
      have plus : sign ≠ 0x2b := by omega
      have minus : sign ≠ 0x2d := by omega
      simp only [if_neg plus, if_neg minus, unsignedHexInt_digits full hex, Option.map_some]

theorem fenceFromToken_ok {token : Str} (length : token.length = 32)
    (hex : ∀ c ∈ token, isHexDigit c = true) :
    fenceFromToken token = .ok (Numerals.value 16 ((token.take 16).map digitOf)) := by
  have full : token.take 16 ≠ [] := by
    intro empty
    have short := congrArg List.length empty
    simp [length] at short
  have front : ∀ c ∈ token.take 16, isHexDigit c = true :=
    fun c member => hex c (List.mem_of_mem_take member)
  unfold fenceFromToken
  rw [if_neg (by simp [length]), if_neg (by simpa using hex), parseHexInt_digits full front]
  rfl

theorem fenceFromToken_eq {token : Str} {fence : Nat} (accepted : fenceFromToken token = .ok fence) :
    (token.length = 32 ∧ ∀ c ∈ token, isHexDigit c = true) ∧
      fence = Numerals.value 16 ((token.take 16).map digitOf) := by
  have whole : token.length = 32 ∧ ∀ c ∈ token, isHexDigit c = true := by
    unfold fenceFromToken at accepted
    split at accepted
    · cases accepted
    · rename_i length
      split at accepted
      · cases accepted
      · rename_i hex
        exact ⟨by simpa using length, by simpa using hex⟩
  rw [fenceFromToken_ok whole.1 whole.2] at accepted
  cases accepted
  exact ⟨whole, rfl⟩

theorem fenceFromToken_error {token : Str} {error : PyError}
    (rejected : fenceFromToken token = .error error) : error.cls = .valueError := by
  unfold fenceFromToken at rejected
  split at rejected
  · cases rejected
    rfl
  · split at rejected
    · cases rejected
      rfl
    · split at rejected
      · cases rejected
      · cases rejected
        rfl

theorem map_lt_map_iff {f : Nat → Nat} (increasing : StrictMono f) (first second : List Nat) :
    first.map f < second.map f ↔ first < second := by
  induction first generalizing second with
  | nil => cases second <;> simp
  | cons c rest ih =>
      cases second with
      | nil => simp
      | cons c' rest' =>
          simp only [List.map_cons, List.cons_lt_cons_iff, increasing.lt_iff_lt,
            increasing.injective.eq_iff, ih]

theorem fence_lt_iff {first second : Str} {left right : Nat}
    (accepted : fenceFromToken first = .ok left) (accepted' : fenceFromToken second = .ok right) :
    left < right ↔ lower (first.take 16) < lower (second.take 16) := by
  obtain ⟨⟨length, hex⟩, rfl⟩ := fenceFromToken_eq accepted
  obtain ⟨⟨length', hex'⟩, rfl⟩ := fenceFromToken_eq accepted'
  have front : ∀ c ∈ first.take 16, isHexDigit c = true :=
    fun c member => hex c (List.mem_of_mem_take member)
  have front' : ∀ c ∈ second.take 16, isHexDigit c = true :=
    fun c member => hex' c (List.mem_of_mem_take member)
  rw [lower_eq front, lower_eq front', map_lt_map_iff hexDigit_strictMono]
  apply Numerals.value_lt_iff
  · simp [length, length']
  · intro digit member
    obtain ⟨c, found, rfl⟩ := List.mem_map.mp member
    exact digitOf_lt (front c found)
  · intro digit member
    obtain ⟨c, found, rfl⟩ := List.mem_map.mp member
    exact digitOf_lt (front' c found)

theorem fenceFromToken_prefix {number : Nat} {text salt : Str} (bound : number < 2 ^ 64)
    (spelled : lower text = fencePrefix number) (length : salt.length = 16)
    (hex : ∀ c ∈ salt, isHexDigit c = true) : fenceFromToken (text ++ salt) = .ok number := by
  have width : text.length = 16 := by
    have same := congrArg List.length spelled
    simpa [lower, fencePrefix] using same
  have front : ∀ c ∈ text, isHexDigit c = true := by
    intro c member
    have lowered := List.mem_map_of_mem
      (f := fun c => if 0x41 ≤ c ∧ c ≤ 0x5a then c + 0x20 else c) member
    have listed : (if 0x41 ≤ c ∧ c ≤ 0x5a then c + 0x20 else c) ∈ fencePrefix number := by
      rw [← spelled]
      exact lowered
    obtain ⟨digit, padded, same⟩ := List.mem_map.mp listed
    exact isHexDigit_of_lower (Numerals.padded_lt (by omega) 16 number digit padded) same.symm
  have digits : text.map digitOf = Numerals.padded 16 16 number := by
    have mapped : (text.map digitOf).map hexDigit = (Numerals.padded 16 16 number).map hexDigit := by
      rw [← lower_eq front, spelled]
      rfl
    exact List.map_injective_iff.mpr hexDigit_strictMono.injective mapped
  rw [fenceFromToken_ok (by simp [width, length])]
  · rw [List.take_append_of_le_length (by omega), List.take_of_length_le (by omega), digits]
    rw [Numerals.value_padded (by simpa using bound)]
  · intro c member
    rcases List.mem_append.mp member with before | after
    · exact front c before
    · exact hex c after

/-- `fence_from_token` accepts 32 hexadecimal digits and raises `ValueError` on everything else,
reads back the number a token was made from, and orders tokens as their first halves are. -/
theorem fence_order_inverse :
    (∀ token, (∃ fence, fenceFromToken token = .ok fence) ↔
      token.length = 32 ∧ ∀ c ∈ token, isHexDigit c = true) ∧
    (∀ token error, fenceFromToken token = .error error → error.cls = .valueError) ∧
    (∀ number text salt, number < 2 ^ 64 → lower text = fencePrefix number → salt.length = 16 →
      (∀ c ∈ salt, isHexDigit c = true) → fenceFromToken (text ++ salt) = .ok number) ∧
    ∀ first second left right, fenceFromToken first = .ok left → fenceFromToken second = .ok right →
      ((left < right ↔ lower (first.take 16) < lower (second.take 16)) ∧
        (left = right ↔ lower (first.take 16) = lower (second.take 16))) := by
  refine ⟨?_, fun _ _ => fenceFromToken_error, fun _ _ _ => fenceFromToken_prefix, ?_⟩
  · intro token
    constructor
    · rintro ⟨fence, accepted⟩
      exact (fenceFromToken_eq accepted).1
    · rintro ⟨length, hex⟩
      exact ⟨_, fenceFromToken_ok length hex⟩
  · intro first second left right accepted accepted'
    have less := fence_lt_iff accepted accepted'
    have greater := fence_lt_iff accepted' accepted
    refine ⟨less, ?_⟩
    constructor
    · rintro rfl
      have notLess := mt less.mpr (Nat.lt_irrefl _)
      have notGreater := mt greater.mpr (Nat.lt_irrefl _)
      exact List.le_antisymm (List.not_lt.mp notGreater) (List.not_lt.mp notLess)
    · intro same
      rw [same] at less greater
      have irrefl : ¬lower (second.take 16) < lower (second.take 16) := List.lt_irrefl _
      have notLess := mt less.mp irrefl
      have notGreater := mt greater.mp irrefl
      omega

/-- The zero-padded prefix of 255 in mixed case, and a token with a sign in front. -/
theorem fence_order_inverse_demo :
    fenceFromToken (str "00000000000000fF" ++ str "DEADBEEFdeadbeef") = .ok 255 ∧
      ¬∃ fence, fenceFromToken (str "+0000000000000ff" ++ str "DEADBEEFdeadbeef") = .ok fence := by
  refine ⟨fence_order_inverse.2.2.1 255 _ _ (by decide) (by decide) (by decide) (by decide), ?_⟩
  rw [fence_order_inverse.1]
  decide

end DflockdClient
