import DflockdClient.Protocol

/-!
The fields of a line: what `split` cuts out of a text, and which texts `int`
takes for a number.
-/

namespace DflockdClient

@[simp] theorem split_nil : split [] = [] := by simp [split]

theorem split_cut {c : Nat} (space : isSpace c = true) (before after : Str) :
    split (before ++ c :: after) = split before ++ split after := by
  simp only [split, List.splitOnP_append_cons before after space, List.filter_append]

theorem split_word {word : Str} (full : word ≠ []) (solid : ∀ c ∈ word, isSpace c = false) :
    split word = [word] := by
  simp [split, List.splitOnP_eq_singleton solid, full]

theorem splitOnP_solid {text field : Str} (member : field ∈ text.splitOnP isSpace) :
    ∀ c ∈ field, isSpace c = false := by
  induction text generalizing field with
  | nil =>
      simp only [List.splitOnP_nil, List.mem_singleton] at member
      simp [member]
  | cons first rest ih =>
      rw [List.splitOnP_cons_eq_if_modifyHead] at member
      split at member
      · simp only [List.mem_cons] at member
        rcases member with rfl | later
        · simp
        · exact ih later
      · rename_i solid
        obtain ⟨head, tail, cut⟩ := List.exists_cons_of_ne_nil (List.splitOnP_ne_nil isSpace rest)
        rw [cut, List.modifyHead_cons, List.mem_cons] at member
        rcases member with rfl | later
        · intro c found
          simp only [List.mem_cons] at found
          rcases found with rfl | found
          · simpa using solid
          · exact ih (by simp [cut]) c found
        · exact ih (by simp [cut, later])

theorem split_field {text field : Str} (member : field ∈ split text) :
    field ≠ [] ∧ ∀ c ∈ field, isSpace c = false := by
  simp only [split, List.mem_filter, decide_eq_true_eq] at member
  exact ⟨member.2, splitOnP_solid member.1⟩

theorem splitOnP_mem {text field : Str} (member : field ∈ text.splitOnP isSpace) {c : Nat}
    (found : c ∈ field) : c ∈ text := by
  induction text generalizing field with
  | nil =>
      simp only [List.splitOnP_nil, List.mem_singleton] at member
      simp [member] at found
  | cons first rest ih =>
      rw [List.splitOnP_cons_eq_if_modifyHead] at member
      split at member
      · simp only [List.mem_cons] at member
        rcases member with rfl | later
        · cases found
        · exact List.mem_cons_of_mem _ (ih later found)
      · obtain ⟨head, tail, cut⟩ := List.exists_cons_of_ne_nil (List.splitOnP_ne_nil isSpace rest)
        rw [cut, List.modifyHead_cons, List.mem_cons] at member
        rcases member with rfl | later
        · simp only [List.mem_cons] at found
          rcases found with rfl | found
          · exact List.mem_cons_self
          · exact List.mem_cons_of_mem _ (ih (by simp [cut]) found)
        · exact List.mem_cons_of_mem _ (ih (by simp [cut, later]) found)

theorem split_mem {text field : Str} (member : field ∈ split text) {c : Nat} (found : c ∈ field) :
    c ∈ text := by
  simp only [split, List.mem_filter] at member
  exact splitOnP_mem member.1 found

theorem split_trailing {after : Str} (blank : ∀ c ∈ after, isSpace c = true) (text : Str) :
    split (text ++ after) = split text := by
  induction after generalizing text with
  | nil => simp
  | cons c rest ih =>
      simp only [List.mem_cons, forall_eq_or_imp] at blank
      have empty := ih blank.2 []
      simp only [List.nil_append, split_nil] at empty
      rw [split_cut blank.1, empty, List.append_nil]

theorem split_last {word : Str} (full : word ≠ []) (solid : ∀ c ∈ word, isSpace c = false)
    (text : Str) : ∃ fields front, split (text ++ word) = fields ++ [front ++ word] := by
  induction text using List.reverseRecOn generalizing word with
  | nil => exact ⟨[], [], split_word full solid⟩
  | append_singleton text c ih =>
      rw [List.append_assoc, List.singleton_append]
      by_cases space : isSpace c = true
      · refine ⟨split text, [], ?_⟩
        rw [split_cut space, split_word full solid, List.nil_append]
      · have longer : ∀ c' ∈ c :: word, isSpace c' = false := by
          simp only [List.mem_cons, forall_eq_or_imp]
          exact ⟨by simpa using space, solid⟩
        obtain ⟨fields, front, cut⟩ := ih (List.cons_ne_nil c word) longer
        exact ⟨fields, front ++ [c], by simp [cut]⟩

theorem digitRun_characters {text : Str} {digits : List Nat} (read : digitRun text = some digits) :
    ∀ c ∈ text, c = 0x5f ∨ ∃ digit, digitValue c = some digit := by
  fun_induction digitRun text generalizing digits with
  | case1 => cases read
  | case2 c =>
      intro c' member
      simp only [List.mem_singleton] at member
      subst member
      cases value : digitValue c' with
      | none => simp [value] at read
      | some digit => exact .inr ⟨digit, rfl⟩
  | case3 => cases read
  | case4 c rest digit value ih =>
      simp only [Option.map_eq_some_iff] at read
      obtain ⟨later, read, _⟩ := read
      simp only [List.mem_cons, forall_eq_or_imp]
      exact ⟨.inr ⟨digit, value⟩, .inl trivial, ih read⟩
  | case5 c separator rest digit value plain ih =>
      simp only [Option.map_eq_some_iff] at read
      obtain ⟨later, read, _⟩ := read
      simp only [List.mem_cons, forall_eq_or_imp]
      exact ⟨.inr ⟨digit, value⟩, by simpa using ih read⟩

theorem unsignedInt_characters {text : Str} {value : Nat} (read : unsignedInt text = some value) :
    ∀ c ∈ text, c = 0x5f ∨ ∃ digit, digitValue c = some digit := by
  unfold unsignedInt at read
  cases run : digitRun text with
  | none => simp [run] at read
  | some digits => exact digitRun_characters run

theorem mem_dropWhile {skip : Nat → Bool} {c : Nat} {text : Str} (member : c ∈ text)
    (kept : skip c = false) : c ∈ text.dropWhile skip := by
  rw [← List.takeWhile_append_dropWhile (p := skip) (l := text), List.mem_append] at member
  rcases member with skipped | rest
  · have dropped := List.mem_takeWhile_imp skipped
    simp [kept] at dropped
  · exact rest

theorem mem_rdropWhile {skip : Nat → Bool} {c : Nat} {text : Str} (member : c ∈ text)
    (kept : skip c = false) : c ∈ text.rdropWhile skip := by
  simp only [List.rdropWhile, List.mem_reverse]
  exact mem_dropWhile (List.mem_reverse.mpr member) kept

/-- What `int` reads after the white space: digits, perhaps behind a sign. -/
theorem parseInt_unsigned {text : Str} {value : Int} (read : parseInt text = some value) :
    ∃ sign digits, (text.dropWhile isIntSpace).rdropWhile isIntSpace = sign ++ digits ∧
      (∀ c ∈ sign, c = 0x2b ∨ c = 0x2d) ∧ ∃ number, unsignedInt digits = some number := by
  unfold parseInt at read
  split at read
  · cases read
  · rename_i sign rest stripped
    split at read
    · rename_i plus
      cases unsigned : unsignedInt rest with
      | none => simp [unsigned] at read
      | some number => exact ⟨[sign], rest, stripped, by simp [plus], number, unsigned⟩
    · split at read
      · rename_i minus
        cases unsigned : unsignedInt rest with
        | none => simp [unsigned] at read
        | some number => exact ⟨[sign], rest, stripped, by simp [minus], number, unsigned⟩
      · cases unsigned : unsignedInt (sign :: rest) with
        | none => simp [unsigned] at read
        | some number => exact ⟨[], sign :: rest, stripped, by simp, number, unsigned⟩

theorem parseInt_characters {text : Str} {value : Int} (read : parseInt text = some value) {c : Nat}
    (member : c ∈ text) : isIntSpace c = true ∨ c = 0x2b ∨ c = 0x2d ∨ c = 0x5f ∨
      ∃ digit, digitValue c = some digit := by
  by_cases space : isIntSpace c = true
  · exact .inl space
  · have solid : isIntSpace c = false := by simpa using space
    have kept := mem_rdropWhile (mem_dropWhile member solid) solid
    obtain ⟨sign, digits, stripped, signs, number, unsigned⟩ := parseInt_unsigned read
    rw [stripped, List.mem_append] at kept
    rcases kept with before | after
    · rcases signs c before with plus | minus
      · exact .inr (.inl plus)
      · exact .inr (.inr (.inl minus))
    · exact .inr (.inr (.inr (unsignedInt_characters unsigned c after)))

def AsciiDigit (c : Nat) : Prop := 0x30 ≤ c ∧ c ≤ 0x39

theorem digitValue_ascii {c : Nat} (ascii : AsciiDigit c) : digitValue c = some (c - 0x30) := by
  have here : 0x30 ≤ c ∧ c < 0x30 + 10 := ⟨ascii.1, by have := ascii.2; omega⟩
  simp only [digitValue, decimalZeros, List.findSome?_cons, if_pos here]

theorem digitRun_ascii {text : Str} (full : text ≠ []) (ascii : ∀ c ∈ text, AsciiDigit c) :
    digitRun text = some (text.map (· - 0x30)) := by
  induction text with
  | nil => exact absurd rfl full
  | cons c rest ih =>
      simp only [List.mem_cons, forall_eq_or_imp] at ascii
      cases rest with
      | nil => simp [digitRun, digitValue_ascii ascii.1]
      | cons next rest =>
          have plain : next ≠ 0x5f := by
            have bound := (ascii.2 next List.mem_cons_self).2
            omega
          simp only [digitRun, digitValue_ascii ascii.1, if_neg plain]
          rw [ih (by simp) ascii.2]
          rfl

theorem unsignedInt_ascii {text : Str} (full : text ≠ []) (ascii : ∀ c ∈ text, AsciiDigit c) :
    unsignedInt text = if text.length ≤ maxIntDigits
      then some (Numerals.value 10 (text.map (· - 0x30))) else none := by
  simp only [unsignedInt, digitRun_ascii full ascii, Option.bind_eq_bind, Option.bind_some,
    List.length_map, Numerals.value]

theorem isIntSpace_ascii {c : Nat} (ascii : AsciiDigit c) : isIntSpace c = false := by
  obtain ⟨low, high⟩ := ascii
  simp only [isIntSpace, Bool.or_eq_false_iff, Bool.and_eq_false_iff, decide_eq_false_iff_not,
    beq_eq_false_iff_ne]
  omega

theorem parseInt_ascii {text : Str} (full : text ≠ []) (ascii : ∀ c ∈ text, AsciiDigit c) :
    parseInt text = if text.length ≤ maxIntDigits
      then some (.ofNat (Numerals.value 10 (text.map (· - 0x30)))) else none := by
  have front : text.dropWhile isIntSpace = text := by
    rw [List.dropWhile_eq_self_iff]
    intro bound
    simp [isIntSpace_ascii (ascii _ (List.getElem_mem bound))]
  have back : text.rdropWhile isIntSpace = text := by
    rw [List.rdropWhile_eq_self_iff]
    intro bound
    simp [isIntSpace_ascii (ascii _ (List.getLast_mem bound))]
  unfold parseInt
  rw [front, back]
  cases text with
  | nil => exact absurd rfl full
  | cons sign rest =>
      obtain ⟨low, high⟩ := ascii sign List.mem_cons_self
      have plus : sign ≠ 0x2b := by omega
      have minus : sign ≠ 0x2d := by omega
      simp only [if_neg plus, if_neg minus, unsignedInt_ascii full ascii]
      split <;> rfl

end DflockdClient
