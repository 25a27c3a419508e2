import BusEndpoint.Header
import BusEndpoint.Proofs.Delivery.Plan

/-! Numbers in texts. A counter on the wire is a text of decimal digits or a JSON
number; every other value of a property has a text in which no number can be read. -/

namespace BusEndpoint

namespace Text

/-- The text is a number in decimal digits. One plus sign may stand in front. -/
def IsNumeral (text : String) (n : Nat) : Prop :=
  ∃ digits : List Char, digits ≠ [] ∧ (∀ c ∈ digits, c.isDigit = true) ∧
    (text.toList = digits ∨ text.toList = '+' :: digits) ∧ Nat.ofDigitChars 10 digits 0 = n

/-- The counter in a text that may be missing: a numeral of 32 bits, or else the
default. -/
def Counts (text? : Option String) (default n : Nat) : Prop :=
  (∃ text, text? = some text ∧ IsNumeral text n ∧ n < UInt32.size) ∨
    (n = default ∧ ∀ text, text? = some text → ∀ m, IsNumeral text m → UInt32.size ≤ m)

variable {text : String} {n : Nat}

theorem isDigit_of_digitValue? {c : Char} {d : Nat} (hDigit : digitValue? c = some d) :
    c.isDigit = true := by
  rw [digitValue?] at hDigit
  split at hDigit
  · rename_i hRange
    simpa [Char.isDigit, Char.le_def] using hRange
  · cases hDigit

theorem digitsValue?_eq_some_iff {digits : List Char} {value : Nat} :
    digitsValue? value digits = some n ↔
      (∀ c ∈ digits, c.isDigit = true) ∧ Nat.ofDigitChars 10 digits value = n := by
  constructor
  · intro hValue
    have hDigits : ∀ c ∈ digits, c.isDigit = true := by
      induction digits generalizing value with
      | nil => exact fun c hMem => absurd hMem List.not_mem_nil
      | cons c rest ih =>
          rw [digitsValue?] at hValue
          split at hValue
          · rename_i d hDigit
            exact List.forall_mem_cons.mpr ⟨isDigit_of_digitValue? hDigit, ih hValue⟩
          · cases hValue
    refine ⟨hDigits, ?_⟩
    rw [digitsValue?_eq hDigits] at hValue
    exact Option.some.inj hValue
  · rintro ⟨hDigits, rfl⟩
    exact digitsValue?_eq hDigits value

theorem naturalOfDigits?_eq_some_iff {digits : List Char} :
    naturalOfDigits? digits = some n ↔
      digits ≠ [] ∧ (∀ c ∈ digits, c.isDigit = true) ∧ Nat.ofDigitChars 10 digits 0 = n := by
  cases digits with
  | nil => simp [naturalOfDigits?]
  | cons c rest =>
      rw [naturalOfDigits?, digitsValue?_eq_some_iff]
      · simp
      · exact List.cons_ne_nil c rest

/-- A sign is no digit, so that a text is a numeral in one way only. -/
theorem natural?_eq_some_iff : natural? text = some n ↔ IsNumeral text n := by
  rw [natural?]
  split
  · rename_i digits hSigned
    rw [naturalOfDigits?_eq_some_iff]
    constructor
    · rintro ⟨hSome, hDigits, hValue⟩
      exact ⟨digits, hSome, hDigits, .inr hSigned, hValue⟩
    · rintro ⟨other, hSome, hDigits, hText | hText, hValue⟩
      · have hSign := hDigits '+' (by simp [← hText, hSigned])
        cases hSign
      · rw [hSigned, List.cons.injEq] at hText
        exact hText.2 ▸ ⟨hSome, hDigits, hValue⟩
  · rename_i hUnsigned
    rw [naturalOfDigits?_eq_some_iff]
    constructor
    · rintro ⟨hSome, hDigits, hValue⟩
      exact ⟨_, hSome, hDigits, .inl rfl, hValue⟩
    · rintro ⟨digits, hSome, hDigits, hText | hText, hValue⟩
      · exact hText ▸ ⟨hSome, hDigits, hValue⟩
      · exact absurd hText (hUnsigned digits)

theorem counter?_eq_some_iff {count : UInt32} :
    counter? text = some count ↔ IsNumeral text count.toNat := by
  rw [← natural?_eq_some_iff, counter?]
  cases natural? text with
  | none => simp
  | some n =>
      simp only [Option.some.injEq]
      constructor
      · intro hCount
        split at hCount
        · rename_i hFits
          obtain rfl := Option.some.inj hCount
          exact (UInt32.toNat_ofNat_of_lt hFits).symm
        · cases hCount
      · rintro rfl
        rw [if_pos count.toNat_lt, UInt32.ofNat_toNat]

/-- A counter is read with its default as it is told. -/
theorem counts_iff {text? : Option String} {default : UInt32} :
    Counts text? default.toNat n ↔ ((text?.bind counter?).getD default).toNat = n := by
  cases hCounter : text?.bind counter? with
  | some count =>
      obtain ⟨text, rfl, hText⟩ := Option.bind_eq_some_iff.mp hCounter
      have hNumeral := counter?_eq_some_iff.mp hText
      constructor
      · rintro (⟨_, hSame, hOther, hFits⟩ | ⟨-, hUnread⟩)
        · obtain rfl := Option.some.inj hSame
          have hBoth := (natural?_eq_some_iff.mpr hNumeral).symm.trans
            (natural?_eq_some_iff.mpr hOther)
          exact Option.some.inj hBoth
        · exact absurd count.toNat_lt (Nat.not_lt.mpr (hUnread text rfl _ hNumeral))
      · rintro rfl
        exact .inl ⟨text, rfl, hNumeral, count.toNat_lt⟩
  | none =>
      have hUnread (text : String) (hSome : text? = some text) (m : Nat)
          (hNumeral : IsNumeral text m) : UInt32.size ≤ m := by
        refine Nat.not_lt.mp fun hFits => ?_
        have hCount : (UInt32.ofNat m).toNat = m := UInt32.toNat_ofNat_of_lt hFits
        have hText : counter? text = some (.ofNat m) :=
          counter?_eq_some_iff.mpr (hCount.symm ▸ hNumeral)
        rw [hSome, Option.bind_some, hText] at hCounter
        cases hCounter
      constructor
      · rintro (⟨text, hSome, hNumeral, hFits⟩ | ⟨rfl, -⟩)
        · exact absurd hFits (Nat.not_lt.mpr (hUnread text hSome n hNumeral))
        · rfl
      · rintro rfl
        exact .inr ⟨rfl, hUnread⟩

theorem IsNumeral.isDigit_or_eq {c : Char} (numeral : IsNumeral text n)
    (hMem : c ∈ text.toList) : c.isDigit = true ∨ c = '+' := by
  obtain ⟨digits, -, hDigits, hText | hText, -⟩ := numeral
  · exact .inl (hDigits c (hText ▸ hMem))
  · rw [hText] at hMem
    exact (List.mem_cons.mp hMem).symm.imp_left (hDigits c)

end Text

namespace Number

/-- A fraction has a point or an exponent, and what is not finite is no number. -/
theorem exists_mark_scaledText (d : Decimal.Scaled) :
    '.' ∈ (scaledText d).toList ∨ 'e' ∈ (scaledText d).toList := by
  rw [scaledText]
  split
  · exact .inl (by simp)
  · split
    · exact .inl (by simp)
    · split
      · exact .inl (by simp)
      · exact .inr (by simp)

theorem not_isNumeral_fractionText (bits : UInt64) (n : Nat) :
    ¬ Text.IsNumeral (fractionText bits) n := by
  intro numeral
  have hMark : '.' ∈ (fractionText bits).toList ∨ 'e' ∈ (fractionText bits).toList ∨
      'n' ∈ (fractionText bits).toList := by
    rw [fractionText]
    split
    · exact .inr (.inr (by simp))
    · exact .inl (by simp)
    · rename_i b _ _
      rcases exists_mark_scaledText b.shortest with hPoint | hExponent
      · exact .inl (by simp [hPoint])
      · exact .inr (.inl (by simp [hExponent]))
  rcases hMark with hMem | hMem | hMem <;>
    rcases numeral.isDigit_or_eq hMem with hDigit | hSign <;> contradiction

theorem isNumeral_integerText_iff {value : Int} {n : Nat} :
    Text.IsNumeral (integerText value) n ↔ value = n := by
  cases value with
  | ofNat m =>
      have hValue : Text.IsNumeral (Text.decimal m) n ↔ m = n := by
        rw [← Text.natural?_eq_some_iff, Text.natural?_decimal, Option.some.injEq]
      exact hValue.trans Int.ofNat_inj.symm
  | negSucc m =>
      refine iff_of_false (fun numeral => ?_) (by simp)
      rcases numeral.isDigit_or_eq (c := '-') (by simp [integerText]) with hDigit | hSign <;>
        contradiction

end Number

/-- The number that the value of a property tells. -/
inductive Json.Tells : Json → Nat → Prop where
  | number (n : Nat) : Tells (.natural n) n
  | text {text : String} {n : Nat} (numeral : Text.IsNumeral text n) : Tells (.string text) n

namespace Header

/-- No JSON value but a whole number and a text can be read as a number. -/
theorem isNumeral_ofProperty_iff {value : Json} {n : Nat} :
    Text.IsNumeral (ofProperty value) n ↔ value.Tells n := by
  constructor
  · intro numeral
    -- Every other value shows a character that no numeral has.
    have hChar {c : Char} (hMem : c ∈ (ofProperty value).toList) := numeral.isDigit_or_eq hMem
    cases value with
    | null =>
        obtain ⟨digits, hSome, -, hText | hText, -⟩ := numeral
        · exact absurd hText.symm hSome
        · cases hText
    | boolean b =>
        have hLetter : 'e' ∈ (ofProperty (.boolean b)).toList := by
          cases b <;> simp [ofProperty, Json.compact]
        rcases hChar hLetter with hDigit | hSign <;> contradiction
    | number number =>
        cases number with
        | integer m =>
            obtain rfl := Number.isNumeral_integerText_iff.mp numeral
            exact .number n
        | fraction bits => exact absurd numeral (Number.not_isNumeral_fractionText bits n)
    | string text => exact .text numeral
    | array elements =>
        have hBracket : '[' ∈ (ofProperty (.array elements)).toList := by
          simp [ofProperty, Json.compact]
        rcases hChar hBracket with hDigit | hSign <;> contradiction
    | object members =>
        have hBrace : '\x7b' ∈ (ofProperty (.object members)).toList := by
          simp [ofProperty, Json.compact]
        rcases hChar hBrace with hDigit | hSign <;> contradiction
  · rintro (_ | numeral)
    · exact Number.isNumeral_integerText_iff.mpr rfl
    · exact numeral

end Header

end BusEndpoint
