import Highlighter.Text.Numerals

/-!
# Reading numerals back

A numeral in base ten is the one of the standard library, whose digits are known to add up to
the number again.  Base sixteen is written in small digits with leading zeros and in capitals
without them; either way the digits are read back by `hexNumber?`.
-/

namespace Highlighter

namespace Text

/-! ## Base ten -/

theorem smallDigit_eq_digitChar {value : Nat} (small : value < 10) :
    smallDigit value = value.digitChar := by
  revert value
  decide

/-- A number in base ten is written as the standard library writes it. -/
theorem decimal_eq_toDigits (value : Nat) : decimal value = Nat.toDigits 10 value := by
  induction value using Nat.strongRecOn with
  | ind value inductionHypothesis =>
      rw [decimal, Nat.toDigits_eq_if (by decide : 1 < 10)]
      by_cases small : value < 10
      · rw [if_pos small, if_pos small, smallDigit_eq_digitChar small]
      · have fewer : value / 10 < value := Nat.div_lt_self (by omega) (by decide)
        rw [if_neg small, if_neg small, inductionHypothesis _ fewer,
          smallDigit_eq_digitChar (Nat.mod_lt _ (by decide))]

theorem isDigit_of_mem_decimal {value : Nat} {c : Char} (member : c ∈ decimal value) :
    c.isDigit = true := by
  rw [decimal_eq_toDigits] at member
  exact Nat.isDigit_of_mem_toDigits (by decide) (by decide) member

theorem decimal_ne_nil (value : Nat) : decimal value ≠ [] := by
  unfold decimal
  split <;> simp

/-- The number that digits of base ten write. -/
def number? (digits : Text) : Option Nat :=
  if digits.isEmpty || !digits.all Char.isDigit then none
  else some (Nat.ofDigitChars 10 digits 0)

@[simp]
theorem number?_decimal (value : Nat) : number? (decimal value) = some value := by
  have digits : (decimal value).all Char.isDigit = true :=
    List.all_eq_true.mpr fun _ => isDigit_of_mem_decimal
  rw [number?, if_neg (by simp [digits, decimal_ne_nil]), decimal_eq_toDigits,
    Nat.ofDigitChars_toDigits (by decide) (by decide)]

/-! ## Base sixteen -/

/-- The number that digits of base sixteen write, in either case. -/
def hexNumber? (digits : Text) : Option Nat :=
  digits.foldlM (fun number c => (hexValue? c).map (number * 16 + ·)) 0

theorem hexNumber?_concat (digits : Text) (c : Char) :
    hexNumber? (digits ++ [c]) =
      (hexNumber? digits).bind fun number => (hexValue? c).map (number * 16 + ·) := by
  simp [hexNumber?, List.foldlM_append]

theorem hexValue?_smallDigit {value : Nat} (small : value < 16) :
    hexValue? (smallDigit value) = some value := by
  revert value
  decide

theorem hexValue?_capitalDigit {value : Nat} (small : value < 16) :
    hexValue? (capitalDigit value) = some value := by
  revert value
  decide

theorem length_hexadecimal (width value : Nat) : (hexadecimal width value).length = width := by
  induction width generalizing value with
  | zero => rfl
  | succ width inductionHypothesis => simp [hexadecimal, inductionHypothesis]

/-- As many small digits as a number needs are read back as the number. -/
theorem hexNumber?_hexadecimal {width value : Nat} (fits : value < Nat.pow 16 width) :
    hexNumber? (hexadecimal width value) = some value := by
  induction width generalizing value with
  | zero =>
      have zero : value = 0 := Nat.lt_one_iff.mp fits
      rw [zero]
      rfl
  | succ width inductionHypothesis =>
      have split : value < Nat.pow 16 width * 16 := fits
      have front : value / 16 < Nat.pow 16 width := Nat.div_lt_of_lt_mul (by omega)
      rw [hexadecimal, hexNumber?_concat, inductionHypothesis front,
        hexValue?_smallDigit (Nat.mod_lt _ (by decide))]
      simp only [Option.bind_some, Option.map_some]
      congr 1
      omega

/-- Capitals without leading zeros are read back as the number. -/
@[simp]
theorem hexNumber?_capitalHexadecimal (value : Nat) :
    hexNumber? (capitalHexadecimal value) = some value := by
  induction value using Nat.strongRecOn with
  | ind value inductionHypothesis =>
      rw [capitalHexadecimal]
      by_cases small : value < 16
      · rw [if_pos small]
        simp [hexNumber?, hexValue?_capitalDigit small]
      · have fewer : value / 16 < value := Nat.div_lt_self (by omega) (by decide)
        rw [if_neg small, hexNumber?_concat, inductionHypothesis _ fewer,
          hexValue?_capitalDigit (Nat.mod_lt _ (by decide))]
        simp only [Option.bind_some, Option.map_some]
        congr 1
        omega

theorem isSome_hexValue?_of_mem_capitalHexadecimal {value : Nat} {c : Char}
    (member : c ∈ capitalHexadecimal value) : (hexValue? c).isSome = true := by
  induction value using Nat.strongRecOn with
  | ind value inductionHypothesis =>
      rw [capitalHexadecimal] at member
      by_cases small : value < 16
      · rw [if_pos small, List.mem_singleton] at member
        rw [member, hexValue?_capitalDigit small]
        rfl
      · have fewer : value / 16 < value := Nat.div_lt_self (by omega) (by decide)
        rw [if_neg small, List.mem_append, List.mem_singleton] at member
        rcases member with front | last
        · exact inductionHypothesis _ fewer front
        · rw [last, hexValue?_capitalDigit (Nat.mod_lt _ (by decide))]
          rfl

theorem capitalHexadecimal_ne_nil (value : Nat) : capitalHexadecimal value ≠ [] := by
  unfold capitalHexadecimal
  split <;> simp

end Text

/-! ## Code points -/

/-- The character whose code point a number is. -/
def codePoint? (number : Nat) : Option Char :=
  if number.isValidChar then some (Char.ofNat number) else none

@[simp]
theorem codePoint?_toNat (c : Char) : codePoint? c.toNat = some c := by
  have valid : c.toNat.isValidChar := c.valid
  rw [codePoint?, if_pos valid, Char.ofNat_toNat]

end Highlighter
