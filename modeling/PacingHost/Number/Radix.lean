/-! # Digits of any base up to sixteen -/

namespace PacingHost.Number

/-- The value of a digit; letters count in either case, and other characters are worth sixteen. -/
def digitValue (c : Char) : Nat :=
  if '0' ≤ c ∧ c ≤ '9' then c.toNat - '0'.toNat
  else if 'a' ≤ c ∧ c ≤ 'f' then c.toNat - 'a'.toNat + 10
  else if 'A' ≤ c ∧ c ≤ 'F' then c.toNat - 'A'.toNat + 10
  else 16

def isDigitOf (base : Nat) (c : Char) : Bool := digitValue c < base

/-- The number that some digits write, the first of them weighing most. -/
def ofDigits (base : Nat) (digits : List Char) : Nat :=
  digits.foldl (fun value c => base * value + digitValue c) 0

/-- The capital hexadecimal digit of a number below sixteen. -/
def hexDigit (value : Nat) : Char :=
  if value < 10 then Char.ofNat ('0'.toNat + value) else Char.ofNat ('A'.toNat + value - 10)

/-- Four capital hexadecimal digits. -/
def hexWord (value : Nat) : List Char :=
  [hexDigit (value / 4096 % 16), hexDigit (value / 256 % 16), hexDigit (value / 16 % 16),
    hexDigit (value % 16)]

theorem digitValue_hexDigit {value : Nat} (small : value < 16) :
    digitValue (hexDigit value) = value := by
  have all : ∀ digit : Fin 16, digitValue (hexDigit digit) = digit := by decide
  exact all ⟨value, small⟩

theorem ofDigits_hexWord {value : Nat} (small : value < 65536) :
    ofDigits 16 (hexWord value) = value := by
  simp only [ofDigits, hexWord, List.foldl_cons, List.foldl_nil,
    digitValue_hexDigit (Nat.mod_lt _ (by decide : 0 < 16))]
  omega

end PacingHost.Number
