/-!
# Hexadecimal digits

Numbers in base sixteen, as they stand in escapes.

## Main definitions

* `hexValue?` — the value of a digit, in either case.
* `hexDigits`, `hexQuad` — a number in lower case, without padding and with four digits.

## Main statements

* `quadValue?_hexQuad` — four digits that were written are read again.
-/

namespace Faultline.Text

/-- The value of a hexadecimal digit, in either case. -/
def hexValue? (c : Char) : Option Nat :=
  if '0' ≤ c ∧ c ≤ '9' then some (c.toNat - '0'.toNat)
  else if 'a' ≤ c ∧ c ≤ 'f' then some (c.toNat - 'a'.toNat + 10)
  else if 'A' ≤ c ∧ c ≤ 'F' then some (c.toNat - 'A'.toNat + 10)
  else none

/-- The value of four hexadecimal digits. -/
def quadValue? (a b c d : Char) : Option Nat := do
  let a ← hexValue? a
  let b ← hexValue? b
  let c ← hexValue? c
  let d ← hexValue? d
  return ((a * 16 + b) * 16 + c) * 16 + d

/-- The digits of a number in base sixteen, in lower case and without padding. -/
def hexDigits (n : Nat) : List Char := Nat.toDigits 16 n

/-- Four hexadecimal digits in lower case. -/
def hexQuad (n : Nat) : List Char :=
  [n / 4096 % 16, n / 256 % 16, n / 16 % 16, n % 16].map Nat.digitChar

/-! ### What is written is read again -/

theorem hexValue?_digitChar {n : Nat} (h : n < 16) : hexValue? (Nat.digitChar n) = some n := by
  have : ∀ k : Fin 16, hexValue? (Nat.digitChar k.val) = some k.val := by decide
  exact this ⟨n, h⟩

/-- Four digits that were written are read again. -/
theorem quadValue?_hexQuad {n : Nat} (h : n < 65536) :
    quadValue? (Nat.digitChar (n / 4096 % 16)) (Nat.digitChar (n / 256 % 16))
      (Nat.digitChar (n / 16 % 16)) (Nat.digitChar (n % 16)) = some n := by
  simp only [quadValue?, hexValue?_digitChar (Nat.mod_lt _ (by decide : 16 > 0)),
    Option.bind_eq_bind, Option.bind_some, pure, Option.some.injEq]
  omega

end Faultline.Text
