/-!
White space as the Unicode character database has it.
-/

set_option autoImplicit false

namespace MotorTariff

def isWhitespace (c : Char) : Bool :=
  let n := c.toNat
  decide (0x09 ≤ n ∧ n ≤ 0x0d) || n == 0x20 || n == 0x85 || n == 0xa0 || n == 0x1680 ||
    decide (0x2000 ≤ n ∧ n ≤ 0x200a) || n == 0x2028 || n == 0x2029 || n == 0x202f ||
    n == 0x205f || n == 0x3000

def trimStart (chars : List Char) : List Char := chars.dropWhile isWhitespace

def trimEnd (chars : List Char) : List Char := (trimStart chars.reverse).reverse

end MotorTariff
