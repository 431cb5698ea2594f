/-!
Blank characters: the property White_Space of Unicode.
-/

namespace Switchboard.Text

/-- Space, tab, line feed, vertical tab, form feed and carriage return. -/
def isPlainBlank (c : Char) : Bool := c == ' ' || (0x09 ≤ c.toNat && c.toNat ≤ 0x0D)

def isBlank (c : Char) : Bool :=
  let n := c.toNat
  isPlainBlank c || n == 0x85 || n == 0xA0 || n == 0x1680 || (0x2000 ≤ n && n ≤ 0x200A)
    || n == 0x2028 || n == 0x2029 || n == 0x202F || n == 0x205F || n == 0x3000

def trim (blank : Char → Bool) (cs : List Char) : List Char :=
  ((cs.dropWhile blank).reverse.dropWhile blank).reverse

end Switchboard.Text
