import Backlog.Json.Value
import Backlog.Text.Decimal
/-!
# Writing JSON

A value is written without blanks and in ASCII: a character beyond ASCII is written as its UTF-16
code units, so a reader needs no encoding. A number with a fraction or an exponent is written as
its digits and a power of ten.
-/

namespace Backlog.Json

open Text

/-- The hexadecimal digit of a value below 16. -/
def hexDigit (n : Nat) : Char := Nat.digitChar n

/-- A code unit as an escape. -/
def escapedUnit (u : Nat) : List Char :=
  '\\' :: 'u' :: [u / 4096 % 16, u / 256 % 16, u / 16 % 16, u % 16].map hexDigit

/-- A character inside a string. -/
def writeChar (c : Char) : List Char :=
  let n := c.toNat
  if c == '"' || c == '\\' then ['\\', c]
  else if 0x20 ≤ n && n < 0x7F then [c]
  else if n < 0x10000 then escapedUnit n
  else
    let m := n - 0x10000
    escapedUnit (0xD800 + m / 0x400) ++ escapedUnit (0xDC00 + m % 0x400)

/-- A string in quotes, put before `rest`. -/
def writeString (s : String) (rest : List Char) : List Char :=
  '"' :: s.toList.foldr (fun c acc => writeChar c ++ acc) ('"' :: rest)

/-- An integer, put before `rest`. -/
def writeInt (n : Int) (rest : List Char) : List Char :=
  if n < 0 then '-' :: (decimal n.natAbs ++ rest) else decimal n.natAbs ++ rest

mutual

/-- A value, put before `rest`. -/
def write : Json → List Char → List Char
  | .null, rest => "null".toList ++ rest
  | .bool b, rest => (if b then "true".toList else "false".toList) ++ rest
  | .int n, rest => writeInt n rest
  | .scaled negative digits exponent, rest =>
    (if negative then ['-'] else []) ++ decimal digits ++ 'e' :: writeInt exponent rest
  | .str s, rest => writeString s rest
  | .arr [], rest => '[' :: ']' :: rest
  | .arr (x :: xs), rest => '[' :: write x (writeItems xs (']' :: rest))
  | .obj [], rest => '\x7b' :: '\x7d' :: rest
  | .obj ((n, x) :: ms), rest =>
    '\x7b' :: writeString n (':' :: write x (writeMembers ms ('\x7d' :: rest)))

/-- The items of an array after the first, put before `rest`. -/
def writeItems : List Json → List Char → List Char
  | [], rest => rest
  | x :: xs, rest => ',' :: write x (writeItems xs rest)

/-- The members of an object after the first, put before `rest`. -/
def writeMembers : List (String × Json) → List Char → List Char
  | [], rest => rest
  | (n, x) :: ms, rest => ',' :: writeString n (':' :: write x (writeMembers ms rest))

end

/-- A value as text. -/
def text (j : Json) : String := String.ofList (write j [])

end Backlog.Json
