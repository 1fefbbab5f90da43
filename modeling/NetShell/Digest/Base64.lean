import NetShell.Bytes

/-! Base64 with the standard alphabet and padding: three bytes become four symbols,
and a last group of one or two bytes is filled up with `=`. -/
namespace NetShell.Digest

/-- The symbol of a six-bit value. -/
def symbol (n : Nat) : Char :=
  if n < 26 then Char.ofNat ('A'.toNat + n)
  else if n < 52 then Char.ofNat ('a'.toNat + (n - 26))
  else if n < 62 then Char.ofNat ('0'.toNat + (n - 52))
  else if n = 62 then '+'
  else '/'

/-- The symbols of a byte string. -/
def base64 : Bytes → List Char
  | a :: b :: c :: rest =>
    let n := Bytes.toNat [a, b, c]
    symbol (n / 262144) :: symbol (n / 4096 % 64) :: symbol (n / 64 % 64) :: symbol (n % 64) ::
      base64 rest
  | [a, b] =>
    let n := Bytes.toNat [a, b, 0]
    [symbol (n / 262144), symbol (n / 4096 % 64), symbol (n / 64 % 64), '=']
  | [a] =>
    let n := Bytes.toNat [a, 0, 0]
    [symbol (n / 262144), symbol (n / 4096 % 64), '=', '=']
  | [] => []

end NetShell.Digest
