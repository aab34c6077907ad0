namespace RedactableLedger

namespace Text

/-- The lower-case hexadecimal digits of a number, without leading zeros. -/
def hexDigits (n : Nat) : String := String.ofList (Nat.toDigits 16 n)

/-- A character below U+0100 between single quotes. Control characters, the no-break space and
the soft hyphen do not print and are written by number; the quote and the backslash are
escaped. -/
def quotedLatin (c : Char) : String :=
  let v := c.toNat
  let inner :=
    if v = 0 then "\\0"
    else if v = 9 then "\\t"
    else if v = 10 then "\\n"
    else if v = 13 then "\\r"
    else if c = '\'' then "\\'"
    else if c = '\\' then "\\\\"
    else if v < 32 ∨ (127 ≤ v ∧ v ≤ 160) ∨ v = 173 then "\\u\x7b" ++ hexDigits v ++ "\x7d"
    else c.toString
  "'" ++ inner ++ "'"

end Text

end RedactableLedger
