/-!
# Quoted text

A text between double quotes, as it stands in diagnostic output: a quote and a backslash have a
backslash in front of them, the common control characters have their one-letter form, and every
other character that cannot be seen is written by its code point.

## Main definitions

* `Text.isInvisible`: the characters that are written by their code point.
* `Text.quoted`: the text between its quotes.
-/

namespace FleetAgent.Text

/-- The ranges of code points that are not shown as themselves: controls, unassigned and private
code points of the basic plane, format characters, separators other than the space, and marks that
attach to the character before them. -/
def invisibleRanges : List (Nat × Nat) :=
  [(0x00, 0x1F), (0x7F, 0xA0), (0xAD, 0xAD), (0x300, 0x36F), (0x483, 0x489), (0x591, 0x5BD),
    (0x5BF, 0x5BF), (0x5C1, 0x5C2), (0x5C4, 0x5C5), (0x600, 0x605), (0x610, 0x61A),
    (0x61C, 0x61C), (0x64B, 0x65F), (0x670, 0x670), (0x6D6, 0x6DD), (0x6DF, 0x6E4),
    (0x6E7, 0x6E8), (0x6EA, 0x6ED), (0x1680, 0x1680), (0x180B, 0x180F), (0x1AB0, 0x1ACE),
    (0x1DC0, 0x1DFF), (0x2000, 0x200F), (0x2028, 0x202F), (0x205F, 0x2070), (0x20D0, 0x20F0),
    (0x3000, 0x3000), (0x302A, 0x302F), (0x3099, 0x309A), (0xD800, 0xF8FF), (0xFB1E, 0xFB1E),
    (0xFE00, 0xFE0F), (0xFE20, 0xFE2F), (0xFEFF, 0xFEFF), (0xFFF0, 0xFFFB), (0xFFFE, 0xFFFF),
    (0xE0000, 0x10FFFF)]

/-- Whether the character is written by its code point. -/
def isInvisible (c : Char) : Bool :=
  invisibleRanges.any fun r => r.1 ≤ c.toNat && c.toNat ≤ r.2

/-- The hexadecimal digits of a number, in lower case. -/
def hexDigits (n : Nat) : String := String.ofList (Nat.toDigits 16 n)

/-- One character of a quoted text. -/
def quotedChar (c : Char) : String :=
  if c = '"' then "\\\""
  else if c = '\\' then "\\\\"
  else if c = '\t' then "\\t"
  else if c = '\r' then "\\r"
  else if c = '\n' then "\\n"
  else if c.toNat = 0 then "\\0"
  else if isInvisible c then "\\u\x7b" ++ hexDigits c.toNat ++ "\x7d"
  else c.toString

/-- The text between double quotes. -/
def quoted (s : String) : String :=
  "\"" ++ String.join (s.toList.map quotedChar) ++ "\""

end FleetAgent.Text
