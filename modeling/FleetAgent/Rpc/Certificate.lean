/-!
# Certificates in text form

A certificate stands in a text between two marker lines, as bytes in base 64. Text outside of such
blocks is ignored. Of the bytes only the outermost structure is checked: a sequence of the body, the
algorithm and the signature.

## Main definitions

* `Certificate.blocks?`: the bytes of the blocks of a text, or nothing if a block is broken.
* `Certificate.isWellFormed`: whether bytes have the outermost structure of a certificate.
* `Certificate.accepted`: whether a text can be used.
-/

namespace FleetAgent.Rpc.Certificate

/-- The value of a digit of base 64. -/
def digit? (c : Char) : Option Nat :=
  if 'A' ≤ c ∧ c ≤ 'Z' then some (c.toNat - 'A'.toNat)
  else if 'a' ≤ c ∧ c ≤ 'z' then some (c.toNat - 'a'.toNat + 26)
  else if '0' ≤ c ∧ c ≤ '9' then some (c.toNat - '0'.toNat + 52)
  else if c = '+' then some 62
  else if c = '/' then some 63
  else none

/-- The bytes of a text in base 64. Its length is a multiple of four, with one or two equals signs
at the end; bits that are left over must be zero. -/
def decode64? : List Char → Option (List UInt8)
  | [] => some []
  | [a, b, '=', '='] => do
    let n := (← digit? a) * 64 + (← digit? b)
    if n % 16 = 0 then some [(n / 16).toUInt8] else none
  | [a, b, c, '='] => do
    let n := ((← digit? a) * 64 + (← digit? b)) * 64 + (← digit? c)
    if n % 4 = 0 then some [(n / 1024).toUInt8, (n / 4).toUInt8] else none
  | a :: b :: c :: d :: rest => do
    let n := (((← digit? a) * 64 + (← digit? b)) * 64 + (← digit? c)) * 64 + (← digit? d)
    let more ← decode64? rest
    some ((n / 65536).toUInt8 :: (n / 256).toUInt8 :: n.toUInt8 :: more)
  | _ => none

/-- The mark at the start of a first line of a block. -/
def startMark : List Char := "-----BEGIN ".toList

/-- The mark at the end of the first and the last line of a block. -/
def endMark : List Char := "-----".toList

/-- The line without blanks at its end. -/
def trimEnd (line : List Char) : List Char :=
  (line.reverse.dropWhile fun c => c.isWhitespace).reverse

/-- The kind of block that a line starts: nothing within the result if the line is broken. -/
def startOf? (line : List Char) : Option (Option (List Char)) :=
  if startMark.isPrefixOf line then
    let kind := trimEnd (line.drop startMark.length)
    if endMark.isSuffixOf kind then some (some (kind.take (kind.length - endMark.length)))
    else some none
  else none

/-- The last line of a block of a kind. -/
def lastLine (kind : List Char) : List Char := "-----END ".toList ++ kind ++ endMark

/-- The bytes of the blocks that hold a certificate, in their order; `opened` is the kind of block
that is being read and the text in it. -/
def readLines? : (opened : Option (List Char × List Char)) → List (List Char) →
    Option (List (List UInt8))
  | none, [] => some []
  | some _, [] => none
  | none, line :: lines => match startOf? line with
    | none => readLines? none lines
    | some none => none
    | some (some kind) => readLines? (some (kind, [])) lines
  | some (kind, text), line :: lines =>
    if (lastLine kind).isPrefixOf line then do
      let bytes ← decode64? text
      let more ← readLines? none lines
      some (if kind = "CERTIFICATE".toList then bytes :: more else more)
    else
      readLines? (some (kind, text ++ (trimEnd line).filter fun c => !c.isWhitespace)) lines

/-- The bytes of the blocks of a text that hold a certificate. -/
def blocks? (s : String) : Option (List (List UInt8)) :=
  readLines? none (s.toList.splitOn '\n')

/-- The element at the front of the bytes: its mark, its content, and the bytes after it. -/
def element? : List UInt8 → Option (UInt8 × List UInt8 × List UInt8)
  | mark :: length :: rest => do
    let (n, rest) ←
      if length.toNat < 128 then some (length.toNat, rest)
      else
        let k := length.toNat - 128
        if k = 0 ∨ 4 < k ∨ rest.length < k then none
        else some ((rest.take k).foldl (fun n b => n * 256 + b.toNat) 0, rest.drop k)
    if rest.length < n then none else some (mark, rest.take n, rest.drop n)
  | _ => none

/-- Whether the bytes are a sequence of two sequences and a string of bits. -/
def isWellFormed (bytes : List UInt8) : Bool :=
  (do
    let (mark, content, after) ← element? bytes
    let (bodyMark, body, content) ← element? content
    let (algorithmMark, _, content) ← element? content
    let (signatureMark, _, content) ← element? content
    some (mark = 0x30 && after.isEmpty && bodyMark = 0x30 && !body.isEmpty &&
      algorithmMark = 0x30 && signatureMark = 0x03 && content.isEmpty)).getD false

/-- Whether no block of the text is broken, and every one that should hold a certificate does. -/
def accepted (s : String) : Bool :=
  match blocks? s with
  | none => false
  | some blocks => blocks.all isWellFormed

end FleetAgent.Rpc.Certificate
