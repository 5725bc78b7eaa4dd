/-!
# Text as bytes

UTF-8 in both directions.  `pieces` cuts a row of bytes into characters and broken stretches, each
broken stretch being the longest one that begins a character (one byte if none does).  Strict reading
(`decode?`) accepts no broken stretch; lenient reading (`decodeLossy`) puts one replacement character
in place of each.
-/

namespace MeshControl.Text.Utf8

/-- The bytes of a text. -/
def encode (s : String) : List UInt8 :=
  s.toUTF8.toList

/-- What stands at the front of a row of bytes, and how many bytes after the first one belong to it:
a character, or a broken stretch. -/
structure Front where
  char? : Option Char
  extra : Nat

/-- Whether a byte lies between two bounds. -/
def within (low high : Nat) (b : UInt8) : Bool :=
  low ≤ b.toNat && b.toNat ≤ high

/-- The six bits that a byte adds to a character. -/
def payload (b : UInt8) : Nat :=
  b.toNat % 64

/-- A character of two bytes. -/
def frontTwo (n : Nat) : List UInt8 → Front
  | b :: _ =>
    if within 0x80 0xBF b then ⟨some (Char.ofNat (n % 32 * 64 + payload b)), 1⟩ else ⟨none, 0⟩
  | [] => ⟨none, 0⟩

/-- A character of three bytes, the second one within the given bounds. -/
def frontThree (n low high : Nat) : List UInt8 → Front
  | b :: rest =>
    if within low high b then
      match rest with
      | c :: _ =>
        if within 0x80 0xBF c then
          ⟨some (Char.ofNat (n % 16 * 4096 + payload b * 64 + payload c)), 2⟩
        else ⟨none, 1⟩
      | [] => ⟨none, 1⟩
    else ⟨none, 0⟩
  | [] => ⟨none, 0⟩

/-- A character of four bytes, the second one within the given bounds. -/
def frontFour (n low high : Nat) : List UInt8 → Front
  | b :: rest =>
    if within low high b then
      match rest with
      | c :: rest =>
        if within 0x80 0xBF c then
          match rest with
          | d :: _ =>
            if within 0x80 0xBF d then
              ⟨some (Char.ofNat (n % 8 * 262144 + payload b * 4096 + payload c * 64 + payload d)), 3⟩
            else ⟨none, 2⟩
          | [] => ⟨none, 2⟩
        else ⟨none, 1⟩
      | [] => ⟨none, 1⟩
    else ⟨none, 0⟩
  | [] => ⟨none, 0⟩

/-- What a first byte and the bytes after it begin with. -/
def front (b : UInt8) (rest : List UInt8) : Front :=
  let n := b.toNat
  if n < 0x80 then ⟨some (Char.ofNat n), 0⟩
  else if within 0xC2 0xDF b then frontTwo n rest
  else if n = 0xE0 then frontThree n 0xA0 0xBF rest
  else if n = 0xED then frontThree n 0x80 0x9F rest
  else if within 0xE1 0xEF b then frontThree n 0x80 0xBF rest
  else if n = 0xF0 then frontFour n 0x90 0xBF rest
  else if within 0xF1 0xF3 b then frontFour n 0x80 0xBF rest
  else if n = 0xF4 then frontFour n 0x80 0x8F rest
  else ⟨none, 0⟩

/-- The characters and broken stretches of a row of bytes, a broken stretch being `none`. -/
def pieces : List UInt8 → List (Option Char)
  | [] => []
  | b :: rest =>
    let f := front b rest
    f.char? :: pieces (rest.drop f.extra)
termination_by bytes => bytes.length
decreasing_by rw [List.length_drop, List.length_cons]; omega

/-- The characters of a row of bytes, or `none` if some stretch is broken. -/
def decodeChars? (bytes : List UInt8) : Option (List Char) :=
  (pieces bytes).mapM id

/-- The text that a row of bytes encodes, or `none` if some stretch is broken. -/
def decode? (bytes : List UInt8) : Option String :=
  (decodeChars? bytes).map String.ofList

/-- The text that a row of bytes encodes, with U+FFFD for each broken stretch. -/
def decodeLossy (bytes : List UInt8) : String :=
  String.ofList ((pieces bytes).map (·.getD '\ufffd'))

/-! ### What is wrong with bytes -/

/-- The first broken stretch of a row of bytes. -/
structure Flaw where
  index : Nat
  length : Nat
  /-- The row ends before the character does. -/
  isCut : Bool
  deriving DecidableEq, Repr

/-- The first broken stretch of bytes that begin at an index. -/
def flawFrom? (index : Nat) : List UInt8 → Option Flaw
  | [] => none
  | b :: rest =>
    let f := front b rest
    match f.char? with
    | some _ => flawFrom? (index + f.extra + 1) (rest.drop f.extra)
    | none => some ⟨index, f.extra + 1, f.extra = rest.length && within 0xC2 0xF4 b⟩
termination_by bytes => bytes.length
decreasing_by rw [List.length_drop, List.length_cons]; omega

/-- The message of a flaw. -/
def Flaw.message (flaw : Flaw) : String :=
  if flaw.isCut then "incomplete utf-8 byte sequence from index " ++ toString flaw.index
  else "invalid utf-8 sequence of " ++ toString flaw.length ++ " bytes from index "
    ++ toString flaw.index

/-- The text that a row of bytes encodes, or what is wrong with it. -/
def decode (bytes : List UInt8) : Except Flaw String :=
  match flawFrom? 0 bytes with
  | some flaw => .error flaw
  | none => .ok (decodeLossy bytes)

end MeshControl.Text.Utf8
