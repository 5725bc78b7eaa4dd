/-!
# Text in ASCII letters

A text is written in the characters of ASCII: those that it has come first, with a hyphen behind them
if there are any, and behind it numbers say how the others are put in.  They are put in in the order
of their code points, and those of one code point from left to right.  A number counts the places that
are passed over: a text of `n` characters has `n + 1` places, and one time through all of them goes to
the next code point.

A number is written in base 36 with its lowest digit first; a digit below the threshold of its place
ends it.  The thresholds follow a bias, which follows the numbers so far, so that numbers of the usual
size are short (`settledBias`).
-/

namespace MeshControl.Text.Punycode

/-! ### Numbers -/

/-- The digit of a value below 36: a letter, or a decimal digit for the last ten. -/
def digitChar (value : Nat) : Char :=
  if value < 26 then Char.ofNat ('a'.toNat + value) else Char.ofNat ('0'.toNat + (value - 26))

/-- The value of a digit. -/
def digit? (c : Char) : Option Nat :=
  if 'a' ≤ c ∧ c ≤ 'z' then some (c.toNat - 'a'.toNat)
  else if 'A' ≤ c ∧ c ≤ 'Z' then some (c.toNat - 'A'.toNat)
  else if '0' ≤ c ∧ c ≤ '9' then some (c.toNat - '0'.toNat + 26)
  else none

/-- The threshold of a place, the first of which is 36 and each later one 36 more. -/
def threshold (bias place : Nat) : Nat :=
  max 1 (min 26 (place - bias))

/-- Below a threshold there is room for a digit that goes on. -/
theorem one_le_threshold (bias place : Nat) : 1 ≤ threshold bias place :=
  Nat.le_max_left ..

/-- The digits of a number. -/
def digits (bias place n : Nat) : List Char :=
  let t := threshold bias place
  if n < t then [digitChar n]
  else digitChar (t + (n - t) % (36 - t)) :: digits bias (place + 36) ((n - t) / (36 - t))
termination_by n
decreasing_by
  have := one_le_threshold bias place
  exact Nat.lt_of_le_of_lt (Nat.div_le_self ..) (by omega)

/-- The bound of numbers and of the weights of digits. -/
def bound : Nat := UInt32.size

/-- Reads a number and adds it to another one; the rest is what follows its last digit. -/
def readNumber? (bias place weight sum : Nat) : List Char → Option (Nat × List Char)
  | [] => none
  | c :: rest =>
    match digit? c with
    | none => none
    | some value =>
      let t := threshold bias place
      if bound ≤ sum + value * weight then none
      else if value < t then some (sum + value * weight, rest)
      else if bound ≤ weight * (36 - t) then none
      else readNumber? bias (place + 36) (weight * (36 - t)) (sum + value * weight) rest

/-- A number that is read has at least one digit. -/
theorem length_lt_of_readNumber? {bias place weight sum n : Nat} {cs rest : List Char}
    (h : readNumber? bias place weight sum cs = some (n, rest)) : rest.length < cs.length := by
  induction cs generalizing place weight sum with
  | nil => simp [readNumber?] at h
  | cons c cs ih =>
    simp only [readNumber?] at h
    split at h
    · simp at h
    · split at h
      · simp at h
      · split at h
        · simp_all
        · split at h
          · simp at h
          · have := ih h
            simp only [List.length_cons]
            omega

/-- Divides by 35 until a number is at most 455, and makes it the bias: 36 for each division, and for
what is left up to 35. -/
def settle (bias n : Nat) : Nat :=
  if 455 < n then settle (bias + 36) (n / 35) else bias + 36 * n / (n + 38)
termination_by n
decreasing_by exact Nat.div_lt_self (by omega) (by omega)

/-- The bias behind a number with which a text became so many characters long.  The first number,
which also leads to the first code point, is damped. -/
def settledBias (isFirst : Bool) (n size : Nat) : Nat :=
  let n := if isFirst then n / 700 else n / 2
  settle 0 (n + n / size)

/-! ### Texts -/

/-- Whether a character is one of ASCII. -/
def isAscii (c : Char) : Bool := c.toNat < 0x80

/-- What is put into a text, in order: code points, each with the number of characters that are before
its place at that time. -/
def insertions (cs : List Char) : List (Nat × Nat) :=
  let all := cs.zipIdx.filterMap fun (c, place) =>
    if isAscii c then none
    else some (c.toNat, (cs.take place).countP (·.toNat ≤ c.toNat))
  all.mergeSort fun a b => a.1 ≤ b.1

/-- The numbers of insertions, given the bias, the place that is next, which is a code point and the
number of characters before it, and the length of the text so far. -/
def writeInsertions (bias code place size : Nat) : List (Nat × Nat) → List Char
  | [] => []
  | (toCode, toPlace) :: rest =>
    let n := (toCode - code) * (size + 1) + toPlace - place
    digits bias 36 n
      ++ writeInsertions (settledBias (place == 0) n (size + 1)) toCode (toPlace + 1) (size + 1) rest

/-- A text in ASCII letters. -/
def encode (cs : List Char) : List Char :=
  let plain := cs.filter isAscii
  (if plain.isEmpty then [] else plain ++ ['-'])
    ++ writeInsertions 72 0x80 0 plain.length (insertions cs)

/-- Puts characters into a text as numbers say, given the bias and the place that is next. -/
def readInsertions? (bias code place : Nat) (text cs : List Char) : Option (List Char) :=
  if cs.isEmpty then some text
  else
    match h : readNumber? bias 36 1 place cs with
    | none => none
    | some (n, rest) =>
      have := length_lt_of_readNumber? h
      let size := text.length + 1
      let toCode := code + n / size
      if toCode.isValidChar then
        readInsertions? (settledBias (place == 0) (n - place) size) toCode (n % size + 1)
          (text.insertIdx (n % size) (Char.ofNat toCode)) rest
      else none
termination_by cs.length

/-- The text that ASCII letters stand for. -/
def decode? (cs : List Char) : Option (List Char) :=
  let numbers := (cs.reverse.takeWhile (· != '-')).reverse
  let plain := cs.take (cs.length - numbers.length - 1)
  if !plain.all isAscii then none
  else if plain.isEmpty && numbers.length < cs.length then none
  else readInsertions? 72 0x80 0 plain numbers

end MeshControl.Text.Punycode
