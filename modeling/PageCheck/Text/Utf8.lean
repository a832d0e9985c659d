import PageCheck.Text.Charset
import PageCheck.Text.Code
import PageCheck.Text.Digit

/-!
# Text as bytes

Characters are written as one to four bytes, the first of which says how many follow. Reading is
strict: only the shortest form of a character is read, and a fault names the bytes that were
looked at before reading stopped.
-/

namespace PageCheck.Text

def encodeChar (c : Char) : List UInt8 :=
  let n := c.toNat
  let bytes : List Nat :=
    if n < 0x80 then [n]
    else if n < 0x800 then [0xC0 + n / 0x40, 0x80 + n % 0x40]
    else if n < 0x10000 then [0xE0 + n / 0x1000, 0x80 + n / 0x40 % 0x40, 0x80 + n % 0x40]
    else [0xF0 + n / 0x40000, 0x80 + n / 0x1000 % 0x40, 0x80 + n / 0x40 % 0x40, 0x80 + n % 0x40]
  bytes.map UInt8.ofNat

def encode (s : List Char) : List UInt8 := s.flatMap encodeChar

/-- Halves that cannot be written: the first of them, its position, and how many more stand right
behind it. -/
structure EncodeFault where
  first : Fin halfCount
  position : Nat
  more : Nat
deriving DecidableEq, Repr

def EncodeFault.message (fault : EncodeFault) : String :=
  let place :=
    if fault.more = 0 then
      " character '\\u" ++ String.ofList (hexDigits 4 (firstHalf + fault.first)) ++ "' in position " ++
        toString fault.position
    else
      " characters in position " ++ toString fault.position ++ "-" ++
        toString (fault.position + fault.more)
  "'utf-8' codec can't encode" ++ place ++ ": surrogates not allowed"

def charsFrom (position : Nat) : Codes → Except EncodeFault (List Char)
  | [] => .ok []
  | .char c :: rest => (charsFrom (position + 1) rest).map (c :: ·)
  | .half first :: rest => .error ⟨first, position, (rest.takeWhile Code.isHalf).length⟩

/-- The text that codes can be written as. -/
def Codes.written (s : Codes) : Except EncodeFault String := (charsFrom 0 s).map String.ofList

inductive DecodeReason where
  | badStart
  | badContinuation
  | cutShort
  | notBasic
  | undefined
deriving DecidableEq, Repr

/-- The bytes that cannot be read: the first of them, its position, and their number. -/
structure DecodeFault where
  reason : DecodeReason
  position : Nat
  count : Nat
  byte : UInt8
deriving DecidableEq, Repr

namespace DecodeReason

def codec : DecodeReason → String
  | notBasic => "ascii"
  | undefined => "charmap"
  | _ => "utf-8"

def describe : DecodeReason → String
  | badStart => "invalid start byte"
  | badContinuation => "invalid continuation byte"
  | cutShort => "unexpected end of data"
  | notBasic => "ordinal not in range(128)"
  | undefined => "character maps to <undefined>"

end DecodeReason

namespace DecodeFault

def message (fault : DecodeFault) : String :=
  let place :=
    if fault.count = 1 then "byte 0x" ++ String.ofList (hexDigits 2 fault.byte.toNat) ++
      " in position " ++ toString fault.position
    else "bytes in position " ++ toString fault.position ++ "-" ++
      toString (fault.position + fault.count - 1)
  "'" ++ fault.reason.codec ++ "' codec can't decode " ++ place ++ ": " ++ fault.reason.describe

end DecodeFault

def following? (first : Nat) : Option Nat :=
  if first < 0x80 then some 0
  else if first < 0xC2 then none
  else if first < 0xE0 then some 1
  else if first < 0xF0 then some 2
  else if first < 0xF5 then some 3
  else none

def isContinuation (b : UInt8) : Bool := 0x80 ≤ b.toNat && b.toNat < 0xC0

/-- Whether a byte can be the second one after a first byte: long forms of characters that have a
shorter one, and numbers that are no characters, are shut out here. -/
def isSecond (first : Nat) (b : UInt8) : Bool :=
  isContinuation b &&
    (if first = 0xE0 then 0xA0 ≤ b.toNat else if first = 0xF0 then 0x90 ≤ b.toNat else true) &&
    (if first = 0xED then b.toNat < 0xA0 else if first = 0xF4 then b.toNat < 0x90 else true)

/-- How many of the bytes behind a first one belong to it. -/
def goodBytes (first : Nat) : List UInt8 → Nat
  | [] => 0
  | b :: rest => if isSecond first b then (rest.takeWhile isContinuation).length + 1 else 0

/-- The number of a character from its first byte and the ones behind it. -/
def sequenceValue (first : Nat) (rest : List UInt8) : Nat :=
  let lead := match rest.length with
    | 0 => first
    | 1 => first - 0xC0
    | 2 => first - 0xE0
    | _ => first - 0xF0
  rest.foldl (fun n b => n * 0x40 + (b.toNat - 0x80)) lead

def decodeFrom (position : Nat) (bytes : List UInt8) : Except DecodeFault (List Char) :=
  match bytes with
  | [] => .ok []
  | b :: rest =>
    match following? b.toNat with
    | none => .error ⟨.badStart, position, 1, b⟩
    | some n =>
      let tail := rest.take n
      let good := goodBytes b.toNat tail
      if good < n then
        .error ⟨if good = tail.length then .cutShort else .badContinuation, position, good + 1, b⟩
      else
        match decodeFrom (position + n + 1) (rest.drop n) with
        | .error e => .error e
        | .ok s => .ok (Char.ofNat (sequenceValue b.toNat tail) :: s)
termination_by bytes.length

def decode (bytes : List UInt8) : Except DecodeFault String :=
  (decodeFrom 0 bytes).map String.ofList

/-- Read bytes each of which is one character. -/
def decodeSingle (char? : Nat → Option Char) (reason : DecodeReason) (position : Nat) :
    List UInt8 → Except DecodeFault (List Char)
  | [] => .ok []
  | b :: rest =>
    match char? b.toNat with
    | none => .error ⟨reason, position, 1, b⟩
    | some c => (decodeSingle char? reason (position + 1) rest).map (c :: ·)

/-- The sets of characters in which a page can be sent. -/
inductive Charset where
  | utf8
  | latin1
  | windows
  | ascii
deriving DecidableEq, Repr

def Charset.decode (charset : Charset) (bytes : List UInt8) : Except DecodeFault String :=
  match charset with
  | utf8 => Text.decode bytes
  | latin1 => (decodeSingle (fun n => some (Char.ofNat n)) .undefined 0 bytes).map String.ofList
  | windows => (decodeSingle windowsChar? .undefined 0 bytes).map String.ofList
  | ascii =>
    (decodeSingle (fun n => if n < 0x80 then some (Char.ofNat n) else none) .notBasic 0 bytes).map
      String.ofList

end PageCheck.Text
