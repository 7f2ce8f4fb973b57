namespace PgJson.Utf8

def encode (s : List Char) : List UInt8 := s.flatMap String.utf8EncodeChar

def size (s : List Char) : Nat := (encode s).length

def encodeString (s : String) : List UInt8 := encode s.toList

inductive Scan where
  | char (c : Char) (width : Nat)
  | invalid (length : Nat)
  | truncated
  deriving DecidableEq, Repr

def isContinuation (b : UInt8) : Bool := 0x80 ≤ b && b ≤ 0xbf

/-- The second bytes that may follow a lead byte of a long form: no overlong form, no surrogate,
nothing above U+10FFFF. -/
def isSecond (lead b : UInt8) : Bool :=
  if lead == 0xe0 then 0xa0 ≤ b && b ≤ 0xbf
  else if lead == 0xed then 0x80 ≤ b && b ≤ 0x9f
  else if lead == 0xf0 then 0x90 ≤ b && b ≤ 0xbf
  else if lead == 0xf4 then 0x80 ≤ b && b ≤ 0x8f
  else isContinuation b

def bits (b : UInt8) : Nat := b.toNat % 64

def scan2 (a : UInt8) : List UInt8 → Scan
  | [] => .truncated
  | b :: _ =>
    if isContinuation b then .char (.ofNat (a.toNat % 32 * 64 + bits b)) 2 else .invalid 1

def scan3 (a : UInt8) : List UInt8 → Scan
  | [] => .truncated
  | b :: rest =>
    if isSecond a b then
      match rest with
      | [] => .truncated
      | c :: _ =>
        if isContinuation c then
          .char (.ofNat ((a.toNat % 16 * 64 + bits b) * 64 + bits c)) 3
        else .invalid 2
    else .invalid 1

def scan4 (a : UInt8) : List UInt8 → Scan
  | [] => .truncated
  | b :: rest =>
    if isSecond a b then
      match rest with
      | [] => .truncated
      | c :: rest =>
        if isContinuation c then
          match rest with
          | [] => .truncated
          | d :: _ =>
            if isContinuation d then
              .char (.ofNat (((a.toNat % 8 * 64 + bits b) * 64 + bits c) * 64 + bits d)) 4
            else .invalid 3
        else .invalid 2
    else .invalid 1

/-- The character that starts with byte `a`, or the longest start of one without continuation. -/
def scan (a : UInt8) (rest : List UInt8) : Scan :=
  if a < 0x80 then .char (.ofNat a.toNat) 1
  else if a < 0xc2 then .invalid 1
  else if a < 0xe0 then scan2 a rest
  else if a < 0xf0 then scan3 a rest
  else if a < 0xf5 then scan4 a rest
  else .invalid 1

/-- Bytes that are no character: where they start and how many they are, or that the text ends
within one. -/
structure Fault where
  index : Nat
  length : Option Nat
  deriving DecidableEq, Repr

def Fault.message (f : Fault) : String :=
  match f.length with
  | some n => s!"invalid utf-8 sequence of {n} bytes from index {f.index}"
  | none => s!"incomplete utf-8 byte sequence from index {f.index}"

def decodeFrom : (index pending : Nat) → List UInt8 → Except Fault (List Char)
  | _, _, [] => .ok []
  | index, pending + 1, _ :: rest => decodeFrom (index + 1) pending rest
  | index, 0, a :: rest =>
    match scan a rest with
    | .char c width => (c :: ·) <$> decodeFrom (index + 1) (width - 1) rest
    | .invalid length => .error ⟨index, some length⟩
    | .truncated => .error ⟨index, none⟩

def decode (bytes : List UInt8) : Except Fault (List Char) := decodeFrom 0 0 bytes

def replacement : Char := '\ufffd'

def decodeLossyFrom : (pending : Nat) → List UInt8 → List Char
  | _, [] => []
  | pending + 1, _ :: rest => decodeLossyFrom pending rest
  | 0, a :: rest =>
    match scan a rest with
    | .char c width => c :: decodeLossyFrom (width - 1) rest
    | .invalid length => replacement :: decodeLossyFrom (length - 1) rest
    | .truncated => [replacement]

def decodeLossy (bytes : List UInt8) : List Char := decodeLossyFrom 0 bytes

end PgJson.Utf8
