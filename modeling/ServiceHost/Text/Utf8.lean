/-! Reading bytes as UTF-8. A byte sequence that is no text is reported with the place where it stops
being one. -/

namespace ServiceHost.Text.Utf8

inductive Error where
  /-- The `length` bytes at `index` begin no character. -/
  | invalid (length index : Nat)
  /-- The bytes end inside the character at `index`. -/
  | incomplete (index : Nat)
deriving DecidableEq

def Error.message : Error → String
  | .invalid length index =>
      "invalid utf-8 sequence of " ++ toString length ++ " bytes from index " ++ toString index
  | .incomplete index => "incomplete utf-8 byte sequence from index " ++ toString index

def isContinuation (b : UInt8) : Bool := 0x80 ≤ b && b ≤ 0xBF

/-- Number of bytes in the character that `b` leads, zero when it leads none. -/
def width (b : UInt8) : Nat :=
  if b < 0x80 then 1
  else if b < 0xC2 then 0
  else if b < 0xE0 then 2
  else if b < 0xF0 then 3
  else if b < 0xF5 then 4
  else 0

/-- Which second bytes may follow the lead `b`: no overlong form, no surrogate, nothing past the
last code point. -/
def secondFits (b c : UInt8) : Bool :=
  if b == 0xE0 then 0xA0 ≤ c && c ≤ 0xBF
  else if b == 0xED then 0x80 ≤ c && c ≤ 0x9F
  else if b == 0xF0 then 0x90 ≤ c && c ≤ 0xBF
  else if b == 0xF4 then 0x80 ≤ c && c ≤ 0x8F
  else isContinuation c

def low6 (b : UInt8) : Nat := b.toNat % 64

def decodeFrom (index : Nat) (acc : List Char) : List UInt8 → Except Error (List Char)
  | [] => .ok acc.reverse
  | a :: r =>
    match width a with
    | 1 => decodeFrom (index + 1) (Char.ofNat a.toNat :: acc) r
    | 2 =>
      match r with
      | [] => .error (.incomplete index)
      | b :: r =>
        if isContinuation b then
          decodeFrom (index + 2) (Char.ofNat (a.toNat % 32 * 64 + low6 b) :: acc) r
        else .error (.invalid 1 index)
    | 3 =>
      match r with
      | [] => .error (.incomplete index)
      | b :: r =>
        if !secondFits a b then .error (.invalid 1 index) else
        match r with
        | [] => .error (.incomplete index)
        | c :: r =>
          if isContinuation c then
            decodeFrom (index + 3)
              (Char.ofNat ((a.toNat % 16 * 64 + low6 b) * 64 + low6 c) :: acc) r
          else .error (.invalid 2 index)
    | 4 =>
      match r with
      | [] => .error (.incomplete index)
      | b :: r =>
        if !secondFits a b then .error (.invalid 1 index) else
        match r with
        | [] => .error (.incomplete index)
        | c :: r =>
          if !isContinuation c then .error (.invalid 2 index) else
          match r with
          | [] => .error (.incomplete index)
          | d :: r =>
            if isContinuation d then
              decodeFrom (index + 4)
                (Char.ofNat (((a.toNat % 8 * 64 + low6 b) * 64 + low6 c) * 64 + low6 d) :: acc) r
            else .error (.invalid 3 index)
    | _ => .error (.invalid 1 index)

def decode (bytes : List UInt8) : Except Error String :=
  (decodeFrom 0 [] bytes).map String.ofList

def encode (s : String) : List UInt8 := s.toList.flatMap String.utf8EncodeChar

end ServiceHost.Text.Utf8
