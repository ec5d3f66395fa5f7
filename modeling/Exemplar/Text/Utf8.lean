import Exemplar.Text.Basic

/-!
# Bytes and texts

A byte sequence is read one character at a time. Bytes that are no character are cut
into maximal pieces that could have begun one; a tolerant reading shows each such
piece as U+FFFD, a strict reading refuses the whole sequence.
-/
namespace Exemplar.Text

/-- One step of reading: a character, or `none` for a malformed piece, and the rest. -/
structure Decoded where
  char? : Option Char
  rest : List UInt8

def isContinuation (b : UInt8) : Bool := 0x80 ≤ b && b ≤ 0xBF

/-- Second bytes that may follow `lead` in a character of three or four bytes. -/
def isSecond (lead b : UInt8) : Bool :=
  if lead == 0xE0 then 0xA0 ≤ b && b ≤ 0xBF
  else if lead == 0xED then 0x80 ≤ b && b ≤ 0x9F
  else if lead == 0xF0 then 0x90 ≤ b && b ≤ 0xBF
  else if lead == 0xF4 then 0x80 ≤ b && b ≤ 0x8F
  else isContinuation b

/-- Low six bits of a continuation byte. -/
def payload (b : UInt8) : Nat := b.toNat % 64

def decodeTwo (lead : UInt8) : List UInt8 → Decoded
  | b :: r =>
    if isContinuation b then ⟨some (Char.ofNat ((lead.toNat % 32) * 64 + payload b)), r⟩
    else ⟨none, b :: r⟩
  | [] => ⟨none, []⟩

def decodeThree (lead : UInt8) : List UInt8 → Decoded
  | b :: c :: r =>
    if !isSecond lead b then ⟨none, b :: c :: r⟩
    else if !isContinuation c then ⟨none, c :: r⟩
    else ⟨some (Char.ofNat (((lead.toNat % 16) * 64 + payload b) * 64 + payload c)), r⟩
  | [b] => if isSecond lead b then ⟨none, []⟩ else ⟨none, [b]⟩
  | [] => ⟨none, []⟩

def decodeFour (lead : UInt8) : List UInt8 → Decoded
  | b :: c :: d :: r =>
    if !isSecond lead b then ⟨none, b :: c :: d :: r⟩
    else if !isContinuation c then ⟨none, c :: d :: r⟩
    else if !isContinuation d then ⟨none, d :: r⟩
    else
      let n := (((lead.toNat % 8) * 64 + payload b) * 64 + payload c) * 64 + payload d
      ⟨some (Char.ofNat n), r⟩
  | [b, c] =>
    if !isSecond lead b then ⟨none, [b, c]⟩
    else if !isContinuation c then ⟨none, [c]⟩
    else ⟨none, []⟩
  | [b] => if isSecond lead b then ⟨none, []⟩ else ⟨none, [b]⟩
  | [] => ⟨none, []⟩

/-- Reads the character that `lead` begins. A malformed piece ends before the first
byte that cannot continue it. -/
def decodeFrom (lead : UInt8) (r : List UInt8) : Decoded :=
  if lead < 0x80 then ⟨some (Char.ofNat lead.toNat), r⟩
  else if 0xC2 ≤ lead && lead ≤ 0xDF then decodeTwo lead r
  else if 0xE0 ≤ lead && lead ≤ 0xEF then decodeThree lead r
  else if 0xF0 ≤ lead && lead ≤ 0xF4 then decodeFour lead r
  else ⟨none, r⟩

theorem decodeTwo_rest (lead : UInt8) (r : List UInt8) :
    (decodeTwo lead r).rest.length ≤ r.length := by
  fun_cases decodeTwo lead r <;> simp

theorem decodeThree_rest (lead : UInt8) (r : List UInt8) :
    (decodeThree lead r).rest.length ≤ r.length := by
  fun_cases decodeThree lead r <;> simp
  omega

theorem decodeFour_rest (lead : UInt8) (r : List UInt8) :
    (decodeFour lead r).rest.length ≤ r.length := by
  fun_cases decodeFour lead r <;> simp
  omega

theorem decodeFrom_rest (lead : UInt8) (r : List UInt8) :
    (decodeFrom lead r).rest.length ≤ r.length := by
  unfold decodeFrom
  split
  · exact Nat.le_refl _
  · split
    · exact decodeTwo_rest lead r
    · split
      · exact decodeThree_rest lead r
      · split
        · exact decodeFour_rest lead r
        · exact Nat.le_refl _

/-- The characters of a byte sequence, with `none` for each malformed piece. -/
def decode : List UInt8 → List (Option Char)
  | [] => []
  | lead :: r => (decodeFrom lead r).char? :: decode (decodeFrom lead r).rest
termination_by bytes => bytes.length
decreasing_by
  have := decodeFrom_rest lead r
  simp only [List.length_cons]
  omega

/-- The tolerant reading. -/
def ofBytes (bytes : List UInt8) : Text := (decode bytes).map (·.getD '\uFFFD')

/-- The strict reading. -/
def ofBytes? (bytes : List UInt8) : Option Text := (decode bytes).mapM id

/-- The UTF-8 form of a text. -/
def toBytes (t : Text) : List UInt8 := t.flatMap String.utf8EncodeChar

end Exemplar.Text
