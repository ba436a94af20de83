import Mathlib.Data.UInt

/-!
# Base64 with the URL-safe alphabet

`encode` writes three bytes as four digits and fills the last group up with `=`. `decode` reads
leniently: it passes over characters that are no digits, takes the two digits of the standard
alphabet as well, and stops at the padding of a started group. It reads back what `encode` writes.
-/
namespace Base64

/-- The digits in order. -/
def alphabet : List Char :=
  "ABCDEFGHIJKLMNOPQRSTUVWXYZabcdefghijklmnopqrstuvwxyz0123456789-_".toList

/-- The character of a digit. -/
def digit (value : Nat) : Char := alphabet.getD value 'A'

/-- The digit of a character, also of the two digits of the standard alphabet. -/
def value? (char : Char) : Option Nat :=
  if char = '+' then some 62
  else if char = '/' then some 63
  else alphabet.findIdx? (· = char)

/-- Bytes as digits. -/
def encode : List UInt8 → List Char
  | [] => []
  | [first] => [digit (first.toNat / 4), digit (first.toNat % 4 * 16), '=', '=']
  | [first, second] =>
    [digit (first.toNat / 4), digit (first.toNat % 4 * 16 + second.toNat / 16),
      digit (second.toNat % 16 * 4), '=']
  | first :: second :: third :: rest =>
    digit (first.toNat / 4) :: digit (first.toNat % 4 * 16 + second.toNat / 16) ::
      digit (second.toNat % 16 * 4 + third.toNat / 64) :: digit (third.toNat % 64) :: encode rest

/-- Why a text is refused. -/
inductive DecodeError
  /-- A character is not ASCII. -/
  | nonAscii
  /-- One digit is left over. -/
  | leftOver
  /-- A started group is not filled up. -/
  | padding
  deriving DecidableEq

/-- What was read of a group: the digits read, the bits of them that are still to be written, and
the padding seen. -/
structure Group where
  /-- Digits read, below 4. -/
  digits : Nat := 0
  /-- Bits to be written. -/
  bits : Nat := 0
  /-- Padding seen since the last digit. -/
  pads : Nat := 0

/-- Read the rest of a text. -/
def decodeFrom (group : Group) : List Char → Except DecodeError (List UInt8)
  | [] =>
    if group.digits = 0 then .ok []
    else if group.digits = 1 then .error .leftOver
    else .error .padding
  | char :: rest =>
    if char = '=' then
      if 2 ≤ group.digits then
        if 4 ≤ group.digits + (group.pads + 1) then .ok []
        else decodeFrom { group with pads := group.pads + 1 } rest
      else decodeFrom group rest
    else
      match value? char with
      | none => decodeFrom group rest
      | some value =>
        match group.digits with
        | 0 => decodeFrom ⟨1, value, 0⟩ rest
        | 1 => (decodeFrom ⟨2, value % 16, 0⟩ rest).map
            (UInt8.ofNat (group.bits * 4 + value / 16) :: ·)
        | 2 => (decodeFrom ⟨3, value % 4, 0⟩ rest).map
            (UInt8.ofNat (group.bits * 16 + value / 4) :: ·)
        | _ => (decodeFrom {} rest).map (UInt8.ofNat (group.bits * 64 + value) :: ·)

/-- Read a text. -/
def decode (text : List Char) : Except DecodeError (List UInt8) :=
  if text.all fun char => char.toNat < 128 then decodeFrom {} text else .error .nonAscii

/-- What the character of a digit is. -/
theorem digit_facts : ∀ value : Fin 64, value? (digit value) = some value.val ∧
    digit value ≠ '=' ∧ (digit value).toNat < 128 := by
  decide +kernel

variable {value : Nat}

/-- A digit is read back. -/
theorem value?_digit (below : value < 64) : value? (digit value) = some value :=
  (digit_facts ⟨value, below⟩).1

/-- A digit is no padding. -/
theorem digit_ne_pad (below : value < 64) : digit value ≠ '=' :=
  (digit_facts ⟨value, below⟩).2.1

/-- A digit is read into an empty group. -/
theorem decodeFrom_first (below : value < 64) (rest : List Char) :
    decodeFrom {} (digit value :: rest) = decodeFrom ⟨1, value, 0⟩ rest := by
  rw [decodeFrom, if_neg (digit_ne_pad below), value?_digit below]
  rfl

/-- The second digit completes a byte. -/
theorem decodeFrom_second (below : value < 64) (bits : Nat) (rest : List Char) :
    decodeFrom ⟨1, bits, 0⟩ (digit value :: rest) =
      (decodeFrom ⟨2, value % 16, 0⟩ rest).map (UInt8.ofNat (bits * 4 + value / 16) :: ·) := by
  rw [decodeFrom, if_neg (digit_ne_pad below), value?_digit below]
  rfl

/-- So does the third. -/
theorem decodeFrom_third (below : value < 64) (bits : Nat) (rest : List Char) :
    decodeFrom ⟨2, bits, 0⟩ (digit value :: rest) =
      (decodeFrom ⟨3, value % 4, 0⟩ rest).map (UInt8.ofNat (bits * 16 + value / 4) :: ·) := by
  rw [decodeFrom, if_neg (digit_ne_pad below), value?_digit below]
  rfl

/-- The fourth ends the group. -/
theorem decodeFrom_fourth (below : value < 64) (bits : Nat) (rest : List Char) :
    decodeFrom ⟨3, bits, 0⟩ (digit value :: rest) =
      (decodeFrom {} rest).map (UInt8.ofNat (bits * 64 + value) :: ·) := by
  rw [decodeFrom, if_neg (digit_ne_pad below), value?_digit below]
  rfl

/-- A byte put together from the number it is. -/
theorem ofNat_eq (byte : UInt8) {number : Nat} (same : number = byte.toNat) :
    UInt8.ofNat number = byte := by
  rw [same, UInt8.ofNat_toNat]

/-- Reading back what was written, group by group. -/
theorem decodeFrom_encode (bytes : List UInt8) : decodeFrom {} (encode bytes) = .ok bytes := by
  induction bytes using encode.induct with
  | case1 => rfl
  | case2 first =>
    have bound := first.toNat_lt
    rw [encode, decodeFrom_first (by omega), decodeFrom_second (by omega),
      ofNat_eq first (by omega)]
    rfl
  | case3 first second =>
    have bound := first.toNat_lt
    have bound' := second.toNat_lt
    rw [encode, decodeFrom_first (by omega), decodeFrom_second (by omega),
      decodeFrom_third (by omega), ofNat_eq first (by omega),
      ofNat_eq second (by omega)]
    rfl
  | case4 first second third rest ih =>
    have bound := first.toNat_lt
    have bound' := second.toNat_lt
    have bound'' := third.toNat_lt
    rw [encode, decodeFrom_first (by omega), decodeFrom_second (by omega),
      decodeFrom_third (by omega), decodeFrom_fourth (by omega), ih,
      ofNat_eq first (by omega), ofNat_eq second (by omega),
      ofNat_eq third (by omega)]
    rfl

/-- Every character that is written is a digit or padding. -/
theorem mem_encode (bytes : List UInt8) : ∀ char ∈ encode bytes,
    char = '=' ∨ ∃ value < 64, char = digit value := by
  induction bytes using encode.induct with
  | case1 => exact nofun
  | case2 first =>
    have bound := first.toNat_lt
    intro char member
    simp only [encode, List.mem_cons, List.not_mem_nil, or_false] at member
    rcases member with rfl | rfl | rfl | rfl
    · exact .inr ⟨_, by omega, rfl⟩
    · exact .inr ⟨_, by omega, rfl⟩
    · exact .inl rfl
    · exact .inl rfl
  | case3 first second =>
    have bound := first.toNat_lt
    have bound' := second.toNat_lt
    intro char member
    simp only [encode, List.mem_cons, List.not_mem_nil, or_false] at member
    rcases member with rfl | rfl | rfl | rfl
    · exact .inr ⟨_, by omega, rfl⟩
    · exact .inr ⟨_, by omega, rfl⟩
    · exact .inr ⟨_, by omega, rfl⟩
    · exact .inl rfl
  | case4 first second third rest ih =>
    have bound := first.toNat_lt
    have bound' := second.toNat_lt
    have bound'' := third.toNat_lt
    intro char member
    simp only [encode, List.mem_cons] at member
    rcases member with rfl | rfl | rfl | rfl | later
    · exact .inr ⟨_, by omega, rfl⟩
    · exact .inr ⟨_, by omega, rfl⟩
    · exact .inr ⟨_, by omega, rfl⟩
    · exact .inr ⟨_, by omega, rfl⟩
    · exact ih char later

/-- **What is written is read back.** -/
theorem decode_encode (bytes : List UInt8) : decode (encode bytes) = .ok bytes := by
  have ascii : (encode bytes).all (fun char => char.toNat < 128) = true := by
    refine List.all_eq_true.mpr fun char member => ?_
    rcases mem_encode bytes char member with rfl | ⟨value, below, rfl⟩
    · rfl
    · exact decide_eq_true (digit_facts ⟨value, below⟩).2.2
  rw [decode, if_pos ascii, decodeFrom_encode]

/-- What is no digit and no padding is not written. -/
theorem not_mem_encode {char : Char} (foreign : value? char = none) (unpadded : char ≠ '=')
    (bytes : List UInt8) : char ∉ encode bytes := by
  intro member
  rcases mem_encode bytes char member with pad | ⟨value, below, rfl⟩
  · exact unpadded pad
  · rw [value?_digit below] at foreign
    cases foreign

end Base64
