import Mathlib.Data.List.Basic
import Mathlib.Algebra.Order.Ring.Nat
import Mathlib.Tactic.Common
import Mathlib.Tactic.Ring

/-!
# MessagePack lists of byte strings

The encoding of a list of byte strings: an array header, then each string with
a header of its own.  A header has room for lengths below `2 ^ 32`, so longer
strings and longer lists have no encoding.  Decoding undoes encoding.
-/

namespace Msgpack

abbrev Bytes := List UInt8

/-! ## Big-endian lengths -/

/-- The `width` bytes of a number, the most significant one first. -/
def bigEndian : Nat → Nat → Bytes
  | 0, _ => []
  | width + 1, number => UInt8.ofNat (number / 256 ^ width) :: bigEndian width number

/-- Read `width` bytes behind the number read so far. -/
def readBigEndian : Nat → Nat → Bytes → Option (Nat × Bytes)
  | 0, read, bytes => some (read, bytes)
  | _ + 1, _, [] => none
  | width + 1, read, byte :: bytes => readBigEndian width (read * 256 + byte.toNat) bytes

theorem readBigEndian_bigEndian (width read number : Nat) (rest : Bytes) :
    readBigEndian width read (bigEndian width number ++ rest) =
      some (read * 256 ^ width + number % 256 ^ width, rest) := by
  induction width generalizing read with
  | zero => simp [bigEndian, readBigEndian, Nat.mod_one]
  | succ width ih =>
      simp only [bigEndian, List.cons_append, readBigEndian, ih, Option.some.injEq,
        Prod.mk.injEq, and_true, UInt8.toNat_ofNat']
      have split : number % 256 ^ (width + 1) =
          256 ^ width * (number / 256 ^ width % 256) + number % 256 ^ width := by
        rw [Nat.pow_succ, Nat.mod_mul]
        omega
      rw [split, Nat.pow_succ]
      norm_num
      ring

/-- Numbers that fit are read back. -/
theorem readBigEndian_of_lt {width number : Nat} (fits : number < 256 ^ width)
    (rest : Bytes) :
    readBigEndian width 0 (bigEndian width number ++ rest) = some (number, rest) := by
  rw [readBigEndian_bigEndian, Nat.mod_eq_of_lt fits]
  simp

/-! ## Byte strings -/

/-- `bin 8`, `bin 16` or `bin 32`. -/
def encodeBin (bytes : Bytes) : Option Bytes :=
  if bytes.length < 256 ^ 1 then some (0xc4 :: (bigEndian 1 bytes.length ++ bytes))
  else if bytes.length < 256 ^ 2 then some (0xc5 :: (bigEndian 2 bytes.length ++ bytes))
  else if bytes.length < 256 ^ 4 then some (0xc6 :: (bigEndian 4 bytes.length ++ bytes))
  else none

/-- The next `length` bytes, if there are as many. -/
def takeBytes (length : Nat) (bytes : Bytes) : Option (Bytes × Bytes) :=
  if length ≤ bytes.length then some (bytes.take length, bytes.drop length) else none

def decodeBin : Bytes → Option (Bytes × Bytes)
  | [] => none
  | header :: bytes =>
      let width : Option Nat :=
        if header = 0xc4 then some 1
        else if header = 0xc5 then some 2
        else if header = 0xc6 then some 4
        else none
      width.bind fun width =>
        (readBigEndian width 0 bytes).bind fun read => takeBytes read.1 read.2

theorem takeBytes_append (bytes rest : Bytes) :
    takeBytes bytes.length (bytes ++ rest) = some (bytes, rest) := by
  simp [takeBytes]

theorem decodeBin_encodeBin {bytes encoded : Bytes} (encodes : encodeBin bytes = some encoded)
    (rest : Bytes) : decodeBin (encoded ++ rest) = some (bytes, rest) := by
  unfold encodeBin at encodes
  split_ifs at encodes with short medium long
  all_goals
    obtain rfl := Option.some.inj encodes
    simp only [List.cons_append, List.append_assoc, decodeBin]
  · simp [readBigEndian_of_lt short, takeBytes_append]
  · simp [readBigEndian_of_lt medium, takeBytes_append]
  · simp [readBigEndian_of_lt long, takeBytes_append]

theorem encodeBin_isSome {bytes : Bytes} (fits : bytes.length < 2 ^ 32) :
    (encodeBin bytes).isSome = true := by
  unfold encodeBin
  split_ifs with short medium long
  · rfl
  · rfl
  · rfl
  · norm_num at long fits
    omega

theorem encodeBin_eq_none {bytes : Bytes} (tooLong : 2 ^ 32 ≤ bytes.length) :
    encodeBin bytes = none := by
  unfold encodeBin
  rw [if_neg (by omega), if_neg (by omega), if_neg (by omega)]

/-! ## Lists -/

/-- `fixarray`, `array 16` or `array 32`. -/
def arrayHeader (length : Nat) : Option Bytes :=
  if length < 16 then some [UInt8.ofNat (0x90 + length)]
  else if length < 256 ^ 2 then some (0xdc :: bigEndian 2 length)
  else if length < 256 ^ 4 then some (0xdd :: bigEndian 4 length)
  else none

def readArrayHeader : Bytes → Option (Nat × Bytes)
  | [] => none
  | header :: bytes =>
      if 0x90 ≤ header.toNat ∧ header.toNat < 0xa0 then some (header.toNat - 0x90, bytes)
      else if header = 0xdc then readBigEndian 2 0 bytes
      else if header = 0xdd then readBigEndian 4 0 bytes
      else none

def encodeItems : List Bytes → Option Bytes
  | [] => some []
  | item :: items =>
      (encodeBin item).bind fun first => (encodeItems items).map fun rest => first ++ rest

def decodeItems : Nat → Bytes → Option (List Bytes × Bytes)
  | 0, bytes => some ([], bytes)
  | count + 1, bytes =>
      (decodeBin bytes).bind fun first =>
        (decodeItems count first.2).map fun rest => (first.1 :: rest.1, rest.2)

def encode (items : List Bytes) : Option Bytes :=
  (arrayHeader items.length).bind fun header =>
    (encodeItems items).map fun encoded => header ++ encoded

/-- Nothing may follow the list. -/
def decode (bytes : Bytes) : Option (List Bytes) :=
  (readArrayHeader bytes).bind fun header =>
    (decodeItems header.1 header.2).bind fun decoded =>
      if decoded.2.isEmpty then some decoded.1 else none

theorem readArrayHeader_arrayHeader {length : Nat} {header : Bytes}
    (encodes : arrayHeader length = some header) (rest : Bytes) :
    readArrayHeader (header ++ rest) = some (length, rest) := by
  unfold arrayHeader at encodes
  split_ifs at encodes with short medium long
  all_goals obtain rfl := Option.some.inj encodes
  · have value : (UInt8.ofNat (0x90 + length)).toNat = 0x90 + length := by
      rw [UInt8.toNat_ofNat']
      omega
    simp only [List.cons_append, List.nil_append, readArrayHeader, value]
    rw [if_pos (by omega)]
    simp
  · simp [readArrayHeader, readBigEndian_of_lt medium]
  · simp [readArrayHeader, readBigEndian_of_lt long]

theorem decodeItems_encodeItems {items : List Bytes} {encoded : Bytes}
    (encodes : encodeItems items = some encoded) (rest : Bytes) :
    decodeItems items.length (encoded ++ rest) = some (items, rest) := by
  induction items generalizing encoded with
  | nil =>
      obtain rfl := Option.some.inj encodes
      rfl
  | cons item items ih =>
      simp only [encodeItems, Option.bind_eq_some_iff, Option.map_eq_some_iff] at encodes
      obtain ⟨first, firstEncodes, others, othersEncode, rfl⟩ := encodes
      simp [decodeItems, decodeBin_encodeBin firstEncodes, ih othersEncode]

/-- Decoding undoes encoding. -/
theorem decode_encode {items : List Bytes} {encoded : Bytes}
    (encodes : encode items = some encoded) : decode encoded = some items := by
  simp only [encode, Option.bind_eq_some_iff, Option.map_eq_some_iff] at encodes
  obtain ⟨header, headerEncodes, body, bodyEncodes, rfl⟩ := encodes
  have items := decodeItems_encodeItems bodyEncodes []
  rw [List.append_nil] at items
  simp [decode, readArrayHeader_arrayHeader headerEncodes, items]

/-- The lists that have an encoding. -/
def Fits (items : List Bytes) : Prop :=
  items.length < 2 ^ 32 ∧ ∀ item ∈ items, item.length < 2 ^ 32

theorem encodeItems_isSome {items : List Bytes}
    (fits : ∀ item ∈ items, item.length < 2 ^ 32) : (encodeItems items).isSome = true := by
  induction items with
  | nil => rfl
  | cons item items ih =>
      obtain ⟨first, firstEncodes⟩ :=
        Option.isSome_iff_exists.mp (encodeBin_isSome (fits item List.mem_cons_self))
      obtain ⟨rest, restEncodes⟩ := Option.isSome_iff_exists.mp
        (ih fun other member => fits other (List.mem_cons_of_mem _ member))
      simp [encodeItems, firstEncodes, restEncodes]

theorem encode_isSome {items : List Bytes} (fits : Fits items) :
    ∃ encoded, encode items = some encoded := by
  obtain ⟨encoded, encodes⟩ := Option.isSome_iff_exists.mp (encodeItems_isSome fits.2)
  have short := fits.1
  unfold encode arrayHeader
  norm_num at short ⊢
  split_ifs <;> simp [encodes]

/-- A byte string that is too long spoils the list. -/
theorem encode_eq_none {items : List Bytes} {item : Bytes} (member : item ∈ items)
    (tooLong : 2 ^ 32 ≤ item.length) : encode items = none := by
  have spoiled : encodeItems items = none := by
    induction items with
    | nil => simp at member
    | cons first items ih =>
        rcases List.mem_cons.mp member with same | later
        · simp [encodeItems, ← same, encodeBin_eq_none tooLong]
        · simp [encodeItems, ih later]
  simp [encode, spoiled]

end Msgpack
