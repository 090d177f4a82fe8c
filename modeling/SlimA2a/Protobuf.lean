import Mathlib.Tactic.Common
import Mathlib.Tactic.IntervalCases

/-! # The protobuf wire format

A message on the wire is a sequence of fields, each a key and a payload.  The key holds the field
number and the wire type; the payload is a base-128 varint (wire type 0) or a varint length followed
by that many bytes (wire type 2).  These two wire types carry integers, strings and embedded
messages.

`decode` reads a sequence of fields back, and `decode_encode` is the round trip on which every
message codec rests: decoding what was encoded gives the same fields in the same order. -/

namespace SlimA2a

/-- A byte string. -/
abbrev Bytes := List UInt8

namespace Protobuf

/-- The payload of a field. -/
inductive Value where
  | varint (n : ℕ)
  | len (bs : Bytes)
deriving DecidableEq

/-- A field number with its payload. -/
abbrev Field := ℕ × Value

/-- Base-128 varint, least significant group first; all bytes but the last have the high bit set. -/
def encodeVarint (n : ℕ) : Bytes :=
  if n < 128 then [UInt8.ofNat n] else UInt8.ofNat (n % 128 + 128) :: encodeVarint (n / 128)
decreasing_by omega

def decodeVarint : Bytes → Option (ℕ × Bytes)
  | [] => none
  | b :: bs =>
      if b.toNat < 128 then some (b.toNat, bs)
      else (decodeVarint bs).map fun p => (b.toNat - 128 + 128 * p.1, p.2)

def encodeField : Field → Bytes
  | (k, .varint n) => encodeVarint (8 * k) ++ encodeVarint n
  | (k, .len bs) => encodeVarint (8 * k + 2) ++ (encodeVarint bs.length ++ bs)

def decodeField (s : Bytes) : Option (Field × Bytes) := do
  let (key, s) ← decodeVarint s
  let (n, s) ← decodeVarint s
  if key % 8 = 0 then some ((key / 8, .varint n), s)
  else if key % 8 = 2 ∧ n ≤ s.length then some ((key / 8, .len (s.take n)), s.drop n)
  else none

def encode (fs : List Field) : Bytes := fs.flatMap encodeField

/-- Read fields until the end of the input; every field takes at least one byte of fuel. -/
def decodeFields : ℕ → Bytes → Option (List Field)
  | _, [] => some []
  | 0, _ :: _ => none
  | n + 1, b :: s => do
      let (f, s) ← decodeField (b :: s)
      let fs ← decodeFields n s
      some (f :: fs)

def decode (s : Bytes) : Option (List Field) := decodeFields s.length s

/-- The payload bytes of every length-delimited field numbered `k`, in order. -/
def lenFields (k : ℕ) (fs : List Field) : List Bytes :=
  fs.filterMap fun f => match f with
    | (j, .len bs) => if j = k then some bs else none
    | _ => none

/-- The value of every varint field numbered `k`, in order. -/
def varintFields (k : ℕ) (fs : List Field) : List ℕ :=
  fs.filterMap fun f => match f with
    | (j, .varint n) => if j = k then some n else none
    | _ => none

/-- The last varint field numbered `k`; an absent field reads as `0`. -/
def varintField (k : ℕ) (fs : List Field) : ℕ := (varintFields k fs).getLastD 0

/-- The UTF-8 bytes of a string. -/
def utf8 (s : String) : Bytes := s.toUTF8.data.toList

def ofUtf8 (bs : Bytes) : Option String := String.fromUTF8? ⟨bs.toArray⟩

/-- The last string field numbered `k`; an absent field reads as `""`. -/
def stringField (k : ℕ) (fs : List Field) : Option String :=
  match (lenFields k fs).getLast? with
  | none => some ""
  | some bs => ofUtf8 bs

/-- An integer field; the default value is not written. -/
def writeVarint (k n : ℕ) : List Field := if n = 0 then [] else [(k, .varint n)]

/-- The varint of an `int32`: its bits, sign-extended to 64 of them. -/
def ofInt32 (n : Int32) : ℕ := (n.toBitVec.signExtend 64).toNat

/-- The low 32 bits of a varint. -/
def toInt32 (n : ℕ) : Int32 := Int32.ofBitVec (BitVec.ofNat 32 n)

/-- A string field; the default value is not written. -/
def writeString (k : ℕ) (s : String) : List Field := if s = "" then [] else [(k, .len (utf8 s))]

/-- Length-delimited fields, numbered from `k` on. -/
def numbered (k : ℕ) : List Bytes → List Field
  | [] => []
  | part :: parts => (k, .len part) :: numbered (k + 1) parts

/-- The payload bytes of all length-delimited fields, in order. -/
def payloads (fs : List Field) : List Bytes :=
  fs.filterMap fun f => match f.2 with
    | .len bs => some bs
    | .varint _ => none

/-! ### Round trips -/

theorem encodeVarint_ne_nil (n : ℕ) : encodeVarint n ≠ [] := by
  rw [encodeVarint]
  split <;> simp

theorem decodeVarint_encodeVarint (n : ℕ) (rest : Bytes) :
    decodeVarint (encodeVarint n ++ rest) = some (n, rest) := by
  induction n using Nat.strong_induction_on with
  | _ n ih =>
      rw [encodeVarint]
      split
      · rename_i h
        have hb : (UInt8.ofNat n).toNat = n := by
          rw [UInt8.toNat_ofNat']
          omega
        simp [decodeVarint, hb, h]
      · rename_i h
        have hb : (UInt8.ofNat (n % 128 + 128)).toNat = n % 128 + 128 := by
          rw [UInt8.toNat_ofNat']
          omega
        rw [List.cons_append, decodeVarint, hb, if_neg (by omega), ih (n / 128) (by omega)]
        simp only [Option.map_some, Option.some.injEq, Prod.mk.injEq, and_true]
        omega

theorem decodeField_encodeField (f : Field) (rest : Bytes) :
    decodeField (encodeField f ++ rest) = some (f, rest) := by
  obtain ⟨k, v⟩ := f
  cases v with
  | varint n =>
      have hk : 8 * k % 8 = 0 := by omega
      have hd : 8 * k / 8 = k := by omega
      simp [encodeField, decodeField, decodeVarint_encodeVarint, hk, hd]
  | len bs =>
      have hk : (8 * k + 2) % 8 = 2 := by omega
      have hd : (8 * k + 2) / 8 = k := by omega
      simp [encodeField, decodeField, decodeVarint_encodeVarint, hk, hd]

theorem encodeField_ne_nil (f : Field) : encodeField f ≠ [] := by
  obtain ⟨k, v⟩ := f
  cases v <;> simp [encodeField, encodeVarint_ne_nil]

theorem decodeFields_encode : ∀ (fs : List Field) (n : ℕ), fs.length ≤ n →
    decodeFields n (encode fs) = some fs
  | [], n, _ => by cases n <;> rfl
  | f :: fs, 0, h => by simp at h
  | f :: fs, n + 1, h => by
      obtain ⟨b, s, hs⟩ := List.exists_cons_of_ne_nil (encodeField_ne_nil f)
      have hf := decodeField_encodeField f (encode fs)
      have hfs := decodeFields_encode fs n (by simpa using h)
      rw [hs, List.cons_append] at hf
      rw [encode, List.flatMap_cons, ← encode, hs, List.cons_append, decodeFields, hf]
      simp [hfs]

theorem length_le_encode : ∀ fs : List Field, fs.length ≤ (encode fs).length
  | [] => by simp
  | f :: fs => by
      have hf := List.length_pos_iff.mpr (encodeField_ne_nil f)
      have hfs := length_le_encode fs
      simp only [encode, List.flatMap_cons, List.length_cons, List.length_append] at hfs ⊢
      omega

/-- **Round trip.** -/
theorem decode_encode (fs : List Field) : decode (encode fs) = some fs :=
  decodeFields_encode fs _ (length_le_encode fs)

/-! ### Reading fields back -/

theorem toInt32_ofInt32 (n : Int32) : toInt32 (ofInt32 n) = n := by
  have hn : (n.toBitVec.signExtend 64).setWidth 32 = n.toBitVec := by
    ext i hi
    rw [BitVec.getElem_setWidth, BitVec.getLsbD_signExtend]
    simp [hi, show i < 64 by omega]
  rw [toInt32, ofInt32, BitVec.ofNat_toNat, hn]
  rfl

example : ofInt32 (-1) = 2 ^ 64 - 1 := by decide

theorem ofUtf8_utf8 (s : String) : ofUtf8 (utf8 s) = some s := by
  have h : (⟨(utf8 s).toArray⟩ : ByteArray) = s.toByteArray := by
    simp [utf8]
  unfold ofUtf8
  rw [h, String.fromUTF8?, dif_pos s.isValidUTF8]
  rfl

theorem lenFields_append (k : ℕ) (fs gs : List Field) :
    lenFields k (fs ++ gs) = lenFields k fs ++ lenFields k gs :=
  List.filterMap_append

theorem lenFields_writeVarint (j k n : ℕ) : lenFields j (writeVarint k n) = [] := by
  unfold writeVarint
  split <;> rfl

theorem lenFields_writeString_ne {j k : ℕ} (h : k ≠ j) (s : String) :
    lenFields j (writeString k s) = [] := by
  unfold writeString
  split
  · rfl
  · simp [lenFields, h]

theorem lenFields_map_len (k : ℕ) (bss : List Bytes) :
    lenFields k (bss.map fun bs => (k, .len bs)) = bss := by
  induction bss with
  | nil => rfl
  | cons bs bss ih =>
      rw [List.map_cons, ← List.singleton_append, lenFields_append, ih]
      simp [lenFields]

theorem lenFields_map_len_ne {j k : ℕ} (h : k ≠ j) (bss : List Bytes) :
    lenFields j (bss.map fun bs => (k, .len bs)) = [] := by
  induction bss with
  | nil => rfl
  | cons bs bss ih => simp [lenFields, h]

theorem stringField_writeString (k : ℕ) (s : String) (fs gs : List Field)
    (hf : lenFields k fs = []) (hg : lenFields k gs = []) :
    stringField k (fs ++ writeString k s ++ gs) = some s := by
  unfold stringField
  rw [lenFields_append, lenFields_append, hf, hg]
  by_cases hs : s = ""
  · simp [writeString, lenFields, hs]
  · simp [writeString, lenFields, hs, ofUtf8_utf8]

theorem payloads_numbered : ∀ (k : ℕ) (parts : List Bytes), payloads (numbered k parts) = parts
  | _, [] => rfl
  | k, part :: parts => by
      rw [numbered, payloads, List.filterMap_cons, ← payloads, payloads_numbered (k + 1) parts]

theorem varintFields_writeString (j k : ℕ) (s : String) :
    varintFields j (writeString k s) = [] := by
  unfold writeString
  split <;> rfl

theorem varintFields_map_len (j k : ℕ) (bss : List Bytes) :
    varintFields j (bss.map fun bs => (k, .len bs)) = [] := by
  induction bss with
  | nil => rfl
  | cons bs bss ih => simp [varintFields]

theorem varintField_writeVarint (k n : ℕ) (fs : List Field) (h : varintFields k fs = []) :
    varintField k (writeVarint k n ++ fs) = n := by
  have hfs : varintFields k (writeVarint k n ++ fs) = varintFields k (writeVarint k n) := by
    rw [varintFields, List.filterMap_append, ← varintFields, ← varintFields, h, List.append_nil]
  rw [varintField, hfs]
  by_cases hn : n = 0 <;> simp [writeVarint, varintFields, hn]

end Protobuf
end SlimA2a
