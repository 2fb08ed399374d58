import SlotSql.Text.Utf8
/-!
# Hash slots

The keys of a cluster are spread over 16384 slots by a 16-bit cyclic redundancy check with
polynomial x^16 + x^12 + x^5 + 1, of the whole key or of the part between its first opening brace
and the next closing one.

Results:
* `keySlot_lt`: a slot is below 16384.
-/
namespace SlotSql.Cluster

/-- The number of slots. -/
def slotCount : Nat := 16384

/-- Shifts one bit out of the check value. -/
def crcBit (crc : UInt16) : UInt16 :=
  if crc &&& 0x8000 != 0 then (crc <<< 1) ^^^ 0x1021 else crc <<< 1

/-- Takes one octet into the check value. -/
def crcByte (crc : UInt16) (b : UInt8) : UInt16 :=
  let c := crc ^^^ (b.toUInt16 <<< 8)
  crcBit (crcBit (crcBit (crcBit (crcBit (crcBit (crcBit (crcBit c)))))))

/-- The check value of a string of octets. -/
def crc16 (bs : Bytes) : UInt16 := bs.foldl crcByte 0

/-- The octet of an opening brace. -/
def openBrace : UInt8 := 0x7B
/-- The octet of a closing brace. -/
def closeBrace : UInt8 := 0x7D

/-- The part of a key that decides its slot: what stands between its first opening brace and the
next closing one, if that is not empty, else the whole key. -/
def hashTag (key : Bytes) : Bytes :=
  match key.dropWhile (· != openBrace) with
  | [] => key
  | _ :: r =>
    let tag := r.takeWhile (· != closeBrace)
    if tag.length < r.length ∧ tag ≠ [] then tag else key

/-- The slot of a key. -/
def keySlot (key : Bytes) : Nat := (crc16 (hashTag key)).toNat % slotCount

/-- The slot of a key that is a text. -/
def slotOf (key : String) : Nat := keySlot (Utf8.bytes key)

theorem keySlot_lt (key : Bytes) : keySlot key < slotCount := Nat.mod_lt _ (by decide)

end SlotSql.Cluster
