/-!
# Whole numbers of varying length

A number is written in groups of seven bits, the lowest group first, and each byte but the last
has its highest bit set. A reader takes at most ten bytes and no value beyond 64 bits; it does
not insist on the shortest form.
-/

namespace PluginSchema.Protobuf

/-- A sequence of bytes. -/
abbrev Bytes := List UInt8

/-- Write a number. -/
def varint (n : Nat) : Bytes :=
  if n < 128 then [UInt8.ofNat n] else UInt8.ofNat (n % 128 + 128) :: varint (n / 128)

/-- Read a number of at most so many bytes, where the last of ten may only be one. -/
def readVarintWithin : Nat → Bytes → Option (Nat × Bytes)
  | 0, _ => none
  | _ + 1, [] => none
  | budget + 1, byte :: rest =>
    if byte < 128 then
      if budget = 0 ∧ 1 < byte then none else some (byte.toNat, rest)
    else do
      let (high, rest) ← readVarintWithin budget rest
      return (byte.toNat - 128 + 128 * high, rest)

/-- Read a number. -/
def readVarint (bytes : Bytes) : Option (Nat × Bytes) := readVarintWithin 10 bytes

/-- Split off so many bytes, if there are as many. -/
def splitExactly : Nat → Bytes → Option (Bytes × Bytes)
  | 0, bytes => some ([], bytes)
  | _ + 1, [] => none
  | n + 1, byte :: rest => do
    let (first, rest) ← splitExactly n rest
    return (byte :: first, rest)

/-- Read bytes behind their number. -/
def readDelimited (bytes : Bytes) : Option (Bytes × Bytes) := do
  let (length, rest) ← readVarint bytes
  splitExactly length rest

end PluginSchema.Protobuf
