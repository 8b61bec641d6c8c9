import Rpi5Uefi.Lib.Bytes

/-!
# SHA-256 (`Sha256.c`)

The digest the signature files carry. `UINT32` arithmetic is that of `UInt32`; the message
schedule `W` and the round constants `mK` are lists read at their index.
-/

namespace Rpi5Uefi

open Bytes

/-- `mK`. -/
def mK : List UInt32 := [
  0x428a2f98, 0x71374491, 0xb5c0fbcf, 0xe9b5dba5,
  0x3956c25b, 0x59f111f1, 0x923f82a4, 0xab1c5ed5,
  0xd807aa98, 0x12835b01, 0x243185be, 0x550c7dc3,
  0x72be5d74, 0x80deb1fe, 0x9bdc06a7, 0xc19bf174,
  0xe49b69c1, 0xefbe4786, 0x0fc19dc6, 0x240ca1cc,
  0x2de92c6f, 0x4a7484aa, 0x5cb0a9dc, 0x76f988da,
  0x983e5152, 0xa831c66d, 0xb00327c8, 0xbf597fc7,
  0xc6e00bf3, 0xd5a79147, 0x06ca6351, 0x14292967,
  0x27b70a85, 0x2e1b2138, 0x4d2c6dfc, 0x53380d13,
  0x650a7354, 0x766a0abb, 0x81c2c92e, 0x92722c85,
  0xa2bfe8a1, 0xa81a664b, 0xc24b8b70, 0xc76c51a3,
  0xd192e819, 0xd6990624, 0xf40e3585, 0x106aa070,
  0x19a4c116, 0x1e376c08, 0x2748774c, 0x34b0bcb5,
  0x391c0cb3, 0x4ed8aa4a, 0x5b9cca4f, 0x682e6ff3,
  0x748f82ee, 0x78a5636f, 0x84c87814, 0x8cc70208,
  0x90befffa, 0xa4506ceb, 0xbef9a3f7, 0xc67178f2]

/-- `ROTR`. -/
def rotr (x n : UInt32) : UInt32 := (x >>> n) ||| (x <<< (32 - n))

/-- `State[8]`, and the working variables `A` to `H`. -/
structure Sha256State where
  a : UInt32
  b : UInt32
  c : UInt32
  d : UInt32
  e : UInt32
  f : UInt32
  g : UInt32
  h : UInt32
  deriving DecidableEq, Repr

/-- `W[i]` for `i < 16`. -/
def blockWord (block : List UInt8) (i : Nat) : UInt32 :=
  ((block.getD (i * 4) 0).toUInt32 <<< 24) ||| ((block.getD (i * 4 + 1) 0).toUInt32 <<< 16) |||
    ((block.getD (i * 4 + 2) 0).toUInt32 <<< 8) ||| (block.getD (i * 4 + 3) 0).toUInt32

/-- `W[i]` for `i ≥ 16`, from the words in front of it. -/
def scheduleWord (w : List UInt32) (i : Nat) : UInt32 :=
  let t1 := rotr (w.getD (i - 15) 0) 7 ^^^ rotr (w.getD (i - 15) 0) 18 ^^^
    (w.getD (i - 15) 0 >>> 3)
  let t2 := rotr (w.getD (i - 2) 0) 17 ^^^ rotr (w.getD (i - 2) 0) 19 ^^^
    (w.getD (i - 2) 0 >>> 10)
  w.getD (i - 16) 0 + t1 + w.getD (i - 7) 0 + t2

/-- `W`. -/
def schedule (block : List UInt8) : List UInt32 :=
  (List.range' 16 48).foldl (fun w i => w ++ [scheduleWord w i])
    ((List.range 16).map (blockWord block))

/-- One round of the compression loop. -/
def sha256Round (w : List UInt32) (s : Sha256State) (i : Nat) : Sha256State :=
  let t1 := s.h + (rotr s.e 6 ^^^ rotr s.e 11 ^^^ rotr s.e 25) +
    ((s.e &&& s.f) ^^^ ((~~~s.e) &&& s.g)) + mK.getD i 0 + w.getD i 0
  let t2 := (rotr s.a 2 ^^^ rotr s.a 13 ^^^ rotr s.a 22) +
    ((s.a &&& s.b) ^^^ (s.a &&& s.c) ^^^ (s.b &&& s.c))
  { a := t1 + t2, b := s.a, c := s.b, d := s.c, e := s.d + t1, f := s.e, g := s.f, h := s.g }

/-- `Sha256Block`. -/
def sha256Block (state : Sha256State) (block : List UInt8) : Sha256State :=
  let s := (List.range 64).foldl (sha256Round (schedule block)) state
  { a := state.a + s.a, b := state.b + s.b, c := state.c + s.c, d := state.d + s.d
    e := state.e + s.e, f := state.f + s.f, g := state.g + s.g, h := state.h + s.h }

def sha256Init : Sha256State where
  a := 0x6a09e667
  b := 0xbb67ae85
  c := 0x3c6ef372
  d := 0xa54ff53a
  e := 0x510e527f
  f := 0x9b05688c
  g := 0x1f83d9ab
  h := 0x5be0cd19

/-- The state after the blocks that are there whole. -/
def sha256Blocks (data : List UInt8) : Sha256State :=
  (List.range (data.length / 64)).foldl
    (fun state i => sha256Block state ((data.drop (64 * i)).take 64)) sha256Init

/-- `Tail`: the bytes left over, `0x80`, zeros and the bit count, in one block or two. -/
def sha256Tail (data : List UInt8) : List UInt8 :=
  let remain := data.length % 64
  let tailLen := if remain < 56 then 64 else 128
  let bitLen := data.length * 8 % 2 ^ 64
  data.drop (64 * (data.length / 64)) ++ [(0x80 : UInt8)] ++
    List.replicate (tailLen - 8 - (remain + 1)) (0 : UInt8) ++
    (List.range 8).map (fun i => UInt8.ofNat (bitLen >>> (8 * (7 - i))))

/-- The bytes of one state word, most significant first. -/
def stateBytes (x : UInt32) : List UInt8 :=
  [(x >>> 24).toUInt8, (x >>> 16).toUInt8, (x >>> 8).toUInt8, x.toUInt8]

/-- `BlSha256`. -/
def blSha256 (data : List UInt8) : List UInt8 :=
  let tail := sha256Tail data
  let state := sha256Block (sha256Blocks data) (tail.take 64)
  let state := if tail.length = 128 then sha256Block state (tail.drop 64) else state
  [state.a, state.b, state.c, state.d, state.e, state.f, state.g, state.h].flatMap stateBytes

theorem length_blSha256 (data : List UInt8) : (blSha256 data).length = 32 := rfl

example : (blSha256 (ascii "abc")).take 4 = [0xba, 0x78, 0x16, 0xbf] := by decide +kernel

end Rpi5Uefi
