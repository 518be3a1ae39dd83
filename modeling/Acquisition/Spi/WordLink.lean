/-
# Acquisition.Spi.WordLink — a word-wide view of a byte-wide device

A `WordLink` sends each 16 bit word as two bytes, most significant first, and
puts received bytes together the same way. One transaction of words is one
transaction of bytes, operation by operation (`Operation.bytes`): a transfer of
unequal lengths is made even by sending zero bytes, and words read in place of
others go over the wire as a transfer of their bytes.
-/

import Acquisition.Spi.Device

namespace Acquisition.Spi

set_option autoImplicit false

/-- The most significant byte of a word, then the least significant. -/
def bytesOfWord (word : UInt16) : List UInt8 :=
  [UInt8.ofNat (word.toNat / 256), word.toUInt8]

/-- The bytes of words, in order. -/
def bytesOfWords (words : List UInt16) : List UInt8 :=
  words.flatMap bytesOfWord

/-- Puts a word together from its bytes, most significant first. -/
def wordOfBytes (high low : UInt8) : UInt16 :=
  UInt16.ofNat (high.toNat * 256 + low.toNat)

/-- Puts words together from pairs of bytes; a byte left over is dropped. -/
def wordsOfBytes : List UInt8 → List UInt16
  | high :: low :: rest => wordOfBytes high low :: wordsOfBytes rest
  | _ => []

/-- The same operation on bytes. -/
def Operation.bytes : Operation UInt16 → Operation UInt8
  | .write words => .write (bytesOfWords words)
  | .read count => .read (count * 2)
  | .transfer count words =>
      let length := max count words.length
      .transfer (length * 2)
        (bytesOfWords words ++ List.replicate ((length - words.length) * 2) 0)
  | .inPlace words => .transfer (words.length * 2) (bytesOfWords words)
  | .delay nanoseconds => .delay nanoseconds

/-- The words an operation reads, out of the bytes received for it: bytes that did
not come are zero. -/
def Operation.wordsReceived (operation : Operation UInt16) (received : List UInt8) :
    List UInt16 :=
  (wordsOfBytes (overlay (operation.bytes.buffer 0) received)).take
    (operation.buffer 0).length

/-- The words read by each operation, out of the bytes received for each. -/
def wordsReceived : List (Operation UInt16) → List (List UInt8) → List (List UInt16)
  | [], _ => []
  | operation :: rest, received =>
      operation.wordsReceived (received.headD []) :: wordsReceived rest received.tail

/-- A byte-wide device seen as a word-wide one. -/
structure WordLink (δ : Type) where
  inner : δ

namespace WordLink

variable {δ : Type}

/-- Carries out a transaction of words on the byte-wide device. When it fails, no
word is received. -/
def transact [Device δ UInt8] (link : WordLink δ) (operations : List (Operation UInt16)) :
    Option (Reply UInt16 (WordLink δ)) :=
  (Device.transact link.inner (operations.map Operation.bytes)).map fun reply =>
    match reply.fault with
    | some fault => ⟨some fault, [], ⟨reply.device⟩⟩
    | none => ⟨none, wordsReceived operations reply.received, ⟨reply.device⟩⟩

instance [Device δ UInt8] : Device (WordLink δ) UInt16 where
  transact := transact

/-- A link carries words of 16 bits and no others. -/
instance : WordSize (WordLink δ) where
  setWordSize link bits := (if bits = 16 then none else some .other, link)

end WordLink

end Acquisition.Spi
