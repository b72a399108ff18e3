import WebHarvest.Text.Utf8

/-! The encodings that regroup the bits of bytes into symbols of a fixed number of bits. A block
of bytes is one number, most significant byte first, and so is a block of symbols; the last block
is filled up with zero bits and then with padding signs. -/

namespace WebHarvest.Text.Radix

/-- The lowest `count` digits of a number in the given base, most significant first. -/
def digits (base : Nat) : Nat → Nat → List Nat
  | 0, _ => []
  | count + 1, n => digits base count (n / base) ++ [n % base]

/-- The number with the given digits, most significant first. -/
def number (base : Nat) (ds : List Nat) : Nat :=
  ds.foldl (fun n d => n * base + d) 0

/-- Cuts a list into pieces of `size + 1` elements; the last piece may be shorter. -/
def pieces {α : Type} (size : Nat) : List α → List (List α)
  | [] => []
  | x :: xs => (x :: xs.take size) :: pieces size (xs.drop size)
termination_by xs => xs.length
decreasing_by simp only [List.length_drop, List.length_cons]; omega

/-- How many bits a symbol carries, how many bytes and symbols make a block, and the symbols in
the order of their values. -/
structure Scheme where
  symbolBits : Nat
  blockBytes : Nat
  blockSymbols : Nat
  symbols : List Char

/-- The sign that fills up the last block. -/
def padding : Char := '='

namespace Scheme

variable (scheme : Scheme)

/-- The symbol of a value. -/
def symbol (value : Nat) : Char :=
  scheme.symbols.getD value padding

/-- The value of a symbol. -/
def value? (c : Char) : Option Nat :=
  scheme.symbols.idxOf? c

/-- Symbols that hold `count` bytes. -/
def symbolsFor (count : Nat) : Nat :=
  (8 * count + scheme.symbolBits - 1) / scheme.symbolBits

/-- Zero bits that follow `count` bytes within their symbols. -/
def spareBits (count : Nat) : Nat :=
  scheme.symbolBits * scheme.symbolsFor count - 8 * count

/-- The symbols of one block of at most `blockBytes` bytes, with padding. -/
def encodeBlock (bytes : Bytes) : List Char :=
  let filled := number 256 (bytes.map UInt8.toNat) * Nat.pow 2 (scheme.spareBits bytes.length)
  let data := digits (Nat.pow 2 scheme.symbolBits) (scheme.symbolsFor bytes.length) filled
  data.map scheme.symbol
    ++ List.replicate (scheme.blockSymbols - scheme.symbolsFor bytes.length) padding

/-- Each block of bytes in turn. -/
def encode (bytes : Bytes) : String :=
  String.ofList ((pieces (scheme.blockBytes - 1) bytes).flatMap scheme.encodeBlock)

/-- The bytes of one whole block: data symbols that hold a whole number of bytes and less than a
symbol's worth of spare bits, all of them zero, and nothing but padding behind them. -/
def decodeBlock? (block : List Char) : Option Bytes := do
  let data := block.takeWhile (· != padding)
  let fill := block.dropWhile (· != padding)
  let count := scheme.symbolBits * data.length / 8
  let spare := scheme.symbolBits * data.length % 8
  if block.length == scheme.blockSymbols && fill.all (· == padding) && !data.isEmpty
      && spare < scheme.symbolBits then
    let values ← data.mapM scheme.value?
    let n := number (Nat.pow 2 scheme.symbolBits) values
    if n % Nat.pow 2 spare == 0 then
      some ((digits 256 count (n / Nat.pow 2 spare)).map UInt8.ofNat)
    else none
  else none

/-- Reads whole blocks. Padding may end any block, so that encoded texts may be joined. -/
def decode? (text : List Char) : Option Bytes :=
  ((pieces (scheme.blockSymbols - 1) text).mapM scheme.decodeBlock?).map List.flatten

end Scheme

/-- Thirty-two symbols of five bits: upper-case letters, then the digits from two to seven. -/
def base32 : Scheme where
  symbolBits := 5
  blockBytes := 5
  blockSymbols := 8
  symbols := "ABCDEFGHIJKLMNOPQRSTUVWXYZ234567".toList

/-- Sixty-four symbols of six bits: letters of both cases, digits, plus and slash. -/
def base64 : Scheme where
  symbolBits := 6
  blockBytes := 3
  blockSymbols := 4
  symbols := "ABCDEFGHIJKLMNOPQRSTUVWXYZabcdefghijklmnopqrstuvwxyz0123456789+/".toList

end WebHarvest.Text.Radix
