/-!
# Packed texts

The rule texts of the languages are long and repeat themselves a great deal: the same
patterns, keyword lists and state shapes come back from language to language. They are kept
packed by context mixing, the way the PAQ family of packers works, in a small form.

The bytes of the text are read one bit at a time, from the highest. Before each bit, several
models each give the probability that it is a one, from what they have seen in the same context:
the bytes before it (the last 1, 2, 3, 4 and 6 bytes, the two before the last one, and the word
it is in), the byte above it in the line before (or, in a list of words, the byte of the word
before at the same place), each hashed into one table of counters, the bits of the same byte read so far, and the byte that
followed the last time the five bytes before it were seen (a match). A line of a list of words
starts with how many bytes its word shares with the word before, so there the bytes before are
those of the whole word. Three mixers add the models' logits with weights they learn as they go,
and a final table refines the mixed probability by the byte before and the bits read so far. The
bits are then one number in base `base`, read by a range decoder: each bit narrows an interval
in proportion to the probability of a zero. A packed text spells the bits of that number with a
prefix code (`codeword?`) whose short words are characters of one byte other than the hash sign,
the line and page breaks and a few control characters (`digit?`), and whose long words are
characters of two bytes; line breaks between them are skipped.
-/

set_option autoImplicit false

namespace Highlight.Packed

/-- How many values a digit of the range decoder takes: it reads bytes. -/
def base : Nat := 256

/-- The characters of one byte that follow the printable ones: the control characters but NUL,
escape and those that break a line or a page, then the blank and delete. -/
def controlDigits : List Nat :=
  [1, 2, 3, 4, 5, 6, 7, 8, 9, 14, 15, 16, 17, 18, 19, 20, 21, 22, 23, 24, 25, 26, 31, 32, 127]

/-- The value of a character of one byte, below 118: the printable characters from `!` to `~`
in order, leaving out the hash sign, then `controlDigits`. -/
def digit? (c : Char) : Option Nat :=
  let n := c.toNat
  if n < 33 || n > 126 || n == 35 then (controlDigits.idxOf? n).map (93 + ·)
  else some (n - 33 - (if n > 35 then 1 else 0))

/-- The format characters among those of two bytes, which a packed text leaves out. -/
def formatChars : List Nat := [0x600, 0x601, 0x602, 0x603, 0x604, 0x605, 0x61C, 0x6DD, 0x70F]

/-- How many characters of two bytes have a word of 14 bits; the others have 15. -/
def shortTwos : Nat := 713

/-- The word of a character, as its value and its length in bits. A character of one byte has
7 bits, its value below 118; the characters of two bytes from `U+00C0` to `U+07FF`, but the
format characters, follow in order, the first `shortTwos` with the words of 14 bits that start
past those and the rest with the 15 bits after them, to the last word of 15 bits. -/
def codeword? (c : Char) : Option (Nat × Nat) :=
  match digit? c with
  | some d => some (d, 7)
  | none =>
    let n := c.toNat
    if n < 0xC0 || n > 0x7FF || formatChars.contains n then none
    else
      let j := n - 0xC0 - (formatChars.filter (· < n)).length
      if j < shortTwos then some (118 * 128 + j, 14)
      else some ((118 * 128 + shortTwos) * 2 + (j - shortTwos), 15)

/-- Move the whole bytes of the `n` bits `acc` (the highest first) to `out`, up to `k` of them. -/
def emitBytes (out : Array Nat) (acc n : Nat) : Nat → Array Nat × Nat × Nat
  | 0 => (out, acc, n)
  | k + 1 =>
    if n < 8 then (out, acc, n)
    else emitBytes (out.push (acc >>> (n - 8))) (acc % (1 <<< (n - 8))) (n - 8) k

/-- The bytes that the words of the characters of a packed text spell; the bits short of a byte
at the end are dropped. -/
def bytesOf (packed : String) : Array Nat :=
  (packed.toList.foldl (fun (out, acc, n) c =>
    match codeword? c with
    | some (v, len) => emitBytes out ((acc <<< len) + v) (n + len) 2
    | none => (out, acc, n)) (#[], 0, 0)).1

/-! ## Probabilities and logits

A probability is counted in 4096ths, a logit (the logarithm of the odds) in 256ths. -/

/-- The logistic curve at the logits `-2048, -1920, …, 2048`. -/
def curve : Array Nat :=
  #[1, 2, 3, 6, 10, 16, 27, 45, 73, 120, 194, 310, 488, 747, 1101, 1546, 2047, 2549, 2994,
    3348, 3607, 3785, 3901, 3975, 4024, 4050, 4068, 4079, 4085, 4089, 4092, 4093, 4094]

/-- The probability of a logit, by straight lines between the points of `curve`. -/
def squash (d : Int) : Nat :=
  if d > 2047 then 4095 else if d < -2047 then 1 else
    let w := (d % 128).toNat
    let i := (d / 128 + 16).toNat
    (curve.getD i 0 * (128 - w) + curve.getD (i + 1) 0 * w + 64) / 128

/-- The logit of each probability: the least logit that `squash` takes to it or above. -/
def stretchTable : Array Int := Id.run do
  let mut t : Array Int := Array.replicate 4096 2047
  let mut next := 0
  for k in [0:4095] do
    let x : Int := (k : Int) - 2047
    let v := squash x
    for i in [next:v + 1] do
      t := t.set! i x
    next := v + 1
  return t

/-- The logit of a probability. -/
def stretch (p : Nat) : Int := stretchTable.getD p 0

/-- A logit kept within `-2047` and `2047`. -/
def clampLogit (d : Int) : Int := max (-2047) (min 2047 d)

/-! ## Counters and hashes -/

/-- A counter is a probability of a one in 2^22ths, above a count (up to `limit`) of the bits
it has seen: each bit moves the probability towards itself by the distance over the count plus
two, so the first bits weigh most. It starts at one half. -/
def Counter.start : UInt32 := 2147483648

/-- A counter after seeing the bit `y`. -/
def Counter.update (v : UInt32) (y : Bool) (limit : UInt32) : UInt32 :=
  let n := v &&& 1023
  let p := v >>> 10
  let p := if y then p + (4194303 - p) / (n + 2) else p - p / (n + 2)
  (p <<< 10) ||| (if n < limit then n + 1 else n)

/-- The logit of a counter's probability. -/
def Counter.logit (v : UInt32) : Int := stretch (v >>> 20).toNat

/-- Spread the bits of a hash. -/
def scramble (x : UInt32) : UInt32 :=
  let x := (x ^^^ (x >>> 15)) * 0x2C1B3C6D
  let x := (x ^^^ (x >>> 12)) * 0x297A2D39
  x ^^^ (x >>> 15)

/-- Add a byte to a hash. -/
def hashStep (x : UInt32) (b : Nat) : UInt32 := scramble (x * 0x9E3779B1 + b.toUInt32 + 1)

/-- The byte `j + 1` places before place `i` of `out` (a place before the start reads as 0). -/
def byteBefore (out : ByteArray) (i j : Nat) : Nat :=
  if j < i then (out.get! (i - 1 - j)).toNat else 0

/-- The hash, from `seed`, of the `o` bytes before place `i` of `out`. -/
def seededHash (out : ByteArray) (i o : Nat) (seed : UInt32) : UInt32 :=
  Nat.fold o (fun j _ x => hashStep x (byteBefore out i j)) seed

/-- The hash of the `o` bytes before place `i` of `out`. -/
def contextHash (out : ByteArray) (i o : Nat) : UInt32 := seededHash out i o o.toUInt32

/-- How many bytes before `p` match the bytes up to `i` (both included, looking back), up to
sixteen. -/
def matchLength (out : ByteArray) (p i : Nat) : Nat :=
  ((List.range 16).takeWhile fun j => j < p ∧ j ≤ i ∧ out.get! (p - 1 - j) = out.get! (i - j)).length

/-- The hash of the bytes of a word. -/
def wordHash (w : ByteArray) : UInt32 := w.foldl (fun x b => hashStep x b.toNat) 0

/-! ## The range decoder -/

/-- The range decoder: the width of the current interval, where the number read so far lies in
it, and the place of the next digit. -/
structure Decoder where
  range : Nat
  code : Nat
  pos : Nat

/-- The decoder at the start: the first four digits read, so the interval is `base ^ 4` wide. -/
def Decoder.start (digits : Array Nat) : Decoder :=
  ⟨4294967296, (List.range 4).foldl (fun v k => v * base + digits.getD k 0) 0, 4⟩

/-- Read digits (zeros past the last) until the interval is at least `base ^ 3` wide; two are
always enough after a bit, since a bit leaves at least a 4096th of the width. -/
def Decoder.norm (digits : Array Nat) : Nat → Decoder → Decoder
  | 0, d => d
  | n + 1, d =>
    if d.range < 16777216 then
      norm digits n ⟨d.range * base, d.code * base + digits.getD d.pos 0, d.pos + 1⟩
    else d

/-- Read one bit whose probability of being a one is `p` (in 4096ths). -/
def Decoder.read (d : Decoder) (digits : Array Nat) (p : Nat) : Bool × Decoder :=
  let bound := d.range / 4096 * (4096 - p)
  if bound ≤ d.code then (true, norm digits 2 ⟨d.range - bound, d.code - bound, d.pos⟩)
  else (false, norm digits 2 { d with range := bound })

/-! ## Mixing -/

/-- The weighted sum of the first `n` inputs, with the weights from `first` on. -/
def dot (w inputs : Array Int) (first : Nat) : Nat → Int → Int
  | 0, acc => acc
  | n + 1, acc => dot w inputs first n (acc + w.getD (first + n) 0 * inputs.getD n 0)

/-- Move the first `n` weights from `first` on by their inputs times the error `err`. -/
def train (inputs : Array Int) (first : Nat) (err : Int) : Nat → Array Int → Array Int
  | 0, w => w
  | n + 1, w =>
    let j := first + n
    train inputs first err n (w.set! j (w.getD j 0 + inputs.getD n 0 * err / 1024))

/-! ## Unpacking -/

/-- The orders of the hashed contexts of the bytes before. -/
def orders : Array Nat := #[1, 2, 3, 4]

/-- Whether a byte is part of a word: a letter, a digit or an underscore. -/
def wordByte (c : Nat) : Bool :=
  (97 ≤ c && c ≤ 122) || (65 ≤ c && c ≤ 90) || (48 ≤ c && c ≤ 57) || c == 95

/-- How many counters each hashed context has. -/
def tableSize : Nat := 16777216

/-- How many hashed contexts there are: the orders, the word, the byte above, the last six bytes,
and the two bytes before the last one. -/
def contextCount : Nat := orders.size + 4

/-- How many inputs the mixers weigh: the logit of each hashed context, of the bits of the byte
so far and of the match, and a constant. -/
def inputCount : Nat := contextCount + 3

/-- The refining table at the start: for every context, the curve itself. -/
def refineStart : Array Nat :=
  (Array.range (65536 * 33)).map fun k => squash (((k % 33 : Nat) : Int) * 128 - 2048) * 16

/-- Where a byte stands in its line. A line that starts with a digit is an entry of a list of
words: the number it starts with counts the bytes its word shares with the word before, and the
rest of the line is the rest of the word. -/
inductive Place where
  /-- In a line of another kind. -/
  | plain
  /-- In the count of shared bytes, with the count so far. -/
  | shared (n : Nat)
  /-- In the rest of the word, with the word so far (the shared bytes first). -/
  | word (w : ByteArray)

/-- What stays the same over the bits of one byte: the two bytes before it, the hashes of its
contexts (the last two for the word and the line before), the byte the match expects, and how
long the match is. -/
structure ByteContext where
  c1 : Nat
  c2 : Nat
  hashes : Array UInt32
  expected : Option Nat
  matchLen : Nat

/-- Unpacking so far: the decoder, the bytes so far, the models, the bits of the byte being
read (after a leading one), the match being followed, the hash of the word so far, where the
line and the line before start, the last word of a list, and the place in the line. -/
structure Unpacker where
  decoder : Decoder
  out : ByteArray
  table : Array UInt32
  order0 : Array UInt32
  matchCounters : Array UInt32
  byMatch : Array Int
  byPlace : Array Int
  byPair : Array Int
  refine : Array Nat
  recent : Array Nat
  matchAt : Nat
  matchLen : Nat
  c0 : Nat
  word : UInt32
  lineStart : Nat
  lastLine : Nat
  lastWord : ByteArray
  place : Place

namespace Unpacker

/-- The unpacker at the start. -/
def start (size : Nat) (digits : Array Nat) : Unpacker :=
  { decoder := Decoder.start digits, out := ByteArray.emptyWithCapacity size
    table := Array.replicate (contextCount * tableSize) Counter.start
    order0 := Array.replicate 256 Counter.start, matchCounters := Array.replicate 64 Counter.start
    byMatch := Array.replicate (inputCount * 1024) 16384
    byPlace := Array.replicate (inputCount * 2048) 16384
    byPair := Array.replicate (inputCount * 16384) 16384, refine := refineStart
    recent := Array.replicate 1048576 0, matchAt := 0, matchLen := 0, c0 := 1, word := 0
    lineStart := 0, lastLine := 0, lastWord := ByteArray.empty, place := .plain }

/-- Read the bit `7 - k` of the byte. -/
def readBit (u : Unpacker) (digits : Array Nat) (b : ByteContext) (k : Nat) : Unpacker :=
  let c0 := u.c0
  let slot (q : Nat) := q * tableSize + (scramble (b.hashes.getD q 0 + c0.toUInt32 * 0x9E3779B1) >>> 8).toNat
  let slots := #[slot 0, slot 1, slot 2, slot 3, slot 4, slot 5, slot 6, slot 7]
  let matchSlot := b.expected.bind fun e =>
    if (e + 256) >>> (8 - k) = c0 then some (min b.matchLen 31 * 2 + (e >>> (7 - k)) % 2) else none
  let logit (q : Nat) := Counter.logit (u.table.getD (slots.getD q 0) 0)
  let inputs := #[logit 0, logit 1, logit 2, logit 3, logit 4, logit 5, logit 6, logit 7,
    Counter.logit (u.order0.getD c0 0),
    (matchSlot.map fun m => Counter.logit (u.matchCounters.getD m 0)).getD 0, 256]
  -- three mixers: one chosen by the length of the match and the bits so far, one by the byte
  -- before and how many bits are read, one by the byte two before, how many bits are read, the
  -- length of the match and whether there is one
  let band := if b.matchLen = 0 then 0 else if b.matchLen < 16 then 1 else if b.matchLen < 32 then 2 else 3
  let at1 := (band * 256 + c0) * inputCount
  let at2 := (b.c1 * 8 + k) * inputCount
  let at4 := ((b.c2 * 8 + k) * 8 + band * 2 + (if b.expected.isSome then 1 else 0)) * inputCount
  let s1 := clampLogit (dot u.byMatch inputs at1 inputCount 0 / 65536)
  let s2 := clampLogit (dot u.byPlace inputs at2 inputCount 0 / 65536)
  let s4 := clampLogit (dot u.byPair inputs at4 inputCount 0 / 65536)
  let s := (s1 + s2 + s4) / 3
  -- the refining table, between the two of its 33 points around the mixed logit
  let spot := ((s + 2048) * 32).toNat
  let lo := spot / 4096
  let wt := spot % 4096
  let at3 := (b.c1 * 256 + c0) * 33
  let pa := (u.refine.getD (at3 + lo) 0 * (4096 - wt) + u.refine.getD (at3 + lo + 1) 0 * wt) / 65536
  let (y, decoder) := u.decoder.read digits (max 1 (min 4095 ((squash s + 3 * pa) / 4)))
  let yv : Int := if y then 4096 else 0
  let near := if wt < 2048 then at3 + lo else at3 + lo + 1
  { u with
    decoder
    table := slots.foldl (fun t j => t.set! j (Counter.update (t.getD j 0) y 5)) u.table
    order0 := u.order0.set! c0 (Counter.update (u.order0.getD c0 0) y 5)
    matchCounters := match matchSlot with
      | some m => u.matchCounters.set! m (Counter.update (u.matchCounters.getD m 0) y 255)
      | none => u.matchCounters
    byMatch := train inputs at1 (yv - squash s1) inputCount u.byMatch
    byPlace := train inputs at2 (yv - squash s2) inputCount u.byPlace
    byPair := train inputs at4 (yv - squash s4) inputCount u.byPair
    refine :=
      let a := u.refine.getD near 0
      u.refine.set! near (if y then a + (65535 - a) / 60 else a - a / 60)
    c0 := 2 * c0 + y.toNat }

/-- Read the bits `7 - k` down to `0` of the byte. -/
def readBits (digits : Array Nat) (b : ByteContext) : Nat → Nat → Unpacker → Unpacker
  | 0, _, u => u
  | n + 1, k, u => readBits digits b n (k + 1) (u.readBit digits b k)

/-- The hashes of the contexts of the byte at place `i`: in the rest of a word of a list, those of
the whole word so far, but for the last six bytes and the two before the last one. -/
def hashes (u : Unpacker) (i : Nat) : Array UInt32 :=
  let above (n : Nat) := if n < u.lastWord.size then (u.lastWord.get! n).toNat else 0
  let own := match u.place with
    | .word w => ((orders.map (contextHash w w.size)).push (hashStep (wordHash w) 76)).push
        (hashStep 7 (above w.size))
    | .shared n => ((orders.map (contextHash u.out i)).push (hashStep u.word 76)).push
        (hashStep 6 (above n))
    | .plain =>
      let col := i - u.lineStart
      let up := if u.lastLine + col < u.lineStart then (u.out.get! (u.lastLine + col)).toNat else 0
      ((orders.map (contextHash u.out i)).push (hashStep u.word 76)).push
        (hashStep (hashStep 5 up) (min col 15))
  (own.push (seededHash u.out i 6 66)).push
    (hashStep (hashStep 77 (byteBefore u.out i 1)) (byteBefore u.out i 2))

/-- Follow the lines and the words of the lists past the byte `c` at place `i`. -/
def passByte (u : Unpacker) (i c : Nat) : Unpacker :=
  let digit := 48 ≤ c && c ≤ 57
  if c = 10 then
    let lastWord := match u.place with
      | .plain => u.lastWord
      | .shared _ => ByteArray.empty
      | .word w => w
    { u with lastLine := u.lineStart, lineStart := i + 1, lastWord, place := .plain }
  else match u.place with
    | .plain => if i = u.lineStart && digit then { u with place := .shared (c - 48) } else u
    | .shared n =>
      if digit then { u with place := .shared (n * 10 + c - 48) }
      else { u with place := .word ((u.lastWord.extract 0 n).push c.toUInt8) }
    | .word w => { u with place := .word (w.push c.toUInt8) }

/-- Read the next byte, then follow the match or look for a new one after the last five bytes. -/
def readByte (u : Unpacker) (digits : Array Nat) : Unpacker :=
  let i := u.out.size
  let expected := if u.matchLen > 0 then some (u.out.get! u.matchAt).toNat else none
  let b : ByteContext :=
    { c1 := if i = 0 then 0 else (u.out.get! (i - 1)).toNat
      c2 := if i < 2 then 0 else (u.out.get! (i - 2)).toNat
      hashes := u.hashes i, expected
      matchLen := u.matchLen }
  let u := readBits digits b 8 0 { u with c0 := 1 }
  let c := u.c0 - 256
  let out := u.out.push c.toUInt8
  let u := { u.passByte i c with word := if wordByte c then hashStep u.word c else 0 }
  let (matchAt, matchLen) :=
    if u.matchLen > 0 ∧ expected = some c then (u.matchAt + 1, u.matchLen + 1) else (u.matchAt, 0)
  if i + 1 < 5 then { u with out, matchAt, matchLen } else
    let slot := (Nat.fold 5 (fun j _ x => hashStep x (out.get! (i - j)).toNat) 0 >>> 12).toNat
    let p := u.recent.getD slot 0
    let (matchAt, matchLen) :=
      if matchLen = 0 ∧ p > 0 ∧ matchLength out p i ≥ 5 then (p, matchLength out p i)
      else (matchAt, matchLen)
    { u with out, matchAt, matchLen, recent := u.recent.set! slot (i + 1) }

/-- Read `n` more bytes. -/
def run (digits : Array Nat) : Nat → Unpacker → Unpacker
  | 0, u => u
  | n + 1, u => run digits n (u.readByte digits)

end Unpacker

/-- The `size` bytes that the digits of a packed text stand for. -/
def unpackBytes (size : Nat) (digits : Array Nat) : ByteArray :=
  (Unpacker.run digits size (Unpacker.start size digits)).out

/-- The texts a packed text of `size` bytes holds, one after another with a blank line between
them. -/
def texts (size : Nat) (packed : String) : Array String :=
  let digits := bytesOf packed
  (((String.fromUTF8? (unpackBytes size digits)).getD "").splitOn "\n\n").toArray

end Highlight.Packed
