/-!
# UTF-8

Characters as bytes and bytes as characters. Bytes are decoded to glyphs: a
glyph is a character, or the mark `none` of a maximal run of bytes that begins
a character and does not complete it. Strict reading refuses the marks, lenient
reading shows each of them as one replacement character.
-/
namespace StackBroker.Utf8

/-- A character, or the mark of bytes that are no character. -/
abbrev Glyph := Option Char

/-! ### Encoding -/

/-- The one to four bytes of a character. -/
def encodeChar (c : Char) : List UInt8 :=
  let code := c.toNat
  let bytes : List Nat :=
    if code < 0x80 then [code]
    else if code < 0x800 then [0xC0+code/0x40,0x80+code%0x40]
    else if code < 0x10000 then [0xE0+code/0x1000,0x80+code/0x40%0x40,0x80+code%0x40]
    else [0xF0+code/0x40000,0x80+code/0x1000%0x40,0x80+code/0x40%0x40,0x80+code%0x40]
  bytes.map UInt8.ofNat

/-- The bytes of a list of characters. -/
def encodeChars (chars : List Char) : List UInt8 := chars.flatMap encodeChar

/-- The bytes of a string. -/
def encode (text : String) : List UInt8 := encodeChars text.toList

/-! ### Decoding -/

/-- What the bytes read so far leave open: nothing, or a character whose next
    byte lies between two bounds. -/
inductive Pending where
  | settled
  | open (count low high value : Nat)
deriving DecidableEq, Repr

/-- What a byte gives where a character may begin. The bounds of the second byte
    leave out overlong forms, surrogates and values past the last character. -/
def opening (byte : Nat) : List Glyph × Pending :=
  if byte < 0x80 then ([some (Char.ofNat byte)],.settled)
  else if byte < 0xC2 then ([none],.settled)
  else if byte < 0xE0 then ([],.open 1 0x80 0xBF (byte-0xC0))
  else if byte < 0xF0 then
    ([],.open 2 (if byte = 0xE0 then 0xA0 else 0x80) (if byte = 0xED then 0x9F else 0xBF) (byte-0xE0))
  else if byte < 0xF5 then
    ([],.open 3 (if byte = 0xF0 then 0x90 else 0x80) (if byte = 0xF4 then 0x8F else 0xBF) (byte-0xF0))
  else ([none],.settled)

/-- What a byte gives after what is pending. A byte out of bounds ends the run
    before it and begins anew. -/
def step : Pending → Nat → List Glyph × Pending
  | .settled, byte => opening byte
  | .open count low high value, byte =>
    if low ≤ byte ∧ byte ≤ high then
      if count ≤ 1 then ([some (Char.ofNat (value*0x40+(byte-0x80)))],.settled)
      else ([],.open (count-1) 0x80 0xBF (value*0x40+(byte-0x80)))
    else (none :: (opening byte).1,(opening byte).2)

/-- The glyphs of the remaining bytes. -/
def decodeFrom : Pending → List UInt8 → List Glyph
  | .settled, [] => []
  | .open .., [] => [none]
  | pending, byte :: rest => (step pending byte.toNat).1 ++ decodeFrom (step pending byte.toNat).2 rest

/-- The glyphs of a list of bytes. -/
def decode (bytes : List UInt8) : List Glyph := decodeFrom .settled bytes

/-- The characters of glyphs without marks. -/
def chars? : List Glyph → Option (List Char)
  | [] => some []
  | none :: _ => none
  | some c :: rest => (chars? rest).map (c :: ·)

/-- The text of bytes that are UTF-8 throughout. -/
def decodeStrict (bytes : List UInt8) : Option String := (chars? (decode bytes)).map String.ofList

/-- The character that stands for bytes that are no character. -/
def replacement : Char := '\uFFFD'

/-- The text of any bytes, with a replacement character for each mark. -/
def decodeLossy (bytes : List UInt8) : String :=
  String.ofList ((decode bytes).map (·.getD replacement))

end StackBroker.Utf8
