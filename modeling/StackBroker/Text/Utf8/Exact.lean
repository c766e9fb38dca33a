import StackBroker.Text.Utf8

/-!
# Exact UTF-8

Reading and writing UTF-8 are inverse to each other: every text is read back from
its bytes, and strict reading accepts the bytes of texts and no others. The bytes of
a text are those that the core library stores for it (`encode_eq`).
-/
namespace StackBroker.Utf8

/-! ### Reading what was written -/

theorem decodeFrom_cons (pending : Pending) (byte : UInt8) (rest : List UInt8) :
    decodeFrom pending (byte :: rest) =
      (step pending byte.toNat).1 ++ decodeFrom (step pending byte.toNat).2 rest := by
  cases pending <;> rfl

/-- A byte that opens a character of several bytes. -/
theorem decodeFrom_lead {byte : Nat} {pending : Pending} (lead : opening byte = ([],pending))
    (small : byte < 256) (rest : List UInt8) :
    decodeFrom .settled (UInt8.ofNat byte :: rest) = decodeFrom pending rest := by
  rw [decodeFrom_cons,UInt8.toNat_ofNat',Nat.mod_eq_of_lt small,step,lead]
  rfl

/-- A byte that prolongs a character and does not complete it. -/
theorem decodeFrom_prolong {count low high value byte : Nat} (more : 1 < count)
    (within : low ≤ byte ∧ byte ≤ high) (small : byte < 256) (rest : List UInt8) :
    decodeFrom (.open count low high value) (UInt8.ofNat byte :: rest) =
      decodeFrom (.open (count-1) 0x80 0xBF (value*0x40+(byte-0x80))) rest := by
  rw [decodeFrom_cons,UInt8.toNat_ofNat',Nat.mod_eq_of_lt small,step,if_pos within,if_neg (by omega)]
  rfl

/-- The last byte of a character. -/
theorem decodeFrom_last {low high value byte : Nat} (within : low ≤ byte ∧ byte ≤ high) (small : byte < 256)
    (rest : List UInt8) :
    decodeFrom (.open 1 low high value) (UInt8.ofNat byte :: rest) =
      some (Char.ofNat (value*0x40+(byte-0x80))) :: decodeFrom .settled rest := by
  rw [decodeFrom_cons,UInt8.toNat_ofNat',Nat.mod_eq_of_lt small,step,if_pos within,if_pos (by omega)]
  rfl

/-- The bytes of a character are read as that character. -/
theorem decodeFrom_encodeChar (c : Char) (rest : List UInt8) :
    decodeFrom .settled (encodeChar c ++ rest) = some c :: decodeFrom .settled rest := by
  have range : c.toNat < 0xD800 ∨ 0xDFFF < c.toNat ∧ c.toNat < 0x110000 := c.valid
  have back (value : Nat) (same : value = c.toNat) : Char.ofNat value = c := by rw [same,Char.ofNat_toNat]
  unfold encodeChar
  generalize c.toNat = code at range back
  by_cases one : code < 0x80
  · simp only [one,if_true,List.map_cons,List.map_nil,List.cons_append,List.nil_append]
    rw [decodeFrom_cons,UInt8.toNat_ofNat',Nat.mod_eq_of_lt (by omega),step,opening,if_pos one,back code rfl]
    rfl
  by_cases two : code < 0x800
  · simp only [one,two,if_true,if_false,List.map_cons,List.map_nil,List.cons_append,List.nil_append]
    have lead : opening (0xC0+code/0x40) = ([],.open 1 0x80 0xBF (0xC0+code/0x40-0xC0)) := by
      rw [opening,if_neg (by omega),if_neg (by omega),if_pos (by omega)]
    rw [decodeFrom_lead lead (by omega),decodeFrom_last (by omega) (by omega),back _ (by omega)]
  by_cases three : code < 0x10000
  · simp only [one,two,three,if_true,if_false,List.map_cons,List.map_nil,List.cons_append,List.nil_append]
    have lead : opening (0xE0+code/0x1000) = ([],.open 2 (if 0xE0+code/0x1000 = 0xE0 then 0xA0 else 0x80)
        (if 0xE0+code/0x1000 = 0xED then 0x9F else 0xBF) (0xE0+code/0x1000-0xE0)) := by
      rw [opening,if_neg (by omega),if_neg (by omega),if_neg (by omega),if_pos (by omega)]
    rw [decodeFrom_lead lead (by omega),
      decodeFrom_prolong (by omega) (by constructor <;> split <;> omega) (by omega),
      decodeFrom_last (by omega) (by omega),back _ (by omega)]
  · simp only [one,two,three,if_false,List.map_cons,List.map_nil,List.cons_append,List.nil_append]
    have lead : opening (0xF0+code/0x40000) = ([],.open 3 (if 0xF0+code/0x40000 = 0xF0 then 0x90 else 0x80)
        (if 0xF0+code/0x40000 = 0xF4 then 0x8F else 0xBF) (0xF0+code/0x40000-0xF0)) := by
      rw [opening,if_neg (by omega),if_neg (by omega),if_neg (by omega),if_neg (by omega),if_pos (by omega)]
    rw [decodeFrom_lead lead (by omega),
      decodeFrom_prolong (by omega) (by constructor <;> split <;> omega) (by omega),
      decodeFrom_prolong (by omega) (by omega) (by omega),
      decodeFrom_last (by omega) (by omega),back _ (by omega)]

/-- Characters are read back from their bytes. -/
theorem decode_encodeChars (chars : List Char) : decode (encodeChars chars) = chars.map some := by
  induction chars with
  | nil => rfl
  | cons c rest ih =>
    rw [decode] at ih
    rw [decode,encodeChars,List.flatMap_cons,← encodeChars,decodeFrom_encodeChar,ih,List.map_cons]

theorem chars?_map_some (chars : List Char) : chars? (chars.map some) = some chars := by
  induction chars with
  | nil => rfl
  | cons c rest ih => rw [List.map_cons,chars?,ih,Option.map_some]

/-- Strict reading gives back every text. -/
theorem decodeStrict_encode (text : String) : decodeStrict (encode text) = some text := by
  rw [decodeStrict,encode,decode_encodeChars,chars?_map_some,Option.map_some,String.ofList_toList]

/-- Lossy reading loses nothing of a text. -/
theorem decodeLossy_encode (text : String) : decodeLossy (encode text) = text := by
  have whole : ((fun glyph : Glyph => glyph.getD replacement) ∘ some) = id := rfl
  rw [decodeLossy,encode,decode_encodeChars,List.map_map,whole,List.map_id,String.ofList_toList]

/-! ### What can be read -/

/-- Inside a character only a byte within the bounds can be read. -/
theorem byte_of_open {count low high value : Nat} {bytes : List UInt8} {chars : List Char}
    (read : chars? (decodeFrom (.open count low high value) bytes) = some chars) :
    ∃ byte rest, bytes = byte :: rest ∧ low ≤ byte.toNat ∧ byte.toNat ≤ high ∧
      decodeFrom (.open count low high value) (byte :: rest) =
        (if count ≤ 1 then some (Char.ofNat (value*0x40+(byte.toNat-0x80))) :: decodeFrom .settled rest
         else decodeFrom (.open (count-1) 0x80 0xBF (value*0x40+(byte.toNat-0x80))) rest) := by
  cases bytes with
  | nil => exact absurd read (by simp [decodeFrom,chars?])
  | cons byte rest =>
    rw [decodeFrom_cons,step] at read
    split at read
    · rename_i within
      refine ⟨byte,rest,rfl,within.1,within.2,?_⟩
      rw [decodeFrom_cons,step,if_pos within]
      split <;> rfl
    · exact absurd read (by simp [chars?])

/-- The last byte of a character, and what is read after it. -/
theorem read_last {low high value : Nat} {bytes : List UInt8} {chars : List Char}
    (read : chars? (decodeFrom (.open 1 low high value) bytes) = some chars) :
    ∃ byte rest others, bytes = byte :: rest ∧ low ≤ byte.toNat ∧ byte.toNat ≤ high ∧
      chars = Char.ofNat (value*0x40+(byte.toNat-0x80)) :: others ∧
      chars? (decodeFrom .settled rest) = some others := by
  obtain ⟨byte,rest,same,above,below,next⟩ := byte_of_open read
  rw [same,next,if_pos (Nat.le_refl 1),chars?,Option.map_eq_some_iff] at read
  obtain ⟨others,later,equal⟩ := read
  exact ⟨byte,rest,others,same,above,below,equal.symm,later⟩

/-- A byte before the last of a character, and what is read after it. -/
theorem read_more {count low high value : Nat} (more : 1 < count) {bytes : List UInt8} {chars : List Char}
    (read : chars? (decodeFrom (.open count low high value) bytes) = some chars) :
    ∃ byte rest, bytes = byte :: rest ∧ low ≤ byte.toNat ∧ byte.toNat ≤ high ∧
      chars? (decodeFrom (.open (count-1) 0x80 0xBF (value*0x40+(byte.toNat-0x80))) rest) = some chars := by
  obtain ⟨byte,rest,same,above,below,next⟩ := byte_of_open read
  rw [same,next,if_neg (by omega)] at read
  exact ⟨byte,rest,same,above,below,read⟩

private theorem ofNat_byte (byte : UInt8) {value : Nat} (same : value = byte.toNat) :
    UInt8.ofNat value = byte := by
  rw [same,UInt8.ofNat_toNat]

private theorem code_ofNat {value : Nat} (valid : value < 0xD800 ∨ 0xDFFF < value ∧ value < 0x110000) :
    (Char.ofNat value).toNat = value := by
  have legal : value.isValidChar := valid
  rw [Char.ofNat,dif_pos legal]
  rfl

/-- What can be read begins with the bytes of its first character. -/
theorem read_first {byte : UInt8} {rest : List UInt8} {chars : List Char}
    (read : chars? (decodeFrom .settled (byte :: rest)) = some chars) :
    ∃ c later others, byte :: rest = encodeChar c ++ later ∧ chars = c :: others ∧
      chars? (decodeFrom .settled later) = some others := by
  rw [decodeFrom_cons,step,opening] at read
  split at read
  · rename_i one
    simp only [List.cons_append,List.nil_append,chars?,Option.map_eq_some_iff] at read
    obtain ⟨others,later,equal⟩ := read
    refine ⟨Char.ofNat byte.toNat,rest,others,?_,equal.symm,later⟩
    simp only [encodeChar]
    rw [code_ofNat (by omega),if_pos one,List.map_cons,ofNat_byte byte rfl]
    rfl
  split at read
  · exact absurd read (by simp [chars?])
  split at read
  · rename_i high lead
    obtain ⟨second,later,others,same,above,below,equal,tail⟩ := read_last read
    refine ⟨_,later,others,?_,equal,tail⟩
    simp only [encodeChar]
    rw [code_ofNat (by omega),if_neg (by omega),if_pos (by omega),same]
    simp only [List.map_cons,List.map_nil,List.cons_append,List.nil_append]
    rw [ofNat_byte byte (by omega),ofNat_byte second (by omega)]
  split at read
  · rename_i high lead
    obtain ⟨second,tail,sameSecond,aboveSecond,belowSecond,more⟩ := read_more (by omega) read
    obtain ⟨third,later,others,sameThird,above,below,equal,tail⟩ := read_last more
    have bounds : 0x80 ≤ second.toNat ∧ second.toNat ≤ 0xBF := by
      constructor <;> split at aboveSecond <;> split at belowSecond <;> omega
    have noOverlong : byte.toNat = 0xE0 → 0xA0 ≤ second.toNat := fun same => by
      rwa [if_pos same] at aboveSecond
    have noSurrogate : byte.toNat = 0xED → second.toNat ≤ 0x9F := fun same => by
      rwa [if_pos same] at belowSecond
    refine ⟨_,later,others,?_,equal,tail⟩
    simp only [encodeChar]
    rw [code_ofNat (by omega),if_neg (by omega),if_neg (by omega),if_pos (by omega),sameSecond,sameThird]
    simp only [List.map_cons,List.map_nil,List.cons_append,List.nil_append]
    rw [ofNat_byte byte (by omega),ofNat_byte second (by omega),ofNat_byte third (by omega)]
  split at read
  · rename_i high lead
    obtain ⟨second,tail,sameSecond,aboveSecond,belowSecond,more⟩ := read_more (by omega) read
    obtain ⟨third,tail,sameThird,aboveThird,belowThird,more⟩ := read_more (by omega) more
    obtain ⟨fourth,later,others,sameFourth,above,below,equal,tail⟩ := read_last more
    have bounds : 0x80 ≤ second.toNat ∧ second.toNat ≤ 0xBF := by
      constructor <;> split at aboveSecond <;> split at belowSecond <;> omega
    have noOverlong : byte.toNat = 0xF0 → 0x90 ≤ second.toNat := fun same => by
      rwa [if_pos same] at aboveSecond
    have notPastLast : byte.toNat = 0xF4 → second.toNat ≤ 0x8F := fun same => by
      rwa [if_pos same] at belowSecond
    refine ⟨_,later,others,?_,equal,tail⟩
    simp only [encodeChar]
    rw [code_ofNat (by omega),if_neg (by omega),if_neg (by omega),if_neg (by omega),sameSecond,sameThird,
      sameFourth]
    simp only [List.map_cons,List.map_nil,List.cons_append,List.nil_append]
    rw [ofNat_byte byte (by omega),ofNat_byte second (by omega),ofNat_byte third (by omega),
      ofNat_byte fourth (by omega)]
  · exact absurd read (by simp [chars?])

/-- Bytes are read only as characters that they are written from. -/
theorem encodeChars_of_chars? {bytes : List UInt8} {chars : List Char}
    (read : chars? (decodeFrom .settled bytes) = some chars) : encodeChars chars = bytes := by
  induction chars generalizing bytes with
  | nil =>
    cases bytes with
    | nil => rfl
    | cons byte rest =>
      obtain ⟨c,later,others,_,equal,_⟩ := read_first read
      exact absurd equal (by simp)
  | cons c others ih =>
    cases bytes with
    | nil => exact absurd read (by simp [decodeFrom,chars?])
    | cons byte rest =>
      obtain ⟨first,later,tail,same,equal,more⟩ := read_first read
      injection equal with sameFirst sameTail
      subst sameFirst sameTail
      rw [encodeChars,List.flatMap_cons,← encodeChars,ih more,same]

/-- Strict reading accepts exactly the bytes of texts. -/
theorem decodeStrict_eq_some_iff {bytes : List UInt8} {text : String} :
    decodeStrict bytes = some text ↔ bytes = encode text := by
  constructor
  · intro read
    rw [decodeStrict,decode,Option.map_eq_some_iff] at read
    obtain ⟨chars,read,same⟩ := read
    rw [← same,encode,String.toList_ofList,encodeChars_of_chars? read]
  · intro same
    rw [same,decodeStrict_encode]

/-! ### The core library's bytes -/

theorem encodeChar_eq (c : Char) : encodeChar c = String.utf8EncodeChar c := by
  have range : c.val.toNat < 0x110000 := by
    rcases c.valid with low | ⟨-,high⟩
    · exact Nat.lt_trans low (by decide)
    · exact high
  unfold encodeChar String.utf8EncodeChar
  simp only [Char.toNat]
  generalize c.val.toNat = code at range
  by_cases one : code < 0x80
  · rw [if_pos one,if_pos (by omega)]
    rfl
  by_cases two : code < 0x800
  · rw [if_neg one,if_pos two,if_neg (by omega),if_pos (by omega)]
    have lead : 0xC0+code/0x40 = code/64%32+192 := by omega
    have last : 0x80+code%0x40 = code%64+128 := by omega
    rw [lead,last]
    rfl
  by_cases three : code < 0x10000
  · rw [if_neg one,if_neg two,if_pos three,if_neg (by omega),if_neg (by omega),if_pos (by omega)]
    have lead : 0xE0+code/0x1000 = code/4096%16+224 := by omega
    have second : 0x80+code/0x40%0x40 = code/64%64+128 := by omega
    have last : 0x80+code%0x40 = code%64+128 := by omega
    rw [lead,second,last]
    rfl
  · rw [if_neg one,if_neg two,if_neg three,if_neg (by omega),if_neg (by omega),if_neg (by omega)]
    have lead : 0xF0+code/0x40000 = code/262144%8+240 := by omega
    have second : 0x80+code/0x1000%0x40 = code/4096%64+128 := by omega
    have third : 0x80+code/0x40%0x40 = code/64%64+128 := by omega
    have last : 0x80+code%0x40 = code%64+128 := by omega
    rw [lead,second,third,last]
    rfl

/-- The bytes of a text are those that the core library stores. -/
theorem encode_eq (text : String) : encode text = text.toUTF8.data.toList := by
  have stored : text.toByteArray = (text.toList.flatMap String.utf8EncodeChar).toByteArray := String.utf8Encode_toList.symm
  rw [String.toUTF8,stored,List.data_toByteArray,encode,encodeChars,funext encodeChar_eq]

end StackBroker.Utf8
