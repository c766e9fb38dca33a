import StackBroker.Text.Base64

/-!
# Exact Base64

Reading and writing Base64 are inverse to each other: every list of bytes is read
back from what it is written as, and nothing else is read.
-/
namespace StackBroker.Base64

/-! ### Digits -/

theorem value?_digit {value : Nat} (small : value < 64) : value? (digit value) = some value := by
  have all : ∀ value : Fin 64, value? (digit value) = some value.val := by decide
  exact all ⟨value,small⟩

theorem digit_ne_padding {value : Nat} (small : value < 64) : digit value ≠ '=' := by
  have all : ∀ value : Fin 64, digit value ≠ '=' := by decide
  exact all ⟨value,small⟩

/-- A character has a value only as the digit of that value. -/
theorem digit_of_value? {c : Char} {value : Nat} (found : value? c = some value) : value < 64 ∧ digit value = c := by
  have back (code : Nat) (same : code = c.toNat) : Char.ofNat code = c := by rw [same,Char.ofNat_toNat]
  unfold value? at found
  split at found
  · rename_i range
    have low : 65 ≤ c.toNat := range.1
    have high : c.toNat ≤ 90 := range.2
    injection found with same
    refine ⟨by omega,?_⟩
    rw [digit,if_pos (by omega),back _ (by omega)]
  split at found
  · rename_i range
    have low : 97 ≤ c.toNat := range.1
    have high : c.toNat ≤ 122 := range.2
    injection found with same
    refine ⟨by omega,?_⟩
    rw [digit,if_neg (by omega),if_pos (by omega),back _ (by omega)]
  split at found
  · rename_i range
    have low : 48 ≤ c.toNat := range.1
    have high : c.toNat ≤ 57 := range.2
    injection found with same
    refine ⟨by omega,?_⟩
    rw [digit,if_neg (by omega),if_neg (by omega),if_pos (by omega),back _ (by omega)]
  split at found
  · rename_i sign
    injection found with same
    subst same
    exact ⟨by decide,sign.symm⟩
  split at found
  · rename_i sign
    injection found with same
    subst same
    exact ⟨by decide,sign.symm⟩
  · exact absurd found (by simp)

/-! ### Groups -/

private theorem byte_eq (a : UInt8) {value : Nat} (same : value = a.toNat) : UInt8.ofNat value = a := by
  rw [same,UInt8.ofNat_toNat]

theorem lastOne_digits (a : UInt8) : lastOne (digit (a.toNat/4)) (digit (a.toNat%4*16)) = some [a] := by
  have range := a.toNat_lt
  rw [lastOne,value?_digit (by omega),value?_digit (by omega)]
  simp only [Option.bind_eq_bind,Option.bind_some]
  rw [if_pos (by omega),byte_eq a (by omega)]

theorem lastTwo_digits (a b : UInt8) :
    lastTwo (digit (a.toNat/4)) (digit (a.toNat%4*16+b.toNat/16)) (digit (b.toNat%16*4)) = some [a,b] := by
  have first := a.toNat_lt
  have second := b.toNat_lt
  rw [lastTwo,value?_digit (by omega),value?_digit (by omega),value?_digit (by omega)]
  simp only [Option.bind_eq_bind,Option.bind_some]
  rw [if_pos (by omega),byte_eq a (by omega),byte_eq b (by omega)]

theorem group_digits (a b c : UInt8) :
    group (digit (a.toNat/4)) (digit (a.toNat%4*16+b.toNat/16)) (digit (b.toNat%16*4+c.toNat/64))
      (digit (c.toNat%64)) = some [a,b,c] := by
  have first := a.toNat_lt
  have second := b.toNat_lt
  have third := c.toNat_lt
  rw [group,value?_digit (by omega),value?_digit (by omega),value?_digit (by omega),value?_digit (by omega)]
  simp only [Option.bind_eq_bind,Option.bind_some]
  rw [byte_eq a (by omega),byte_eq b (by omega),byte_eq c (by omega)]

/-! ### Whole texts -/

/-- What is written is made of digits and padding. -/
theorem mem_encode {bytes : List UInt8} {c : Char} (member : c ∈ encode bytes) :
    c = '=' ∨ ∃ value < 64, c = digit value := by
  have range (byte : UInt8) := byte.toNat_lt
  fun_induction encode bytes with
  | case1 => cases member
  | case2 a =>
    simp only [List.mem_cons,List.not_mem_nil,or_false] at member
    rcases member with rfl | rfl | rfl | rfl
    · exact .inr ⟨_,by have := range a; omega,rfl⟩
    · exact .inr ⟨_,by omega,rfl⟩
    · exact .inl rfl
    · exact .inl rfl
  | case3 a b =>
    simp only [List.mem_cons,List.not_mem_nil,or_false] at member
    rcases member with rfl | rfl | rfl | rfl
    · exact .inr ⟨_,by have := range a; omega,rfl⟩
    · exact .inr ⟨_,by have := range b; omega,rfl⟩
    · exact .inr ⟨_,by omega,rfl⟩
    · exact .inl rfl
  | case4 a b c rest ih =>
    simp only [List.mem_cons] at member
    rcases member with rfl | rfl | rfl | rfl | later
    · exact .inr ⟨_,by have := range a; omega,rfl⟩
    · exact .inr ⟨_,by have := range b; omega,rfl⟩
    · exact .inr ⟨_,by have := range c; omega,rfl⟩
    · exact .inr ⟨_,by omega,rfl⟩
    · exact ih later

/-- Bytes are read back from what they are written as. -/
theorem decode_encode (bytes : List UInt8) : decode (encode bytes) = some bytes := by
  fun_induction encode bytes with
  | case1 => rfl
  | case2 a => rw [decode,if_pos rfl,if_pos rfl,if_pos rfl,lastOne_digits]
  | case3 a b =>
    have full := digit_ne_padding (show b.toNat%16*4 < 64 by omega)
    rw [decode,if_pos rfl,if_pos rfl,if_neg full,lastTwo_digits]
  | case4 a b c rest ih =>
    have full := digit_ne_padding (show c.toNat%64 < 64 by omega)
    rw [decode,if_neg full,group_digits,ih]
    rfl

theorem encode_ne_nil {bytes : List UInt8} (filled : bytes ≠ []) : encode bytes ≠ [] := by
  intro none
  have back := decode_encode bytes
  rw [none] at back
  exact filled (Option.some.inj back).symm

private theorem toNat_byte {value : Nat} (small : value < 256) : (UInt8.ofNat value).toNat = value := by
  rw [UInt8.toNat_ofNat',Nat.mod_eq_of_lt small]

theorem encode_of_lastOne {p q : Char} {bytes : List UInt8} (read : lastOne p q = some bytes) :
    encode bytes = [p,q,'=','='] := by
  simp only [lastOne,Option.bind_eq_bind,Option.bind_eq_some_iff] at read
  obtain ⟨first,foundFirst,second,foundSecond,rest⟩ := read
  obtain ⟨smallFirst,rfl⟩ := digit_of_value? foundFirst
  obtain ⟨smallSecond,rfl⟩ := digit_of_value? foundSecond
  split at rest
  · injection rest with same
    subst same
    have one : (first*4+second/16)/4 = first := by omega
    have two : (first*4+second/16)%4*16 = second := by omega
    rw [encode,toNat_byte (by omega),one,two]
  · exact absurd rest (by simp)

theorem encode_of_lastTwo {p q r : Char} {bytes : List UInt8} (read : lastTwo p q r = some bytes) :
    encode bytes = [p,q,r,'='] := by
  simp only [lastTwo,Option.bind_eq_bind,Option.bind_eq_some_iff] at read
  obtain ⟨first,foundFirst,second,foundSecond,third,foundThird,rest⟩ := read
  obtain ⟨smallFirst,rfl⟩ := digit_of_value? foundFirst
  obtain ⟨smallSecond,rfl⟩ := digit_of_value? foundSecond
  obtain ⟨smallThird,rfl⟩ := digit_of_value? foundThird
  split at rest
  · injection rest with same
    subst same
    have one : (first*4+second/16)/4 = first := by omega
    have two : (first*4+second/16)%4*16+(second%16*16+third/4)/16 = second := by omega
    have three : (second%16*16+third/4)%16*4 = third := by omega
    rw [encode,toNat_byte (by omega),toNat_byte (by omega),one,two,three]
  · exact absurd rest (by simp)

theorem encode_of_group {p q r s : Char} {bytes : List UInt8} (read : group p q r s = some bytes)
    (rest : List UInt8) : encode (bytes ++ rest) = p :: q :: r :: s :: encode rest := by
  simp only [group,Option.bind_eq_bind,Option.bind_eq_some_iff] at read
  obtain ⟨first,foundFirst,second,foundSecond,third,foundThird,fourth,foundFourth,same⟩ := read
  obtain ⟨smallFirst,rfl⟩ := digit_of_value? foundFirst
  obtain ⟨smallSecond,rfl⟩ := digit_of_value? foundSecond
  obtain ⟨smallThird,rfl⟩ := digit_of_value? foundThird
  obtain ⟨smallFourth,rfl⟩ := digit_of_value? foundFourth
  injection same with same
  subst same
  have one : (first*4+second/16)/4 = first := by omega
  have two : (first*4+second/16)%4*16+(second%16*16+third/4)/16 = second := by omega
  have three : (second%16*16+third/4)%16*4+(third%4*64+fourth)/64 = third := by omega
  have four : (third%4*64+fourth)%64 = fourth := by omega
  simp only [List.cons_append,List.nil_append,encode]
  rw [toNat_byte (by omega),toNat_byte (by omega),toNat_byte (by omega),one,two,three,four]

/-- A text is read only as the bytes that it is written from. -/
theorem encode_of_decode {text : List Char} {bytes : List UInt8} (read : decode text = some bytes) :
    encode bytes = text := by
  fun_induction decode text generalizing bytes with
  | case1 =>
    injection read with same
    rw [← same]
    rfl
  | case2 p q => exact encode_of_lastOne read
  | case3 p q r => exact encode_of_lastTwo read
  | case4 => exact absurd read (by simp)
  | case5 p q r s rest full ih =>
    simp only [Option.bind_eq_some_iff,Option.map_eq_some_iff] at read
    obtain ⟨first,here,others,later,same⟩ := read
    rw [← same,encode_of_group here,ih later]
  | case6 => exact absurd read (by simp)
  | case7 => exact absurd read (by simp)
  | case8 => exact absurd read (by simp)

/-- Reading accepts exactly what writing produces. -/
theorem decode_eq_some_iff {text : List Char} {bytes : List UInt8} :
    decode text = some bytes ↔ text = encode bytes :=
  ⟨fun read => (encode_of_decode read).symm,fun same => same ▸ decode_encode bytes⟩

end StackBroker.Base64
