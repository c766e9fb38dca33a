import Mathlib.Algebra.Group.Nat.Defs
import StackBroker.Cuts
import StackBroker.Text.Base64.Exact

/-!
# Base64 by its bits

The padded standard Base64 of some bytes, said without groups: the bits of its digits, six
for each, are the bits of the bytes and as many zeros as the last digit needs, and padding
completes the last four characters (`Spells`). There is one such text for any bytes
(`spells_iff`), and its length, its characters and the bits of its last digit are
recognized without reading it.
-/
namespace StackBroker.Base64

/-- The digits in the order of their values. -/
def alphabet : List Char := "ABCDEFGHIJKLMNOPQRSTUVWXYZabcdefghijklmnopqrstuvwxyz0123456789+/".toList

theorem alphabet_digit {value : Nat} (small : value < 64) : alphabet.getD value '=' = digit value := by
  have all : ∀ value : Fin 64, alphabet.getD value '=' = digit value := by decide +kernel
  exact all ⟨value,small⟩

/-- The lowest bits of a number, the highest of them first. -/
def bits : Nat → Nat → List Nat
  | 0,_ => []
  | width+1,value => value/2^width%2 :: bits width value

theorem length_bits (width value : Nat) : (bits width value).length = width := by
  induction width with
  | zero => rfl
  | succ width ih => rw [bits,List.length_cons,ih]

theorem length_flatMap {α : Type} {write : α → List Nat} {width : Nat} (same : ∀ item, (write item).length = width)
    (items : List α) : (items.flatMap write).length = width*items.length := by
  induction items with
  | nil => rfl
  | cons item rest ih => rw [List.flatMap_cons,List.length_append,same,ih,List.length_cons,Nat.mul_succ,Nat.add_comm]

theorem value_of_bits {one other : Nat} (small : one < 64) (otherSmall : other < 64) (same : bits 6 one = bits 6 other) :
    one = other := by
  simp only [bits,List.cons.injEq,Nat.reducePow] at same
  omega

theorem values_of_bits {one other : List Nat} (small : ∀ value ∈ one, value < 64) (otherSmall : ∀ value ∈ other, value < 64)
    (same : one.flatMap (bits 6) = other.flatMap (bits 6)) : one = other := by
  induction one generalizing other with
  | nil =>
    cases other with
    | nil => rfl
    | cons _ _ => cases same
  | cons value rest ih =>
    cases other with
    | nil => cases same
    | cons otherValue others =>
      obtain ⟨first,later⟩ := List.forall_mem_cons.mp small
      obtain ⟨otherFirst,otherLater⟩ := List.forall_mem_cons.mp otherSmall
      obtain ⟨head,tail⟩ := List.append_inj same (by rw [length_bits,length_bits])
      rw [value_of_bits first otherFirst head,ih later otherLater tail]

/-! ### Spelling -/

/-- Values of digits and a number of padding characters that spell some bytes. -/
structure Spelling (values : List Nat) (padding : Nat) (bytes : List UInt8) : Prop where
  small : ∀ value ∈ values, value < 64
  filled : ∃ zeros < 6, values.flatMap (bits 6) =
    (bytes.flatMap fun byte => bits 8 byte.toNat) ++ List.replicate zeros 0
  padded : padding < 4 ∧ (values.length+padding)%4 = 0

/-- The text of digits and padding. -/
def spelled (values : List Nat) (padding : Nat) : List Char :=
  (values.map fun value => alphabet.getD value '=') ++ List.replicate padding '='

/-- A text is the padded standard Base64 of some bytes. -/
def Spells (text : List Char) (bytes : List UInt8) : Prop :=
  ∃ values padding, text = spelled values padding ∧ Spelling values padding bytes

variable {values otherValues : List Nat} {padding otherPadding : Nat} {bytes : List UInt8} {text : List Char}

theorem spelled_eq (small : ∀ value ∈ values, value < 64) (padding : Nat) :
    spelled values padding = values.map digit ++ List.replicate padding '=' := by
  rw [spelled,List.map_congr_left fun value member => alphabet_digit (small value member)]

/-- Digits are told from padding, and from each other. -/
theorem spelled_injective (small : ∀ value ∈ values, value < 64) (otherSmall : ∀ value ∈ otherValues, value < 64)
    (same : spelled values padding = spelled otherValues otherPadding) : values = otherValues ∧ padding = otherPadding := by
  have cuts {values : List Nat} (small : ∀ value ∈ values, value < 64) (padding : Nat) :
      Cuts (· != '=') (spelled values padding) (values.map digit) (List.replicate padding '=') := by
    refine ⟨spelled_eq small padding,?_,fun c first => ?_⟩
    · intro c member
      obtain ⟨value,inside,rfl⟩ := List.mem_map.mp member
      exact bne_iff_ne.mpr (digit_ne_padding (small value inside))
    · have mark := List.eq_of_mem_replicate (List.mem_of_mem_head? first)
      simp [mark]
  have back {values : List Nat} (small : ∀ value ∈ values, value < 64) : (values.map digit).map value? = values.map some := by
    rw [List.map_map]
    exact List.map_congr_left fun value member => value?_digit (small value member)
  have one := cuts small padding
  rw [same] at one
  obtain ⟨digits,marks⟩ := one.unique (cuts otherSmall otherPadding)
  constructor
  · have read := congrArg (List.map value?) digits
    rw [back small,back otherSmall] at read
    exact (List.map_inj_right fun _ _ => Option.some.inj).mp read
  · simpa using congrArg List.length marks

/-- The digits leave as many bits over as there are padding characters, twice. -/
theorem Spelling.zeros (spelling : Spelling values padding bytes) : padding < 3 ∧ 6*values.length = 8*bytes.length+2*padding ∧
    values.flatMap (bits 6) = (bytes.flatMap fun byte => bits 8 byte.toNat) ++ List.replicate (2*padding) 0 := by
  obtain ⟨-,⟨zeros,few,filled⟩,less,whole⟩ := spelling
  have lengths := congrArg List.length filled
  rw [length_flatMap (length_bits 6),List.length_append,length_flatMap fun byte : UInt8 => length_bits 8 byte.toNat,
    List.length_replicate] at lengths
  obtain rfl : zeros = 2*padding := by omega
  exact ⟨by omega,lengths,filled⟩

theorem Spelling.unique (one : Spelling values padding bytes) (other : Spelling otherValues otherPadding bytes) :
    values = otherValues ∧ padding = otherPadding := by
  obtain ⟨few,lengths,filled⟩ := one.zeros
  obtain ⟨otherFew,otherLengths,otherFilled⟩ := other.zeros
  obtain rfl : padding = otherPadding := by omega
  exact ⟨values_of_bits one.small other.small (filled.trans otherFilled.symm),rfl⟩

/-- The bits that the last digit has left over are zero. -/
theorem Spelling.last_multiple (spelling : Spelling values padding bytes) {last : Nat} (found : values.getLast? = some last) :
    last%4^padding = 0 := by
  obtain ⟨few,-,filled⟩ := spelling.zeros
  obtain ⟨front,rfl⟩ := List.getLast?_eq_some_iff.mp found
  have ending : (bits 6 last).drop (6-2*padding) = List.replicate (2*padding) 0 := by
    have whole : front.flatMap (bits 6) ++ (bits 6 last).take (6-2*padding) ++ (bits 6 last).drop (6-2*padding) =
        (bytes.flatMap fun byte => bits 8 byte.toNat) ++ List.replicate (2*padding) 0 := by
      rw [List.append_assoc,List.take_append_drop,← filled,List.flatMap_append,List.flatMap_singleton]
    refine (List.append_inj' whole ?_).2
    rw [List.length_drop,length_bits,List.length_replicate]
    omega
  have cases : padding = 0 ∨ padding = 1 ∨ padding = 2 := by omega
  rcases cases with rfl | rfl | rfl
  · exact Nat.mod_one last
  · simp only [bits,Nat.reducePow,Nat.reduceMul,Nat.reduceSub,List.drop_succ_cons,List.drop_zero,List.replicate,
      List.cons.injEq,and_true] at ending
    omega
  · simp only [bits,Nat.reducePow,Nat.reduceMul,Nat.reduceSub,List.drop_succ_cons,List.drop_zero,List.replicate,
      List.cons.injEq,and_true] at ending
    omega

/-- Four digits have the bits of three bytes. -/
theorem bits_group (a : Nat) {b c : Nat} (second : b < 256) (third : c < 256) :
    bits 6 (a/4) ++ (bits 6 (a%4*16+b/16) ++ (bits 6 (b%16*4+c/64) ++ bits 6 (c%64))) =
      bits 8 a ++ (bits 8 b ++ bits 8 c) := by
  simp only [bits,List.cons_append,List.nil_append,List.cons.injEq,Nat.reducePow,and_true]
  and_intros <;> omega

theorem Spelling.group (a b c : UInt8) (spelling : Spelling values padding bytes) :
    Spelling (a.toNat/4 :: (a.toNat%4*16+b.toNat/16) :: (b.toNat%16*4+c.toNat/64) :: c.toNat%64 :: values) padding
      (a :: b :: c :: bytes) := by
  have first := a.toNat_lt
  have second := b.toNat_lt
  have third := c.toNat_lt
  obtain ⟨small,⟨zeros,few,filled⟩,less,whole⟩ := spelling
  refine ⟨?_,⟨zeros,few,?_⟩,less,?_⟩
  · simp only [List.forall_mem_cons]
    exact ⟨by omega,by omega,by omega,by omega,small⟩
  · have group := congrArg (· ++ ((bytes.flatMap fun byte => bits 8 byte.toNat) ++ List.replicate zeros 0))
      (bits_group a.toNat second third)
    simpa only [List.flatMap_cons,filled,List.append_assoc] using group
  · simp only [List.length_cons]
    omega

/-- What is written for some bytes is spelled by its digits. -/
theorem exists_spelling (bytes : List UInt8) : ∃ values padding,
    encode bytes = values.map digit ++ List.replicate padding '=' ∧ Spelling values padding bytes := by
  fun_induction encode bytes with
  | case1 => exact ⟨[],0,rfl,⟨List.forall_mem_nil _,⟨0,by decide,rfl⟩,by decide⟩⟩
  | case2 a =>
    have range := a.toNat_lt
    refine ⟨[a.toNat/4,a.toNat%4*16],2,rfl,⟨?_,⟨4,by decide,?_⟩,by decide,by simp⟩⟩
    · simp only [List.forall_mem_cons]
      exact ⟨by omega,by omega,List.forall_mem_nil _⟩
    · simp only [List.flatMap_cons,List.flatMap_nil,bits,List.cons_append,List.nil_append,List.replicate,List.cons.injEq,
        Nat.reducePow,and_true]
      and_intros <;> omega
  | case3 a b =>
    have first := a.toNat_lt
    have second := b.toNat_lt
    refine ⟨[a.toNat/4,a.toNat%4*16+b.toNat/16,b.toNat%16*4],1,rfl,⟨?_,⟨2,by decide,?_⟩,by decide,by simp⟩⟩
    · simp only [List.forall_mem_cons]
      exact ⟨by omega,by omega,by omega,List.forall_mem_nil _⟩
    · simp only [List.flatMap_cons,List.flatMap_nil,bits,List.cons_append,List.nil_append,List.replicate,List.cons.injEq,
        Nat.reducePow,and_true]
      and_intros <;> omega
  | case4 a b c rest ih =>
    obtain ⟨values,padding,written,spelling⟩ := ih
    exact ⟨_,padding,by rw [written]; rfl,spelling.group a b c⟩

theorem spells_encode (bytes : List UInt8) : Spells (encode bytes) bytes := by
  obtain ⟨values,padding,written,spelling⟩ := exists_spelling bytes
  exact ⟨values,padding,by rw [written,spelled_eq spelling.small],spelling⟩

theorem spells_iff : Spells text bytes ↔ text = encode bytes := by
  constructor
  · rintro ⟨values,padding,rfl,spelling⟩
    obtain ⟨otherValues,otherPadding,written,other⟩ := spells_encode bytes
    obtain ⟨rfl,rfl⟩ := spelling.unique other
    exact written.symm
  · rintro rfl
    exact spells_encode bytes

theorem Spells.length (spells : Spells text bytes) : text.length%4 = 0 := by
  obtain ⟨values,padding,rfl,spelling⟩ := spells
  rw [spelled,List.length_append,List.length_map,List.length_replicate]
  exact spelling.padded.2

end StackBroker.Base64
