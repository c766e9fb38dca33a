import StackBroker.Http.Credentials
import StackBroker.Http.Message
import StackBroker.Text.Base64.Exact
import StackBroker.Text.Utf8.Exact

/-!
# Exact credentials

Which header values carry which credentials. A text is cut at its first separator
(`splitAt?_eq_some_iff`), so a value carries a username and a password exactly if it is
the word of the scheme and the Base64 of both, and no colon is in the username
(`ofHeader?_eq_some_iff`). What is written for credentials is visible
(`visibleText?_header`) and is read back, unless the username has a colon
(`ofHeader?_header`).
-/
namespace StackBroker.Http
open StackBroker.Text

/-! ### Visible bytes -/

/-- The characters that a header may show, tabs apart. -/
def isGraphic (c : Char) : Bool := 0x20 ≤ c.toNat && c.toNat < 0x7F

theorem isGraphic_iff {c : Char} : isGraphic c = true ↔ 0x20 ≤ c.toNat ∧ c.toNat < 0x7F := by
  simp [isGraphic]

theorem encodeChar_graphic {c : Char} (graphic : isGraphic c = true) : Utf8.encodeChar c = [UInt8.ofNat c.toNat] := by
  have small : c.toNat < 0x80 := Nat.lt_succ_of_lt (isGraphic_iff.mp graphic).2
  simp [Utf8.encodeChar,small]

theorem encodeChars_graphic {chars : List Char} (graphic : ∀ c ∈ chars, isGraphic c = true) :
    Utf8.encodeChars chars = chars.map fun c => UInt8.ofNat c.toNat := by
  induction chars with
  | nil => rfl
  | cons c rest ih =>
    obtain ⟨first,others⟩ := List.forall_mem_cons.mp graphic
    rw [Utf8.encodeChars,List.flatMap_cons,encodeChar_graphic first,← Utf8.encodeChars,ih others]
    rfl

/-- Text of graphic characters is read as it was sent. -/
theorem visibleText?_encode {text : String} (graphic : ∀ c ∈ text.toList, isGraphic c = true) :
    visibleText? (Utf8.encode text) = some text := by
  have byte : ∀ c ∈ text.toList, (UInt8.ofNat c.toNat).toNat = c.toNat := by
    intro c member
    have range := isGraphic_iff.mp (graphic c member)
    rw [UInt8.toNat_ofNat',Nat.mod_eq_of_lt (by omega)]
  have shown : ((text.toList.map fun c => UInt8.ofNat c.toNat).all fun byte =>
      (0x20 ≤ byte && byte < 0x7F) || byte == 0x09) = true := by
    rw [List.all_map,List.all_eq_true]
    intro c member
    have range := isGraphic_iff.mp (graphic c member)
    simp [UInt8.le_iff_toNat_le,UInt8.lt_iff_toNat_lt,byte c member,range]
  have back : (text.toList.map fun c => UInt8.ofNat c.toNat).map (fun byte => Char.ofNat byte.toNat) = text.toList := by
    rw [List.map_map]
    refine (List.map_congr_left fun c member => ?_).trans (List.map_id _)
    rw [Function.comp_apply,byte c member,Char.ofNat_toNat,id]
  rw [visibleText?,Utf8.encode,encodeChars_graphic graphic,if_pos shown,back,String.ofList_toList]

namespace Credentials

/-! ### Cuts -/

/-- A text is cut at a separator that is not in the part before it. -/
theorem splitAt?_eq_some_iff {separator : Char} {chars before after : List Char} :
    splitAt? separator chars = some (before,after) ↔ chars = before ++ separator :: after ∧ separator ∉ before := by
  induction chars generalizing before with
  | nil => simp [splitAt?]
  | cons c rest ih =>
    rw [splitAt?]
    by_cases here : c = separator
    · subst here
      cases before with
      | nil => simp [eq_comm]
      | cons first others =>
        simp only [if_true,Option.some.injEq,Prod.mk.injEq,List.cons_append,List.cons.injEq,List.mem_cons,not_or]
        constructor
        · rintro ⟨none,-⟩
          cases none
        · rintro ⟨⟨same,-⟩,differ,-⟩
          exact absurd same differ
    · cases before with
      | nil => simp [here]
      | cons first others =>
        have next := @ih others
        simp only [if_neg here,Option.map_eq_some_iff,Prod.exists,Prod.mk.injEq,List.cons.injEq,List.cons_append,
          List.mem_cons,not_or]
        constructor
        · rintro ⟨cut,tail,found,⟨rfl,rfl⟩,rfl⟩
          obtain ⟨split,none⟩ := next.mp found
          exact ⟨⟨rfl,split⟩,fun same => here same.symm,none⟩
        · rintro ⟨⟨rfl,split⟩,-,none⟩
          exact ⟨others,after,next.mpr ⟨split,none⟩,⟨rfl,rfl⟩,rfl⟩

/-- A username and a password are read from what joins them by a colon, unless the
    colon is not the first. -/
theorem splitAt?_joined {text : String} {credentials : Credentials} :
    splitAt? ':' text.toList = some (credentials.username.toList,credentials.password.toList) ↔
      text = credentials.username ++ ":" ++ credentials.password ∧ ':' ∉ credentials.username.toList := by
  rw [splitAt?_eq_some_iff]
  refine and_congr_left fun _ => ?_
  rw [← String.toList_inj,String.toList_append,String.toList_append,List.append_assoc]
  rfl

/-! ### Values of headers -/

/-- A value carries credentials exactly if it is, but for blanks around its parts, the
    word of the scheme and the canonical Base64 of the username, a colon and the
    password, and the username has no colon. -/
theorem ofHeader?_eq_some_iff {value : String} {credentials : Credentials} :
    ofHeader? value = some credentials ↔ ∃ scheme encoded, trim value.toList = scheme ++ ' ' :: encoded ∧
      ' ' ∉ scheme ∧ isBasic scheme = true ∧
      trim encoded = Base64.encode (Utf8.encode (credentials.username ++ ":" ++ credentials.password)) ∧
      ':' ∉ credentials.username.toList := by
  have joined (text : String) : (∃ before after, splitAt? ':' text.toList = some (before,after) ∧
      some (⟨String.ofList before,String.ofList after⟩ : Credentials) = some credentials) ↔
      splitAt? ':' text.toList = some (credentials.username.toList,credentials.password.toList) := by
    constructor
    · rintro ⟨before,after,found,same⟩
      cases same
      simpa only [String.toList_ofList] using found
    · intro found
      exact ⟨_,_,found,by simp only [String.ofList_toList]⟩
  simp only [ofHeader?,Option.bind_eq_bind,Option.bind_eq_some_iff,Prod.exists]
  refine exists_congr fun scheme => exists_congr fun encoded => ?_
  rw [splitAt?_eq_some_iff,and_assoc]
  refine and_congr_right fun _ => and_congr_right fun _ => ?_
  cases isBasic scheme with
  | false => simp
  | true =>
    simp only [if_true,true_and,Option.bind_eq_some_iff,Prod.exists,joined,splitAt?_joined,
      Base64.decode_eq_some_iff,Utf8.decodeStrict_eq_some_iff]
    constructor
    · rintro ⟨bytes,written,text,rfl,rfl,plain⟩
      exact ⟨written,plain⟩
    · rintro ⟨written,plain⟩
      exact ⟨_,written,_,rfl,rfl,plain⟩

/-! ### The header that is written -/

theorem isGraphic_digit {value : Nat} (small : value < 64) :
    isGraphic (Base64.digit value) = true ∧ isBlank (Base64.digit value) = false := by
  have all : ∀ value : Fin 64, isGraphic (Base64.digit value) = true ∧ isBlank (Base64.digit value) = false := by
    decide +kernel
  exact all ⟨value,small⟩

/-- Base64 is graphic, without blanks. -/
theorem isGraphic_encode {bytes : List UInt8} {c : Char} (member : c ∈ Base64.encode bytes) :
    isGraphic c = true ∧ isBlank c = false := by
  rcases Base64.mem_encode member with rfl | ⟨value,small,rfl⟩
  · decide
  · exact isGraphic_digit small

theorem toList_header (credentials : Credentials) : credentials.header.toList = "Basic".toList ++ ' ' ::
    Base64.encode (Utf8.encode (credentials.username ++ ":" ++ credentials.password)) := by
  have word : "Basic ".toList = "Basic".toList ++ [' '] := by decide
  have written : credentials.header.toList = "Basic ".toList ++
      Base64.encode (Utf8.encode (credentials.username ++ ":" ++ credentials.password)) := String.toList_ofList
  rw [written,word,List.append_assoc,List.singleton_append]

theorem visibleText?_header (credentials : Credentials) :
    visibleText? (Utf8.encode credentials.header) = some credentials.header := by
  refine visibleText?_encode fun c member => ?_
  rw [toList_header,List.mem_append,List.mem_cons] at member
  rcases member with word | rfl | encoded
  · exact List.all_eq_true.mp (rfl : "Basic".toList.all isGraphic = true) c word
  · decide
  · exact (isGraphic_encode encoded).1

theorem joined_ne_nil (credentials : Credentials) :
    Utf8.encode (credentials.username ++ ":" ++ credentials.password) ≠ [] := by
  intro none
  have back := Utf8.decodeStrict_encode (credentials.username ++ ":" ++ credentials.password)
  rw [none] at back
  have empty : "" = credentials.username ++ ":" ++ credentials.password := Option.some.inj back
  simpa [String.toList_append] using congrArg String.toList empty

/-- The header that is written for credentials carries them, unless the username has
    a colon. -/
theorem ofHeader?_header {credentials : Credentials} :
    ofHeader? credentials.header = some credentials ↔ ':' ∉ credentials.username.toList := by
  have filled := Base64.encode_ne_nil (joined_ne_nil credentials)
  have plain : ∀ c ∈ Base64.encode (Utf8.encode (credentials.username ++ ":" ++ credentials.password)),
      isBlank c = false := fun c member => (isGraphic_encode member).2
  have encoded : trim (Base64.encode (Utf8.encode (credentials.username ++ ":" ++ credentials.password))) =
      Base64.encode (Utf8.encode (credentials.username ++ ":" ++ credentials.password)) :=
    trim_eq_self (fun c first => plain c (List.mem_of_mem_head? first)) fun c last => plain c (List.mem_of_getLast? last)
  have whole : trim credentials.header.toList = credentials.header.toList := by
    rw [toList_header]
    refine trim_eq_self (fun c first => ?_) fun c last => ?_
    · cases first
      decide
    · rw [List.append_cons,List.getLast?_append,List.getLast?_eq_some_getLast filled,Option.some_or] at last
      cases last
      exact plain _ (List.getLast_mem filled)
  rw [ofHeader?_eq_some_iff,whole]
  constructor
  · rintro ⟨-,-,-,-,-,-,colonless⟩
    exact colonless
  · intro colonless
    exact ⟨"Basic".toList,_,toList_header credentials,by decide,by decide,encoded,colonless⟩

end Credentials
end StackBroker.Http
