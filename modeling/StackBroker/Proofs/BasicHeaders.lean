import StackBroker.Http.Credentials.Exact
import StackBroker.Proofs.Validation
import StackBroker.Text.Base64.Bits

/-!
Which header values carry credentials. A value bears one text at most after the word of the
scheme (`Bears.unique`), and it carries a username and a password exactly if that text is the
padded Base64 of both and of the colon between them (`ofHeader?_iff_bears`). So every other
spelling is refused: padding that is missing, bits left over that are not zero, blanks inside,
and bytes that are no text (`basic_headers_exact`).
-/
namespace StackBroker.Http.Credentials
open StackBroker.Text
open StackBroker.Base64 (Spells spelled)

/-- A value is the word of the scheme, in any case, and some text after the first blank, but
    for blanks at the ends of the value and of the text. -/
def Bears (value : String) (encoded : List Char) : Prop :=
  ∃ scheme rest, TrimmedTo value.toList (scheme ++ ' ' :: rest) ∧ ' ' ∉ scheme ∧
    SameButCase (String.ofList scheme) "basic" ∧ TrimmedTo rest encoded

/-- A username, a colon and a password, in bytes. -/
def pairBytes (username password : String) : List UInt8 := (username ++ ":" ++ password).toUTF8.data.toList

variable {value : String} {encoded : List Char} {credentials : Credentials}

theorem isBasic_iff {scheme : List Char} : isBasic scheme = true ↔ SameButCase (String.ofList scheme) "basic" := by
  have small : "basic".toList.map Char.toLower = "basic".toList := by decide
  simp only [isBasic,beq_iff_eq,SameButCase,String.toList_ofList,small]

theorem Bears.unique {other : List Char} (one : Bears value encoded) (another : Bears value other) : encoded = other := by
  obtain ⟨scheme,rest,kept,blankless,-,trimmed⟩ := one
  obtain ⟨otherScheme,otherRest,otherKept,otherBlankless,-,otherTrimmed⟩ := another
  have same := (trim_eq_iff.mpr kept).symm.trans (trim_eq_iff.mpr otherKept)
  have cut := splitAt?_eq_some_iff.mpr ⟨same,otherBlankless⟩
  rw [splitAt?_eq_some_iff.mpr ⟨rfl,blankless⟩] at cut
  obtain ⟨-,rfl⟩ := Prod.mk.inj (Option.some.inj cut)
  exact (trim_eq_iff.mpr trimmed).symm.trans (trim_eq_iff.mpr otherTrimmed)

/-- A value carries a username without a colon and a password exactly if it bears their
    Base64. -/
theorem ofHeader?_iff_bears : ofHeader? value = some credentials ↔ ':' ∉ credentials.username.toList ∧
    ∃ encoded, Bears value encoded ∧ Spells encoded (pairBytes credentials.username credentials.password) := by
  rw [ofHeader?_eq_some_iff]
  constructor
  · rintro ⟨scheme,rest,kept,blankless,basic,written,colonless⟩
    rw [Utf8.encode_eq] at written
    exact ⟨colonless,_,⟨scheme,rest,trim_eq_iff.mp kept,blankless,isBasic_iff.mp basic,trimmedTo_trim rest⟩,
      Base64.spells_iff.mpr written⟩
  · rintro ⟨colonless,encoded,⟨scheme,rest,kept,blankless,basic,trimmed⟩,spells⟩
    refine ⟨scheme,rest,trim_eq_iff.mpr kept,blankless,isBasic_iff.mpr basic,?_,colonless⟩
    rw [trim_eq_iff.mpr trimmed,Utf8.encode_eq]
    exact Base64.spells_iff.mp spells

/-- A value is refused if the text that it bears is the Base64 of no pair. -/
theorem ofHeader?_eq_none (bears : Bears value encoded)
    (foreign : ∀ username password, ¬ Spells encoded (pairBytes username password)) : ofHeader? value = none := by
  rw [Option.eq_none_iff_forall_ne_some]
  intro credentials found
  obtain ⟨-,other,borne,spells⟩ := ofHeader?_iff_bears.mp found
  rw [bears.unique borne] at foreign
  exact foreign _ _ spells

/-- The header values that carry credentials, and those that carry none for the way in which
    their text is spelled. -/
structure BasicHeadersExact : Prop where
  carried : ∀ value username password, ofHeader? value = some ⟨username,password⟩ ↔ ':' ∉ username.toList ∧
    ∃ encoded, Bears value encoded ∧ Spells encoded (pairBytes username password)
  single : ∀ value one other, Bears value one → Bears value other → one = other
  standard : ∀ username password encoded, ':' ∉ username.toList → Spells encoded (pairBytes username password) →
    ofHeader? (String.ofList ("Basic ".toList ++ encoded)) = some ⟨username,password⟩
  unpadded : ∀ value encoded, Bears value encoded → encoded.length%4 ≠ 0 → ofHeader? value = none
  leftOver : ∀ value values padding last, Bears value (spelled values padding) → (∀ digit ∈ values, digit < 64) →
    values.getLast? = some last → last%4^padding ≠ 0 → ofHeader? value = none
  blank : ∀ value encoded, Bears value encoded → (∃ c ∈ encoded, isBlank c = true) → ofHeader? value = none
  garbled : ∀ value encoded bytes, Bears value encoded → Spells encoded bytes →
    (∀ text : String, text.toUTF8.data.toList ≠ bytes) → ofHeader? value = none

theorem basic_headers_exact : BasicHeadersExact where
  carried value username password := ofHeader?_iff_bears
  single value one other := Bears.unique
  standard username password encoded colonless spells := by
    have word : "Basic ".toList = "Basic".toList ++ [' '] := by decide
    have own : String.ofList ("Basic ".toList ++ encoded) = header ⟨username,password⟩ := by
      rw [← String.toList_inj,toList_header,Utf8.encode_eq,String.toList_ofList,Base64.spells_iff.mp spells,pairBytes,word,
        List.append_assoc,List.singleton_append]
    rw [own]
    exact ofHeader?_header.mpr colonless
  unpadded value encoded bears ragged :=
    ofHeader?_eq_none bears fun username password spells => ragged spells.length
  leftOver value values padding last bears small found remains := by
    refine ofHeader?_eq_none bears fun username password spells => remains ?_
    obtain ⟨others,otherPadding,same,spelling⟩ := spells
    obtain ⟨rfl,rfl⟩ := Base64.spelled_injective small spelling.small same
    exact spelling.last_multiple found
  blank value encoded bears spaced := by
    refine ofHeader?_eq_none bears fun username password spells => ?_
    obtain ⟨c,member,blank⟩ := spaced
    rw [Base64.spells_iff.mp spells] at member
    simp [(isGraphic_encode member).2] at blank
  garbled value encoded bytes bears spells foreign := by
    refine ofHeader?_eq_none bears fun username password other => foreign (username ++ ":" ++ password) ?_
    have same := (Base64.spells_iff.mp spells).symm.trans (Base64.spells_iff.mp other)
    have read := congrArg Base64.decode same
    rw [Base64.decode_encode,Base64.decode_encode] at read
    exact (Option.some.inj read).symm

theorem basic_headers_exact_leftOver : Bears "\tBASIC  YTpiZh==\n" (spelled [24,19,41,34,25,33] 2) ∧
    ofHeader? "\tBASIC  YTpiZh==\n" = none := by
  have bears : Bears "\tBASIC  YTpiZh==\n" (spelled [24,19,41,34,25,33] 2) :=
    ⟨"BASIC".toList," YTpiZh==".toList,trim_eq_iff.mp (by decide),by decide,by decide,trim_eq_iff.mp (by decide)⟩
  exact ⟨bears,basic_headers_exact.leftOver _ _ 2 33 bears (by decide) rfl (by decide)⟩

/-- The same text without bits left over. -/
example : ofHeader? "\tBASIC  YTpiZg==\n" = some ⟨"a","bf"⟩ := by decide +kernel

end StackBroker.Http.Credentials
