import Mathlib.Data.List.TakeWhile
import StackBroker.Http.Query
import StackBroker.Proofs.Paths
import StackBroker.Text.Utf8.Exact

/-!
Targets as callers write them. An id is written with all of its bytes as percent signs
and digits; none of these is a character that a target is cut at (`Percent.isCode_encodeText`),
and the id comes back from them, as a segment of the path (`Route.decodeSegment?_encodeText`)
and as a value of the query (`Query.pairs_assignment`). A target that begins with its path
is cut into path and query where it is meant to be (`Request.path_of_target`).
-/
namespace StackBroker.Utf8

theorem encodeChars_append (first second : List Char) :
    encodeChars (first ++ second) = encodeChars first ++ encodeChars second := List.flatMap_append

/-- A byte below the last ASCII code is its own character. -/
theorem encodeChar_byte {byte : UInt8} (ascii : byte.toNat < 0x80) : encodeChar (Char.ofNat byte.toNat) = [byte] := by
  have all : ∀ code : Fin 0x80, encodeChar (Char.ofNat code.val) = [UInt8.ofNat code.val] := by decide
  rw [all ⟨byte.toNat,ascii⟩,UInt8.ofNat_toNat]

theorem encodeChars_bytes {bytes : List UInt8} (ascii : ∀ byte ∈ bytes, byte.toNat < 0x80) :
    encodeChars (bytes.map fun byte => Char.ofNat byte.toNat) = bytes := by
  induction bytes with
  | nil => rfl
  | cons byte rest ih =>
    obtain ⟨first,others⟩ := List.forall_mem_cons.mp ascii
    have continued := ih others
    rw [encodeChars] at continued
    rw [List.map_cons,encodeChars,List.flatMap_cons,encodeChar_byte first,continued]
    rfl

end StackBroker.Utf8

namespace StackBroker.Percent

/-! ### Percent signs and digits -/

theorem hexValue?_hexDigit {value : Nat} (small : value < 16) : hexValue? (hexDigit value) = some value := by
  have all : ∀ value : Fin 16, hexValue? (hexDigit value) = some value.val := by decide
  exact all ⟨value,small⟩

theorem decode_encode (bytes : List UInt8) : decode (encode bytes) = bytes := by
  induction bytes with
  | nil => rfl
  | cons byte rest ih =>
    have bound := byte.toNat_lt
    have read : pair? (hexDigit (byte.toNat/16)) (hexDigit (byte.toNat%16)) = some byte := by
      rw [pair?,hexValue?_hexDigit (by omega),hexValue?_hexDigit (by omega)]
      show some (UInt8.ofNat (byte.toNat/16*16+byte.toNat%16)) = some byte
      rw [show byte.toNat/16*16+byte.toNat%16 = byte.toNat by omega,UInt8.ofNat_toNat]
    rw [encode,decode,if_pos rfl,read]
    exact congrArg _ ih

/-- The characters that ids are written with. -/
def isCode (c : Char) : Bool := c == '%' || c.isDigit || ('A' ≤ c && c ≤ 'F')

theorem isCode_encode (bytes : List UInt8) :
    ∀ byte ∈ encode bytes, byte.toNat < 0x80 ∧ isCode (Char.ofNat byte.toNat) = true := by
  have digits : ∀ value : Fin 16, (hexDigit value).toNat < 0x80 ∧ isCode (Char.ofNat (hexDigit value).toNat) = true := by
    decide
  induction bytes with
  | nil => exact List.forall_mem_nil _
  | cons byte rest ih =>
    have bound := byte.toNat_lt
    simp only [encode,List.forall_mem_cons]
    exact ⟨by decide,digits ⟨byte.toNat/16,by omega⟩,digits ⟨byte.toNat%16,by omega⟩,ih⟩

theorem isCode_encodeText {text : String} : ∀ c ∈ (encodeText text).toList, isCode c = true := by
  intro c member
  rw [encodeText,String.toList_ofList] at member
  obtain ⟨byte,inside,rfl⟩ := List.mem_map.mp member
  exact (isCode_encode _ byte inside).2

/-- A character that ids are not written with is in no written id. -/
theorem not_mem_encodeText {text : String} {c : Char} (other : isCode c = false) : c ∉ (encodeText text).toList :=
  fun member => by simp [isCode_encodeText c member] at other

theorem encodeChars_encodeText (text : String) :
    Utf8.encodeChars (encodeText text).toList = encode (Utf8.encode text) := by
  rw [encodeText,String.toList_ofList]
  exact Utf8.encodeChars_bytes fun byte member => (isCode_encode _ byte member).1

theorem encodeText_ne_nil {text : String} (filled : text ≠ "") : (encodeText text).toList ≠ [] := by
  intro none
  have back : Utf8.decodeStrict (decode (Utf8.encodeChars (encodeText text).toList)) = some text := by
    rw [encodeChars_encodeText,decode_encode,Utf8.decodeStrict_encode]
  rw [none] at back
  exact filled (Option.some.inj back).symm

end StackBroker.Percent

namespace StackBroker.Http

/-! ### Paths -/

theorem Route.decodeSegment?_encodeText (text : String) : decodeSegment? (Percent.encodeText text).toList = some text := by
  rw [decodeSegment?,Percent.encodeChars_encodeText,Percent.decode_encode,Utf8.decodeStrict_encode]

namespace Request
variable {request : Request} {path query : List Char}

theorem all_ne_of_not_mem {mark : Char} {chars : List Char} (absent : mark ∉ chars) : ∀ c ∈ chars, (c != mark) = true :=
  fun _ member => bne_iff_ne.mpr fun same => absent (same ▸ member)

/-- Characters are cut where a mark comes for the first time. -/
theorem cut_at {mark : Char} {before : List Char} (absent : mark ∉ before) (after : List Char) :
    (before ++ mark :: after).takeWhile (· != mark) = before ∧
      (before ++ mark :: after).dropWhile (· != mark) = mark :: after := by
  have passed := all_ne_of_not_mem absent
  constructor
  · rw [List.takeWhile_append_of_pos passed,List.takeWhile_cons_of_neg (by simp),List.append_nil]
  · rw [List.dropWhile_append_of_pos passed,List.dropWhile_cons_of_neg (by simp)]

theorem located_of_target {target : List Char} (slash : ∃ rest, target = '/' :: rest) (whole : '#' ∉ target)
    (same : request.target.toList = target) : request.located = target := by
  obtain ⟨rest,rfl⟩ := slash
  rw [located,same,List.takeWhile_eq_self_iff.mpr (all_ne_of_not_mem whole)]
  rfl

/-- The path and the query of a target are what stands before and after its question
    mark. -/
theorem path_of_target (slash : ∃ rest, path = '/' :: rest) (bare : '?' ∉ path) (whole : '#' ∉ path ++ '?' :: query)
    (same : request.target.toList = path ++ '?' :: query) : request.path = path ∧ request.query = query := by
  have located : request.located = path ++ '?' :: query := by
    refine located_of_target ?_ whole same
    obtain ⟨rest,rfl⟩ := slash
    exact ⟨_,rfl⟩
  obtain ⟨before,after⟩ := cut_at bare query
  rw [Request.path,Request.query,located,before,after]
  exact ⟨rfl,rfl⟩

theorem path_of_bare_target (slash : ∃ rest, path = '/' :: rest) (bare : '?' ∉ path) (whole : '#' ∉ path)
    (same : request.target.toList = path) : request.path = path := by
  rw [Request.path,located_of_target slash whole same,List.takeWhile_eq_self_iff.mpr (all_ne_of_not_mem bare)]

end Request

end StackBroker.Http

namespace StackBroker.Form

/-! ### Forms -/

theorem splitAll_ne_nil (separator : UInt8) (bytes : List UInt8) : splitAll separator bytes ≠ [] := by
  cases bytes with
  | nil => simp [splitAll]
  | cons byte rest =>
    rw [splitAll]
    split
    · exact List.cons_ne_nil _ _
    · split <;> exact List.cons_ne_nil _ _

theorem splitAll_append (separator : UInt8) (first second : List UInt8) :
    splitAll separator (first ++ separator :: second) = splitAll separator first ++ splitAll separator second := by
  induction first with
  | nil => simp [splitAll]
  | cons byte rest ih =>
    rw [List.cons_append,splitAll,splitAll,ih]
    by_cases same : byte = separator
    · simp [same]
    · cases pieces : splitAll separator rest with
      | nil => exact absurd pieces (splitAll_ne_nil separator rest)
      | cons piece others => simp [same]

theorem splitAll_of_not_mem {separator : UInt8} {bytes : List UInt8} (absent : separator ∉ bytes) :
    splitAll separator bytes = [bytes] := by
  induction bytes with
  | nil => rfl
  | cons byte rest ih =>
    rw [List.mem_cons,not_or] at absent
    rw [splitAll,if_neg (Ne.symm absent.1),ih absent.2]

/-- The pairs of two forms that an ampersand joins are those of the first and those of
    the second. -/
theorem pairs_append (first second : List UInt8) : pairs (first ++ 0x26 :: second) = pairs first ++ pairs second := by
  rw [pairs,splitAll_append,List.filter_append,List.map_append]
  rfl

/-- A name, an equals sign and a value are one pair. -/
theorem pairs_assignment {name value : List UInt8} (plain : 0x26 ∉ name ∧ 0x3D ∉ name) (whole : 0x26 ∉ value) :
    pairs (name ++ 0x3D :: value) = [(component name,component value)] := by
  have single : 0x26 ∉ name ++ 0x3D :: value := by simpa using ⟨plain.1,whole⟩
  have filled : (name ++ 0x3D :: value).isEmpty = false := by cases name <;> rfl
  have passed : ∀ byte ∈ name, (byte != 0x3D) = true :=
    fun _ member => bne_iff_ne.mpr fun same => plain.2 (same ▸ member)
  have split : splitOnce 0x3D (name ++ 0x3D :: value) = (name,value) := by
    rw [splitOnce,List.takeWhile_append_of_pos passed,List.dropWhile_append_of_pos passed]
    simp
  rw [pairs,splitAll_of_not_mem single,List.filter_cons_of_pos (by simp [filled]),List.filter_nil,List.map_singleton,
    split]

theorem component_encode (text : String) : component (Percent.encode (Utf8.encode text)) = text := by
  have spaceless : ∀ byte ∈ Percent.encode (Utf8.encode text), (if byte = 0x2B then 0x20 else byte) = byte := by
    intro byte member
    rw [if_neg]
    rintro rfl
    exact absurd (Percent.isCode_encode _ _ member).2 (by decide)
  rw [component,List.map_congr_left spaceless,List.map_id',Percent.decode_encode,Utf8.decodeLossy_encode]

end StackBroker.Form

namespace StackBroker.Http.Query

/-! ### Queries -/

/-- An assignment of an encoded value, after whatever comes before it. -/
def assignment (name value : String) : String := "&" ++ name ++ "=" ++ Percent.encodeText value

/-- The names of the interface have no characters of their own meaning. -/
structure Named (name : String) : Prop where
  plain : 0x26 ∉ Utf8.encodeChars name.toList ∧ 0x3D ∉ Utf8.encodeChars name.toList
  component : Form.component (Utf8.encodeChars name.toList) = name

theorem pairs_assignment {name : String} (named : Named name) (query : List Char) (value : String) :
    pairs (query ++ (assignment name value).toList) = pairs query ++ [(name,value)] := by
  have bytes : Utf8.encodeChars (query ++ (assignment name value).toList) = Utf8.encodeChars query ++ 0x26 ::
      (Utf8.encodeChars name.toList ++ 0x3D :: Percent.encode (Utf8.encode value)) := by
    have chars : (assignment name value).toList = "&".toList ++ (name.toList ++ ("=".toList ++
        (Percent.encodeText value).toList)) := by simp [assignment]
    rw [chars]
    simp only [Utf8.encodeChars_append,Percent.encodeChars_encodeText]
    rfl
  have whole : 0x26 ∉ Percent.encode (Utf8.encode value) := fun member =>
    absurd (Percent.isCode_encode _ _ member).2 (by decide)
  rw [pairs,bytes,Form.pairs_append,Form.pairs_assignment named.plain whole,named.component,Form.component_encode]
  rfl

/-! ### Truth values and texts of a query -/

theorem valuesOf_append (name : String) (first second : List (String × String)) :
    valuesOf name (first ++ second) = valuesOf name first ++ valuesOf name second := by
  rw [valuesOf,List.filter_append,List.map_append]
  rfl

end StackBroker.Http.Query
