import StackBroker.Json.Record
import Mathlib.Data.List.Basic

/-!
Scanning undoes printing. Each character of a string is written so that the scan reads
it as one piece (`run_escapeChar`), and the pieces of a string resolve to its text
(`resolve_pieceOf`), whatever characters it has. A value comes back inside any open
containers that leave room for its own (`run_print`), and thus as a document
(`scanText_text`). Numbers are left out, since a literal ends only at the character
after it. No written form has a control character in it (`control_not_mem_print`).
-/
namespace StackBroker.Json

/-! ### Values without numbers -/

mutual
/-- A value without numbers, with containers nested at most to some depth. -/
def plain : Nat → Json → Bool
  | _,.null | _,.bool _ | _,.string _ => true
  | _,.number _ => false
  | 0,.array _ | 0,.object _ => false
  | room+1,.array items => plainItems room items
  | room+1,.object members => plainMembers room members

/-- All of some values are without numbers and nested at most to some depth. -/
def plainItems : Nat → List Json → Bool
  | _,[] => true
  | room,item :: rest => plain room item && plainItems room rest

/-- The values of all of some members are without numbers and nested at most to some
    depth. -/
def plainMembers : Nat → List (String × Json) → Bool
  | _,[] => true
  | room,(_,value) :: rest => plain room value && plainMembers room rest
end

theorem plainItems_iff {room : Nat} {items : List Json} :
    plainItems room items = true ↔ ∀ item ∈ items, item.plain room = true := by
  induction items with
  | nil => simp [plainItems]
  | cons item rest ih => simp [plainItems,ih]

theorem plainMembers_iff {room : Nat} {members : List (String × Json)} :
    plainMembers room members = true ↔ ∀ entry ∈ members, entry.2.plain room = true := by
  induction members with
  | nil => simp [plainMembers]
  | cons entry rest ih => simp [plainMembers,ih]

/-! ### Characters of a string -/

/-- The piece that the written form of a character is read as: its code unit, if it is
    a control character without a letter of its own. -/
def pieceOf (c : Char) : Piece :=
  if c.toNat < 0x20 ∧ c ∉ ['\x08','\t','\n','\x0c','\r'] then .unit c.toNat else .char c

theorem hexDigit?_hexDigit {value : Nat} (small : value < 16) : hexDigit? (hexDigit value) = some value := by
  have all : ∀ value : Fin 16, hexDigit? (hexDigit value) = some value.val := by decide
  exact all ⟨value,small⟩

theorem resolve_unit {code : Nat} (small : code < 0xD800) (rest : List Piece) :
    resolve (.unit code :: rest) = (resolve rest).map (Char.ofNat code :: ·) := by
  have first : isHigh code = false := by simpa [isHigh] using fun above => absurd above (by omega)
  have second : isLow code = false := by simpa [isLow] using fun above => absurd above (by omega)
  cases rest with
  | nil => simp [resolve,first,second]
  | cons piece later => cases piece <;> simp [resolve,first,second]

/-- The pieces of a text resolve to it. -/
theorem resolve_pieceOf (chars : List Char) : resolve (chars.map pieceOf) = some chars := by
  induction chars with
  | nil => rfl
  | cons c rest ih =>
    rw [List.map_cons,pieceOf]
    split
    · rename_i control
      rw [resolve_unit (by omega),ih,Option.map_some,Char.ofNat_toNat]
    · rw [resolve,ih,Option.map_some]

namespace Scanner

theorem run_cons (state : Scanner) (c : Char) (rest : List Char) :
    state.run ((c :: rest).map some) = (state.step (some c)).run (rest.map some) := rfl

theorem run_append (state : Scanner) (first second : List Char) :
    state.run ((first ++ second).map some) = (state.run (first.map some)).run (second.map some) := by
  simp only [run,List.map_append,List.foldl_append]

/-- A character of a string is read as its piece. -/
theorem run_escapeChar (frames : List Frame) (isName : Bool) (pieces : List Piece) (c : Char) :
    run ⟨frames,.text isName pieces⟩ ((escapeChar c).map some) = ⟨frames,.text isName (pieceOf c :: pieces)⟩ := by
  by_cases quote : c = '"'
  · subst quote; rfl
  by_cases slash : c = '\\'
  · subst slash; rfl
  by_cases named : c ∈ ['\x08','\t','\n','\x0c','\r']
  · simp only [List.mem_cons,List.not_mem_nil,or_false] at named
    rcases named with rfl | rfl | rfl | rfl | rfl <;> rfl
  have unnamed := named
  simp only [List.mem_cons,List.not_mem_nil,or_false,not_or] at unnamed
  by_cases control : c.toNat < 0x20
  · have high := hexDigit?_hexDigit (show c.toNat/16 < 16 by omega)
    have low := hexDigit?_hexDigit (show c.toNat%16 < 16 by omega)
    have back : c.toNat/16*16+c.toNat%16 = c.toNat := by omega
    have zero : hexDigit? '0' = some 0 := rfl
    have written : escapeChar c = ['\\','u','0','0',hexDigit (c.toNat/16),hexDigit (c.toNat%16)] := by
      simp [escapeChar,quote,slash,unnamed,control]
    simp [written,run,step,zero,high,low,back,pieceOf,control,unnamed]
  · have written : escapeChar c = [c] := by simp [escapeChar,quote,slash,unnamed,control]
    simp [written,run,step,quote,slash,control,pieceOf]

theorem run_escaped (frames : List Frame) (isName : Bool) (pieces : List Piece) (chars : List Char) :
    run ⟨frames,.text isName pieces⟩ ((chars.flatMap escapeChar).map some) =
      ⟨frames,.text isName ((chars.map pieceOf).reverse ++ pieces)⟩ := by
  induction chars generalizing pieces with
  | nil => rfl
  | cons c rest ih =>
    rw [List.flatMap_cons,run_append,run_escapeChar,ih]
    simp

/-- A string comes back after its quotation mark, as a value or as a name. -/
theorem run_string (frames : List Frame) (isName : Bool) (text : String) :
    run ⟨frames,.text isName []⟩ ((text.toList.flatMap escapeChar ++ ['"']).map some) =
      if isName then
        match frames with
        | .object members _ :: outer => ⟨.object members (some (some text)) :: outer,.between .colon⟩
        | _ => ⟨frames,.stuck⟩
      else complete frames (.string (some text)) := by
  have resolved : (resolve ((text.toList.map pieceOf).reverse ++ []).reverse).map String.ofList = some text := by
    rw [List.append_nil,List.reverse_reverse,resolve_pieceOf,Option.map_some,String.ofList_toList]
  have ended (pieces : List Piece) :
      run ⟨frames,.text isName pieces⟩ (['"'].map some) = endText frames isName pieces := rfl
  rw [run_append,run_escaped,ended]
  cases isName with
  | false => exact congrArg (fun found => complete frames (.string found)) resolved
  | true =>
    cases frames with
    | nil => rfl
    | cons frame outer =>
      cases frame with
      | array items => rfl
      | object members name =>
        exact congrArg (fun found => Scanner.mk (.object members (some found) :: outer) (.between .colon)) resolved

/-! ### Values -/

theorem atDepth_of_le {depth : Nat} (fits : depth ≤ depthLimit) (closed : Bool) (node : Node) :
    atDepth depth closed node = node := if_neg (Nat.not_lt.mpr fits)

/-- A name, its colon and what comes next, from a place where a name may stand. -/
theorem run_name {place : Place} (named : place = .name ∨ place = .firstName)
    (members : List (Option String × Node)) (outer : List Frame) (name : String) (rest : List Char) :
    run ⟨.object members none :: outer,.between place⟩ ((printString name ++ ':' :: rest).map some) =
      run ⟨.object members (some (some name)) :: outer,.between .value⟩ (rest.map some) := by
  have opened : step ⟨.object members none :: outer,.between place⟩ (some '"') =
      ⟨.object members none :: outer,.text true []⟩ := by
    rcases named with rfl | rfl <;> rfl
  rw [printString,List.cons_append,run_cons,opened,run_append,run_string]
  rfl

mutual
/-- A value is read inside any containers that leave room for it. -/
theorem run_print : ∀ (value : Json) (room : Nat) (frames : List Frame) (place : Place),
    value.plain room = true → frames.length+room ≤ depthLimit → place = .value ∨ place = .firstItem →
    run ⟨frames,.between place⟩ ((print value).map some) = complete frames (.ofJson value)
  | .null,_,frames,place,_,_,begins => by
    rcases begins with rfl | rfl <;> rfl
  | .bool true,_,frames,place,_,_,begins => by
    rcases begins with rfl | rfl <;> rfl
  | .bool false,_,frames,place,_,_,begins => by
    rcases begins with rfl | rfl <;> rfl
  | .string text,_,frames,place,_,_,begins => by
    have opened : step ⟨frames,.between place⟩ (some '"') = ⟨frames,.text false []⟩ := by
      rcases begins with rfl | rfl <;> rfl
    rw [print,printString,run_cons,opened,run_string]
    rfl
  | .array [],room+1,frames,place,_,fits,begins => by
    have opened : step ⟨frames,.between place⟩ (some '[') = ⟨.array [] :: frames,.between .firstItem⟩ := by
      rcases begins with rfl | rfl <;> rfl
    have closed : step ⟨.array [] :: frames,.between .firstItem⟩ (some ']') = close (.array [] :: frames) := rfl
    rw [print,run_cons,opened,run_cons,closed,close,atDepth_of_le (by simp; omega)]
    rfl
  | .array (item :: rest),room+1,frames,place,plain,fits,begins => by
    obtain ⟨first,others⟩ : item.plain room = true ∧ plainItems room rest = true := by
      simpa [Json.plain,plainItems] using plain
    have opened : step ⟨frames,.between place⟩ (some '[') = ⟨.array [] :: frames,.between .firstItem⟩ := by
      rcases begins with rfl | rfl <;> rfl
    have inner : (Frame.array [] :: frames).length+room ≤ depthLimit := by simp; omega
    rw [print,run_cons,opened,run_append,run_print item room _ _ first inner (.inr rfl)]
    have filled : complete (.array [] :: frames) (.ofJson item) = ⟨.array [.ofJson item] :: frames,.between .next⟩ := rfl
    rw [filled,run_append,run_printItems rest room [.ofJson item] frames others (by omega)]
    have closed (items : List Node) : run ⟨.array items :: frames,.between .next⟩ (List.map some [']']) =
      close (.array items :: frames) := rfl
    rw [closed,close,atDepth_of_le (by simp; omega),List.reverse_append,List.reverse_reverse]
    rfl
  | .object [],room+1,frames,place,_,fits,begins => by
    have opened : step ⟨frames,.between place⟩ (some '\x7b') = ⟨.object [] none :: frames,.between .firstName⟩ := by
      rcases begins with rfl | rfl <;> rfl
    have closed : step ⟨.object [] none :: frames,.between .firstName⟩ (some '\x7d') =
      close (.object [] none :: frames) := rfl
    rw [print,run_cons,opened,run_cons,closed,close,atDepth_of_le (by simp; omega)]
    rfl
  | .object ((name,value) :: rest),room+1,frames,place,plain,fits,begins => by
    obtain ⟨first,others⟩ : value.plain room = true ∧ plainMembers room rest = true := by
      simpa [Json.plain,plainMembers] using plain
    have opened : step ⟨frames,.between place⟩ (some '\x7b') = ⟨.object [] none :: frames,.between .firstName⟩ := by
      rcases begins with rfl | rfl <;> rfl
    have inner : (Frame.object [] (some (some name)) :: frames).length+room ≤ depthLimit := by simp; omega
    rw [print,run_cons,opened,run_name (.inr rfl),run_append,run_print value room _ _ first inner (.inl rfl)]
    have filled : complete (.object [] (some (some name)) :: frames) (.ofJson value) =
      ⟨.object [(some name,.ofJson value)] none :: frames,.between .next⟩ := rfl
    rw [filled,run_append,run_printMembers rest room [(some name,.ofJson value)] frames others (by omega)]
    have closed (members : List (Option String × Node)) :
      run ⟨.object members none :: frames,.between .next⟩ (List.map some ['\x7d']) =
        close (.object members none :: frames) := rfl
    rw [closed,close,atDepth_of_le (by simp; omega),List.reverse_append,List.reverse_reverse]
    rfl

/-- The items of an array after its first. -/
theorem run_printItems : ∀ (items : List Json) (room : Nat) (found : List Node) (outer : List Frame),
    plainItems room items = true → outer.length+room+1 ≤ depthLimit →
    run ⟨.array found :: outer,.between .next⟩ ((printItems items).map some) =
      ⟨.array ((Node.ofItems items).reverse ++ found) :: outer,.between .next⟩
  | [],_,_,_,_,_ => rfl
  | item :: rest,room,found,outer,plain,fits => by
    obtain ⟨first,others⟩ : item.plain room = true ∧ plainItems room rest = true := by
      simpa [plainItems] using plain
    have comma : step ⟨.array found :: outer,.between .next⟩ (some ',') = ⟨.array found :: outer,.between .value⟩ := rfl
    have inner : (Frame.array found :: outer).length+room ≤ depthLimit := by simp; omega
    rw [printItems,run_cons,comma,run_append,run_print item room _ _ first inner (.inl rfl)]
    have filled : complete (.array found :: outer) (.ofJson item) =
      ⟨.array (.ofJson item :: found) :: outer,.between .next⟩ := rfl
    rw [filled,run_printItems rest room _ outer others fits,Node.ofItems,List.reverse_cons,List.append_assoc]
    rfl

/-- The members of an object after its first. -/
theorem run_printMembers : ∀ (members : List (String × Json)) (room : Nat) (found : List (Option String × Node))
    (outer : List Frame), plainMembers room members = true → outer.length+room+1 ≤ depthLimit →
    run ⟨.object found none :: outer,.between .next⟩ ((printMembers members).map some) =
      ⟨.object ((Node.ofMembers members).reverse ++ found) none :: outer,.between .next⟩
  | [],_,_,_,_,_ => rfl
  | (name,value) :: rest,room,found,outer,plain,fits => by
    obtain ⟨first,others⟩ : value.plain room = true ∧ plainMembers room rest = true := by
      simpa [plainMembers] using plain
    have comma : step ⟨.object found none :: outer,.between .next⟩ (some ',') =
      ⟨.object found none :: outer,.between .name⟩ := rfl
    have inner : (Frame.object found (some (some name)) :: outer).length+room ≤ depthLimit := by simp; omega
    rw [printMembers,run_cons,comma,run_name (.inl rfl),run_append,run_print value room _ _ first inner (.inl rfl)]
    have filled : complete (.object found (some (some name)) :: outer) (.ofJson value) =
      ⟨.object ((some name,.ofJson value) :: found) none :: outer,.between .next⟩ := rfl
    rw [filled,run_printMembers rest room _ outer others fits,Node.ofMembers,List.reverse_cons,List.append_assoc]
    rfl
end

end Scanner

/-! ### Documents -/

/-- The text of a value is scanned as that value and nothing more. -/
theorem scanText_text {value : Json} (plain : value.plain Scanner.depthLimit = true) :
    scanText value.text = ⟨.ofJson value,true⟩ := by
  have read := Scanner.run_print value Scanner.depthLimit [] .value plain (by simp) (.inl rfl)
  have start : Scanner.start = ⟨[],.between .value⟩ := rfl
  rw [scanText,text,String.toList_ofList,scan,start,read]
  rfl

theorem Codec.root_writeText {α : Type} {codec : Codec α} {value : α}
    (plain : (codec.write value).plain Scanner.depthLimit = true) :
    (scanText (codec.writeText value)).root = .ofJson (codec.write value) := by
  rw [writeText,scanText_text plain]

/-- What is written is read from its text as it is from the written value. -/
theorem Codec.readText_writeText {α β : Type} {source : Codec α} (target : Codec β) {value : α}
    (plain : (source.write value).plain Scanner.depthLimit = true) :
    target.readText (source.writeText value) = target.readJson (source.write value) := by
  rw [readText,writeText,scanText_text plain,readDocument,readJson]
  cases target.read (.ofJson (source.write value)) <;> rfl

/-! ### Records without numbers -/

/-- What a field of a record is written as, if anything, has no numbers and leaves room. -/
def Field.Plain {α : Type} (room : Nat) (record : α) (field : Field α) : Prop :=
  ∀ value ∈ field.write record, value.plain room = true

theorem Field.Plain.made {α β : Type} {room : Nat} {record : α} {name : String} {required : Bool} {codec : Codec β}
    {get : α → β} {set : β → α → α} {leftOut : β → Bool} (plain : (codec.write (get record)).plain room = true) :
    (Field.make name required codec get set leftOut).Plain room record := by
  intro value written
  simp only [Field.make,Option.mem_def] at written
  split at written
  · cases written
  · obtain rfl := Option.some.inj written
    exact plain

theorem plain_record {α : Type} {blank record : α} {fields : List (Field α)} {room : Nat}
    (plain : fields.Forall (Field.Plain room record)) :
    ((Codec.record blank fields).write record).plain (room+1) = true := by
  refine plainMembers_iff.mpr fun entry member => ?_
  obtain ⟨field,inside,written⟩ := List.mem_filterMap.mp member
  obtain ⟨value,here,rfl⟩ := Option.map_eq_some_iff.mp written
  exact List.forall_iff_forall_mem.mp plain field inside value here

theorem plain_list {α : Type} {codec : Codec α} {values : List α} {room : Nat}
    (plain : ∀ value ∈ values, (codec.write value).plain room = true) :
    (codec.list.write values).plain (room+1) = true :=
  plainItems_iff.mpr (List.forall_mem_map.mpr plain)

/-! ### Control characters -/

/-- A check of a text that is at hand. -/
theorem control_not_mem_of_all {chars : List Char} (all : chars.all (0x20 ≤ ·.toNat) = true) : ∀ d ∈ chars, 0x20 ≤ d.toNat :=
  fun d member => of_decide_eq_true (List.all_eq_true.mp all d member)

theorem control_not_mem_escapeChar (c : Char) : ∀ d ∈ escapeChar c, 0x20 ≤ d.toNat := by
  have digits : ∀ value : Fin 16, 0x20 ≤ (hexDigit value).toNat := by decide
  unfold escapeChar
  split
  · exact control_not_mem_of_all rfl
  split
  · exact control_not_mem_of_all rfl
  split
  · exact control_not_mem_of_all rfl
  split
  · exact control_not_mem_of_all rfl
  split
  · exact control_not_mem_of_all rfl
  split
  · exact control_not_mem_of_all rfl
  split
  · exact control_not_mem_of_all rfl
  split
  · simp only [List.forall_mem_cons]
    have high := digits ⟨c.toNat/16,by omega⟩
    have low := digits ⟨c.toNat%16,by omega⟩
    exact ⟨by decide,by decide,by decide,by decide,high,low,List.forall_mem_nil _⟩
  · rename_i visible
    simpa using Nat.le_of_not_lt visible

theorem control_not_mem_printString (text : String) : ∀ d ∈ printString text, 0x20 ≤ d.toNat := by
  simp only [printString,List.forall_mem_cons,List.forall_mem_append]
  refine ⟨by decide,?_,by decide,List.forall_mem_nil _⟩
  intro d member
  obtain ⟨c,-,member⟩ := List.mem_flatMap.mp member
  exact control_not_mem_escapeChar c d member

mutual
/-- The written form of a value without numbers has no control characters. -/
theorem control_not_mem_print : ∀ (value : Json) (room : Nat), value.plain room = true →
    ∀ d ∈ print value, 0x20 ≤ d.toNat
  | .null,_,_ => control_not_mem_of_all rfl
  | .bool true,_,_ => control_not_mem_of_all rfl
  | .bool false,_,_ => control_not_mem_of_all rfl
  | .string text,_,_ => control_not_mem_printString text
  | .array [],_,_ => control_not_mem_of_all rfl
  | .array (item :: rest),room+1,plain => by
    obtain ⟨first,others⟩ : item.plain room = true ∧ plainItems room rest = true := by
      simpa [Json.plain,plainItems] using plain
    simp only [print,List.forall_mem_cons,List.forall_mem_append]
    exact ⟨by decide,control_not_mem_print item room first,control_not_mem_printItems rest room others,by decide,
      List.forall_mem_nil _⟩
  | .object [],_,_ => control_not_mem_of_all rfl
  | .object ((name,value) :: rest),room+1,plain => by
    obtain ⟨first,others⟩ : value.plain room = true ∧ plainMembers room rest = true := by
      simpa [Json.plain,plainMembers] using plain
    simp only [print,List.forall_mem_cons,List.forall_mem_append]
    exact ⟨by decide,control_not_mem_printString name,by decide,control_not_mem_print value room first,
      control_not_mem_printMembers rest room others,by decide,List.forall_mem_nil _⟩

theorem control_not_mem_printItems : ∀ (items : List Json) (room : Nat), plainItems room items = true →
    ∀ d ∈ printItems items, 0x20 ≤ d.toNat
  | [],_,_ => List.forall_mem_nil _
  | item :: rest,room,plain => by
    obtain ⟨first,others⟩ : item.plain room = true ∧ plainItems room rest = true := by
      simpa [plainItems] using plain
    simp only [printItems,List.forall_mem_cons,List.forall_mem_append]
    exact ⟨by decide,control_not_mem_print item room first,control_not_mem_printItems rest room others⟩

theorem control_not_mem_printMembers : ∀ (members : List (String × Json)) (room : Nat),
    plainMembers room members = true → ∀ d ∈ printMembers members, 0x20 ≤ d.toNat
  | [],_,_ => List.forall_mem_nil _
  | (name,value) :: rest,room,plain => by
    obtain ⟨first,others⟩ : value.plain room = true ∧ plainMembers room rest = true := by
      simpa [plainMembers] using plain
    simp only [printMembers,List.forall_mem_cons,List.forall_mem_append]
    exact ⟨by decide,control_not_mem_printString name,by decide,control_not_mem_print value room first,
      control_not_mem_printMembers rest room others⟩
end

end StackBroker.Json
