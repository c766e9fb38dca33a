/-!
# White space

The characters with the Unicode property `White_Space`, and trimming of text by
them.
-/
namespace StackBroker.Text

/-- The characters with the property `White_Space`. -/
def isBlank (c : Char) : Bool :=
  let code := c.toNat
  (9 ≤ code && code ≤ 13) || code == 0x20 || code == 0x85 || code == 0xA0 || code == 0x1680 ||
    (0x2000 ≤ code && code ≤ 0x200A) || code == 0x2028 || code == 0x2029 || code == 0x202F ||
    code == 0x205F || code == 0x3000

/-- Characters without the blanks at their start. -/
def trimStart (chars : List Char) : List Char := chars.dropWhile isBlank

/-- Characters without the blanks at their end. -/
def trimEnd (chars : List Char) : List Char := (trimStart chars.reverse).reverse

/-- Characters without the blanks at both ends. -/
def trim (chars : List Char) : List Char := trimEnd (trimStart chars)

theorem trimStart_eq_self {chars : List Char} (first : ∀ c ∈ chars.head?, isBlank c = false) :
    trimStart chars = chars := by
  cases chars with
  | nil => rfl
  | cons c rest => exact List.dropWhile_cons_of_neg (by simp [first c rfl])

/-- Characters that neither begin nor end with a blank are left as they are. -/
theorem trim_eq_self {chars : List Char} (first : ∀ c ∈ chars.head?, isBlank c = false)
    (last : ∀ c ∈ chars.getLast?, isBlank c = false) : trim chars = chars := by
  have ending : trimStart chars.reverse = chars.reverse :=
    trimStart_eq_self (by rwa [List.head?_reverse])
  rw [trim,trimStart_eq_self first,trimEnd,ending,List.reverse_reverse]

/-! ### What trimming leaves -/

theorem head?_trimStart {chars : List Char} : ∀ c ∈ (trimStart chars).head?, isBlank c = false := by
  intro c first
  have found := List.head?_dropWhile_not isBlank chars
  rw [trimStart] at first
  rw [first] at found
  exact found

theorem exists_trimStart (chars : List Char) :
    ∃ before, chars = before ++ trimStart chars ∧ ∀ c ∈ before, isBlank c = true :=
  ⟨chars.takeWhile isBlank,List.takeWhile_append_dropWhile.symm,
    fun c member => List.all_eq_true.mp List.all_takeWhile c member⟩

theorem trimStart_append_of_blank {before : List Char} (blank : ∀ c ∈ before, isBlank c = true) (rest : List Char) :
    trimStart (before ++ rest) = trimStart rest := List.dropWhile_append_of_pos blank

/-- What begins without a blank is kept whole, whatever is trimmed before it. -/
theorem trimStart_append {rest : List Char} (first : ∀ c ∈ rest.head?, isBlank c = false) (chars : List Char) :
    trimStart (chars ++ rest) = trimStart chars ++ rest := by
  induction chars with
  | nil => exact trimStart_eq_self first
  | cons c others ih =>
    by_cases blank : isBlank c = true
    · rw [trimStart,List.cons_append,List.dropWhile_cons_of_pos blank,← trimStart,ih,trimStart,trimStart,
        List.dropWhile_cons_of_pos blank]
    · rw [trimStart,List.cons_append,List.dropWhile_cons_of_neg blank,trimStart,List.dropWhile_cons_of_neg blank,
        List.cons_append]

theorem trimEnd_append {front : List Char} (last : ∀ c ∈ front.getLast?, isBlank c = false) (chars : List Char) :
    trimEnd (front ++ chars) = front ++ trimEnd chars := by
  have first : ∀ c ∈ front.reverse.head?, isBlank c = false := by rwa [List.head?_reverse]
  rw [trimEnd,List.reverse_append,trimStart_append first,List.reverse_append,List.reverse_reverse,trimEnd]

theorem trimEnd_append_of_blank {after : List Char} (blank : ∀ c ∈ after, isBlank c = true) (front : List Char) :
    trimEnd (front ++ after) = trimEnd front := by
  have turned : ∀ c ∈ after.reverse, isBlank c = true := fun c member => blank c (List.mem_reverse.mp member)
  rw [trimEnd,List.reverse_append,trimStart_append_of_blank turned,trimEnd]

theorem exists_trimEnd (chars : List Char) : ∃ after, chars = trimEnd chars ++ after ∧ ∀ c ∈ after, isBlank c = true := by
  obtain ⟨before,split,blank⟩ := exists_trimStart chars.reverse
  refine ⟨before.reverse,?_,fun c member => blank c (List.mem_reverse.mp member)⟩
  rw [trimEnd,← List.reverse_append,← split,List.reverse_reverse]

theorem getLast?_trimEnd {chars : List Char} : ∀ c ∈ (trimEnd chars).getLast?, isBlank c = false := by
  intro c last
  rw [trimEnd,List.getLast?_reverse] at last
  exact head?_trimStart c last

/-- A text is left of another one if only blanks are taken away, at both ends, and all of
    them. -/
structure TrimmedTo (chars kept : List Char) : Prop where
  around : ∃ before after, chars = before ++ kept ++ after ∧ (∀ c ∈ before, isBlank c = true) ∧
    ∀ c ∈ after, isBlank c = true
  first : ∀ c ∈ kept.head?, isBlank c = false
  last : ∀ c ∈ kept.getLast?, isBlank c = false

theorem trimmedTo_trim (chars : List Char) : TrimmedTo chars (trim chars) := by
  obtain ⟨before,split,blankBefore⟩ := exists_trimStart chars
  obtain ⟨after,ended,blankAfter⟩ := exists_trimEnd (trimStart chars)
  refine ⟨⟨before,after,?_,blankBefore,blankAfter⟩,fun c first => ?_,getLast?_trimEnd⟩
  · rw [List.append_assoc,trim,← ended,← split]
  · refine @head?_trimStart chars c ?_
    rw [ended,List.head?_append,← trim,Option.mem_def.mp first]
    rfl

theorem trim_eq_iff {chars kept : List Char} : trim chars = kept ↔ TrimmedTo chars kept := by
  constructor
  · rintro rfl
    exact trimmedTo_trim chars
  · rintro ⟨⟨before,after,rfl,blankBefore,blankAfter⟩,first,last⟩
    rw [List.append_assoc,trim,trimStart_append_of_blank blankBefore]
    cases kept with
    | nil =>
      have none : trimStart after = [] := by
        rw [← List.append_nil after,trimStart_append_of_blank blankAfter]
        rfl
      rw [List.nil_append,none]
      rfl
    | cons c others =>
      have begun : trimStart (c :: others ++ after) = c :: others ++ after := trimStart_eq_self first
      rw [begun,trimEnd_append_of_blank blankAfter]
      have whole := trim_eq_self first last
      rwa [trim,trimStart_eq_self first] at whole

theorem trimEnd_of_blank {chars : List Char} (blank : ∀ c ∈ chars, isBlank c = true) : trimEnd chars = [] := by
  have ended := trimEnd_append_of_blank blank []
  rwa [List.nil_append] at ended

theorem trim_append_of_blank {after : List Char} (blank : ∀ c ∈ after, isBlank c = true) (chars : List Char) :
    trim (chars ++ after) = trim chars := by
  obtain ⟨⟨start,rest,split,blankStart,blankRest⟩,first,last⟩ := trimmedTo_trim chars
  refine trim_eq_iff.mpr ⟨⟨start,rest ++ after,?_,blankStart,?_⟩,first,last⟩
  · rw [← List.append_assoc,← split]
  · intro c member
    exact (List.mem_append.mp member).elim (blankRest c) (blank c)

theorem blank_of_wordless {chars : List Char} (wordless : ¬ ∃ c ∈ chars, isBlank c = false) :
    ∀ c ∈ chars, isBlank c = true :=
  fun c member => eq_true_of_ne_false fun word => wordless ⟨c,member,word⟩

/-- What has more than blanks in it keeps what stands before it. -/
theorem trimEnd_append_of_worded {chars : List Char} (worded : ∃ c ∈ chars, isBlank c = false) (front : List Char) :
    trimEnd (front ++ chars) = front ++ trimEnd chars := by
  obtain ⟨after,split,blank⟩ := exists_trimEnd chars
  have filled : trimEnd chars ≠ [] := by
    intro none
    obtain ⟨c,member,word⟩ := worded
    rw [none,List.nil_append] at split
    rw [split] at member
    simp [blank c member] at word
  have last : ∀ c ∈ (front ++ trimEnd chars).getLast?, isBlank c = false := by
    intro c found
    rw [List.getLast?_append,List.getLast?_eq_some_getLast filled,Option.some_or] at found
    exact getLast?_trimEnd c (by rwa [List.getLast?_eq_some_getLast filled])
  have whole := trimEnd_append last []
  rw [show trimEnd [] = [] from rfl,List.append_nil] at whole
  calc trimEnd (front ++ chars) = trimEnd (front ++ trimEnd chars ++ after) := by rw [List.append_assoc,← split]
    _ = trimEnd (front ++ trimEnd chars) := trimEnd_append_of_blank blank _
    _ = front ++ trimEnd chars := whole

end StackBroker.Text
