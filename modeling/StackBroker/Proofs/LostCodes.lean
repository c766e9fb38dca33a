import StackBroker.Proofs.Classification
import StackBroker.Proofs.ErrorLines
import StackBroker.Proofs.Targets

/-!
When the code of an error line is lost. Text that opens no line leaves the line after it
the first one (`not_begins_before`). Trimming takes no part of a line away but blanks at the
end of its message, as long as something other than blanks follows its colon
(`exists_trimEnd_message`); otherwise it takes the blank after the colon too, and nothing that is
left is a line (`not_begins_heading`). So a line is understood exactly if it has a message or
further lines follow it (`kept_by_words`), and the report that a stack is missing can be
lost with its code (`missing_stack_refused`).
-/
namespace StackBroker.Stack.ErrorLine
open StackBroker.Text

/-! ### Text before a line -/

/-- No line begins in text that opens none, if a line is opened after it. -/
theorem not_begins_before {before rest : List Char} (unopened : ¬ opening <:+: before) {position : Nat}
    (within : position < before.length) (line : Line) : ¬ line.Begins ((before ++ (opening ++ rest)).drop position) := by
  intro begins
  obtain ⟨-,-,-,inside,_,_,_,_,parts⟩ := Line.begins_iff.mp begins
  have opened := parts.opened
  rw [List.drop_append_of_le_length (Nat.le_of_lt within)] at opened
  have one : opening <+: before.drop position ++ (opening ++ rest) := ⟨inside,opened.symm⟩
  have other : before.drop position <+: before.drop position ++ (opening ++ rest) := List.prefix_append _ _
  rcases List.prefix_or_prefix_of_prefix one other with fits | cut
  · exact unopened (fits.isInfix.trans (List.drop_suffix position before).isInfix)
  · -- The opening would begin again inside itself, but its first character does not come back.
    obtain ⟨tail,whole⟩ := cut
    have filled : before.drop position ≠ [] := by simpa using within
    cases tail with
    | nil =>
      rw [List.append_nil] at whole
      exact unopened (whole ▸ (List.drop_suffix position before).isInfix)
    | cons c others =>
      have again : before.drop position ++ (opening ++ rest) = before.drop position ++ (c :: others ++ inside) := by
        rw [opened,← List.append_assoc,whole]
      have first : c = 'A' := (List.cons.inj (List.append_cancel_left again)).1.symm
      cases begun : before.drop position with
      | nil => exact filled begun
      | cons d more =>
        rw [begun,List.cons_append] at whole
        have back : 'A' ∈ opening.tail := by
          rw [← whole,first]
          simp
        exact absurd back (by decide)

/-! ### Lines without words -/

/-- A line up to its colon. -/
def Line.heading (line : Line) : List Char :=
  opening ++ line.code ++ calling ++ line.operation ++ ErrorLine.operation ++ line.noteText ++ [':']

theorem Line.text_eq (line : Line) : line.text = line.heading ++ ' ' :: line.message := by
  simp only [Line.text,Line.heading,List.append_assoc,List.cons_append,List.nil_append]

/-- A character is found at its first place or after it. -/
theorem append_cons_cases {c : Char} {front rest before after : List Char} (absent : c ∉ front)
    (same : front ++ c :: rest = before ++ c :: after) :
    before = front ∧ after = rest ∨ ∃ between, rest = between ++ c :: after := by
  rcases List.append_eq_append_iff.mp same with ⟨more,rfl,later⟩ | ⟨more,rfl,later⟩
  · cases more with
    | nil => simp_all
    | cons d others =>
      obtain ⟨-,found⟩ := List.cons.inj later
      exact .inr ⟨others,found⟩
  · cases more with
    | nil => simp_all
    | cons d others =>
      obtain ⟨rfl,-⟩ := List.cons.inj later
      exact absurd (List.mem_append_right before (List.mem_cons_self ..)) absent

/-- What follows the code of a line without words. -/
def Line.tail (line : Line) : List Char := line.operation ++ (ErrorLine.operation ++ (written line.note ++ [':']))

theorem Line.heading_eq (line : Line) : line.heading = opening ++ (line.code ++ (calling ++ line.tail)) := by
  simp only [Line.heading,Line.tail,line.noteText_eq,List.append_assoc]

/-- In a line without words only the code is closed before a blank: the note, if there is
    one, is closed before the colon. -/
theorem Line.closed_once {line : Line} (wellFormed : line.WellFormed) {before after : List Char}
    (closing : line.heading = before ++ ')' :: ' ' :: after) : before = opening ++ line.code := by
  obtain ⟨-,codeClosed,-,word,noteClosed,-⟩ := wellFormed
  have begun : ')' ∉ opening ++ line.code := List.not_mem_append (by decide) codeClosed
  have called : ')' ∉ calling.tail ++ line.operation ++ ErrorLine.operation := by
    refine List.not_mem_append (List.not_mem_append (by decide) fun member => ?_) (by decide)
    exact absurd (word _ member) (by decide)
  have split : line.heading = (opening ++ line.code) ++ ')' :: (calling.tail ++ line.tail) := by
    rw [line.heading_eq,List.append_assoc]
    rfl
  rcases append_cons_cases begun (split.symm.trans closing) with ⟨same,-⟩ | ⟨between,later⟩
  · exact same
  · exfalso
    rw [Line.tail,← List.append_assoc,← List.append_assoc] at later
    cases noted : line.note with
    | none =>
      have plain : ')' ∉ calling.tail ++ line.operation ++ ErrorLine.operation ++ (written line.note ++ [':']) := by
        rw [noted]
        exact List.not_mem_append called (by decide)
      rw [later] at plain
      exact plain (List.mem_append_right _ (List.mem_cons_self ..))
    | some note =>
      have noteOpen : ')' ∉ calling.tail ++ line.operation ++ ErrorLine.operation ++ ([' ','('] ++ note) :=
        List.not_mem_append called (List.not_mem_append (by decide) (noteClosed note noted))
      have ended : calling.tail ++ line.operation ++ ErrorLine.operation ++ ([' ','('] ++ note) ++ ')' :: [':'] =
          between ++ ')' :: ' ' :: after := by
        rw [← later,noted]
        simp [written]
      rcases append_cons_cases noteOpen ended with ⟨-,colon⟩ | ⟨last,colon⟩
      · cases colon
      · have long := congrArg List.length colon
        simp only [List.length_append,List.length_cons,List.length_nil] at long
        omega

/-- No line begins anywhere in a line without words. -/
theorem not_begins_heading {line : Line} (wellFormed : line.WellFormed) (position : Nat) (other : Line) :
    ¬ other.Begins (line.heading.drop position) := by
  intro begins
  obtain ⟨-,-,otherClosed,inside,called,noted,told,rest,parts⟩ := Line.begins_iff.mp begins
  have whole : line.heading = line.heading.take position ++ (opening ++ (other.code ++ (calling ++ called))) := by
    rw [← parts.code.joined,← parts.opened,List.take_append_drop]
  have closing : line.heading = (line.heading.take position ++ (opening ++ other.code)) ++ ')' :: ' ' ::
      (calling.tail.tail ++ called) := by
    refine whole.trans ?_
    simp only [List.append_assoc]
    rfl
  have front := Line.closed_once wellFormed closing
  obtain ⟨-,-,-,word,noteClosed,-⟩ := wellFormed
  have same : opening ++ line.code ++ (calling ++ line.tail) = opening ++ line.code ++ (calling ++ called) := by
    rw [List.append_assoc,← line.heading_eq,whole,← front]
    simp only [List.append_assoc]
  have sameTail : line.tail = called := List.append_cancel_left (List.append_cancel_left same)
  have cuts : Cuts isWord line.tail line.operation (ErrorLine.operation ++ (written line.note ++ [':'])) :=
    ⟨rfl,word,fun c first => by cases first; decide⟩
  rw [sameTail] at cuts
  have sameNoted := List.append_cancel_left (cuts.unique parts.operation).2
  have ended : written line.note ++ [':',' '] ++ [] = written other.note ++ [':',' '] ++ (told ++ [' ']) := by
    have blank := congrArg (· ++ [' ']) (sameNoted.trans parts.noted)
    simpa only [List.append_assoc,List.cons_append,List.nil_append,List.append_nil] using blank
  exact absurd (written_unique noteClosed otherClosed ended).2 (by simp)

/-! ### Lines as they are written -/

/-- What an executable writes that reports an error: text that opens no line, the line, and
    after it nothing or further lines. -/
structure Documented (chars before : List Char) (line : Line) (after : List Char) : Prop where
  wellFormed : line.WellFormed
  split : chars = before ++ line.text ++ after
  unopened : ¬ opening <:+: before
  ends : ∀ c ∈ after.head?, c = '\n'

/-- Something other than blanks follows the colon of a line. -/
def Worded (line : Line) (after : List Char) : Prop := ∃ c ∈ line.message ++ after, isBlank c = false

/-- Trimming the end of a message and of what follows it leaves the message, but for blanks
    at its end, and it still ends with its line. -/
theorem exists_trimEnd_message {message after : List Char} (flat : '\n' ∉ message)
    (ends : ∀ c ∈ after.head?, c = '\n') : ∃ short rest, trimEnd (message ++ after) = short ++ rest ∧ '\n' ∉ short ∧
      trim short = trim message ∧ ∀ c ∈ rest.head?, c = '\n' := by
  by_cases worded : ∃ c ∈ after, isBlank c = false
  · refine ⟨message,trimEnd after,trimEnd_append_of_worded worded message,flat,rfl,fun c first => ends c ?_⟩
    obtain ⟨blanks,split,-⟩ := exists_trimEnd after
    rw [split,List.head?_append,Option.mem_def.mp first]
    rfl
  · have blank := blank_of_wordless worded
    obtain ⟨blanks,split,ended⟩ := exists_trimEnd message
    refine ⟨trimEnd message,[],?_,fun member => flat ?_,?_,by simp⟩
    · rw [trimEnd_append_of_blank blank,List.append_nil]
    · rw [split]
      exact List.mem_append_left _ member
    · rw [← trim_append_of_blank ended,← split]

section Documented
variable {stderr : String} {before after : List Char} {line : Line}
  (documented : Documented stderr.toList before line after)
include documented

/-- Trimming takes nothing of a line away up to its colon. -/
theorem trim_documented : trim stderr.toList =
    trimStart before ++ (line.heading ++ trimEnd (' ' :: (line.message ++ after))) := by
  have whole : stderr.toList = before ++ (line.heading ++ ' ' :: (line.message ++ after)) := by
    rw [documented.split,line.text_eq]
    simp only [List.append_assoc,List.cons_append]
  have first : ∀ c ∈ (line.heading ++ ' ' :: (line.message ++ after)).head?, isBlank c = false := by
    rw [line.heading_eq,List.append_assoc]
    exact fun c begun => by cases begun; decide
  have last : ∀ c ∈ (trimStart before ++ line.heading).getLast?, isBlank c = false := by
    rw [Line.heading,← List.append_assoc,List.getLast?_concat]
    exact fun c ended => by cases ended; decide
  rw [whole,trim,trimStart_append first,← List.append_assoc,trimEnd_append last,List.append_assoc]

theorem unopened_trimStart : ¬ opening <:+: trimStart before := by
  intro inside
  obtain ⟨blanks,split,-⟩ := exists_trimStart before
  have ending : trimStart before <:+ before := ⟨blanks,split.symm⟩
  exact documented.unopened (inside.trans ending.isInfix)

theorem report_of_worded (worded : Worded line after) :
    report stderr = ⟨some (String.ofList line.code),String.ofList (trim line.message)⟩ := by
  obtain ⟨coded,closed,operated,word,noteClosed,flat⟩ := documented.wellFormed
  obtain ⟨short,rest,split,shortFlat,same,ends⟩ := exists_trimEnd_message flat documented.ends
  have kept : trim stderr.toList = trimStart before ++ ((⟨line.code,line.operation,line.note,short⟩ : Line).text ++ rest) := by
    have blank := trimEnd_append_of_worded worded [' ']
    rw [List.singleton_append,split] at blank
    rw [trim_documented documented,blank,Line.text_eq]
    simp [Line.heading,Line.noteText]
  obtain ⟨inside,opened⟩ : opening <+: (⟨line.code,line.operation,line.note,short⟩ : Line).text ++ rest := by
    rw [Line.text_eq,Line.heading_eq,List.append_assoc,List.append_assoc]
    exact List.prefix_append _ _
  refine report_eq_iff.mpr ⟨_,trimmedTo_trim _,?_⟩
  rw [kept]
  refine @Reported.line _ (trimStart before).length ⟨line.code,line.operation,line.note,short⟩ _ ?_ ?_ ?_
  · rw [List.drop_left]
    exact ⟨⟨coded,closed,operated,word,noteClosed,shortFlat⟩,rest,rfl,ends⟩
  · intro earlier within
    rw [← opened]
    exact not_begins_before (unopened_trimStart documented) within
  · rw [← same]
    exact trimmedTo_trim short

theorem report_of_wordless (wordless : ¬ Worded line after) :
    report stderr = ⟨none,String.ofList (trimStart before ++ line.heading)⟩ := by
  have blank : ∀ c ∈ ' ' :: (line.message ++ after), isBlank c = true :=
    List.forall_mem_cons.mpr ⟨by decide,blank_of_wordless wordless⟩
  have kept : trim stderr.toList = trimStart before ++ line.heading := by
    rw [trim_documented documented,trimEnd_of_blank blank,List.append_nil]
  refine report_eq_iff.mpr ⟨_,trim_eq_iff.mp kept,.bare fun position other => ?_⟩
  by_cases within : position < (trimStart before).length
  · rw [line.heading_eq]
    exact not_begins_before (unopened_trimStart documented) within other
  · rw [List.drop_append,List.drop_of_length_le (by omega),List.nil_append]
    exact not_begins_heading documented.wellFormed _ other

end Documented

/-! ### What decides -/

/-- The words after the colon of a line decide whether its code is reported, and so whether a
    stack is reported missing that the line reports missing by its code alone. -/
structure KeptByWords (stderr : String) (before : List Char) (line : Line) (after : List Char) : Prop where
  kept : Worded line after → report stderr = ⟨some (String.ofList line.code),String.ofList (trim line.message)⟩
  lost : ¬ Worded line after → report stderr = ⟨none,String.ofList (trimStart before ++ line.heading)⟩
  missing : ∀ (call : Call) (exitCode : Int) (stdout bytes : List UInt8), call.action.expectsStack = true →
    exitCode ≠ 0 → Utf8.decodeLossy bytes = stderr → line.code ∈ ["NotFound".toList,"404".toList] →
    (CommandLine.interpret (.finished exitCode stdout bytes) call = .error .doesNotExist ↔ Worded line after)

theorem kept_by_words {stderr : String} {before after : List Char} {line : Line}
    (documented : Documented stderr.toList before line after) : KeptByWords stderr before line after where
  kept := report_of_worded documented
  lost := report_of_wordless documented
  missing call exitCode stdout bytes expects failed decoded coded := by
    have came := CommandLine.interpret_of_outcome (CommandLine.outcome_failed call.action failed stdout bytes)
    rw [came,Except.error.injEq,Report.failure_eq_doesNotExist,decoded]
    constructor
    · rintro ⟨-,unknown⟩
      by_contra wordless
      rw [report_of_wordless documented wordless] at unknown
      cases unknown
    · intro worded
      rw [report_of_worded documented worded]
      refine ⟨expects,?_⟩
      simp only [List.mem_cons,List.not_mem_nil,or_false] at coded
      rcases coded with same | same
      · rw [same,String.ofList_toList]
        exact .notFound _
      · rw [same,String.ofList_toList]
        exact .status _

/-- A warning, a line without a message and a further line. -/
def remarkedFailure : String :=
  "\nwarning: An error occurred\nAn error occurred (404) when calling the HeadObject operation (reached max retries: 2): \r\nSee the log.\n"

def remarkedLine : Line := ⟨"404".toList,"HeadObject".toList,some "reached max retries: 2".toList,['\r']⟩

theorem kept_by_words_remarked :
    Documented remarkedFailure.toList "\nwarning: An error occurred\n".toList remarkedLine "\nSee the log.\n".toList ∧
      report remarkedFailure = ⟨some "404",""⟩ ∧
      CommandLine.interpret (.finished 254 [] (Utf8.encode remarkedFailure)) (.describe "cf-i") = .error .doesNotExist := by
  have documented : Documented remarkedFailure.toList "\nwarning: An error occurred\n".toList remarkedLine
      "\nSee the log.\n".toList := by
    refine ⟨⟨by decide,by decide,by decide,List.all_eq_true.mp (by decide),?_,by decide⟩,by decide +kernel,?_,?_⟩
    · rintro _ ⟨⟩
      decide
    · rw [← occursIn_iff]
      decide
    · rintro _ ⟨⟩
      rfl
  have worded : Worded remarkedLine "\nSee the log.\n".toList := ⟨'S',by decide,by decide⟩
  have decoded : Utf8.decodeLossy (Utf8.encode remarkedFailure) = remarkedFailure := Utf8.decodeLossy_encode _
  refine ⟨documented,(kept_by_words documented).kept worded,?_⟩
  exact ((kept_by_words documented).missing (.describe "cf-i") 254 [] _ rfl (by decide) decoded (.tail _ (.head _))).mpr worded

/-- A line without a message and nothing after it. -/
def bareFailure : String := "An error occurred (NotFound) when calling the DescribeStacks operation: "

/-- The code of a line without a message is lost, and a missing stack is no longer one. -/
theorem missing_stack_refused :
    Documented bareFailure.toList [] ⟨"NotFound".toList,"DescribeStacks".toList,none,[]⟩ [] ∧
      report bareFailure ≠ ⟨some "NotFound",""⟩ ∧
      ∀ call : Call, call.action.expectsStack = true →
        CommandLine.interpret (.finished 254 [] (Utf8.encode bareFailure)) call =
          .error (.refused "An error occurred (NotFound) when calling the DescribeStacks operation:") := by
  have documented : Documented bareFailure.toList [] ⟨"NotFound".toList,"DescribeStacks".toList,none,[]⟩ [] := by
    refine ⟨⟨by decide,by decide,by decide,List.all_eq_true.mp (by decide),?_,by decide⟩,by decide,by decide,?_⟩
    · rintro _ ⟨⟩
    · rintro _ ⟨⟩
  have reported := report_of_wordless documented (by simp [Worded])
  refine ⟨documented,?_,fun call expects => ?_⟩
  · rw [reported]
    simp
  · have came := CommandLine.outcome_failed call.action (show (254 : Int) ≠ 0 by decide) [] (Utf8.encode bareFailure)
    rw [Utf8.decodeLossy_encode,reported] at came
    have passed : (⟨none,String.ofList (trimStart [] ++ (⟨"NotFound".toList,"DescribeStacks".toList,none,[]⟩ : Line).heading)⟩ :
        Report).failure call.action ≠ .doesNotExist := by
      rw [ne_eq,Report.failure_eq_doesNotExist]
      rintro ⟨-,⟨⟩⟩
    rw [Report.failure_eq_refused passed] at came
    exact CommandLine.interpret_of_outcome came

end StackBroker.Stack.ErrorLine
