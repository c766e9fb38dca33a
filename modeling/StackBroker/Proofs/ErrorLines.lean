import StackBroker.Cuts
import StackBroker.Stack.ErrorLine

/-!
Which error line is read. Each part of a line ends where the next begins, so a line that is
written where some characters begin is the only one there (`Line.Begins.unique`), and the
reader finds its code and its message (`matchHere_eq_some_iff`). The first position with a
line decides (`find?_eq_some_iff`), and what has no line is reported whole
(`reads_grammar`).
-/
namespace StackBroker.Stack.ErrorLine
open StackBroker.Text
variable {chars code message : List Char}

theorem after?_eq_some_iff {start rest : List Char} : after? start chars = some rest ↔ chars = start ++ rest := by
  rw [after?]
  constructor
  · intro found
    split at found
    · rename_i begins
      obtain ⟨others,rfl⟩ := List.isPrefixOf_iff_prefix.mp begins
      rw [List.drop_left,Option.some.injEq] at found
      rw [found]
    · cases found
  · rintro rfl
    rw [if_pos (List.isPrefixOf_iff_prefix.mpr (List.prefix_append start rest)),List.drop_left]

theorem after?_append (start rest : List Char) : after? start (start ++ rest) = some rest :=
  after?_eq_some_iff.mpr rfl

/-! ### Notes -/

/-- A note as it is written, with the blank before it. -/
def written : Option (List Char) → List Char
  | none => []
  | some note => [' ','('] ++ note ++ [')']

theorem Line.noteText_eq (line : Line) : line.noteText = written line.note := by
  obtain ⟨_,_,note,_⟩ := line
  cases note <;> rfl

theorem cuts_closing {note : List Char} (open' : ')' ∉ note) (rest : List Char) :
    Cuts (· != ')') (note ++ ')' :: rest) note (')' :: rest) :=
  ⟨rfl,fun c member => bne_iff_ne.mpr fun same => open' (same ▸ member),by simp⟩

/-- A note is passed over, and so is a note that is missing. -/
theorem after?_skipNote {noted told : List Char} : after? [':',' '] (skipNote noted) = some told ↔
    ∃ note : Option (List Char), (∀ words ∈ note, ')' ∉ words) ∧ noted = written note ++ [':',' '] ++ told := by
  constructor
  · intro found
    rw [after?_eq_some_iff] at found
    cases begun : after? [' ','('] noted with
    | none =>
      rw [skipNote,begun] at found
      exact ⟨none,by simp,found⟩
    | some inside =>
      have opened := after?_eq_some_iff.mp begun
      cases closed : after? [')'] (inside.dropWhile (· != ')')) with
      | none =>
        -- A blank is no colon, so a parenthesis that stays open is no message either.
        simp only [skipNote,begun,closed] at found
        rw [opened] at found
        cases found
      | some rest =>
        simp only [skipNote,begun,closed] at found
        have cuts := cuts_takeWhile (· != ')') inside
        rw [after?_eq_some_iff.mp closed] at cuts
        generalize inside.takeWhile (· != ')') = words at cuts
        refine ⟨some words,?_,?_⟩
        · rintro _ ⟨⟩ member
          simpa using cuts.within _ member
        · rw [opened,cuts.joined,found]
          simp [written]
  · rintro ⟨note,closed,rfl⟩
    cases note with
    | none => rfl
    | some note =>
      have ends := cuts_closing (closed note rfl) ([':',' '] ++ told)
      have inside : written (some note) ++ [':',' '] ++ told = [' ','('] ++ (note ++ ')' :: ([':',' '] ++ told)) := by
        simp [written]
      have rest : after? [')'] (')' :: ([':',' '] ++ told)) = some ([':',' '] ++ told) := after?_append [')'] _
      rw [inside,skipNote,after?_append]
      simp only [ends.dropWhile_eq,rest]
      exact after?_append [':',' '] told

theorem written_unique {one other : Option (List Char)} {told otherTold : List Char}
    (closed : ∀ words ∈ one, ')' ∉ words) (otherClosed : ∀ words ∈ other, ')' ∉ words)
    (same : written one ++ [':',' '] ++ told = written other ++ [':',' '] ++ otherTold) : one = other ∧ told = otherTold := by
  cases one with
  | none =>
    cases other with
    | none => simpa [written] using same
    | some words => simp [written] at same
  | some words =>
    cases other with
    | none => simp [written] at same
    | some others =>
      have inside : words ++ ')' :: ([':',' '] ++ told) = others ++ ')' :: ([':',' '] ++ otherTold) := by
        simpa [written] using same
      have cuts := cuts_closing (closed words rfl) ([':',' '] ++ told)
      rw [inside] at cuts
      obtain ⟨rfl,rest⟩ := cuts.unique (cuts_closing (otherClosed others rfl) _)
      simpa using rest

/-! ### Lines -/

/-- A line is written where some characters begin, and its message ends where their first
    line ends. -/
structure Line.Begins (line : Line) (chars : List Char) : Prop where
  wellFormed : line.WellFormed
  written : ∃ rest, chars = line.text ++ rest ∧ ∀ c ∈ rest.head?, c = '\n'

/-- How some characters are cut into the parts of a line. -/
structure Line.Parts (line : Line) (chars inside called noted told rest : List Char) : Prop where
  opened : chars = opening ++ inside
  code : Cuts (· != ')') inside line.code (calling ++ called)
  operation : Cuts isWord called line.operation (ErrorLine.operation ++ noted)
  noted : noted = written line.note ++ [':',' '] ++ told
  message : Cuts (· != '\n') told line.message rest

theorem Line.begins_iff {line : Line} : line.Begins chars ↔ line.code ≠ [] ∧ line.operation ≠ [] ∧
    (∀ note ∈ line.note, ')' ∉ note) ∧ ∃ inside called noted told rest, line.Parts chars inside called noted told rest := by
  have text (rest : List Char) : line.text ++ rest = opening ++ (line.code ++ (calling ++ (line.operation ++
      (ErrorLine.operation ++ (ErrorLine.written line.note ++ [':',' '] ++ (line.message ++ rest)))))) := by
    simp only [Line.text,line.noteText_eq,List.append_assoc]
  constructor
  · rintro ⟨⟨coded,closed,operated,word,noteClosed,flat⟩,rest,rfl,ends⟩
    refine ⟨coded,operated,noteClosed,_,_,_,_,rest,text rest,⟨rfl,?_,?_⟩,⟨rfl,word,?_⟩,rfl,⟨rfl,?_,?_⟩⟩
    · exact fun c member => bne_iff_ne.mpr fun same => closed (same ▸ member)
    · exact fun c first => by cases first; decide
    · exact fun c first => by cases first; decide
    · exact fun c member => bne_iff_ne.mpr fun same => flat (same ▸ member)
    · exact fun c first => by simp [ends c first]
  · rintro ⟨coded,operated,noteClosed,inside,called,noted,told,rest,parts⟩
    refine ⟨⟨coded,fun member => ?_,operated,parts.operation.within,noteClosed,fun member => ?_⟩,rest,?_,?_⟩
    · simpa using parts.code.within _ member
    · simpa using parts.message.within _ member
    · rw [text,← parts.message.joined,← parts.noted,← parts.operation.joined,← parts.code.joined,← parts.opened]
    · exact fun c first => by simpa using parts.message.stops c first

/-- There is at most one line where characters begin. -/
theorem Line.Begins.unique {line other : Line} (one : line.Begins chars) (another : other.Begins chars) : line = other := by
  obtain ⟨-,-,closed,inside,called,noted,told,rest,parts⟩ := Line.begins_iff.mp one
  obtain ⟨-,-,otherClosed,_,_,_,_,_,others⟩ := Line.begins_iff.mp another
  have sameInside := List.append_cancel_left (parts.opened.symm.trans others.opened)
  subst sameInside
  obtain ⟨sameCode,later⟩ := parts.code.unique others.code
  have sameCalled := List.append_cancel_left later
  subst sameCalled
  obtain ⟨sameOperation,later⟩ := parts.operation.unique others.operation
  have sameNoted := List.append_cancel_left later
  obtain ⟨sameNote,sameTold⟩ := written_unique closed otherClosed (parts.noted.symm.trans (sameNoted.trans others.noted))
  subst sameTold
  obtain ⟨sameMessage,-⟩ := parts.message.unique others.message
  obtain ⟨_,_,_,_⟩ := line
  obtain ⟨_,_,_,_⟩ := other
  simp_all

/-- The reader finds a code and a message exactly if they are those of a line. -/
theorem matchHere_eq_some_iff : matchHere chars = some (code,message) ↔
    ∃ line : Line, line.Begins chars ∧ line.code = code ∧ line.message = message := by
  simp only [matchHere,Option.bind_eq_bind,Option.bind_eq_some_iff]
  constructor
  · rintro ⟨inside,opened,found⟩
    split at found
    · cases found
    rename_i coded
    obtain ⟨called,calls,found⟩ := Option.bind_eq_some_iff.mp found
    split at found
    · cases found
    rename_i operated
    obtain ⟨noted,operates,found⟩ := Option.bind_eq_some_iff.mp found
    obtain ⟨told,colon,found⟩ := Option.bind_eq_some_iff.mp found
    obtain ⟨note,closed,parts⟩ := after?_skipNote.mp colon
    have codeCuts := cuts_takeWhile (· != ')') inside
    rw [after?_eq_some_iff.mp calls] at codeCuts
    have wordCuts := cuts_takeWhile isWord called
    rw [after?_eq_some_iff.mp operates] at wordCuts
    rw [Option.some.injEq,Prod.mk.injEq] at found
    refine ⟨⟨inside.takeWhile (· != ')'),called.takeWhile isWord,note,told.takeWhile (· != '\n')⟩,?_,found⟩
    exact Line.begins_iff.mpr ⟨by simpa using coded,by simpa using operated,closed,inside,called,noted,told,_,
      after?_eq_some_iff.mp opened,codeCuts,wordCuts,parts,cuts_takeWhile _ told⟩
  · rintro ⟨line,begins,rfl,rfl⟩
    obtain ⟨coded,operated,closed,inside,called,noted,told,rest,parts⟩ := Line.begins_iff.mp begins
    refine ⟨inside,after?_eq_some_iff.mpr parts.opened,?_⟩
    rw [parts.code.takeWhile_eq,parts.code.dropWhile_eq,if_neg (by simpa using coded),after?_append,Option.bind_some,
      parts.operation.takeWhile_eq,parts.operation.dropWhile_eq,if_neg (by simpa using operated),after?_append,
      Option.bind_some,after?_skipNote.mpr ⟨line.note,closed,parts.noted⟩,Option.bind_some,parts.message.takeWhile_eq]

theorem matchHere_eq_none_iff : matchHere chars = none ↔ ∀ line : Line, ¬ line.Begins chars := by
  rw [Option.eq_none_iff_forall_ne_some]
  constructor
  · intro none line begins
    exact none _ (matchHere_eq_some_iff.mpr ⟨line,begins,rfl,rfl⟩)
  · rintro none ⟨code,message⟩ found
    obtain ⟨line,begins,-⟩ := matchHere_eq_some_iff.mp found
    exact none line begins

/-! ### Positions -/

theorem find?_eq_none_iff : find? chars = none ↔ ∀ position, matchHere (chars.drop position) = none := by
  induction chars with
  | nil => simp [find?]
  | cons c rest ih =>
    rw [find?,Option.or_eq_none_iff,ih]
    constructor
    · rintro ⟨here,later⟩ position
      cases position with
      | zero => exact here
      | succ position => exact later position
    · intro none
      exact ⟨none 0,fun position => none (position+1)⟩

/-- The first position with a line decides. -/
theorem find?_eq_some_iff {found : List Char × List Char} : find? chars = some found ↔ ∃ position,
    matchHere (chars.drop position) = some found ∧ ∀ earlier < position, matchHere (chars.drop earlier) = none := by
  induction chars with
  | nil =>
    simp only [find?,List.drop_nil]
    exact ⟨fun here => ⟨0,here,by simp⟩,fun ⟨_,here,_⟩ => here⟩
  | cons c rest ih =>
    rw [find?,Option.or_eq_some_iff,ih]
    constructor
    · rintro (here | ⟨missing,position,there,none⟩)
      · exact ⟨0,here,by simp⟩
      · refine ⟨position+1,there,fun earlier before => ?_⟩
        cases earlier with
        | zero => exact missing
        | succ earlier => exact none earlier (Nat.lt_of_succ_lt_succ before)
    · rintro ⟨position,there,none⟩
      cases position with
      | zero => exact .inl there
      | succ position =>
        exact .inr ⟨none 0 (Nat.succ_pos position),position,there,
          fun earlier before => none (earlier+1) (Nat.succ_lt_succ before)⟩

/-! ### Reports -/

/-- The reports of a text without blanks at its ends: the code and the trimmed message of
    the line at the first position that has one, or the whole text if there is none. -/
inductive Reported (kept : List Char) : Report → Prop where
  | line {position : Nat} {line : Line} {message : List Char} (begins : line.Begins (kept.drop position))
    (first : ∀ earlier < position, ∀ other : Line, ¬ other.Begins (kept.drop earlier))
    (trimmed : TrimmedTo line.message message) : Reported kept ⟨some (String.ofList line.code),String.ofList message⟩
  | bare (absent : ∀ position (line : Line), ¬ line.Begins (kept.drop position)) : Reported kept ⟨none,String.ofList kept⟩

theorem reported_report (stderr : String) : Reported (trim stderr.toList) (report stderr) := by
  rw [report]
  cases found : find? (trim stderr.toList) with
  | none => exact .bare fun position => matchHere_eq_none_iff.mp (find?_eq_none_iff.mp found position)
  | some parts =>
    obtain ⟨code,message⟩ := parts
    obtain ⟨position,here,none⟩ := find?_eq_some_iff.mp found
    obtain ⟨line,begins,rfl,rfl⟩ := matchHere_eq_some_iff.mp here
    exact .line begins (fun earlier before => matchHere_eq_none_iff.mp (none earlier before)) (trimmedTo_trim line.message)

theorem Reported.unique {kept : List Char} {one other : Report} (first : Reported kept one) (second : Reported kept other) :
    one = other := by
  cases first with
  | bare absent =>
    cases second with
    | bare _ => rfl
    | line begins _ _ => exact absurd begins (absent _ _)
  | @line position line message begins before trimmed =>
    cases second with
    | bare absent => exact absurd begins (absent _ _)
    | @line otherPosition other otherMessage otherBegins otherBefore otherTrimmed =>
      obtain less | rfl | more := Nat.lt_trichotomy position otherPosition
      · exact absurd begins (otherBefore _ less _)
      · obtain rfl := begins.unique otherBegins
        rw [← trim_eq_iff.mpr trimmed,trim_eq_iff.mpr otherTrimmed]
      · exact absurd otherBegins (before _ more _)

theorem report_eq_iff {stderr : String} {told : Report} : report stderr = told ↔
    ∃ kept, TrimmedTo stderr.toList kept ∧ Reported kept told := by
  constructor
  · rintro rfl
    exact ⟨_,trimmedTo_trim _,reported_report stderr⟩
  · rintro ⟨kept,trimmed,reported⟩
    obtain rfl := trim_eq_iff.mpr trimmed
    exact (reported_report stderr).unique reported

/-- Reports follow the grammar of lines. No two lines begin at one position, and the code
    and the message of a line are as the grammar has them. -/
structure ReadsGrammar (stderr : String) : Prop where
  reported : ∀ told, report stderr = told ↔ ∃ kept, TrimmedTo stderr.toList kept ∧ Reported kept told
  unique : ∀ (kept : List Char) (position : Nat) (line other : Line), line.Begins (kept.drop position) →
    other.Begins (kept.drop position) → line = other
  code : ∀ code, (report stderr).code = some code → code ≠ "" ∧ ')' ∉ code.toList
  message : (report stderr).code.isSome = true → '\n' ∉ (report stderr).message.toList ∧
    TrimmedTo (report stderr).message.toList (report stderr).message.toList

theorem reads_grammar (stderr : String) : ReadsGrammar stderr := by
  refine ⟨fun told => report_eq_iff,fun kept position line other => Line.Begins.unique,?_,?_⟩
  · intro code coded
    have reported := reported_report stderr
    generalize report stderr = told at coded reported
    cases reported with
    | bare _ => cases coded
    | line begins _ _ =>
      obtain rfl := Option.some.inj coded
      obtain ⟨filled,closed,-⟩ := begins.wellFormed
      exact ⟨fun empty => filled (by simpa using congrArg String.toList empty),by rwa [String.toList_ofList]⟩
  · intro coded
    have reported := reported_report stderr
    generalize report stderr = told at coded reported
    cases reported with
    | bare _ => cases coded
    | @line _ line message begins _ trimmed =>
      obtain ⟨before,after,split,-⟩ := trimmed.around
      obtain ⟨-,-,-,-,-,flat⟩ := begins.wellFormed
      simp only [String.toList_ofList]
      refine ⟨fun member => flat ?_,⟨[],[],by simp⟩,trimmed.first,trimmed.last⟩
      rw [split]
      exact List.mem_append_left _ (List.mem_append_right _ member)

/-- A phrase that is no line is passed over, and one inside a code is part of the code. -/
example : report "An error occurred (A) or An error occurred (B An error occurred (C) when calling the D operation (x): y \n" =
    ⟨some "B An error occurred (C","y"⟩ := by decide +kernel

end StackBroker.Stack.ErrorLine
