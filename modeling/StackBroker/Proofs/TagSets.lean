import StackBroker.StringMap.Keys
import StackBroker.Tags

/-!
The tags of an action, one by one. The names of tags differ whatever the action is: those
that are made from the action end in other characters than the fixed ones, and than each
other (`Tags.nodup_names`). So no tag is written over another (`Tags.tagged_iff`), there are
as many as were written, and the ids can be read off again (`Tags.get?_id`), which makes
tags of one action at one instant the same only for the same ids (`tag_sets_exact`).
-/
namespace StackBroker

namespace TagSubject

/-- The ids, whether empty or not. -/
def ids (subject : TagSubject) : List String :=
  [subject.serviceId,subject.planId,subject.organizationId,subject.spaceId]

end TagSubject

namespace Tags
variable {action : String} {subject : TagSubject} {time : Instant} {name value : String}

/-- The tags of an action that tell by whom and when it was taken. -/
def bookkeeping (action : String) (time : Instant) : List (String × String) :=
  [("Owner","Cloud Foundry"),(action ++ " by","AWS CloudFormation Service Broker"),(action ++ " at",time.timestamp)]

/-- The tags of an action in the order in which they are written. -/
def written (action : String) (subject : TagSubject) (time : Instant) : List (String × String) :=
  bookkeeping action time ++ subject.entries.filter fun entry => !entry.2.isEmpty

theorem tagsFor_eq (action : String) (subject : TagSubject) (time : Instant) :
    tagsFor action subject time = .ofList (written action subject time) := rfl

/-! ### Names -/

/-- The last character of a text. -/
def ending (text : String) : Option Char := text.toList.getLast?

theorem ending_append (action : String) {suffix : String} {last : Char} (ends : ending suffix = some last) :
    ending (action ++ suffix) = some last := by
  rw [ending] at ends
  rw [ending,String.toList_append,List.getLast?_append,ends,Option.some_or]

theorem endings_bookkeeping (action : String) (time : Instant) :
    (bookkeeping action time).map (ending ∘ Prod.fst) = [some 'r',some 'y',some 't'] := by
  have actor : ending (action ++ " by") = some 'y' := ending_append action (by decide)
  have instant : ending (action ++ " at") = some 't' := ending_append action (by decide)
  have owner : ending "Owner" = some 'r' := by decide
  simp [bookkeeping,actor,instant,owner]

theorem names_ids (subject : TagSubject) :
    subject.entries.map Prod.fst = ["Service ID","Plan ID","Organization ID","Space ID"] := rfl

/-- No name of an id tag is that of another tag. -/
theorem disjoint_names (action : String) (subject : TagSubject) (time : Instant) :
    ((bookkeeping action time).map Prod.fst).Disjoint (subject.entries.map Prod.fst) := by
  -- all names of id tags end in one character, which ends none of the others
  intro name book id
  have ended : ∀ name ∈ subject.entries.map Prod.fst, ending name = some 'D' := by
    rw [names_ids]
    decide
  have among : ending name ∈ ((bookkeeping action time).map Prod.fst).map ending := List.mem_map_of_mem book
  rw [List.map_map,endings_bookkeeping,ended name id] at among
  simp at among

theorem nodup_ids (subject : TagSubject) : (subject.entries.map Prod.fst).Nodup := by
  rw [names_ids]
  decide

theorem nodup_names (action : String) (subject : TagSubject) (time : Instant) :
    ((written action subject time).map Prod.fst).Nodup := by
  have book : ((bookkeeping action time).map Prod.fst).Nodup := by
    refine .of_map ending ?_
    rw [List.map_map,endings_bookkeeping]
    decide
  have kept : ((subject.entries.filter fun entry => !entry.2.isEmpty).map Prod.fst).Sublist
      (subject.entries.map Prod.fst) := List.filter_sublist.map Prod.fst
  have apart := disjoint_names action subject time
  rw [written,List.map_append,List.nodup_append']
  exact ⟨book,kept.nodup (nodup_ids subject),fun _ named id => apart named (kept.subset id)⟩

/-! ### Tags that are found -/

theorem get?_tagsFor :
    (tagsFor action subject time).get? name = some value ↔ (name,value) ∈ written action subject time :=
  StringMap.get?_ofList_of_nodup (nodup_names action subject time)

/-- What an action is tagged with: two tags made from the action, one of the owner, and one
    for each id that is not empty. -/
inductive Tagged (action : String) (subject : TagSubject) (time : Instant) : String → String → Prop where
  | owner : Tagged action subject time "Owner" "Cloud Foundry"
  | actor : Tagged action subject time (action ++ " by") "AWS CloudFormation Service Broker"
  | instant : Tagged action subject time (action ++ " at") time.timestamp
  | service (filled : subject.serviceId ≠ "") : Tagged action subject time "Service ID" subject.serviceId
  | plan (filled : subject.planId ≠ "") : Tagged action subject time "Plan ID" subject.planId
  | organization (filled : subject.organizationId ≠ "") :
    Tagged action subject time "Organization ID" subject.organizationId
  | space (filled : subject.spaceId ≠ "") : Tagged action subject time "Space ID" subject.spaceId

theorem tagged_iff : Tagged action subject time name value ↔ (tagsFor action subject time).get? name = some value := by
  rw [get?_tagsFor,written,List.mem_append,List.mem_filter]
  constructor
  · intro tagged
    cases tagged with
    | owner | actor | instant => exact .inl (by simp [bookkeeping])
    | service filled | plan filled | organization filled | space filled =>
      exact .inr ⟨by simp [TagSubject.entries],by simp [filled]⟩
  · rintro (book | ⟨id,filled⟩)
    · simp only [bookkeeping,List.mem_cons,List.not_mem_nil,or_false,Prod.mk.injEq] at book
      rcases book with ⟨rfl,rfl⟩ | ⟨rfl,rfl⟩ | ⟨rfl,rfl⟩
      · exact .owner
      · exact .actor
      · exact .instant
    · have present : value ≠ "" := by simpa using filled
      simp only [TagSubject.entries,List.mem_cons,List.not_mem_nil,or_false,Prod.mk.injEq] at id
      rcases id with ⟨rfl,rfl⟩ | ⟨rfl,rfl⟩ | ⟨rfl,rfl⟩ | ⟨rfl,rfl⟩
      · exact .service present
      · exact .plan present
      · exact .organization present
      · exact .space present

/-- What is recorded of an id: nothing if it is empty. -/
def recorded (id : String) : Option String := if id = "" then none else some id

theorem recorded_eq_some {id : String} : recorded id = some value ↔ value = id ∧ value ≠ "" := by
  rw [recorded]
  by_cases empty : id = ""
  · simp [empty]
  · rw [if_neg empty,Option.some.injEq]
    constructor
    · rintro rfl
      exact ⟨rfl,empty⟩
    · exact fun ⟨same,_⟩ => same.symm

/-- An id is found under its name as it is recorded. -/
theorem get?_id {id : String} (entry : (name,id) ∈ subject.entries) :
    (tagsFor action subject time).get? name = recorded id := by
  refine Option.ext fun value => ?_
  rw [get?_tagsFor,written,List.mem_append,List.mem_filter,recorded_eq_some]
  constructor
  · rintro (book | ⟨member,filled⟩)
    · have named : name ∈ (bookkeeping action time).map Prod.fst := List.mem_map.mpr ⟨_,book,rfl⟩
      exact absurd (List.mem_map.mpr ⟨_,entry,rfl⟩) (disjoint_names action subject time named)
    · have found := StringMap.lookup_of_mem (nodup_ids subject) member
      rw [StringMap.lookup_of_mem (nodup_ids subject) entry] at found
      exact ⟨(Option.some.inj found).symm,by simpa using filled⟩
  · rintro ⟨rfl,filled⟩
    exact .inr ⟨entry,by simpa using filled⟩

theorem size_tagsFor (action : String) (subject : TagSubject) (time : Instant) :
    (tagsFor action subject time).size = 3 + subject.ids.countP (· ≠ "") := by
  have filled (entry : String × String) : (!entry.2.isEmpty) = decide (entry.2 ≠ "") := by
    by_cases empty : entry.2 = "" <;> simp [empty]
  have counted : (subject.entries.filter fun entry => !entry.2.isEmpty).length = subject.ids.countP (· ≠ "") := by
    simp only [filled]
    rw [← List.countP_eq_length_filter]
    exact (List.countP_map (l := subject.entries) (f := Prod.snd) (p := (· ≠ ""))).symm
  rw [tagsFor_eq,StringMap.size_ofList (nodup_names action subject time),written,List.length_append,counted]
  rfl

/-- The ids can be read off the tags, in which those that are missing are empty. -/
theorem getD_id {id : String} (member : (name,id) ∈ subject.entries) :
    ((tagsFor action subject time).get? name).getD "" = id := by
  rw [get?_id member,recorded]
  split
  · rename_i empty
    exact empty.symm
  · rfl

theorem mem_entries (subject : TagSubject) :
    ("Service ID",subject.serviceId) ∈ subject.entries ∧ ("Plan ID",subject.planId) ∈ subject.entries ∧
      ("Organization ID",subject.organizationId) ∈ subject.entries ∧ ("Space ID",subject.spaceId) ∈ subject.entries := by
  simp [TagSubject.entries]

/-- Tags of one action at one instant differ if an id differs. -/
theorem tagsFor_inj {other : TagSubject} :
    tagsFor action subject time = tagsFor action other time ↔ subject = other := by
  constructor
  · intro same
    have read {name one another : String} (here : (name,one) ∈ subject.entries)
        (there : (name,another) ∈ other.entries) : one = another := by
      calc
        one = ((tagsFor action subject time).get? name).getD "" := (getD_id here).symm
        _ = ((tagsFor action other time).get? name).getD "" := by rw [same]
        _ = another := getD_id there
    obtain ⟨service,plan,organization,space⟩ := mem_entries subject
    obtain ⟨otherService,otherPlan,otherOrganization,otherSpace⟩ := mem_entries other
    rw [TagSubject.mk.injEq]
    exact ⟨read service otherService,read plan otherPlan,read organization otherOrganization,read space otherSpace⟩
  · rintro rfl
    rfl

/-- The tags of an action are exactly those that are written, each under its own name. -/
structure Exact (action : String) (subject : TagSubject) (time : Instant) : Prop where
  size : (tagsFor action subject time).size = 3 + subject.ids.countP (· ≠ "")
  found : ∀ name value, (tagsFor action subject time).get? name = some value ↔ Tagged action subject time name value
  /-- No tag is written over another. -/
  apart : ((written action subject time).map Prod.fst).Nodup
  service : (tagsFor action subject time).get? "Service ID" = recorded subject.serviceId
  plan : (tagsFor action subject time).get? "Plan ID" = recorded subject.planId
  organization : (tagsFor action subject time).get? "Organization ID" = recorded subject.organizationId
  space : (tagsFor action subject time).get? "Space ID" = recorded subject.spaceId

theorem exact_tagsFor (action : String) (subject : TagSubject) (time : Instant) : Exact action subject time where
  size := size_tagsFor action subject time
  found _ _ := tagged_iff.symm
  apart := nodup_names action subject time
  service := get?_id (mem_entries subject).1
  plan := get?_id (mem_entries subject).2.1
  organization := get?_id (mem_entries subject).2.2.1
  space := get?_id (mem_entries subject).2.2.2

/-- Whatever an action is called, its tags are exactly what it is tagged with, and they are the
    same only for the same ids. -/
theorem tag_sets_exact (action : String) (time : Instant) :
    (∀ subject, Exact action subject time) ∧
      ∀ one other, tagsFor action one time = tagsFor action other time ↔ one = other :=
  ⟨fun subject => exact_tagsFor action subject time,fun _ _ => tagsFor_inj⟩

/-- An action that is called like a tag, and only two ids. -/
example : (tagsFor "Owner" ⟨"","small","","s"⟩ .epoch).keys = ["Owner","Owner at","Owner by","Plan ID","Space ID"] := by
  decide

end Tags
end StackBroker
