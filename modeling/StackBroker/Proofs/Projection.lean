import StackBroker.Settings
import StackBroker.Broker.ShownCatalog
import StackBroker.Proofs.Records
import StackBroker.Text.Utf8.Exact

/-!
What callers see of a catalog. The shown catalog is read from the written one through
other records than it was written from, and yet it is exactly what is to be seen, in the
same order and with the same amounts, if every amount is finite; otherwise nothing is
shown (`Catalog.conveys_shown`, `Catalog.shown_eq`). Stack properties never show
(`Catalog.shown_bare`). Amounts that were read are finite (`ServerSettings.ensures_finite`),
so that settings that were loaded show all that they offer (`shown_projection`).
-/
namespace StackBroker
open StackBroker.Json (Codec ensures_record conveys_record record_write_ne_null)
open StackBroker.Json.Codec (restores_string restores_strings restores_bool restores_binary64)

/-! ### Parts that are shown as they are -/

theorem DashboardClient.restores : codec.Restores fun _ => True :=
  conveys_record (by decide) (List.forall_mem_nil _)
    (fun _ => .text rfl rfl <| .text rfl rfl <| .text rfl rfl .done)
    fun _ => by simp

theorem ServiceMetadata.restores : codec.Restores fun _ => True :=
  conveys_record (by decide) (List.forall_mem_nil _)
    (fun _ => .text rfl rfl <| .text rfl rfl <| .text rfl rfl <| .text rfl rfl <| .text rfl rfl <| .text rfl rfl .done)
    fun _ => by simp

theorem Cost.restores : codec.Restores fun cost => cost.isFinite = true :=
  conveys_record (by decide) (List.forall_mem_nil _)
    (fun _ =>
      .sparse restores_binary64.map rfl StringMap.isEmpty_iff.mp ⟨nofun,rfl⟩ <|
      .text rfl rfl .done)
    fun _ => by simp [isFinite]

theorem PlanMetadata.restores : codec.Restores fun metadata => metadata.costs.all Cost.isFinite = true :=
  conveys_record (by decide) (List.forall_mem_nil _)
    (fun _ =>
      .sparse restores_strings rfl List.isEmpty_iff.mp ⟨trivial,rfl⟩ <|
      .sparse Cost.restores.list rfl List.isEmpty_iff.mp ⟨nofun,rfl⟩ <|
      .text rfl rfl .done)
    fun _ => by simp

/-! ### From the written catalog to the shown one -/

/-- Needed fields at the head of a record are always written. -/
theorem writes_heads {α β γ δ : Type} {first second third : String} {codec : Codec β} {get : α → β} {set : β → α → α}
    {codec' : Codec γ} {get' : α → γ} {set' : γ → α → α} {codec'' : Codec δ} {get'' : α → δ} {set'' : δ → α → α}
    {rest : List (Json.Field α)} : ∀ name ∈ [first,second,third],
      Json.Record.Writes (.needed first codec get set :: .needed second codec' get' set' ::
        .needed third codec'' get'' set'' :: rest) name := by
  intro name member
  rcases List.mem_cons.mp member with rfl | later
  · exact .here
  · rcases List.mem_cons.mp later with rfl | last
    · exact .later .here
    · obtain rfl := List.mem_singleton.mp last
      exact .later (.later .here)

theorem Plan.conveys_shown : codec.Conveys ShownPlan.codec (fun plan => plan.pricesFinite = true) seen :=
  conveys_record (by decide) writes_heads
    (fun _ =>
      .always restores_string rfl <|
      .always restores_string rfl <|
      .always restores_string rfl <|
      .sparse (PlanMetadata.restores.option record_write_ne_null) rfl Option.isNone_iff_eq_none.mp ⟨nofun,rfl⟩ <|
      .always restores_bool rfl <|
      -- no shown plan has a field for the stack properties, which come last
      .skip rfl .done)
    fun _ => by simp [pricesFinite,Option.all_eq_true]

theorem Service.conveys_shown :
    codec.Conveys ShownService.codec (fun service => service.pricesFinite = true) seen :=
  conveys_record (by decide) writes_heads
    (fun _ =>
      .always restores_string rfl <|
      .always restores_string rfl <|
      .always restores_string rfl <|
      .sparse restores_bool rfl (Bool.not_eq_true' _).mp ⟨trivial,rfl⟩ <|
      .sparse restores_strings rfl List.isEmpty_iff.mp ⟨trivial,rfl⟩ <|
      .sparse (ServiceMetadata.restores.option record_write_ne_null) rfl Option.isNone_iff_eq_none.mp ⟨nofun,rfl⟩ <|
      .sparse restores_strings rfl List.isEmpty_iff.mp ⟨trivial,rfl⟩ <|
      .always restores_bool rfl <|
      .sparse Plan.conveys_shown.list rfl List.isEmpty_iff.mp ⟨nofun,rfl⟩ <|
      .sparse (DashboardClient.restores.option record_write_ne_null) rfl Option.isNone_iff_eq_none.mp ⟨nofun,rfl⟩
        .done)
    fun _ => by simp [pricesFinite]

/-- The written catalog reads as what is seen of it exactly if its prices are finite. -/
theorem Catalog.conveys_shown :
    codec.Conveys ShownCatalog.codec (fun catalog => catalog.pricesFinite = true) seen :=
  conveys_record (by decide) (List.forall_mem_nil _)
    (fun _ => .sparse Service.conveys_shown.list rfl List.isEmpty_iff.mp ⟨nofun,rfl⟩ .done)
    fun _ => by simp [pricesFinite]

namespace Catalog

theorem shown_eq (catalog : Catalog) : catalog.shown = if catalog.pricesFinite then catalog.seen else .blank := by
  unfold shown
  by_cases finite : catalog.pricesFinite = true
  · rw [(catalog.conveys_shown catalog.seen).mpr ⟨finite,rfl⟩,if_pos finite]
  · rw [if_neg finite]
    cases outcome : ShownCatalog.codec.readJson (codec.write catalog) with
    | error fault => rfl
    | ok shown => exact absurd ((catalog.conveys_shown shown).mp outcome).1 finite

/-! ### Stack properties -/

end Catalog

/-- A plan without its stack properties. -/
def Plan.bare (plan : Plan) : Plan := { plan with properties := .blank }

/-- A service whose plans have no stack properties. -/
def Service.bare (service : Service) : Service := { service with plans := service.plans.map Plan.bare }

namespace Catalog

/-- A catalog without stack properties. Two catalogs differ only in these if they are
    the same without them. -/
def bare (catalog : Catalog) : Catalog := ⟨catalog.services.map Service.bare⟩

theorem seen_bare (catalog : Catalog) : catalog.bare.seen = catalog.seen := by
  simp [seen,bare,Service.seen,Service.bare,Plan.seen,Plan.bare,Function.comp_def]

theorem pricesFinite_bare (catalog : Catalog) : catalog.bare.pricesFinite = catalog.pricesFinite := by
  have service : ∀ service : Service, service.bare.pricesFinite = service.pricesFinite := fun service => by
    simp only [Service.pricesFinite,Service.bare,List.all_map]
    rfl
  simp [pricesFinite,bare,List.all_map,Function.comp_def,service]

theorem shown_bare (catalog : Catalog) : catalog.bare.shown = catalog.shown := by
  rw [shown_eq,shown_eq,seen_bare,pricesFinite_bare]

end Catalog

/-! ### Catalogs that were loaded -/

theorem Cost.ensures_finite : codec.Ensures fun cost => cost.isFinite = true := by
  refine ensures_record rfl ?_
  simp only [List.forall_mem_cons]
  exact ⟨.made Codec.ensures_binary64.map fun _ _ finite _ => List.all_eq_true.mpr finite,
    .other fun _ _ kept => kept,List.forall_mem_nil _⟩

theorem PlanMetadata.ensures_finite : codec.Ensures fun metadata => metadata.costs.all Cost.isFinite = true := by
  refine ensures_record rfl ?_
  simp only [List.forall_mem_cons]
  exact ⟨.other fun _ _ kept => kept,.made Cost.ensures_finite.list fun _ _ finite _ => List.all_eq_true.mpr finite,
    .other fun _ _ kept => kept,List.forall_mem_nil _⟩

theorem Plan.ensures_finite : codec.Ensures fun plan => plan.pricesFinite = true := by
  refine ensures_record rfl ?_
  simp only [List.forall_mem_cons]
  exact ⟨.other fun _ _ kept => kept,.other fun _ _ kept => kept,.other fun _ _ kept => kept,
    .made PlanMetadata.ensures_finite.option fun _ _ finite _ => (Option.all_eq_true ..).mpr finite,
    .other fun _ _ kept => kept,.other fun _ _ kept => kept,List.forall_mem_nil _⟩

theorem Service.ensures_finite : codec.Ensures fun service => service.pricesFinite = true := by
  refine ensures_record rfl ?_
  simp only [List.forall_mem_cons]
  exact ⟨.other fun _ _ kept => kept,.other fun _ _ kept => kept,.other fun _ _ kept => kept,
    .other fun _ _ kept => kept,.other fun _ _ kept => kept,.other fun _ _ kept => kept,
    .other fun _ _ kept => kept,.other fun _ _ kept => kept,
    .made Plan.ensures_finite.list fun _ _ finite _ => List.all_eq_true.mpr finite,
    .other fun _ _ kept => kept,List.forall_mem_nil _⟩

theorem Catalog.ensures_finite : codec.Ensures fun catalog => catalog.pricesFinite = true := by
  refine ensures_record rfl ?_
  simp only [List.forall_mem_cons]
  exact ⟨.made Service.ensures_finite.list fun _ _ finite _ => List.all_eq_true.mpr finite,List.forall_mem_nil _⟩

theorem BrokerSettings.ensures_finite : codec.Ensures fun settings => settings.catalog.pricesFinite = true := by
  refine ensures_record rfl ?_
  simp only [List.forall_mem_cons]
  exact ⟨.other fun _ _ kept => kept,.other fun _ _ kept => kept,.other fun _ _ kept => kept,
    .other fun _ _ kept => kept,.made Catalog.ensures_finite fun _ _ finite _ => finite,List.forall_mem_nil _⟩

/-- No document of settings has a price that is not finite. -/
theorem ServerSettings.ensures_finite :
    codec.Ensures fun settings => settings.broker.catalog.pricesFinite = true := by
  refine ensures_record rfl ?_
  simp only [List.forall_mem_cons]
  exact ⟨.other fun _ _ kept => kept,.other fun _ _ kept => kept,.other fun _ _ kept => kept,
    .made BrokerSettings.ensures_finite fun _ _ finite _ => finite,List.forall_mem_nil _⟩

theorem ServerSettings.load_eq_ok {file : Option (List UInt8)} {settings : ServerSettings} :
    load file = .ok settings ↔ ∃ text, file.bind Utf8.decodeStrict = some text ∧
      codec.readText text = .ok settings ∧ settings.validate = .ok () := by
  unfold load
  cases file.bind Utf8.decodeStrict with
  | none => simp
  | some text =>
    simp only [Option.some.injEq,exists_eq_left']
    cases codec.readText text with
    | error fault => simp
    | ok found =>
      cases valid : found.validate with
      | error fault =>
        have differ : found = settings → settings.validate ≠ .ok () := fun same => by simp [← same,valid]
        simpa [valid,Bind.bind,Except.bind] using differ
      | ok _ =>
        have same : found = settings → settings.validate = .ok () := fun same => by rw [← same,valid]
        simpa [valid,Bind.bind,Except.bind] using same

theorem ServerSettings.load_encode {text : String} {settings : ServerSettings}
    (read : codec.readText text = .ok settings) (valid : settings.validate = .ok ()) :
    load (some (Utf8.encode text)) = .ok settings :=
  load_eq_ok.mpr ⟨text,Utf8.decodeStrict_encode text,read,valid⟩

theorem ServerSettings.pricesFinite_of_load {file : Option (List UInt8)} {settings : ServerSettings}
    (loaded : load file = .ok settings) : settings.broker.catalog.pricesFinite = true := by
  obtain ⟨text,-,read,-⟩ := load_eq_ok.mp loaded
  exact ensures_finite _ _ (Codec.readText_eq_ok.mp read).1

/-! ### What is shown -/

namespace Catalog

/-- An amount stands in a price of some plan. -/
def HasAmount (catalog : Catalog) (amount : Binary64) : Prop :=
  ∃ service ∈ catalog.services, ∃ plan ∈ service.plans, ∃ metadata, plan.metadata = some metadata ∧
    ∃ cost ∈ metadata.costs, ∃ currency, (currency,amount) ∈ cost.amount.entries

theorem pricesFinite_iff {catalog : Catalog} :
    catalog.pricesFinite = true ↔ ∀ amount, catalog.HasAmount amount → amount.isFinite = true := by
  simp only [pricesFinite,Service.pricesFinite,Plan.pricesFinite,Cost.isFinite,List.all_eq_true,Option.all_eq_true]
  constructor
  · rintro finite amount ⟨service,offered,plan,varied,metadata,shown,cost,priced,currency,listed⟩
    exact finite service offered plan varied metadata shown cost priced (currency,amount) listed
  · intro finite service offered plan varied metadata shown cost priced entry listed
    exact finite entry.2 ⟨service,offered,plan,varied,metadata,shown,cost,priced,entry.1,listed⟩

end Catalog

/-- What is shown of catalogs. Where every amount is finite, the written catalog reads as
    exactly what is to be seen of it; an amount that is not finite leaves nothing to show;
    what stack properties say makes no difference; and of settings that were loaded all
    that they offer is shown. -/
structure ShowsProjections : Prop where
  finite : ∀ catalog : Catalog, (∀ amount, catalog.HasAmount amount → amount.isFinite = true) →
    catalog.shown = catalog.seen
  infinite : ∀ (catalog : Catalog) amount, catalog.HasAmount amount → amount.isFinite = false →
    catalog.shown = .blank
  hidden : ∀ first second : Catalog, first.bare = second.bare → first.shown = second.shown
  loaded : ∀ file settings, ServerSettings.load file = .ok settings →
    ShownCatalog.codec.readJson (Catalog.codec.write settings.broker.catalog) = .ok settings.broker.catalog.seen ∧
      settings.broker.catalog.shown = settings.broker.catalog.seen

theorem shown_projection : ShowsProjections where
  finite catalog finite := by rw [catalog.shown_eq,if_pos (Catalog.pricesFinite_iff.mpr finite)]
  infinite catalog amount listed infinite := by
    have refused : ¬ catalog.pricesFinite = true := fun finite => by
      have found := Catalog.pricesFinite_iff.mp finite amount listed
      rw [infinite] at found
      cases found
    rw [catalog.shown_eq,if_neg refused]
  hidden first second same := by rw [← first.shown_bare,same,second.shown_bare]
  loaded file settings loaded := by
    have finite := ServerSettings.pricesFinite_of_load loaded
    exact ⟨(Catalog.conveys_shown _ _).mpr ⟨finite,rfl⟩,by rw [Catalog.shown_eq,if_pos finite]⟩

/-- A catalog of one plan with a price. -/
def pricedCatalog (amount : Binary64) : Catalog :=
  let metadata : PlanMetadata := ⟨[],[⟨StringMap.empty.insert "usd" amount,""⟩],""⟩
  let plan : Plan := ⟨"s","s","d",some metadata,false,{ StackProperties.blank with templateUrl := "t" }⟩
  ⟨[{ Service.blank with id := "db", name := "db", description := "d", plans := [plan] }]⟩

/-- Settings with a price of one and a half. -/
def pricedSettings : ServerSettings := ⟨"info","u","p",⟨"r","cf",false,false,pricedCatalog ⟨0x3FF8000000000000⟩⟩⟩

/-- A document of these settings, most of its records as arrays. -/
def pricedText : String :=
  "[\"info\",\"u\",\"p\",[\"r\",\"cf\",false,false,[[[\"db\",\"db\",\"d\",false,[],null,[],false,[" ++
    "[\"s\",\"s\",\"d\",[[],[[\x7b\"usd\":1.5\x7d]]],false,\x7b\"template_url\":\"t\"\x7d]]]]]]]"

theorem shown_projection_priced :
    ServerSettings.load (some (Utf8.encode pricedText)) = .ok pricedSettings ∧
      pricedSettings.broker.catalog.shown = pricedSettings.broker.catalog.seen ∧
      (pricedCatalog ⟨0x4000000000000000⟩).shown = (pricedCatalog ⟨0x4000000000000000⟩).seen ∧
      (pricedCatalog ⟨0x7FF0000000000000⟩).shown = .blank := by
  have read : (ServerSettings.codec.readText pricedText).toOption = some pricedSettings := by decide +kernel
  have loaded : ServerSettings.load (some (Utf8.encode pricedText)) = .ok pricedSettings := by
    refine ServerSettings.load_encode ?_ rfl
    cases outcome : ServerSettings.codec.readText pricedText with
    | error fault => simp [outcome,Except.toOption] at read
    | ok found => simpa [outcome,Except.toOption] using read
  refine ⟨loaded,(shown_projection.loaded _ _ loaded).2,?_,?_⟩
  · exact shown_projection.finite _ (Catalog.pricesFinite_iff.mp (by decide))
  · refine shown_projection.infinite _ ⟨0x7FF0000000000000⟩ ?_ (by decide +kernel)
    exact ⟨_,List.mem_singleton.mpr rfl,_,List.mem_singleton.mpr rfl,_,rfl,_,List.mem_singleton.mpr rfl,"usd",
      List.mem_singleton.mpr rfl⟩

end StackBroker
