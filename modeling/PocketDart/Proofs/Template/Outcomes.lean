import PocketDart.Proofs.Fallible
import PocketDart.Proofs.Lookup
import PocketDart.Proofs.Template.Drafts

/-
  This file proves what comes of a draft in a language that
  does what is documented: its literal texts with line feeds
  for all line breaks and the filtered values in order, or
  else the fault of the first slot that gives no text.

  Key definitions include:
    * `Template.Draft.assemble`
    * `Template.Language.outcome`
    * `Template.Language.fill`
    * `Template.Language.FailsOpenly`
    * `Template.Language.OwnFiltersOnly`

  Key theorems include:
    * `Template.Language.result_eq_outcome`
    * `Template.Language.failsWithOwn_outcome_iff`
    * `Template.Language.outcome_eq_fill_iff`
    * `Template.Language.failsOpenly_of_not_isGiven`
-/

------------------------------------------------------------
-- Line Breaks
------------------------------------------------------------

namespace PocketDart

namespace Text

/- Text without returns has line feeds only. -/
theorem unifyBreaks_append_of_notMem
    {xs : List Char}
    (hNone : '\r' ∉ xs)
    (ys : List Char) :
    unifyBreaks (xs ++ ys) = xs ++ unifyBreaks ys := by
  induction xs with
  | nil => rfl
  | cons c rest ih =>
      rw [List.mem_cons, not_or] at hNone
      rw [List.cons_append,
        unifyBreaks.eq_3 _ _
          (fun _ hReturn => absurd hReturn (Ne.symm hNone.1))
          (fun hReturn => absurd hReturn (Ne.symm hNone.1)),
        ih hNone.2]
      rfl

/- So it is left as it is. -/
theorem unifyBreaks_of_notMem
    {cs : List Char}
    (hNone : '\r' ∉ cs) :
    unifyBreaks cs = cs := by
  have hNil := unifyBreaks_append_of_notMem hNone []
  simpa [unifyBreaks] using hNil

/- No other line breaks are left. -/
theorem return_notMem_unifyBreaks (cs : List Char) :
    '\r' ∉ unifyBreaks cs := by
  induction cs using unifyBreaks.induct with
  | case1 rest ih => simpa [unifyBreaks] using ih
  | case2 rest hNext ih =>
      rw [unifyBreaks.eq_2 _ hNext]
      simpa using ih
  | case3 c rest hNext hReturn ih =>
      rw [unifyBreaks.eq_3 _ _ hNext hReturn, List.mem_cons,
        not_or]
      exact ⟨fun hEq => hReturn hEq.symm, ih⟩
  | case4 => simp [unifyBreaks]

end Text

------------------------------------------------------------
-- Assembled Drafts
------------------------------------------------------------

namespace Template

namespace Draft

variable {Fault : Type}

/-
  A draft piece by piece, where literal texts are spelled in
  some way and slots have some result. The first slot that
  fails ends it.
-/
def assemble
    (spell : List Char → List Char)
    (fill : Slot → Except Fault String) :
    Draft → Except Fault String
  | .literal cs => .ok (String.ofList (spell cs))
  | .filled cs slot rest => do
      let first ← fill slot
      let more ← rest.assemble spell fill
      return String.ofList (spell cs) ++ (first ++ more)

variable {spell : List Char → List Char}
variable {fill : Slot → Except Fault String}

/- The results of the slots are all that matters of them. -/
theorem assemble_congr
    {other : Slot → Except Fault String}
    {draft : Draft}
    (hSame : ∀ slot ∈ draft.slots, fill slot = other slot) :
    draft.assemble spell fill =
      draft.assemble spell other := by
  induction draft with
  | literal cs => rfl
  | filled cs slot rest ih =>
      rcases List.forall_mem_cons.mp hSame with
        ⟨hSlot, hRest⟩
      rw [assemble, assemble, hSlot, ih hRest]

theorem assemble_eq_ok_iff (draft : Draft) :
    (∃ text, draft.assemble spell fill = .ok text) ↔
      ∀ slot ∈ draft.slots, ∃ text, fill slot = .ok text := by
  induction draft with
  | literal cs => simp [assemble, slots]
  | filled cs slot rest ih =>
      rw [slots, List.forall_mem_cons, ← ih, assemble]
      cases fill slot with
      | error fault => simp
      | ok first =>
          cases rest.assemble spell fill with
          | error fault => simp
          | ok more => simp [pure, Except.pure]

theorem assemble_eq_error_iff
    {draft : Draft}
    {fault : Fault} :
    draft.assemble spell fill = .error fault ↔
      ∃ before slot after,
        draft.slots = before ++ slot :: after ∧
          (∀ other ∈ before, ∃ text, fill other = .ok text) ∧
          fill slot = .error fault := by
  induction draft with
  | literal cs => simp [assemble, slots]
  | filled cs first rest ih =>
      rw [assemble, slots, Fallible.bind_eq_error]
      constructor
      · rintro (hFirst | ⟨text, hFirst, hMore⟩)
        · exact ⟨[], first, rest.slots, rfl, nofun, hFirst⟩
        rcases Fallible.bind_eq_error.mp hMore with
          hRest | ⟨_, _, hPure⟩
        · rcases ih.mp hRest with
            ⟨before, slot, after, hSlots, hBefore, hSlot⟩
          refine ⟨first :: before, slot, after, ?_, ?_, hSlot⟩
          · rw [hSlots, List.cons_append]
          · exact List.forall_mem_cons.mpr
              ⟨⟨text, hFirst⟩, hBefore⟩
        · cases hPure
      · rintro ⟨before, slot, after, hSlots, hBefore, hSlot⟩
        rcases List.cons_eq_append_iff.mp hSlots with
          ⟨rfl, hCons⟩ | ⟨more, rfl, hRest⟩
        · cases hCons
          exact .inl hSlot
        · rcases List.forall_mem_cons.mp hBefore with
            ⟨⟨text, hFirst⟩, hMore⟩
          refine .inr ⟨text, hFirst,
            Fallible.bind_eq_error.mpr (.inl (ih.mpr ?_))⟩
          exact ⟨more, slot, after, hRest, hMore, hSlot⟩

/-
  The text as it is written has the returns of its literal
  texts besides those of the unified text.
-/
theorem count_assemble
    {draft : Draft}
    {written unified : String}
    (hWritten : draft.assemble id fill = .ok written)
    (hUnified :
      draft.assemble Text.unifyBreaks fill = .ok unified) :
    written.toList.count '\r' =
      unified.toList.count '\r' +
        draft.literals.flatten.count '\r' := by
  have hNone : ∀ cs,
      (Text.unifyBreaks cs).count '\r' = 0 := fun cs =>
    List.count_eq_zero.mpr
      (Text.return_notMem_unifyBreaks cs)
  induction draft generalizing written unified with
  | literal cs =>
      rcases hWritten with ⟨⟩
      rcases hUnified with ⟨⟩
      simp [literals, hNone]
  | filled cs slot rest ih =>
      rcases Fallible.bind_eq_ok.mp hWritten with
        ⟨first, hFirst, hRest⟩
      rcases Fallible.bind_eq_ok.mp hRest with
        ⟨more, hMore, ⟨⟩⟩
      rcases Fallible.bind_eq_ok.mp hUnified with
        ⟨first', hFirst', hRest'⟩
      rcases Fallible.bind_eq_ok.mp hRest' with
        ⟨more', hMore', ⟨⟩⟩
      rcases hFirst.symm.trans hFirst' with ⟨⟩
      simp only [literals, String.toList_append,
        String.toList_ofList, List.count_append,
        List.flatten_cons, hNone, ih hMore hMore', id]
      omega

/- What has line feeds only comes out as it is written. -/
theorem assemble_of_hasFeedsOnly
    {draft : Draft}
    (hFeeds : draft.HasFeedsOnly) :
    draft.assemble Text.unifyBreaks fill =
      draft.assemble id fill := by
  induction draft with
  | literal cs =>
      rw [assemble, assemble, Text.unifyBreaks_of_notMem
        (hFeeds cs List.mem_cons_self), id]
  | filled cs slot rest ih =>
      rcases List.forall_mem_cons.mp hFeeds with
        ⟨hFirst, hRest⟩
      rw [assemble, assemble, ih hRest,
        Text.unifyBreaks_of_notMem hFirst, id]

theorem assemble_unify_iff
    {draft : Draft}
    {text : String}
    (hText : draft.assemble id fill = .ok text) :
    draft.assemble Text.unifyBreaks fill = .ok text ↔
      draft.HasFeedsOnly := by
  constructor
  · intro hUnified cs hMem hReturn
    have hCount := count_assemble hText hUnified
    have hZero : draft.literals.flatten.count '\r' = 0 := by
      omega
    exact List.count_eq_zero.mp hZero
      (List.mem_flatten.mpr ⟨cs, hMem, hReturn⟩)
  · intro hFeeds
    rw [assemble_of_hasFeedsOnly hFeeds, hText]

theorem IsPlain.rest
    {isName : String → Bool}
    {cs : List Char}
    {slot : Slot}
    {rest : Draft}
    (hPlain : (filled cs slot rest).IsPlain isName) :
    rest.IsPlain isName where
  sound := hPlain.sound.2.2
  apart := by
    have hKeys : ∀ key ∈ selfName :: rest.keys,
        key ∈ selfName :: (filled cs slot rest).keys :=
      List.forall_mem_cons.mpr ⟨List.mem_cons_self,
        fun key hKey =>
          List.mem_cons_of_mem _ (List.mem_cons_of_mem _ hKey)⟩
    intro one hOne other hOther
    exact hPlain.apart one (hKeys one hOne) other
      (hKeys other hOther)

end Draft

------------------------------------------------------------
-- Outcomes
------------------------------------------------------------

namespace Language

variable {Thing Parsed Fault : Type}
variable {language : Language Thing Parsed Fault}
variable {filters : Filters Thing Fault}
variable {template : Option String} {values : Values}
variable {draft : Draft}

section

variable (language : Language Thing Parsed Fault)
variable (filters : Filters Thing Fault)

/- What comes of a draft, with line feeds for all breaks. -/
def outcome
    (template : Option String)
    (values : Values)
    (draft : Draft) : Except Fault String :=
  draft.assemble Text.unifyBreaks
    (language.slotOutcome filters template values)

def fillSlot
    (values : Values)
    (slot : Slot) : Except Fault String :=
  let value := (values.lookup slot.key.name).getD ""
  language.shown filters slot (language.view.text value)

/- The literal texts and the filtered values, in order. -/
def fill
    (values : Values)
    (draft : Draft) : Except Fault String :=
  draft.assemble id (language.fillSlot filters values)

/-
  The first slot that gives no text fails with a fault of
  the language's own.
-/
def FailsOpenly
    (template : Option String)
    (values : Values)
    (draft : Draft) : Prop :=
  ∃ before slot after,
    draft.slots = before ++ slot :: after ∧
      (∀ other ∈ before, ∃ text,
        language.slotOutcome filters template values other =
          .ok text) ∧
      language.FailsWithOwn
        (language.slotOutcome filters template values slot)

end

/- A plain draft is rendered piece by piece. -/
theorem result_eq_outcome
    (hLanguage : language.IsDocumented)
    (hSelf : values.lookup selfName = none)
    (hPlain : draft.IsPlain language.isName)
    (hKnown : draft.FiltersKnown filters) :
    language.result filters template values draft.text =
      language.outcome filters template values draft := by
  induction draft with
  | literal cs =>
      exact hLanguage.literal filters template values cs hSelf
        hPlain.sound
  | filled cs slot rest ih =>
      have hRest : rest.FiltersKnown filters :=
        (List.forall_mem_cons.mp hKnown).2
      rw [hLanguage.filled filters template values cs slot
        rest hSelf hPlain hKnown, ih hPlain.rest hRest]
      rfl

theorem failsWithOwn_outcome_iff :
    language.FailsWithOwn
        (language.outcome filters template values draft) ↔
      language.FailsOpenly filters template values draft := by
  constructor
  · rintro ⟨fault, hFault, hOwn⟩
    rcases Draft.assemble_eq_error_iff.mp hFault with
      ⟨before, slot, after, hSlots, hBefore, hSlot⟩
    exact ⟨before, slot, after, hSlots, hBefore,
      fault, hSlot, hOwn⟩
  · rintro ⟨before, slot, after, hSlots, hBefore,
      fault, hSlot, hOwn⟩
    exact ⟨fault, Draft.assemble_eq_error_iff.mpr
      ⟨before, slot, after, hSlots, hBefore, hSlot⟩, hOwn⟩

/- A given text stands for its variable. -/
theorem slotOutcome_of_isGiven
    {slot : Slot}
    (hGiven : slot.IsGiven values) :
    language.slotOutcome filters template values slot =
      language.fillSlot filters values slot := by
  rcases Option.isSome_iff_exists.mp hGiven with
    ⟨value, hValue⟩
  rw [slotOutcome, standsFor, fillSlot, hValue]
  rfl

/-
  With all variables given, what comes of a draft is what is
  written exactly if all slots give texts and all line
  breaks are line feeds.
-/
theorem outcome_eq_fill_iff
    (hGiven : draft.IsGiven values) :
    (∃ text,
        language.fill filters values draft = .ok text ∧
        language.outcome filters template values draft =
          .ok text) ↔
      draft.HasFeedsOnly ∧ ∀ slot ∈ draft.slots,
        ∃ text, language.fillSlot filters values slot =
          .ok text := by
  have hSame :
      language.outcome filters template values draft =
        draft.assemble Text.unifyBreaks
          (language.fillSlot filters values) :=
    Draft.assemble_congr fun slot hSlot =>
      slotOutcome_of_isGiven (hGiven slot hSlot)
  rw [hSame, ← Draft.assemble_eq_ok_iff draft]
  constructor
  · rintro ⟨text, hText, hUnified⟩
    exact ⟨(Draft.assemble_unify_iff hText).mp hUnified,
      text, hText⟩
  · rintro ⟨hFeeds, text, hText⟩
    exact ⟨text, hText,
      (Draft.assemble_unify_iff hText).mpr hFeeds⟩

------------------------------------------------------------
-- Filters of the Store
------------------------------------------------------------

/- Only filters that the store adds to the language. -/
def OwnFiltersOnly (draft : Draft) : Prop :=
  ∀ slot ∈ draft.slots, ∀ name ∈ slot.filterNames,
    (Filter.ofName? name).isSome

instance (draft : Draft) :
    Decidable (OwnFiltersOnly draft) := by
  unfold OwnFiltersOnly
  infer_instance

theorem filter?_of_ofName?
    (language : Language Thing Parsed Fault)
    {name : String}
    {filter : Filter}
    (hFilter : Filter.ofName? name = some filter) :
    language.filter? name =
      some (filter.apply language.view) := by
  rw [filter?, hFilter]

theorem OwnFiltersOnly.filtersKnown
    (hOwn : OwnFiltersOnly draft)
    (language : Language Thing Parsed Fault) :
    draft.FiltersKnown language.filter? := by
  intro slot hSlot name hName
  rcases Option.isSome_iff_exists.mp (hOwn slot hSlot name hName)
    with ⟨filter, hFilter⟩
  rw [filter?_of_ofName? language hFilter]
  rfl

theorem apply_text
    (hLanguage : language.IsDocumented)
    (filter : Filter)
    (text : String) :
    ∃ result, filter.apply language.view
        (language.view.text text) =
      .ok (language.view.text result) := by
  cases filter with
  | memberCase =>
      rw [Filter.apply, hLanguage.asText_text]
      exact ⟨_, rfl⟩
  | typeCase =>
      rw [Filter.apply, hLanguage.asText_text]
      exact ⟨_, rfl⟩
  | literal =>
      rw [Filter.apply, hLanguage.display_text]
      exact ⟨_, rfl⟩

theorem apply_undefined
    (hLanguage : language.IsDocumented)
    (filter : Filter)
    (name : String) :
    language.FailsWithOwn
      (filter.apply language.view
        (language.undefined name)) := by
  cases filter with
  | memberCase =>
      rcases hLanguage.asText_undefined .split name with
        ⟨fault, hFault, hOwn⟩
      rw [Filter.apply, hFault]
      exact ⟨fault, rfl, hOwn⟩
  | typeCase =>
      rcases hLanguage.asText_undefined .lower name with
        ⟨fault, hFault, hOwn⟩
      rw [Filter.apply, hFault]
      exact ⟨fault, rfl, hOwn⟩
  | literal =>
      rcases hLanguage.display_undefined name with
        ⟨fault, hFault, hOwn⟩
      rw [Filter.apply, hFault]
      exact ⟨fault, rfl, hOwn⟩

theorem foldlM_text
    (hLanguage : language.IsDocumented)
    {names : List String}
    (hOwn : ∀ name ∈ names, (Filter.ofName? name).isSome)
    (text : String) :
    ∃ result, (names.filterMap language.filter?).foldlM
        (fun thing filter => filter thing)
        (language.view.text text) =
      .ok (language.view.text result) := by
  induction names generalizing text with
  | nil => exact ⟨text, rfl⟩
  | cons name rest ih =>
      rcases List.forall_mem_cons.mp hOwn with
        ⟨hName, hRest⟩
      rcases Option.isSome_iff_exists.mp hName with
        ⟨filter, hFilter⟩
      rcases apply_text hLanguage filter text with
        ⟨next, hNext⟩
      rw [List.filterMap_cons_some
          (filter?_of_ofName? language hFilter),
        List.foldlM_cons, hNext]
      exact ih hRest next

theorem shown_text
    (hLanguage : language.IsDocumented)
    {slot : Slot}
    (hOwn : ∀ name ∈ slot.filterNames,
      (Filter.ofName? name).isSome)
    (text : String) :
    ∃ result, language.shown language.filter? slot
      (language.view.text text) = .ok result := by
  rcases foldlM_text hLanguage hOwn text with
    ⟨result, hResult⟩
  refine ⟨result, ?_⟩
  rw [shown, Slot.filtered, hResult]
  exact hLanguage.display_text result

theorem shown_undefined
    (hLanguage : language.IsDocumented)
    {slot : Slot}
    (hOwn : ∀ name ∈ slot.filterNames,
      (Filter.ofName? name).isSome)
    (name : String) :
    language.FailsWithOwn
      (language.shown language.filter? slot
        (language.undefined name)) := by
  rw [shown, Slot.filtered]
  cases hNames : slot.filterNames with
  | nil => exact hLanguage.display_undefined name
  | cons first rest =>
      have hFirst : first ∈ slot.filterNames :=
        hNames ▸ List.mem_cons_self
      rcases Option.isSome_iff_exists.mp (hOwn first hFirst)
        with ⟨filter, hFilter⟩
      rcases apply_undefined hLanguage filter name with
        ⟨fault, hFault, hFails⟩
      rw [List.filterMap_cons_some
          (filter?_of_ofName? language hFilter),
        List.foldlM_cons, hFault]
      exact ⟨fault, rfl, hFails⟩

/-
  With such filters a draft fails openly if some variable is
  not given and the language knows none of them.
-/
theorem failsOpenly_of_not_isGiven
    (hLanguage : language.IsDocumented)
    (hOwn : OwnFiltersOnly draft)
    (hUnknown : ∀ key ∈ draft.keys,
      language.known? template key = none)
    (hGiven : ¬draft.IsGiven values) :
    language.FailsOpenly language.filter? template values
      draft := by
  induction draft with
  | literal cs => exact absurd nofun hGiven
  | filled cs slot rest ih =>
      rcases List.forall_mem_cons.mp hOwn with
        ⟨hSlot, hRest⟩
      rcases List.forall_mem_cons.mp hUnknown with
        ⟨hKey, hKeys⟩
      by_cases hFirst : slot.IsGiven values
      · have hMore : ¬rest.IsGiven values := fun hAll =>
          hGiven (List.forall_mem_cons.mpr ⟨hFirst, hAll⟩)
        rcases ih hRest hKeys hMore with
          ⟨before, other, after, hSlots, hBefore, hFails⟩
        refine ⟨slot :: before, other, after, ?_, ?_, hFails⟩
        · rw [Draft.slots, hSlots, List.cons_append]
        · refine List.forall_mem_cons.mpr ⟨?_, hBefore⟩
          rw [slotOutcome_of_isGiven hFirst]
          exact shown_text hLanguage hSlot _
      · have hNone : values.lookup slot.key.name = none :=
          Option.not_isSome_iff_eq_none.mp hFirst
        refine ⟨[], slot, rest.slots, rfl, nofun, ?_⟩
        rw [slotOutcome, standsFor, hNone, hKey]
        exact shown_undefined hLanguage hSlot _

end Language

end Template

end PocketDart
