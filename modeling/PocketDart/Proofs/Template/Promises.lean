import PocketDart.Generation.Custom
import PocketDart.Proofs.Template.Caching
import PocketDart.Proofs.Template.Shipped

/-
  This file proves which promises an engine keeps. It is
  promised that the text which was added last under a name
  counts, or else the shipped template, and that a rendering
  gives the whole text if all variables are given and all
  filters are known, and is an error otherwise.

  Key definitions include:
    * `Template.Draft.IsComplete`
    * `Template.IsPromised`
    * `Template.IsKept`
    * `TemplateEngine.Request.spelled`
    * `TemplateEngine.IsPromised`
    * `TemplateEngine.IsKept`

  Key theorems include:
    * `Template.isPromised_iff`
    * `Template.isKept_iff_of_ownFiltersOnly`
    * `TemplateEngine.find_after`
    * `TemplateEngine.keeps_promise_iff`
-/

------------------------------------------------------------
-- Renderings
------------------------------------------------------------

namespace PocketDart

variable {Thing Parsed Fault : Type}

namespace Template

/- All variables are given and all filters are known. -/
structure Draft.IsComplete
    (filters : Filters Thing Fault)
    (values : Values)
    (draft : Draft) : Prop where
  known : draft.FiltersKnown filters
  given : draft.IsGiven values

/-
  A rendering gives the literal texts and the filtered values
  if the draft is complete, and otherwise an error that tells
  the place and some fault of the language's own.
-/
structure IsPromised
    (language : Language Thing Parsed Fault)
    (place : Fault → TemplateError Fault)
    (values : Values)
    (draft : Draft)
    (result : Except (TemplateError Fault) String) :
    Prop where
  complete :
    draft.IsComplete language.filter? values →
      ∃ text,
        language.fill language.filter? values draft =
          .ok text ∧
        result = .ok text
  incomplete :
    ¬draft.IsComplete language.filter? values →
      ∃ fault, language.isOwn fault ∧
        result = .error (place fault)

/-
  If all filters are known, the name of the template itself
  is not given. If all variables are, all line breaks are
  line feeds and all slots give texts. If some variable is
  not given, the first slot that gives no text fails with a
  fault of the language's own.
-/
def IsKept
    (language : Language Thing Parsed Fault)
    (template : Option String)
    (values : Values)
    (draft : Draft) : Prop :=
  draft.FiltersKnown language.filter? →
    values.lookup selfName = none ∧
      (draft.IsGiven values →
        draft.HasFeedsOnly ∧ ∀ slot ∈ draft.slots,
          ∃ text,
            language.fillSlot language.filter? values slot =
              .ok text) ∧
      (¬draft.IsGiven values →
        language.FailsOpenly language.filter? template values
          draft)

variable {language : Language Thing Parsed Fault}
variable {template : Option String} {values : Values}
variable {draft : Draft}

/-
  With the filters of the store only, and no variable that
  the language knows, the promise is kept unless the name of
  the template itself is given or line breaks are changed.
-/
theorem isKept_iff_of_ownFiltersOnly
    (hLanguage : language.IsDocumented)
    (hOwn : Language.OwnFiltersOnly draft)
    (hUnknown : ∀ key ∈ draft.keys,
      language.known? template key = none) :
    IsKept language template values draft ↔
      values.lookup selfName = none ∧
        (draft.IsGiven values → draft.HasFeedsOnly) := by
  constructor
  · intro hKept
    rcases hKept (hOwn.filtersKnown language) with
      ⟨hSelf, hGiven, _⟩
    exact ⟨hSelf, fun hAll => (hGiven hAll).1⟩
  · rintro ⟨hSelf, hFeeds⟩ _
    refine ⟨hSelf, fun hGiven => ⟨hFeeds hGiven, ?_⟩, ?_⟩
    · intro slot hSlot
      exact Language.shown_text hLanguage (hOwn slot hSlot) _
    · exact Language.failsOpenly_of_not_isGiven hLanguage
        hOwn hUnknown

def IsPlace (place : Fault → TemplateError Fault) : Prop :=
  ∀ fault other, place fault ≠ .escaped other

variable {place : Fault → TemplateError Fault}

theorem mapError_ofFault_iff
    (hPlace : IsPlace place)
    {A : Type}
    {step : Except Fault A} :
    (∃ fault, language.isOwn fault ∧
        step.mapError (.ofFault language place) =
          .error (place fault)) ↔
      language.FailsWithOwn step := by
  constructor
  · rintro ⟨fault, _, hTold⟩
    rcases Fallible.mapError_eq_error.mp hTold with
      ⟨cause, hCause, hPlaced⟩
    refine ⟨cause, hCause, ?_⟩
    by_contra hOwn
    rw [TemplateError.ofFault, if_neg hOwn] at hPlaced
    exact hPlace fault cause hPlaced.symm
  · rintro ⟨fault, hFault, hOwn⟩
    refine ⟨fault, hOwn, ?_⟩
    rw [hFault, Except.mapError, TemplateError.ofFault,
      if_pos hOwn]

theorem not_isPromised_escaped
    (hPlace : IsPlace place)
    (fault : Fault) :
    ¬IsPromised language place values draft
      (.error (.escaped fault)) := by
  intro hPromised
  by_cases hComplete :
    draft.IsComplete language.filter? values
  · rcases hPromised.complete hComplete with ⟨_, _, ⟨⟩⟩
  · rcases hPromised.incomplete hComplete with
      ⟨own, _, hEq⟩
    exact hPlace own fault (Except.error.inj hEq).symm

/- With all variables, it depends on what they come to. -/
theorem isPromised_complete_iff
    {result : Except Fault String}
    (hComplete :
      draft.IsComplete language.filter? values) :
    IsPromised language place values draft
        (result.mapError (.ofFault language place)) ↔
      ∃ text,
        language.fill language.filter? values draft =
          .ok text ∧
        result = .ok text := by
  constructor
  · intro hPromised
    rcases hPromised.complete hComplete with
      ⟨text, hText, hResult⟩
    exact ⟨text, hText,
      Fallible.mapError_eq_ok.mp hResult⟩
  · rintro ⟨text, hText, rfl⟩
    exact ⟨fun _ => ⟨text, hText, rfl⟩,
      fun hNot => absurd hComplete hNot⟩

theorem isPromised_incomplete_iff
    (hPlace : IsPlace place)
    {result : Except Fault String}
    (hIncomplete :
      ¬draft.IsComplete language.filter? values) :
    IsPromised language place values draft
        (result.mapError (.ofFault language place)) ↔
      language.FailsWithOwn result := by
  rw [← mapError_ofFault_iff hPlace]
  constructor
  · exact fun hPromised => hPromised.incomplete hIncomplete
  · exact fun hFails =>
      ⟨fun hAll => absurd hAll hIncomplete, fun _ => hFails⟩

theorem isPromised_iff
    (hLanguage : language.IsDocumented)
    (hPlace : IsPlace place)
    (hPlain : draft.IsPlain language.isName) :
    IsPromised language place values draft
        (TemplateStore.renderParsed language place template
          (language.given values)
          (TemplateStore.parse language draft.text)) ↔
      IsKept language template values draft := by
  change IsPromised language place values draft
    ((language.result language.filter? template values
      draft.text).mapError (.ofFault language place)) ↔ _
  rw [IsKept]
  by_cases hKnown : draft.FiltersKnown language.filter?
  case neg =>
    rcases hLanguage.refuses _ draft hPlain hKnown with
      ⟨fault, hParse, hOwn⟩
    rw [isPromised_incomplete_iff hPlace
      fun hAll => hKnown hAll.known]
    refine iff_of_true ?_ (fun hAll => absurd hAll hKnown)
    rw [Language.result, hParse]
    exact ⟨fault, rfl, hOwn⟩
  rw [forall_prop_of_true hKnown]
  cases hSelf : values.lookup selfName with
  | some text =>
      rcases hLanguage.parses _ draft hPlain hKnown with
        ⟨parsed, hParse⟩
      rcases hLanguage.selfGiven language.filter? template
        values parsed (Option.isSome_of_eq_some hSelf) with
          ⟨fault, hRender, hOwn⟩
      have hResult : language.result language.filter?
          template values draft.text = .error fault := by
        rw [Language.result, hParse]
        exact hRender
      rw [hResult, Except.mapError, TemplateError.ofFault,
        hOwn, if_neg Bool.false_ne_true]
      exact iff_of_false
        (not_isPromised_escaped hPlace fault)
        fun hAll => Option.some_ne_none text hAll.1
  | none =>
      rw [eq_self, true_and, Language.result_eq_outcome
        hLanguage hSelf hPlain hKnown]
      by_cases hGiven : draft.IsGiven values
      · rw [isPromised_complete_iff ⟨hKnown, hGiven⟩,
          Language.outcome_eq_fill_iff hGiven]
        simp only [hGiven, forall_const, not_true,
          false_implies, and_true]
      · rw [isPromised_incomplete_iff hPlace
            fun hAll => hGiven hAll.given,
          Language.failsWithOwn_outcome_iff]
        simp only [hGiven, false_implies, not_false_eq_true,
          forall_const, true_and]

end Template

------------------------------------------------------------
-- Requests
------------------------------------------------------------

open Template (Draft Language Values Variables)

namespace TemplateEngine

def Request.spelled
    (language : Language Thing Parsed Fault) :
    Request Draft Values → Request String (Variables Thing)
  | .add name draft => .add name draft.text
  | .isThere name => .isThere name
  | .render name values =>
      .render name (language.given values)
  | .renderText draft values =>
      .renderText draft.text (language.given values)

/- Drafts are plain, and names that are asked for no paths. -/
def Request.IsPlain
    (isName : String → Bool) :
    Request Draft Values → Prop
  | .add _ draft => draft.IsPlain isName
  | .isThere name => '/' ∉ name.toList
  | .render name _ => '/' ∉ name.toList
  | .renderText draft _ => draft.IsPlain isName

section

variable (language : Language Thing Parsed Fault)

/- A shipped template as it is rendered. -/
def shippedResult
    (name : String)
    (values : Values)
    (parsed : Parsed) : Except Fault String :=
  language.render language.filter? (some name)
    (language.given values) parsed

/-
  A shipped template is promised to be rendered, or else an
  error that tells its name and some fault of the language's
  own.
-/
def IsPromisedShipped
    (name : String)
    (values : Values)
    (parsed : Parsed)
    (result : Except (TemplateError Fault) String) : Prop :=
  let rendered := shippedResult language name values parsed
  (∃ text, rendered = .ok text ∧ result = .ok text) ∨
    ∃ fault, language.isOwn fault ∧
      rendered = .error fault ∧
        result = .error (.named name fault)

/-
  What is promised for a request after others. The draft
  that was added last counts, or else what was shipped.
-/
def IsPromised
    (store : TemplateStore Parsed)
    (before : List (Request Draft Values))
    (request : Request Draft Values)
    (answer : Except (TemplateError Fault) Answer) : Prop :=
  match request with
  | .add _ _ => answer = .ok .done
  | .isThere name =>
      answer = .ok (.truth
        ((latest name before).isSome ||
          (store.shipped.lookup name).isSome))
  | .render name values =>
      ∃ result : Except (TemplateError Fault) String,
        answer = result.map .text ∧
        match latest name before, store.shipped.lookup name with
        | some draft, _ =>
            Template.IsPromised language (.named name) values
              draft result
        | none, some parsed =>
            IsPromisedShipped language name values parsed
              result
        | none, none => result = .error (.missing name)
  | .renderText draft values =>
      ∃ result : Except (TemplateError Fault) String,
        answer = result.map .text ∧
          Template.IsPromised language .inline values draft
            result

def IsKept
    (store : TemplateStore Parsed)
    (before : List (Request Draft Values)) :
    Request Draft Values → Prop
  | .add _ _ => True
  | .isThere name =>
      ∀ draft ∈ latest name before,
        draft.FiltersKnown language.filter?
  | .render name values =>
      match latest name before, store.shipped.lookup name with
      | some draft, _ =>
          Template.IsKept language (some name) values draft
      | none, some parsed =>
          Fallible.FailsOnly (fun fault => language.isOwn fault)
            (shippedResult language name values parsed)
      | none, none => True
  | .renderText draft values =>
      Template.IsKept language none values draft

end

------------------------------------------------------------
-- Templates That Are Found
------------------------------------------------------------

variable {language : Language Thing Parsed Fault}

theorem latest_spelled
    (language : Language Thing Parsed Fault)
    (name : String)
    (before : List (Request Draft Values)) :
    latest name (before.map (Request.spelled language)) =
      (latest name before).map Draft.text := by
  induction before with
  | nil => rfl
  | cons request more ih =>
      cases request with
      | add other draft =>
          rw [List.map_cons, Request.spelled, latest, latest,
            ih, Option.map_or]
          by_cases hName : other = name
          · rw [if_pos hName, if_pos hName]
            rfl
          · rw [if_neg hName, if_neg hName]
            rfl
      | isThere other => exact ih
      | render other values => exact ih
      | renderText draft values => exact ih

theorem isPlain_latest
    {isName : String → Bool}
    {before : List (Request Draft Values)}
    (hBefore : ∀ earlier ∈ before, earlier.IsPlain isName)
    {name : String}
    {draft : Draft}
    (hLatest : latest name before = some draft) :
    draft.IsPlain isName := by
  induction before with
  | nil => cases hLatest
  | cons request more ih =>
      rcases List.forall_mem_cons.mp hBefore with
        ⟨hRequest, hMore⟩
      cases request with
      | add other text =>
          rw [latest, Option.or_eq_some_iff] at hLatest
          rcases hLatest with hLater | ⟨_, hHere⟩
          · exact ih hMore hLater
          · rw [Option.ite_none_right_eq_some,
              Option.some.injEq] at hHere
            rw [← hHere.2]
            exact hRequest
      | isThere other => exact ih hMore hLatest
      | render other values => exact ih hMore hLatest
      | renderText text values => exact ih hMore hLatest

/-
  What is found after some requests is the draft that was
  added last, or else the shipped template.
-/
theorem find_after
    (language : Language Thing Parsed Fault)
    {store : TemplateStore Parsed}
    (hStore : store.IsFresh)
    (before : List (Request Draft Values))
    {name : String}
    (hName : '/' ∉ name.toList) :
    ((ofStore store).after language
        (before.map (Request.spelled language))).store.find
          language name =
      match latest name before with
      | some draft =>
          some (TemplateStore.parse language draft.text)
      | none => (store.shipped.lookup name).map .ok := by
  rw [store_after (isCoherent_ofStore language store)]
  change (List.foldl TemplateStore.next store _).find _ _ = _
  rw [TemplateStore.find_foldl language hStore _ hName,
    latest_spelled]
  cases latest name before with
  | some draft => rfl
  | none => rfl

------------------------------------------------------------
-- Answers
------------------------------------------------------------

theorem map_text_injective
    {one other : Except (TemplateError Fault) String}
    (hSame : one.map Answer.text = other.map Answer.text) :
    one = other := by
  cases one with
  | error cause =>
      cases other with
      | error cause' =>
          rcases hSame with ⟨⟩
          rfl
      | ok text => cases hSame
  | ok text =>
      cases other with
      | error cause => cases hSame
      | ok text' =>
          rcases hSame with ⟨⟩
          rfl

theorem exists_map_text_iff
    {result : Except (TemplateError Fault) String}
    {holds : Except (TemplateError Fault) String → Prop} :
    (∃ other, result.map Answer.text =
        other.map Answer.text ∧ holds other) ↔
      holds result := by
  constructor
  · rintro ⟨other, hSame, hHolds⟩
    rw [map_text_injective hSame]
    exact hHolds
  · exact fun hHolds => ⟨result, rfl, hHolds⟩

theorem isPlace_named (name : String) :
    Template.IsPlace
      (.named name : Fault → TemplateError Fault) := by
  rintro fault other ⟨⟩

theorem isPlace_inline :
    Template.IsPlace
      (.inline : Fault → TemplateError Fault) := by
  rintro fault other ⟨⟩

theorem isPromisedShipped_iff
    (name : String)
    (values : Values)
    (parsed : Parsed) :
    IsPromisedShipped language name values parsed
        (TemplateStore.renderFound language name
          (language.given values) (some (.ok parsed))) ↔
      Fallible.FailsOnly (fun fault => language.isOwn fault)
        (shippedResult language name values parsed) := by
  change IsPromisedShipped language name values parsed
    ((shippedResult language name values parsed).mapError
      (.ofFault language (.named name))) ↔ _
  rw [IsPromisedShipped]
  cases shippedResult language name values parsed with
  | ok text =>
      exact iff_of_true (.inl ⟨text, rfl, rfl⟩)
        (Fallible.failsOnly_ok text)
  | error fault =>
      rw [Fallible.failsOnly_error]
      constructor
      · rintro (⟨_, ⟨⟩, _⟩ | ⟨_, hOwn, ⟨⟩, _⟩)
        exact hOwn
      · intro hOwn
        refine .inr ⟨fault, hOwn, rfl, ?_⟩
        rw [Except.mapError, TemplateError.ofFault,
          if_pos hOwn]

variable {store : TemplateStore Parsed}
variable {before : List (Request Draft Values)}

/- Whether a template is there is told if it can be parsed. -/
theorem isPromised_isThere_iff
    (hLanguage : language.IsDocumented)
    (hStore : store.IsFresh)
    (hBefore : ∀ earlier ∈ before,
      earlier.IsPlain language.isName)
    {name : String}
    (hName : '/' ∉ name.toList) :
    IsPromised language store before (.isThere name)
        (((ofStore store).after language
          (before.map (Request.spelled language))).store.answer
            language (.isThere name)) ↔
      IsKept language store before (.isThere name) := by
  rw [IsPromised, IsKept, TemplateStore.answer,
    TemplateStore.exists?,
    find_after language hStore before hName]
  cases hLatest : latest name before with
  | some draft =>
      have hPlain := isPlain_latest hBefore hLatest
      by_cases hKnown : draft.FiltersKnown language.filter?
      · rcases hLanguage.parses _ draft hPlain hKnown with
          ⟨parsed, hParse⟩
        refine iff_of_true ?_ ?_
        · simp only [TemplateStore.parse, hParse]
          rfl
        · rintro _ ⟨⟩
          exact hKnown
      · rcases hLanguage.refuses _ draft hPlain hKnown with
          ⟨fault, hParse, _⟩
        refine iff_of_false ?_
          fun hAll => hKnown (hAll draft rfl)
        simp only [TemplateStore.parse, hParse]
        rintro ⟨⟩
  | none =>
      refine iff_of_true ?_ nofun
      cases store.shipped.lookup name with
      | some parsed => rfl
      | none => rfl

theorem isPromised_render_iff
    (hLanguage : language.IsDocumented)
    (hStore : store.IsFresh)
    (hBefore : ∀ earlier ∈ before,
      earlier.IsPlain language.isName)
    {name : String}
    (hName : '/' ∉ name.toList)
    (values : Values) :
    IsPromised language store before (.render name values)
        (((ofStore store).after language
          (before.map (Request.spelled language))).store.answer
            language
            (.render name (language.given values))) ↔
      IsKept language store before (.render name values) := by
  rw [IsPromised, IsKept, TemplateStore.answer,
    TemplateStore.render,
    find_after language hStore before hName,
    exists_map_text_iff]
  cases hLatest : latest name before with
  | some draft =>
      exact Template.isPromised_iff hLanguage
        (isPlace_named name) (isPlain_latest hBefore hLatest)
  | none =>
      cases store.shipped.lookup name with
      | some parsed =>
          exact isPromisedShipped_iff name values parsed
      | none => exact iff_of_true rfl trivial

------------------------------------------------------------
-- Promises
------------------------------------------------------------

/-
  The answer to a request, after any others, is as promised
  exactly if the promise is one that is kept. Unless the
  request adds a text, all later answers are as they would
  be without it.
-/
theorem keeps_promise_iff
    {language : Language Thing Parsed Fault}
    (hLanguage : language.IsDocumented)
    {store : TemplateStore Parsed}
    (hStore : store.IsFresh)
    {before : List (Request Draft Values)}
    (hBefore : ∀ earlier ∈ before,
      earlier.IsPlain language.isName)
    {request : Request Draft Values}
    (hRequest : request.IsPlain language.isName) :
    let engine := (ofStore store).after language
      (before.map (Request.spelled language))
    (IsPromised language store before request
        (engine.step language
          (request.spelled language)).1 ↔
      IsKept language store before request) ∧
    (¬request.IsAddition → ∀ later,
      (engine.step language
          (request.spelled language)).2.answers language
            later =
        engine.answers language later) := by
  have hCoherent := isCoherent_after
    (isCoherent_ofStore language store)
    (before.map (Request.spelled language))
  refine ⟨?_, fun hAddition later => ?_⟩
  · rw [(step_spec hCoherent _).1]
    cases request with
    | add name draft => exact iff_of_true rfl trivial
    | isThere name =>
        exact isPromised_isThere_iff hLanguage hStore hBefore
          hRequest
    | render name values =>
        exact isPromised_render_iff hLanguage hStore hBefore
          hRequest values
    | renderText draft values =>
        exact exists_map_text_iff.trans
          (Template.isPromised_iff hLanguage isPlace_inline
            hRequest)
  · apply answers_after_step hCoherent
    cases request with
    | add name draft => exact hAddition
    | isThere name => exact hAddition
    | render name values => exact hAddition
    | renderText draft values => exact hAddition

theorem isFresh_modelTemplates :
    modelTemplates.IsFresh where
  added := rfl
  shipped := by
    intro name hName
    simp only [List.mem_cons, List.not_mem_nil, or_false]
      at hName
    rcases hName with rfl | rfl | rfl
    · rfl
    · rfl
    · rfl

theorem answer_of_complete
    {place : Fault → TemplateError Fault}
    {values : Values}
    {draft : Draft}
    {answer : Except (TemplateError Fault) Answer}
    (hPromised : ∃ result : Except (TemplateError Fault) String,
      answer = result.map .text ∧
        Template.IsPromised language place values draft
          result)
    (hComplete : draft.IsComplete language.filter? values)
    {text : String}
    (hText :
      language.fill language.filter? values draft =
        .ok text) :
    answer = .ok (.text text) := by
  rcases hPromised with ⟨result, rfl, hPromised⟩
  rcases hPromised.complete hComplete with
    ⟨other, hOther, rfl⟩
  rcases hText.symm.trans hOther with ⟨⟩
  rfl

def commentDraft : Draft :=
  .filled ['/', '/', ' ']
    ⟨⟨[' '], "field_name", []⟩, [⟨[], "camel_case", [' ']⟩]⟩
    (.literal ['.'])

/- A name in capitals, by a filter of the language. -/
def capitalsDraft : Draft :=
  .filled [] ⟨⟨[], "name", []⟩, [⟨[], "upper", []⟩]⟩
    (.literal [])

theorem isPlain_drafts :
    commentDraft.IsPlain Template.usual.isName ∧
      capitalsDraft.IsPlain Template.usual.isName :=
  ⟨⟨by decide +kernel,
      Template.apart_of_isAscii (by decide)⟩,
    ⟨by decide +kernel,
      Template.apart_of_isAscii (by decide)⟩⟩

theorem isKept_commentDraft :
    Template.IsKept Template.usual (some "fields.dart.j2")
      [("field_name", "user_id")] commentDraft :=
  (Template.isKept_iff_of_ownFiltersOnly
    Template.isDocumented_usual (by decide)
      (by decide)).mpr ⟨rfl, fun _ => by decide⟩

theorem isKept_capitalsDraft :
    Template.IsKept Template.usual none [("name", "posts")]
      capitalsDraft := by
  have hGiven : capitalsDraft.IsGiven [("name", "posts")] :=
    by decide
  refine fun _ => ⟨rfl, fun _ => ⟨by decide, ?_⟩,
    fun hNot => absurd hGiven hNot⟩
  intro slot hSlot
  rcases List.mem_singleton.mp hSlot with rfl
  exact ⟨"POSTS", by decide +kernel⟩

/- Without variables nothing but own faults comes of it. -/
theorem isKept_fieldsTemplate :
    IsKept Template.usual modelTemplates []
      (.render "fields.dart.j2" []) := by
  have hShipped : Template.shipped.lookup "fields.dart.j2" =
      some Template.fieldsTemplate := rfl
  exact (Template.render_shipped_iff hShipped
    (some "fields.dart.j2") []).mpr rfl

/-
  A shipped template is rendered in vain without variables.
  A text that is added after that under its name counts from
  then on, and other texts may use filters of the language.
-/
theorem added_comment_rendered :
    let fresh := ofStore modelTemplates
    let engine := fresh.after Template.usual
      ([.render "fields.dart.j2" [],
        .add "fields.dart.j2" commentDraft,
        .isThere "none"].map
          (Request.spelled Template.usual))
    (fresh.step Template.usual
        (Request.spelled Template.usual
          (.render "fields.dart.j2" []))).1 =
        .error (.named "fields.dart.j2"
          (.reason (.undefined "fields"))) ∧
      (engine.step Template.usual
        (Request.spelled Template.usual
          (.render "fields.dart.j2"
            [("field_name", "user_id")]))).1 =
        .ok (.text "// userId.") ∧
      (engine.step Template.usual
        (Request.spelled Template.usual
          (.renderText capitalsDraft
            [("name", "posts")]))).1 =
        .ok (.text "POSTS") := by
  intro fresh engine
  have hFields : '/' ∉ "fields.dart.j2".toList := by decide
  have hOther : '/' ∉ "none".toList := by decide
  have hBefore : ∀ earlier ∈
      [.render "fields.dart.j2" [],
        .add "fields.dart.j2" commentDraft,
        .isThere "none"],
      Request.IsPlain Template.usual.isName earlier := by
    simp only [List.forall_mem_cons]
    exact ⟨hFields, isPlain_drafts.1, hOther, nofun⟩
  refine ⟨?_, ?_, ?_⟩
  · have hRequest : Request.IsPlain Template.usual.isName
        (.render "fields.dart.j2" []) := hFields
    have hNone : ∀ earlier ∈ [],
        Request.IsPlain Template.usual.isName earlier :=
      List.forall_mem_nil _
    rcases (keeps_promise_iff Template.isDocumented_usual
      isFresh_modelTemplates hNone hRequest).1.mpr
        isKept_fieldsTemplate with
      ⟨result, hAnswer, hPromised⟩
    have hRendered : shippedResult Template.usual
        "fields.dart.j2" [] Template.fieldsTemplate =
          .error (.reason (.undefined "fields")) := by
      decide +kernel
    rcases hPromised with
      ⟨text, hText, _⟩ | ⟨fault, _, hFault, rfl⟩
    · cases hRendered.symm.trans hText
    · rcases hRendered.symm.trans hFault with ⟨⟩
      exact hAnswer
  · have hRequest : Request.IsPlain Template.usual.isName
        (.render "fields.dart.j2"
          [("field_name", "user_id")]) := hFields
    have hPromised := (keeps_promise_iff
      Template.isDocumented_usual isFresh_modelTemplates
      hBefore hRequest).1.mpr isKept_commentDraft
    exact answer_of_complete hPromised
      ⟨by decide, by decide⟩ (by decide +kernel)
  · have hRequest : Request.IsPlain Template.usual.isName
        (.renderText capitalsDraft [("name", "posts")]) :=
      isPlain_drafts.2
    have hPromised := (keeps_promise_iff
      Template.isDocumented_usual isFresh_modelTemplates
      hBefore hRequest).1.mpr isKept_capitalsDraft
    exact answer_of_complete hPromised
      ⟨by decide, by decide⟩ (by decide +kernel)

/-
  Promises that are not kept: a template that was added is
  not there, since it cannot be parsed; a variable that is
  not given has a text; and a text without variables is not
  rendered.
-/
theorem promises_not_kept :
    let engine := (ofStore .empty).after Template.usual
      [.add "bad" "\x7b\x7b x | nope \x7d\x7d"]
    (engine.step Template.usual (.isThere "bad")).1 =
        .error (.escaped (.reason (.unknownFilter "nope"))) ∧
      (engine.step Template.usual
        (.renderText "\x7b\x7b range \x7d\x7d" [])).1 =
          .ok (.text "<class 'range'>") ∧
      (engine.step Template.usual
        (.renderText "plain"
          [("self", Template.usual.view.text "1")])).1 =
            .error (.escaped .selfGiven) := by
  refine ⟨?_, ?_, ?_⟩
  · decide +kernel
  · decide +kernel
  · decide +kernel

end TemplateEngine

end PocketDart
