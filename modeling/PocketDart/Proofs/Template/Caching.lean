import PocketDart.Proofs.Lookup
import PocketDart.Template.Engine

/-
  This file proves that nobody notices which templates an
  engine keeps: it answers as its store alone would. What
  the store has is what was added under a name last, or else
  the template of that name that it came with.

  Key definitions include:
    * `TemplateStore.answer`
    * `TemplateStore.answers`
    * `TemplateStore.IsFresh`
    * `TemplateEngine.IsCoherent`
    * `TemplateEngine.Request.IsAddition`
    * `TemplateEngine.latest`

  Key theorems include:
    * `TemplateEngine.step_spec`
    * `TemplateEngine.isCoherent_after`
    * `TemplateEngine.answers_eq_of_isCoherent`
    * `TemplateEngine.answers_after_step`
    * `TemplateStore.lookup_added_foldl`
    * `TemplateStore.find_foldl`
-/

------------------------------------------------------------
-- Answers of a Store
------------------------------------------------------------

namespace PocketDart

open Template (Language Variables)
open TemplateEngine (Answer)

variable {Thing Parsed Fault : Type}

namespace TemplateStore

def next
    (store : TemplateStore Parsed) :
    TemplateEngine.Request String (Variables Thing) →
      TemplateStore Parsed
  | .add name text => store.add name text
  | _ => store

/- What a store answers when it is read anew. -/
def answer
    (language : Language Thing Parsed Fault)
    (store : TemplateStore Parsed) :
    TemplateEngine.Request String (Variables Thing) →
      Except (TemplateError Fault) Answer
  | .add _ _ => .ok .done
  | .isThere name =>
      (store.exists? language name).map .truth
  | .render name given =>
      (store.render language name given).map .text
  | .renderText text given =>
      (TemplateStore.renderText language text given).map
        .text

def answers
    (language : Language Thing Parsed Fault)
    (store : TemplateStore Parsed) :
    List (TemplateEngine.Request String (Variables Thing)) →
      List (Except (TemplateError Fault) Answer)
  | [] => []
  | request :: more =>
      store.answer language request ::
        (store.next request).answers language more

end TemplateStore

------------------------------------------------------------
-- Coherence
------------------------------------------------------------

namespace TemplateEngine

section

variable {language : Language Thing Parsed Fault}
variable {engine : TemplateEngine Parsed} {name : String}

/- What is kept is what would be parsed again. -/
def IsCoherent
    (language : Language Thing Parsed Fault)
    (engine : TemplateEngine Parsed) : Prop :=
  ∀ entry ∈ engine.kept,
    engine.store.find language entry.1 =
      some (.ok entry.2.parsed)

/- An engine that has parsed nothing keeps nothing. -/
theorem isCoherent_ofStore
    (language : Language Thing Parsed Fault)
    (store : TemplateStore Parsed) :
    (ofStore store).IsCoherent language :=
  nofun

theorem isCoherent_keep
    {template : KeptTemplate Parsed}
    (hCoherent : engine.IsCoherent language)
    (hFound : engine.store.find language name =
      some (.ok template.parsed))
    (capacity : Nat) :
    (engine.keep capacity name template).IsCoherent
      language := by
  intro entry hEntry
  rcases List.mem_cons.mp (List.mem_of_mem_take hEntry) with
    rfl | hOther
  · exact hFound
  · exact hCoherent entry (List.mem_filter.mp hOther).1

theorem load_spec
    (hCoherent : engine.IsCoherent language) :
    (engine.load language name).1 =
        engine.store.find language name ∧
      (engine.load language name).2.store = engine.store ∧
      (engine.load language name).2.IsCoherent
        language := by
  rw [load]
  cases hFound : engine.store.find language name with
  | none => exact ⟨rfl, rfl, hCoherent⟩
  | some found =>
      cases found with
      | error fault => exact ⟨rfl, rfl, hCoherent⟩
      | ok parsed =>
          exact ⟨rfl, rfl, isCoherent_keep hCoherent hFound _⟩

/- A template that is kept is the one in the store. -/
theorem get_spec
    (hCoherent : engine.IsCoherent language)
    (name : String) :
    (engine.get language name).1 =
        engine.store.find language name ∧
      (engine.get language name).2.store = engine.store ∧
      (engine.get language name).2.IsCoherent
        language := by
  rw [get]
  cases hKept : engine.kept.lookup name with
  | none => exact load_spec hCoherent
  | some template =>
      have hFound : engine.store.find language name =
          some (.ok template.parsed) :=
        hCoherent _ (Lookup.mem_of_lookup hKept)
      cases hCurrent : engine.isCurrent name template with
      | true =>
          simp only [hCurrent, if_true]
          exact ⟨hFound.symm, rfl,
            isCoherent_keep hCoherent hFound _⟩
      | false =>
          simp only [hCurrent]
          exact load_spec hCoherent

/-
  One request: the answer is that of the store, which only
  an addition changes, and what is kept stays coherent.
-/
theorem step_spec
    (hCoherent : engine.IsCoherent language)
    (request : Request String (Variables Thing)) :
    (engine.step language request).1 =
        engine.store.answer language request ∧
      (engine.step language request).2.store =
        engine.store.next request ∧
      (engine.step language request).2.IsCoherent
        language := by
  cases request with
  | add name text =>
      exact ⟨rfl, rfl, isCoherent_ofStore language _⟩
  | isThere name =>
      rcases get_spec hCoherent name with
        ⟨hFound, hStore, hNext⟩
      refine ⟨?_, hStore, hNext⟩
      change (TemplateStore.presence
        (engine.get language name).1).map _ = _
      rw [hFound]
      rfl
  | render name given =>
      rcases get_spec hCoherent name with
        ⟨hFound, hStore, hNext⟩
      refine ⟨?_, hStore, hNext⟩
      change (TemplateStore.renderFound language name given
        (engine.get language name).1).map _ = _
      rw [hFound]
      rfl
  | renderText text given => exact ⟨rfl, rfl, hCoherent⟩

/- What is kept stays coherent under all requests. -/
theorem isCoherent_after
    (hCoherent : engine.IsCoherent language)
    (requests : List (Request String (Variables Thing))) :
    (engine.after language requests).IsCoherent
      language := by
  induction requests generalizing engine with
  | nil => exact hCoherent
  | cons request more ih =>
      exact ih (step_spec hCoherent request).2.2

theorem answers_eq_of_isCoherent
    (hCoherent : engine.IsCoherent language)
    (requests : List (Request String (Variables Thing))) :
    engine.answers language requests =
      engine.store.answers language requests := by
  induction requests generalizing engine with
  | nil => rfl
  | cons request more ih =>
      rcases step_spec hCoherent request with
        ⟨hAnswer, hStore, hNext⟩
      change (engine.step language request).1 ::
        (engine.step language request).2.answers language
          more = _
      rw [hAnswer, ih hNext, hStore]
      rfl

end

------------------------------------------------------------
-- Additions
------------------------------------------------------------

def Request.IsAddition {Text Values : Type} :
    Request Text Values → Prop
  | .add _ _ => True
  | _ => False

/- The text that was added under a name last. -/
def latest
    {Text Values : Type}
    (name : String) :
    List (Request Text Values) → Option Text
  | [] => none
  | .add other text :: more =>
      (latest name more).or
        (if other = name then some text else none)
  | _ :: more => latest name more

variable {language : Language Thing Parsed Fault}
variable {engine : TemplateEngine Parsed}

theorem answers_after_step
    (hCoherent : engine.IsCoherent language)
    {request : Request String (Variables Thing)}
    (hRequest : ¬request.IsAddition)
    (later : List (Request String (Variables Thing))) :
    (engine.step language request).2.answers language
        later =
      engine.answers language later := by
  rcases step_spec hCoherent request with ⟨_, hStore, hNext⟩
  have hSame : engine.store.next request = engine.store := by
    cases request with
    | add name text => exact absurd trivial hRequest
    | isThere name => rfl
    | render name given => rfl
    | renderText text given => rfl
  rw [answers_eq_of_isCoherent hNext, hStore, hSame,
    answers_eq_of_isCoherent hCoherent]

theorem store_after
    (hCoherent : engine.IsCoherent language)
    (requests : List (Request String (Variables Thing))) :
    (engine.after language requests).store =
      requests.foldl TemplateStore.next engine.store := by
  induction requests generalizing engine with
  | nil => rfl
  | cons request more ih =>
      rcases step_spec hCoherent request with
        ⟨_, hStore, hNext⟩
      rw [after, ih hNext, hStore]
      rfl

end TemplateEngine

namespace TemplateStore

open TemplateEngine (latest)

/- The text that was added last counts. -/
theorem lookup_added_foldl
    (store : TemplateStore Parsed)
    (requests :
      List (TemplateEngine.Request String (Variables Thing)))
    (name : String) :
    (requests.foldl next store).added.lookup name =
      (latest name requests).or
        (store.added.lookup name) := by
  induction requests generalizing store with
  | nil => rfl
  | cons request more ih =>
      rw [List.foldl_cons, ih]
      cases request with
      | add other text =>
          by_cases hName : other = name
          · subst hName
            simp [next, add, latest]
          · simp [next, add, latest, hName,
              Lookup.lookup_cons_of_ne (Ne.symm hName)]
      | isThere other => rfl
      | render other given => rfl
      | renderText text given => rfl

theorem shipped_foldl
    (store : TemplateStore Parsed)
    (requests :
      List (TemplateEngine.Request String (Variables Thing))) :
    (requests.foldl next store).shipped = store.shipped := by
  induction requests generalizing store with
  | nil => rfl
  | cons request more ih =>
      rw [List.foldl_cons, ih]
      cases request with
      | add other text => rfl
      | isThere other => rfl
      | render other given => rfl
      | renderText text given => rfl

------------------------------------------------------------
-- Fresh Stores
------------------------------------------------------------

/-
  No text was added yet, and templates are shipped in files,
  which have names.
-/
structure IsFresh (store : TemplateStore Parsed) : Prop where
  added : store.added = []
  shipped : ∀ name ∈ ["", ".", ".."],
    store.shipped.lookup name = none

theorem lookup_nameOfPath?
    {store : TemplateStore Parsed}
    (hShipped : ∀ name ∈ ["", ".", ".."],
      store.shipped.lookup name = none)
    {name : String}
    (hName : '/' ∉ name.toList) :
    ((Template.nameOfPath? name).bind fun known =>
      store.shipped.lookup known) =
        store.shipped.lookup name := by
  -- Dots alone are paths, but they are no names either.
  by_cases hDot : name = "."
  · subst hDot
    rw [hShipped "." (by decide)]
    exact hShipped "" (by decide)
  by_cases hDots : name = ".."
  · subst hDots
    rw [hShipped ".." (by decide)]
    rfl
  rw [Template.nameOfPath?_of_notMem hName hDot hDots]
  rfl

/-
  After some requests the text that was added last is found,
  or else the shipped template.
-/
theorem find_foldl
    (language : Language Thing Parsed Fault)
    {store : TemplateStore Parsed}
    (hFresh : store.IsFresh)
    (requests :
      List (TemplateEngine.Request String (Variables Thing)))
    {name : String}
    (hName : '/' ∉ name.toList) :
    (requests.foldl next store).find language name =
      match latest name requests with
      | some text => some (parse language text)
      | none => (store.shipped.lookup name).map .ok := by
  have hLookup := lookup_nameOfPath? hFresh.shipped hName
  have hAdded :
      (requests.foldl next store).added.lookup name =
        latest name requests := by
    rw [lookup_added_foldl, hFresh.added, List.lookup_nil,
      Option.or_none]
  cases hLatest : latest name requests with
  | some text => simp [find, hAdded, hLatest]
  | none =>
      simp [find, hAdded, hLatest, shipped_foldl, hLookup]

end TemplateStore

end PocketDart
