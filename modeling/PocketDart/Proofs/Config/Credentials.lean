import PocketDart.Config.Configuration
import PocketDart.Proofs.Fallible
import PocketDart.Proofs.Text.CleanForm

/-
  This file proves where the credentials of a configuration
  come from. A variable of the environment that is not empty
  comes before the entry of the document, which counts only
  if it is truthy; either is shown as a text that is not
  empty, unless it cannot be shown.

  Key definitions include:
    * `serverSection?`
    * `hosting?`
    * `Credential.Given`
    * `shownCredential`
    * `Address.CutsSlashes`

  Key theorems include:
    * `credential?_eq_some_iff`
    * `hostingSection_eq`
    * `shownCredential_eq_ok_iff`
    * `failsOnly_shownCredential_iff`
    * `Credential.Given.display_ne_empty`
    * `Address.cutsSlashes_withoutSlashes`
-/

------------------------------------------------------------
-- Sections of a Document
------------------------------------------------------------

namespace PocketDart

open Fallible

def Document.mapping? : Document → Option DocumentEntries
  | .mapping entries => some entries
  | _ => none

def serverSection?
    (document : Document) : Option DocumentEntries := do
  let entries ← document.mapping?
  let server ← Document.find? entries "pocketbase"
  server.mapping?

/- The entries about hosting; what is falsy has none. -/
def hosting?
    (server : DocumentEntries) : Option DocumentEntries :=
  match Document.find? server "hosting" with
  | none => some []
  | some value =>
      if value.truthy then value.mapping? else some []

/- They are found, or there is no mapping with them. -/
theorem hostingSection_eq (server : DocumentEntries) :
    hostingSection server =
      match hosting? server with
      | some hosting => .ok hosting
      | none => .error .hostingNotMapping := by
  unfold hostingSection hosting?
  cases Document.find? server "hosting" with
  | none => rfl
  | some value =>
      cases hTruthy : value.truthy with
      | false => simp [Document.orElse, hTruthy]
      | true =>
          cases value with
          | _ => simp [Document.orElse, hTruthy,
              Document.mapping?]

@[simp]
theorem hostingSection_eq_ok_iff
    {server hosting : DocumentEntries} :
    hostingSection server = .ok hosting ↔
      hosting? server = some hosting := by
  rw [hostingSection_eq]
  cases hosting? server with
  | none => simp
  | some other => simp

------------------------------------------------------------
-- Credentials
------------------------------------------------------------

/-
  What is given for a credential: the variable, if it is not
  empty, and otherwise the entry, if it is truthy.
-/
inductive Credential.Given
    (environment : Environment)
    (hosting : DocumentEntries)
    (credential : Credential) : Document → Prop where
  | ofVariable
      {text : String}
      (hSet :
        environment.lookup credential.environmentName =
          some text)
      (hSome : text ≠ "") :
      Given environment hosting credential (.text text)
  | ofEntry
      {value : Document}
      (hUnset : ∀ text,
        environment.lookup credential.environmentName =
          some text → text = "")
      (hEntry :
        Document.find? hosting credential.key = some value)
      (hTruthy : value.truthy = true) :
      Given environment hosting credential value

theorem Environment.get?_eq_some_iff
    {environment : Environment}
    {name text : String} :
    Environment.get? environment name = some text ↔
      environment.lookup name = some text ∧ text ≠ "" := by
  unfold Environment.get?
  split
  · next hEmpty =>
      rw [hEmpty]
      refine iff_of_false nofun ?_
      rintro ⟨⟨⟩, hSome⟩
      exact hSome rfl
  · next hSome =>
      refine ⟨fun hLookup => ⟨hLookup, ?_⟩, And.left⟩
      rintro rfl
      exact hSome hLookup

section

variable {levels : Nat}
variable {environment : Environment}
variable {hosting : DocumentEntries}
variable {credential : Credential}

theorem credential?_eq_some_iff
    {value : Document} :
    credential? environment hosting credential =
        some value ↔
      credential.Given environment hosting value := by
  unfold credential?
  cases hGet : Environment.get? environment
      credential.environmentName with
  | some text =>
      rcases Environment.get?_eq_some_iff.mp hGet with
        ⟨hLookup, hSome⟩
      constructor
      · rintro ⟨⟩
        exact .ofVariable hLookup hSome
      · rintro (⟨hOther, _⟩ | ⟨hUnset, _, _⟩)
        · rw [hLookup] at hOther
          rw [Option.some.inj hOther]
        · exact absurd (hUnset text hLookup) hSome
  | none =>
      have hUnset : ∀ text,
          environment.lookup credential.environmentName =
            some text → text = "" := by
        intro text hLookup
        refine Classical.byContradiction fun hSome => ?_
        rw [Environment.get?_eq_some_iff.mpr
          ⟨hLookup, hSome⟩] at hGet
        cases hGet
      rw [Option.filter_eq_some_iff]
      constructor
      · rintro ⟨hEntry, hTruthy⟩
        exact .ofEntry hUnset hEntry hTruthy
      · rintro (⟨hLookup, hSome⟩ | ⟨_, hEntry, hTruthy⟩)
        · exact absurd (hUnset _ hLookup) hSome
        · exact ⟨hEntry, hTruthy⟩

theorem Credential.Given.unique
    {value other : Document}
    (hGiven : credential.Given environment hosting value)
    (hOther : credential.Given environment hosting other) :
    value = other := by
  rw [← credential?_eq_some_iff] at hGiven hOther
  rw [hGiven] at hOther
  exact Option.some.inj hOther

/- A credential as text, if it is given. -/
def shownCredential
    (levels : Nat)
    (environment : Environment)
    (hosting : DocumentEntries)
    (credential : Credential) :
    Except ConfigurationFault (Option String) :=
  (credential? environment hosting credential).mapM
    (showValue levels)

theorem shownCredential_eq :
    shownCredential levels environment hosting credential =
      match credential? environment hosting credential with
      | none => .ok none
      | some value =>
          match value.showFault? levels with
          | none => .ok (some value.display)
          | some fault => .error (.unshown fault) := by
  unfold shownCredential
  cases credential? environment hosting credential with
  | none => rfl
  | some value =>
      cases hShow : value.showFault? levels with
      | none => simp [showValue, hShow]
      | some fault => simp [showValue, hShow]

theorem shownCredential_eq_ok_iff
    {text : String} :
    shownCredential levels environment hosting credential =
        .ok (some text) ↔
      ∃ value,
        credential.Given environment hosting value ∧
          value.showFault? levels = none ∧
          value.display = text := by
  simp only [← credential?_eq_some_iff]
  rw [shownCredential_eq]
  cases credential? environment hosting credential with
  | none => simp
  | some value =>
      cases hShow : value.showFault? levels with
      | none => simp [hShow]
      | some fault => simp [hShow]

theorem Credential.exists_given
    {text : String}
    (hShown : shownCredential levels environment hosting
      credential = .ok (some text)) :
    ∃ value,
      credential.Given environment hosting value := by
  rcases shownCredential_eq_ok_iff.mp hShown with
    ⟨value, hGiven, -⟩
  exact ⟨value, hGiven⟩

theorem exists_shownCredential
    (hShow : ∀ value,
      credential.Given environment hosting value →
        value.showFault? levels = none) :
    ∃ text,
      shownCredential levels environment hosting
        credential = .ok text := by
  simp only [← credential?_eq_some_iff] at hShow
  rw [shownCredential_eq]
  cases hSome : credential? environment hosting
      credential with
  | none => exact ⟨none, rfl⟩
  | some value =>
      simp only [hShow value hSome]
      exact ⟨some value.display, rfl⟩

theorem failsOnly_shownCredential_iff :
    FailsOnly (·.isRefusal)
        (shownCredential levels environment hosting
          credential) ↔
      ∀ value, credential.Given environment hosting value →
        value.showFault? levels = none := by
  simp only [← credential?_eq_some_iff]
  rw [shownCredential_eq]
  cases credential? environment hosting credential with
  | none => simp
  | some value =>
      cases hShow : value.showFault? levels with
      | none => simp [hShow]
      | some fault =>
          simp [hShow, ConfigurationFault.isRefusal]

end

------------------------------------------------------------
-- Shown Values
------------------------------------------------------------

/- An integer is shown with some digits. -/
theorem toString_int_ne_empty (n : Int) :
    toString n ≠ "" := by
  rw [Int.toString_eq_repr]
  cases n with
  | ofNat n => exact Nat.repr_ne_empty
  | negSucc n => simp [Int.repr]

/- A float is shown with a point or an exponent. -/
theorem Binary64.render_ne_empty (x : Binary64) :
    x.render ≠ "" := by
  have hDecimal : ∀ d : Decimal, renderDecimal d ≠ "" := by
    intro d
    unfold renderDecimal
    dsimp only
    generalize (if d.digits = 0 then (1 : Int) else
      (Nat.toDigits 10 d.digits).length + d.power) = point
    split
    · simp [renderExponent]
    · split
      · simp
      · split
        · simp
        · simp
  cases x with
  | undefined => simp [render]
  | infinite negative =>
      cases negative <;> simp [render]
  | finite negative significand exponent =>
      simp [render, hDecimal]

/- What is truthy is not shown as an empty text. -/
theorem Document.display_ne_empty
    {value : Document}
    (hTruthy : value.truthy = true) :
    value.display ≠ "" := by
  cases value with
  | null => cases hTruthy
  | bool b =>
      cases b with
      | false => cases hTruthy
      | true => simp [display, quoted]
  | int n => exact toString_int_ne_empty n
  | float x => exact x.render_ne_empty
  | text s => simpa [truthy] using hTruthy
  | list items => simp [display, quoted]
  | mapping entries => simp [display, quoted]
  | other thing => exact thing.display_ne_empty hTruthy

/- So what is given for a credential is some text. -/
theorem Credential.Given.display_ne_empty
    {environment : Environment}
    {hosting : DocumentEntries}
    {credential : Credential}
    {value : Document}
    (hGiven : credential.Given environment hosting value) :
    value.display ≠ "" := by
  cases hGiven with
  | ofVariable _ hSome => exact hSome
  | ofEntry _ _ hTruthy =>
      exact Document.display_ne_empty hTruthy

------------------------------------------------------------
-- Addresses
------------------------------------------------------------

namespace Address

/- A text without the slashes at its end. -/
structure CutsSlashes (text domain : String) : Prop where
  slashes :
    ∃ count,
      text.toList =
        domain.toList ++ List.replicate count '/'
  noSlash : domain.toList.getLast? ≠ some '/'

/- They are what is cut off. -/
theorem cutsSlashes_withoutSlashes (text : String) :
    CutsSlashes text (withoutSlashes text) := by
  have hChars : (withoutSlashes text).toList =
      Text.trimEndOf (· = '/') text.toList :=
    String.toList_ofList
  constructor
  · rcases Text.exists_trimEndOf_append (· = '/')
        text.toList with ⟨slashes, hText, hSlashes⟩
    refine ⟨slashes.length, ?_⟩
    have hSame : slashes =
        List.replicate slashes.length '/' :=
      List.eq_replicate_iff.mpr ⟨rfl, fun c hMem =>
        of_decide_eq_true (hSlashes c hMem)⟩
    rw [hChars, ← hSame]
    exact hText
  · intro hLast
    rw [hChars] at hLast
    exact absurd rfl (of_decide_eq_false
      (Text.getLast?_trimEndOf _ _ _ hLast))

theorem CutsSlashes.ne_empty_iff
    {text domain : String}
    (hCuts : CutsSlashes text domain) :
    domain ≠ "" ↔ ∃ c ∈ text.toList, c ≠ '/' := by
  rcases hCuts.slashes with ⟨count, hText⟩
  rw [hText]
  constructor
  · intro hSome
    have hChars : domain.toList ≠ [] := fun hNone =>
      hSome (String.toList_inj.mp hNone)
    refine ⟨domain.toList.getLast hChars, ?_, ?_⟩
    · exact List.mem_append_left _ (List.getLast_mem hChars)
    · intro hLast
      apply hCuts.noSlash
      rw [List.getLast?_eq_some_getLast hChars, hLast]
  · rintro ⟨c, hMem, hOther⟩ rfl
    rw [String.toList_empty, List.nil_append] at hMem
    exact hOther (List.eq_of_mem_replicate hMem)

end Address

end PocketDart
