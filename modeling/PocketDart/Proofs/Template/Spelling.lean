import Mathlib.Data.List.Infix
import PocketDart.Proofs.Dart.Word
import PocketDart.Proofs.Template.Drafts
import PocketDart.Template.Render

/-
  This file proves that drafts are read as they are meant:
  as their literal texts and, for each slot, its variable
  with the names of its filters.

  Key theorems include:
    * `Template.tokensOf_word`
    * `Template.readPlace_inside`
    * `Template.readParts_draft`
-/

------------------------------------------------------------
-- Words
------------------------------------------------------------

namespace PocketDart

namespace Text

theorem blankRanges_apart :
    ∀ blanks ∈ blankRanges, ∀ range ∈ identifierRanges,
      range.2 < blanks.1 ∨ blanks.2 < range.1 := by
  decide +kernel

theorem isBlank_of_isIdentifierPart
    {c : Char}
    (hPart : isIdentifierPart c) :
    isBlank c = false := by
  rw [isIdentifierPart, Bool.or_eq_true, Bool.or_eq_true,
    Bool.and_eq_true] at hPart
  rcases hPart with (hLetter | hMark) | ⟨_, hWithin⟩
  · apply Dart.isBlank_of_isNamePart
    rw [Char.isAlphanum, Bool.or_eq_true] at hLetter
    rcases hLetter with hAlpha | hDigit
    · simp [Dart.isNamePart, Dart.isNameStart, hAlpha]
    · simp [Dart.isNamePart, hDigit]
  · rw [of_decide_eq_true hMark]
    decide
  · rw [Bool.eq_false_iff]
    intro hBlank
    rcases List.any_eq_true.mp hWithin with
      ⟨range, hRange, hIn⟩
    rcases List.any_eq_true.mp hBlank with
      ⟨blanks, hBlanks, hAlso⟩
    simp only [Bool.and_eq_true, decide_eq_true_eq]
      at hIn hAlso
    have hApart :=
      blankRanges_apart blanks hBlanks range hRange
    omega

theorem isIdentifierPart_of_isBlank
    {c : Char}
    (hBlank : isBlank c) :
    isIdentifierPart c = false := by
  rw [Bool.eq_false_iff]
  intro hPart
  rw [isBlank_of_isIdentifierPart hPart] at hBlank
  cases hBlank

end Text

namespace Template

theorem ne_nil_of_isName
    {name : String}
    (hName : usual.isName name) :
    name.toList ≠ [] := by
  intro hEmpty
  change Text.isIdentifier name.toList = true at hName
  rw [hEmpty] at hName
  cases hName

theorem isIdentifierPart_of_isName
    {name : String}
    (hName : usual.isName name) :
    ∀ c ∈ name.toList, Text.isIdentifierPart c := by
  change Text.isIdentifier name.toList = true at hName
  cases hChars : name.toList with
  | nil => nofun
  | cons c rest =>
      rw [hChars, Text.isIdentifier, Bool.and_eq_true]
        at hName
      have hFirst : Text.isIdentifierPart c := by
        have hStart := hName.1
        rw [Text.isIdentifierStart, Bool.and_assoc,
          Bool.and_eq_true] at hStart
        exact hStart.1
      exact List.forall_mem_cons.mpr
        ⟨hFirst, List.all_eq_true.mp hName.2⟩

/- Characters that do not go on with a name. -/
def Stops (cs : List Char) : Prop :=
  ∀ c ∈ cs.head?, Text.isIdentifierPart c = false

/- The name read so far ends before what stops it. -/
theorem tokensOf_stops
    {cs : List Char}
    (hStops : Stops cs)
    (seen : List Char) :
    tokensOf seen cs = withWord seen (tokensOf [] cs) := by
  cases cs with
  | nil => rfl
  | cons c rest =>
      have hStop : Text.isIdentifierPart c = false := hStops c rfl
      rw [tokensOf, tokensOf, hStop]
      cases Text.isBlank c with
      | true => rfl
      | false => rfl

theorem tokensOf_blanks
    {blanks : List Char}
    (hBlanks : ∀ c ∈ blanks, Text.isBlank c)
    (cs : List Char) :
    tokensOf [] (blanks ++ cs) = tokensOf [] cs := by
  induction blanks with
  | nil => rfl
  | cons c rest ih =>
      rw [List.forall_mem_cons] at hBlanks
      rw [List.cons_append, tokensOf,
        Text.isIdentifierPart_of_isBlank hBlanks.1, hBlanks.1]
      exact ih hBlanks.2

theorem tokensOf_name
    {name : List Char}
    (hName : ∀ c ∈ name, Text.isIdentifierPart c)
    (seen cs : List Char) :
    tokensOf seen (name ++ cs) =
      tokensOf (name.reverse ++ seen) cs := by
  induction name generalizing seen with
  | nil => rfl
  | cons c rest ih =>
      rw [List.forall_mem_cons] at hName
      rw [List.cons_append, tokensOf, hName.1, if_pos rfl,
        ih hName.2, List.reverse_cons, List.append_assoc]
      rfl

theorem stops_blanks
    {blanks cs : List Char}
    (hBlanks : ∀ c ∈ blanks, Text.isBlank c)
    (hStops : Stops cs) :
    Stops (blanks ++ cs) := by
  cases blanks with
  | nil => exact hStops
  | cons c rest =>
      rintro d ⟨⟩
      exact Text.isIdentifierPart_of_isBlank
        (hBlanks c List.mem_cons_self)

theorem tokensOf_word
    {word : Word}
    (hSound : word.IsSound usual.isName)
    {cs : List Char}
    (hStops : Stops cs) :
    tokensOf [] (word.chars ++ cs) =
      .word word.name :: tokensOf [] cs := by
  have hName : withWord word.name.toList.reverse
      (tokensOf [] cs) =
        .word word.name :: tokensOf [] cs := by
    rw [withWord, List.isEmpty_reverse,
      List.isEmpty_eq_false_iff.mpr
        (ne_nil_of_isName hSound.name),
      List.reverse_reverse, String.ofList_toList]
    rfl
  rw [Word.chars, List.append_assoc, List.append_assoc,
    tokensOf_blanks hSound.before,
    tokensOf_name (isIdentifierPart_of_isName hSound.name),
    List.append_nil,
    tokensOf_stops (stops_blanks hSound.after hStops),
    tokensOf_blanks hSound.after, hName]

------------------------------------------------------------
-- Slots
------------------------------------------------------------

def filterTokens (names : List String) : List Token :=
  names.flatMap fun name => [.mark '|', .word name]

/- Filters are read as their marks and names. -/
theorem tokensOf_filters
    {filters : List Word}
    (hSound : ∀ filter ∈ filters,
      filter.IsSound usual.isName) :
    tokensOf []
        (filters.flatMap fun filter =>
          '|' :: filter.chars) =
      filterTokens (filters.map (·.name)) := by
  induction filters with
  | nil => rfl
  | cons filter more ih =>
      rw [List.forall_mem_cons] at hSound
      have hStops : Stops (more.flatMap fun filter =>
          '|' :: filter.chars) := by
        cases more with
        | nil => nofun
        | cons next rest =>
            rintro c ⟨⟩
            decide
      have hMark : Text.isIdentifierPart '|' = false := by decide
      have hBlank : Text.isBlank '|' = false := by decide
      rw [List.flatMap_cons, List.cons_append, tokensOf,
        hMark, hBlank, tokensOf_word hSound.1 hStops,
        ih hSound.2]
      rfl

/- What stands between the braces is read as its names. -/
theorem tokensOf_inside
    {slot : Slot}
    (hSound : slot.IsSound usual.isName) :
    tokensOf [] slot.inside =
      .word slot.key.name ::
        filterTokens slot.filterNames := by
  have hStops : Stops (slot.filters.flatMap fun filter =>
      '|' :: filter.chars) := by
    cases slot.filters with
    | nil => nofun
    | cons filter more =>
        rintro c ⟨⟩
        decide
  rw [Slot.inside, tokensOf_word hSound.key hStops,
    tokensOf_filters hSound.filters]
  rfl

@[simp]
theorem readAttributes_filters
    (term : Term)
    (names : List String) :
    readAttributes term (filterTokens names) =
      (term, filterTokens names) := by
  cases names with
  | nil => rfl
  | cons name more => rfl

theorem readFilters_filters (names : List String) :
    readFilters true (filterTokens names) = .ok names := by
  induction names with
  | nil => rfl
  | cons name more ih =>
      have hCons : filterTokens (name :: more) =
          .mark '|' :: .word name :: filterTokens more := rfl
      rw [hCons, readFilters, ih]
      rfl

def Slot.part (slot : Slot) : Part :=
  .place (.variable slot.key.name) slot.filterNames

theorem ofName?_of_notMem
    {name : String}
    (hName : name ∉ reservedWords) :
    Constant.ofName? name = none := by
  simp only [reservedWords, List.mem_cons, not_or] at hName
  unfold Constant.ofName?
  split
  all_goals simp_all

/- What stands between the braces is the part of the slot. -/
theorem readPlace_inside
    {slot : Slot}
    (hSound : slot.IsSound usual.isName) :
    readPlace ⟨tokensOf [] slot.inside, true⟩ =
      .ok slot.part := by
  have hTerm : Term.ofName slot.key.name =
      .variable slot.key.name := by
    rw [Term.ofName, ofName?_of_notMem hSound.notReserved]
  have hNegation : slot.key.name ≠ negation := by
    intro hEq
    apply hSound.notReserved
    rw [hEq]
    decide
  rw [tokensOf_inside hSound, readPlace, readName]
  simp only [if_neg hNegation, hTerm]
  change (readFilters true (readAttributes _ _).2 >>=
    fun names => pure
      (Part.place (readAttributes _ _).1 names)) = _
  rw [readAttributes_filters, readFilters_filters]
  rfl

/- The braces close where nothing before them is a brace. -/
theorem cutClosing_of_notMem
    {inside : List Char}
    (hNone : '\x7d' ∉ inside)
    (after : List Char) :
    cutClosing (inside ++ '\x7d' :: '\x7d' :: after) =
      some (inside, after) := by
  induction inside with
  | nil => rfl
  | cons c rest ih =>
      rw [List.mem_cons, not_or] at hNone
      rw [List.cons_append,
        cutClosing.eq_2 _ _ fun _ hBrace =>
          absurd hBrace (Ne.symm hNone.1), ih hNone.2]
      rfl

theorem mark_notMem_word
    {word : Word}
    (hSound : word.IsSound usual.isName)
    {mark : Char}
    (hName : Text.isIdentifierPart mark = false)
    (hBlank : Text.isBlank mark = false) :
    mark ∉ word.chars := by
  intro hMem
  simp only [Word.chars, List.mem_append] at hMem
  rcases hMem with (hBefore | hIn) | hAfter
  · rw [hSound.before mark hBefore] at hBlank
    cases hBlank
  · rw [isIdentifierPart_of_isName hSound.name mark hIn]
      at hName
    cases hName
  · rw [hSound.after mark hAfter] at hBlank
    cases hBlank

theorem brace_notMem_inside
    {slot : Slot}
    (hSound : slot.IsSound usual.isName) :
    '\x7d' ∉ slot.inside := by
  have hWord : ∀ word : Word, word.IsSound usual.isName →
      '\x7d' ∉ word.chars :=
    fun word hWord =>
      mark_notMem_word hWord (by decide) (by decide)
  intro hMem
  rcases List.mem_append.mp hMem with hVariable | hFilters
  · exact hWord _ hSound.key hVariable
  · rcases List.mem_flatMap.mp hFilters with
      ⟨filter, hFilter, hMem⟩
    rcases List.mem_cons.mp hMem with hMark | hIn
    · exact absurd hMark (by decide)
    · exact hWord filter (hSound.filters filter hFilter) hIn

------------------------------------------------------------
-- Literal Text
------------------------------------------------------------

theorem IsLiteral.tail
    {c : Char}
    {cs : List Char}
    (hLiteral : IsLiteral (c :: cs)) :
    IsLiteral cs :=
  fun d hMem hInfix =>
    hLiteral d hMem
      (hInfix.trans (List.suffix_cons c cs).isInfix)

theorem readParts_literal
    {cs : List Char}
    (hLiteral : IsLiteral (cs ++ ['\x7b']))
    (seen rest : List Char) :
    readParts seen (cs ++ '\x7b' :: rest) =
      readParts (cs.reverse ++ seen) ('\x7b' :: rest) := by
  induction cs generalizing seen with
  | nil => rfl
  | cons c more ih =>
      have hStep : ∀ after, c = '\x7b' →
          more ++ '\x7b' :: rest = '\x7b' :: after →
            False := by
        rintro after rfl hBrace
        apply hLiteral '\x7b' (by simp)
        cases more with
        | nil => exact ⟨[], [], rfl⟩
        | cons d others =>
            rcases List.cons.inj hBrace with ⟨rfl, _⟩
            exact ⟨[], others ++ ['\x7b'], rfl⟩
      rw [List.cons_append, readParts.eq_2 _ _ _ hStep,
        ih hLiteral.tail, List.reverse_cons,
        List.append_assoc]
      rfl

theorem readParts_last
    {cs : List Char}
    (hLiteral : IsLiteral cs)
    (seen : List Char) :
    readParts seen cs =
      .ok (withText (cs.reverse ++ seen) []) := by
  induction cs generalizing seen with
  | nil => rw [readParts]; rfl
  | cons c more ih =>
      have hStep : ∀ after, c = '\x7b' →
          more = '\x7b' :: after → False := by
        rintro after rfl rfl
        exact hLiteral '\x7b' (by simp) ⟨[], after, rfl⟩
      rw [readParts.eq_2 _ _ _ hStep, ih hLiteral.tail,
        List.reverse_cons, List.append_assoc]
      rfl

------------------------------------------------------------
-- Parts
------------------------------------------------------------

/- The part of a literal text, unless it is empty. -/
def literalParts (cs : List Char) : List Part :=
  if cs.isEmpty then [] else [.text (String.ofList cs)]

@[simp]
theorem withText_reverse
    (cs : List Char)
    (parts : List Part) :
    withText cs.reverse parts = literalParts cs ++ parts := by
  cases cs with
  | nil => rfl
  | cons c more => simp [withText, literalParts]

namespace Draft

def parts : Draft → List Part
  | .literal cs => literalParts cs
  | .filled cs slot rest =>
      literalParts cs ++ slot.part :: rest.parts

end Draft

theorem readParts_draft
    {draft : Draft}
    (hSound : draft.IsSound usual.isName) :
    readParts [] draft.chars = .ok draft.parts := by
  induction draft with
  | literal cs =>
      rw [Draft.chars, readParts_last hSound,
        List.append_nil, withText_reverse, List.append_nil]
      rfl
  | filled cs slot rest ih =>
      rcases hSound with ⟨hLiteral, hSlot, hRest⟩
      have hSpelled : slot.chars ++ rest.chars =
          '\x7b' :: '\x7b' :: (slot.inside ++
            '\x7d' :: '\x7d' :: rest.chars) := by
        simp [Slot.chars]
      have hCut := cutClosing_of_notMem
        (brace_notMem_inside hSlot) rest.chars
      rw [Draft.chars, hSpelled, readParts_literal hLiteral,
        List.append_nil, readParts]
      split
      · next inside after hFound =>
          rcases Option.some.inj (hCut.symm.trans hFound) with
            ⟨⟩
          rw [readPlace_inside hSlot, ih hRest]
          exact congrArg Except.ok (withText_reverse cs _)
      · next hNone =>
          rw [hCut] at hNone
          cases hNone

end Template

end PocketDart
