import PocketDart.Proofs.Template.Outcomes
import PocketDart.Proofs.Template.Spelling

/-
  This file proves what is read from a draft: its literal
  texts with line feeds for all line breaks, and one term
  for each slot, if all filters are known. Otherwise some
  filter that is not known is the reason why it is not read.

  Key definitions include:
    * `Template.Draft.unified`
    * `Template.Draft.nodes`

  Key theorems include:
    * `Template.unifyBreaks_draft`
    * `Template.read_draft`
    * `Template.read_draft_unknown`
-/

------------------------------------------------------------
-- Line Breaks
------------------------------------------------------------

namespace PocketDart

namespace Text

/- No line break goes on in what begins with another one. -/
theorem unifyBreaks_append
    {ys : List Char}
    (hStart : ys.head? ≠ some '\n')
    (xs : List Char) :
    unifyBreaks (xs ++ ys) =
      unifyBreaks xs ++ unifyBreaks ys := by
  induction xs using unifyBreaks.induct with
  | case1 rest ih =>
      rw [List.cons_append, List.cons_append, unifyBreaks,
        unifyBreaks, ih]
      rfl
  | case2 rest hNext ih =>
      have hNext' : ∀ more, rest ++ ys = '\n' :: more →
          False := by
        intro more hEq
        cases rest with
        | nil =>
            rw [List.nil_append] at hEq
            exact hStart (by rw [hEq]; rfl)
        | cons c others =>
            rcases List.cons.inj hEq with ⟨rfl, _⟩
            exact hNext others rfl
      rw [List.cons_append, unifyBreaks.eq_2 _ hNext',
        unifyBreaks.eq_2 _ hNext, ih]
      rfl
  | case3 c rest hNext hReturn ih =>
      rw [List.cons_append,
        unifyBreaks.eq_3 _ _
          (fun _ h => absurd h hReturn) hReturn,
        unifyBreaks.eq_3 _ _ hNext hReturn, ih]
      rfl
  | case4 => rfl

theorem isBlank_unifyBreaks
    {cs : List Char}
    (hBlanks : ∀ c ∈ cs, isBlank c) :
    ∀ c ∈ unifyBreaks cs, isBlank c := by
  induction cs using unifyBreaks.induct with
  | case1 rest ih =>
      simp only [List.forall_mem_cons] at hBlanks
      rw [unifyBreaks, List.forall_mem_cons]
      exact ⟨hBlanks.2.1, ih hBlanks.2.2⟩
  | case2 rest hNext ih =>
      rw [List.forall_mem_cons] at hBlanks
      rw [unifyBreaks.eq_2 _ hNext, List.forall_mem_cons]
      exact ⟨by decide, ih hBlanks.2⟩
  | case3 c rest hNext hReturn ih =>
      rw [List.forall_mem_cons] at hBlanks
      rw [unifyBreaks.eq_3 _ _ hNext hReturn,
        List.forall_mem_cons]
      exact ⟨hBlanks.1, ih hBlanks.2⟩
  | case4 => exact hBlanks

/- What is no line feed stood at the start before. -/
theorem prefix_of_prefix_unifyBreaks
    {cs word : List Char}
    (hWord : '\n' ∉ word)
    (hPrefix : word <+: unifyBreaks cs) :
    word <+: cs := by
  induction cs using unifyBreaks.induct generalizing word with
  | case1 rest ih =>
      cases word with
      | nil => exact List.nil_prefix
      | cons c more =>
          rw [unifyBreaks, List.cons_prefix_cons] at hPrefix
          exact absurd hPrefix.1
            fun hFeed => hWord (hFeed ▸ List.mem_cons_self)
  | case2 rest hNext ih =>
      cases word with
      | nil => exact List.nil_prefix
      | cons c more =>
          rw [unifyBreaks.eq_2 _ hNext,
            List.cons_prefix_cons] at hPrefix
          exact absurd hPrefix.1
            fun hFeed => hWord (hFeed ▸ List.mem_cons_self)
  | case3 c rest hNext hReturn ih =>
      cases word with
      | nil => exact List.nil_prefix
      | cons d more =>
          rw [unifyBreaks.eq_3 _ _ hNext hReturn,
            List.cons_prefix_cons] at hPrefix
          rw [List.cons_prefix_cons]
          exact ⟨hPrefix.1,
            ih (fun hFeed =>
                hWord (List.mem_cons_of_mem _ hFeed))
              hPrefix.2⟩
  | case4 => exact hPrefix

/- What is no line feed stood somewhere before. -/
theorem infix_of_infix_unifyBreaks
    {cs word : List Char}
    (hWord : '\n' ∉ word)
    (hInfix : word <:+: unifyBreaks cs) :
    word <:+: cs := by
  by_cases hEmpty : word = []
  · subst hEmpty
    exact List.nil_infix
  have hFeed : ∀ {rest : List Char},
      word <:+: '\n' :: rest → word <:+: rest := by
    intro rest hInfix
    rcases List.infix_cons_iff.mp hInfix with
      hPrefix | hInfix
    · cases word with
      | nil => exact absurd rfl hEmpty
      | cons c more =>
          rcases List.cons_prefix_cons.mp hPrefix with ⟨rfl, _⟩
          exact absurd List.mem_cons_self hWord
    · exact hInfix
  induction cs using unifyBreaks.induct with
  | case1 rest ih =>
      rw [unifyBreaks] at hInfix
      exact ((ih (hFeed hInfix)).trans
        (List.suffix_cons _ _).isInfix).trans
          (List.suffix_cons _ _).isInfix
  | case2 rest hNext ih =>
      rw [unifyBreaks.eq_2 _ hNext] at hInfix
      exact (ih (hFeed hInfix)).trans
        (List.suffix_cons _ _).isInfix
  | case3 c rest hNext hReturn ih =>
      rw [unifyBreaks.eq_3 _ _ hNext hReturn] at hInfix
      rcases List.infix_cons_iff.mp hInfix with
        hPrefix | hInfix
      · rw [← unifyBreaks.eq_3 _ _ hNext hReturn] at hPrefix
        exact (prefix_of_prefix_unifyBreaks hWord
          hPrefix).isInfix
      · exact (ih hInfix).trans
          (List.suffix_cons _ _).isInfix
  | case4 => exact hInfix

end Text

------------------------------------------------------------
-- Unified Drafts
------------------------------------------------------------

namespace Template

/- A word with line feeds for all line breaks. -/
def Word.unified (word : Word) : Word :=
  { word with
    before := Text.unifyBreaks word.before
    after := Text.unifyBreaks word.after }

/- A slot with line feeds for all line breaks. -/
def Slot.unified (slot : Slot) : Slot :=
  ⟨slot.key.unified, slot.filters.map (·.unified)⟩

/- A draft with line feeds for all line breaks. -/
def Draft.unified : Draft → Draft
  | .literal cs => .literal (Text.unifyBreaks cs)
  | .filled cs slot rest =>
      .filled (Text.unifyBreaks cs) slot.unified rest.unified

theorem Word.isSound_unified
    {word : Word}
    (hSound : word.IsSound usual.isName) :
    word.unified.IsSound usual.isName where
  before := Text.isBlank_unifyBreaks hSound.before
  name := hSound.name
  after := Text.isBlank_unifyBreaks hSound.after

/- No line break belongs to a name. -/
theorem Word.notMem_name
    {word : Word}
    (hSound : word.IsSound usual.isName)
    {c : Char}
    (hBlank : Text.isBlank c) :
    c ∉ word.name.toList := by
  intro hMem
  have hName := isIdentifierPart_of_isName hSound.name c hMem
  rw [Text.isIdentifierPart_of_isBlank hBlank] at hName
  cases hName

/- A name is followed by something, so it begins with it. -/
theorem Word.head?_append
    {word : Word}
    (hSound : word.IsSound usual.isName)
    (rest : List Char) :
    (word.name.toList ++ rest).head? ≠ some '\n' := by
  intro hHead
  cases hName : word.name.toList with
  | nil => exact ne_nil_of_isName hSound.name hName
  | cons c more =>
      rw [hName] at hHead
      rcases Option.some.inj hHead with rfl
      apply Word.notMem_name hSound (c := '\n') (by decide)
      rw [hName]
      exact List.mem_cons_self

theorem Word.unifyBreaks_append
    {word : Word}
    (hSound : word.IsSound usual.isName)
    {rest : List Char}
    (hRest : rest.head? ≠ some '\n') :
    Text.unifyBreaks (word.chars ++ rest) =
      word.unified.chars ++ Text.unifyBreaks rest := by
  have hName : '\r' ∉ word.name.toList :=
    Word.notMem_name hSound (by decide)
  rw [Word.chars, List.append_assoc, List.append_assoc,
    Text.unifyBreaks_append (Word.head?_append hSound _),
    Text.unifyBreaks_append_of_notMem hName,
    Text.unifyBreaks_append hRest]
  simp [Word.chars, Word.unified]

/- Filters begin with a mark, which is no line feed. -/
theorem head?_filters_append
    (filters : List Word)
    {rest : List Char}
    (hRest : rest.head? ≠ some '\n') :
    (filters.flatMap (fun filter => '|' :: filter.chars) ++
      rest).head? ≠ some '\n' := by
  cases filters with
  | nil => exact hRest
  | cons filter more => simp

theorem unifyBreaks_filters_append
    {filters : List Word}
    (hSound : ∀ filter ∈ filters,
      filter.IsSound usual.isName)
    {rest : List Char}
    (hRest : rest.head? ≠ some '\n') :
    Text.unifyBreaks
        (filters.flatMap (fun filter => '|' :: filter.chars) ++
          rest) =
      (filters.map (·.unified)).flatMap
          (fun filter => '|' :: filter.chars) ++
        Text.unifyBreaks rest := by
  induction filters with
  | nil => rfl
  | cons filter more ih =>
      rw [List.forall_mem_cons] at hSound
      rw [List.flatMap_cons, List.cons_append,
        List.cons_append, List.append_assoc,
        Text.unifyBreaks.eq_3 _ _ (by simp) (by decide),
        Word.unifyBreaks_append hSound.1
          (head?_filters_append more hRest),
        ih hSound.2]
      simp

theorem Slot.unifyBreaks_append
    {slot : Slot}
    (hSound : slot.IsSound usual.isName)
    (rest : List Char) :
    Text.unifyBreaks (slot.chars ++ rest) =
      slot.unified.chars ++ Text.unifyBreaks rest := by
  have hOpen : slot.chars ++ rest =
      ['\x7b', '\x7b'] ++
        (slot.key.chars ++
          (slot.filters.flatMap
              (fun filter => '|' :: filter.chars) ++
            (['\x7d', '\x7d'] ++ rest))) := by
    simp [Slot.chars, Slot.inside]
  have hClose : (['\x7d', '\x7d'] ++ rest).head? ≠
      some '\n' := by
    simp
  rw [hOpen,
    Text.unifyBreaks_append_of_notMem (by decide),
    Word.unifyBreaks_append hSound.key
      (head?_filters_append _ hClose),
    unifyBreaks_filters_append
      hSound.filters hClose,
    Text.unifyBreaks_append_of_notMem (by decide)]
  simp [Slot.chars, Slot.inside, Slot.unified]

theorem unifyBreaks_draft
    {draft : Draft}
    (hSound : draft.IsSound usual.isName) :
    Text.unifyBreaks draft.chars = draft.unified.chars := by
  induction draft with
  | literal cs => rfl
  | filled cs slot rest ih =>
      rcases hSound with ⟨_, hSlot, hRest⟩
      have hOpen : (slot.chars ++ rest.chars).head? ≠
          some '\n' := by
        simp [Slot.chars]
      rw [Draft.chars, Text.unifyBreaks_append hOpen,
        Slot.unifyBreaks_append hSlot, ih hRest]
      rfl

theorem IsLiteral.unifyBreaks
    {cs : List Char}
    (hLiteral : IsLiteral cs) :
    IsLiteral (Text.unifyBreaks cs) := by
  intro c hMem hInfix
  have hWord : '\n' ∉ ['\x7b', c] := by
    rintro hFeed
    rcases List.mem_cons.mp hFeed with hBrace | hFeed
    · exact absurd hBrace (by decide)
    · rw [List.mem_singleton] at hFeed
      rw [← hFeed] at hMem
      exact absurd hMem (by decide)
  exact hLiteral c hMem
    (Text.infix_of_infix_unifyBreaks hWord hInfix)

theorem Slot.isSound_unified
    {slot : Slot}
    (hSound : slot.IsSound usual.isName) :
    slot.unified.IsSound usual.isName where
  key := Word.isSound_unified hSound.key
  notReserved := hSound.notReserved
  filters := by
    intro filter hFilter
    rcases List.mem_map.mp hFilter with ⟨other, hOther, rfl⟩
    exact Word.isSound_unified (hSound.filters other hOther)

theorem Draft.isSound_unified
    {draft : Draft}
    (hSound : draft.IsSound usual.isName) :
    draft.unified.IsSound usual.isName := by
  induction draft with
  | literal cs => exact IsLiteral.unifyBreaks hSound
  | filled cs slot rest ih =>
      rcases hSound with ⟨hLiteral, hSlot, hRest⟩
      refine ⟨?_, Slot.isSound_unified hSlot, ih hRest⟩
      have hBrace : Text.unifyBreaks (cs ++ ['\x7b']) =
          Text.unifyBreaks cs ++ ['\x7b'] :=
        Text.unifyBreaks_append (by decide) cs
      rw [← hBrace]
      exact hLiteral.unifyBreaks

@[simp]
theorem Slot.part_unified (slot : Slot) :
    slot.unified.part = slot.part := by
  simp [Slot.part, Slot.unified, Slot.filterNames,
    Word.unified, Function.comp_def]

------------------------------------------------------------
-- Filters
------------------------------------------------------------

variable {filters : Filters Thing Fault}

def IsUnknownFilter (reason : Reason) : Prop :=
  ∃ name, reason = .unknownFilter name

theorem mapM_checkFilter
    {names : List String}
    (hKnown : ∀ name ∈ names, (filters name).isSome) :
    ∃ checked,
      names.mapM (checkFilter filters) = .ok checked := by
  induction names with
  | nil => exact ⟨[], rfl⟩
  | cons name more ih =>
      rw [List.forall_mem_cons] at hKnown
      rcases Option.isSome_iff_exists.mp hKnown.1 with
        ⟨filter, hFilter⟩
      rcases ih hKnown.2 with ⟨checked, hChecked⟩
      rw [List.mapM_cons, checkFilter, hFilter, hChecked]
      exact ⟨() :: checked, rfl⟩

theorem checkFilter_failsOnly (name : String) :
    Fallible.FailsOnly IsUnknownFilter
      (checkFilter filters name) := by
  rw [checkFilter]
  cases filters name with
  | some filter => exact Fallible.failsOnly_ok _
  | none => exact Fallible.failsOnly_error.mpr ⟨name, rfl⟩

theorem isSome_of_checkFilter
    {name : String}
    {checked : Unit}
    (hCheck : checkFilter filters name = .ok checked) :
    (filters name).isSome := by
  rw [checkFilter] at hCheck
  cases hName : filters name with
  | some other => rfl
  | none =>
      rw [hName] at hCheck
      cases hCheck

------------------------------------------------------------
-- Parts
------------------------------------------------------------

def Slot.node (slot : Slot) : Node :=
  .output <|
    slot.filterNames.foldl .filtered
      (.variable slot.key.name)

theorem Slot.node_part
    {slot : Slot}
    (hKnown : slot.FiltersKnown filters) :
    slot.part.node filters = .ok slot.node := by
  rcases mapM_checkFilter fun name hName =>
    hKnown name (List.mem_reverse.mp hName) with
      ⟨checked, hChecked⟩
  rw [Slot.part, Part.node, hChecked]
  rfl

theorem Slot.filtersKnown_of_node_part
    {slot : Slot}
    {node : Node}
    (hRead : slot.part.node filters = .ok node) :
    slot.FiltersKnown filters := by
  intro name hName
  rcases Fallible.bind_eq_ok.mp hRead with
    ⟨checked, hChecked, _⟩
  rcases Fallible.forall_of_mapM_eq_ok hChecked name
    (List.mem_reverse.mpr hName) with ⟨done, hDone⟩
  exact isSome_of_checkFilter hDone

theorem Part.node_failsOnly (part : Part) :
    Fallible.FailsOnly IsUnknownFilter
      (part.node filters) := by
  cases part with
  | text s => exact Fallible.failsOnly_ok _
  | place term names =>
      rw [Part.node, Fallible.failsOnly_bind]
      exact ⟨Fallible.failsOnly_mapM fun name _ =>
        checkFilter_failsOnly name,
        fun checked _ => Fallible.failsOnly_ok _⟩

------------------------------------------------------------
-- Drafts
------------------------------------------------------------

/- A literal text as it is rendered. -/
def literalNodes (cs : List Char) : List Node :=
  if cs.isEmpty then [] else [.text (String.ofList cs)]

/- A draft as it is rendered. -/
def Draft.nodes : Draft → List Node
  | .literal cs => literalNodes (Text.unifyBreaks cs)
  | .filled cs slot rest =>
      literalNodes (Text.unifyBreaks cs) ++
        slot.node :: rest.nodes

/- Literal text is read as it is. -/
theorem mapM_literalParts (cs : List Char) :
    (literalParts cs).mapM (Part.node filters) =
      .ok (literalNodes cs) := by
  cases cs with
  | nil => rfl
  | cons c more => rfl

theorem mapM_parts
    {draft : Draft}
    (hKnown : draft.FiltersKnown filters) :
    draft.unified.parts.mapM (Part.node filters) =
      .ok draft.nodes := by
  induction draft with
  | literal cs => exact mapM_literalParts _
  | filled cs slot rest ih =>
      rcases List.forall_mem_cons.mp hKnown with
        ⟨hSlot, hRest⟩
      rw [Draft.unified, Draft.parts, List.mapM_append,
        mapM_literalParts, List.mapM_cons,
        Slot.part_unified, Slot.node_part hSlot, ih hRest]
      rfl

theorem part_mem_parts
    {draft : Draft}
    {slot : Slot}
    (hMem : slot ∈ draft.slots) :
    slot.part ∈ draft.unified.parts := by
  induction draft with
  | literal cs => cases hMem
  | filled cs other rest ih =>
      rw [Draft.unified, Draft.parts, List.mem_append,
        List.mem_cons, Slot.part_unified]
      rcases List.mem_cons.mp hMem with rfl | hRest
      · exact .inr (.inl rfl)
      · exact .inr (.inr (ih hRest))

theorem read_text
    {draft : Draft}
    (hSound : draft.IsSound usual.isName) :
    read filters draft.text =
      draft.unified.parts.mapM (Part.node filters) := by
  rw [read, Draft.text, String.toList_ofList,
    unifyBreaks_draft hSound,
    readParts_draft (Draft.isSound_unified hSound)]
  rfl

theorem read_draft
    {draft : Draft}
    (hSound : draft.IsSound usual.isName)
    (hKnown : draft.FiltersKnown filters) :
    read filters draft.text = .ok draft.nodes := by
  rw [read_text hSound, mapM_parts hKnown]

theorem read_draft_unknown
    {draft : Draft}
    (hSound : draft.IsSound usual.isName)
    (hUnknown : ¬draft.FiltersKnown filters) :
    ∃ name, read filters draft.text =
      .error (.unknownFilter name) := by
  rw [read_text hSound]
  cases hRead :
    draft.unified.parts.mapM (Part.node filters) with
  | ok nodes =>
      refine absurd (fun slot hSlot => ?_) hUnknown
      rcases Fallible.forall_of_mapM_eq_ok hRead slot.part
        (part_mem_parts hSlot) with ⟨node, hNode⟩
      exact Slot.filtersKnown_of_node_part hNode
  | error reason =>
      have hFails := Fallible.failsOnly_mapM
        (fun part _ => Part.node_failsOnly part) reason hRead
      rcases hFails with ⟨name, rfl⟩
      exact ⟨name, rfl⟩

end Template

end PocketDart
