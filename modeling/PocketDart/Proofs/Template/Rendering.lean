import PocketDart.Proofs.Lookup
import PocketDart.Proofs.Naming.Likeness
import PocketDart.Proofs.Template.Reading

/-
  This file proves that drafts are rendered as is documented
  of a template language: names stand for what is given or
  else for what is known, and the nodes of a draft come out
  as its pieces.

  Key theorems include:
    * `Template.lookup_bindings`
    * `Template.renderNode_slot`
    * `Template.renderNodes_eq_outcome`
    * `Template.isDocumented_usual`
-/

------------------------------------------------------------
-- Variables
------------------------------------------------------------

namespace PocketDart

namespace Template

@[simp]
theorem lookup_given
    (values : Values)
    (name : String) :
    (usual.given values).lookup name =
      (values.lookup name).map usual.view.text :=
  Lookup.lookup_map_snd usual.view.text values

theorem compatibleForm_of_isAscii
    {name : String}
    (hAscii : Text.IsAscii name.toList) :
    Text.compatibleForm name = name := by
  rw [Text.compatibleForm, if_pos]
  rw [List.all_eq_true]
  exact fun c hMem => decide_eq_true (hAscii c hMem)

theorem apart_of_isAscii
    {names : List String}
    (hAscii : ∀ name ∈ names, Text.IsAscii name.toList) :
    ∀ one ∈ selfName :: names,
      ∀ other ∈ selfName :: names,
        Text.compatibleForm one =
            Text.compatibleForm other →
          one = other := by
  have hAll : ∀ name ∈ selfName :: names,
      Text.compatibleForm name = name := by
    intro name hMem
    apply compatibleForm_of_isAscii
    rcases List.mem_cons.mp hMem with rfl | hMem
    · decide
    · exact hAscii name hMem
  intro one hOne other hOther hForm
  rw [hAll one hOne, hAll other hOther] at hForm
  exact hForm

theorem thingFor?_of_apart
    {names : List String}
    {name : String}
    (hApart : ∀ other ∈ names,
      Text.compatibleForm other = Text.compatibleForm name →
        other = name)
    (given : Variables Thing) :
    thingFor? given names name = find? given name := by
  have hLast : ((names.filter fun other =>
      Text.compatibleForm other =
        Text.compatibleForm name).getLast?).getD name =
          name := by
    cases hFound : (names.filter fun other =>
        Text.compatibleForm other =
          Text.compatibleForm name).getLast? with
    | none => rfl
    | some other =>
        have hMem := List.mem_of_getLast? hFound
        rw [List.mem_filter, decide_eq_true_eq] at hMem
        exact hApart other hMem.1 hMem.2
  rw [thingFor?, hLast]

/-
  The variables of a template stand for what is given, or
  else for what the template knows.
-/
theorem lookup_bindings
    (template : Option String)
    {values : Values}
    {nodes : List Node}
    (hSelf : values.lookup selfName = none)
    (hApart : ∀ one ∈ selfName :: namesOf nodes,
      ∀ other ∈ selfName :: namesOf nodes,
        Text.compatibleForm one =
            Text.compatibleForm other →
          one = other)
    {name : String}
    (hMem : name ∈ selfName :: namesOf nodes) :
    (bindings template (usual.given values)
        nodes).lookup name =
      ((values.lookup name).map usual.view.text).or
        (usual.known? template name) := by
  have hMem' : name ∈ (selfName :: namesOf nodes).eraseDups :=
    List.mem_eraseDups.mpr hMem
  rw [bindings, Lookup.lookup_filterMap_self, if_pos hMem',
    thingFor?_of_apart fun other hOther =>
      hApart other (List.mem_eraseDups.mp hOther) name hMem]
  by_cases hName : name = selfName
  · subst hName
    simp [find?, usual, knownTo, hSelf]
  · have hKnown : usual.known? template name =
        (known.lookup name).map .ok := by
      simp [usual, knownTo, hName]
    rw [if_neg hName, find?, hKnown,
      Lookup.lookup_cons_of_ne hName, lookup_given]

------------------------------------------------------------
-- Names
------------------------------------------------------------

@[simp]
theorem names_filtered
    (filters : List String)
    (term : Term) :
    (filters.foldl .filtered term).names = term.names := by
  induction filters generalizing term with
  | nil => rfl
  | cons filter rest ih => exact ih (.filtered term filter)

theorem namesOf_nodes (draft : Draft) :
    namesOf draft.nodes = draft.keys := by
  have hLiteral : ∀ cs nodes,
      namesOf (literalNodes cs ++ nodes) = namesOf nodes := by
    intro cs nodes
    cases cs with
    | nil => rfl
    | cons c more => rfl
  induction draft with
  | literal cs =>
      rw [Draft.nodes, ← List.append_nil (literalNodes _),
        hLiteral]
      rfl
  | filled cs slot rest ih =>
      rw [Draft.nodes, hLiteral, namesOf, ih, Slot.node,
        Node.names, names_filtered]
      rfl

------------------------------------------------------------
-- Slots
------------------------------------------------------------

theorem eval_filtered
    {context : Context}
    {names : List String}
    (hKnown : ∀ name ∈ names, (context.filters name).isSome)
    (term : Term) :
    (names.foldl .filtered term).eval context =
      (do
        (names.filterMap context.filters).foldlM
          (fun thing filter => filter thing)
          (← term.eval context)) := by
  induction names generalizing term with
  | nil => exact (bind_pure (term.eval context)).symm
  | cons name rest ih =>
      rcases List.forall_mem_cons.mp hKnown with
        ⟨hName, hRest⟩
      rcases Option.isSome_iff_exists.mp hName with
        ⟨filter, hFilter⟩
      rw [List.foldl_cons, ih hRest, Term.eval, bind_assoc,
        List.filterMap_cons_some hFilter]
      simp only [hFilter, List.foldlM_cons]

variable {context : Context}
variable {template : Option String} {values : Values}

/- A variable stands for what it stands for among texts. -/
def Serves
    (context : Context)
    (template : Option String)
    (values : Values)
    (slot : Slot) : Prop :=
  context.bound.lookup slot.key.name =
    ((values.lookup slot.key.name).map usual.view.text).or
      (usual.known? template slot.key.name)

theorem renderNode_slot
    {slot : Slot}
    (hKnown : slot.FiltersKnown context.filters)
    (hServed : Serves context template values slot) :
    renderNode context slot.node =
      usual.slotOutcome context.filters template values
        slot := by
  have hStands :
      (context.bound.lookup slot.key.name).getD
          (undefined slot.key.name) =
        usual.standsFor template values slot.key.name := by
    rw [hServed]
    rfl
  rw [Slot.node, renderNode, eval_filtered hKnown, Term.eval,
    hStands]
  rfl

------------------------------------------------------------
-- Drafts
------------------------------------------------------------

/- A literal text comes before what follows. -/
theorem renderNodes_literal
    (context : Context)
    (cs : List Char)
    (nodes : List Node) :
    renderNodes context (literalNodes cs ++ nodes) =
      (renderNodes context nodes).map
        (String.ofList cs ++ ·) := by
  cases cs with
  | nil =>
      change renderNodes context nodes = _
      cases renderNodes context nodes with
      | error fault => rfl
      | ok text =>
          exact congrArg Except.ok String.empty_append.symm
  | cons c more =>
      rw [literalNodes, if_neg nofun, List.singleton_append,
        renderNodes, renderNode]
      cases renderNodes context nodes with
      | error fault => rfl
      | ok text => rfl

/- A draft is rendered piece by piece. -/
theorem renderNodes_eq_outcome
    {draft : Draft}
    (hKnown : draft.FiltersKnown context.filters)
    (hServed : ∀ slot ∈ draft.slots,
      Serves context template values slot) :
    renderNodes context draft.nodes =
      usual.outcome context.filters template values
        draft := by
  induction draft with
  | literal cs =>
      rw [Draft.nodes, ← List.append_nil (literalNodes _),
        renderNodes_literal, renderNodes, Except.map,
        String.append_empty]
      rfl
  | filled cs slot rest ih =>
      rcases List.forall_mem_cons.mp hKnown with
        ⟨hFilters, hMore⟩
      rcases List.forall_mem_cons.mp hServed with
        ⟨hSlot, hRest⟩
      rw [Draft.nodes, renderNodes_literal, renderNodes,
        renderNode_slot hFilters hSlot, ih hMore hRest,
        Language.outcome, Language.outcome, Draft.assemble]
      cases usual.slotOutcome context.filters template values
        slot with
      | error fault => rfl
      | ok first =>
          cases rest.assemble Text.unifyBreaks
            (usual.slotOutcome context.filters template
              values) with
          | error fault => rfl
          | ok more => rfl

theorem serves_bindings
    (filters : Filters Thing Fault)
    (template : Option String)
    {draft : Draft}
    (hSelf : values.lookup selfName = none)
    (hApart : draft.NamesApart) :
    let bound := bindings template
      (usual.given values) draft.nodes
    ∀ slot ∈ draft.slots,
      Serves { filters, bound } template values slot := by
  intro bound slot hSlot
  refine lookup_bindings template hSelf ?_ ?_
  · rw [namesOf_nodes]
    exact hApart
  · rw [namesOf_nodes]
    exact List.mem_cons_of_mem _
      (List.mem_map.mpr ⟨slot, hSlot, rfl⟩)

------------------------------------------------------------
-- Rendering
------------------------------------------------------------

variable {filters : Filters Thing Fault}

theorem render_selfGiven
    (hSelf : (values.lookup selfName).isSome)
    (nodes : List Node) :
    render filters template (usual.given values) nodes =
      .error .selfGiven := by
  rw [render, lookup_given, Option.isSome_map,
    if_pos hSelf]

theorem render_of_lookup
    (hSelf : values.lookup selfName = none)
    (nodes : List Node) :
    let bound := bindings template
      (usual.given values) nodes
    render filters template (usual.given values) nodes =
      renderNodes { filters, bound } nodes := by
  intro bound
  rw [render, lookup_given, hSelf]
  rfl

theorem result_draft
    {draft : Draft}
    (hSelf : values.lookup selfName = none)
    (hPlain : draft.IsPlain usual.isName)
    (hKnown : draft.FiltersKnown filters) :
    usual.result filters template values draft.text =
      usual.outcome filters template values draft := by
  have hRead : usual.parse filters draft.text =
      .ok draft.nodes := by
    change (read filters draft.text).mapError _ = _
    rw [read_draft hPlain.sound hKnown]
    rfl
  rw [Language.result, hRead]
  exact (render_of_lookup hSelf draft.nodes).trans
    (renderNodes_eq_outcome hKnown
      (serves_bindings filters template hSelf hPlain.apart))

theorem isPlain_literal
    {cs : List Char}
    (hLiteral : IsLiteral cs) :
    (Draft.literal cs).IsPlain usual.isName where
  sound := hLiteral
  apart := apart_of_isAscii nofun

/- Templates are dealt with as is documented. -/
theorem isDocumented_usual : usual.IsDocumented where
  asText_text ability text := by
    cases ability with
    | get => rfl
    | lower => rfl
    | split => rfl
    | decode => rfl
    | startsWith => rfl
  display_text text := rfl
  asText_undefined ability name := ⟨_, rfl, rfl⟩
  display_undefined name := ⟨_, rfl, rfl⟩
  parses filters draft hPlain hKnown := by
    refine ⟨draft.nodes, ?_⟩
    change (read filters draft.text).mapError _ = _
    rw [read_draft hPlain.sound hKnown]
    rfl
  refuses filters draft hPlain hUnknown := by
    rcases read_draft_unknown hPlain.sound hUnknown with
      ⟨name, hRead⟩
    refine ⟨.reason (.unknownFilter name), ?_, rfl⟩
    change (read filters draft.text).mapError _ = _
    rw [hRead]
    rfl
  literal filters template values cs hSelf hLiteral :=
    result_draft hSelf (isPlain_literal hLiteral) nofun
  filled filters template values cs slot rest hSelf hPlain
      hKnown := by
    have hRest : rest.FiltersKnown filters :=
      (List.forall_mem_cons.mp hKnown).2
    rw [result_draft hSelf hPlain hKnown,
      result_draft hSelf hPlain.rest hRest]
    rfl
  selfGiven filters template values nodes hSelf :=
    ⟨.selfGiven, render_selfGiven hSelf nodes, rfl⟩

end Template

end PocketDart
