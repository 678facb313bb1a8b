import PocketDart.Proofs.Template.Rendering
import PocketDart.Template.Shipped

/-
  This file proves that a shipped template, when it is
  rendered with texts for its variables, gives a text or
  else fails for a reason of its own: it never uses a value
  as what it is not.

  Key definitions include:
    * `Template.Term.isTame`
    * `Template.Node.isTame`
    * `Template.IsTextual`
    * `Template.Context.IsTextual`

  Key theorems include:
    * `Template.eval_isTame`
    * `Template.renderNodes_areTame`
    * `Template.render_shipped`
    * `Template.render_shipped_iff`
-/

------------------------------------------------------------
-- Tame Templates
------------------------------------------------------------

namespace PocketDart

namespace Template

open Fallible (FailsOnly)

def knownNames : List String :=
  selfName :: known.map (·.1)

/-
  A term without constants, in which values are only shown
  in literals and no variable is known to every template.
-/
def Term.isTame : Term → Bool
  | .constant _ => false
  | .variable name => name ∉ knownNames
  | .attribute term _ => term.isTame
  | .filtered term name =>
      name = "dart_string" && term.isTame
  | .textIf _ condition => condition.isTame

mutual

/- A part with tame terms. -/
def Node.isTame : Node → Bool
  | .text _ => true
  | .output term => term.isTame
  | .whenTrue condition body =>
      condition.isTame && areTame body
  | .each _ source body => source.isTame && areTame body
  | .unlessLast body => areTame body

/- Parts with tame terms. -/
def areTame : List Node → Bool
  | [] => true
  | node :: rest => node.isTame && areTame rest

end

def IsReason (fault : Fault) : Prop :=
  ∃ reason, fault = .reason reason

/- A text, or what cannot be used for some reason. -/
def IsTextual (thing : Thing) : Prop :=
  (∃ text, thing = .ok (.text text)) ∨
    ∃ reason, thing = .error (.reason reason)

/-
  Variables stand for such things, unless all templates know
  them, and the filters are those of a store.
-/
structure Context.IsTextual (context : Context) : Prop where
  filters : context.filters = usual.filter?
  bound : ∀ name ∉ knownNames, ∀ thing,
    context.bound.lookup name = some thing →
      Template.IsTextual thing

theorem IsTextual.failsOnly_bind
    {A : Type}
    {thing : Thing}
    (hThing : IsTextual thing)
    {use : Datum → Except Fault A}
    (hUse : ∀ text, FailsOnly IsReason (use (.text text))) :
    FailsOnly IsReason (thing >>= use) := by
  rcases hThing with ⟨text, rfl⟩ | ⟨reason, rfl⟩
  · exact hUse text
  · exact Fallible.failsOnly_error.mpr ⟨reason, rfl⟩

theorem IsTextual.exists_of_bind
    {A : Type}
    {thing : Thing}
    (hThing : IsTextual thing)
    {use : Datum → Except Fault A}
    {a : A}
    (hUsed : (thing >>= use) = .ok a) :
    ∃ text, use (.text text) = .ok a := by
  rcases hThing with ⟨text, rfl⟩ | ⟨reason, rfl⟩
  · exact ⟨text, hUsed⟩
  · cases hUsed

theorem eval_isTame
    {context : Context}
    (hTextual : context.IsTextual)
    {term : Term}
    (hTame : term.isTame) :
    FailsOnly IsReason (term.eval context) ∧
      ∀ thing, term.eval context = .ok thing →
        IsTextual thing := by
  induction term with
  | constant word => cases hTame
  | «variable» name =>
      have hUnknown : name ∉ knownNames :=
        of_decide_eq_true hTame
      refine ⟨Fallible.failsOnly_ok _, ?_⟩
      rintro _ ⟨⟩
      cases hFound : context.bound.lookup name with
      | none => exact .inr ⟨.undefined name, rfl⟩
      | some thing =>
          exact hTextual.bound name hUnknown thing hFound
  | «attribute» term key ih =>
      rcases ih hTame with ⟨hFails, hThing⟩
      rw [Term.eval, Fallible.failsOnly_bind]
      refine ⟨⟨hFails, fun thing hTerm => ?_⟩, ?_⟩
      · exact (hThing thing hTerm).failsOnly_bind
          fun text => Fallible.failsOnly_ok _
      · intro found hFound
        rcases Fallible.bind_eq_ok.mp hFound with
          ⟨thing, hTerm, hUsed⟩
        -- A text has no attributes.
        rcases (hThing thing hTerm).exists_of_bind hUsed with
          ⟨text, ⟨⟩⟩
        exact .inr ⟨_, rfl⟩
  | filtered term name ih =>
      rw [Term.isTame, Bool.and_eq_true, decide_eq_true_eq]
        at hTame
      rcases hTame with ⟨rfl, hTerm⟩
      rcases ih hTerm with ⟨hFails, hThing⟩
      have hFilter : context.filters "dart_string" =
          some (Filter.literal.apply view) := by
        rw [hTextual.filters]
        rfl
      simp only [Term.eval, hFilter]
      rw [Fallible.failsOnly_bind]
      refine ⟨⟨hFails, fun thing hTerm => ?_⟩, ?_⟩
      · rcases hThing thing hTerm with
          ⟨text, rfl⟩ | ⟨reason, rfl⟩
        · exact Fallible.failsOnly_ok _
        · exact Fallible.failsOnly_error.mpr ⟨reason, rfl⟩
      · intro found hFound
        rcases Fallible.bind_eq_ok.mp hFound with
          ⟨thing, hTerm, hUsed⟩
        rcases hThing thing hTerm with
          ⟨text, rfl⟩ | ⟨reason, rfl⟩
        · rcases hUsed with ⟨⟩
          exact .inl ⟨_, rfl⟩
        · cases hUsed
  | textIf text condition ih =>
      rcases ih hTame with ⟨hFails, hThing⟩
      rw [Term.eval, Fallible.failsOnly_bind]
      refine ⟨⟨hFails, fun thing hTerm => ?_⟩, ?_⟩
      · exact (hThing thing hTerm).failsOnly_bind
          fun text => Fallible.failsOnly_ok _
      · intro found hFound
        rcases Fallible.bind_eq_ok.mp hFound with
          ⟨thing, hTerm, hUsed⟩
        rcases (hThing thing hTerm).exists_of_bind hUsed with
          ⟨value, ⟨⟩⟩
        exact .inl ⟨_, rfl⟩

theorem renderEach_failsOnly
    {step : Datum → Bool → Except Fault String}
    {items : List Datum}
    (hSteps : ∀ item ∈ items, ∀ isLast,
      FailsOnly IsReason (step item isLast)) :
    FailsOnly IsReason (renderEach step items) := by
  induction items with
  | nil => exact Fallible.failsOnly_ok _
  | cons item rest ih =>
      rcases List.forall_mem_cons.mp hSteps with
        ⟨hItem, hRest⟩
      rw [renderEach, Fallible.failsOnly_bind]
      refine ⟨hItem rest.isEmpty, fun first _ => ?_⟩
      rw [Fallible.failsOnly_bind]
      exact ⟨ih hRest, fun more _ => Fallible.failsOnly_ok _⟩

theorem elements_text (text : String) :
    (Datum.text text).elements =
      .ok (text.toList.map fun c =>
        Datum.text (String.singleton c)) := by
  change Except.ok _ = _
  rw [List.map_map]
  rfl

theorem isTextual_cons
    {context : Context}
    (hTextual : context.IsTextual)
    (item text : String)
    (isLast : Bool) :
    Context.IsTextual
      { context with
        bound := (item, .ok (.text text)) :: context.bound
        isLast } where
  filters := hTextual.filters
  bound := by
    intro name hUnknown thing hFound
    rw [List.lookup_cons] at hFound
    cases hName : name == item with
    | true =>
        rw [hName] at hFound
        rcases hFound with ⟨⟩
        exact .inl ⟨text, rfl⟩
    | false =>
        rw [hName] at hFound
        exact hTextual.bound name hUnknown thing hFound

mutual

theorem renderNode_isTame
    {context : Context}
    (hTextual : context.IsTextual)
    (node : Node)
    (hTame : node.isTame) :
    FailsOnly IsReason (renderNode context node) := by
  match node with
  | .text text => exact Fallible.failsOnly_ok _
  | .output term =>
      rcases eval_isTame hTextual hTame with
        ⟨hFails, hThing⟩
      rw [renderNode, Fallible.failsOnly_bind]
      exact ⟨hFails, fun thing hTerm =>
        (hThing thing hTerm).failsOnly_bind
          fun text => Fallible.failsOnly_ok _⟩
  | .whenTrue condition body =>
      rw [Node.isTame, Bool.and_eq_true] at hTame
      rcases eval_isTame hTextual hTame.1 with
        ⟨hFails, hThing⟩
      rw [renderNode, Fallible.failsOnly_bind]
      refine ⟨hFails, fun thing hTerm =>
        (hThing thing hTerm).failsOnly_bind fun text => ?_⟩
      cases (Datum.text text).truthy with
      | true => exact renderNodes_areTame hTextual body hTame.2
      | false => exact Fallible.failsOnly_ok _
  | .each item source body =>
      rw [Node.isTame, Bool.and_eq_true] at hTame
      rcases eval_isTame hTextual hTame.1 with
        ⟨hFails, hThing⟩
      rw [renderNode, Fallible.failsOnly_bind]
      refine ⟨hFails, fun thing hTerm =>
        (hThing thing hTerm).failsOnly_bind fun text => ?_⟩
      rw [elements_text]
      apply renderEach_failsOnly
      intro element hElement isLast
      rcases List.mem_map.mp hElement with ⟨c, _, rfl⟩
      exact renderNodes_areTame
        (isTextual_cons hTextual item _ isLast) body hTame.2
  | .unlessLast body =>
      rw [renderNode]
      split
      · exact Fallible.failsOnly_ok _
      · exact renderNodes_areTame hTextual body hTame

theorem renderNodes_areTame
    {context : Context}
    (hTextual : context.IsTextual)
    (nodes : List Node)
    (hTame : areTame nodes) :
    FailsOnly IsReason (renderNodes context nodes) := by
  match nodes with
  | [] => exact Fallible.failsOnly_ok _
  | node :: rest =>
      rw [areTame, Bool.and_eq_true] at hTame
      rw [renderNodes, Fallible.failsOnly_bind]
      refine ⟨renderNode_isTame hTextual node hTame.1, ?_⟩
      intro first _
      rw [Fallible.failsOnly_bind]
      exact ⟨renderNodes_areTame hTextual rest hTame.2,
        fun _ _ => Fallible.failsOnly_ok _⟩

end

------------------------------------------------------------
-- Shipped Templates
------------------------------------------------------------

theorem isTextual_bindings
    {template : Option String}
    {values : Values}
    {nodes : List Node}
    (hSelf : values.lookup selfName = none)
    (hAscii : ∀ name ∈ namesOf nodes,
      Text.IsAscii name.toList) :
    let bound := bindings template (usual.given values) nodes
    Context.IsTextual
      { filters := usual.filter?, bound } where
  filters := rfl
  bound := by
    intro name hUnknown thing hFound
    by_cases hMem : name ∈ selfName :: namesOf nodes
    · have hNone : usual.known? template name = none := by
        change Option.map _ _ = _
        rw [Option.map_eq_none_iff]
        exact Lookup.lookup_eq_none_iff_notMem.mpr hUnknown
      have hStands := lookup_bindings template
        hSelf (apart_of_isAscii hAscii) hMem
      rw [hFound, hNone, Option.or_none, eq_comm] at hStands
      rcases Option.map_eq_some_iff.mp hStands with
        ⟨text, _, hText⟩
      exact .inl ⟨text, hText.symm⟩
    · have hMem' :
          name ∉ (selfName :: namesOf nodes).eraseDups :=
        fun hIn => hMem (List.mem_eraseDups.mp hIn)
      rw [bindings, Lookup.lookup_filterMap_self,
        if_neg hMem'] at hFound
      cases hFound

theorem areTame_shipped :
    ∀ entry ∈ shipped, areTame entry.2 ∧
      ∀ name ∈ namesOf entry.2, Text.IsAscii name.toList := by
  decide

theorem render_shipped
    {name : String}
    {nodes : List Node}
    (hShipped : shipped.lookup name = some nodes)
    (template : Option String)
    {values : Values}
    (hSelf : values.lookup selfName = none) :
    FailsOnly IsReason
      (render usual.filter? template (usual.given values)
        nodes) := by
  rcases areTame_shipped _ (Lookup.mem_of_lookup hShipped)
    with ⟨hTame, hAscii⟩
  rw [render_of_lookup hSelf]
  exact renderNodes_areTame
    (isTextual_bindings hSelf hAscii) nodes hTame

theorem render_shipped_iff
    {name : String}
    {nodes : List Node}
    (hShipped : shipped.lookup name = some nodes)
    (template : Option String)
    (values : Values) :
    FailsOnly (fun fault => usual.isOwn fault)
        (render usual.filter? template (usual.given values)
          nodes) ↔
      values.lookup selfName = none := by
  cases hSelf : values.lookup selfName with
  | some text =>
      rw [render_selfGiven (Option.isSome_of_eq_some hSelf)]
      refine iff_of_false (fun hFails => ?_) nofun
      cases Fallible.failsOnly_error.mp hFails
  | none =>
      refine iff_of_true ?_ rfl
      intro fault hFault
      rcases render_shipped hShipped template hSelf fault
        hFault with ⟨reason, rfl⟩
      rfl

end Template

end PocketDart
