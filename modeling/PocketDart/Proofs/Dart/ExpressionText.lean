import PocketDart.Dart.Expression
import PocketDart.Proofs.Dart.TextReader

/-
  This file defines how an expression is read off a source.
  An operand is a name with what is selected from it, called
  with it or looked up in it, and two tests for null can
  stand around an operand. It proves that an expression of
  words is read back from its spelling.

  Key definitions include:
    * `Dart.TextReader.operandOf`
    * `Dart.TextReader.expression`
    * `Dart.Expression.IsOperand`
    * `Dart.Expression.IsReadable`

  Key theorems include:
    * `Dart.TextReader.run_operandOf`
    * `Dart.TextReader.run_expression`
-/

------------------------------------------------------------
-- Readers
------------------------------------------------------------

namespace PocketDart

namespace Dart

namespace TextReader

open Expression (recordName)

/-
  What a selector makes of the name in front of it: a value
  or a field of the record, a time, or the text of a time.
-/
def selection
    (name : String)
    (argument : TextReader Expression) :
    TextReader Expression := do
  let selector ← word
  branch "["
    (do
      let constant ← word
      expect "]"
      if name = recordName ∧ selector = "data" then
        return .recordValue constant
      else failure) <|
  branch "("
    (if name = "DateTime" ∧ selector = "parse" then do
        let text ← argument
        expect ")"
        return .parseTime text
      else if selector = "toIso8601String" then do
        expect ")"
        return .formatTime (.member name) false
      else failure) <|
  if name = recordName then return .recordField selector
  else failure

/- An operand that is nested less deep than the bound. -/
def operandOf : Nat → TextReader Expression
  | 0 => failure
  | bound + 1 => do
      let name ← word
      branch "["
        (do
          let key ← operandOf bound
          expect "]"
          return .lookup name key) <|
      branch "("
        (do
          let argument ← operandOf bound
          expect ")"
          return .call name argument) <|
      branch "?."
        (do
          expect "toIso8601String()"
          return .formatTime (.member name) true) <|
      branch "." (selection name (operandOf bound)) <|
      return .member name

/- No operand is nested deeper than its text is long. -/
def operand : TextReader Expression :=
  fun cs => (operandOf (cs.length + 1)).run cs

/- An operand, or a test of one that guards another. -/
def expression : TextReader Expression := do
  let tested ← operand
  branch " == null || "
    (do
      let again ← operand
      expect " == '' ? null : "
      let value ← operand
      if tested = again then
        return .unlessBlank tested value
      else failure) <|
  branch " != null ? "
    (do
      let value ← operand
      expect " : null"
      return .unlessNull tested value) <|
  return tested

end TextReader

------------------------------------------------------------
-- Readable Expressions
------------------------------------------------------------

namespace Expression

/- An operand all of whose names are words. -/
def IsOperand : Expression → Prop
  | .recordValue constant => IsWord constant
  | .recordField name => IsWord name
  | .member name => IsWord name
  | .call function argument =>
      IsWord function ∧ argument.IsOperand
  | .lookup table key => IsWord table ∧ key.IsOperand
  | .parseTime text => text.IsOperand
  | .formatTime (.member name) _ => IsWord name
  | _ => False

def IsReadable : Expression → Prop
  | .unlessNull tested value =>
      tested.IsOperand ∧ value.IsOperand
  | .unlessBlank tested value =>
      tested.IsOperand ∧ value.IsOperand
  | operand => operand.IsOperand

/- The characters that come in types and in blocks only. -/
def brackets : List Char := ['<', '\x7b']

theorem eq_or_eq_of_mem_brackets
    {c : Char}
    (hBracket : c ∈ brackets) :
    c = '<' ∨ c = '\x7b' := by
  simpa [brackets] using hBracket

/- What is spelled between the names has none of them. -/
theorem notMem_of_mem_brackets
    {c : Char}
    (hBracket : c ∈ brackets) :
    (∀ name, IsWord name → c ∉ name.toList) ∧
      ∀ mark ∈ [recordName, ".data[", ".", "(", ")", "[",
          "]", "DateTime.parse(", "?.", "toIso8601String()",
          " != null ? ", " : null", " == null || ",
          " == '' ? null : "],
        c ∉ mark.toList := by
  have hPlain : isNamePart c = false ∧ c ≠ '\n' := by
    rcases eq_or_eq_of_mem_brackets hBracket with rfl | rfl <;>
      decide
  refine ⟨fun name hName => hName.notMem hPlain.1 hPlain.2, ?_⟩
  rcases eq_or_eq_of_mem_brackets hBracket with rfl | rfl <;>
    decide

/- The spelling of an operand has none of them. -/
theorem IsOperand.notMem_render
    {value : Expression}
    (hOperand : value.IsOperand)
    {c : Char}
    (hBracket : c ∈ brackets) :
    c ∉ value.render.toList := by
  rcases notMem_of_mem_brackets hBracket with
    ⟨hWord, hMarks⟩
  induction value with
  | recordValue constant =>
      simp only [render, String.toList_append,
        List.mem_append, not_or]
      exact ⟨⟨⟨hMarks _ (by decide), hMarks _ (by decide)⟩,
        hWord _ hOperand⟩, hMarks _ (by decide)⟩
  | recordField name =>
      simp only [render, String.toList_append,
        List.mem_append, not_or]
      exact ⟨⟨hMarks _ (by decide), hMarks _ (by decide)⟩,
        hWord _ hOperand⟩
  | member name => exact hWord _ hOperand
  | call function argument ih =>
      simp only [render, String.toList_append,
        List.mem_append, not_or]
      exact ⟨⟨⟨hWord _ hOperand.1, hMarks _ (by decide)⟩,
        ih hOperand.2⟩, hMarks _ (by decide)⟩
  | lookup table key ih =>
      simp only [render, String.toList_append,
        List.mem_append, not_or]
      exact ⟨⟨⟨hWord _ hOperand.1, hMarks _ (by decide)⟩,
        ih hOperand.2⟩, hMarks _ (by decide)⟩
  | parseTime text ih =>
      simp only [render, String.toList_append,
        List.mem_append, not_or]
      exact ⟨⟨hMarks _ (by decide), ih hOperand⟩,
        hMarks _ (by decide)⟩
  | formatTime time nullAware =>
      cases time with
      | member name =>
          have hMark : c ∉
              (if nullAware then "?." else ".").toList := by
            split
            · exact hMarks _ (by decide)
            · exact hMarks _ (by decide)
          simp only [render, String.toList_append,
            List.mem_append, not_or]
          exact ⟨⟨hWord _ hOperand, hMark⟩,
            hMarks _ (by decide)⟩
      | _ => cases hOperand
  | unlessNull tested value => cases hOperand
  | unlessBlank tested value => cases hOperand

theorem IsReadable.notMem_render
    {value : Expression}
    (hReadable : value.IsReadable)
    {c : Char}
    (hBracket : c ∈ brackets) :
    c ∉ value.render.toList := by
  rcases notMem_of_mem_brackets hBracket with ⟨_, hMarks⟩
  cases value with
  | unlessNull tested value =>
      have hTested := hReadable.1.notMem_render hBracket
      have hValue := hReadable.2.notMem_render hBracket
      simp only [render, String.toList_append,
        List.mem_append, not_or]
      exact ⟨⟨⟨hTested, hMarks _ (by decide)⟩, hValue⟩,
        hMarks _ (by decide)⟩
  | unlessBlank tested value =>
      have hTested := hReadable.1.notMem_render hBracket
      have hValue := hReadable.2.notMem_render hBracket
      simp only [render, String.toList_append,
        List.mem_append, not_or]
      exact ⟨⟨⟨⟨hTested, hMarks _ (by decide)⟩, hTested⟩,
        hMarks _ (by decide)⟩, hValue⟩
  | _ =>
      exact IsOperand.notMem_render hReadable hBracket

end Expression

namespace TextReader

open Expression (recordName)

/- The characters that come behind an operand. -/
def stops : List Char := [',', ')', ']', ' ']

/- A stop ends a name, and no selection begins with it. -/
theorem stops_apart :
    ∀ c ∈ stops, isWordChar c = false ∧
      ∀ mark ∈ ["[", "(", "?.", "."],
        Text.Apart mark.toList [c] := by
  intro c hStop
  have hCases : c = ',' ∨ c = ')' ∨ c = ']' ∨ c = ' ' := by
    simpa [stops] using hStop
  rcases hCases with rfl | rfl | rfl | rfl <;> decide

/- Nothing is selected where a stop comes. -/
theorem run_branch_of_stop
    {c : Char}
    (hStop : c ∈ stops)
    {mark : String}
    (hMark : mark ∈ ["[", "(", "?.", "."])
    (found missed : TextReader Expression)
    (rest : List Char) :
    (branch mark found missed).run (c :: rest) =
      missed.run (c :: rest) :=
  run_branch_of_apart ((stops_apart c hStop).2 mark hMark)
    found missed rest

variable {c : Char}

------------------------------------------------------------
-- Selections
------------------------------------------------------------

theorem run_selection_data
    (argument : TextReader Expression)
    {constant : String}
    (hConstant : IsWord constant)
    (rest : List Char) :
    (selection recordName argument).run
        ("data".toList ++ ("[".toList ++
          (constant.toList ++ ("]".toList ++ rest)))) =
      some (.recordValue constant, rest) := by
  have hData : IsWord "data" := isWord_text (by decide)
  rw [selection, run_bind_of_some (run_word hData rfl),
    run_branch, run_bind_of_some (run_word hConstant rfl),
    run_bind_of_some (run_expect _ _)]
  rfl

theorem run_selection_parse
    {argument : TextReader Expression}
    {text : Expression}
    {cs rest : List Char}
    (hText : argument.run (cs ++ (")".toList ++ rest)) =
      some (text, ")".toList ++ rest)) :
    (selection "DateTime" argument).run
        ("parse".toList ++ ("(".toList ++
          (cs ++ (")".toList ++ rest)))) =
      some (.parseTime text, rest) := by
  have hParse : IsWord "parse" := isWord_text (by decide)
  have hIndex :
      Text.Apart "[".toList "(".toList := by decide
  rw [selection, run_bind_of_some (run_word hParse rfl),
    run_branch_of_apart hIndex, run_branch,
    if_pos ⟨rfl, rfl⟩, run_bind_of_some hText,
    run_bind_of_some (run_expect _ _)]
  rfl

theorem run_selection_format
    (argument : TextReader Expression)
    (name : String)
    (rest : List Char) :
    (selection name argument).run
        ("toIso8601String".toList ++ ("(".toList ++
          (")".toList ++ rest))) =
      some (.formatTime (.member name) false, rest) := by
  have hFormat : IsWord "toIso8601String" :=
    isWord_text (by decide)
  have hIndex :
      Text.Apart "[".toList "(".toList := by decide
  rw [selection, run_bind_of_some (run_word hFormat rfl),
    run_branch_of_apart hIndex, run_branch,
    if_neg (by simp), if_pos rfl,
    run_bind_of_some (run_expect _ _)]
  rfl

theorem run_selection_field
    (argument : TextReader Expression)
    {name : String}
    (hName : IsWord name)
    (hStop : c ∈ stops)
    (rest : List Char) :
    (selection recordName argument).run
        (name.toList ++ c :: rest) =
      some (.recordField name, c :: rest) := by
  have hEnd : (c :: rest).head?.any isWordChar = false :=
    (stops_apart c hStop).1
  rw [selection, run_bind_of_some (run_word hName hEnd),
    run_branch_of_stop hStop (by decide),
    run_branch_of_stop hStop (by decide), if_pos rfl]
  rfl

------------------------------------------------------------
-- Operands
------------------------------------------------------------

variable {bound : Nat}

theorem run_operandOf_member
    {name : String}
    (hName : IsWord name)
    (hStop : c ∈ stops)
    (rest : List Char) :
    (operandOf (bound + 1)).run (name.toList ++ c :: rest) =
      some (.member name, c :: rest) := by
  have hEnd : (c :: rest).head?.any isWordChar = false :=
    (stops_apart c hStop).1
  rw [operandOf, run_bind_of_some (run_word hName hEnd),
    run_branch_of_stop hStop (by decide),
    run_branch_of_stop hStop (by decide),
    run_branch_of_stop hStop (by decide),
    run_branch_of_stop hStop (by decide)]
  rfl

theorem run_operandOf_call
    {function : String}
    {argument : Expression}
    {cs rest : List Char}
    (hFunction : IsWord function)
    (hArgument :
      (operandOf bound).run (cs ++ (")".toList ++ rest)) =
        some (argument, ")".toList ++ rest)) :
    (operandOf (bound + 1)).run
        (function.toList ++ ("(".toList ++
          (cs ++ (")".toList ++ rest)))) =
      some (.call function argument, rest) := by
  rw [operandOf, run_bind_of_some (run_word hFunction rfl),
    run_branch_of_apart (by decide), run_branch,
    run_bind_of_some hArgument,
    run_bind_of_some (run_expect _ _)]
  rfl

theorem run_operandOf_lookup
    {table : String}
    {key : Expression}
    {cs rest : List Char}
    (hTable : IsWord table)
    (hKey :
      (operandOf bound).run (cs ++ ("]".toList ++ rest)) =
        some (key, "]".toList ++ rest)) :
    (operandOf (bound + 1)).run
        (table.toList ++ ("[".toList ++
          (cs ++ ("]".toList ++ rest)))) =
      some (.lookup table key, rest) := by
  rw [operandOf, run_bind_of_some (run_word hTable rfl),
    run_branch, run_bind_of_some hKey,
    run_bind_of_some (run_expect _ _)]
  rfl

/- Behind a point comes what is selected. -/
theorem run_operandOf_selection
    {name : String}
    (hName : IsWord name)
    (cs : List Char) :
    (operandOf (bound + 1)).run
        (name.toList ++ (".".toList ++ cs)) =
      (selection name (operandOf bound)).run cs := by
  rw [operandOf, run_bind_of_some (run_word hName rfl),
    run_branch_of_apart (by decide),
    run_branch_of_apart (by decide),
    run_branch_of_apart (by decide), run_branch]

theorem run_operandOf_formatTime
    {name : String}
    (hName : IsWord name)
    (nullAware : Bool)
    (rest : List Char) :
    (operandOf (bound + 1)).run
        (name.toList ++
          ((if nullAware then "?." else ".").toList ++
            ("toIso8601String()".toList ++ rest))) =
      some (.formatTime (.member name) nullAware, rest) := by
  cases nullAware with
  | true =>
      rw [if_pos rfl, operandOf,
        run_bind_of_some (run_word hName rfl),
        run_branch_of_apart (by decide),
        run_branch_of_apart (by decide), run_branch,
        run_bind_of_some (run_expect _ _)]
      rfl
  | false =>
      rw [if_neg Bool.false_ne_true,
        run_operandOf_selection hName]
      exact run_selection_format _ name _

/-
  An operand is read back, when the bound is larger than its
  text and a stop comes behind it. What is nested in it has
  a smaller bound, which its shorter text allows for.
-/
theorem run_operandOf
    {value : Expression}
    (hOperand : value.IsOperand)
    (hBound : value.render.toList.length < bound)
    (hStop : c ∈ stops)
    (rest : List Char) :
    (operandOf bound).run
        (value.render.toList ++ c :: rest) =
      some (value, c :: rest) := by
  have hRecord : IsWord recordName :=
    isWord_text (by decide)
  have hTime : IsWord "DateTime" := isWord_text (by decide)
  induction bound generalizing value c rest with
  | zero => exact absurd hBound (Nat.not_lt_zero _)
  | succ bound ih =>
    cases value with
    | recordValue constant =>
        have hText :
            (Expression.recordValue constant).render.toList ++
                c :: rest =
              recordName.toList ++ (".".toList ++
                ("data".toList ++ ("[".toList ++
                  (constant.toList ++
                    ("]".toList ++ c :: rest))))) := by
          simp [Expression.render]
        rw [hText, run_operandOf_selection hRecord,
          run_selection_data _ hOperand]
    | recordField name =>
        have hText :
            (Expression.recordField name).render.toList ++
                c :: rest =
              recordName.toList ++ (".".toList ++
                (name.toList ++ c :: rest)) := by
          simp [Expression.render]
        rw [hText, run_operandOf_selection hRecord,
          run_selection_field _ hOperand hStop]
    | member name =>
        exact run_operandOf_member hOperand hStop rest
    | call function argument =>
        have hText :
            (Expression.call function argument).render.toList
                ++ c :: rest =
              function.toList ++ ("(".toList ++
                (argument.render.toList ++
                  (")".toList ++ c :: rest))) := by
          simp [Expression.render]
        have hShorter :
            argument.render.toList.length < bound := by
          simp [Expression.render] at hBound ⊢
          omega
        rw [hText]
        exact run_operandOf_call hOperand.1
          (ih hOperand.2 hShorter (by decide) _)
    | lookup table key =>
        have hText :
            (Expression.lookup table key).render.toList ++
                c :: rest =
              table.toList ++ ("[".toList ++
                (key.render.toList ++
                  ("]".toList ++ c :: rest))) := by
          simp [Expression.render]
        have hShorter :
            key.render.toList.length < bound := by
          simp [Expression.render] at hBound ⊢
          omega
        rw [hText]
        exact run_operandOf_lookup hOperand.1
          (ih hOperand.2 hShorter (by decide) _)
    | parseTime text =>
        have hInner : text.IsOperand := hOperand
        have hText :
            (Expression.parseTime text).render.toList ++
                c :: rest =
              "DateTime".toList ++ (".".toList ++
                ("parse".toList ++ ("(".toList ++
                  (text.render.toList ++
                    (")".toList ++ c :: rest))))) := by
          simp [Expression.render]
        have hShorter :
            text.render.toList.length < bound := by
          simp [Expression.render] at hBound ⊢
          omega
        rw [hText, run_operandOf_selection hTime]
        exact run_selection_parse
          (ih hInner hShorter (by decide) _)
    | formatTime time nullAware =>
        cases time with
        | member name =>
            have hText :
                (Expression.formatTime (.member name)
                      nullAware).render.toList ++ c :: rest =
                  name.toList ++
                    ((if nullAware then "?."
                        else ".").toList ++
                      ("toIso8601String()".toList ++
                        c :: rest)) := by
              simp [Expression.render]
            rw [hText]
            exact run_operandOf_formatTime hOperand
              nullAware _
        | _ => cases hOperand
    | unlessNull tested value => cases hOperand
    | unlessBlank tested value => cases hOperand

theorem run_operand
    {value : Expression}
    (hOperand : value.IsOperand)
    (hStop : c ∈ stops)
    (rest : List Char) :
    operand.run (value.render.toList ++ c :: rest) =
      some (value, c :: rest) := by
  apply run_operandOf hOperand _ hStop
  rw [List.length_append]
  omega

------------------------------------------------------------
-- Expressions
------------------------------------------------------------

/- An operand in front of a comma is no test. -/
theorem run_expression_of_operand
    {value : Expression}
    (hOperand : value.IsOperand)
    (rest : List Char) :
    expression.run
        (value.render.toList ++ (",".toList ++ rest)) =
      some (value, ",".toList ++ rest) := by
  have hValue :
      operand.run
          (value.render.toList ++ (",".toList ++ rest)) =
        some (value, ",".toList ++ rest) :=
    run_operand hOperand (by decide) _
  rw [expression, run_bind_of_some hValue,
    run_branch_of_apart (by decide),
    run_branch_of_apart (by decide)]
  rfl

theorem run_expression_unlessNull
    {tested value : Expression}
    (hTested : tested.IsOperand)
    (hValue : value.IsOperand)
    (rest : List Char) :
    expression.run
        ((Expression.unlessNull tested value).render.toList ++
          rest) =
      some (.unlessNull tested value, rest) := by
  have hText :
      (Expression.unlessNull tested value).render.toList ++
          rest =
        tested.render.toList ++ (" != null ? ".toList ++
          (value.render.toList ++
            (" : null".toList ++ rest))) := by
    simp [Expression.render]
  have hFirst : ∀ more : List Char,
      operand.run (tested.render.toList ++
          (" != null ? ".toList ++ more)) =
        some (tested, " != null ? ".toList ++ more) :=
    fun _ => run_operand hTested (by decide) _
  have hSecond :
      operand.run (value.render.toList ++
          (" : null".toList ++ rest)) =
        some (value, " : null".toList ++ rest) :=
    run_operand hValue (by decide) _
  rw [hText, expression, run_bind_of_some (hFirst _),
    run_branch_of_apart (by decide), run_branch,
    run_bind_of_some hSecond,
    run_bind_of_some (run_expect _ _)]
  rfl

theorem run_expression_unlessBlank
    {tested value : Expression}
    (hTested : tested.IsOperand)
    (hValue : value.IsOperand)
    (rest : List Char) :
    expression.run
        ((Expression.unlessBlank tested value).render.toList
          ++ (",".toList ++ rest)) =
      some (.unlessBlank tested value,
        ",".toList ++ rest) := by
  have hText :
      (Expression.unlessBlank tested value).render.toList ++
          (",".toList ++ rest) =
        tested.render.toList ++ (" == null || ".toList ++
          (tested.render.toList ++
            (" == '' ? null : ".toList ++
              (value.render.toList ++
                (",".toList ++ rest))))) := by
    simp [Expression.render]
  have hFirst : ∀ more : List Char,
      operand.run (tested.render.toList ++
          (" == null || ".toList ++ more)) =
        some (tested, " == null || ".toList ++ more) :=
    fun _ => run_operand hTested (by decide) _
  have hAgain : ∀ more : List Char,
      operand.run (tested.render.toList ++
          (" == '' ? null : ".toList ++ more)) =
        some (tested, " == '' ? null : ".toList ++ more) :=
    fun _ => run_operand hTested (by decide) _
  have hSecond :
      operand.run (value.render.toList ++
          (",".toList ++ rest)) =
        some (value, ",".toList ++ rest) :=
    run_operand hValue (by decide) _
  rw [hText, expression, run_bind_of_some (hFirst _),
    run_branch, run_bind_of_some (hAgain _),
    run_bind_of_some (run_expect _ _),
    run_bind_of_some hSecond, if_pos rfl]
  rfl

/- An expression is read back up to the comma behind it. -/
theorem run_expression
    {value : Expression}
    (hReadable : value.IsReadable)
    (rest : List Char) :
    expression.run
        (value.render.toList ++ (",".toList ++ rest)) =
      some (value, ",".toList ++ rest) := by
  cases value with
  | unlessNull tested value =>
      exact run_expression_unlessNull hReadable.1
        hReadable.2 _
  | unlessBlank tested value =>
      exact run_expression_unlessBlank hReadable.1
        hReadable.2 _
  | _ => exact run_expression_of_operand hReadable rest

end TextReader

end Dart

end PocketDart
