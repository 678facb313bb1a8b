import Mathlib.Data.List.Basic
import PocketDart.Generation.Emit

/-
  This file proves that a source is a sequence of lines. Its
  groups of lines stand behind empty lines, also those inside
  the class, and what comes before the factory is kept apart
  from what the settings put into the factory.

  Key definitions include:
    * `block`
    * `gap`
    * `classLines`
    * `Layout.memberLines`
    * `Layout.opening`
    * `Layout.closing`
    * `Layout.tail`

  Key theorems include:
    * `block_spaced`
    * `toList_fileText`
    * `block_classLines`
    * `Layout.closing_eq`
    * `Layout.toList_source`
-/

------------------------------------------------------------
-- Blocks
------------------------------------------------------------

namespace PocketDart

/- Lines, each of them ended by a line break. -/
def block (lines : List String) : List Char :=
  lines.flatMap fun line => line.toList ++ ['\n']

/- Lines behind an empty line. -/
def gap (lines : List String) : List Char :=
  ['\n'] ++ block lines

@[simp]
theorem block_cons
    (line : String)
    (lines : List String) :
    block (line :: lines) =
      line.toList ++ (['\n'] ++ block lines) := by
  rw [block, List.flatMap_cons, List.append_assoc]
  rfl

@[simp] theorem block_nil : block [] = [] := rfl

@[simp]
theorem block_append
    (lines more : List String) :
    block (lines ++ more) = block lines ++ block more :=
  List.flatMap_append

theorem block_map
    {A : Type}
    (values : List A)
    (write : A → String) :
    block (values.map write) =
      values.flatMap fun value =>
        (write value).toList ++ ['\n'] := by
  rw [block, List.flatMap_map]

/- Spaced groups stand behind empty lines but for the first. -/
theorem block_spaced
    (group : List String)
    (more : List (List String)) :
    block (spaced (group :: more)) =
      block group ++ more.flatMap gap := by
  induction more generalizing group with
  | nil => simp [spaced]
  | cons next more ih =>
      rw [spaced, block_append, ih, block_append,
        List.flatMap_cons]
      · simp [gap, block_cons]
      · simp

/- In front of an empty line each group has one behind it. -/
theorem block_spaced_append
    (group : List String)
    (more : List (List String))
    (rest : List Char) :
    block (spaced (group :: more)) ++ '\n' :: rest =
      (group :: more).flatMap (fun lines =>
        block lines ++ ['\n']) ++ rest := by
  rw [block_spaced]
  induction more generalizing group with
  | nil => simp
  | cons next more ih =>
      have hMore := ih next
      rw [List.append_assoc] at hMore
      rw [List.flatMap_cons, List.flatMap_cons, gap]
      simp [hMore]

------------------------------------------------------------
-- Texts of Lines
------------------------------------------------------------

/- Lines as one text lack the last line break. -/
theorem toList_linesText
    {lines : List String}
    (hSome : lines ≠ []) :
    (linesText lines).toList ++ ['\n'] = block lines := by
  cases lines with
  | nil => exact absurd rfl hSome
  | cons first more =>
      clear hSome
      induction more generalizing first with
      | nil => simp [linesText, block_cons]
      | cons next more ih =>
          simp only [linesText] at ih ⊢
          rw [String.intercalate_cons_cons,
            String.toList_append, List.append_assoc, ih,
            block_cons first, String.toList_append,
            List.append_assoc]
          rfl

theorem block_linesText
    {lines : List String}
    (hSome : lines ≠ []) :
    block [linesText lines] = block lines := by
  rw [block_cons, block_nil, List.append_nil,
    toList_linesText hSome]

theorem block_spaced_linesText
    {groups : List (List String)}
    (hGroups : ∀ group ∈ groups, group ≠ []) :
    block (spaced ((groups.map linesText).map ([·]))) =
      block (spaced groups) := by
  cases groups with
  | nil => rfl
  | cons first more =>
      rw [List.forall_mem_cons] at hGroups
      have hMore : (more.map linesText).flatMap
            (fun text => gap [text]) =
          more.flatMap gap := by
        rw [List.flatMap_map]
        apply List.flatMap_congr
        intro group hGroup
        rw [gap, block_linesText (hGroups.2 group hGroup)]
        rfl
      rw [List.map_cons, List.map_cons, block_spaced,
        block_spaced, block_linesText hGroups.1,
        List.flatMap_map, hMore]

/- A file has its parts behind empty lines. -/
theorem toList_fileText
    {groups : List (List String)}
    (hSome : groups ≠ [])
    (hGroups : ∀ group ∈ groups, group ≠ []) :
    (fileText (groups.map linesText)).toList =
      block (spaced groups) := by
  cases groups with
  | nil => exact absurd rfl hSome
  | cons first more =>
      clear hSome
      rw [fileText, String.toList_append]
      induction more generalizing first with
      | nil =>
          rw [List.forall_mem_cons] at hGroups
          exact toList_linesText hGroups.1
      | cons next more ih =>
          rw [List.forall_mem_cons] at hGroups
          have hRest := ih next hGroups.2
          rw [List.map_cons] at hRest
          rw [List.map_cons, List.map_cons,
            String.intercalate_cons_cons, block_spaced,
            List.flatMap_cons, String.toList_append,
            List.append_assoc, hRest, block_spaced,
            String.toList_append,
            ← toList_linesText hGroups.1, gap]
          simp

def classLines
    (className : String)
    (members : List String) : List String :=
  ["class " ++ className ++ " " ++ openBrace] ++
    spaced (members.map ([·])) ++ [closeBrace]

/- A class has its members between its braces. -/
theorem block_classLines
    (className : String)
    {groups : List (List String)}
    (hGroups : ∀ group ∈ groups, group ≠ []) :
    block (classLines className (groups.map linesText)) =
      block ["class " ++ className ++ " " ++ openBrace] ++
        block (spaced groups) ++ block [closeBrace] := by
  rw [classLines, block_append, block_append,
    block_spaced_linesText hGroups]

------------------------------------------------------------
-- Sources
------------------------------------------------------------

namespace EnumLayout

theorem lines_ne_nil (layout : EnumLayout) :
    layout.lines ≠ [] := by
  simp [lines, declarationLines]

/- The parts of an enum stand behind empty lines. -/
theorem gap_lines (layout : EnumLayout) :
    gap layout.lines =
      gap layout.declarationLines ++
        (gap layout.toMapLines ++
          (gap layout.fromMapLines ++
            gap layout.fromWireLines)) := by
  simp [gap, lines, block_append, block_cons]

end EnumLayout

namespace Layout

/- The parts of the class, each of them in lines. -/
def memberLines
    (settings : Settings)
    (layout : Layout) : List (List String) :=
  [layout.fieldLines, layout.constructorLines,
    layout.factoryLines settings.recordType,
    layout.toMapLines]

theorem block_fieldLines (layout : Layout) :
    block layout.fieldLines =
      block (spaced (systemFields.map (·.declarationLines))) ++
        layout.fields.flatMap fun field =>
          gap field.declarationLines := by
  rw [fieldLines, allFields, List.map_append, systemFields,
    List.map_cons, List.cons_append, block_spaced,
    block_spaced, List.flatMap_append, List.append_assoc,
    List.flatMap_map (l := layout.fields)]

/- No part of the class is empty. -/
theorem ne_nil_of_mem_memberLines
    (settings : Settings)
    (layout : Layout) :
    ∀ group ∈ layout.memberLines settings, group ≠ [] := by
  have hFields : layout.fieldLines ≠ [] := by
    intro hNone
    have hBlock := layout.block_fieldLines
    rw [hNone, block_nil] at hBlock
    have hSystem :=
      (List.append_eq_nil_iff.mp hBlock.symm).1
    exact absurd hSystem (by decide)
  simp [memberLines, hFields, constructorLines,
    factoryLines, toMapLines]

/- The source up to the factory. -/
def opening
    (settings : Settings)
    (layout : Layout) : List Char :=
  block (headerLines settings layout.collection) ++
    (layout.enums.flatMap (fun enum => gap enum.lines) ++
      (gap ["class " ++ layout.className ++ " " ++
          openBrace] ++
        (block layout.fieldLines ++
          gap layout.constructorLines)))

/- The source from the factory on. -/
def closing
    (settings : Settings)
    (layout : Layout) : List Char :=
  gap (layout.factoryLines settings.recordType) ++
    gap layout.toMapLines ++ block [closeBrace]

/- The first line of the factory, up to the type of records. -/
def factoryStart (layout : Layout) : String :=
  "  factory " ++ layout.className ++ ".fromModel("

/- What follows the type of records in the line. -/
def factoryEnd : String :=
  " r) " ++ openBrace

/- The lines of the factory behind the first. -/
def bodyLines (layout : Layout) : List String :=
  ["    return " ++ layout.className ++ "("] ++
    systemArguments.map (fun argument =>
      namedRow argument.1 argument.2) ++
    layout.fields.map (·.readLine) ++
    ["    );", "  " ++ closeBrace]

/- The source behind the first line of the factory. -/
def tail (layout : Layout) : List Char :=
  block layout.bodyLines ++
    (gap layout.toMapLines ++ block [closeBrace])

/- The type of records stands in the line of the factory. -/
theorem closing_eq
    (settings : Settings)
    (layout : Layout) :
    layout.closing settings =
      '\n' :: (layout.factoryStart.toList ++
        (settings.recordType.toList ++
          (factoryEnd.toList ++ '\n' :: layout.tail))) := by
  simp [closing, factoryLines, tail, bodyLines, gap,
    block_cons, factoryStart, factoryEnd]

theorem toList_source
    (settings : Settings)
    (layout : Layout) :
    (layout.source settings).toList =
      layout.opening settings ++ layout.closing settings := by
  let groups : List (List String) :=
    headerLines settings layout.collection ::
      (layout.enums.map EnumLayout.lines ++
        [classLines layout.className
          ((layout.memberLines settings).map linesText)])
  have hSource : layout.source settings =
      fileText (groups.map linesText) := by
    simp only [groups, source, classText, List.map_cons,
      List.map_append, List.map_map, List.map_nil]
    rfl
  have hGroups : ∀ group ∈ groups, group ≠ [] := by
    rw [List.forall_mem_cons, List.forall_mem_append]
    refine ⟨List.append_ne_nil_of_right_ne_nil _ (by simp),
      ?_, ?_⟩
    · intro group hGroup
      rcases List.mem_map.mp hGroup with ⟨enum, _, rfl⟩
      exact enum.lines_ne_nil
    · intro group hGroup
      rw [List.mem_singleton.mp hGroup]
      exact List.append_ne_nil_of_right_ne_nil _ (by simp)
  have hMembers :=
    block_classLines layout.className
      (layout.ne_nil_of_mem_memberLines settings)
  rw [memberLines, block_spaced] at hMembers
  rw [hSource,
    toList_fileText (List.cons_ne_nil _ _) hGroups,
    block_spaced, List.flatMap_append, List.flatMap_map]
  simp only [List.flatMap_cons, List.flatMap_nil,
    List.append_nil]
  rw [gap, memberLines, hMembers]
  simp [opening, closing, gap]

end Layout

end PocketDart
