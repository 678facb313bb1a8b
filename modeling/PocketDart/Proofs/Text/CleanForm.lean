import PocketDart.Proofs.Text.Tidy

/-
  This file proves what the clean form of a text is, line by
  line. The lines that are not blank are those of the text,
  without the blanks at their ends, and between two of them
  stands one empty line where blank lines stood before. A
  clean form is its own clean form.

  Key definitions include:
    * `Text.isFull`
    * `Text.fullLines`
    * `Text.Trims`
    * `Text.IsCleanForm`

  Key theorems include:
    * `Text.filter_squeeze`
    * `Text.exists_squeeze_append`
    * `Text.squeezeFrom_squeezeFrom`
    * `Text.pieces_tidyChars`
    * `Text.tidy_isCleanForm`
-/

------------------------------------------------------------
-- Blank Lines
------------------------------------------------------------

namespace PocketDart

namespace Text

/- A line that holds something other than blanks. -/
def isFull (line : List Char) : Bool :=
  line.any (!isBlank ·)

/- The lines of a text that are not blank, in order. -/
def fullLines (cs : List Char) : List (List Char) :=
  (pieces '\n' cs).filter isFull

/- A line without the blanks at its end, and no others. -/
def Trims (line kept : List Char) : Prop :=
  EndsFirm kept ∧
    ∃ blanks, line = kept ++ blanks ∧
      ∀ c ∈ blanks, isBlank c

/-
  A clean form of a text: its lines that are not blank are
  those of the text, trimmed. Two of them that follow each
  other are apart by one empty line if they were apart by
  any, the first one begins the form, and the last one ends
  it but for one line break.
-/
structure IsCleanForm (source clean : List Char) : Prop where
  lines :
    List.Forall₂ Trims (fullLines source) (fullLines clean)
  gaps :
    ∀ before first between second after,
      pieces '\n' source =
          before ++ first :: (between ++ second :: after) →
        isFull first → isFull second →
        (∀ line ∈ between, isFull line = false) →
        ∃ before' first' second' after',
          pieces '\n' clean =
              before' ++ first' ::
                ((if between = [] then [] else [[]]) ++
                  second' :: after') ∧
            (before'.filter isFull).length =
              (before.filter isFull).length ∧
            Trims first first' ∧ Trims second second'
  opening :
    fullLines source ≠ [] →
      ∃ first rest,
        pieces '\n' clean = first :: rest ∧ isFull first
  ending :
    fullLines source ≠ [] →
      ∃ body, clean = body ++ ['\n'] ∧ EndsFirm body
  blank :
    fullLines source = [] → clean = ['\n']

------------------------------------------------------------
-- Trimmed Lines
------------------------------------------------------------

/- What trailing trimming cuts off is of the class. -/
theorem exists_trimEndOf_append
    (p : Char → Bool)
    (cs : List Char) :
    ∃ blanks, cs = trimEndOf p cs ++ blanks ∧
      ∀ c ∈ blanks, p c := by
  induction cs with
  | nil => exact ⟨[], rfl, by simp⟩
  | cons c rest ih =>
      rcases ih with ⟨blanks, hRest, hBlanks⟩
      rw [trimEndOf]
      cases hKept : trimEndOf p rest with
      | cons d kept =>
          rw [hKept] at hRest
          exact ⟨blanks, congrArg (c :: ·) hRest, hBlanks⟩
      | nil =>
          rw [hKept, List.nil_append] at hRest
          subst hRest
          by_cases hBlank : p c = true
          · refine ⟨c :: rest, by simp [hBlank], ?_⟩
            exact List.forall_mem_cons.mpr
              ⟨hBlank, hBlanks⟩
          · exact ⟨rest, by simp [hBlank], hBlanks⟩

theorem trims_trimEnd
    {line : List Char}
    (hFull : isFull line) :
    Trims line (trimEnd line) := by
  rcases exists_trimEndOf_append isBlank line with
    ⟨blanks, hLine, hBlanks⟩
  refine ⟨?_, blanks, hLine, hBlanks⟩
  cases hLast : (trimEnd line).getLast? with
  | some c =>
      exact ⟨c, hLast, getLast?_trimEndOf isBlank line c hLast⟩
  | none =>
      -- Then the line consists of what was cut off.
      have hNone : trimEndOf isBlank line = [] :=
        List.getLast?_eq_none_iff.mp hLast
      rw [hNone, List.nil_append] at hLine
      subst hLine
      rcases List.any_eq_true.mp hFull with ⟨c, hMem, hNot⟩
      simp [hBlanks c hMem] at hNot

theorem trimEnd_eq_nil
    {line : List Char}
    (hBlank : isFull line = false) :
    trimEnd line = [] := by
  rcases exists_trimEndOf_append isBlank line with
    ⟨blanks, hLine, _⟩
  cases hLast : (trimEnd line).getLast? with
  | none => exact List.getLast?_eq_none_iff.mp hLast
  | some c =>
      have hNot := getLast?_trimEndOf isBlank line c hLast
      have hMem : c ∈ line := by
        rw [hLine]
        exact List.mem_append_left _
          (List.mem_of_getLast? hLast)
      have hAny := List.any_eq_false.mp hBlank c hMem
      simp [hNot] at hAny

/- Something is left of the others. -/
theorem trimEnd_ne_nil_iff (line : List Char) :
    trimEnd line ≠ [] ↔ isFull line := by
  cases hFull : isFull line with
  | true => simpa using (trims_trimEnd hFull).1.ne_nil
  | false => simpa using trimEnd_eq_nil hFull

------------------------------------------------------------
-- Squeezed Lines
------------------------------------------------------------

section

variable {line : List Char}
variable (due : Bool)

theorem squeezeFrom_cons
    (hLine : line ≠ [])
    (rest : List (List Char)) :
    squeezeFrom due (line :: rest) =
      (if due then [[]] else []) ++
        line :: squeezeFrom false rest := by
  rcases List.exists_cons_of_ne_nil hLine with ⟨c, more, rfl⟩
  cases due with
  | false => simp [squeezeFrom]
  | true => simp [squeezeFrom]

theorem filter_due_append
    (hLine : line ≠ [])
    (rest : List (List Char)) :
    ((if due then [[]] else []) ++ line :: rest).filter
        (· ≠ []) =
      line :: rest.filter (· ≠ []) := by
  cases due with
  | false => simp [hLine]
  | true => simp [hLine]

theorem filter_squeezeFrom (lines : List (List Char)) :
    (squeezeFrom due lines).filter (· ≠ []) =
      lines.filter (· ≠ []) := by
  induction lines generalizing due with
  | nil => rfl
  | cons line rest ih =>
      by_cases hLine : line = []
      · subst hLine
        exact ih true
      · rw [squeezeFrom_cons due hLine,
          filter_due_append due hLine, ih false]
        simp [hLine]

theorem squeezeFrom_append
    {between : List (List Char)}
    (hEmpty : ∀ line ∈ between, line = [])
    (rest : List (List Char)) :
    squeezeFrom due (between ++ rest) =
      squeezeFrom (due || !between.isEmpty) rest := by
  induction between generalizing due with
  | nil => simp
  | cons line more ih =>
      rw [List.forall_mem_cons] at hEmpty
      rw [hEmpty.1]
      have hMore := ih true hEmpty.2
      simpa [squeezeFrom] using hMore

/- A line that is not empty stays where it is. -/
theorem exists_squeezeFrom_append
    (hLine : line ≠ [])
    (before rest : List (List Char)) :
    ∃ kept,
      squeezeFrom due (before ++ line :: rest) =
          kept ++ line :: squeezeFrom false rest ∧
        kept.filter (· ≠ []) = before.filter (· ≠ []) := by
  induction before generalizing due with
  | nil =>
      refine ⟨_, squeezeFrom_cons due hLine rest, ?_⟩
      cases due with
      | false => rfl
      | true => rfl
  | cons first more ih =>
      by_cases hFirst : first = []
      · subst hFirst
        exact ih true
      · rcases ih false with ⟨kept, hKept, hFilter⟩
        refine ⟨(if due then [[]] else []) ++ first :: kept,
          ?_, ?_⟩
        · rw [List.cons_append, squeezeFrom_cons due hFirst,
            hKept]
          simp
        · rw [filter_due_append due hFirst, hFilter]
          simp [hFirst]

theorem getLast?_squeezeFrom
    (lines : List (List Char))
    (hLast :
      (squeezeFrom due lines).getLast? = some line) :
    line ≠ [] := by
  induction lines generalizing due with
  | nil => cases hLast
  | cons first rest ih =>
      by_cases hFirst : first = []
      · subst hFirst
        exact ih true hLast
      · rw [squeezeFrom_cons due hFirst,
          List.getLast?_append_of_ne_nil _
            (List.cons_ne_nil _ _)] at hLast
        cases hRest : squeezeFrom false rest with
        | nil =>
            rw [hRest] at hLast
            have hEq : first = line := by simpa using hLast
            rwa [← hEq]
        | cons next more =>
            rw [hRest, List.getLast?_cons_cons,
              ← hRest] at hLast
            exact ih false hLast

/-
  Squeezed lines with an empty line behind them are left as
  they were without it.
-/
theorem squeezeFrom_squeezeFrom (lines : List (List Char)) :
    squeezeFrom false (squeezeFrom due lines ++ [[]]) =
      squeezeFrom due lines := by
  induction lines generalizing due with
  | nil => rfl
  | cons line rest ih =>
      by_cases hLine : line = []
      · subst hLine
        exact ih true
      · have hRest := ih false
        rw [squeezeFrom_cons due hLine]
        cases due with
        | false =>
            simp [squeezeFrom_cons false hLine, hRest]
        | true =>
            simp [squeezeFrom, squeezeFrom_cons true hLine,
              hRest]

end

theorem filter_dropWhile_isEmpty (lines : List (List Char)) :
    (lines.dropWhile List.isEmpty).filter (· ≠ []) =
      lines.filter (· ≠ []) := by
  induction lines with
  | nil => rfl
  | cons line rest ih =>
      cases line with
      | nil => exact ih
      | cons c more => rfl

/- The lines that are not empty are left. -/
@[simp]
theorem filter_squeeze (lines : List (List Char)) :
    (squeeze lines).filter (· ≠ []) =
      lines.filter (· ≠ []) := by
  rw [squeeze, filter_squeezeFrom, filter_dropWhile_isEmpty]

/- Each of them stays where it is. -/
theorem exists_squeeze_append
    {line : List Char}
    (hLine : line ≠ [])
    (before rest : List (List Char)) :
    ∃ kept,
      squeeze (before ++ line :: rest) =
          kept ++ line :: squeezeFrom false rest ∧
        kept.filter (· ≠ []) = before.filter (· ≠ []) := by
  have hDrop :
      (before ++ line :: rest).dropWhile List.isEmpty =
        before.dropWhile List.isEmpty ++ line :: rest := by
    rw [List.dropWhile_append]
    split
    · next hNone =>
        rw [List.isEmpty_iff.mp hNone, List.nil_append]
        exact List.dropWhile_cons_of_neg (by simpa using hLine)
    · rfl
  rw [squeeze, hDrop, ← filter_dropWhile_isEmpty before]
  exact exists_squeezeFrom_append false hLine _ _

/- The first of them is the first line. -/
theorem head?_squeeze
    {lines : List (List Char)}
    {line : List Char}
    (hHead : (squeeze lines).head? = some line) :
    line ≠ [] := by
  have hFirst := List.head?_dropWhile_not List.isEmpty lines
  rw [squeeze] at hHead
  cases hDrop : lines.dropWhile List.isEmpty with
  | nil =>
      rw [hDrop] at hHead
      cases hHead
  | cons first rest =>
      rw [hDrop] at hHead hFirst
      have hNe : first ≠ [] := by simpa using hFirst
      rw [squeezeFrom_cons false hNe] at hHead
      have hEq : first = line := by simpa using hHead
      rwa [← hEq]

theorem squeeze_squeeze_append (lines : List (List Char)) :
    squeeze (squeeze lines ++ [[]]) = squeeze lines := by
  have hDrop : (squeeze lines ++ [[]]).dropWhile
      List.isEmpty =
        if squeeze lines = [] then []
        else squeeze lines ++ [[]] := by
    cases hLines : squeeze lines with
    | nil => rfl
    | cons first rest =>
        have hNe : first ≠ [] :=
          head?_squeeze (by rw [hLines]; rfl)
        rw [if_neg (List.cons_ne_nil _ _)]
        exact List.dropWhile_cons_of_neg (by simpa using hNe)
  rw [squeeze, hDrop]
  split
  · next hNone => rw [hNone]; rfl
  · exact squeezeFrom_squeezeFrom false _

------------------------------------------------------------
-- Clean Lines
------------------------------------------------------------

def cleanLines (cs : List Char) : List (List Char) :=
  squeeze ((pieces '\n' cs).map trimEnd)

theorem tidyChars_eq_join (cs : List Char) :
    tidyChars cs = join ['\n'] (cleanLines cs) ++ ['\n'] :=
  rfl

theorem exists_full_of_mem_cleanLines
    {cs line : List Char}
    (hMem : line ∈ cleanLines cs)
    (hLine : line ≠ []) :
    ∃ full ∈ fullLines cs, trimEnd full = line := by
  have hKept : line ∈
      ((pieces '\n' cs).map trimEnd).filter (· ≠ []) := by
    rw [← filter_squeeze]
    exact List.mem_filter.mpr ⟨hMem, by simpa using hLine⟩
  rcases List.mem_filter.mp hKept with ⟨hTrimmed, _⟩
  rcases List.mem_map.mp hTrimmed with ⟨full, hFull, rfl⟩
  exact ⟨full, List.mem_filter.mpr
    ⟨hFull, (trimEnd_ne_nil_iff full).mp hLine⟩, rfl⟩

theorem trimEnd_of_mem_cleanLines
    {cs line : List Char}
    (hMem : line ∈ cleanLines cs) :
    trimEnd line = line := by
  by_cases hLine : line = []
  · subst hLine
    rfl
  · rcases exists_full_of_mem_cleanLines hMem hLine with
      ⟨full, hFull, rfl⟩
    exact (trims_trimEnd (List.mem_filter.mp hFull).2).1.trimEnd

theorem isFull_of_mem_cleanLines
    {cs line : List Char}
    (hMem : line ∈ cleanLines cs) :
    isFull line = decide (line ≠ []) := by
  rw [Bool.eq_iff_iff, decide_eq_true_iff,
    ← trimEnd_ne_nil_iff, trimEnd_of_mem_cleanLines hMem]

theorem isFull_of_head?_cleanLines
    {cs line : List Char}
    (hHead : (cleanLines cs).head? = some line) :
    isFull line := by
  rw [isFull_of_mem_cleanLines (List.mem_of_mem_head? hHead),
    decide_eq_true_iff]
  exact head?_squeeze hHead

theorem break_notMem_cleanLines
    {cs line : List Char}
    (hMem : line ∈ cleanLines cs) :
    '\n' ∉ line := by
  intro hBreak
  have hLine : line ≠ [] := List.ne_nil_of_mem hBreak
  rcases exists_full_of_mem_cleanLines hMem hLine with
    ⟨full, hFull, rfl⟩
  rcases trims_trimEnd (List.mem_filter.mp hFull).2 with
    ⟨_, blanks, hEq, _⟩
  apply notMem_of_mem_pieces '\n' cs full
    (List.mem_filter.mp hFull).1
  rw [hEq]
  exact List.mem_append_left _ hBreak

theorem pieces_flatMap_break
    {lines : List (List Char)}
    (hNone : ∀ line ∈ lines, '\n' ∉ line) :
    pieces '\n' (lines.flatMap (· ++ ['\n'])) =
      lines ++ [[]] := by
  induction lines with
  | nil => rfl
  | cons line rest ih =>
      rw [List.forall_mem_cons] at hNone
      rw [List.flatMap_cons, List.append_assoc,
        List.singleton_append, pieces_append hNone.1,
        ih hNone.2, List.cons_append]

theorem tidyChars_eq_flatMap
    {cs : List Char}
    (hSome : cleanLines cs ≠ []) :
    tidyChars cs =
      (cleanLines cs).flatMap (· ++ ['\n']) := by
  rcases List.exists_cons_of_ne_nil hSome with
    ⟨first, more, hLines⟩
  rw [tidyChars_eq_join, hLines, join_append_break]

/- The lines of a clean form end with an empty one. -/
theorem pieces_tidyChars
    {cs : List Char}
    (hSome : cleanLines cs ≠ []) :
    pieces '\n' (tidyChars cs) = cleanLines cs ++ [[]] := by
  rw [tidyChars_eq_flatMap hSome, pieces_flatMap_break]
  exact fun line hMem => break_notMem_cleanLines hMem

/- Being empty once trimmed is being blank. -/
theorem filter_map_trimEnd (lines : List (List Char)) :
    (lines.map trimEnd).filter (· ≠ []) =
      (lines.filter isFull).map trimEnd := by
  rw [List.filter_map]
  congr 1
  refine List.filter_congr fun line _ => ?_
  rw [Bool.eq_iff_iff, Function.comp_apply,
    decide_eq_true_iff, trimEnd_ne_nil_iff]

theorem filter_cleanLines (cs : List Char) :
    (cleanLines cs).filter isFull =
      (fullLines cs).map trimEnd := by
  have hKept : (cleanLines cs).filter isFull =
      (cleanLines cs).filter (· ≠ []) :=
    List.filter_congr fun line hMem =>
      isFull_of_mem_cleanLines hMem
  rw [hKept, cleanLines, filter_squeeze, filter_map_trimEnd,
    fullLines]

theorem cleanLines_eq_nil_iff (cs : List Char) :
    cleanLines cs = [] ↔ fullLines cs = [] := by
  have hFilter := filter_cleanLines cs
  constructor
  · intro hNone
    rw [hNone] at hFilter
    exact List.map_eq_nil_iff.mp hFilter.symm
  · intro hNone
    rw [hNone, List.map_nil] at hFilter
    cases hLines : cleanLines cs with
    | nil => rfl
    | cons first rest =>
        have hKept : first ∈ (cleanLines cs).filter isFull :=
          List.mem_filter.mpr ⟨by simp [hLines],
            isFull_of_head?_cleanLines
              (congrArg List.head? hLines)⟩
        rw [hFilter] at hKept
        cases hKept

------------------------------------------------------------
-- Clean Forms
------------------------------------------------------------

/- The clean form of a blank text is a line break. -/
theorem tidyChars_of_blank
    {cs : List Char}
    (hBlank : fullLines cs = []) :
    tidyChars cs = ['\n'] := by
  have hNone := (cleanLines_eq_nil_iff cs).mpr hBlank
  rw [tidyChars_eq_join, hNone]
  rfl

theorem fullLines_tidyChars (cs : List Char) :
    fullLines (tidyChars cs) = (fullLines cs).map trimEnd := by
  by_cases hBlank : fullLines cs = []
  · rw [tidyChars_of_blank hBlank, hBlank]
    decide
  · have hSome := mt (cleanLines_eq_nil_iff cs).mp hBlank
    rw [fullLines, pieces_tidyChars hSome,
      List.filter_append, filter_cleanLines]
    exact List.append_nil _

/-
  Between two full lines a clean form has one empty line or
  none.
-/
theorem exists_gap_tidyChars
    {cs first second : List Char}
    {before between after : List (List Char)}
    (hLines : pieces '\n' cs =
      before ++ first :: (between ++ second :: after))
    (hFirst : isFull first)
    (hSecond : isFull second)
    (hBetween : ∀ line ∈ between, isFull line = false) :
    ∃ kept rest,
      pieces '\n' (tidyChars cs) =
          kept ++ trimEnd first ::
            ((if between = [] then [] else [[]]) ++
              trimEnd second :: rest) ∧
        (kept.filter isFull).length =
          (before.filter isFull).length := by
  have hFirst' := (trimEnd_ne_nil_iff first).mpr hFirst
  have hSecond' := (trimEnd_ne_nil_iff second).mpr hSecond
  rcases exists_squeeze_append hFirst' (before.map trimEnd)
      (between.map trimEnd ++
        trimEnd second :: after.map trimEnd) with
    ⟨kept, hKept, hFilter⟩
  have hEmpty : ∀ line ∈ between.map trimEnd, line = [] :=
    List.forall_mem_map.mpr fun line hMem =>
      trimEnd_eq_nil (hBetween line hMem)
  rw [squeezeFrom_append false hEmpty,
    squeezeFrom_cons _ hSecond'] at hKept
  have hClean : cleanLines cs =
      kept ++ trimEnd first ::
        ((if between = [] then [] else [[]]) ++
          trimEnd second ::
            squeezeFrom false (after.map trimEnd)) := by
    rw [cleanLines, hLines, List.map_append, List.map_cons,
      List.map_append, List.map_cons, hKept]
    cases between with
    | nil => rfl
    | cons line more => rfl
  refine ⟨kept,
    squeezeFrom false (after.map trimEnd) ++ [[]], ?_, ?_⟩
  · rw [pieces_tidyChars (by simp [hClean]), hClean]
    simp
  · have hFull : kept.filter isFull =
        kept.filter (· ≠ []) := by
      refine List.filter_congr fun line hMem => ?_
      have hIn : line ∈ cleanLines cs := by
        rw [hClean]
        exact List.mem_append_left _ hMem
      exact isFull_of_mem_cleanLines hIn
    rw [hFull, hFilter, filter_map_trimEnd, List.length_map]

/- A clean form ends with its last full line. -/
theorem exists_body_tidyChars
    {cs : List Char}
    (hSome : cleanLines cs ≠ []) :
    ∃ body, tidyChars cs = body ++ ['\n'] ∧
      EndsFirm body := by
  rcases List.eq_nil_or_concat' (cleanLines cs) with
    hNone | ⟨init, last, hLines⟩
  · exact absurd hNone hSome
  · have hLast : last ≠ [] := by
      apply getLast?_squeezeFrom false
      exact (congrArg List.getLast? hLines).trans
        List.getLast?_concat
    have hMem : last ∈ cleanLines cs := by simp [hLines]
    rcases exists_full_of_mem_cleanLines hMem hLast with
      ⟨full, hFull, rfl⟩
    refine ⟨init.flatMap (· ++ ['\n']) ++ trimEnd full, ?_,
      ?_⟩
    · rw [tidyChars_eq_flatMap hSome, hLines]
      simp
    · exact (trims_trimEnd (List.mem_filter.mp hFull).2).1
        |>.append_left _

theorem cleanLines_tidyChars (cs : List Char) :
    cleanLines (tidyChars cs) = cleanLines cs := by
  by_cases hSome : cleanLines cs = []
  · rw [tidyChars_eq_join, hSome]
    decide
  · have hTrimmed :
        (cleanLines cs ++ [[]]).map trimEnd =
          cleanLines cs ++ [[]] := by
      refine (List.map_congr_left ?_).trans (List.map_id _)
      intro line hMem
      rcases List.mem_append.mp hMem with hClean | hLast
      · exact trimEnd_of_mem_cleanLines hClean
      · rcases List.mem_singleton.mp hLast with rfl
        rfl
    rw [cleanLines, pieces_tidyChars hSome, hTrimmed]
    exact squeeze_squeeze_append _

theorem isCleanForm_tidyChars (cs : List Char) :
    IsCleanForm cs (tidyChars cs) where
  lines := by
    rw [fullLines_tidyChars, List.forall₂_map_right_iff,
      List.forall₂_same]
    intro line hMem
    exact trims_trimEnd (List.mem_filter.mp hMem).2
  gaps before first between second after hLines hFirst
      hSecond hBetween := by
    rcases exists_gap_tidyChars hLines hFirst hSecond
      hBetween with ⟨kept, rest, hClean, hCount⟩
    exact ⟨kept, _, _, rest, hClean, hCount,
      trims_trimEnd hFirst, trims_trimEnd hSecond⟩
  opening hSome := by
    have hLines := mt (cleanLines_eq_nil_iff cs).mp hSome
    rcases List.exists_cons_of_ne_nil hLines with
      ⟨first, rest, hFirst⟩
    refine ⟨first, rest ++ [[]], ?_,
      isFull_of_head?_cleanLines
        (congrArg List.head? hFirst)⟩
    rw [pieces_tidyChars hLines, hFirst, List.cons_append]
  ending hSome :=
    exists_body_tidyChars
      (mt (cleanLines_eq_nil_iff cs).mp hSome)
  blank := tidyChars_of_blank

/-
  Tidying a text gives its clean form, and a second time it
  changes nothing.
-/
theorem tidy_isCleanForm (text : String) :
    IsCleanForm text.toList (tidy text).toList ∧
      tidy (tidy text) = tidy text := by
  rw [tidy, tidy, String.toList_ofList]
  refine ⟨isCleanForm_tidyChars _, ?_⟩
  rw [tidyChars_eq_join (tidyChars text.toList),
    cleanLines_tidyChars, ← tidyChars_eq_join]

end Text

end PocketDart
