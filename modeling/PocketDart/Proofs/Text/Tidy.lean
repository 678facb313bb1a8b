import PocketDart.Proofs.Text.Delimited
import PocketDart.Text.Tidy

/-
  This file proves which texts the clean form keeps as they
  are, whatever comes after them. A line that does not end
  in a blank is kept, and so is an empty line between two
  such lines.

  Key definitions include:
    * `Text.EndsFirm`
    * `Text.Steady`
    * `Text.tidied`
    * `Text.Kept`

  Key theorems include:
    * `Text.tidied_line`
    * `Text.Steady.exists_tidied_append`
    * `Text.Steady.kept`
    * `Text.Steady.kept_break`
    * `Text.tidyChars_of_kept`
-/

------------------------------------------------------------
-- Firm Ends
------------------------------------------------------------

namespace PocketDart

namespace Text

/- A text that ends in a character that is not blank. -/
def EndsFirm (cs : List Char) : Prop :=
  ∃ c, cs.getLast? = some c ∧ isBlank c = false

instance (cs : List Char) : Decidable (EndsFirm cs) :=
  match h : cs.getLast? with
  | none => isFalse (by simp [EndsFirm, h])
  | some c =>
      decidable_of_iff (isBlank c = false)
        (by simp [EndsFirm, h])

namespace EndsFirm

variable {cs ds : List Char}

theorem ne_nil (hFirm : EndsFirm cs) : cs ≠ [] := by
  rcases hFirm with ⟨c, hLast, _⟩
  rintro rfl
  cases hLast

/- The end of two texts is that of the later one. -/
theorem append_left
    (hFirm : EndsFirm ds)
    (cs : List Char) :
    EndsFirm (cs ++ ds) := by
  rcases hFirm with ⟨c, hLast, hBlank⟩
  refine ⟨c, ?_, hBlank⟩
  rw [List.getLast?_append, hLast]
  rfl

theorem of_line
    {line : List Char}
    (hFirm : EndsFirm (line ++ '\n' :: cs)) :
    EndsFirm cs := by
  rcases hFirm with ⟨c, hLast, hBlank⟩
  cases cs with
  | nil =>
      have hBreak : c = '\n' := by simpa using hLast.symm
      subst hBreak
      exact absurd hBlank (by decide)
  | cons d more =>
      refine ⟨c, ?_, hBlank⟩
      simpa [List.getLast?_append,
        List.getLast?_cons_cons] using hLast

theorem trimEnd (hFirm : EndsFirm cs) : trimEnd cs = cs := by
  rcases hFirm with ⟨c, hLast, hBlank⟩
  have hSplit := List.dropLast_append_getLast? c hLast
  rw [← hSplit, Text.trimEnd]
  induction cs.dropLast with
  | nil => simp [trimEndOf, hBlank]
  | cons d rest ih =>
      rw [List.cons_append, trimEndOf, ih]
      cases rest with
      | nil => rfl
      | cons e more => rfl

end EndsFirm

------------------------------------------------------------
-- Steady Texts
------------------------------------------------------------

/- A text with a firm end before each of its line breaks. -/
def Steady (cs : List Char) : Prop :=
  ∀ before after, cs = before ++ '\n' :: after →
    EndsFirm before

/- A text without line breaks is steady. -/
theorem steady_of_notMem
    {cs : List Char}
    (hNone : '\n' ∉ cs) :
    Steady cs := by
  rintro before after rfl
  exact absurd (by simp) hNone

namespace Steady

variable {cs ds : List Char}

theorem append
    (hFirst : Steady cs)
    (hLater : Steady ds) :
    Steady (cs ++ ds) := by
  intro before after hSplit
  rcases List.append_eq_append_iff.mp hSplit with
    ⟨middle, rfl, hMiddle⟩ | ⟨middle, hMiddle, hAfter⟩
  · exact (hLater middle after hMiddle).append_left cs
  · cases middle with
    | nil =>
        -- The break is the first character of the later text.
        have hBreak : ds = [] ++ '\n' :: after := by
          simpa using hAfter.symm
        exact absurd rfl (hLater [] after hBreak).ne_nil
    | cons c middle =>
        rcases List.cons.inj hAfter with ⟨rfl, _⟩
        exact hFirst before middle hMiddle

theorem append_break
    (hSteady : Steady cs)
    (hFirm : EndsFirm cs) :
    Steady (cs ++ ['\n']) := by
  intro before after hSplit
  rcases List.append_eq_append_iff.mp hSplit with
    ⟨middle, rfl, hMiddle⟩ | ⟨middle, hMiddle, hAfter⟩
  · cases middle with
    | nil => rwa [List.append_nil]
    | cons c middle => simp at hMiddle
  · cases middle with
    | nil =>
        rw [List.append_nil] at hMiddle
        rwa [← hMiddle]
    | cons c middle =>
        rcases List.cons.inj hAfter with ⟨rfl, _⟩
        exact hSteady before middle hMiddle

theorem of_line
    {line rest : List Char}
    (hSteady : Steady (line ++ '\n' :: rest)) :
    Steady rest := by
  intro before after hSplit
  have hFirm := hSteady (line ++ '\n' :: before) after
    (by rw [hSplit, List.append_assoc, List.cons_append])
  -- Else two line breaks would follow each other.
  exact hFirm.of_line

end Steady

------------------------------------------------------------
-- Clean Lines
------------------------------------------------------------

/-
  The clean form of what stands inside a text. The flag says
  that an empty line is due before the next line.
-/
def tidied
    (due : Bool)
    (cs : List Char) : List Char :=
  (squeezeFrom due ((pieces '\n' cs).map trimEnd)).flatMap
    (· ++ ['\n'])

/- An empty line is put off until the next line. -/
theorem tidied_break
    (due : Bool)
    (rest : List Char) :
    tidied due ('\n' :: rest) = tidied true rest := by
  have hNone : '\n' ∉ ([] : List Char) := by simp
  have hPieces : pieces '\n' ('\n' :: rest) =
      [] :: pieces '\n' rest :=
    pieces_append hNone rest
  rw [tidied, hPieces]
  rfl

theorem tidied_trimmed
    {line kept : List Char}
    (hNone : '\n' ∉ line)
    (hKept : trimEnd line = kept)
    (hSome : kept ≠ [])
    (due : Bool)
    (rest : List Char) :
    tidied due (line ++ '\n' :: rest) =
      (if due then ['\n'] else []) ++
        (kept ++ '\n' :: tidied false rest) := by
  rw [tidied, pieces_append hNone, List.map_cons, hKept]
  cases kept with
  | nil => exact absurd rfl hSome
  | cons c more =>
      cases due with
      | false => simp [squeezeFrom, tidied]
      | true => simp [squeezeFrom, tidied]

theorem tidied_line
    {line : List Char}
    (hNone : '\n' ∉ line)
    (hFirm : EndsFirm line)
    (due : Bool)
    (rest : List Char) :
    tidied due (line ++ '\n' :: rest) =
      (if due then ['\n'] else []) ++
        (line ++ '\n' :: tidied false rest) :=
  tidied_trimmed hNone hFirm.trimEnd hFirm.ne_nil due rest

------------------------------------------------------------
-- Tidied Texts
------------------------------------------------------------

theorem EndsFirm.exists_trimEnd
    {cs : List Char}
    (hFirm : EndsFirm cs)
    (ds : List Char) :
    ∃ kept, Text.trimEnd (cs ++ ds) = cs ++ kept := by
  rcases hFirm with ⟨c, hLast, hBlank⟩
  refine ⟨Text.trimEnd ds, ?_⟩
  have hSplit := List.dropLast_append_getLast? c hLast
  rw [← hSplit, Text.trimEnd, Text.trimEnd]
  induction cs.dropLast with
  | nil =>
      rw [List.nil_append, List.singleton_append, trimEndOf]
      cases trimEndOf isBlank ds with
      | nil => simp [hBlank]
      | cons d kept => rfl
  | cons d init ih =>
      rw [List.cons_append, List.cons_append, trimEndOf, ih]
      cases init with
      | nil => rfl
      | cons e more => rfl

theorem exists_tidied_line
    {line : List Char}
    (hNone : '\n' ∉ line)
    (due : Bool)
    (rest : List Char) :
    ∃ kept later, tidied due (line ++ '\n' :: rest) =
      kept ++ tidied later rest := by
  by_cases hEmpty : trimEnd line = []
  · refine ⟨[], true, ?_⟩
    rw [tidied, pieces_append hNone, List.map_cons, hEmpty]
    rfl
  · refine ⟨(if due then ['\n'] else []) ++
      (trimEnd line ++ ['\n']), false, ?_⟩
    rw [tidied_trimmed hNone rfl hEmpty]
    simp

/-
  A line with a firm end is kept, whatever comes before it:
  what follows it is tidied by itself.
-/
theorem exists_tidied_append
    {line : List Char}
    (hNone : '\n' ∉ line)
    (hFirm : EndsFirm line)
    (due : Bool)
    (cs rest : List Char) :
    ∃ front, tidied due (cs ++ (line ++ '\n' :: rest)) =
      front ++ (line ++ '\n' :: tidied false rest) := by
  induction hLength : cs.length using Nat.strongRecOn
    generalizing cs due with
  | ind length ih =>
      by_cases hBreak : '\n' ∈ cs
      · rcases List.eq_append_cons_of_mem hBreak with
          ⟨first, more, rfl, hFirst⟩
        rw [List.append_assoc, List.cons_append]
        rcases exists_tidied_line hFirst due
            (more ++ (line ++ '\n' :: rest)) with
          ⟨kept, later, hTidied⟩
        have hShorter : more.length < length := by
          rw [← hLength, List.length_append,
            List.length_cons]
          omega
        rcases ih _ hShorter later more rfl with
          ⟨front, hFront⟩
        rw [hTidied, hFront, ← List.append_assoc]
        exact ⟨_, rfl⟩
      · have hWhole : '\n' ∉ cs ++ line := by
          rw [List.mem_append, not_or]
          exact ⟨hBreak, hNone⟩
        rw [← List.append_assoc, tidied_line hWhole
          (hFirm.append_left cs), List.append_assoc,
          ← List.append_assoc]
        exact ⟨_, rfl⟩

/-
  So is a steady beginning with a firm end, as far as it
  goes, in front of such a line.
-/
theorem Steady.exists_tidied_append
    {start line : List Char}
    (hSteady : Steady start)
    (hStart : EndsFirm start)
    (hNone : '\n' ∉ line)
    (hFirm : EndsFirm line)
    (due : Bool)
    (cs rest : List Char) :
    ∃ front,
      tidied due (start ++ (cs ++ (line ++ '\n' :: rest))) =
        (if due then ['\n'] else []) ++ (start ++
          (front ++ (line ++ '\n' :: tidied false rest))) := by
  induction hLength : start.length using Nat.strongRecOn
    generalizing start due with
  | ind length ih =>
      by_cases hBreak : '\n' ∈ start
      · rcases List.eq_append_cons_of_mem hBreak with
          ⟨first, more, rfl, hFirst⟩
        have hShorter : more.length < length := by
          rw [← hLength, List.length_append,
            List.length_cons]
          omega
        rcases ih _ hShorter hSteady.of_line
            (hStart.of_line) false rfl with
          ⟨front, hFront⟩
        refine ⟨front, ?_⟩
        rw [List.append_assoc, List.cons_append,
          tidied_line hFirst (hSteady first more rfl), hFront]
        simp
      · by_cases hLater : '\n' ∈ cs
        · -- The beginning ends in the first of these lines.
          rcases List.eq_append_cons_of_mem hLater with
            ⟨first, more, rfl, hFirst⟩
          rcases hStart.exists_trimEnd first with
            ⟨kept, hKept⟩
          have hWhole : '\n' ∉ start ++ first := by
            rw [List.mem_append, not_or]
            exact ⟨hBreak, hFirst⟩
          have hSome : start ++ kept ≠ [] :=
            List.append_ne_nil_of_left_ne_nil hStart.ne_nil _
          rcases Text.exists_tidied_append hNone hFirm false
              more rest with
            ⟨front, hFront⟩
          refine ⟨kept ++ '\n' :: front, ?_⟩
          rw [List.append_assoc first, List.cons_append,
            ← List.append_assoc start,
            tidied_trimmed hWhole hKept hSome, hFront]
          simp
        · have hWhole : '\n' ∉ start ++ (cs ++ line) := by
            simp only [List.mem_append, not_or]
            exact ⟨hBreak, hLater, hNone⟩
          have hEnd : EndsFirm (start ++ (cs ++ line)) :=
            (hFirm.append_left cs).append_left start
          refine ⟨cs, ?_⟩
          have hTidied := tidied_line hWhole hEnd due rest
          simpa using hTidied

------------------------------------------------------------
-- Kept Texts
------------------------------------------------------------

/- A text that the clean form keeps in front of any other. -/
def Kept (cs : List Char) : Prop :=
  ∀ rest, tidied false (cs ++ rest) = cs ++ tidied false rest

/- Lines, each of them ended by a line break. -/
def IsWhole (cs : List Char) : Prop :=
  cs = [] ∨ cs.getLast? = some '\n'

@[simp]
theorem kept_nil : Kept [] :=
  fun _ => rfl

theorem Kept.append
    {cs ds : List Char}
    (hFirst : Kept cs)
    (hLater : Kept ds) :
    Kept (cs ++ ds) := by
  intro rest
  rw [List.append_assoc, hFirst, hLater, List.append_assoc]

theorem Steady.exists_line
    {cs : List Char}
    (hSteady : Steady cs)
    (hLast : cs.getLast? = some '\n') :
    ∃ line rest, cs = line ++ '\n' :: rest ∧
      '\n' ∉ line ∧ EndsFirm line ∧
      Steady rest ∧ IsWhole rest := by
  rcases List.eq_append_cons_of_mem
      (List.mem_of_getLast? hLast) with
    ⟨line, rest, rfl, hNone⟩
  refine ⟨line, rest, rfl, hNone, hSteady line rest rfl,
    hSteady.of_line, ?_⟩
  cases rest with
  | nil => exact Or.inl rfl
  | cons c more =>
      right
      simpa [List.getLast?_append,
        List.getLast?_cons_cons] using hLast

theorem Steady.kept
    {cs : List Char}
    (hSteady : Steady cs)
    (hWhole : IsWhole cs) :
    Kept cs := by
  induction hLength : cs.length using Nat.strongRecOn
    generalizing cs with
  | ind length ih =>
      rcases hWhole with rfl | hLast
      · exact kept_nil
      · rcases hSteady.exists_line hLast with
          ⟨line, rest, rfl, hNone, hFirm, hRest, hWhole⟩
        have hShorter : rest.length < length := by
          rw [← hLength, List.length_append,
            List.length_cons]
          omega
        have hKept := ih _ hShorter hRest hWhole rfl
        intro more
        rw [List.append_assoc, List.cons_append,
          tidied_line hNone hFirm, hKept]
        simp

theorem Steady.kept_break
    {cs : List Char}
    (hSteady : Steady cs)
    (hLast : cs.getLast? = some '\n') :
    Kept ('\n' :: cs) := by
  rcases hSteady.exists_line hLast with
    ⟨line, rest, rfl, hNone, hFirm, hRest, hWhole⟩
  have hKept : Kept rest := hRest.kept hWhole
  intro more
  rw [List.cons_append, tidied_break, List.append_assoc,
    List.cons_append, tidied_line hNone hFirm, hKept]
  simp

theorem join_append_break
    (first : List Char)
    (more : List (List Char)) :
    join ['\n'] (first :: more) ++ ['\n'] =
      (first :: more).flatMap (· ++ ['\n']) := by
  induction more generalizing first with
  | nil => simp [join]
  | cons next more ih =>
      rw [join, List.append_assoc, ih]
      · simp
      · simp

/-
  The clean form of a text that begins with firm lines: what
  is kept at its beginning stays at its beginning.
-/
theorem tidyChars_of_kept
    {first more : List Char}
    (hSteady : Steady first)
    (hLast : first.getLast? = some '\n')
    (hKept : Kept (first ++ more))
    (rest : List Char) :
    tidyChars (first ++ more ++ rest) =
      first ++ more ++ tidied false rest := by
  rcases hSteady.exists_line hLast with
    ⟨line, after, rfl, hNone, hFirm, _, _⟩
  have hTidied : tidyChars (line ++ '\n' :: after ++ more ++
        rest) =
      tidied false (line ++ '\n' :: after ++ more ++
        rest) := by
    simp only [List.append_assoc, List.cons_append]
    rw [tidyChars, tidied, pieces_append hNone]
    cases hLine : line with
    | nil => exact absurd hLine hFirm.ne_nil
    | cons c more =>
        rw [hLine] at hFirm
        simp only [List.map_cons, hFirm.trimEnd, squeeze]
        exact join_append_break _ _
  rw [hTidied, hKept]

end Text

end PocketDart
