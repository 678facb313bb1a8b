import PocketDart.Text.Encoding

/-
  This file proves that a text of ASCII without zeros comes
  back from its bytes, in the encoding that they seem to be
  in, as it was.

  Key definitions include:
    * `Text.IsAscii`
    * `Text.IsPlainAscii`

  Key theorems include:
    * `Utf8.encode_ascii`
    * `Utf8.decode_encode_ascii`
    * `Encoding.reread_ascii`
-/

------------------------------------------------------------
-- Bytes
------------------------------------------------------------

namespace PocketDart

def Text.IsAscii (cs : List Char) : Prop :=
  ∀ c ∈ cs, c.toNat < 0x80

instance (cs : List Char) : Decidable (Text.IsAscii cs) :=
  decidable_of_iff (cs.all (·.toNat < 0x80))
    (by simp [Text.IsAscii])

/- Characters of ASCII other than the one that is zero. -/
def Text.IsPlainAscii (cs : List Char) : Prop :=
  ∀ c ∈ cs, c.toNat ≠ 0 ∧ c.toNat < 0x80

namespace Utf8

variable {cs : List Char}

theorem toList_loop
    (bytes : ByteArray)
    (left start : Nat)
    (seen : List UInt8)
    (hLeft : bytes.size = start + left) :
    ByteArray.toList.loop bytes start seen =
      seen.reverse ++ bytes.data.toList.drop start := by
  induction left generalizing start seen with
  | zero =>
      rw [ByteArray.toList.loop, if_neg (by omega),
        List.drop_of_length_le, List.append_nil]
      exact Nat.le_of_eq hLeft
  | succ left ih =>
      have hStart : start < bytes.size := by
        omega
      have hList : start < bytes.data.toList.length := hStart
      have hByte : bytes.get! start =
          bytes.data.toList[start] :=
        getElem!_pos bytes.data start hStart
      rw [ByteArray.toList.loop, if_pos hStart,
        ih (start + 1) _ (by omega), hByte,
        List.drop_eq_getElem_cons hList,
        List.reverse_cons, List.append_assoc]
      rfl

theorem encode_ofList (cs : List Char) :
    encode (String.ofList cs) =
      cs.flatMap String.utf8EncodeChar := by
  change ByteArray.toList.loop
    (cs.flatMap String.utf8EncodeChar).toByteArray 0 [] = _
  rw [toList_loop _ _ 0 [] (Nat.zero_add _).symm,
    List.toList_data_toByteArray]
  rfl

theorem encode_ascii
    (hAscii : Text.IsAscii cs) :
    encode (String.ofList cs) = cs.map Char.toUInt8 := by
  rw [encode_ofList]
  induction cs with
  | nil => rfl
  | cons c rest ih =>
      rcases List.forall_mem_cons.mp hAscii with
        ⟨hFirst, hRest⟩
      have hSize : c.utf8Size = 1 := by
        rw [Char.utf8Size_eq_one_iff, UInt32.le_iff_toNat_le]
        exact Nat.le_of_lt_succ hFirst
      rw [List.flatMap_cons, List.map_cons, ih hRest,
        String.utf8EncodeChar_eq_singleton hSize]
      rfl

theorem toNat_toUInt8
    {c : Char}
    (hAscii : c.toNat < 0x80) :
    c.toUInt8.toNat = c.toNat := by
  change c.toNat % 256 = c.toNat
  exact Nat.mod_eq_of_lt (by omega)

theorem decodeFrom_ascii
    (hAscii : Text.IsAscii cs)
    (position : Nat)
    (seen : List Char) :
    decodeFrom position 0 seen (cs.map Char.toUInt8) =
      .ok (seen.reverse ++ cs) := by
  induction cs generalizing position seen with
  | nil =>
      rw [List.map_nil, decodeFrom, List.append_nil]
  | cons c rest ih =>
      rcases List.forall_mem_cons.mp hAscii with
        ⟨hFirst, hRest⟩
      have hLead : lead? c.toUInt8 =
          some ⟨0, c.toNat, 0, 0⟩ := by
        rw [lead?, toNat_toUInt8 hFirst]
        exact if_pos hFirst
      have hFollowing : readFollowing 0 c.toNat 0 0 1
          (rest.map Char.toUInt8) = .ok c.toNat := by
        cases rest with
        | nil => rfl
        | cons next rest => rfl
      rw [List.map_cons, decodeFrom, hLead]
      dsimp only
      rw [hFollowing]
      dsimp only
      rw [ih hRest, Char.ofNat_toNat,
        List.reverse_cons, List.append_assoc]
      rfl

/- A text of ASCII is what its bytes are read as. -/
theorem decode_encode_ascii
    (hAscii : Text.IsAscii cs) :
    decode (encode (String.ofList cs)) =
      .ok (String.ofList cs) := by
  rw [encode_ascii hAscii, decode,
    decodeFrom_ascii hAscii]
  rfl

end Utf8

------------------------------------------------------------
-- Encodings
------------------------------------------------------------

namespace Encoding

variable {cs : List Char}

/- Without zeros among them the bytes seem to be plain. -/
theorem guess?_ascii
    (hAscii : Text.IsPlainAscii cs) :
    guess? (cs.map Char.toUInt8) = some .plain ∨
      guess? (cs.map Char.toUInt8) = none := by
  have hByte : ∀ c ∈ cs, (c.toUInt8 == 0) = false := by
    intro c hMem
    rcases hAscii c hMem with ⟨hZero, hSmall⟩
    rw [beq_eq_false_iff_ne]
    intro hNone
    apply hZero
    rw [← Utf8.toNat_toUInt8 hSmall, hNone]
    rfl
  match cs, hAscii, hByte with
  | [], _, _ => exact Or.inr rfl
  | [_], _, _ => exact Or.inr rfl
  | [_, _], _, _ => exact Or.inr rfl
  | [_, _, _], _, _ => exact Or.inr rfl
  | a :: b :: c :: d :: rest, hAscii, hByte =>
      have hMark : a.toUInt8 ≠ 0xEF := by
        intro hMark
        have hSmall := (hAscii a List.mem_cons_self).2
        rw [← Utf8.toNat_toUInt8 hSmall, hMark] at hSmall
        exact absurd hSmall (by decide)
      simp only [List.forall_mem_cons] at hByte
      rcases hByte with ⟨hA, hB, hC, hD, _⟩
      refine Or.inl ?_
      simp only [List.map_cons, guess?]
      rw [if_neg (by simp [hMark]), hA, hB, hC, hD]

/- A text of ASCII without zeros is read as it is. -/
theorem reread_ascii
    (hAscii : Text.IsPlainAscii cs) :
    reread (String.ofList cs) = String.ofList cs := by
  have hSmall : Text.IsAscii cs :=
    fun c hMem => (hAscii c hMem).2
  have hMark : String.ofList cs ≠ mark := by
    intro hMark
    have hList := congrArg String.toList hMark
    rw [String.toList_ofList] at hList
    have hMem : '\uFEFF' ∈ cs := by
      rw [hList]
      decide
    exact absurd (hSmall _ hMem) (by decide)
  have hBytes := Utf8.encode_ascii hSmall
  rcases guess?_ascii hAscii with hGuess | hGuess
  · have hDecode := Utf8.decode_encode_ascii hSmall
    rw [hBytes] at hDecode
    simp only [reread, hBytes, hGuess, Option.bind_some,
      decode?, hDecode, Except.toOption]
  · simp only [reread, hBytes, hGuess, Option.bind_none,
      if_neg hMark]

end Encoding

end PocketDart
