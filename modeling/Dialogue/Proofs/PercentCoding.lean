import Dialogue.Text.Percent

namespace Dialogue.Percent

variable {escape : Char → Bool} {c : Char} {cs ds : List Char}

theorem digit?_digit : ∀ n < 16, digit? (digit n) = some n := by decide

theorem isAlphanum_digit : ∀ n < 16, (digit n).isAlphanum = true := by decide

theorem decodeBytes_escapedByte (b : UInt8) (rest : List Char) :
    decodeBytes (escapedByte b ++ rest) = b :: decodeBytes rest := by
  have hlt : b.toNat < 256 := b.toNat_lt
  have hhigh := digit?_digit (b.toNat / 16) (by omega)
  have hlow := digit?_digit (b.toNat % 16) (by omega)
  simp only [escapedByte, List.cons_append, List.nil_append, decodeBytes, hhigh, hlow]
  rw [Nat.div_add_mod, UInt8.ofNat_toNat]

theorem decodeBytes_flatMap_escapedByte (bytes : List UInt8) (rest : List Char) :
    decodeBytes (bytes.flatMap escapedByte ++ rest) = bytes ++ decodeBytes rest := by
  induction bytes with
  | nil => rfl
  | cons b bytes ih =>
    rw [List.flatMap_cons, List.append_assoc, decodeBytes_escapedByte, ih, List.cons_append]

/-- A character that is no percent sign stands for itself. -/
theorem decodeBytes_cons (h : c ≠ '%') (rest : List Char) :
    decodeBytes (c :: rest) = String.utf8EncodeChar c ++ decodeBytes rest := by
  match rest with
  | [] => simp [decodeBytes]
  | [d] => simp [decodeBytes]
  | a :: b :: rest =>
    rw [decodeBytes]
    exact fun _ _ hc => absurd hc h

theorem decodeBytes_encode (hpercent : escape '%' = true) (cs : List Char) :
    decodeBytes (encode escape cs) = cs.flatMap String.utf8EncodeChar := by
  induction cs with
  | nil => rfl
  | cons c cs ih =>
    simp only [encode, List.flatMap_cons] at ih ⊢
    rw [encodeChar]
    split
    · rw [decodeBytes_flatMap_escapedByte, ih]
    · rename_i hplain
      have hc : c ≠ '%' := by
        rintro rfl
        exact hplain hpercent
      rw [List.singleton_append, decodeBytes_cons hc, ih]

theorem fromUTF8?_utf8EncodeChar (cs : List Char) :
    String.fromUTF8? ⟨(cs.flatMap String.utf8EncodeChar).toArray⟩ = some (String.ofList cs) := by
  have hbytes : (⟨(cs.flatMap String.utf8EncodeChar).toArray⟩ : ByteArray) = cs.utf8Encode :=
    ByteArray.ext List.data_toByteArray.symm
  have hvalid : cs.utf8Encode.IsValidUTF8 := ⟨cs, rfl⟩
  rw [hbytes, String.fromUTF8?, dif_pos hvalid]
  rfl

theorem encode_of_plain (h : ∀ c ∈ cs, escape c = false) : encode escape cs = cs := by
  induction cs with
  | nil => rfl
  | cons c cs ih =>
    rw [List.forall_mem_cons] at h
    rw [encode, List.flatMap_cons, encodeChar, h.1, ← encode, ih h.2]
    rfl

theorem decode?_encode (hpercent : escape '%' = true) (cs : List Char) :
    decode? (encode escape cs) = some (String.ofList cs) := by
  rw [decode?, decodeBytes_encode hpercent, fromUTF8?_utf8EncodeChar]

theorem eq_of_decode?_encode (hpercent : escape '%' = true)
    (h : decode? (encode escape cs) = some (String.ofList ds)) : cs = ds := by
  rw [decode?_encode hpercent] at h
  exact String.ofList_injective (Option.some.inj h)

theorem encode_injective (hpercent : escape '%' = true)
    (h : encode escape cs = encode escape ds) : cs = ds := by
  apply eq_of_decode?_encode hpercent
  rw [h, decode?_encode hpercent]

theorem mem_encode (h : c ∈ encode escape cs) :
    escape c = false ∨ c = '%' ∨ c.isAlphanum = true := by
  obtain ⟨d, -, hd⟩ := List.mem_flatMap.1 h
  unfold encodeChar at hd
  split at hd
  · obtain ⟨b, -, hb⟩ := List.mem_flatMap.1 hd
    have hlt : b.toNat < 256 := b.toNat_lt
    simp only [escapedByte, List.mem_cons, List.not_mem_nil, or_false] at hb
    obtain rfl | rfl | rfl := hb
    · exact .inr (.inl rfl)
    · exact .inr (.inr (isAlphanum_digit _ (by omega)))
    · exact .inr (.inr (isAlphanum_digit _ (by omega)))
  · rename_i hplain
    rw [List.mem_singleton] at hd
    rw [hd]
    exact .inl (by simpa using hplain)

end Dialogue.Percent
