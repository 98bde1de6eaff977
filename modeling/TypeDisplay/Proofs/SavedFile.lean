import TypeDisplay.Files
import TypeDisplay.Proofs.Outcome
import TypeDisplay.Proofs.WrittenText

/-!
# Files that were written

A file that was written is found under its path and holds what was written.  Nothing on the way
to it has changed, because the way leads through directories and the file is none.  Octets of
printable ASCII and line feeds are read as the characters that were encoded.
-/

namespace TypeDisplay

namespace Utf8

open Yaml.Written (AreShown IsShown areShown_cons)

theorem toNat_lt_of_isShown {c : Char} (h : IsShown c) : c.toNat < 0x80 := by
  simp only [IsShown, Yaml.Written.needsEscape, Bool.and_eq_false_iff, Bool.not_eq_false',
    Bool.and_eq_true, decide_eq_true_eq] at h
  rcases h with isBreak | ⟨-, high⟩
  · obtain rfl : c = '\n' := by simpa using isBreak
    decide
  · omega

theorem toList_loop (bytes : ByteArray) (i : Nat) (done : List UInt8) :
    ByteArray.toList.loop bytes i done = done.reverse ++ bytes.data.toList.drop i := by
  rw [ByteArray.toList.loop]
  split
  case isTrue inside =>
    have first : bytes.data.toList.drop i = bytes.get! i :: bytes.data.toList.drop (i + 1) := by
      rw [List.drop_eq_getElem_cons (by simpa using inside)]
      have isItem : bytes.get! i = bytes.data[i]! := rfl
      rw [isItem, getElem!_pos bytes.data i inside, Array.getElem_toList]
    rw [toList_loop bytes (i + 1), first]
    simp
  case isFalse outside =>
    have ended : bytes.data.toList.length ≤ i := by
      have size : bytes.data.toList.length = bytes.size := by simp
      omega
    rw [List.drop_eq_nil_of_le ended, List.append_nil]
termination_by bytes.size - i

theorem encode_ofList (cs : List Char) :
    encode (String.ofList cs) = cs.flatMap String.utf8EncodeChar := by
  rw [encode, String.toUTF8_eq_toByteArray, String.toByteArray_ofList, ByteArray.toList,
    toList_loop, List.utf8Encode, List.data_toByteArray]
  simp

theorem utf8EncodeChar_of_lt {c : Char} (h : c.toNat < 0x80) :
    String.utf8EncodeChar c = [UInt8.ofNat c.toNat] := by
  have isSingle : c.utf8Size = 1 := by
    rw [Char.utf8Size_eq_one_iff, UInt32.le_iff_toNat_le]
    exact Nat.le_of_lt_succ h
  rw [String.utf8EncodeChar_eq_singleton isSingle]
  rfl

/-- One octet is read at a time, and each one is a character. -/
theorem readFrom_ascii {cs : List Char} (h : ∀ c ∈ cs, c.toNat < 0x80) (position : Nat)
    (done : List Char) :
    readFrom (cs.flatMap String.utf8EncodeChar) position none done = .ok (done.reverse ++ cs) := by
  induction cs generalizing position done with
  | nil => simp [readFrom]
  | cons c cs ih =>
    have isAscii : c.toNat < 0x80 := h c (by simp)
    have sameNumber : (UInt8.ofNat c.toNat).toNat = c.toNat := by
      rw [UInt8.toNat_ofNat', Nat.mod_eq_of_lt (by omega)]
    have isSmall : UInt8.ofNat c.toNat < 0x80 := by
      rw [UInt8.lt_iff_toNat_lt, sameNumber]
      exact isAscii
    rw [List.flatMap_cons, utf8EncodeChar_of_lt isAscii, List.singleton_append, readFrom,
      if_pos isSmall, ih (fun d member ↦ h d (by simp [member])), sameNumber, Char.ofNat_toNat]
    simp

theorem normalizeLines_of_no_return {cs : List Char} (h : '\r' ∉ cs) : normalizeLines cs = cs := by
  induction cs with
  | nil => rfl
  | cons c cs ih =>
    rw [List.mem_cons, not_or] at h
    have isOther : c ≠ '\r' := fun same ↦ h.1 same.symm
    rw [normalizeLines, ih h.2]
    · exact fun _ same _ ↦ isOther same
    · exact isOther

end Utf8

theorem readText_encode {cs : List Char} (h : Yaml.Written.AreShown cs) :
    readText (Utf8.encode (String.ofList cs)) = .ok cs := by
  have noReturn : '\r' ∉ cs := fun member ↦ absurd (h _ member) (by decide)
  rw [readText, Utf8.encode_ofList, Utf8.decode,
    Utf8.readFrom_ascii fun c member ↦ Utf8.toNat_lt_of_isShown (h c member)]
  simp [Except.map, Utf8.normalizeLines_of_no_return noReturn]

namespace Files

variable {fs : Files} {l : Location} {entry : FileEntry}

theorem entry?_put_of_ne {m : Location} (h : m ≠ l) :
    Files.entry? (fs.put l entry) m = fs.entry? m := by
  have other : (m == l) = false := by simpa using h
  simp [put, entry?, List.lookup_cons, other]

theorem entry?_put_self (h : l.names ≠ []) : Files.entry? (fs.put l entry) l = some entry := by
  simp [put, entry?, h]

/-- The way to a place that is no directory does not lead through it. -/
theorem locate_put {names : List FileName} {m : Location} (found : fs.locate names m = .ok l)
    (isOther : fs.entry? l ≠ some .directory) : (fs.put l entry).locate names m = .ok l := by
  induction names generalizing m with
  | nil => exact found
  | cons name names ih =>
    rw [locate] at found
    split at found
    · cases found
    · cases found
    · rename_i isDirectory
      have onTheWay : m ≠ l := by
        rintro rfl
        exact isOther isDirectory
      rw [locate, entry?_put_of_ne onTheWay, isDirectory]
      split at found
      · cases found
      · rename_i isShort
        simp only [if_neg isShort]
        exact ih found

theorem write_eq_ok {p : Path} {octets : List UInt8} {fs' : Files}
    (h : fs.write p octets = .ok fs') :
    ∃ l, fs.find p = .ok l ∧ fs.entry? l ≠ some .directory ∧ fs' = fs.put l (.file octets) := by
  rw [write] at h
  obtain ⟨l, found, h⟩ := except_bind_eq_ok_iff.1 h
  refine ⟨l, found, ?_⟩
  split at h
  · cases h
  · rename_i isOther
    exact ⟨isOther, (Except.ok.inj h).symm⟩

/-- A file that was written holds what was written. -/
theorem read_of_write {p : Path} {octets : List UInt8} {fs' : Files}
    (h : fs.write p octets = .ok fs') : fs'.read p = .ok octets := by
  obtain ⟨l, found, isOther, rfl⟩ := write_eq_ok h
  have isBelow : l.names ≠ [] := by
    intro noNames
    exact isOther (by simp [noNames, entry?])
  rw [find] at found
  obtain ⟨names, areNames, located⟩ := except_bind_eq_ok_iff.1 found
  have again : (fs.put l (.file octets)).find p = .ok l := by
    rw [find]
    exact except_bind_eq_ok_iff.2 ⟨names, areNames, locate_put located isOther⟩
  rw [read]
  refine except_bind_eq_ok_iff.2 ⟨l, again, ?_⟩
  rw [entry?_put_self isBelow]
  rfl

end Files
end TypeDisplay
