import Mathlib.Algebra.GroupWithZero.Nat
import Mathlib.Data.List.Basic
import ConnectionPool.Fingerprint

/-! What tells targets apart. The bytes that stand for a target can be cut into its fields again: no byte
of a character but NUL is zero, so that the first two zero bytes are the separators. Type codes are less
certain, by as much as a digest is that is cut off. -/
namespace ConnectionPool

section Text

theorem listedFrom (bytes : ByteArray) (i : Nat) (r : List UInt8) :
    ByteArray.toList.loop bytes i r = r.reverse ++ bytes.data.toList.drop i := by
  have size : bytes.data.toList.length = bytes.size := rfl
  induction left : bytes.size - i generalizing i r with
  | zero =>
    rw [ByteArray.toList.loop.eq_1, if_neg (by omega), List.drop_eq_nil_of_le (by omega),
      List.append_nil]
  | succ n ih =>
    have within : i < bytes.data.toList.length := by omega
    have byte : bytes.get! i = bytes.data.toList[i] := getElem!_pos bytes.data i within
    rw [ByteArray.toList.loop.eq_1, if_pos (by omega), ih (i + 1) _ (by omega), byte,
      List.drop_eq_getElem_cons within, List.reverse_cons, List.append_assoc, List.singleton_append]

theorem textEncoded (s : String) : (s.toList.flatMap String.utf8EncodeChar).toByteArray = s.toUTF8 :=
  String.utf8Encode_toList

theorem textBytes (s : String) : s.toUTF8.toList = s.toList.flatMap String.utf8EncodeChar := by
  rw [← textEncoded, ByteArray.toList.eq_1, listedFrom, List.data_toByteArray]
  rfl

theorem textInjective {s t : String} (same : s.toUTF8.toList = t.toUTF8.toList) : s = t := by
  rw [textBytes, textBytes] at same
  refine String.toByteArray_inj.mp ?_
  calc s.toUTF8 = (s.toList.flatMap String.utf8EncodeChar).toByteArray := (textEncoded s).symm
    _ = (t.toList.flatMap String.utf8EncodeChar).toByteArray := by rw [same]
    _ = t.toUTF8 := textEncoded t

theorem zeroByte {c : Char} (h : 0 ∈ String.utf8EncodeChar c) : c = '\x00' := by
  have zero {n : Nat} (none : 0 = UInt8.ofNat n) : n % 256 = 0 := by
    simpa using congrArg UInt8.toNat none.symm
  unfold String.utf8EncodeChar at h
  simp only at h
  split at h
  · have nul := zero (List.mem_singleton.mp h)
    rw [Nat.mod_eq_of_lt (by omega)] at nul
    exact Char.ext (UInt32.toNat.inj nul)
  · exfalso
    have marked {n : Nat} (high : n % 256 ≠ 0) : 0 ≠ UInt8.ofNat n := fun none => high (zero none)
    split at h
    · rcases List.mem_pair.mp h with h | h <;> exact marked (by omega) h
    · split at h
      · simp only [List.mem_cons, List.not_mem_nil, or_false] at h
        rcases h with h | h | h <;> exact marked (by omega) h
      · simp only [List.mem_cons, List.not_mem_nil, or_false] at h
        rcases h with h | h | h | h <;> exact marked (by omega) h

theorem noZeroByte {s : String} (plain : '\x00' ∉ s.toList) : 0 ∉ s.toUTF8.toList := by
  rw [textBytes, List.mem_flatMap]
  rintro ⟨c, member, zero⟩
  exact plain (zeroByte zero ▸ member)

end Text

theorem cutOnce {l l' r r' : List UInt8} (none : 0 ∉ l) (none' : 0 ∉ l')
    (same : l ++ 0 :: r = l' ++ 0 :: r') : l = l' ∧ r = r' := by
  induction l generalizing l' with
  | nil =>
    cases l' with
    | nil => exact ⟨rfl, (List.cons.inj same).2⟩
    | cons b l' => exact absurd (List.cons.inj same).1 (List.ne_of_not_mem_cons none')
  | cons a l ih =>
    cases l' with
    | nil => exact absurd (List.cons.inj same).1.symm (List.ne_of_not_mem_cons none)
    | cons b l' =>
      obtain ⟨rfl, rest⟩ := List.cons.inj same
      obtain ⟨rfl, rfl⟩ :=
        ih (List.not_mem_of_not_mem_cons none) (List.not_mem_of_not_mem_cons none') rest
      exact ⟨rfl, rfl⟩

theorem Sha256.Words.leadingNat (s : Sha256.Words) :
    s.leading.toNat = s.a.toNat * 2 ^ 32 + s.b.toNat := by
  have a := s.a.toNat_lt
  have high : s.a.toNat <<< 32 % 2 ^ 64 = s.a.toNat <<< 32 := by
    rw [Nat.shiftLeft_eq]
    exact Nat.mod_eq_of_lt (by omega)
  unfold leading
  rw [UInt64.toNat_or, UInt64.toNat_shiftLeft, UInt32.toNat_toUInt64, UInt32.toNat_toUInt64]
  change s.a.toNat <<< 32 % 2 ^ 64 ||| s.b.toNat = _
  rw [high, ← Nat.shiftLeft_add_eq_or_of_lt s.b.toNat_lt, Nat.shiftLeft_eq]

theorem Sha256.Words.leadingIff (s t : Sha256.Words) :
    s.leading = t.leading ↔ s.a = t.a ∧ s.b = t.b := by
  constructor
  · intro same
    have numbers := congrArg UInt64.toNat same
    have low := s.b.toNat_lt
    have low' := t.b.toNat_lt
    rw [leadingNat, leadingNat] at numbers
    exact ⟨UInt32.toNat.inj (by omega), UInt32.toNat.inj (by omega)⟩
  · rintro ⟨a, b⟩
    rw [leading, leading, a, b]

def SameTarget (url url' : String) (user user' word word' : Option String) : Prop :=
  url = url' ∧ user.getD "" = user'.getD "" ∧ word.getD "" = word'.getD ""

section Targets

variable {url url' : String} {user user' word word' : Option String}

theorem bytesCut (urls : '\x00' ∉ url.toList ∧ '\x00' ∉ url'.toList)
    (users : '\x00' ∉ (user.getD "").toList ∧ '\x00' ∉ (user'.getD "").toList) :
    targetBytes url user word = targetBytes url' user' word' ↔
      SameTarget url url' user user' word word' := by
  constructor
  · intro same
    unfold targetBytes at same
    simp only [List.append_assoc, List.cons_append] at same
    obtain ⟨first, rest⟩ := cutOnce (noZeroByte urls.1) (noZeroByte urls.2) same
    obtain ⟨second, third⟩ := cutOnce (noZeroByte users.1) (noZeroByte users.2) rest
    exact ⟨textInjective first, textInjective second, textInjective third⟩
  · rintro ⟨rfl, users, words⟩
    unfold targetBytes
    rw [users, words]

theorem targetsApart
    (plain : ∀ s ∈ [url, user.getD "", url', user'.getD ""], '\x00' ∉ s.toList) :
    (targetBytes url user word = targetBytes url' user' word' ↔
      url = url' ∧ user.getD "" = user'.getD "" ∧ word.getD "" = word'.getD "") ∧
    (url.length ≠ url'.length ∨ (user.getD "").length ≠ (user'.getD "").length ∨
        (word.getD "").length ≠ (word'.getD "").length →
      targetBytes url user word ≠ targetBytes url' user' word') ∧
    (¬SameTarget url url' user user' word word' → typeCode url user word = typeCode url' user' word' →
      targetBytes url user word ≠ targetBytes url' user' word' ∧
      (Sha256.digest (targetBytes url user word)).a = (Sha256.digest (targetBytes url' user' word')).a ∧
      (Sha256.digest (targetBytes url user word)).b =
        (Sha256.digest (targetBytes url' user' word')).b) := by
  have cut : targetBytes url user word = targetBytes url' user' word' ↔
      SameTarget url url' user user' word word' := by
    simp only [List.forall_mem_cons] at plain
    obtain ⟨first, second, first', second', _⟩ := plain
    exact bytesCut ⟨first, first'⟩ ⟨second, second'⟩
  refine ⟨cut, fun lengths same => ?_, fun different code => ?_⟩
  · obtain ⟨urls, users, words⟩ := cut.mp same
    rw [urls, users, words] at lengths
    simp at lengths
  · exact ⟨fun same => different (cut.mp same), (Sha256.Words.leadingIff _ _).mp code⟩

theorem targetsApartMoved :
    targetBytes "mock://db" (some "ab") (some "c") ≠ targetBytes "mock://db" (some "a") (some "bc") ∧
      targetBytes "mock://db" none (some "") = targetBytes "mock://db" (some "") none := by
  constructor
  · exact (targetsApart (by decide +kernel)).2.1 (.inr (.inl (by decide)))
  · exact (targetsApart (by decide +kernel)).1.mpr ⟨rfl, rfl, rfl⟩

end Targets
end ConnectionPool
