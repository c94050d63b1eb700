/-!
# Bytes of a text

In UTF-8 the byte of a line feed is no part of any other character, so that lines can be told apart
in the bytes of a text as well as in its characters (`splitOn_bytes_lines`).
-/

namespace Ingest
namespace Text

/-- The bytes of a text in UTF-8. -/
def bytes (s : String) : List UInt8 :=
  s.toUTF8.data.toList

/-- The byte of a line feed. -/
def lineFeed : UInt8 :=
  10

theorem bytes_eq_flatMap (s : String) : bytes s = s.toList.flatMap String.utf8EncodeChar := by
  rw [bytes, String.toUTF8_eq_toByteArray, ← String.utf8Encode_toList, List.utf8Encode,
    List.toList_data_toByteArray]

theorem bytes_append (s t : String) : bytes (s ++ t) = bytes s ++ bytes t := by
  simp only [bytes_eq_flatMap, String.toList_append, List.flatMap_append]

/-- In a sequence of several bytes each has its first bit set. -/
theorem le_of_mem_utf8EncodeChar {c : Char} {b : UInt8} (hc : 128 ≤ c.val.toNat)
    (h : b ∈ String.utf8EncodeChar c) : 128 ≤ b.toNat := by
  have hbyte : ∀ n, 128 ≤ n → n < 256 → 128 ≤ (UInt8.ofNat n).toNat := by
    intro n hlow hhigh
    rwa [UInt8.toNat_ofNat', Nat.mod_eq_of_lt hhigh]
  unfold String.utf8EncodeChar at h
  simp only at h
  split at h
  · omega
  · split at h
    · simp only [List.mem_cons, List.not_mem_nil, or_false] at h
      rcases h with rfl | rfl
      all_goals exact hbyte _ (by omega) (by omega)
    · split at h
      · simp only [List.mem_cons, List.not_mem_nil, or_false] at h
        rcases h with rfl | rfl | rfl
        all_goals exact hbyte _ (by omega) (by omega)
      · simp only [List.mem_cons, List.not_mem_nil, or_false] at h
        rcases h with rfl | rfl | rfl | rfl
        all_goals exact hbyte _ (by omega) (by omega)

theorem lineFeed_mem_utf8EncodeChar_iff {c : Char} :
    lineFeed ∈ String.utf8EncodeChar c ↔ c = '\n' := by
  have hten : lineFeed.toNat = 10 := rfl
  constructor
  · intro h
    rcases Nat.lt_or_ge c.val.toNat 128 with hc | hc
    · have hone : String.utf8EncodeChar c = [UInt8.ofNat c.val.toNat] :=
        if_pos (Nat.le_of_lt_succ hc)
      rw [hone, List.mem_singleton] at h
      have hvalue : lineFeed.toNat = c.val.toNat % 256 :=
        (congrArg UInt8.toNat h).trans UInt8.toNat_ofNat'
      have hnewline : '\n'.val.toNat = 10 := rfl
      exact Char.ext (UInt32.toNat_inj.1 (by omega))
    · have hlarge := le_of_mem_utf8EncodeChar hc h
      omega
  · rintro rfl
    exact List.mem_singleton_self _

theorem lineFeed_mem_bytes_iff {s : String} : lineFeed ∈ bytes s ↔ '\n' ∈ s.toList := by
  simp only [bytes_eq_flatMap, List.mem_flatMap, lineFeed_mem_utf8EncodeChar_iff,
    exists_eq_right]

/-- Lines without a line feed in them are found again between the line feeds that end them, and
nothing stands behind the last one. -/
theorem splitOn_bytes_lines {lines : List String} (h : ∀ line ∈ lines, '\n' ∉ line.toList) :
    (bytes (String.join (lines.map (· ++ "\n")))).splitOn lineFeed = lines.map bytes ++ [[]] := by
  induction lines with
  | nil => rfl
  | cons line rest ih =>
    have hline : ∀ b ∈ bytes line, (b == lineFeed) = false := by
      rintro b hb
      refine beq_eq_false_iff_ne.2 ?_
      rintro rfl
      exact h line List.mem_cons_self (lineFeed_mem_bytes_iff.1 hb)
    have hbytes : bytes (String.join ((line :: rest).map (· ++ "\n"))) =
        bytes line ++ lineFeed :: bytes (String.join (rest.map (· ++ "\n"))) := by
      rw [List.map_cons, String.join_cons, bytes_append, bytes_append, List.append_assoc]
      rfl
    rw [hbytes, List.splitOn,
      List.splitOnP_append_cons_of_forall_mem hline lineFeed (beq_self_eq_true _)]
    rw [← List.splitOn, ih fun l hl => h l (List.mem_cons_of_mem line hl)]
    rfl

end Text
end Ingest
