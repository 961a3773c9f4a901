/-
# ASCII in UTF-8

An ASCII character is one byte, and no longer character has a code that is ASCII
(`Utf8.head_cons_ascii`). So only the bytes of an ASCII text decode to that text
(`Utf8.decode?_ascii`).

Key theorems: `Utf8.head_cons_ascii`, `Utf8.decode?_ascii`.
-/
import StreamEditor.Text.Bytes

namespace StreamEditor
namespace Utf8

variable {first : UInt8} {rest : Bytes} {code size : Nat}

theorem headTwo_code (hfirst : 0xC2 ≤ first ∧ first < 0xE0)
    (h : headTwo first rest = .scalar code size) : 128 ≤ code := by
  simp only [UInt8.lt_iff_toNat_lt, UInt8.le_iff_toNat_le] at hfirst
  unfold headTwo at h
  grind

/-- The second byte of a character makes up for a first one that carries no bits. -/
theorem tailBits_of_isSecond {second : UInt8} (h : isSecond first second = true) :
    (first = 0xE0 → 32 ≤ tailBits second) ∧ (first = 0xF0 → 16 ≤ tailBits second) := by
  constructor <;> rintro rfl <;> simp [isSecond, UInt8.le_iff_toNat_le] at h <;> unfold tailBits <;>
    omega

theorem headThree_code (hfirst : 0xE0 ≤ first ∧ first < 0xF0)
    (h : headThree first rest = .scalar code size) : 128 ≤ code := by
  have hlow : first.toNat % 16 = 0 → first = 0xE0 := by
    simp only [UInt8.lt_iff_toNat_lt, UInt8.le_iff_toNat_le, ← UInt8.toNat_inj] at *
    simp at *
    omega
  unfold headThree at h
  split at h
  · next second third _ =>
    split at h
    · cases h
    · next hs =>
      have hbits := (tailBits_of_isSecond (by simpa using hs)).1
      grind
  · split at h <;> cases h
  · cases h

theorem headFour_code (hfirst : 0xF0 ≤ first ∧ first < 0xF5)
    (h : headFour first rest = .scalar code size) : 128 ≤ code := by
  have hlow : first.toNat % 8 = 0 → first = 0xF0 := by
    simp only [UInt8.lt_iff_toNat_lt, UInt8.le_iff_toNat_le, ← UInt8.toNat_inj] at *
    simp at *
    omega
  unfold headFour at h
  split at h
  · next second rest =>
    split at h
    · cases h
    · next hs =>
      have hbits := (tailBits_of_isSecond (by simpa using hs)).2
      split at h
      · split at h
        · cases h
        · split at h
          · split at h
            · grind
            · cases h
          · cases h
      · cases h
  · cases h

/-- **Only an ASCII byte begins an ASCII character**, and it is all of it. -/
theorem head_cons_ascii {b : UInt8} (h : head (b :: rest) = .scalar code size)
    (hcode : code < 128) : b.toNat = code ∧ size = 1 := by
  rw [head] at h
  split at h
  · simpa [and_comm, eq_comm] using h
  · next hb =>
    simp only [UInt8.not_lt] at hb
    split at h
    · cases h
    · split at h
      · exact absurd (headTwo_code ⟨UInt8.not_lt.mp ‹_›, ‹_›⟩ h) (by omega)
      · split at h
        · exact absurd (headThree_code ⟨UInt8.not_lt.mp ‹_›, ‹_›⟩ h) (by omega)
        · split at h
          · exact absurd (headFour_code ⟨UInt8.not_lt.mp ‹_›, ‹_›⟩ h) (by omega)
          · cases h

theorem toNat_ofNat {code : Nat} (hpos : 0 < (Char.ofNat code).toNat) :
    (Char.ofNat code).toNat = code := by
  by_cases hvalid : code.isValidChar
  · rw [Char.ofNat, dif_pos hvalid]
    rfl
  · rw [Char.ofNat, dif_neg hvalid] at hpos
    exact absurd hpos (by decide)

/-- A string of bytes begins with a character or with a broken part. -/
theorem head_cons_ne_none (b : UInt8) : head (b :: rest) ≠ .none := by
  unfold head headTwo headThree headFour
  grind

/-- What is scanned as an ASCII character is the byte of it. -/
theorem scan_ascii {bs : Bytes} {c : Char} {cs : List (Option Char)} (hc : 0 < c.toNat ∧ c.toNat < 128)
    (h : scan 0 bs = some c :: cs) : ∃ rest, bs = UInt8.ofNat c.toNat :: rest ∧ scan 0 rest = cs := by
  cases bs with
  | nil => cases h
  | cons b rest =>
    rw [scan] at h
    split at h
    · cases h
    · next code size hhead =>
      simp only [List.cons.injEq, Option.some.injEq] at h
      obtain ⟨rfl, rfl⟩ := h
      have hcode := toNat_ofNat hc.1
      rw [hcode] at hc ⊢
      obtain ⟨rfl, rfl⟩ := head_cons_ascii hhead hc.2
      exact ⟨rest, by rw [UInt8.ofNat_toNat], rfl⟩
    · cases h

theorem eq_of_scan : ∀ {cs : List Char} {bs : Bytes},
    (∀ c ∈ cs, 0 < c.toNat ∧ c.toNat < 128) → (scan 0 bs).mapM id = some cs →
      bs = cs.map fun c => UInt8.ofNat c.toNat
  | cs, bs, hascii, h => by
    cases hscan : scan 0 bs with
    | nil =>
      rw [hscan] at h
      cases h
      cases bs with
      | nil => rfl
      | cons b rest =>
        rw [scan] at hscan
        split at hscan
        · next hhead => exact absurd hhead (head_cons_ne_none b)
        · cases hscan
        · cases hscan
    | cons c? rest =>
      rw [hscan, List.mapM_cons] at h
      cases c? with
      | none => cases h
      | some c =>
        obtain ⟨cs', hcs, hcons⟩ : ∃ cs', rest.mapM id = some cs' ∧ c :: cs' = cs := by
          simpa [Option.bind_eq_some_iff] using h
        subst hcons
        obtain ⟨bs', rfl, hrest⟩ := scan_ascii (hascii c List.mem_cons_self) hscan
        rw [← hrest] at hcs
        rw [List.map_cons, eq_of_scan (fun d hd => hascii d (List.mem_cons_of_mem _ hd)) hcs]

/-- **Only the bytes of an ASCII text decode to it.** -/
theorem decode?_ascii {bs : Bytes} {s : String} (h : decode? bs = some s)
    (hascii : (s.toList.all fun c => decide (0 < c.toNat ∧ c.toNat < 128)) = true) :
    bs = s.toList.map fun c => UInt8.ofNat c.toNat := by
  obtain ⟨cs, hscan, rfl⟩ := Option.map_eq_some_iff.mp h
  rw [String.toList_ofList] at hascii ⊢
  exact eq_of_scan (fun c hc => of_decide_eq_true (List.all_eq_true.mp hascii c hc)) hscan

end Utf8
end StreamEditor
