/-
The order of texts is the order of their bytes in UTF-8: the encodings of two characters differ
before either ends, and the smaller character has the smaller byte there.
-/
import Mathlib.Data.String.Basic

namespace DocTabs.Text

/-- The bytes of a text in UTF-8. -/
def bytes (s : String) : List UInt8 :=
  s.toUTF8.data.toList

theorem bytes_eq (s : String) : bytes s = s.toList.flatMap String.utf8EncodeChar := by
  rw [bytes, String.toUTF8, ← String.utf8Encode_toList, List.utf8Encode, List.toList_data_toByteArray]

/-! ## Characters -/

/-- The first list is smaller at a position that both have. -/
def SmallerByte : List UInt8 → List UInt8 → Prop
  | a :: s, b :: t => a < b ∨ a = b ∧ SmallerByte s t
  | _, _ => False

theorem SmallerByte.append_lt {s t : List UInt8} (h : SmallerByte s t) (s' t' : List UInt8) :
    s ++ s' < t ++ t' := by
  induction s generalizing t with
  | nil => exact h.elim
  | cons a s ih =>
    cases t with
    | nil => exact h.elim
    | cons b t =>
      rw [List.cons_append, List.cons_append, List.cons_lt_cons_iff]
      exact h.imp id fun ⟨hab, h⟩ => ⟨hab, ih h⟩

theorem smallerByte_utf8EncodeChar {c d : Char} (h : c < d) :
    SmallerByte (String.utf8EncodeChar c) (String.utf8EncodeChar d) := by
  have hlt : c.val.toNat < d.val.toNat := h
  have hd : d.val.toNat < 0x110000 := by
    rcases d.valid with hv | ⟨-, hv⟩
    · exact hv.trans (by decide)
    · exact hv
  have htwo : ∀ n, (n % 0x20 + 0xc0) % 2 ^ 8 = n % 0x20 + 0xc0 := by omega
  have hthree : ∀ n, (n % 0x10 + 0xe0) % 2 ^ 8 = n % 0x10 + 0xe0 := by omega
  have hfour : ∀ n, (n % 0x08 + 0xf0) % 2 ^ 8 = n % 0x08 + 0xf0 := by omega
  have hmore : ∀ n, (n % 0x40 + 0x80) % 2 ^ 8 = n % 0x40 + 0x80 := by omega
  have hdigit : ∀ {m n : Nat}, m < n → m / 0x40 < n / 0x40 ∨ m / 0x40 = n / 0x40 ∧ m % 0x40 < n % 0x40 := by
    omega
  have h4096 : ∀ n, n / 4096 = n / 0x40 / 0x40 := by omega
  have h262144 : ∀ n, n / 262144 = n / 0x40 / 0x40 / 0x40 := by omega
  -- the leading byte tells the length, so only encodings of one length go on to the next byte
  simp only [String.utf8EncodeChar]
  split_ifs <;> simp only [SmallerByte, UInt8.lt_iff_toNat_lt, ← UInt8.toNat_inj, UInt8.toNat_ofNat',
    htwo, hthree, hfour, hmore, h4096, h262144]
  all_goals
    rcases hdigit hlt with h1 | h1
    · rcases hdigit h1 with h2 | h2
      · rcases hdigit h2 with h3 | h3 <;> omega
      · omega
    · omega

/-! ## Texts -/

theorem flatMap_lt {s t : List Char} (h : s < t) :
    s.flatMap String.utf8EncodeChar < t.flatMap String.utf8EncodeChar := by
  induction s generalizing t with
  | nil =>
    cases t with
    | nil => exact absurd h (List.lt_irrefl _)
    | cons d t =>
      obtain ⟨b, more, hb⟩ := List.exists_cons_of_ne_nil (String.utf8EncodeChar_ne_nil (c := d))
      rw [List.flatMap_nil, List.flatMap_cons, hb]
      exact List.nil_lt_cons ..
  | cons c s ih =>
    cases t with
    | nil => exact absurd h (List.not_lt_nil _)
    | cons d t =>
      rw [List.flatMap_cons, List.flatMap_cons]
      rcases List.cons_lt_cons_iff.1 h with hcd | ⟨rfl, hst⟩
      · exact (smallerByte_utf8EncodeChar hcd).append_lt ..
      · exact List.append_left_lt (ih hst)

/-- The bytes of one text come before those of another where the text does. -/
theorem bytes_lt {a b : String} : bytes a < bytes b ↔ a < b := by
  have hmono : ∀ {a b : String}, a < b → bytes a < bytes b := fun h => by
    rw [bytes_eq, bytes_eq]
    exact flatMap_lt (String.lt_iff_toList_lt.1 h)
  refine ⟨fun h => ?_, hmono⟩
  rcases lt_trichotomy a b with hab | rfl | hba
  · exact hab
  · exact absurd h (List.lt_irrefl _)
  · exact absurd h (List.lt_asymm (hmono hba))

end DocTabs.Text
