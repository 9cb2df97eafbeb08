import HeaderOrder.Text.Utf8
import Mathlib.Tactic.IntervalCases
import Mathlib.Tactic.SplitIfs

/-!
# What is written can be read

The reader of UTF-8 takes the bytes of a character one by one, and the ranges that it allows for the
second byte are just those in which the second bytes of characters lie.  So the bytes of a text are
read as that text.
-/

namespace HeaderOrder.Text.Utf8

/-! ## One byte of a sequence -/

theorem toNat_ofNat {code : Nat} (small : code < 256) : (UInt8.ofNat code).toNat = code := by
  rw [UInt8.toNat_ofNat']
  exact Nat.mod_eq_of_lt small

theorem ofLead?_two {code : Nat} (low : 0xC2 ≤ code) (high : code < 0xE0) :
    State.ofLead? (UInt8.ofNat code) =
      some (.within [UInt8.ofNat code] (code - 0xC0) 1 0x80 0xBF) := by
  rw [State.ofLead?, toNat_ofNat (by omega)]
  rw [if_neg (by omega), if_pos (by omega)]

theorem ofLead?_three {code : Nat} (low : 0xE0 ≤ code) (high : code < 0xF0) :
    State.ofLead? (UInt8.ofNat code) =
      some (.within [UInt8.ofNat code] (code - 0xE0) 2 (if code = 0xE0 then 0xA0 else 0x80)
        (if code = 0xED then 0x9F else 0xBF)) := by
  rw [State.ofLead?, toNat_ofNat (by omega)]
  interval_cases code <;> rfl

theorem ofLead?_four {code : Nat} (low : 0xF0 ≤ code) (high : code ≤ 0xF4) :
    State.ofLead? (UInt8.ofNat code) =
      some (.within [UInt8.ofNat code] (code - 0xF0) 3 (if code = 0xF0 then 0x90 else 0x80)
        (if code = 0xF4 then 0x8F else 0xBF)) := by
  rw [State.ofLead?, toNat_ofNat (by omega)]
  interval_cases code <;> rfl

theorem decodeFrom_lead {code : Nat} (large : 0x80 ≤ code) (small : code < 256) {state : State}
    (lead : State.ofLead? (UInt8.ofNat code) = some state) (offset : Nat) (decoded : Text)
    (rest : List UInt8) :
    decodeFrom offset decoded .ready (UInt8.ofNat code :: rest) =
      decodeFrom (offset + 1) decoded state rest := by
  rw [decodeFrom, toNat_ofNat small, if_neg (by omega), lead]

theorem decodeFrom_last {code payload low high : Nat} (inRange : low ≤ code ∧ code ≤ high)
    (small : code < 256) (offset : Nat) (decoded : Text) (taken rest : List UInt8) :
    decodeFrom offset decoded (.within taken payload 1 low high) (UInt8.ofNat code :: rest) =
      decodeFrom (offset + 1) (Char.ofNat (payload * 0x40 + (code - 0x80)) :: decoded) .ready
        rest := by
  rw [decodeFrom, toNat_ofNat small, if_pos inRange]
  rfl

theorem decodeFrom_more {code payload missing low high : Nat} (inRange : low ≤ code ∧ code ≤ high)
    (small : code < 256) (offset : Nat) (decoded : Text) (taken rest : List UInt8) :
    decodeFrom offset decoded (.within taken payload (missing + 2) low high)
        (UInt8.ofNat code :: rest) =
      decodeFrom (offset + 1) decoded
        (.within (taken ++ [UInt8.ofNat code]) (payload * 0x40 + (code - 0x80)) (missing + 1)
          0x80 0xBF) rest := by
  rw [decodeFrom, toNat_ofNat small, if_pos inRange]
  simp only
  rw [if_neg (by omega)]
  rfl

/-! ## One character -/

/-- The bytes of a character are read as that character. -/
theorem exists_decodeFrom_encodeChar (character : Char) (offset : Nat) (decoded : Text)
    (rest : List UInt8) :
    ∃ later, decodeFrom offset decoded .ready (String.utf8EncodeChar character ++ rest) =
      decodeFrom later (character :: decoded) .ready rest := by
  have value : Char.ofNat character.val.toNat = character := Char.ofNat_toNat character
  have valid : character.val.toNat < 0xD800 ∨
      0xDFFF < character.val.toNat ∧ character.val.toNat < 0x110000 := character.valid
  rw [String.utf8EncodeChar]
  generalize character.val.toNat = code at value valid
  rw [← value]
  split_ifs with one two three
  · refine ⟨offset + 1, ?_⟩
    rw [List.singleton_append, decodeFrom, toNat_ofNat (by omega), if_pos (by omega)]
  · refine ⟨offset + 1 + 1, ?_⟩
    have sum : (code / 64 % 32 + 0xc0 - 0xC0) * 0x40 + (code % 64 + 0x80 - 0x80) = code := by omega
    simp only [List.cons_append, List.nil_append]
    rw [decodeFrom_lead (by omega) (by omega) (ofLead?_two (by omega) (by omega)),
      decodeFrom_last (by omega) (by omega), sum]
  · refine ⟨offset + 1 + 1 + 1, ?_⟩
    have sum : ((code / 4096 % 16 + 0xe0 - 0xE0) * 0x40 + (code / 64 % 64 + 0x80 - 0x80)) * 0x40 +
        (code % 64 + 0x80 - 0x80) = code := by omega
    simp only [List.cons_append, List.nil_append]
    rw [decodeFrom_lead (by omega) (by omega) (ofLead?_three (by omega) (by omega)),
      decodeFrom_more (by split_ifs <;> omega) (by omega),
      decodeFrom_last (by omega) (by omega), sum]
  · refine ⟨offset + 1 + 1 + 1 + 1, ?_⟩
    have sum : (((code / 262144 % 8 + 0xf0 - 0xF0) * 0x40 +
        (code / 4096 % 64 + 0x80 - 0x80)) * 0x40 + (code / 64 % 64 + 0x80 - 0x80)) * 0x40 +
          (code % 64 + 0x80 - 0x80) = code := by omega
    simp only [List.cons_append, List.nil_append]
    rw [decodeFrom_lead (by omega) (by omega) (ofLead?_four (by omega) (by omega)),
      decodeFrom_more (by split_ifs <;> omega) (by omega),
      decodeFrom_more (by omega) (by omega), decodeFrom_last (by omega) (by omega), sum]

/-! ## A text -/

theorem decodeFrom_encode (text : Text) (offset : Nat) (decoded : Text) :
    decodeFrom offset decoded .ready (encode text) = .ok (decoded.reverse ++ text) := by
  induction text generalizing offset decoded with
  | nil =>
      rw [List.append_nil]
      rfl
  | cons character text later =>
      obtain ⟨next, step⟩ := exists_decodeFrom_encodeChar character offset decoded (encode text)
      calc decodeFrom offset decoded .ready (encode (character :: text))
          = decodeFrom next (character :: decoded) .ready (encode text) := step
        _ = .ok ((character :: decoded).reverse ++ text) := later next (character :: decoded)
        _ = .ok (decoded.reverse ++ character :: text) := by
            rw [List.reverse_cons, List.append_assoc, List.singleton_append]

/-- The bytes of a text are read as that text. -/
theorem decode_encode (text : Text) : decode (encode text) = .ok text :=
  decodeFrom_encode text 0 []

end HeaderOrder.Text.Utf8
