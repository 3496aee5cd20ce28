import Mathlib.Tactic.IntervalCases
import RuleReview.Text.Utf8

/-! # What was encoded is decoded

The lead byte of a character says how many bytes follow, and their lowest six bits make up the character. No character
is encoded with more bytes than it needs, and none is a surrogate, so that the byte after the lead byte is within the
range that the lead byte leaves it. So what is decoded has been encoded, too, and no other bytes than those of a text are
read as UTF-8.
-/
namespace RuleReview.Text

def sixBits (n : Nat) : UInt8 := UInt8.ofNat (n % 64 + 128)

theorem toNat_ofNat_byte {n : Nat} (h : n < 256) : (UInt8.ofNat n).toNat = n := UInt8.toNat_ofNat_of_lt' h

theorem toNat_sixBits (n : Nat) : (sixBits n).toNat = n % 64 + 128 := toNat_ofNat_byte (by omega)

/-- The bytes that carry so many times six bits of a number, the highest first. -/
def sixes : Nat → Nat → List UInt8
  | 0, _ => []
  | k + 1, v => sixBits (v / 64 ^ k) :: sixes k v

/-- The character that has begun is `v`, and `k` bytes are owed after the next one. -/
structure Pending.Awaits (p : Pending) (k v : Nat) : Prop where
  count : p.owed = k + 1
  begun : p.value = v / 64 ^ (k + 1)
  low : p.lo ≤ v / 64 ^ k % 64 + 128
  high : v / 64 ^ k % 64 + 128 ≤ p.hi

variable {p : Pending} {k v : Nat}

theorem Pending.Awaits.value_next (h : p.Awaits k v) :
    p.value * 64 + ((sixBits (v / 64 ^ k)).toNat - 0x80) = v / 64 ^ k := by
  rw [h.begun, toNat_sixBits, pow_succ, ← Nat.div_div_eq_div_mul]
  omega

theorem Pending.Awaits.inRange (h : p.Awaits k v) :
    p.lo ≤ (sixBits (v / 64 ^ k)).toNat ∧ (sixBits (v / 64 ^ k)).toNat ≤ p.hi := by
  rw [toNat_sixBits]
  exact ⟨h.low, h.high⟩

theorem decodeFrom_sixes (h : p.Awaits k v) (bs : List UInt8) :
    decodeFrom (some p) (sixes (k + 1) v ++ bs) = some (Char.ofNat v) :: decodeFrom none bs := by
  induction k generalizing p with
  | zero =>
    have hlast : p.owed ≤ 1 := h.count.le
    rw [sixes, List.cons_append, decodeFrom, if_pos h.inRange]
    dsimp only
    rw [h.value_next, if_pos hlast, pow_zero, Nat.div_one]
    rfl
  | succ k ih =>
    have hmore : ¬p.owed ≤ 1 := by
      rw [h.count]
      omega
    have hnext : Pending.Awaits ⟨p.owed - 1, v / 64 ^ (k + 1), 0x80, 0xbf⟩ k v :=
      ⟨by rw [h.count]; rfl, rfl, Nat.le_add_left _ _, by dsimp only; omega⟩
    rw [sixes, List.cons_append, decodeFrom, if_pos h.inRange]
    simp only [h.value_next, if_neg hmore]
    exact ih hnext

theorem Lead.ofByte_two {n : Nat} (h : 2 ≤ n ∧ n < 32) : Lead.ofByte (n + 0xc0) = .opens ⟨1, n, 0x80, 0xbf⟩ := by
  rw [Lead.ofByte, if_neg (by omega), if_pos (by omega), Nat.add_sub_cancel]

/-- The lead byte of three rules out what needs fewer bytes, and the surrogates. -/
theorem Lead.ofByte_three {n : Nat} (h : n < 16) :
    Lead.ofByte (n + 0xe0) = .opens ⟨2, n, if n = 0 then 0xa0 else 0x80, if n = 13 then 0x9f else 0xbf⟩ := by
  interval_cases n <;> rfl

/-- The lead byte of four rules out what needs fewer bytes, and what is no character. -/
theorem Lead.ofByte_four {n : Nat} (h : n < 5) :
    Lead.ofByte (n + 0xf0) = .opens ⟨3, n, if n = 0 then 0x90 else 0x80, if n = 4 then 0x8f else 0xbf⟩ := by
  interval_cases n <;> rfl

theorem Char.isValid (c : Char) : c.toNat < 0xd800 ∨ 0xdfff < c.toNat ∧ c.toNat < 0x110000 := c.valid

section Encoded
variable {c : Char}

theorem utf8EncodeChar_one (hc : c.toNat ≤ 0x7f) : String.utf8EncodeChar c = [UInt8.ofNat c.toNat] := by
  rw [String.utf8EncodeChar, Char.toNat_val]
  exact if_pos hc

theorem utf8EncodeChar_two (hlo : 0x7f < c.toNat) (hhi : c.toNat ≤ 0x7ff) :
    String.utf8EncodeChar c = UInt8.ofNat (c.toNat / 64 + 0xc0) :: sixes 1 c.toNat := by
  rw [String.utf8EncodeChar, Char.toNat_val]
  simp only [if_neg (Nat.not_le.mpr hlo), if_pos hhi]
  rw [Nat.mod_eq_of_lt (by omega)]
  simp only [sixes, sixBits, pow_zero, Nat.div_one]

theorem utf8EncodeChar_three (hlo : 0x7ff < c.toNat) (hhi : c.toNat ≤ 0xffff) :
    String.utf8EncodeChar c = UInt8.ofNat (c.toNat / 4096 + 0xe0) :: sixes 2 c.toNat := by
  rw [String.utf8EncodeChar, Char.toNat_val]
  simp only [if_neg (show ¬c.toNat ≤ 0x7f by omega), if_neg (Nat.not_le.mpr hlo), if_pos hhi]
  rw [Nat.mod_eq_of_lt (by omega)]
  simp only [sixes, sixBits, pow_zero, pow_one, Nat.div_one]

theorem utf8EncodeChar_four (hlo : 0xffff < c.toNat) :
    String.utf8EncodeChar c = UInt8.ofNat (c.toNat / 262144 + 0xf0) :: sixes 3 c.toNat := by
  have hvalid := Char.isValid c
  rw [String.utf8EncodeChar, Char.toNat_val]
  simp only [if_neg (show ¬c.toNat ≤ 0x7f by omega), if_neg (show ¬c.toNat ≤ 0x7ff by omega),
    if_neg (Nat.not_le.mpr hlo)]
  rw [Nat.mod_eq_of_lt (by omega)]
  simp only [sixes, sixBits, pow_zero, pow_one, Nat.div_one]
  rfl

theorem exists_awaits (hc : 0x7f < c.toNat) : ∃ lead p k,
    String.utf8EncodeChar c = UInt8.ofNat lead :: sixes (k + 1) c.toNat ∧ lead < 256 ∧ Lead.ofByte lead = .opens p ∧
      p.Awaits k c.toNat := by
  have hvalid := Char.isValid c
  by_cases htwo : c.toNat ≤ 0x7ff
  · refine ⟨c.toNat / 64 + 0xc0, _, 0, utf8EncodeChar_two hc htwo, by omega, Lead.ofByte_two (by omega), ?_⟩
    constructor <;> dsimp only <;> omega
  rw [Nat.not_le] at htwo
  by_cases hthree : c.toNat ≤ 0xffff
  · refine ⟨c.toNat / 4096 + 0xe0, _, 1, utf8EncodeChar_three htwo hthree, by omega, Lead.ofByte_three (by omega), ?_⟩
    refine ⟨rfl, rfl, ?_, ?_⟩ <;> dsimp only [pow_one] <;> split <;> omega
  rw [Nat.not_le] at hthree
  refine ⟨c.toNat / 262144 + 0xf0, _, 2, utf8EncodeChar_four hthree, by omega, Lead.ofByte_four (by omega), ?_⟩
  refine ⟨rfl, rfl, ?_, ?_⟩ <;> dsimp only [Nat.reducePow] <;> split <;> omega

end Encoded

theorem decodeFrom_char (c : Char) (bs : List UInt8) :
    decodeFrom none (String.utf8EncodeChar c ++ bs) = some c :: decodeFrom none bs := by
  by_cases hc : 0x7f < c.toNat
  · obtain ⟨lead, p, k, hbytes, hlt, hlead, hp⟩ := exists_awaits hc
    rw [hbytes, List.cons_append, decodeFrom, toNat_ofNat_byte hlt, hlead]
    dsimp only
    rw [decodeFrom_sixes hp, Char.ofNat_toNat]
  · have hlead : Lead.ofByte c.toNat = .whole c := by rw [Lead.ofByte, if_pos (by omega), Char.ofNat_toNat]
    rw [utf8EncodeChar_one (Nat.not_lt.mp hc), List.singleton_append, decodeFrom, toNat_ofNat_byte (by omega), hlead]

theorem decodeFrom_encode (s : Text) : decodeFrom none (encode s) = s.map some := by
  induction s with
  | nil => rfl
  | cons c s ih => rw [encode, List.flatMap_cons, decodeFrom_char, ← encode, ih, List.map_cons]

theorem decodeLossy_encode (s : Text) : decodeLossy (encode s) = s := by
  rw [decodeLossy, decodeFrom_encode, List.map_map]
  exact List.map_id s

section Decoded
variable {b : UInt8} {bs : List UInt8} {s : Text} {c : Char}

theorem sixBits_mul_add (h : 0x80 ≤ b.toNat ∧ b.toNat ≤ 0xbf) (n : Nat) : sixBits (n * 64 + (b.toNat - 0x80)) = b := by
  rw [← UInt8.toNat_inj, toNat_sixBits]
  omega

theorem decodeFrom_pending_ne (p : Pending) (bs : List UInt8) : decodeFrom (some p) bs ≠ [] := by
  induction bs generalizing p with
  | nil => nofun
  | cons b bs ih =>
    rw [decodeFrom]
    split
    · dsimp only
      split
      · nofun
      · exact ih _
    · nofun

/-- A character that has begun is ended by the bytes that carry its lowest bits. -/
theorem exists_sixes (hcount : p.owed = k + 1) (hlo : 0x80 ≤ p.lo) (hhi : p.hi ≤ 0xbf)
    (h : decodeFrom (some p) bs = (c :: s).map some) : ∃ v rest, bs = sixes (k + 1) v ++ rest ∧ p.Awaits k v ∧
      c = Char.ofNat v ∧ decodeFrom none rest = s.map some := by
  induction k generalizing p bs with
  | zero =>
    cases bs with
    | nil => cases h
    | cons b bs =>
      rw [decodeFrom] at h
      split at h
      · next hrange =>
        dsimp only at h
        rw [if_pos hcount.le] at h
        obtain ⟨hc, hrest⟩ := List.cons.inj h
        have hb : 0x80 ≤ b.toNat ∧ b.toNat ≤ 0xbf := ⟨hlo.trans hrange.1, hrange.2.trans hhi⟩
        refine ⟨p.value * 64 + (b.toNat - 0x80), bs, ?_, ⟨hcount, ?_, ?_, ?_⟩, (Option.some.inj hc).symm, hrest⟩
        · rw [sixes, sixes, pow_zero, Nat.div_one, sixBits_mul_add hb]
          rfl
        all_goals simp only [zero_add, pow_zero, pow_one, Nat.div_one]; omega
      · cases h
  | succ k ih =>
    cases bs with
    | nil => cases h
    | cons b bs =>
      rw [decodeFrom] at h
      split at h
      · next hrange =>
        dsimp only at h
        rw [if_neg (by omega)] at h
        have hb : 0x80 ≤ b.toNat ∧ b.toNat ≤ 0xbf := ⟨hlo.trans hrange.1, hrange.2.trans hhi⟩
        obtain ⟨v, rest, rfl, hv, hc, hrest⟩ := ih (by dsimp only; omega) le_rfl le_rfl h
        have hvalue := hv.begun
        dsimp only at hvalue
        refine ⟨v, rest, ?_, ⟨hcount, ?_, ?_, ?_⟩, hc, hrest⟩
        · have hsixes : sixes (k + 1 + 1) v = b :: sixes (k + 1) v := by rw [sixes, ← hvalue, sixBits_mul_add hb]
          rw [hsixes, List.cons_append]
        · rw [pow_succ, ← Nat.div_div_eq_div_mul, ← hvalue]
          omega
        all_goals rw [← hvalue]; omega
      · cases h

theorem toNat_char_ofNat {v : Nat} (h : v < 0xd800 ∨ 0xdfff < v ∧ v < 0x110000) : (Char.ofNat v).toNat = v := by
  rw [Char.ofNat, dif_pos h]
  rfl

theorem utf8EncodeChar_of_whole (h : Lead.ofByte b.toNat = .whole c) : String.utf8EncodeChar c = [b] := by
  rw [Lead.ofByte] at h
  repeat' split at h
  all_goals cases h
  have hnat : (Char.ofNat b.toNat).toNat = b.toNat := toNat_char_ofNat (by omega)
  rw [utf8EncodeChar_one (by omega), hnat, UInt8.ofNat_toNat]

theorem utf8EncodeChar_of_two (hb : b.toNat = v / 64 + 0xc0) (hlo : 0x7f < v) (hhi : v ≤ 0x7ff) :
    String.utf8EncodeChar (Char.ofNat v) = b :: sixes 1 v := by
  have hnat : (Char.ofNat v).toNat = v := toNat_char_ofNat (by omega)
  rw [utf8EncodeChar_two (by omega) (by omega), hnat, ← hb, UInt8.ofNat_toNat]

theorem utf8EncodeChar_of_three (hb : b.toNat = v / 4096 + 0xe0) (hlo : 0x7ff < v) (hhi : v ≤ 0xffff)
    (hvalid : v < 0xd800 ∨ 0xdfff < v) : String.utf8EncodeChar (Char.ofNat v) = b :: sixes 2 v := by
  have hnat : (Char.ofNat v).toNat = v := toNat_char_ofNat (by omega)
  rw [utf8EncodeChar_three (by omega) (by omega), hnat, ← hb, UInt8.ofNat_toNat]

theorem utf8EncodeChar_of_four (hb : b.toNat = v / 262144 + 0xf0) (hlo : 0xffff < v) (hhi : v < 0x110000) :
    String.utf8EncodeChar (Char.ofNat v) = b :: sixes 3 v := by
  have hnat : (Char.ofNat v).toNat = v := toNat_char_ofNat (by omega)
  rw [utf8EncodeChar_four (by omega), hnat, ← hb, UInt8.ofNat_toNat]

theorem utf8EncodeChar_of_opens (h : Lead.ofByte b.toNat = .opens p) : ∃ k, p.owed = k + 1 ∧ 0x80 ≤ p.lo ∧
    p.hi ≤ 0xbf ∧ ∀ v, p.Awaits k v → String.utf8EncodeChar (Char.ofNat v) = b :: sixes (k + 1) v := by
  rw [Lead.ofByte] at h
  repeat' split at h
  all_goals cases h
  case _ =>
    refine ⟨0, rfl, by simp, by simp, fun v hv => ?_⟩
    obtain ⟨-, hbegun, hlow, hhigh⟩ := hv
    simp only [zero_add, pow_one, pow_zero, Nat.div_one] at hbegun hlow hhigh
    exact utf8EncodeChar_of_two (by omega) (by omega) (by omega)
  iterate 3
    refine ⟨1, rfl, by simp, by simp, fun v hv => ?_⟩
    obtain ⟨-, hbegun, hlow, hhigh⟩ := hv
    simp only [Nat.reduceAdd, Nat.reducePow, pow_one] at hbegun hlow hhigh
    exact utf8EncodeChar_of_three (by omega) (by omega) (by omega) (by omega)
  all_goals
    refine ⟨2, rfl, by simp, by simp, fun v hv => ?_⟩
    obtain ⟨-, hbegun, hlow, hhigh⟩ := hv
    simp only [Nat.reduceAdd, Nat.reducePow] at hbegun hlow hhigh
    exact utf8EncodeChar_of_four (by omega) (by omega) (by omega)

theorem encode_of_decodeFrom (h : decodeFrom none bs = s.map some) : encode s = bs := by
  induction s generalizing bs with
  | nil =>
    cases bs with
    | nil => rfl
    | cons b bs =>
      rw [decodeFrom] at h
      split at h
      · cases h
      · exact absurd h (decodeFrom_pending_ne _ bs)
      · cases h
  | cons c s ih =>
    cases bs with
    | nil => cases h
    | cons b bs =>
      rw [encode, List.flatMap_cons, ← encode]
      rw [decodeFrom] at h
      split at h
      · next d hlead =>
        obtain ⟨hc, hrest⟩ := List.cons.inj h
        cases hc
        rw [utf8EncodeChar_of_whole hlead, ih hrest]
        rfl
      · next p hlead =>
        obtain ⟨k, hcount, hlo, hhi, hencode⟩ := utf8EncodeChar_of_opens hlead
        obtain ⟨v, rest, rfl, hv, rfl, hrest⟩ := exists_sixes hcount hlo hhi h
        rw [hencode v hv, ih hrest]
        rfl
      · cases h

theorem decode?_eq_some_iff_map : decode? bs = some s ↔ decodeFrom none bs = s.map some := by
  rw [decode?]
  generalize decodeFrom none bs = cs
  induction cs generalizing s with
  | nil => cases s <;> simp
  | cons c cs ih =>
    rw [List.mapM_cons]
    cases c with
    | none => cases s <;> simp
    | some c =>
      cases s with
      | nil => simp [Option.bind_eq_some_iff]
      | cons d s =>
        simp only [id, Option.pure_def, Option.bind_eq_bind, Option.bind_some, Option.bind_eq_some_iff, Option.some.injEq,
          List.cons.injEq, ih, List.map_cons]
        exact ⟨fun ⟨_, hcs, hc, hs⟩ => ⟨hc, hs ▸ hcs⟩, fun ⟨hc, hcs⟩ => ⟨s, hcs, hc, rfl⟩⟩

theorem decode?_eq_some : decode? bs = some s ↔ encode s = bs := by
  rw [decode?_eq_some_iff_map]
  refine ⟨encode_of_decodeFrom, ?_⟩
  rintro rfl
  exact decodeFrom_encode s

end Decoded

end RuleReview.Text
