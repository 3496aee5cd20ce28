import RuleReview.Proofs.Diff.Quoting

/-! # Names quoted byte by byte

Git knows a name as bytes and quotes each of them by itself. The bytes of a character beyond ASCII stay as they are, or
each of them becomes an escape; what is written is UTF-8 either way, and is read as the name again. That holds because
every byte of such a character is beyond ASCII: no part of one is taken for a quote, a backslash or a control.
-/
namespace RuleReview.Diff
variable {c : Char} {b : UInt8}

/-- What is written for a byte between quotes; `ascii` asks for ASCII alone. -/
def quoteByte (ascii : Bool) (b : UInt8) : List UInt8 :=
  match b.toNat with
  | 7 => Text.encode "\\a"
  | 8 => Text.encode "\\b"
  | 9 => Text.encode "\\t"
  | 10 => Text.encode "\\n"
  | 11 => Text.encode "\\v"
  | 12 => Text.encode "\\f"
  | 13 => Text.encode "\\r"
  | 34 => Text.encode "\\\""
  | 92 => Text.encode "\\\\"
  | n => if n < 32 ∨ n = 127 ∨ (ascii ∧ 128 ≤ n) then Text.encode (octalEscape b) else [b]

def quoteBytes (ascii : Bool) (bs : List UInt8) : List UInt8 := bs.flatMap (quoteByte ascii)

theorem escapeLetter?_of_ne (hcontrol : c.toNat < 7 ∨ 13 < c.toNat) (hquote : c.toNat ≠ 34) (hback : c.toNat ≠ 92) :
    escapeLetter? c = none := by
  rw [escapeLetter?]
  split
  case h_8 =>
    refine if_neg ?_
    rintro (rfl | rfl)
    · exact hquote rfl
    · exact hback rfl
  all_goals omega

/-! ## Characters of one byte -/

theorem quoteByte_ascii (hc : c.toNat < 128) (ascii : Bool) :
    quoteByte ascii (.ofNat c.toNat) = Text.encode (quoteChar ascii c) := by
  have hbyte : (UInt8.ofNat c.toNat).toNat = c.toNat := Text.toNat_ofNat_byte (by omega)
  have hchar : Char.ofNat c.toNat = c := Char.ofNat_toNat c
  rw [quoteByte, hbyte]
  split
  case h_10 =>
    have hnone : escapeLetter? c = none := escapeLetter?_of_ne (by grind) ‹_› ‹_›
    have hbytes : Text.encode [c] = [.ofNat c.toNat] := by
      rw [Text.encode, List.flatMap_singleton, Text.utf8EncodeChar_one (Nat.le_of_lt_succ hc)]
    have hwithin : ¬128 ≤ c.toNat := Nat.not_le.mpr hc
    simp only [quoteChar, hnone, isControl, hwithin, hbytes, and_false, or_false, decide_false, Bool.and_false,
      Bool.or_false, Bool.or_eq_true, decide_eq_true_eq, List.flatMap_singleton]
    split
    · rfl
    · exact hbytes.symm
  all_goals
    next hn =>
    rw [← hchar, hn]
    rfl

/-! ## Characters of more bytes -/

theorem beyond_of_mem_sixes {k v : Nat} (hb : b ∈ Text.sixes k v) : 128 ≤ b.toNat := by
  induction k with
  | zero => cases hb
  | succ k ih =>
    rcases List.mem_cons.mp hb with rfl | hb
    · exact (Text.toNat_sixBits _).symm ▸ Nat.le_add_left ..
    · exact ih hb

theorem beyond_of_mem_utf8EncodeChar (hc : 128 ≤ c.toNat) (hb : b ∈ String.utf8EncodeChar c) : 128 ≤ b.toNat := by
  obtain ⟨lead, p, k, hbytes, hlt, hlead, -⟩ := Text.exists_awaits hc
  rw [hbytes] at hb
  rcases List.mem_cons.mp hb with rfl | hb
  · rw [Text.toNat_ofNat_byte hlt]
    by_contra hwhole
    rw [Text.Lead.ofByte, if_pos (Nat.not_le.mp hwhole)] at hlead
    cases hlead
  · exact beyond_of_mem_sixes hb

theorem quoteByte_beyond (hb : 128 ≤ b.toNat) (ascii : Bool) :
    quoteByte ascii b = if ascii then Text.encode (octalEscape b) else [b] := by
  rw [quoteByte]
  split
  case h_10 =>
    have hlow : ¬b.toNat < 32 := by omega
    have hdelete : b.toNat ≠ 127 := by omega
    simp only [hlow, hdelete, hb, false_or, and_true]
  all_goals omega

theorem quoteBytes_beyond {bs : List UInt8} (hbs : ∀ b ∈ bs, 128 ≤ b.toNat) (ascii : Bool) :
    quoteBytes ascii bs = if ascii then Text.encode (bs.flatMap octalEscape) else bs := by
  have hquote : quoteBytes ascii bs = bs.flatMap fun b => if ascii then Text.encode (octalEscape b) else [b] :=
    List.flatMap_congr fun b hb => quoteByte_beyond (hbs b hb) ascii
  rw [hquote]
  split
  · exact List.flatMap_assoc.symm
  · exact List.flatMap_singleton' bs

/-! ## All of a name -/

theorem quoteBytes_utf8EncodeChar (ascii : Bool) (c : Char) :
    quoteBytes ascii (String.utf8EncodeChar c) = Text.encode (quoteChar ascii c) := by
  rcases Nat.lt_or_ge c.toNat 128 with hc | hc
  · rw [Text.utf8EncodeChar_one (Nat.le_of_lt_succ hc), quoteBytes, List.flatMap_singleton, quoteByte_ascii hc]
  · have hnone : escapeLetter? c = none := escapeLetter?_of_ne (by omega) (by omega) (by omega)
    have hplain : isControl c = false := by
      rw [isControl, Bool.or_eq_false_iff, decide_eq_false_iff_not, decide_eq_false_iff_not]
      omega
    have hbytes : Text.encode [c] = String.utf8EncodeChar c := List.flatMap_singleton ..
    simp only [quoteBytes_beyond (fun _ => beyond_of_mem_utf8EncodeChar hc), quoteChar, hnone, hplain, hc, hbytes,
      Bool.false_or, decide_true, Bool.and_true]
    split
    · rfl
    · exact hbytes.symm

theorem quoteBytes_encode (ascii : Bool) (s : Text) :
    quoteBytes ascii (Text.encode s) = Text.encode (quoteText ascii s) :=
  calc quoteBytes ascii (Text.encode s)
      = s.flatMap fun c => quoteBytes ascii (String.utf8EncodeChar c) := List.flatMap_assoc
    _ = s.flatMap fun c => Text.encode (quoteChar ascii c) := by simp only [quoteBytes_utf8EncodeChar]
    _ = Text.encode (quoteText ascii s) := List.flatMap_assoc.symm

/-- Reading a quoted name gives the name, whichever way its bytes beyond ASCII are written. -/
theorem unquote_quoteBytes (ascii : Bool) (s : Text) :
    ∃ body, Text.decode? (quoteBytes ascii (Text.encode s)) = some body ∧ unquote body = .ok s :=
  ⟨quoteText ascii s, Text.decode?_eq_some.mpr (quoteBytes_encode ascii s).symm, unquote_quoteText ascii s⟩

/-- A backslash that is part of a name is told from one that opens an escape. -/
example : (unquote "\\\\101\\303\\251\\a").toOption = some "\\101é\x07".toList := by decide

end RuleReview.Diff
