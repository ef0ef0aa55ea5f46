import AnalysisHarness.Proofs.Text.Splitting
import AnalysisHarness.Text.Utf8

/-!
# ASCII in lenient decoding

Lenient decoding reads one stretch of bytes at a time. A stretch is a single ASCII byte, or it has
no ASCII byte in it and does not give an ASCII character either. So decoding can be done on both
sides of an ASCII byte by itself, and an ASCII phrase stands in the decoded text exactly where its
bytes stand, however broken the bytes around it are.
-/

namespace AnalysisHarness
namespace Text

/-! ## The first stretch -/

def Stops (low high : UInt8) (rest : Bytes) : Prop :=
  forall x, rest.head? = some x -> ¬(low ≤ x ∧ x ≤ high)

theorem exists_of_not_stops {low high : UInt8} {rest : Bytes} (h : ¬Stops low high rest) :
    exists x others, rest = x :: others ∧ low ≤ x ∧ x ≤ high := by
  cases rest with
  | nil => exact absurd (fun x hx => nomatch hx) h
  | cons x others =>
      refine ⟨x, others, rfl, Classical.byContradiction ?_⟩
      intro hx
      apply h
      intro y hy
      cases hy
      exact hx

/-- The bytes that are read together first, what they stand for, and the bytes that are left. -/
inductive FirstStretch : Bytes -> Option Char -> Bytes -> Prop where
  | ascii {b : UInt8} {rest : Bytes} (hb : b < 0x80) :
      FirstStretch [b] (some (Char.ofNat b.toNat)) rest
  | stray {b : UInt8} {rest : Bytes} (hb : ¬b < 0x80) (hlead : leadByte b = none) :
      FirstStretch [b] none rest
  | cutAfterOne {b low high : UInt8} {more : Nat} {rest : Bytes}
      (hlead : leadByte b = some (more, low, high)) (hrest : Stops low high rest) :
      FirstStretch [b] none rest
  | two {b b1 low high : UInt8} {rest : Bytes}
      (hlead : leadByte b = some (1, low, high)) (hb1 : low ≤ b1 ∧ b1 ≤ high) :
      FirstStretch [b, b1] (some (Char.ofNat (addBits (leadBits 1 b) b1))) rest
  | cutAfterTwo {b b1 low high : UInt8} {more : Nat} {rest : Bytes}
      (hlead : leadByte b = some (more, low, high)) (hb1 : low ≤ b1 ∧ b1 ≤ high)
      (hmore : more ≠ 1) (hrest : Stops 0x80 0xBF rest) :
      FirstStretch [b, b1] none rest
  | three {b b1 b2 low high : UInt8} {rest : Bytes}
      (hlead : leadByte b = some (2, low, high)) (hb1 : low ≤ b1 ∧ b1 ≤ high)
      (hb2 : isContinuation b2 = true) :
      FirstStretch [b, b1, b2] (some (Char.ofNat (addBits (addBits (leadBits 2 b) b1) b2))) rest
  | cutAfterThree {b b1 b2 low high : UInt8} {more : Nat} {rest : Bytes}
      (hlead : leadByte b = some (more, low, high)) (hb1 : low ≤ b1 ∧ b1 ≤ high)
      (hb2 : isContinuation b2 = true) (hmore : more ≠ 1 ∧ more ≠ 2)
      (hrest : Stops 0x80 0xBF rest) :
      FirstStretch [b, b1, b2] none rest
  | four {b b1 b2 b3 low high : UInt8} {more : Nat} {rest : Bytes}
      (hlead : leadByte b = some (more, low, high)) (hb1 : low ≤ b1 ∧ b1 ≤ high)
      (hb2 : isContinuation b2 = true) (hb3 : isContinuation b3 = true)
      (hmore : more ≠ 1 ∧ more ≠ 2) :
      FirstStretch [b, b1, b2, b3]
        (some (Char.ofNat (addBits (addBits (addBits (leadBits 3 b) b1) b2) b3))) rest

theorem isContinuation_iff (b : UInt8) : isContinuation b = true <-> 0x80 ≤ b ∧ b ≤ 0xBF := by
  rw [isContinuation, Bool.and_eq_true, decide_eq_true_eq, decide_eq_true_eq]

theorem leadByte_cases {b low high : UInt8} {more : Nat}
    (h : leadByte b = some (more, low, high)) :
    (more = 1 ∧ 0xC2 ≤ b.toNat ∧ b.toNat ≤ 0xDF ∧ low.toNat = 0x80 ∧ high.toNat = 0xBF) ∨
    (more = 2 ∧ 0xE0 ≤ b.toNat ∧ b.toNat ≤ 0xEF ∧ 0x80 ≤ low.toNat ∧ high.toNat ≤ 0xBF ∧
      (b.toNat = 0xE0 -> low.toNat = 0xA0) ∧ (b.toNat = 0xED -> high.toNat = 0x9F)) ∨
    (more = 3 ∧ 0xF0 ≤ b.toNat ∧ b.toNat ≤ 0xF4 ∧ 0x80 ≤ low.toNat ∧ high.toNat ≤ 0xBF ∧
      (b.toNat = 0xF0 -> low.toNat = 0x90) ∧ (b.toNat = 0xF4 -> high.toNat = 0x8F)) := by
  simp only [leadByte, UInt8.le_iff_toNat_le, ← UInt8.toNat_inj] at h
  -- the last case, which has no lead byte, goes away with its equation
  repeat' split at h
  all_goals cases h
  all_goals
    simp at *
    omega

theorem not_lt_of_leadByte {b low high : UInt8} {more : Nat}
    (h : leadByte b = some (more, low, high)) : ¬b < 0x80 := by
  intro hlt
  have hb : b.toNat < 0x80 := UInt8.lt_iff_toNat_lt.mp hlt
  rcases leadByte_cases h with h | h | h <;> omega

/-- Decoding begins with the first stretch and goes on after it. -/
theorem stretches_of_first {taken rest : Bytes} {o : Option Char}
    (h : FirstStretch taken o rest) : stretches (taken ++ rest) = o :: stretches rest := by
  cases h with
  | ascii hb => simp [stretches, hb]
  | stray hb hlead => simp [stretches, hb, hlead]
  | cutAfterOne hlead hrest =>
      have hb := not_lt_of_leadByte hlead
      cases rest with
      | nil => simp [stretches, hb, hlead]
      | cons x rest =>
          rw [List.singleton_append, stretches]
          simp [hb, hlead, hrest x rfl]
  | two hlead hb1 => simp [stretches, not_lt_of_leadByte hlead, hlead, hb1]
  | cutAfterTwo hlead hb1 hmore hrest =>
      have hb := not_lt_of_leadByte hlead
      cases rest with
      | nil => simp [stretches, hb, hlead, hb1, hmore]
      | cons x rest =>
          have hx := mt (isContinuation_iff x).mp (hrest x rfl)
          rw [List.cons_append, List.singleton_append, stretches]
          simp [hb, hlead, hb1, hmore, hx]
  | three hlead hb1 hb2 => simp [stretches, not_lt_of_leadByte hlead, hlead, hb1, hb2]
  | cutAfterThree hlead hb1 hb2 hmore hrest =>
      have hb := not_lt_of_leadByte hlead
      cases rest with
      | nil => simp [stretches, hb, hlead, hb1, hmore, hb2]
      | cons x rest =>
          have hx := mt (isContinuation_iff x).mp (hrest x rfl)
          rw [List.cons_append, List.cons_append, List.singleton_append, stretches]
          simp [hb, hlead, hb1, hmore, hb2, hx]
  | four hlead hb1 hb2 hb3 hmore =>
      simp [stretches, not_lt_of_leadByte hlead, hlead, hb1, hmore, hb2, hb3]

theorem exists_first (b : UInt8) (r : Bytes) :
    exists taken o rest, b :: r = taken ++ rest ∧ FirstStretch taken o rest := by
  by_cases hb : b < 0x80
  · exact ⟨[b], _, r, rfl, .ascii hb⟩
  cases hlead : leadByte b with
  | none => exact ⟨[b], none, r, rfl, .stray hb hlead⟩
  | some lead =>
      rcases lead with ⟨more, low, high⟩
      by_cases hone : Stops low high r
      · exact ⟨[b], none, r, rfl, .cutAfterOne hlead hone⟩
      rcases exists_of_not_stops hone with ⟨b1, r1, rfl, hb1⟩
      by_cases hmore1 : more = 1
      · rw [hmore1] at hlead
        exact ⟨[b, b1], _, r1, rfl, .two hlead hb1⟩
      by_cases htwo : Stops 0x80 0xBF r1
      · exact ⟨[b, b1], none, r1, rfl, .cutAfterTwo hlead hb1 hmore1 htwo⟩
      rcases exists_of_not_stops htwo with ⟨b2, r2, rfl, hb2⟩
      have hcont2 := (isContinuation_iff b2).mpr hb2
      by_cases hmore2 : more = 2
      · rw [hmore2] at hlead
        exact ⟨[b, b1, b2], _, r2, rfl, .three hlead hb1 hcont2⟩
      by_cases hthree : Stops 0x80 0xBF r2
      · exact ⟨[b, b1, b2], none, r2, rfl,
          .cutAfterThree hlead hb1 hcont2 ⟨hmore1, hmore2⟩ hthree⟩
      rcases exists_of_not_stops hthree with ⟨b3, r3, rfl, hb3⟩
      have hcont3 := (isContinuation_iff b3).mpr hb3
      exact ⟨[b, b1, b2, b3], _, r3, rfl, .four hlead hb1 hcont2 hcont3 ⟨hmore1, hmore2⟩⟩

theorem leadBits_one (b : UInt8) : leadBits 1 b = b.toNat % 32 := rfl

theorem leadBits_two (b : UInt8) : leadBits 2 b = b.toNat % 16 := rfl

theorem leadBits_three (b : UInt8) : leadBits 3 b = b.toNat % 8 := rfl

theorem toNat_ofNat {n : Nat} (h : n.isValidChar) : (Char.ofNat n).toNat = n := by
  rw [Char.ofNat, dif_pos h]
  rfl

/-- A stretch of several bytes does not give an ASCII character. -/
theorem FirstStretch.ascii_or_wide {taken rest : Bytes} {o : Option Char}
    (h : FirstStretch taken o rest) :
    (exists b, taken = [b] ∧ b < 0x80 ∧ o = some (Char.ofNat b.toNat)) ∨
      (taken ≠ [] ∧ forall d, o = some d -> 0x80 ≤ d.toNat) := by
  have hbounds {b low high : UInt8} (h : low ≤ b ∧ b ≤ high) :
      low.toNat ≤ b.toNat ∧ b.toNat ≤ high.toNat :=
    ⟨UInt8.le_iff_toNat_le.mp h.1, UInt8.le_iff_toNat_le.mp h.2⟩
  have hcontinuation {b : UInt8} (h : isContinuation b = true) : 0x80 ≤ b.toNat ∧ b.toNat ≤ 0xBF :=
    hbounds ((isContinuation_iff b).mp h)
  -- a well-formed stretch keeps clear of the surrogates and of what is no character at all
  have hwide {n : Nat} {d : Char} (hd : some (Char.ofNat n) = some d)
      (hn : 0x80 ≤ n ∧ (n < 0xD800 ∨ 0xDFFF < n ∧ n < 0x110000)) : 0x80 ≤ d.toNat := by
    cases hd
    rw [toNat_ofNat hn.2]
    exact hn.1
  cases h with
  | ascii hb => exact Or.inl ⟨_, rfl, hb, rfl⟩
  | stray hb hlead => exact Or.inr ⟨List.cons_ne_nil _ _, fun d hd => nomatch hd⟩
  | cutAfterOne hlead hrest => exact Or.inr ⟨List.cons_ne_nil _ _, fun d hd => nomatch hd⟩
  | cutAfterTwo hlead hb1 hmore hrest => exact Or.inr ⟨List.cons_ne_nil _ _, fun d hd => nomatch hd⟩
  | cutAfterThree hlead hb1 hb2 hmore hrest =>
      exact Or.inr ⟨List.cons_ne_nil _ _, fun d hd => nomatch hd⟩
  | two hlead hb1 =>
      have h1 := hbounds hb1
      have hlead := leadByte_cases hlead
      refine Or.inr ⟨List.cons_ne_nil _ _, fun d hd => hwide hd ?_⟩
      rw [addBits, leadBits_one]
      omega
  | three hlead hb1 hb2 =>
      have h1 := hbounds hb1
      have h2 := hcontinuation hb2
      have hlead := leadByte_cases hlead
      refine Or.inr ⟨List.cons_ne_nil _ _, fun d hd => hwide hd ?_⟩
      rw [addBits, addBits, leadBits_two]
      omega
  | four hlead hb1 hb2 hb3 hmore =>
      have h1 := hbounds hb1
      have h2 := hcontinuation hb2
      have h3 := hcontinuation hb3
      have hlead := leadByte_cases hlead
      refine Or.inr ⟨List.cons_ne_nil _ _, fun d hd => hwide hd ?_⟩
      rw [addBits, addBits, addBits, leadBits_three]
      omega

/-! ## ASCII bytes -/

theorem stops_append_ascii {low high c : UInt8} {rest : Bytes} (h : Stops low high rest)
    (hlow : 0x80 ≤ low.toNat) (hc : c < 0x80) (tail : Bytes) :
    Stops low high (rest ++ c :: tail) := by
  intro x hx
  cases rest with
  | nil =>
      cases hx
      intro hfits
      have hfirst : low.toNat ≤ c.toNat := UInt8.le_iff_toNat_le.mp hfits.1
      have hascii : c.toNat < 0x80 := UInt8.lt_iff_toNat_lt.mp hc
      omega
  | cons y rest => exact h x hx

theorem FirstStretch.append_ascii {taken rest : Bytes} {o : Option Char} {c : UInt8}
    (h : FirstStretch taken o rest) (hc : c < 0x80) (tail : Bytes) :
    FirstStretch taken o (rest ++ c :: tail) := by
  have hcontinuation {rest : Bytes} (hrest : Stops 0x80 0xBF rest) :
      Stops 0x80 0xBF (rest ++ c :: tail) :=
    stops_append_ascii hrest (Nat.le_refl 0x80) hc tail
  cases h with
  | ascii hb => exact .ascii hb
  | stray hb hlead => exact .stray hb hlead
  | cutAfterOne hlead hrest =>
      refine .cutAfterOne hlead (stops_append_ascii hrest ?_ hc tail)
      have hlead := leadByte_cases hlead
      omega
  | two hlead hb1 => exact .two hlead hb1
  | cutAfterTwo hlead hb1 hmore hrest => exact .cutAfterTwo hlead hb1 hmore (hcontinuation hrest)
  | three hlead hb1 hb2 => exact .three hlead hb1 hb2
  | cutAfterThree hlead hb1 hb2 hmore hrest =>
      exact .cutAfterThree hlead hb1 hb2 hmore (hcontinuation hrest)
  | four hlead hb1 hb2 hb3 hmore => exact .four hlead hb1 hb2 hb3 hmore

def chars (bytes : Bytes) : List Char := (stretches bytes).map fun c => c.getD replacement

theorem toList_decodeLenient (bytes : Bytes) : (decodeLenient bytes).toList = chars bytes :=
  String.toList_ofList

theorem chars_ascii_cons {b : UInt8} (hb : b < 0x80) (rest : Bytes) :
    chars (b :: rest) = Char.ofNat b.toNat :: chars rest := by
  have hfirst := @stretches_of_first [b] rest _ (.ascii hb)
  rw [chars, ← List.singleton_append, hfirst]
  rfl

theorem chars_cons_cases (b : UInt8) (r : Bytes) :
    b < 0x80 ∨
      exists taken rest d, b :: r = taken ++ rest ∧ rest.length ≤ r.length ∧ 0x80 ≤ d.toNat ∧
        chars (b :: r) = d :: chars rest ∧
        forall c tail, c < 0x80 -> chars (taken ++ (rest ++ c :: tail)) =
          d :: chars (rest ++ c :: tail) := by
  rcases exists_first b r with ⟨taken, o, rest, heq, hfirst⟩
  cases hfirst.ascii_or_wide with
  | inl hascii =>
      rcases hascii with ⟨a, rfl, ha, _ho⟩
      cases heq
      exact Or.inl ha
  | inr hwide =>
      rcases hwide with ⟨hne, ho⟩
      have hchars {rest : Bytes} (hfirst : FirstStretch taken o rest) :
          chars (taken ++ rest) = o.getD replacement :: chars rest := by
        rw [chars, stretches_of_first hfirst]
        rfl
      refine Or.inr ⟨taken, rest, o.getD replacement, heq, ?_, ?_, ?_, ?_⟩
      · have hlength := congrArg List.length heq
        have htaken := List.length_pos_iff.mpr hne
        rw [List.length_cons, List.length_append] at hlength
        omega
      · cases o with
        | none => exact Nat.le_of_ble_eq_true rfl
        | some d => exact ho d rfl
      · rw [heq]
        exact hchars hfirst
      · intro c tail hc
        exact hchars (hfirst.append_ascii hc tail)

theorem chars_eq_nil {bytes : Bytes} (h : chars bytes = []) : bytes = [] := by
  cases bytes with
  | nil => rfl
  | cons b r =>
      cases chars_cons_cases b r with
      | inl hb =>
          rw [chars_ascii_cons hb] at h
          cases h
      | inr hwide =>
          rcases hwide with ⟨taken, rest, d, _heq, _hlength, _hd, hchars, _htail⟩
          rw [hchars] at h
          cases h

/-- Decoding can be done on both sides of an ASCII byte by itself. -/
theorem chars_append_ascii (before : Bytes) {c : UInt8} (hc : c < 0x80) (after : Bytes) :
    chars (before ++ c :: after) = chars before ++ Char.ofNat c.toNat :: chars after := by
  cases before with
  | nil => exact chars_ascii_cons hc after
  | cons b r =>
      cases chars_cons_cases b r with
      | inl hb =>
          rw [List.cons_append, chars_ascii_cons hb, chars_ascii_cons hb,
            chars_append_ascii r hc after]
          rfl
      | inr hwide =>
          rcases hwide with ⟨taken, rest, d, heq, hlength, _hd, hchars, htail⟩
          rw [hchars, heq, List.append_assoc, htail c after hc, chars_append_ascii rest hc after]
          rfl
termination_by before.length

theorem eq_cons_of_chars_eq_cons {bytes : Bytes} {d : Char} {others : List Char}
    (hd : d.toNat < 0x80) (h : chars bytes = d :: others) :
    exists rest, bytes = UInt8.ofNat d.toNat :: rest ∧ chars rest = others := by
  cases bytes with
  | nil => cases h
  | cons b r =>
      cases chars_cons_cases b r with
      | inl hb =>
          rw [chars_ascii_cons hb] at h
          cases h
          have hlt : b.toNat < 0x80 := UInt8.lt_iff_toNat_lt.mp hb
          refine ⟨r, ?_, rfl⟩
          rw [toNat_ofNat (Or.inl (Nat.lt_trans hlt (by decide))), UInt8.ofNat_toNat]
      | inr hwide =>
          rcases hwide with ⟨taken, rest, e, _heq, _hlength, he, hchars, _htail⟩
          rw [hchars] at h
          cases h
          exact absurd hd (Nat.not_lt.mpr he)

theorem exists_split_of_chars_eq {bytes : Bytes} {d : Char} {before others : List Char}
    (hd : d.toNat < 0x80) (h : chars bytes = before ++ d :: others) :
    exists pre rest, bytes = pre ++ UInt8.ofNat d.toNat :: rest ∧ chars rest = others := by
  induction before generalizing bytes with
  | nil =>
      rcases eq_cons_of_chars_eq_cons hd h with ⟨rest, heq, hrest⟩
      exact ⟨[], rest, heq, hrest⟩
  | cons e before ih =>
      cases bytes with
      | nil => cases h
      | cons b r =>
          cases chars_cons_cases b r with
          | inl hb =>
              rw [chars_ascii_cons hb] at h
              rcases ih (List.cons.inj h).2 with ⟨pre, rest, heq, hrest⟩
              exact ⟨b :: pre, rest, by rw [heq, List.cons_append], hrest⟩
          | inr hwide =>
              rcases hwide with ⟨taken, left, f, hbytes, _hlength, _hf, hchars, _htail⟩
              rw [hchars] at h
              rcases ih (List.cons.inj h).2 with ⟨pre, rest, heq, hrest⟩
              exact ⟨taken ++ pre, rest, by rw [hbytes, heq, List.append_assoc], hrest⟩

theorem not_mem_chars {bytes : Bytes} {d : Char} (hd : d.toNat < 0x80)
    (h : UInt8.ofNat d.toNat ∉ bytes) : d ∉ chars bytes := by
  intro hmem
  rcases List.append_of_mem hmem with ⟨before, others, heq⟩
  rcases exists_split_of_chars_eq hd heq with ⟨pre, rest, hbytes, _hrest⟩
  rw [hbytes] at h
  exact h (List.mem_append_right pre List.mem_cons_self)

/-! ## ASCII phrases -/

theorem byte_of_ascii {c : Char} (hc : c.toNat < 0x80) :
    UInt8.ofNat c.toNat < 0x80 ∧ Char.ofNat (UInt8.ofNat c.toNat).toNat = c := by
  have hbyte : (UInt8.ofNat c.toNat).toNat = c.toNat :=
    UInt8.toNat_ofNat_of_lt' (Nat.lt_trans hc (by decide))
  rw [UInt8.lt_iff_toNat_lt, hbyte]
  exact ⟨hc, Char.ofNat_toNat c⟩

theorem encode_ascii {phrase : String} (hascii : forall c, c ∈ phrase.toList -> c.toNat < 0x80) :
    encode phrase = phrase.toList.map fun c => UInt8.ofNat c.toNat := by
  rw [encode]
  generalize phrase.toList = cs at hascii
  induction cs with
  | nil => rfl
  | cons c cs ih =>
      have hc : c.toNat ≤ 0x7F := Nat.le_of_lt_succ (hascii c List.mem_cons_self)
      have hone : String.utf8EncodeChar c = [UInt8.ofNat c.toNat] := by
        simp [String.utf8EncodeChar, hc]
      rw [List.flatMap_cons, hone, ih (fun d hd => hascii d (List.mem_cons_of_mem c hd))]
      rfl

theorem chars_phrase_append {phrase : List Char} (hascii : forall c, c ∈ phrase -> c.toNat < 0x80)
    (rest : Bytes) :
    chars ((phrase.map fun c => UInt8.ofNat c.toNat) ++ rest) = phrase ++ chars rest := by
  induction phrase with
  | nil => rfl
  | cons c phrase ih =>
      rcases byte_of_ascii (hascii c List.mem_cons_self) with ⟨hlt, hbyte⟩
      rw [List.map_cons, List.cons_append, chars_ascii_cons hlt, hbyte,
        ih (fun d hd => hascii d (List.mem_cons_of_mem c hd))]
      rfl

theorem eq_append_of_chars_eq_append {phrase : List Char}
    (hascii : forall c, c ∈ phrase -> c.toNat < 0x80) {bytes : Bytes} {others : List Char}
    (h : chars bytes = phrase ++ others) :
    exists rest, bytes = (phrase.map fun c => UInt8.ofNat c.toNat) ++ rest := by
  induction phrase generalizing bytes with
  | nil => exact ⟨bytes, rfl⟩
  | cons c phrase ih =>
      rcases eq_cons_of_chars_eq_cons (hascii c List.mem_cons_self) h with ⟨left, rfl, hleft⟩
      rcases ih (fun d hd => hascii d (List.mem_cons_of_mem c hd)) hleft with ⟨rest, hrest⟩
      exact ⟨rest, by rw [hrest, List.map_cons, List.cons_append]⟩

/-- A phrase of ASCII characters stands in a decoded text exactly where its bytes stand. -/
theorem contains_decodeLenient {phrase : String}
    (hascii : forall c, c ∈ phrase.toList -> c.toNat < 0x80) (hne : phrase.toList ≠ [])
    (bytes : Bytes) : contains phrase (decodeLenient bytes) = holds (encode phrase) bytes := by
  rw [contains, toList_decodeLenient, encode_ascii hascii, Bool.eq_iff_iff, holds_iff, holds_iff]
  cases hphrase : phrase.toList with
  | nil => exact absurd hphrase hne
  | cons c others =>
      rw [hphrase] at hascii
      have hc := hascii c List.mem_cons_self
      have hothers : forall d, d ∈ others -> d.toNat < 0x80 := by
        intro d hd
        exact hascii d (List.mem_cons_of_mem c hd)
      constructor
      · intro h
        rcases h with ⟨before, after, heq⟩
        rw [List.append_assoc] at heq
        rcases exists_split_of_chars_eq hc heq with ⟨pre, left, hbytes, hleft⟩
        rcases eq_append_of_chars_eq_append hothers hleft with ⟨rest, hrest⟩
        refine ⟨pre, rest, ?_⟩
        rw [hbytes, hrest, List.append_assoc]
        rfl
      · intro h
        rcases h with ⟨pre, rest, rfl⟩
        -- the first character cuts the bytes; the rest of the phrase follows it
        rcases byte_of_ascii hc with ⟨hlt, hbyte⟩
        refine ⟨chars pre, chars rest, ?_⟩
        rw [List.map_cons, List.append_assoc, List.cons_append, chars_append_ascii pre hlt, hbyte,
          chars_phrase_append hothers, List.append_assoc]
        rfl

end Text
end AnalysisHarness
