import AnalysisHarness.Decimal.Layout
import AnalysisHarness.Proofs.Decimal.Shortest

/-!
# Written numbers are read back

In whatever layout a double-precision number is written, its text is a number of the grammar, with
a sign, a fraction and an exponent or without them, and it stands for the number.
-/

namespace AnalysisHarness
namespace Decimal

open Binary64

/-!
## Reading numbers
-/

def exponentValue : Option (Bool × List Char) -> Int
  | none => 0
  | some (negative, ds) => if negative then -(digitsValue ds : Int) else digitsValue ds

theorem readExponent_written {exponent : Option (Bool × List Char)} {text : List Char}
    (h : ExponentWritten exponent text) : readExponent text = some (exponentValue exponent) := by
  cases h with
  | none => rfl
  | digits hmark hsign hdigits =>
      rename_i mark negative sign ds
      have hread := readSign_of_written hsign hdigits []
      have hspan : spanDigits (ds ++ []) = (ds, []) := spanDigits_append hdigits.digits rfl
      rw [List.append_nil] at hread hspan
      rw [readExponent, if_pos hmark, hread]
      dsimp only
      rw [hspan]
      dsimp only
      rw [if_neg]
      · rfl
      · rintro (hempty | hrest)
        · exact hdigits.isEmpty_ne_true hempty
        · cases hrest

theorem endsDigits_fraction_exponent {fraction fractionText exponentText : List Char}
    {exponent : Option (Bool × List Char)} (hfraction : FractionWritten fraction fractionText)
    (hexponent : ExponentWritten exponent exponentText) :
    endsDigits (fractionText ++ exponentText) = true := by
  cases hfraction with
  | digits _ => rfl
  | none =>
      cases hexponent with
      | none => rfl
      | digits hmark _ _ => rcases hmark with rfl | rfl <;> rfl

/-- A number is worth its digits, with the point moved by the exponent. -/
theorem readUnsigned_written {whole fraction fractionText exponentText : List Char}
    {exponent : Option (Bool × List Char)} (hwhole : Numeral whole)
    (hfraction : FractionWritten fraction fractionText)
    (hexponent : ExponentWritten exponent exponentText) (negative : Bool) :
    readUnsigned negative (whole ++ (fractionText ++ exponentText)) =
      some (Literal.toBinary64
        ⟨negative, digitsValue (whole ++ fraction), exponentValue exponent - fraction.length⟩) := by
  have hread := readExponent_written hexponent
  have hsome : ¬(whole.isEmpty = true ∧ fraction.isEmpty = true) :=
    fun hempty => hwhole.isEmpty_ne_true hempty.1
  unfold readUnsigned
  rw [spanDigits_append hwhole.digits (endsDigits_fraction_exponent hfraction hexponent)]
  cases hfraction with
  | digits hdigits =>
      have hspan := spanDigits_append hdigits.digits
        (endsDigits_fraction_exponent .none hexponent)
      rw [List.nil_append] at hspan
      simp only [List.cons_append, hspan, if_neg hsome, hread, Option.map_some]
  | none =>
      rw [List.nil_append]
      dsimp only
      split
      · -- an exponent does not begin with a point
        cases hexponent with
        | digits hmark _ _ => exact absurd hmark (by decide)
      · dsimp only
        rw [if_neg hsome, hread]
        rfl

theorem toLower_of_isDigit {c : Char} (h : c.isDigit = true) : c.toLower = c := by
  simp only [Char.isDigit, Bool.and_eq_true, decide_eq_true_eq, ge_iff_le,
    UInt32.le_iff_toNat_le] at h
  unfold Char.toLower
  split
  · rename_i hupper
    simp only [ge_iff_le, UInt32.le_iff_toNat_le] at hupper
    have hnine : '9'.val.toNat = 57 := rfl
    have hletter : 'A'.val.toNat = 65 := rfl
    omega
  · rfl

theorem ne_name {c : Char} {name : String} (h : name.toList.head? ≠ some c.toLower)
    (rest : List Char) : String.ofList (lowerAll (c :: rest)) ≠ name := by
  intro heq
  rw [← heq, String.toList_ofList] at h
  exact h rfl

theorem ne_name_of_numeral {whole : List Char} (h : Numeral whole) (name : String)
    (hname : name.toList.head?.any Char.isDigit = false) (rest : List Char) :
    String.ofList (lowerAll (whole ++ rest)) ≠ name := by
  cases whole with
  | nil => exact absurd rfl h.nonempty
  | cons d ds =>
      have hd := h.digits d List.mem_cons_self
      apply ne_name
      intro hhead
      rw [hhead, Option.any_some, toLower_of_isDigit hd, hd] at hname
      cases hname

theorem read_eq_none {c : Char} {rest : List Char}
    (hsign : readSign (c :: rest) = (false, c :: rest)) (hdigit : c.isDigit = false)
    (hpoint : c ≠ '.') (hinf : c.toLower ≠ 'i')
    (hnan : c.toLower ≠ 'n') : read (c :: rest) = none := by
  have hends : endsDigits (c :: rest) = true := by rw [endsDigits, hdigit, Bool.not_false]
  have hspan : spanDigits ([] ++ c :: rest) = ([], c :: rest) :=
    spanDigits_append (List.forall_mem_nil _) hends
  rw [List.nil_append] at hspan
  have hnames : forall {name : String} {letter : Char}, c.toLower ≠ letter ->
      name.toList.head? = some letter -> String.ofList (lowerAll (c :: rest)) ≠ name := by
    intro name letter hne hhead
    apply ne_name
    rw [hhead]
    exact fun heq => hne (Option.some.inj heq).symm
  unfold read
  rw [hsign]
  dsimp only
  rw [if_neg (fun h => h.elim (hnames hinf rfl) (hnames hinf rfl)), if_neg (hnames hnan rfl)]
  unfold readUnsigned
  rw [hspan]
  dsimp only
  split
  · rename_i hcons
    cases hcons
    exact absurd rfl hpoint
  · rfl

/-- A number with or without a sign is worth what its digits are worth. -/
theorem read_written {negative : Bool} {sign whole fraction fractionText exponentText : List Char}
    {exponent : Option (Bool × List Char)} (hsign : SignWritten negative sign)
    (hwhole : Numeral whole) (hfraction : FractionWritten fraction fractionText)
    (hexponent : ExponentWritten exponent exponentText) :
    read (sign ++ (whole ++ (fractionText ++ exponentText))) =
      some (Literal.toBinary64
        ⟨negative, digitsValue (whole ++ fraction), exponentValue exponent - fraction.length⟩) := by
  have hinf := ne_name_of_numeral hwhole "inf" rfl (fractionText ++ exponentText)
  have hinfinity := ne_name_of_numeral hwhole "infinity" rfl
    (fractionText ++ exponentText)
  have hnan := ne_name_of_numeral hwhole "nan" rfl (fractionText ++ exponentText)
  unfold read
  rw [readSign_of_written hsign hwhole]
  dsimp only
  rw [if_neg (fun h => h.elim hinf hinfinity), if_neg hnan]
  exact readUnsigned_written hwhole hfraction hexponent negative

/-!
## Layouts
-/

/-- A text without a sign that stands for digits with a power of ten, whatever sign is added. -/
def StandsFor (text : List Char) (d : Nat) (k : Int) : Prop :=
  forall ⦃negative : Bool⦄ ⦃sign : List Char⦄, SignWritten negative sign ->
    read (sign ++ text) = some (Literal.toBinary64 ⟨negative, d, k⟩)

theorem standsFor_of_point {whole fraction : List Char} (hwhole : Numeral whole)
    (hfraction : Numeral fraction) {d : Nat} (hd : digitsValue (whole ++ fraction) = d) {k : Int}
    (hk : k = -fraction.length) : StandsFor (whole ++ '.' :: fraction) d k := by
  intro negative sign hsign
  have hread := read_written hsign hwhole (.digits hfraction) .none
  rw [List.append_nil, hd, exponentValue, Int.zero_sub, ← hk] at hread
  exact hread

theorem isDigit_of_mem_zeros {n : Nat} {c : Char} (h : c ∈ zeros n) : c.isDigit = true := by
  rw [List.eq_of_mem_replicate h]
  rfl

theorem numeral_zero : Numeral ['0'] := ⟨List.cons_ne_nil _ _, List.forall_mem_singleton.mpr rfl⟩

theorem standsFor_behind {d n : Nat} (hd : 0 < d) {k : Int} (hk : (n : Int) = k) :
    StandsFor (Nat.toDigits 10 d ++ zeros n ++ ".0".toList) d k := by
  intro negative sign hsign
  have hwhole : Numeral (Nat.toDigits 10 d ++ zeros n) :=
    (numeral_toDigits d).append fun _ hc => isDigit_of_mem_zeros hc
  have hvalue : digitsValue (Nat.toDigits 10 d ++ zeros n ++ ['0']) = d * 10 ^ (n + 1) := by
    rw [List.append_assoc, zeros, ← List.replicate_succ', digitsValue_append,
      digitsValue_toDigits, digitsValue_replicate_zero, List.length_replicate, Nat.add_zero]
  have hread := standsFor_of_point hwhole numeral_zero hvalue rfl hsign
  have hplace : -((['0'].length : Nat) : Int) + ((n + 1 : Nat) : Int) = k := by
    rw [List.length_singleton]
    omega
  rw [Literal.toBinary64_mul_pow hd, hplace] at hread
  exact hread

theorem standsFor_between {d n : Nat} (hpos : 0 < n) (hn : n < (Nat.toDigits 10 d).length)
    {k : Int} (hk : -(n : Int) = k) :
    StandsFor ((Nat.toDigits 10 d).take ((Nat.toDigits 10 d).length - n) ++
      '.' :: (Nat.toDigits 10 d).drop ((Nat.toDigits 10 d).length - n)) d k := by
  have hdigits := numeral_toDigits d
  apply standsFor_of_point (hdigits.take (Nat.sub_pos_of_lt hn))
    (hdigits.drop (Nat.sub_lt (Nat.zero_lt_of_lt hn) hpos))
  · rw [List.take_append_drop, digitsValue_toDigits]
  · rw [List.length_drop]
    omega

theorem standsFor_before {d n : Nat} (hn : (Nat.toDigits 10 d).length ≤ n) {k : Int}
    (hk : -(n : Int) = k) :
    StandsFor ("0.".toList ++ zeros (n - (Nat.toDigits 10 d).length) ++ Nat.toDigits 10 d) d
      k := by
  have hdigits := numeral_toDigits d
  have hfraction : Numeral (zeros (n - (Nat.toDigits 10 d).length) ++ Nat.toDigits 10 d) := by
    constructor
    · exact List.append_ne_nil_of_right_ne_nil _ hdigits.nonempty
    · exact List.forall_mem_append.mpr ⟨fun _ hc => isDigit_of_mem_zeros hc, hdigits.digits⟩
  apply standsFor_of_point numeral_zero hfraction
  · rw [digitsValue_append, digitsValue_append, zeros, digitsValue_replicate_zero,
      digitsValue_toDigits]
    simp [digitsValue]
  · rw [List.length_append, zeros, List.length_replicate]
    omega

/-- Digits set positionally stand for the number that they are set for. -/
theorem standsFor_setPositional {d : Nat} (hd : 0 < d) (k : Int) :
    StandsFor (setPositional (Nat.toDigits 10 d) k) d k := by
  unfold setPositional
  split
  · rename_i hk
    exact standsFor_behind hd (Int.toNat_of_nonneg hk)
  · rename_i hk
    have hplaces : -(((-k).toNat : Nat) : Int) = k := by omega
    dsimp only
    split
    · rename_i hinside
      exact standsFor_between (by omega) hinside hplaces
    · rename_i hoverhang
      exact standsFor_before (Nat.le_of_not_lt hoverhang) hplaces

theorem signWritten_leading (leading : Int) :
    SignWritten (decide (leading < 0)) [if leading < 0 then '-' else '+'] := by
  by_cases h : leading < 0
  · rw [if_pos h, decide_eq_true h]
    exact .minus
  · rw [if_neg h, decide_eq_false h]
    exact .plus

theorem exponentValue_leading (leading : Int) :
    exponentValue (some (decide (leading < 0), Nat.toDigits 10 leading.natAbs)) = leading := by
  rw [exponentValue, digitsValue_toDigits]
  by_cases h : leading < 0
  · rw [if_pos (decide_eq_true h)]
    omega
  · rw [if_neg (by simp [h])]
    omega

theorem fractionWritten_rest {ds : List Char} (h : forall c, c ∈ ds -> c.isDigit = true) :
    FractionWritten ds (if ds.isEmpty then [] else '.' :: ds) := by
  cases ds with
  | nil => exact .none
  | cons d ds => exact .digits ⟨List.cons_ne_nil _ _, h⟩

theorem standsFor_setScientific {d : Nat} {k leading : Int}
    (hleading : leading = k + (Nat.toDigits 10 d).length - 1) :
    StandsFor (setScientific (Nat.toDigits 10 d) leading) d k := by
  intro negative sign hsign
  have hdigits := numeral_toDigits d
  unfold setScientific
  cases hd : Nat.toDigits 10 d with
  | nil => exact absurd hd Nat.toDigits_ne_nil
  | cons c ds =>
      rw [hd] at hdigits hleading
      rcases List.forall_mem_cons.mp hdigits.digits with ⟨hfirst, hmore⟩
      have hwhole : Numeral [c] := ⟨List.cons_ne_nil _ _, List.forall_mem_singleton.mpr hfirst⟩
      have hexponent := ExponentWritten.digits (Or.inl rfl) (signWritten_leading leading)
        (numeral_toDigits leading.natAbs)
      have hread := read_written hsign hwhole (fractionWritten_rest hmore) hexponent
      have hvalue : digitsValue ([c] ++ ds) = d := by
        rw [List.singleton_append, ← hd, digitsValue_toDigits]
      have hplace : leading - (ds.length : Int) = k := by
        rw [List.length_cons] at hleading
        omega
      rw [hvalue, exponentValue_leading, hplace] at hread
      dsimp only [List.take, List.drop]
      rw [List.append_assoc]
      exact hread

/-!
## Written numbers
-/

theorem ofUnits_sign {m e m' e' : Nat} (h : ofUnits false m e = finite false m' e')
    (negative : Bool) : ofUnits negative m e = finite negative m' e' := by
  unfold ofUnits at h ⊢
  split at h
  · rename_i hcarry
    rw [if_pos hcarry]
    split at h
    · cases h
    · rename_i hmax
      cases h
      exact if_neg hmax
  · rename_i hcarry
    rw [if_neg hcarry]
    split at h
    · cases h
    · rename_i hmax
      cases h
      exact if_neg hmax

theorem toBinary64_sign {d m e : Nat} {k : Int}
    (h : Literal.toBinary64 ⟨false, d, k⟩ = finite false m e) (negative : Bool) :
    Literal.toBinary64 ⟨negative, d, k⟩ = finite negative m e := by
  unfold Literal.toBinary64 at h ⊢
  dsimp only at h ⊢
  by_cases hzero : d = 0
  · rw [if_pos hzero] at h ⊢
    cases h
    rfl
  rw [if_neg hzero] at h ⊢
  by_cases hhigh : 400 < k + Literal.size d
  · rw [if_pos hhigh] at h
    cases h
  rw [if_neg hhigh] at h ⊢
  by_cases hlow : k + Literal.size d < -400
  · rw [if_pos hlow] at h ⊢
    cases h
    rfl
  rw [if_neg hlow] at h ⊢
  by_cases hk : 0 ≤ k
  · rw [if_pos hk] at h ⊢
    exact ofUnits_sign h negative
  · rw [if_neg hk] at h ⊢
    exact ofUnits_sign h negative

/-- A number in a layout is read back. -/
theorem read_write (l : Layout) {d : Binary64} (h : d.Canonical) : read (l.write d) = some d := by
  cases d with
  | nan => rfl
  | infinite negative => cases negative <;> rfl
  | finite negative m e =>
      have hsign : SignWritten negative (if negative then ['-'] else []) := by
        cases negative with
        | true => exact .minus
        | false => exact .none
      rw [Layout.write, Layout.magnitude]
      by_cases hm : m = 0
      · rcases h with ⟨_hm, he, _hmax⟩
        have hzero : e = 0 := he.resolve_right (by rw [hm]; decide)
        rw [if_pos hm, hm, hzero]
        cases negative <;> rfl
      · rw [if_neg hm]
        rcases toBinary64_shortest (Nat.pos_of_ne_zero hm) h with ⟨hshortest, hpos⟩
        rw [← toBinary64_sign hshortest negative]
        generalize (if negative then ['-'] else []) = sign at hsign ⊢
        dsimp only
        split
        · exact standsFor_setPositional hpos _ hsign
        · exact standsFor_setScientific rfl hsign

/-!
## The characters of written numbers
-/

def Solid (cs : List Char) : Prop := forall c, c ∈ cs -> Text.isBlank c = false

instance (cs : List Char) : Decidable (Solid cs) :=
  List.decidableBAll (fun c => Text.isBlank c = false) cs

theorem Solid.append {cs ds : List Char} (h : Solid cs) (h' : Solid ds) : Solid (cs ++ ds) :=
  List.forall_mem_append.mpr ⟨h, h'⟩

theorem Solid.cons {c : Char} {cs : List Char} (hc : Text.isBlank c = false) (h : Solid cs) :
    Solid (c :: cs) :=
  List.forall_mem_cons.mpr ⟨hc, h⟩

theorem solid_toDigits (n : Nat) : Solid (Nat.toDigits 10 n) :=
  fun _ hc => isBlank_eq_false_of_isDigit (isDigit_of_mem_toDigits hc)

theorem solid_zeros (n : Nat) : Solid (zeros n) :=
  fun _ hc => isBlank_eq_false_of_isDigit (isDigit_of_mem_zeros hc)

theorem Solid.take {cs : List Char} (h : Solid cs) (n : Nat) : Solid (cs.take n) :=
  fun c hc => h c (List.mem_of_mem_take hc)

theorem Solid.drop {cs : List Char} (h : Solid cs) (n : Nat) : Solid (cs.drop n) :=
  fun c hc => h c (List.mem_of_mem_drop hc)

theorem solid_setPositional {ds : List Char} (h : Solid ds) (k : Int) :
    Solid (setPositional ds k) := by
  have hpoint : Solid ".0".toList := by decide
  have hzero : Solid "0.".toList := by decide
  unfold setPositional
  split
  · exact (h.append (solid_zeros _)).append hpoint
  · dsimp only
    split
    · exact (h.take _).append ((h.drop _).cons rfl)
    · exact (hzero.append (solid_zeros _)).append h

theorem solid_setScientific {ds : List Char} (h : Solid ds) (leading : Int) :
    Solid (setScientific ds leading) := by
  unfold setScientific
  dsimp only
  apply Solid.append
  · apply (h.take 1).append
    split
    · exact nofun
    · exact (h.drop 1).cons rfl
  · apply Solid.cons rfl
    apply Solid.cons _ (solid_toDigits _)
    split <;> rfl

theorem solid_write (l : Layout) (d : Binary64) : Solid (l.write d) := by
  cases d with
  | nan =>
      have hname : Solid "nan".toList := by decide
      exact hname
  | infinite negative =>
      have hname : Solid (if negative then "-inf".toList else "inf".toList) := by
        cases negative <;> decide
      exact hname
  | finite negative m e =>
      have hsign : Solid (if negative then ['-'] else []) := by
        cases negative <;> decide
      apply hsign.append
      unfold Layout.magnitude
      split
      · have hzero : Solid "0.0".toList := by decide
        exact hzero
      · dsimp only
        split
        · exact solid_setPositional (solid_toDigits _) _
        · exact solid_setScientific (solid_toDigits _) _

end Decimal
end AnalysisHarness
