import Mathlib.Algebra.Ring.Nat
import Mathlib.Data.List.Basic
import ThreatIntel.Proofs.Text.Items
import ThreatIntel.Proofs.Text.Marks
import ThreatIntel.Text.Base64

/-!
# Texts in base 64

A text in base 64 states bytes bit by bit: its digits hold six bits each, which are the bits of the
bytes and fewer than six zeros behind them, and equals signs fill it up to groups of four. Main
statement: reading accepts the texts that state bytes and no others, and every row of bytes is
stated by one text alone, the one that is written for it.
-/

namespace ThreatIntel
namespace Text
namespace Base64

/-! ## Bits -/

/-- The lowest bits of a number, the highest of them first. -/
def bits : Nat → Nat → List Bool
  | 0, _ => []
  | width + 1, n => n.testBit width :: bits width n

@[simp] theorem length_bits (width n : Nat) : (bits width n).length = width := by
  induction width with
  | zero => rfl
  | succ width inductionHypothesis => rw [bits, List.length_cons, inductionHypothesis]

/-- What stands above the bits does not show in them. -/
theorem bits_of_le
    {width high low : Nat}
    (below : low < 2 ^ high)
    (fits : width ≤ high)
    (n : Nat) :
    bits width (2 ^ high * n + low) = bits width low := by
  induction width with
  | zero => rfl
  | succ width inductionHypothesis =>
      rw [bits, bits, inductionHypothesis (by omega), Nat.testBit_two_pow_mul_add n below,
        if_pos (by omega)]

/-- The bits of a number above those of another are the bits of both, one after the other. -/
theorem bits_append
    {width : Nat}
    {low : Nat}
    (below : low < 2 ^ width)
    (more n : Nat) :
    bits (more + width) (2 ^ width * n + low) = bits more n ++ bits width low := by
  induction more with
  | zero =>
      rw [Nat.zero_add, bits_of_le below (le_refl width)]
      rfl
  | succ more inductionHypothesis =>
      rw [Nat.add_right_comm, bits, inductionHypothesis, Nat.testBit_two_pow_mul_add n below,
        if_neg (by omega), Nat.add_sub_cancel]
      rfl

theorem testBit_of_bits_eq
    {width m n : Nat}
    (same : bits width m = bits width n)
    {place : Nat}
    (inside : place < width) :
    m.testBit place = n.testBit place := by
  induction width with
  | zero => omega
  | succ width inductionHypothesis =>
      obtain ⟨first, rest⟩ := List.cons.inj same
      rcases Nat.lt_succ_iff_lt_or_eq.mp inside with lower | rfl
      · exact inductionHypothesis rest lower
      · exact first

/-- A number that fits into its bits is known from them. -/
theorem bits_eq_iff
    {width m n : Nat}
    (left : m < 2 ^ width)
    (right : n < 2 ^ width) :
    bits width m = bits width n ↔ m = n := by
  constructor
  · intro same
    apply Nat.eq_of_testBit_eq
    intro place
    by_cases inside : place < width
    · exact testBit_of_bits_eq same inside
    · have powers : 2 ^ width ≤ 2 ^ place := Nat.pow_le_pow_right (by omega) (by omega)
      rw [Nat.testBit_lt_two_pow (by omega : m < 2 ^ place),
        Nat.testBit_lt_two_pow (by omega : n < 2 ^ place)]
  · rintro rfl
    rfl

theorem bits_zero (width : Nat) : bits width 0 = List.replicate width false := by
  induction width with
  | zero => rfl
  | succ width inductionHypothesis =>
      rw [bits, inductionHypothesis, Nat.zero_testBit, List.replicate_succ]

/-! ## Digits -/

/-- Only the six lowest bits of a number are written. -/
theorem digit_mod (n : Nat) : digit (n % 64) = digit n := by
  rw [digit, digit, Nat.mod_mod]

theorem digit_of_mod
    {m n : Nat}
    (same : m % 64 = n) :
    digit m = digit n := by
  rw [← same, digit_mod]

/-- The value of a written digit is read back. -/
theorem value?_digit (n : Nat) : value? (digit n) = some (n % 64) := by
  have every : ∀ k < 64, value? (digit k) = some k := by decide +kernel
  rw [← digit_mod]
  exact every _ (Nat.mod_lt n (by omega))

/-- A written digit is neither a blank nor an equals sign. -/
theorem digit_plain (n : Nat) : digit n ≠ '=' ∧ isBlank (digit n) = false := by
  have every : ∀ k < 64, digit k ≠ '=' ∧ isBlank (digit k) = false := by
    decide +kernel
  rw [← digit_mod]
  exact every _ (Nat.mod_lt n (by omega))

theorem toNat_lt_of_value?
    {c : Char}
    {n : Nat}
    (reads : value? c = some n) :
    c.toNat < 128 := by
  have bound {last : Char} (before : c ≤ last) (small : last.toNat < 128) : c.toNat < 128 :=
    lt_of_le_of_lt (UInt32.le_iff_toNat_le.mp before) small
  unfold value? at reads
  split at reads
  · next inside => exact bound inside.2 (by decide)
  · split at reads
    · next inside => exact bound inside.2 (by decide)
    · split at reads
      · next inside => exact bound inside.2 (by decide)
      · split at reads
        · next same =>
            rw [same]
            decide
        · split at reads
          · next same =>
              rw [same]
              decide
          · cases reads

/-- A character has a value if it is the digit that is written for it. -/
theorem value?_eq_some_iff
    {c : Char}
    {n : Nat} :
    value? c = some n ↔ n < 64 ∧ c = digit n := by
  constructor
  · intro reads
    have known : ∀ n ∈ value? c, n < 64 ∧ c = digit n := by
      apply holds_of_table (toNat_lt_of_value? reads)
      decide +kernel
    exact known n reads
  · rintro ⟨small, rfl⟩
    rw [value?_digit, Nat.mod_eq_of_lt small]

/-! ## Stated bytes -/

/-- The digits of a text hold bytes and some zeros, and equals signs fill the text up. -/
structure Spells (digits : List Nat) (zeros fill : Nat) (text : List Char) (bytes : List UInt8) :
    Prop where
  /-- The digits hold six bits each. -/
  small : ∀ value ∈ digits, value < 64
  /-- The bits of the digits are those of the bytes, and zeros behind them. -/
  holds : digits.flatMap (bits 6) =
    bytes.flatMap (fun byte => bits 8 byte.toNat) ++ List.replicate zeros false
  /-- There are no more zeros than are needed for a whole digit. -/
  few : zeros < 6
  /-- The text is the row of the digits, and equals signs behind them. -/
  written : text = digits.map digit ++ List.replicate fill '='
  /-- The text is made up of groups of four. -/
  grouped : text.length % 4 = 0
  /-- There are no more equals signs than are needed for a whole group. -/
  short : fill < 4

/-- A text states bytes in the standard form, with all equals signs and no other bits. -/
def Denotes (text : List Char) (bytes : List UInt8) : Prop :=
  ∃ digits zeros fill, Spells digits zeros fill text bytes

theorem length_flatMap_of_length
    {width : Nat}
    {row : α → List Bool}
    (each : ∀ value, (row value).length = width)
    (values : List α) :
    (values.flatMap row).length = width * values.length := by
  induction values with
  | nil => rfl
  | cons value values inductionHypothesis =>
      rw [List.flatMap_cons, List.length_append, inductionHypothesis, each, List.length_cons,
        Nat.mul_add, Nat.mul_one, Nat.add_comm]

section Spells

variable
  {digits : List Nat}
  {zeros fill : Nat}
  {text : List Char}
  {bytes : List UInt8}

/-- There are six bits for each digit and eight for each byte, and as many equals signs as are
missing from a group. -/
theorem Spells.counts (spells : Spells digits zeros fill text bytes) :
    6 * digits.length = 8 * bytes.length + zeros ∧ zeros < 6 ∧
      (digits.length + fill) % 4 = 0 ∧ fill < 4 := by
  have lengths := congrArg List.length spells.holds
  have grouped := spells.grouped
  rw [List.length_append, length_flatMap_of_length (length_bits 6),
    length_flatMap_of_length fun byte : UInt8 => length_bits 8 byte.toNat,
    List.length_replicate] at lengths
  rw [spells.written, List.length_append, List.length_map, List.length_replicate] at grouped
  exact ⟨lengths, spells.few, grouped, spells.short⟩

end Spells

/-- Two rows of bits are one row, of a number made of both. -/
theorem bits_join
    (size total : Nat)
    {width more n low : Nat}
    (power : 2 ^ width = size)
    (sum : more + width = total)
    (below : low < size) :
    bits more n ++ bits width low = bits total (n * size + low) := by
  subst power sum
  rw [Nat.mul_comm, bits_append below]

section Groups

variable
  {w x y z : Nat}
  {a b c : UInt8}

/-- The digits of a whole group hold three bytes. -/
theorem holds_three_iff (smallW : w < 64) (smallX : x < 64) (smallY : y < 64) (smallZ : z < 64) :
    bits 6 w ++ (bits 6 x ++ (bits 6 y ++ bits 6 z)) =
        bits 8 a.toNat ++ (bits 8 b.toNat ++ bits 8 c.toNat) ↔
      ((w * 64 + x) * 64 + y) * 64 + z = (a.toNat * 256 + b.toNat) * 256 + c.toNat := by
  have boundA := a.toNat_lt
  have boundB := b.toNat_lt
  have boundC := c.toNat_lt
  rw [← List.append_assoc, ← List.append_assoc, bits_join 64 12 rfl rfl smallX,
    bits_join 64 18 rfl rfl smallY,
    bits_join 64 24 rfl rfl smallZ, ← List.append_assoc,
    bits_join 256 16 rfl rfl boundB,
    bits_join 256 24 rfl rfl boundC, bits_eq_iff (by omega) (by omega)]

/-- Three digits hold two bytes and two zeros. -/
theorem holds_two_iff (smallW : w < 64) (smallX : x < 64) (smallY : y < 64) :
    bits 6 w ++ (bits 6 x ++ bits 6 y) =
        bits 8 a.toNat ++ (bits 8 b.toNat ++ List.replicate 2 false) ↔
      (w * 64 + x) * 64 + y = (a.toNat * 256 + b.toNat) * 4 := by
  have boundA := a.toNat_lt
  have boundB := b.toNat_lt
  rw [← List.append_assoc, bits_join 64 12 rfl rfl smallX,
    bits_join 64 18 rfl rfl smallY, ← List.append_assoc,
    bits_join 256 16 rfl rfl boundB, ← bits_zero,
    bits_join 4 18 rfl rfl (by omega), bits_eq_iff (by omega) (by omega),
    Nat.add_zero]

/-- Two digits hold one byte and four zeros. -/
theorem holds_one_iff (smallW : w < 64) (smallX : x < 64) :
    bits 6 w ++ bits 6 x = bits 8 a.toNat ++ List.replicate 4 false ↔
      w * 64 + x = a.toNat * 16 := by
  have bound := a.toNat_lt
  rw [bits_join 64 12 rfl rfl smallX, ← bits_zero,
    bits_join 16 12 rfl rfl (by omega), bits_eq_iff (by omega) (by omega),
    Nat.add_zero]

/-- The digits of a whole group are those that hold its bytes. -/
theorem encode_three
    (smallW : w < 64) (smallX : x < 64) (smallY : y < 64) (smallZ : z < 64)
    (number : ((w * 64 + x) * 64 + y) * 64 + z = (a.toNat * 256 + b.toNat) * 256 + c.toNat)
    (rest : List UInt8) :
    encode (a :: b :: c :: rest) = digit w :: digit x :: digit y :: digit z :: encode rest := by
  rw [encode, ← number]
  generalize held : ((w * 64 + x) * 64 + y) * 64 + z = n
  have first : digit (n / 262144) = digit w := digit_of_mod (by omega)
  have second : digit (n / 4096) = digit x := digit_of_mod (by omega)
  have third : digit (n / 64) = digit y := digit_of_mod (by omega)
  have fourth : digit n = digit z := digit_of_mod (by omega)
  rw [first, second, third, fourth]

theorem encode_two
    (smallW : w < 64) (smallX : x < 64) (smallY : y < 64)
    (number : (w * 64 + x) * 64 + y = (a.toNat * 256 + b.toNat) * 4) :
    encode [a, b] = [digit w, digit x, digit y, '='] := by
  rw [encode, ← number]
  generalize held : (w * 64 + x) * 64 + y = n
  have first : digit (n / 4096) = digit w := digit_of_mod (by omega)
  have second : digit (n / 64) = digit x := digit_of_mod (by omega)
  have third : digit n = digit y := digit_of_mod (by omega)
  rw [first, second, third]

theorem encode_one
    (smallW : w < 64) (smallX : x < 64)
    (number : w * 64 + x = a.toNat * 16) :
    encode [a] = [digit w, digit x, '=', '='] := by
  rw [encode, ← number]
  generalize held : w * 64 + x = n
  have first : digit (n / 64) = digit w := digit_of_mod (by omega)
  have second : digit n = digit x := digit_of_mod (by omega)
  rw [first, second]

end Groups

/-! ## Written texts -/

/-- The text that is written for bytes states them. -/
theorem denotes_encode (bytes : List UInt8) : Denotes (encode bytes) bytes := by
  fun_induction encode bytes with
  | case1 => exact ⟨[], 0, 0, ⟨nofun, rfl, by omega, rfl, rfl, by omega⟩⟩
  | case2 a n =>
      have bound := a.toNat_lt
      have held := (holds_one_iff (w := n / 64) (x := n % 64) (a := a) (by omega) (by omega)).mpr
        (by omega)
      refine ⟨[n / 64, n % 64], 4, 2, ?_, by simpa using held, by omega, ?_, by simp, by omega⟩
      · simp only [List.forall_mem_cons]
        exact ⟨by omega, by omega, nofun⟩
      · simp [digit_mod, n]
  | case3 a b n =>
      have boundA := a.toNat_lt
      have boundB := b.toNat_lt
      have held := (holds_two_iff (w := n / 4096) (x := n / 64 % 64) (y := n % 64) (a := a) (b := b)
        (by omega) (by omega) (by omega)).mpr (by omega)
      refine ⟨[n / 4096, n / 64 % 64, n % 64], 2, 1, ?_, by simpa using held, by omega, ?_, by simp,
        by omega⟩
      · simp only [List.forall_mem_cons]
        exact ⟨by omega, by omega, by omega, nofun⟩
      · simp [digit_mod, n]
  | case4 a b c rest n inductionHypothesis =>
      have boundA := a.toNat_lt
      have boundB := b.toNat_lt
      have boundC := c.toNat_lt
      obtain ⟨digits, zeros, fill, spells⟩ := inductionHypothesis
      have held := (holds_three_iff (w := n / 262144) (x := n / 4096 % 64) (y := n / 64 % 64)
        (z := n % 64) (a := a) (b := b) (c := c) (by omega) (by omega) (by omega) (by omega)).mpr
        (by omega)
      refine ⟨n / 262144 :: n / 4096 % 64 :: n / 64 % 64 :: n % 64 :: digits, zeros, fill, ?_, ?_,
        spells.few, ?_, ?_, spells.short⟩
      · simp only [List.forall_mem_cons]
        exact ⟨by omega, by omega, by omega, by omega, spells.small⟩
      · simp only [List.flatMap_cons, spells.holds]
        simpa using congrArg (· ++ (rest.flatMap (fun byte => bits 8 byte.toNat) ++
          List.replicate zeros false)) held
      · simp [digit_mod, n, spells.written]
      · have grouped := spells.grouped
        simp only [List.length_cons]
        omega

/-- Bytes are stated by one text alone. -/
theorem Spells.eq_encode
    {digits : List Nat}
    {zeros fill : Nat}
    {text : List Char}
    {bytes : List UInt8}
    (spells : Spells digits zeros fill text bytes) :
    text = encode bytes := by
  induction bytes using encode.induct generalizing digits text with
  | case1 =>
      obtain ⟨lengths, few, grouped, short⟩ := spells.counts
      rw [List.length_nil] at lengths
      obtain rfl := List.length_eq_zero_iff.mp (by omega : digits.length = 0)
      rw [List.length_nil] at grouped
      obtain rfl : fill = 0 := by omega
      exact spells.written
  | case2 a =>
      obtain ⟨lengths, few, grouped, short⟩ := spells.counts
      rw [List.length_singleton] at lengths
      obtain ⟨w, x, rfl⟩ := List.length_eq_two.mp (by omega : digits.length = 2)
      rw [List.length_cons, List.length_singleton] at grouped lengths
      obtain rfl : zeros = 4 := by omega
      obtain rfl : fill = 2 := by omega
      obtain ⟨smallW, smallX⟩ : w < 64 ∧ x < 64 := by simpa using spells.small
      rw [spells.written, encode_one smallW smallX
        ((holds_one_iff smallW smallX).mp (by simpa using spells.holds))]
      rfl
  | case3 a b =>
      obtain ⟨lengths, few, grouped, short⟩ := spells.counts
      rw [List.length_cons, List.length_singleton] at lengths
      obtain ⟨w, x, y, rfl⟩ := List.length_eq_three.mp (by omega : digits.length = 3)
      rw [List.length_cons, List.length_cons, List.length_singleton] at grouped lengths
      obtain rfl : zeros = 2 := by omega
      obtain rfl : fill = 1 := by omega
      obtain ⟨smallW, smallX, smallY⟩ : w < 64 ∧ x < 64 ∧ y < 64 := by simpa using spells.small
      rw [spells.written, encode_two smallW smallX smallY
        ((holds_two_iff smallW smallX smallY).mp (by simpa using spells.holds))]
      rfl
  | case4 a b c rest inductionHypothesis =>
      obtain ⟨lengths, few, grouped, short⟩ := spells.counts
      rw [List.length_cons, List.length_cons, List.length_cons] at lengths
      rcases digits with _ | ⟨w, _ | ⟨x, _ | ⟨y, _ | ⟨z, digits⟩⟩⟩⟩
      iterate 4 exact absurd lengths (by simp; omega)
      obtain ⟨smallW, smallX, smallY, smallZ, small⟩ :
          w < 64 ∧ x < 64 ∧ y < 64 ∧ z < 64 ∧ ∀ value ∈ digits, value < 64 := by
        simpa using spells.small
      have holds : (bits 6 w ++ (bits 6 x ++ (bits 6 y ++ bits 6 z))) ++ digits.flatMap (bits 6) =
          (bits 8 a.toNat ++ (bits 8 b.toNat ++ bits 8 c.toNat)) ++
            (rest.flatMap (fun byte => bits 8 byte.toNat) ++ List.replicate zeros false) := by
        simpa using spells.holds
      obtain ⟨group, others⟩ := List.append_inj holds (by simp)
      have behind :
          Spells digits zeros fill (digits.map digit ++ List.replicate fill '=') rest := by
        refine ⟨small, others, few, rfl, ?_, short⟩
        simp only [List.length_cons] at grouped
        simp only [List.length_append, List.length_map, List.length_replicate]
        omega
      rw [spells.written, encode_three smallW smallX smallY smallZ
        ((holds_three_iff smallW smallX smallY smallZ).mp group), ← inductionHypothesis behind]
      rfl

/-- A text states bytes if it is the one that is written for them. -/
theorem denotes_iff
    {text : List Char}
    {bytes : List UInt8} :
    Denotes text bytes ↔ text = encode bytes := by
  constructor
  · rintro ⟨digits, zeros, fill, spells⟩
    exact spells.eq_encode
  · rintro rfl
    exact denotes_encode bytes

/-! ## Reading -/

theorem ofNat_of_mod
    (byte : UInt8)
    {n : Nat}
    (same : n % 256 = byte.toNat) :
    UInt8.ofNat n = byte := by
  apply UInt8.toNat_inj.mp
  rw [UInt8.toNat_ofNat']
  exact same

section Groups

variable
  {w x y z : Nat}
  {a b c : UInt8}

/-- A whole group is read to the bytes that its digits hold. -/
theorem decode?_three
    (smallW : w < 64) (smallX : x < 64) (smallY : y < 64) (smallZ : z < 64)
    (number : ((w * 64 + x) * 64 + y) * 64 + z = (a.toNat * 256 + b.toNat) * 256 + c.toNat)
    (rest : List Char) :
    decode? (digit w :: digit x :: digit y :: digit z :: rest) =
      (decode? rest).map fun bytes => a :: b :: c :: bytes := by
  have boundA := a.toNat_lt
  have boundB := b.toNat_lt
  have boundC := c.toNat_lt
  have first : UInt8.ofNat ((((w * 64 + x) * 64 + y) * 64 + z) / 65536) = a :=
    ofNat_of_mod _ (by omega)
  have second : UInt8.ofNat ((((w * 64 + x) * 64 + y) * 64 + z) / 256) = b :=
    ofNat_of_mod _ (by omega)
  have third : UInt8.ofNat (((w * 64 + x) * 64 + y) * 64 + z) = c := ofNat_of_mod _ (by omega)
  rw [decode?]
  · simp only [value?_digit, Nat.mod_eq_of_lt smallW, Nat.mod_eq_of_lt smallX,
      Nat.mod_eq_of_lt smallY, Nat.mod_eq_of_lt smallZ, Option.bind_eq_bind, Option.bind_some,
      first, second, third, Option.map_eq_bind, Function.comp_def]
  · exact fun _ equals => absurd equals (digit_plain z).1
  · exact fun equals => absurd equals (digit_plain z).1

/-- A group with one equals sign is read to two bytes if no more bits are set. -/
theorem decode?_two (smallW : w < 64) (smallX : x < 64) (smallY : y < 64) :
    decode? [digit w, digit x, digit y, '='] = some [a, b] ↔
      (w * 64 + x) * 64 + y = (a.toNat * 256 + b.toNat) * 4 := by
  have boundA := a.toNat_lt
  have boundB := b.toNat_lt
  have read : decode? [digit w, digit x, digit y, '='] =
      if ((w * 64 + x) * 64 + y) % 4 = 0 then
        some [UInt8.ofNat (((w * 64 + x) * 64 + y) / 1024),
          UInt8.ofNat (((w * 64 + x) * 64 + y) / 4)]
      else none := by
    rw [decode?]
    · simp only [value?_digit, Nat.mod_eq_of_lt smallW, Nat.mod_eq_of_lt smallX,
        Nat.mod_eq_of_lt smallY, Option.bind_eq_bind, Option.bind_some]
    · exact fun equals => absurd equals (digit_plain y).1
  rw [read]
  constructor
  · intro accepted
    obtain ⟨zeros, same⟩ := Option.ite_none_right_eq_some.mp accepted
    obtain ⟨rfl, behind⟩ := List.cons.inj (Option.some.inj same)
    obtain ⟨rfl, -⟩ := List.cons.inj behind
    rw [UInt8.toNat_ofNat', UInt8.toNat_ofNat']
    omega
  · intro number
    rw [if_pos (by omega), ofNat_of_mod a (by omega), ofNat_of_mod b (by omega)]

/-- A group with two equals signs is read to one byte if no more bits are set. -/
theorem decode?_one (smallW : w < 64) (smallX : x < 64) :
    decode? [digit w, digit x, '=', '='] = some [a] ↔ w * 64 + x = a.toNat * 16 := by
  have bound := a.toNat_lt
  have read : decode? [digit w, digit x, '=', '='] =
      if (w * 64 + x) % 16 = 0 then some [UInt8.ofNat ((w * 64 + x) / 16)] else none := by
    rw [decode?]
    simp only [value?_digit, Nat.mod_eq_of_lt smallW, Nat.mod_eq_of_lt smallX, Option.bind_eq_bind,
      Option.bind_some]
  rw [read]
  constructor
  · intro accepted
    obtain ⟨zeros, same⟩ := Option.ite_none_right_eq_some.mp accepted
    obtain ⟨rfl, -⟩ := List.cons.inj (Option.some.inj same)
    rw [UInt8.toNat_ofNat']
    omega
  · intro number
    rw [if_pos (by omega), ofNat_of_mod a (by omega)]

end Groups

/-- The text that is written for bytes is read back. -/
theorem decode?_encode (bytes : List UInt8) : decode? (encode bytes) = some bytes := by
  induction bytes using encode.induct with
  | case1 => rfl
  | case2 a =>
      have bound := a.toNat_lt
      have smallW : a.toNat / 4 < 64 := by omega
      have smallX : a.toNat % 4 * 16 < 64 := by omega
      have number : a.toNat / 4 * 64 + a.toNat % 4 * 16 = a.toNat * 16 := by omega
      rw [encode_one smallW smallX number]
      exact (decode?_one smallW smallX).mpr number
  | case3 a b =>
      have boundA := a.toNat_lt
      have boundB := b.toNat_lt
      have smallW : a.toNat / 4 < 64 := by omega
      have smallX : a.toNat % 4 * 16 + b.toNat / 16 < 64 := by omega
      have smallY : b.toNat % 16 * 4 < 64 := by omega
      have number : (a.toNat / 4 * 64 + (a.toNat % 4 * 16 + b.toNat / 16)) * 64 +
          b.toNat % 16 * 4 = (a.toNat * 256 + b.toNat) * 4 := by omega
      rw [encode_two smallW smallX smallY number]
      exact (decode?_two smallW smallX smallY).mpr number
  | case4 a b c rest inductionHypothesis =>
      have boundA := a.toNat_lt
      have boundB := b.toNat_lt
      have boundC := c.toNat_lt
      have smallW : a.toNat / 4 < 64 := by omega
      have smallX : a.toNat % 4 * 16 + b.toNat / 16 < 64 := by omega
      have smallY : b.toNat % 16 * 4 + c.toNat / 64 < 64 := by omega
      have smallZ : c.toNat % 64 < 64 := by omega
      have number : ((a.toNat / 4 * 64 + (a.toNat % 4 * 16 + b.toNat / 16)) * 64 +
          (b.toNat % 16 * 4 + c.toNat / 64)) * 64 + c.toNat % 64 =
          (a.toNat * 256 + b.toNat) * 256 + c.toNat := by omega
      rw [encode_three smallW smallX smallY smallZ number,
        decode?_three smallW smallX smallY smallZ number, inductionHypothesis, Option.map_some]

/-- A text that is read is the one that is written for its bytes. -/
theorem eq_encode_of_decode?
    {text : List Char}
    {bytes : List UInt8}
    (reads : decode? text = some bytes) :
    text = encode bytes := by
  induction text using decode?.induct generalizing bytes with
  | case1 =>
      cases reads
      rfl
  | case2 first second =>
      have parts := reads
      simp only [decode?, Option.bind_eq_bind, Option.bind_eq_some_iff, value?_eq_some_iff,
        Option.ite_none_right_eq_some] at parts
      obtain ⟨w, ⟨smallW, rfl⟩, x, ⟨smallX, rfl⟩, -, same⟩ := parts
      cases same
      exact (encode_one smallW smallX ((decode?_one smallW smallX).mp reads)).symm
  | case3 first second third other =>
      have parts := reads
      simp only [decode?.eq_3 _ _ _ other, Option.bind_eq_bind, Option.bind_eq_some_iff,
        value?_eq_some_iff, Option.ite_none_right_eq_some] at parts
      obtain ⟨w, ⟨smallW, rfl⟩, x, ⟨smallX, rfl⟩, y, ⟨smallY, rfl⟩, -, same⟩ := parts
      cases same
      exact (encode_two smallW smallX smallY ((decode?_two smallW smallX smallY).mp reads)).symm
  | case4 first second third fourth rest noTwo noOne inductionHypothesis =>
      simp only [decode?.eq_4 _ _ _ _ _ noTwo noOne, Option.bind_eq_bind, Option.bind_eq_some_iff,
        value?_eq_some_iff] at reads
      obtain ⟨w, ⟨smallW, rfl⟩, x, ⟨smallX, rfl⟩, y, ⟨smallY, rfl⟩, z, ⟨smallZ, rfl⟩, others,
        readOthers, same⟩ := reads
      cases same
      rw [inductionHypothesis readOthers]
      refine (encode_three smallW smallX smallY smallZ ?_ others).symm
      rw [UInt8.toNat_ofNat', UInt8.toNat_ofNat', UInt8.toNat_ofNat']
      omega
  | case5 text notEmpty notTwo notOne noGroup =>
      rw [decode?.eq_5 text notEmpty notTwo notOne noGroup] at reads
      cases reads

/-- Reading accepts the texts that state bytes, and no others. -/
theorem decode?_eq_some_iff
    {text : List Char}
    {bytes : List UInt8} :
    decode? text = some bytes ↔ Denotes text bytes := by
  rw [denotes_iff]
  constructor
  · exact eq_encode_of_decode?
  · rintro rfl
    exact decode?_encode bytes

/-- There is no blank in a text that states bytes. -/
theorem Denotes.isBlank_eq_false
    {text : List Char}
    {bytes : List UInt8}
    (denotes : Denotes text bytes) :
    ∀ c ∈ text, isBlank c = false := by
  obtain ⟨digits, zeros, fill, spells⟩ := denotes
  intro c member
  rw [spells.written, List.mem_append, List.mem_map] at member
  rcases member with ⟨value, -, rfl⟩ | equals
  · exact (digit_plain value).2
  · rw [List.eq_of_mem_replicate equals]
    decide

theorem trim_encode (bytes : List UInt8) : trim (encode bytes) = encode bytes := by
  have visible := (denotes_encode bytes).isBlank_eq_false
  have trimmed : IsTrimmed (encode bytes) :=
    ⟨fun c head => visible c (List.mem_of_mem_head? head),
      fun c last => visible c (List.mem_of_mem_getLast? last)⟩
  simpa using @trim_padded [] _ [] nofun trimmed nofun

end Base64
end Text
end ThreatIntel
