import ThreatIntel.Proofs.Url.Kinds

/-!
# Blanks behind machines and paths

A blank or a control behind the name of a machine makes it another name or none at all, and behind a
path it makes a longer one. So an address that goes on behind a blank never goes on as the address
in front of the blank would.
-/

namespace ThreatIntel

theorem Text.cutAt_append_of_notMem
    {separator : Char}
    {front : List Char}
    (absent : separator ∉ front)
    (rest : List Char) :
    cutAt separator (front ++ rest) =
      (front ++ (cutAt separator rest).1, (cutAt separator rest).2) := by
  induction front with
  | nil => rfl
  | cons c front inductionHypothesis =>
      obtain ⟨other, behind⟩ := not_or.mp (mt List.mem_cons.mpr absent)
      rw [List.cons_append, cutAt_cons_of_ne (Ne.symm other), inductionHypothesis behind]
      rfl

namespace Url

/-! ## Cutting a longer machine -/

theorem cutAtLast_append
    {separator : Char}
    {more : List Char}
    (absent : separator ∉ more)
    (cs : List Char) :
    cutAtLast separator (cs ++ more) =
      ((cutAtLast separator cs).1, (cutAtLast separator cs).2 ++ more) := by
  unfold cutAtLast
  rw [List.reverse_append, Text.cutAt_append_of_notMem (by simpa using absent)]
  rcases Text.cutAt separator cs.reverse with ⟨back, _ | front⟩
  · rfl
  · simp

theorem cutService_of_notMem
    {more : List Char}
    (absent : ':' ∉ more)
    (inBrackets : Bool) :
    cutService inBrackets more = (more, none) := by
  induction more generalizing inBrackets with
  | nil => rfl
  | cons c rest inductionHypothesis =>
      obtain ⟨other, behind⟩ := not_or.mp (mt List.mem_cons.mpr absent)
      rw [cutService, if_neg fun both => other both.1.symm, inductionHypothesis behind]

/-- What stands behind a machine belongs to its service number, if it has one, or to its name. -/
theorem cutService_append
    {more : List Char}
    (absent : ':' ∉ more)
    (inBrackets : Bool)
    (cs : List Char) :
    cutService inBrackets (cs ++ more) =
      ((cutService inBrackets cs).1 ++ if (cutService inBrackets cs).2.isSome then [] else more,
        (cutService inBrackets cs).2.map (· ++ more)) := by
  induction cs generalizing inBrackets with
  | nil => rw [List.nil_append, cutService_of_notMem absent]; rfl
  | cons c rest inductionHypothesis =>
      rw [List.cons_append, cutService, cutService]
      split
      · rfl
      · rw [inductionHypothesis]
        rfl

/-! ## Controls in the names of machines -/

/-- A byte of ASCII is the code of its character. -/
theorem toNat_of_mem_utf8EncodeChar
    {c : Char}
    {byte : UInt8}
    (member : byte ∈ String.utf8EncodeChar c)
    (ascii : byte.toNat < 128) :
    c.toNat = byte.toNat := by
  have code : c.toNat = c.val.toNat := rfl
  have greater : ∀ n, 128 ≤ n → n < 256 → byte ≠ UInt8.ofNat n := by
    intro n lower upper same
    rw [same, UInt8.toNat_ofNat', Nat.mod_eq_of_lt upper] at ascii
    omega
  unfold String.utf8EncodeChar at member
  dsimp only at member
  split at member
  · rw [List.mem_singleton.mp member, UInt8.toNat_ofNat']
    omega
  -- All bytes of a longer code are greater.
  · exfalso
    split at member
    · simp only [List.mem_cons, List.not_mem_nil, or_false] at member
      rcases member with same | same <;> exact greater _ (by omega) (by omega) same
    · split at member
      · simp only [List.mem_cons, List.not_mem_nil, or_false] at member
        rcases member with same | same | same <;> exact greater _ (by omega) (by omega) same
      · simp only [List.mem_cons, List.not_mem_nil, or_false] at member
        rcases member with same | same | same | same <;>
          exact greater _ (by omega) (by omega) same

/-- A control is decoded as it is. -/
theorem mem_decodeBytes_of_control
    {c : Char}
    (control : isControl c = true)
    {cs : List Char}
    (member : c ∈ cs) :
    UInt8.ofNat c.toNat ∈ decodeBytes cs := by
  have noDigit := (isControl_spec control).2.2.1
  have noPercent : c ≠ '%' := ne_of_isControl control rfl
  have code : UInt8.ofNat c.toNat ∈ String.utf8EncodeChar c := by
    have small : c.val.toNat ≤ 0x20 := of_decide_eq_true control
    unfold String.utf8EncodeChar
    dsimp only
    rw [if_pos (by omega)]
    exact List.mem_singleton_self _
  fun_induction decodeBytes cs with
  | case1 a b rest high low first second inductionHypothesis =>
      have apart : c ≠ a ∧ c ≠ b := by
        constructor <;>
        · rintro rfl
          simp_all
      simp only [List.mem_cons, noPercent, apart.1, apart.2, false_or] at member
      exact List.mem_cons_of_mem _ (inductionHypothesis member)
  | case2 a b rest others inductionHypothesis =>
      rcases List.mem_cons.mp member with percent | behind
      · exact absurd percent noPercent
      · exact List.mem_cons_of_mem _ (inductionHypothesis behind)
  | case3 d rest other inductionHypothesis =>
      rcases List.mem_cons.mp member with rfl | behind
      · exact List.mem_append_left _ code
      · exact List.mem_append_right _ (inductionHypothesis behind)
  | case4 => cases member

/-- The bytes that are read as a text are the bytes of the text. -/
theorem bytes_of_textOf?
    {bytes : List UInt8}
    {text : String}
    (read : textOf? bytes = some text) :
    bytes = text.toList.flatMap String.utf8EncodeChar := by
  have same : text.toByteArray = ⟨bytes.toArray⟩ := by
    unfold textOf? String.fromUTF8? at read
    split at read
    · cases read
      rfl
    · cases read
  have own : text.toByteArray = (text.toList.flatMap String.utf8EncodeChar).toByteArray := by
    conv =>
      lhs
      rw [← String.ofList_toList (s := text)]
    exact String.toByteArray_ofList
  have arrays := congrArg (fun bytes => bytes.data.toList) (same.symm.trans own)
  simpa using arrays

/-- No domain holds a control. -/
theorem readDomain_of_control
    {cs : List Char}
    (held : ∃ c ∈ cs, isControl c = true) :
    readDomain cs = .error .invalidDomain := by
  obtain ⟨c, member, control⟩ := held
  have byte := mem_decodeBytes_of_control control member
  unfold readDomain
  cases read : textOf? (decodeBytes cs) with
  | none => rfl
  | some text =>
      have small : c.toNat ≤ 0x20 := of_decide_eq_true control
      rw [bytes_of_textOf? read] at byte
      obtain ⟨d, inside, coded⟩ := List.mem_flatMap.mp byte
      have same := toNat_of_mem_utf8EncodeChar coded (by rw [UInt8.toNat_ofNat']; omega)
      rw [UInt8.toNat_ofNat', Nat.mod_eq_of_lt (by omega)] at same
      have low : isControl d = true := decide_eq_true (same ▸ small)
      obtain ⟨caseless, -, -, forbidden⟩ := isControl_spec low
      have stays : d ∈ Text.lower text.toList := Text.mem_lowerAfter (by omega) caseless inside []
      have any : (Text.lower text.toList).any isForbiddenInDomain = true :=
        List.any_eq_true.mpr ⟨d, stays, forbidden⟩
      simp [any]

section

variable
  {blanks : List Char}
  (controls : ∀ c ∈ blanks, isControl c = true)
  (nonempty : blanks ≠ [])

include controls nonempty

theorem exists_control (cs : List Char) : ∃ c ∈ (cs ++ blanks).getLast?, isControl c = true := by
  refine ⟨blanks.getLast nonempty, ?_, controls _ (List.getLast_mem nonempty)⟩
  rw [List.getLast?_append, List.getLast?_eq_some_getLast nonempty]
  rfl

/-- A name with controls at its end is a machine only where it is taken as it is. -/
theorem readHost_append_blanks
    {special : Bool}
    {cs : List Char}
    {host : Host}
    (read : readHost special (cs ++ blanks) = .ok host) :
    special = false ∧ host = .domain (encode inControls (cs ++ blanks)) := by
  obtain ⟨c, last, control⟩ := exists_control controls nonempty cs
  unfold readHost at read
  split at read
  · have open? : ¬(cs ++ blanks).getLast? = some ']' := by
      intro bracket
      cases last.symm.trans bracket
      exact absurd control (by decide)
    rw [readBracketed, if_neg open?] at read
    cases read
  · split at read
    · rw [readDomain_of_control ⟨c, List.mem_of_getLast? last, control⟩] at read
      cases read
    · next ordinary =>
        split at read
        · cases read
        · cases read
          exact ⟨Bool.eq_false_iff.mpr ordinary, rfl⟩

/-- A name with controls at its end is not the machine of a file. -/
theorem readFileHost_append_blanks
    {cs : List Char}
    {authority : Authority} :
    readFileHost (cs ++ blanks) ≠ .ok authority := by
  intro read
  rw [readFileHost, if_neg (by simp [nonempty])] at read
  cases found : readHost true (cs ++ blanks) with
  | error fault => simp [found, bind, Except.bind] at read
  | ok host => cases (readHost_append_blanks controls nonempty found).1

/-- No number of a service ends with a control. -/
theorem readService_append_blanks
    {usual service : Option Nat}
    {cs : List Char} :
    readService usual (cs ++ blanks) ≠ .ok service := by
  obtain ⟨c, last, control⟩ := exists_control controls nonempty cs
  have noDigits : Text.readNat? (cs ++ blanks) = none := by
    refine if_neg fun digits => ?_
    have all := List.all_eq_true.mp (Bool.and_eq_true_iff.mp digits).2 c (List.mem_of_getLast? last)
    rw [(isControl_spec control).2.1] at all
    cases all
  rw [readService, if_neg (by simp [nonempty]), noDigits]
  rintro ⟨⟩

omit controls nonempty in
/-- A machine that is taken as it is spelled has its name from there. -/
theorem name_of_readHost
    {cs name : List Char}
    (read : readHost false cs = .ok (.domain name)) :
    name = encode inControls cs := by
  unfold readHost at read
  split at read
  · unfold readBracketed at read
    split at read
    · split at read <;> cases read
    · cases read
  · rw [if_neg (by decide)] at read
    split at read
    · cases read
    · cases read
      rfl

omit controls nonempty in
/-- No machine is named, or there is one, with a service number that can be read. -/
theorem readAuthority_cases
    {special : Option (Option Nat)}
    {cs : List Char}
    {authority : Authority}
    (read : readAuthority special cs = .ok authority) :
    cutService false (cutAtLast '@' cs).2 = ([], none) ∧ authority.host = none ∨
      ∃ host service, authority.host = some host ∧
        readHost special.isSome (cutService false (cutAtLast '@' cs).2).1 = .ok host ∧
          readService special.join ((cutService false (cutAtLast '@' cs).2).2.getD []) =
            .ok service := by
  unfold readAuthority at read
  generalize cutAtLast '@' cs = parts at read
  obtain ⟨user, machine⟩ := parts
  dsimp only at read
  generalize cutService false machine = parts at read
  obtain ⟨name, service⟩ := parts
  dsimp only at read
  split at read
  · next empty =>
      split at read
      · cases read
      · next unnamed =>
          cases read
          have noService := (not_or.mp (not_or.mp unnamed).2).2
          exact .inl ⟨Prod.ext (by simpa using empty) (by simpa using noService), rfl⟩
  · cases found : readHost special.isSome name with
    | error fault => simp [found, bind, Except.bind] at read
    | ok host =>
        cases numbered : readService special.join (service.getD []) with
        | error fault => simp [found, numbered, bind, Except.bind] at read
        | ok number =>
            simp only [found, numbered, bind, Except.bind, pure, Except.pure] at read
            cases read
            exact .inr ⟨host, number, rfl, rfl, rfl⟩

/-- A machine with controls behind its name is another machine. -/
theorem host_ne_of_blanks
    {special : Option (Option Nat)}
    {cs : List Char}
    {authority other : Authority}
    (read : readAuthority special cs = .ok authority)
    (longer : readAuthority special (cs ++ blanks) = .ok other) :
    other.host ≠ authority.host := by
  have noAt : '@' ∉ blanks := fun member => absurd (controls _ member) (by decide)
  have noColon : ':' ∉ blanks := fun member => absurd (controls _ member) (by decide)
  have shorterCases := readAuthority_cases read
  have longerCases := readAuthority_cases longer
  rw [cutAtLast_append noAt, cutService_append noColon] at longerCases
  generalize cutService false (cutAtLast '@' cs).2 = parts at shorterCases longerCases
  obtain ⟨name, service⟩ := parts
  intro same
  cases service with
  | some service =>
      rcases longerCases with ⟨none?, -⟩ | ⟨host, number, -, -, numbered⟩
      · simp at none?
      · exact readService_append_blanks controls nonempty numbered
  | none =>
      rcases longerCases with ⟨none?, -⟩ | ⟨host, number, named, found, -⟩
      · simp [nonempty] at none?
      obtain ⟨ordinary, rfl⟩ := readHost_append_blanks controls nonempty found
      rcases shorterCases with ⟨-, unnamed⟩ | ⟨shorter, -, kept, taken, -⟩
      · cases named.symm.trans (same.trans unnamed)
      · cases kept.symm.trans (same.symm.trans named)
        rw [ordinary] at taken
        have whole := name_of_readHost taken
        simp [encode_append, encode_ne_nil inControls nonempty] at whole

/-- A name with controls at its end is not the name of a drive. -/
theorem not_isDrive_append_blanks
    {cs : List Char} :
    ¬isDrive (cs ++ blanks) = true := by
  obtain ⟨c, last, control⟩ := exists_control controls nonempty cs
  intro drive
  unfold isDrive at drive
  split at drive
  · next letter mark shape =>
      obtain rfl : mark = c := by simpa [shape] using last
      have noColon : mark ≠ ':' := ne_of_isControl control rfl
      have noBar : mark ≠ '|' := ne_of_isControl control rfl
      simp [noColon, noBar] at drive
  · cases drive

/-! ## Addresses behind blanks -/

theorem begins_blanks
    (special : Bool)
    (below : List Char) :
    ∃ c ∈ (blanks ++ below).head?, isSlash special c = false := by
  refine ⟨blanks.head nonempty, ?_, isSlash_of_isControl (controls _ (List.head_mem nonempty)) _⟩
  rw [List.head?_append, List.head?_eq_some_head nonempty]
  rfl

variable
  {below : List Char}
  (plain : IsPlainPath below)

include plain

/-- A path that goes on behind a blank is not the path in front of the blank with the rest. -/
theorem readPath_ne_of_blanks
    (special : Bool)
    (cs : List Char) :
    readPath special (cs ++ (blanks ++ below)) ≠
      Text.withoutEnd (· == '/') (readPath special cs) ++ below := by
  intro same
  rw [← List.append_assoc, readPath_append special _ plain] at same
  have shorter := (Text.withoutEnd_prefix (· == '/') (readPath special cs)).length_le
  have longer := length_readPath_lt controls nonempty special cs
  rw [← List.append_cancel_right same] at shorter
  omega

omit nonempty in
/-- A name ends with its first slash, or goes on with the blanks behind it. -/
theorem names_of_blanks
    (special : Bool)
    (inner : List Char) :
    (inner ++ (blanks ++ below)).takeWhile (!isSlash special ·) =
        inner.takeWhile (!isSlash special ·) ∨
      inner.takeWhile (!isSlash special ·) = inner ∧
        (inner ++ (blanks ++ below)).takeWhile (!isSlash special ·) = inner ++ blanks := by
  by_cases unslashed : inner.takeWhile (!isSlash special ·) = inner
  · have whole : ∀ c ∈ inner ++ blanks, (!isSlash special c) = true := by
      intro c member
      rcases List.mem_append.mp member with front | back
      · exact List.takeWhile_eq_self_iff.mp unslashed c front
      · rw [isSlash_of_isControl (controls c back) special]
        rfl
    obtain ⟨rest, rfl⟩ := List.head?_eq_some_iff.mp plain.slashed
    refine .inr ⟨unslashed, ?_⟩
    rw [← List.append_assoc, List.takeWhile_append_of_pos whole,
      List.takeWhile_cons_of_neg (by simp [isSlash]), List.append_nil]
  · refine .inl ?_
    rw [List.takeWhile_append, if_neg]
    exact fun same => unslashed ((List.takeWhile_prefix _).eq_of_length same)

/-- What is of a kind and goes on behind a blank does not go on as what stands in front of it. -/
theorem Kind.not_below_of_blanks
    (kind : Kind)
    {cs path other : List Char}
    {authority machine : Authority}
    (read : kind.read cs = .ok (authority, path))
    (longer : kind.read (cs ++ (blanks ++ below)) = .ok (machine, other)) :
    machine.host ≠ authority.host ∨ other ≠ Text.withoutEnd (· == '/') path ++ below := by
  have leaves := readPath_ne_of_blanks controls nonempty plain
  cases kind with
  | file =>
      right
      dsimp only [Kind.read] at read longer
      rcases names_of_blanks controls plain true cs with same | ⟨-, further⟩
      · rw [same] at longer
        split at read
        · next drive =>
            rw [if_pos drive] at longer
            cases read
            cases longer
            exact leaves true cs
        · next noDrive =>
            rw [if_neg noDrive] at longer
            rw [(routed_of_ok read).2, (routed_of_ok longer).2,
              drop_append_of_prefix (List.takeWhile_prefix _)]
            exact leaves true _
      · rw [further, if_neg (not_isDrive_append_blanks controls nonempty)] at longer
        exact absurd (routed_of_ok longer).1 (readFileHost_append_blanks controls nonempty)
  | named special =>
      obtain ⟨shorterMachine, shorterPath⟩ := routed_of_ok read
      obtain ⟨longerMachine, longerPath⟩ := routed_of_ok longer
      rcases names_of_blanks controls plain special.isSome cs with same | ⟨whole, further⟩
      · right
        rw [shorterPath, longerPath, same, drop_append_of_prefix (List.takeWhile_prefix _)]
        exact leaves special.isSome _
      · left
        rw [whole] at shorterMachine
        rw [further] at longerMachine
        exact host_ne_of_blanks controls nonempty shorterMachine longerMachine
  | path special =>
      cases read
      cases longer
      exact .inr (leaves special cs)
  | plain =>
      right
      cases read
      cases longer
      rw [encode_append, encode_append, encode_inControls_of_plain plain, ← List.append_assoc]
      intro same
      have shorter := (Text.withoutEnd_prefix (· == '/') (encode inControls cs)).length_le
      have more := List.length_pos_iff.mpr (encode_ne_nil inControls nonempty)
      rw [← List.append_cancel_right same, List.length_append] at shorter
      omega

/-- An address that goes on behind a blank does not go on as the address in front of it. -/
theorem not_below_of_blanks
    {scheme rest path other : List Char}
    {authority machine : Authority}
    (read : readHierarchy scheme rest = .ok (authority, path))
    (longer : readHierarchy scheme (rest ++ (blanks ++ below)) = .ok (machine, other)) :
    machine.host ≠ authority.host ∨ other ≠ Text.withoutEnd (· == '/') path ++ below := by
  have same := takeWhile_slash_append_of_head
    (begins_blanks controls nonempty (special? scheme).isSome below) rest
  rw [readHierarchy_eq] at read longer
  rw [kindOf_append same, inner_append same] at longer
  exact Kind.not_below_of_blanks controls nonempty plain _ read longer

end

end Url
end ThreatIntel
