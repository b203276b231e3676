import Mathlib.Data.List.DropRight
import ThreatIntel.Proofs.Url.Bases
import ThreatIntel.Proofs.Url.Form

/-!
# What an address and its path end with

Blanks, controls and slashes at the end of a text are read in one way there, and in another way
where something follows. Something visible behind a text keeps the blanks and controls at its end.
A path behind a path goes on behind what that path is kept as where it does not end; this is the
path without its slashes at the end only if it neither ends with a slash nor leaves an empty step in
front of a last point.
-/

namespace ThreatIntel

namespace Text

/-- A text loses nothing at its end if the last character is not dropped. -/
theorem withoutEnd_eq_self_iff
    {dropped : Char → Bool}
    {cs : List Char} :
    withoutEnd dropped cs = cs ↔ ∀ c ∈ cs.getLast?, dropped c = false := by
  refine List.rdropWhile_eq_self_iff.trans ⟨?_, ?_⟩
  · rintro stays c last
    obtain ⟨nonempty, rfl⟩ := List.mem_getLast?_eq_getLast last
    exact Bool.eq_false_iff.mpr (stays nonempty)
  · intro ends nonempty
    exact Bool.eq_false_iff.mp (ends _ (List.getLast?_eq_some_getLast nonempty))

/-- What the end of a text loses is the row of dropped characters there. -/
theorem withoutEnd_append_takeWhile
    (dropped : Char → Bool)
    (cs : List Char) :
    withoutEnd dropped cs ++ (cs.reverse.takeWhile dropped).reverse = cs := by
  rw [withoutEnd, ← List.reverse_append, List.takeWhile_append_dropWhile, List.reverse_reverse]

/-- A row of dropped characters is dropped from the end. -/
theorem withoutEnd_append_of_forall
    {dropped : Char → Bool}
    {rest : List Char}
    (lost : ∀ c ∈ rest, dropped c = true)
    (cs : List Char) :
    withoutEnd dropped (cs ++ rest) = withoutEnd dropped cs := by
  rw [withoutEnd, withoutEnd, List.reverse_append, List.dropWhile_append_of_pos]
  exact fun c member => lost c (List.mem_reverse.mp member)

@[simp] theorem withoutEnd_withoutEnd (dropped : Char → Bool) (cs : List Char) :
    withoutEnd dropped (withoutEnd dropped cs) = withoutEnd dropped cs :=
  List.rdropWhile_idempotent dropped cs

/-- A text is cut where it was cut before, whatever is written behind it. -/
theorem cutAt_append_of_some
    {separator : Char}
    {cs front back : List Char}
    (cut : cutAt separator cs = (front, some back))
    (rest : List Char) :
    cutAt separator (cs ++ rest) = (front, some (back ++ rest)) := by
  induction cs generalizing front with
  | nil => cases cut
  | cons c cs inductionHypothesis =>
      rw [List.cons_append]
      by_cases other : c = separator
      · subst other
        rw [cutAt_cons_self] at cut ⊢
        cases cut
        rfl
      · rw [cutAt_cons_of_ne other] at cut ⊢
        obtain ⟨rfl, tail⟩ := Prod.mk.inj cut
        rw [inductionHypothesis (Prod.ext rfl tail)]

/-- A text that is not cut does not hold the separator. -/
theorem notMem_of_cutAt
    {separator : Char}
    {cs front : List Char}
    (uncut : cutAt separator cs = (front, none)) :
    separator ∉ cs ∧ front = cs := by
  have absent : separator ∉ cs := by
    intro member
    obtain ⟨first, second, rfl, before⟩ := List.eq_append_cons_of_mem member
    rw [cutAt_append before] at uncut
    cases uncut
  rw [cutAt_of_notMem absent] at uncut
  exact ⟨absent, (Prod.mk.inj uncut).1.symm⟩

end Text

namespace Url

/-! ## Controls and blanks -/

/-- Characters that are dropped from the ends of an address. -/
def isControl (c : Char) : Bool :=
  decide (c.toNat ≤ 0x20)

/-- Characters that are kept in an address, unless they are dropped from its ends. -/
def isKept (c : Char) : Bool :=
  decide (c ≠ '\t' ∧ c ≠ '\n' ∧ c ≠ '\x0d')

/-- Controls and blanks at the end of a text that would be kept in front of something visible. -/
def keptEnd (cs : List Char) : List Char :=
  (cs.reverse.takeWhile isControl).reverse.filter isKept

theorem cleaned_eq (cs : List Char) :
    cleaned cs = (Text.withoutEnd isControl (cs.dropWhile isControl)).filter isKept := rfl

theorem isKept_of_visible
    {c : Char}
    (visible : isControl c = false) :
    isKept c = true := by
  unfold isControl at visible
  refine decide_eq_true ⟨?_, ?_, ?_⟩ <;>
  · rintro rfl
    exact absurd visible (by decide)

theorem isControl_of_mem_keptEnd
    {c : Char}
    {cs : List Char}
    (member : c ∈ keptEnd cs) :
    isControl c = true :=
  List.mem_takeWhile_imp (List.mem_reverse.mp (List.mem_filter.mp member).1)

/-- The controls at the end of a text are those at the end of its rest, if there is one. -/
theorem keptEnd_dropWhile
    {cs : List Char}
    (visible : cs.dropWhile isControl ≠ []) :
    keptEnd (cs.dropWhile isControl) = keptEnd cs := by
  have stops : ¬((cs.dropWhile isControl).reverse.takeWhile isControl).length =
      (cs.dropWhile isControl).reverse.length := by
    intro whole
    have all := List.takeWhile_eq_self_iff.mp
      ((List.takeWhile_prefix isControl).eq_of_length whole)
    have first := List.head_dropWhile_not isControl visible
    rw [all _ (List.mem_reverse.mpr (List.head_mem visible))] at first
    cases first
  have shape : cs.reverse =
      (cs.dropWhile isControl).reverse ++ (cs.takeWhile isControl).reverse := by
    rw [← List.reverse_append, List.takeWhile_append_dropWhile]
  rw [keptEnd, keptEnd, shape, List.takeWhile_append, if_neg stops]

/-- Something visible behind a text keeps the text with what stands at its end. -/
theorem cleaned_append
    {front rest : List Char}
    (kept : cleaned front ≠ [])
    (visible : ∀ c ∈ rest, isControl c = false)
    (nonempty : rest ≠ []) :
    cleaned (front ++ rest) = cleaned front ++ (keptEnd front ++ rest) := by
  have started : front.dropWhile isControl ≠ [] := by
    intro empty
    refine kept ?_
    rw [cleaned_eq, empty]
    rfl
  have whole : rest.filter isKept = rest :=
    List.filter_eq_self.mpr fun c member => isKept_of_visible (visible c member)
  have last : ∃ c ∈ (front.dropWhile isControl ++ rest).getLast?, isControl c = false := by
    refine ⟨rest.getLast nonempty, ?_, visible _ (List.getLast_mem nonempty)⟩
    rw [List.getLast?_append, List.getLast?_eq_some_getLast nonempty]
    rfl
  have inner : (front.dropWhile isControl).filter isKept = cleaned front ++ keptEnd front := by
    rw [← keptEnd_dropWhile started, cleaned_eq, keptEnd, ← List.filter_append,
      Text.withoutEnd_append_takeWhile]
  rw [cleaned_eq, List.dropWhile_append, if_neg (by simpa using started),
    Text.withoutEnd_of_last last, List.filter_append, whole, inner, List.append_assoc]

/-! ## Steps that go on -/

theorem encodeChar_ne_nil (c : Char) : encodeChar c ≠ [] := by
  intro empty
  have bytes : String.utf8EncodeChar c = [] := by
    cases shape : String.utf8EncodeChar c with
    | nil => rfl
    | cons byte rest => simp [encodeChar, encodeByte, shape] at empty
  exact String.utf8EncodeChar_ne_nil bytes

/-- What is encoded ends with a slash only where it did before. -/
theorem exists_getLast?_encode
    (among : Char → Bool)
    {cs : List Char}
    (ends : ∃ c ∈ cs.getLast?, c ≠ '/') :
    ∃ c ∈ (encode among cs).getLast?, (c == '/') = false := by
  obtain ⟨d, last, other⟩ := ends
  obtain ⟨others, rfl⟩ := List.getLast?_eq_some_iff.mp last
  have split : encode among (others ++ [d]) =
      encode among others ++ if among d then encodeChar d else [d] := by
    simp [encode]
  have nonempty : (if among d then encodeChar d else [d]) ≠ [] := by
    split
    · exact encodeChar_ne_nil d
    · simp
  have clean : ∀ c ∈ if among d then encodeChar d else [d], c ≠ '/' := by
    intro c member
    split at member
    · rcases mem_encodeChar member with rfl | ⟨letter, -⟩
      · decide
      · rintro rfl
        exact absurd letter (by decide)
    · exact List.mem_singleton.mp member ▸ other
  refine ⟨_, ?_, beq_eq_false_iff_ne.mpr (clean _ (List.getLast_mem nonempty))⟩
  rw [split, List.getLast?_append, List.getLast?_eq_some_getLast nonempty]
  rfl

/-- A slash that is not encoded stays at the end, and none comes there. -/
theorem slash_mem_getLast?_encode
    {among : Char → Bool}
    (kept : among '/' = false)
    {cs : List Char} :
    '/' ∈ (encode among cs).getLast? ↔ '/' ∈ cs.getLast? := by
  constructor
  · intro slash
    by_contra other
    have nonempty : cs ≠ [] := by
      rintro rfl
      cases slash
    obtain ⟨c, last, plain⟩ := exists_getLast?_encode among
      ⟨_, List.getLast?_eq_some_getLast nonempty, fun same =>
        other (same ▸ List.getLast?_eq_some_getLast nonempty)⟩
    rw [Option.mem_def.mp last] at slash
    cases slash
    cases plain
  · intro slash
    obtain ⟨front, rfl⟩ := List.getLast?_eq_some_iff.mp slash
    simp [encode, kept]

/-- The last step of a path is a point, and leaves an empty step behind what a path that goes on is
kept as, or it is kept in both cases. -/
theorem resolve_singleton
    (taken : List (List Char))
    (last : List Char) :
    (last ≠ [] ∧ enter taken [last] <:+ taken ∧
        resolve taken [last] = (enter taken [last]).reverse ++ [[]]) ∨
      enter taken [last] = encode inPath last :: taken ∧
        resolve taken [last] = (enter taken [last]).reverse := by
  simp only [resolve, enter, List.isEmpty_nil, if_true]
  split
  · next double =>
      refine .inl ⟨?_, List.tail_suffix taken, by simp⟩
      rintro rfl
      exact absurd double (by decide)
  · split
    · next single =>
        refine .inl ⟨?_, List.suffix_refl taken, by simp⟩
        rintro rfl
        exact absurd single (by decide)
    · exact .inr ⟨rfl, rfl⟩

/-- What comes first in a path is kept before what follows is read. -/
theorem enter_append
    (front rest : List (List Char))
    (taken : List (List Char)) :
    enter taken (front ++ rest) = enter (enter taken front) rest := by
  induction front generalizing taken with
  | nil => rfl
  | cons step front inductionHypothesis =>
      simp only [List.cons_append, enter]
      split
      · exact inductionHypothesis _
      · split
        · exact inductionHypothesis _
        · exact inductionHypothesis _

theorem resolve_concat
    (front : List (List Char))
    (last : List Char)
    (taken : List (List Char)) :
    resolve taken (front ++ [last]) = resolve (enter taken front) [last] := by
  induction front generalizing taken with
  | nil => rfl
  | cons step front inductionHypothesis =>
      have goesOn : (front ++ [last]).isEmpty = false := by simp
      rw [List.cons_append, resolve, enter]
      simp only [goesOn, Bool.false_eq_true, if_false, inductionHypothesis]
      split
      · rfl
      · split <;> rfl

/-- The last step of a text, and how it goes on. -/
theorem exists_splitOn_append (cs : List Char) :
    ∃ front last, last <:+ cs ∧ '/' ∉ last ∧ (last = [] → cs = [] ∨ '/' ∈ cs.getLast?) ∧
      ∀ more, '/' ∉ more → (cs ++ more).splitOn '/' = front ++ [last ++ more] := by
  by_cases inside : '/' ∈ cs
  · obtain ⟨back, front, shape, absent⟩ :=
      List.eq_append_cons_of_mem (List.mem_reverse.mpr inside)
    obtain rfl : cs = front.reverse ++ '/' :: back.reverse := by
      rw [← List.reverse_reverse cs, shape]
      simp
    refine ⟨front.reverse.splitOn '/', back.reverse, ⟨front.reverse ++ ['/'], by simp⟩,
      by simpa using absent, ?_, fun more plain => ?_⟩
    · intro empty
      rw [empty]
      exact .inr (by simp)
    · have single : (back.reverse ++ more).splitOn '/' = [back.reverse ++ more] :=
        List.splitOn_eq_singleton (by simp [plain, absent])
      rw [List.append_assoc, List.cons_append, List.splitOn_append_cons_self, single]
  · refine ⟨[], cs, List.suffix_refl cs, inside, .inl, fun more plain => ?_⟩
    rw [List.splitOn_eq_singleton (by simp [plain, inside]), List.nil_append]

theorem slash_mem_getLast?_slashed
    {special : Bool}
    {cs : List Char} :
    '/' ∈ (slashed special cs).getLast? ↔ ∃ c ∈ cs.getLast?, isSlash special c = true := by
  rw [slashed, List.getLast?_map, Option.mem_def, Option.map_eq_some_iff]
  constructor
  · rintro ⟨c, last, same⟩
    refine ⟨c, last, ?_⟩
    split at same
    · assumption
    · rw [same]
      rfl
  · rintro ⟨c, last, slash⟩
    exact ⟨c, last, if_pos slash⟩

theorem getLast?_of_suffix
    {back cs : List Char}
    (suffix : back <:+ cs)
    {c : Char}
    (last : c ∈ back.getLast?) :
    c ∈ cs.getLast? := by
  obtain ⟨front, rfl⟩ := suffix
  rw [List.getLast?_append, Option.mem_def.mp last]
  rfl

theorem slashed_append_of_forall
    {special : Bool}
    {more : List Char}
    (plain : ∀ c ∈ more, isSlash special c = false)
    (cs : List Char) :
    slashed special (cs ++ more) = slashed special cs ++ more := by
  have same : slashed special more = more :=
    (List.map_congr_left fun c member => if_neg (by simp [plain c member])).trans (List.map_id more)
  conv =>
    rhs
    rw [← same]
  exact List.map_append

/-- The last step of a path, and how it goes on. -/
theorem exists_frontSteps_append
    (special : Bool)
    (cs : List Char) :
    ∃ front last, '/' ∉ last ∧
      (last = [] ↔ cs = [] ∨ ∃ c ∈ cs.getLast?, isSlash special c = true) ∧
      ∀ more, (∀ c ∈ more, isSlash special c = false) → cs ++ more ≠ [] →
        frontSteps special (cs ++ more) = front ++ [last ++ more] := by
  -- The first slash of a path begins its first step.
  obtain ⟨core, suffix, alone, steps⟩ : ∃ core, core <:+ slashed special cs ∧
      (core = [] → cs = [] ∨ '/' ∈ (slashed special cs).getLast?) ∧
      ∀ more, (∀ c ∈ more, isSlash special c = false) → cs ++ more ≠ [] →
        frontSteps special (cs ++ more) = (core ++ more).splitOn '/' := by
    have goesOn : ∀ more, (∀ c ∈ more, isSlash special c = false) → cs ++ more ≠ [] →
        frontSteps special (cs ++ more) = (if (slashed special cs ++ more).head? = some '/' then
          (slashed special cs ++ more).drop 1 else slashed special cs ++ more).splitOn '/' := by
      intro more plain nonempty
      rw [frontSteps, if_neg (by simpa using nonempty), slashed_append_of_forall plain]
    cases shape : slashed special cs with
    | nil =>
        obtain rfl := List.map_eq_nil_iff.mp shape
        refine ⟨[], List.suffix_refl _, fun _ => .inl rfl, fun more plain nonempty => ?_⟩
        have other : ¬more.head? = some '/' := fun slash =>
          Bool.noConfusion (plain '/' (List.mem_of_mem_head? slash))
        rw [goesOn more plain nonempty, shape, List.nil_append, if_neg other]
    | cons first rest =>
        rw [shape] at goesOn
        by_cases slash : first = '/'
        · subst slash
          refine ⟨rest, List.suffix_cons _ rest, ?_, fun more plain nonempty => ?_⟩
          · rintro rfl
            exact .inr rfl
          · rw [goesOn more plain nonempty]
            rfl
        · refine ⟨first :: rest, List.suffix_refl _, by simp, fun more plain nonempty => ?_⟩
          rw [goesOn more plain nonempty, List.cons_append, List.head?_cons,
            if_neg (by simpa using slash)]
  obtain ⟨front, last, ends, absent, empty, split⟩ := exists_splitOn_append core
  refine ⟨front, last, absent, ?_, fun more plain nonempty => ?_⟩
  · rw [← slash_mem_getLast?_slashed]
    constructor
    · intro none?
      rcases empty none? with whole | final
      · exact alone whole
      · exact .inr (getLast?_of_suffix suffix final)
    · rintro (rfl | final)
      · exact List.suffix_nil.mp (ends.trans suffix)
      · by_contra some?
        have same := getLast?_of_suffix (ends.trans suffix) (List.getLast?_eq_some_getLast some?)
        rw [Option.mem_def.mp final] at same
        exact absent (Option.some.inj same ▸ List.getLast_mem some?)
  · rw [steps more plain nonempty, split more]
    intro member
    exact Bool.noConfusion (plain _ member)

/-! ## Paths that go on -/

theorem readPath_of_ne_nil
    {special : Bool}
    {cs : List Char}
    (nonempty : cs ≠ []) :
    readPath special cs =
      (resolve [] (frontSteps special cs)).flatMap fun step => '/' :: step := by
  have visible : ¬(cs.isEmpty = true ∧ special = false) := by simp [nonempty]
  have some? : ¬cs.isEmpty = true := by simpa using nonempty
  rw [readPath, if_neg visible, frontSteps, if_neg some?]
  rfl

theorem slashes_suffix_concat_iff
    {cs : List Char} :
    ['/', '/'] <:+ cs ++ ['/'] ↔ '/' ∈ cs.getLast? := by
  constructor
  · rintro ⟨front, shape⟩
    have same : front ++ ['/'] ++ ['/'] = cs ++ ['/'] := by simpa using shape
    rw [← List.append_cancel_right same]
    exact List.getLast?_concat
  · intro last
    obtain ⟨front, rfl⟩ := List.getLast?_eq_some_iff.mp last
    exact ⟨front, by simp⟩

/-- A path that goes on is kept as the path is without its slashes at the end, exactly if the path
does not end with a slash, and leaves no empty step in front of a last point. -/
theorem withoutEnd_readPath_iff
    {special : Bool}
    {cs : List Char} :
    Text.withoutEnd (· == '/') (readPath special cs) = keptFront special cs ↔
      (∀ c ∈ cs.getLast?, isSlash special c = false) ∧ ¬['/', '/'] <:+ readPath special cs := by
  by_cases nonempty : cs = []
  · subst nonempty
    cases special with
    | false => exact iff_of_true rfl ⟨by simp, show ¬['/', '/'] <:+ [] by decide⟩
    | true => exact iff_of_true rfl ⟨by simp, show ¬['/', '/'] <:+ ['/'] by decide⟩
  obtain ⟨front, last, absent, empty, goesOn⟩ := exists_frontSteps_append special cs
  have parts := goesOn [] (by simp)
  rw [List.append_nil, List.append_nil] at parts
  have ends : (∀ c ∈ cs.getLast?, isSlash special c = false) ↔ last ≠ [] := by
    rw [Ne, empty]
    simp [nonempty]
  rw [readPath_of_ne_nil nonempty, keptFront, parts nonempty, resolve_concat, enter_append, ends]
  rcases resolve_singleton (enter [] front) last with ⟨visible, -, pointed⟩ | ⟨kept, whole⟩
  · rw [pointed, List.flatMap_append, List.flatMap_singleton, slashes_suffix_concat_iff,
      Text.withoutEnd_append_of_forall (by simp), Text.withoutEnd_eq_self_iff]
    refine ⟨fun plain => ⟨visible, fun slash => Bool.noConfusion (plain '/' slash)⟩, ?_⟩
    rintro ⟨-, plain⟩ c final
    refine beq_eq_false_iff_ne.mpr ?_
    rintro rfl
    exact plain final
  · rw [whole, kept, List.reverse_cons, List.flatMap_append, List.flatMap_singleton,
      Text.withoutEnd_eq_self_iff]
    by_cases some? : last = []
    · refine iff_of_false (fun plain => ?_) fun both => both.1 some?
      subst some?
      exact Bool.noConfusion (plain '/' (by simp))
    · have noSlash : last.getLast some? ≠ '/' :=
        fun slash => absent (slash ▸ List.getLast_mem some?)
      obtain ⟨c, final, other⟩ := exists_getLast?_encode inPath
        ⟨_, List.getLast?_eq_some_getLast some?, noSlash⟩
      have last? : ∀ before : List Char,
          (before ++ '/' :: encode inPath last).getLast? = some c := by
        intro before
        simp [List.getLast?_append, List.getLast?_cons, Option.mem_def.mp final]
      refine iff_of_true ?_ ⟨some?, ?_⟩
      · rw [last?]
        rintro _ ⟨⟩
        exact other
      · intro double
        have slash := getLast?_of_suffix double rfl
        rw [last?] at slash
        cases slash
        cases other

/-! ## Controls in paths -/

/-- A control has no case, is no digit and may not stand in a domain. -/
theorem isControl_spec
    {c : Char}
    (control : isControl c = true) :
    c.toLower = c ∧ c.isDigit = false ∧ Text.hexValue? c = none ∧
      isForbiddenInDomain c = true := by
  have below : c.toNat < 33 := Nat.lt_succ_of_le (of_decide_eq_true control)
  apply Text.holds_of_table below
  decide

theorem ne_of_isControl
    {c d : Char}
    (control : isControl c = true)
    (visible : isControl d = false) :
    c ≠ d := by
  rintro rfl
  exact Bool.noConfusion (control.symm.trans visible)

theorem isSlash_of_isControl
    {c : Char}
    (control : isControl c = true)
    (special : Bool) :
    isSlash special c = false := by
  have noSlash : c ≠ '/' := ne_of_isControl control rfl
  have noBackslash : c ≠ '\\' := ne_of_isControl control rfl
  simp [isSlash, noSlash, noBackslash]

/-- A step that ends with a control is none of the words that do not. -/
theorem contains_eq_false_of_control
    {step : List Char}
    (control : ∃ c ∈ step.getLast?, isControl c = true)
    {words : List String}
    (visible : words.all (fun word => !word.toList.getLast?.any isControl) = true) :
    words.contains (String.ofList (step.map Char.toLower)) = false := by
  rw [List.contains_eq_mem, decide_eq_false_iff_not]
  intro member
  obtain ⟨c, last, kind⟩ := control
  have plain := List.all_eq_true.mp visible _ member
  rw [String.toList_ofList, List.getLast?_map, Option.mem_def.mp last] at plain
  simp [(isControl_spec kind).1, kind] at plain

/-- A step that ends with a control is kept as a step. -/
theorem enter_of_control
    {step : List Char}
    (control : ∃ c ∈ step.getLast?, isControl c = true)
    (taken : List (List Char)) :
    enter taken [step] = encode inPath step :: taken := by
  have noDouble : isDoubleDot step = false := contains_eq_false_of_control control (by decide)
  have noSingle : isSingleDot step = false := contains_eq_false_of_control control (by decide)
  simp [enter, noDouble, noSingle]

theorem encode_append (among : Char → Bool) (front back : List Char) :
    encode among (front ++ back) = encode among front ++ encode among back :=
  List.flatMap_append

theorem encode_ne_nil
    (among : Char → Bool)
    {cs : List Char}
    (nonempty : cs ≠ []) :
    encode among cs ≠ [] := by
  obtain ⟨c, rest, rfl⟩ := List.exists_cons_of_ne_nil nonempty
  rw [encode, List.flatMap_cons]
  refine List.append_ne_nil_of_left_ne_nil ?_ _
  split
  · exact encodeChar_ne_nil c
  · simp

theorem encode_inControls_of_plain
    {path : List Char}
    (plain : IsPlainPath path) :
    encode inControls path = path := by
  refine encode_of_forall fun c member => ?_
  have kept := (isStepChar_spec (plain.spelled c member)).2.2.1
  simp only [inPath, inFragment, Bool.or_eq_false_iff] at kept
  exact kept.1.1

/-- A path that goes on with controls is kept with them, and so as more than the path alone. -/
theorem length_readPath_lt
    {blanks : List Char}
    (controls : ∀ c ∈ blanks, isControl c = true)
    (nonempty : blanks ≠ [])
    (special : Bool)
    (cs : List Char) :
    (readPath special cs).length < (keptFront special (cs ++ blanks)).length := by
  obtain ⟨front, last, absent, empty, goesOn⟩ := exists_frontSteps_append special cs
  have longer := goesOn blanks (fun c member => isSlash_of_isControl (controls c member) special)
    (by simp [nonempty])
  have final : ∃ c ∈ (last ++ blanks).getLast?, isControl c = true := by
    refine ⟨blanks.getLast nonempty, ?_, controls _ (List.getLast_mem nonempty)⟩
    rw [List.getLast?_append, List.getLast?_eq_some_getLast nonempty]
    rfl
  have more := List.length_pos_iff.mpr (encode_ne_nil inPath nonempty)
  rw [keptFront, longer, enter_append, enter_of_control final, List.reverse_cons,
    List.flatMap_append, List.flatMap_singleton, List.length_append, List.length_cons,
    encode_append, List.length_append]
  by_cases none? : cs = []
  · subst none?
    have short : (readPath special []).length ≤ 1 := by cases special <;> decide
    omega
  have parts := goesOn [] (by simp) (by simp [none?])
  rw [List.append_nil, List.append_nil] at parts
  rw [readPath_of_ne_nil none?, parts, resolve_concat]
  rcases resolve_singleton (enter [] front) last with ⟨-, ⟨dropped, shape⟩, pointed⟩ | ⟨kept, whole⟩
  · rw [pointed]
    generalize enter (enter [] front) [last] = kept at shape
    rw [← shape]
    simp
    omega
  · rw [whole, kept]
    simp
    omega

end Url
end ThreatIntel
